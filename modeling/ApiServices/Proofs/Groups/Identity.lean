import ApiServices.Proofs.Groups.Partition
import ApiServices.Proofs.Keyed.Order
import ApiServices.Proofs.Spec.Acceptance
import Mathlib.Data.List.Nodup

namespace ApiServices

/-!
# What identifies an operation

An operation is meant to be identified by its route and its verb.  A description has
each route once, and each verb of a route once, as they are spelled.  Operations have
their verbs in lowercase, so two spellings of one verb come to two operations with the
same identity, possibly in different groups.  Where no route has such spellings, the
groups keep all operations apart.
-/

namespace Operation

/-- What an operation is identified by. -/
def identity (operation : Operation) : Text × Text :=
  (operation.route, operation.verb)

end Operation

namespace Groups

/-- Whether no two operations have the same identity, in whichever groups they are. -/
def Identified (groups : Groups) : Prop :=
  (groups.operations.map Operation.identity).Nodup

instance (groups : Groups) : Decidable groups.Identified :=
  inferInstanceAs (Decidable (groups.operations.map Operation.identity).Nodup)

end Groups

namespace Spec

/-- Whether the verbs of every route are different also in lowercase. -/
def VerbsApart (spec : Spec) : Prop :=
  ∀ path ∈ spec.paths.entries, (path.2.keys.map Text.lower).Nodup

instance (spec : Spec) : Decidable spec.VerbsApart :=
  inferInstanceAs (Decidable (∀ path ∈ spec.paths.entries, (path.2.keys.map Text.lower).Nodup))

variable {spec : Spec}

theorem identities_operationsOf (route : Text) (methods : Keyed Text Details) :
    (operationsOf route methods).map Operation.identity =
      (methods.keys.map Text.lower).map fun verb => (route, verb) := by
  unfold operationsOf Keyed.keys
  rw [List.map_map, List.map_map, List.map_map]
  rfl

theorem nodup_identities_operationsOf_iff (route : Text) (methods : Keyed Text Details) :
    ((operationsOf route methods).map Operation.identity).Nodup ↔
      (methods.keys.map Text.lower).Nodup := by
  rw [identities_operationsOf]
  exact List.nodup_map_iff fun _ _ same => (Prod.mk.inj same).2

/-- Operations of different routes are never taken for each other. -/
theorem pairwise_disjoint_identities (spec : Spec) :
    spec.paths.entries.Pairwise fun first second =>
      List.Disjoint ((operationsOf first.1 first.2).map Operation.identity)
        ((operationsOf second.1 second.2).map Operation.identity) := by
  refine (List.pairwise_map.mp spec.paths.distinct).imp ?_
  intro first second apart identity here there
  rw [identities_operationsOf] at here there
  rcases List.mem_map.mp here with ⟨_, _, same⟩
  rcases List.mem_map.mp there with ⟨_, _, alsoSame⟩
  exact apart (Prod.mk.inj (same.trans alsoSame.symm)).1

theorem nodup_identities_operations_iff :
    (spec.operations.map Operation.identity).Nodup ↔ spec.VerbsApart := by
  unfold operations
  rw [List.map_flatMap, List.nodup_flatMap, and_iff_left (pairwise_disjoint_identities spec)]
  exact forall₂_congr fun path _ => nodup_identities_operationsOf_iff path.1 path.2

/-- A description is grouped so that no two operations have the same route and the same
verb just where none of its routes has two spellings of one verb. -/
theorem identified_group_iff (ε : Type) (spec : Spec) :
    (spec.group : Logged ε Groups).outcome = .ok spec.groups ∧
      (spec.groups.Identified ↔ spec.VerbsApart) := by
  refine ⟨rfl, ?_⟩
  have complete := (Groups.partition_ofOperations spec.operations).complete
  exact (complete.map Operation.identity).nodup_iff.trans nodup_identities_operations_iff

/-- The sign of the unit kelvin is another spelling of the letter. -/
example : ¬Spec.VerbsApart ⟨none, none, Keyed.ofList
    [("/a".toList, Keyed.ofList [("link".toList, .bare), ("lin\u212A".toList, .bare)])]⟩ := by
  decide +kernel

/-- One verb in two spellings makes two operations that nothing tells apart. -/
theorem operations_not_always_identified :
    ¬forall (format : SpecFormat) (text : Text) (spec : Spec),
      (format.read text).outcome = .ok spec -> spec.groups.Identified := by
  intro always
  have read : (SpecFormat.json.read <|
      "\x7b\"paths\":\x7b\"/pets\":\x7b\"get\":\x7b\x7d,\"GET\":\x7b\x7d\x7d\x7d\x7d".toList
      ).outcome = .ok ⟨none, none, Keyed.ofList
          [("/pets".toList, Keyed.ofList [("get".toList, .bare), ("GET".toList, .bare)])]⟩ := by
    decide +kernel
  exact absurd (always .json _ _ read) (by decide +kernel)

end Spec
end ApiServices
