import ApiServices.Proofs.Fixture.Repetition
import ApiServices.Proofs.Keyed.Order

namespace ApiServices
namespace FixtureSet

/-!
# Merging batch after batch

A merge takes the names of its batch out of the set and puts them behind the
others.  So the order after many merges is decided by the last batch that has a
name, and within this batch by the first place of the name; its path is the last
one that this batch has for it.  A batch may have a name many times, and what is
counted of it then is the name and not its entries.

The counts of a merge are differences.  Both are of a number and a smaller one:
nothing that was kept is new, and no name gets lost.
-/

/-- The entries after a sequence of merges. -/
def mergedAll (set : FixtureSet) (batches : List (List (Text × Text))) : FixtureSet :=
  batches.foldl merged set

/-- Whether one of the batches has a name. -/
def named (batches : List (List (Text × Text))) (name : Text) : Bool :=
  batches.any fun batch => (Keyed.lastValue? batch name).isSome

/-- The names of batches, each where it first stands in the last batch that has
it. -/
def latestNames : List (List (Text × Text)) -> List Text
  | [] => []
  | batch :: later =>
    ((Keyed.firstKeys batch).filter fun name => !named later name) ++ latestNames later

/-- The path that the last batch with a name has for it last. -/
def latestPath? (batches : List (List (Text × Text))) (name : Text) : Option Text :=
  batches.reverse.findSome? fun batch => Keyed.lastValue? batch name

section Merging

variable (set : FixtureSet) (batch : List (Text × Text)) (batches : List (List (Text × Text)))

/-! ## One merge -/

theorem keys_untouched :
    (set.untouched batch).keys =
      set.keys.filter fun name => !(Keyed.lastValue? batch name).isSome := by
  rw [untouched, Keyed.keys_filterKeys]
  apply List.filter_congr
  intro name _
  rw [Bool.eq_iff_iff, Bool.not_eq_true', Bool.not_eq_true', ← Bool.not_eq_true,
    ← Bool.not_eq_true, Keyed.isSome_lastValue?, List.contains_iff_mem]

/-- The names of the batch follow those that stay. -/
theorem keys_merged :
    (set.merged batch).keys =
      (set.keys.filter fun name => !(Keyed.lastValue? batch name).isSome) ++
        Keyed.firstKeys batch := by
  rw [merged, Keyed.keys_insertAll_of_fresh, keys_untouched]
  intro entry inside member
  rw [keys_untouched, List.mem_filter, Bool.not_eq_true', ← Bool.not_eq_true,
    Keyed.isSome_lastValue?] at member
  exact member.2 (List.mem_map_of_mem inside)

theorem get?_merged (name : Text) :
    (set.merged batch).get? name = (Keyed.lastValue? batch name).or (set.get? name) := by
  rw [merged, Keyed.get?_insertAll, untouched, Keyed.get?_filterKeys]
  cases given : Keyed.lastValue? batch name with
  | some path => rfl
  | none =>
    have absent : name ∉ batch.map Prod.fst := by
      rw [← Keyed.isSome_lastValue?, given]
      exact Bool.false_ne_true
    rw [if_pos]
    rwa [Bool.not_eq_true', ← Bool.not_eq_true, List.contains_iff_mem]

theorem size_untouched_le : (set.untouched batch).size ≤ set.size :=
  List.length_filter_le _ _

theorem size_eq_length_keys : set.size = set.keys.length :=
  (List.length_map _).symm

/-- What is replaced was there, under a name of the batch. -/
theorem size_le_size_merged : set.size ≤ (set.merged batch).size := by
  rw [size_eq_length_keys, size_eq_length_keys]
  apply List.Nodup.length_le_of_subset set.nodup_keys
  intro name member
  rw [keys_merged, List.mem_append, List.mem_filter, Keyed.mem_firstKeys,
    ← Keyed.isSome_lastValue?]
  cases (Keyed.lastValue? batch name).isSome with
  | true => exact Or.inr rfl
  | false => exact Or.inl ⟨member, rfl⟩

theorem size_merged :
    (set.merged batch).size = (set.untouched batch).size + (Keyed.firstKeys batch).length := by
  rw [size_eq_length_keys, size_eq_length_keys, keys_merged, keys_untouched, List.length_append]

/-- What a merge records of its counts, and how they add up. -/
structure Counted (ε : Type) : Prop where
  records : (merge set batch : Logged ε FixtureSet).records =
    [⟨.debug, "fixture merge: kept ".toList ++ Text.ofNat (set.mergeCounts batch).kept ++
      ", replaced ".toList ++ Text.ofNat (set.mergeCounts batch).replaced ++
      ", added ".toList ++ Text.ofNat (set.mergeCounts batch).added⟩]
  earlier : (set.mergeCounts batch).kept + (set.mergeCounts batch).replaced = set.size
  names : (set.mergeCounts batch).replaced + (set.mergeCounts batch).added =
    (Keyed.firstKeys batch).length
  /-- None of the two differences is cut off at zero. -/
  differences : (set.untouched batch).size ≤ set.size ∧ set.size ≤ (set.merged batch).size

theorem counted (ε : Type) : Counted set batch ε := by
  have kept := size_untouched_le set batch
  have grown := size_le_size_merged set batch
  have total := size_merged set batch
  refine ⟨rfl, ?_, ?_, kept, grown⟩
  · change (set.untouched batch).size + (set.size - (set.untouched batch).size) = set.size
    omega
  · change (set.size - (set.untouched batch).size) + ((set.merged batch).size - set.size) = _
    omega

/-! ## Many merges -/

theorem keys_mergedAll :
    (set.mergedAll batches).keys =
      (set.keys.filter fun name => !named batches name) ++ latestNames batches := by
  induction batches generalizing set with
  | nil =>
    have all : set.keys.filter (fun name => !named [] name) = set.keys :=
      List.filter_eq_self.mpr fun _ _ => rfl
    rw [all, latestNames, List.append_nil]
    rfl
  | cons batch later ih =>
    have staying : (set.keys.filter fun name => !(Keyed.lastValue? batch name).isSome).filter
          (fun name => !named later name) =
        set.keys.filter fun name => !named (batch :: later) name := by
      rw [List.filter_filter]
      apply List.filter_congr
      intro name _
      change (!named later name && !(Keyed.lastValue? batch name).isSome) =
        !((Keyed.lastValue? batch name).isSome || named later name)
      rw [Bool.not_or, Bool.and_comm]
    change ((set.merged batch).mergedAll later).keys = _
    rw [ih, keys_merged, List.filter_append, staying, latestNames, List.append_assoc]

theorem get?_mergedAll (name : Text) :
    (set.mergedAll batches).get? name = (latestPath? batches name).or (set.get? name) := by
  induction batches generalizing set with
  | nil => rfl
  | cons batch later ih =>
    change ((set.merged batch).mergedAll later).get? name = _
    rw [ih, get?_merged, ← Option.or_assoc, latestPath?, latestPath?, List.reverse_cons,
      List.findSome?_append]
    simp

theorem mem_latestNames (name : Text) : name ∈ latestNames batches ↔ named batches name = true := by
  induction batches with
  | nil => simp [latestNames, named]
  | cons batch later ih =>
    have split : named (batch :: later) name =
        ((Keyed.lastValue? batch name).isSome || named later name) := rfl
    rw [latestNames, List.mem_append, List.mem_filter, Keyed.mem_firstKeys,
      ← Keyed.isSome_lastValue?, ih, split]
    cases named later name <;> simp

/-- What a set is after a sequence of merges. -/
structure MergedInTurn (final : FixtureSet) : Prop where
  /-- The names are those of the set and of the batches, each of them once. -/
  once : forall name, final.keys.count name =
    if name ∈ set.keys ∨ Exists fun batch => batch ∈ batches ∧ name ∈ batch.map Prod.fst then 1 else 0
  /-- A path is the last one in the last batch with the name, or the former one. -/
  paths : forall name, final.get? name = (latestPath? batches name).or (set.get? name)
  /-- Names that no batch has come first, in their order; the others follow,
  batch by batch. -/
  order : final.keys =
    (set.keys.filter fun name => !named batches name) ++ latestNames batches

theorem mergedInTurn_mergedAll : MergedInTurn set batches (set.mergedAll batches) where
  once := by
    intro name
    have member : name ∈ (set.mergedAll batches).keys ↔
        name ∈ set.keys ∨ Exists fun batch => batch ∈ batches ∧ name ∈ batch.map Prod.fst := by
      have spelled : named batches name = true ↔
          Exists fun batch => batch ∈ batches ∧ name ∈ batch.map Prod.fst := by
        simp only [named, List.any_eq_true, Keyed.isSome_lastValue?]
      rw [keys_mergedAll, List.mem_append, mem_latestNames, List.mem_filter, ← spelled]
      cases named batches name <;> simp
    rw [List.Nodup.count (Keyed.nodup_keys _)]
    simp only [member]
  paths := get?_mergedAll set batches
  order := keys_mergedAll set batches

theorem outcome_foldlM_merge (ε : Type) :
    (batches.foldlM merge set : Logged ε FixtureSet).outcome = .ok (set.mergedAll batches) := by
  induction batches generalizing set with
  | nil => rfl
  | cons batch later ih =>
    rw [List.foldlM_cons, Logged.outcome_bind]
    exact ih (set.merged batch)

/-- Merges in turn never fail and leave what the last batches say of each name,
in the order of these batches.  Merging a batch again changes nothing, and the
counts of every merge add up. -/
theorem merges_in_turn (ε : Type) :
    (batches.foldlM merge set : Logged ε FixtureSet).outcome = .ok (set.mergedAll batches) ∧
      MergedInTurn set batches (set.mergedAll batches) ∧
      (set.merged batch).merged batch = set.merged batch ∧
      Counted set batch ε :=
  ⟨outcome_foldlM_merge set batches ε, mergedInTurn_mergedAll set batches,
    merged_merged set batch, counted set batch ε⟩

end Merging

/-- A name that a batch repeats stands where it is first and has the path that
is last. -/
example :
    (mergedAll (Keyed.ofList [("a".toList, "1".toList), ("b".toList, "1".toList)])
        [[("c".toList, "2".toList), ("a".toList, "2".toList), ("c".toList, "3".toList)]]).entries =
      [("b".toList, "1".toList), ("c".toList, "3".toList), ("a".toList, "2".toList)] := by
  decide

end FixtureSet
end ApiServices
