import ApiServices.Proofs.Keyed.Insertion
import ApiServices.Spec.Basic

namespace ApiServices

/-!
# Groups as a partition

Filing operations one after the other arranges them by tag and changes nothing
else.  Every operation is in the group of its tag and in no other, each group
has its operations in the order in which they came in, and the groups stand in
the order of their first operations.  One more operation keeps all of this, so
it holds of every sequence.

The operations of a description are filed as its routes and their verbs are met.
-/

namespace Groups

/-- What groups are when the operations have been filed one after the other. -/
structure Partition (operations : List Operation) (groups : Groups) : Prop where
  /-- The tags are pairwise distinct. -/
  distinct : groups.keys.Nodup
  /-- The tags stand in the order in which they first appear. -/
  tags : groups.keys = (operations.map Operation.tag).eraseDups
  /-- No group is without operations. -/
  nonempty : ∀ entry ∈ groups.entries, entry.2 ≠ []
  /-- A group has the operations with its tag in their order, and tags that no
  operation has are without a group. -/
  found : forall tag, groups.get? tag =
    if tag ∈ operations.map Operation.tag then
      some (operations.filter fun operation => operation.tag = tag)
    else none
  /-- All groups together have the operations, each as often as it came in. -/
  complete : List.Perm (Groups.operations groups) operations

theorem partition_empty : Partition [] Keyed.empty where
  distinct := List.nodup_nil
  tags := rfl
  nonempty := by
    intro entry member
    cases member
  found := fun _ => rfl
  complete := List.Perm.refl []

section Filing

variable {operations : List Operation} {groups : Groups} {operation : Operation}

/-- A tag is a key once an operation with the tag has been filed. -/
theorem Partition.mem_keys_iff (partition : Partition operations groups) (tag : Text) :
    tag ∈ groups.keys ↔ tag ∈ operations.map Operation.tag := by
  rw [partition.tags, List.mem_eraseDups]

/-- What the group of a tag has before one more operation is filed; a tag
without a group counts as having none. -/
theorem Partition.getD_get? (partition : Partition operations groups) (tag : Text) :
    (groups.get? tag).getD [] = operations.filter fun operation => operation.tag = tag := by
  rw [partition.found tag]
  split
  · rfl
  · next absent =>
    symm
    apply List.filter_eq_nil_iff.mpr
    intro operation member same
    exact absent (of_decide_eq_true same ▸ List.mem_map_of_mem member)

theorem Partition.tags_push (partition : Partition operations groups) (operation : Operation) :
    (groups.push operation).keys =
      ((operations ++ [operation]).map Operation.tag).eraseDups := by
  rw [push, Keyed.keys_insert, List.map_append, List.map_singleton, List.eraseDups_append,
    ← partition.tags]
  by_cases known : operation.tag ∈ operations.map Operation.tag
  · rw [if_pos ((partition.mem_keys_iff _).mpr known)]
    have repeated : List.removeAll [operation.tag] (operations.map Operation.tag) = [] := by
      simpa [List.removeAll] using known
    rw [repeated]
    exact (List.append_nil _).symm
  · rw [if_neg fun member => known ((partition.mem_keys_iff _).mp member)]
    have new : List.removeAll [operation.tag] (operations.map Operation.tag) =
        [operation.tag] := by
      simpa [List.removeAll] using known
    rw [new]
    rfl

theorem Partition.found_push (partition : Partition operations groups) (operation : Operation)
    (tag : Text) :
    (groups.push operation).get? tag =
      if tag ∈ (operations ++ [operation]).map Operation.tag then
        some ((operations ++ [operation]).filter fun operation => operation.tag = tag)
      else none := by
  rw [push, Keyed.get?_insert, partition.getD_get?, List.map_append, List.map_singleton,
    List.filter_append]
  by_cases here : tag = operation.tag
  · rw [if_pos here, if_pos (List.mem_append_right _ (List.mem_singleton.mpr here)), here]
    simp
  · have other : [operation].filter (fun operation => operation.tag = tag) = [] := by
      simpa using Ne.symm here
    rw [if_neg here, partition.found tag, other, List.append_nil]
    simp only [List.mem_append, List.mem_singleton, here, or_false]

/-- One more operation goes to the end of its group. -/
theorem Partition.push (partition : Partition operations groups) (operation : Operation) :
    Partition (operations ++ [operation]) (groups.push operation) where
  distinct := (groups.push operation).distinct
  tags := partition.tags_push operation
  nonempty := by
    intro entry member
    rcases Keyed.mem_entries_insert member with grown | old
    · rw [grown]
      exact List.append_ne_nil_of_right_ne_nil _ (List.cons_ne_nil operation [])
    · exact partition.nonempty entry old
  found := partition.found_push operation
  complete :=
    (Keyed.flatten_values_insert_append groups operation.tag [operation]).trans
      (partition.complete.append_right [operation])

/-- Filing a sequence of operations after others. -/
theorem Partition.foldl_push (partition : Partition operations groups) (later : List Operation) :
    Partition (operations ++ later) (later.foldl Groups.push groups) := by
  induction later generalizing operations groups with
  | nil =>
    rw [List.append_nil]
    exact partition
  | cons operation rest ih =>
    rw [List.append_cons]
    exact ih (partition.push operation)

/-- Filing operations partitions them. -/
theorem partition_ofOperations (operations : List Operation) :
    Partition operations (ofOperations operations) :=
  partition_empty.foldl_push operations

/-- Filing operations keeps their number. -/
theorem Partition.operationCount_eq (partition : Partition operations groups) :
    Groups.operationCount groups = operations.length :=
  partition.complete.length_eq

end Filing

end Groups

/-! ## The operations of a description -/

/-- The first tag, if it is there and not empty. -/
theorem primaryTag_eq (tags : List Text) :
    primaryTag tags = (tags.head?.filter fun tag => !tag.isEmpty).getD defaultTag := by
  match tags with
  | [] => rfl
  | [] :: _ => rfl
  | (_ :: _) :: _ => rfl

namespace Spec

/-- The operation of a route and a verb as they stand in a description. -/
def operationAt (route verb : Text) (details : Details) : Operation where
  route := route
  verb := Text.lower verb
  operationId := details.operationId
  tag := (details.tags.head?.filter fun tag => !tag.isEmpty).getD defaultTag
  description := details.description.getD []

/-- Groups to which operations have been filed, verb after verb and route after
route. -/
def fileRoutes (groups : Groups) (routes : List (Text × Keyed Text Details)) : Groups :=
  routes.foldl (fun filed route => route.2.entries.foldl
    (fun filed method => Groups.push filed (operationAt route.1 method.1 method.2)) filed) groups

theorem operationsOf_eq (route : Text) (methods : Keyed Text Details) :
    operationsOf route methods =
      methods.entries.map fun method => operationAt route method.1 method.2 := by
  unfold operationsOf operationAt
  simp only [primaryTag_eq]

theorem groups_eq_fileRoutes (spec : Spec) :
    spec.groups = fileRoutes Keyed.empty spec.paths.entries := by
  unfold groups Groups.ofOperations operations fileRoutes
  rw [List.foldl_flatMap]
  simp only [operationsOf_eq, List.foldl_map]

theorem length_operations (spec : Spec) : spec.operations.length = spec.operationCount := by
  unfold operations operationCount Keyed.values
  rw [List.flatMap_map, List.length_flatMap, List.length_flatMap]
  simp only [operationsOf_eq, List.length_map]

/-- Grouping is a stable partition of whatever sequence of operations is filed,
and a description is grouped by filing one operation for each of its routes and
verbs, in their order. -/
theorem group_is_stable_partition (ε : Type) (operations : List Operation) (spec : Spec) :
    (Groups.Partition operations (Groups.ofOperations operations) ∧
        Groups.operationCount (Groups.ofOperations operations) = operations.length) ∧
      (spec.group : Logged ε Groups).outcome =
          .ok (fileRoutes Keyed.empty spec.paths.entries) ∧
        Groups.operationCount (fileRoutes Keyed.empty spec.paths.entries) =
          spec.operationCount := by
  have partition := Groups.partition_ofOperations operations
  refine ⟨⟨partition, partition.operationCount_eq⟩, ?_, ?_⟩
  · rw [← groups_eq_fileRoutes]
    rfl
  · rw [← groups_eq_fileRoutes, ← length_operations]
    exact (Groups.partition_ofOperations spec.operations).operationCount_eq

/-- Groups keep the tag that came first in front, and with it an operation that
came in late. -/
example : Keyed.keys (Groups.ofOperations
    [⟨"/user".toList, "get".toList, none, "user".toList, []⟩,
      ⟨"/pet".toList, "get".toList, none, "pet".toList, []⟩,
      ⟨"/user/1".toList, "delete".toList, none, "user".toList, []⟩]) =
    ["user".toList, "pet".toList] := by
  decide

end Spec
end ApiServices
