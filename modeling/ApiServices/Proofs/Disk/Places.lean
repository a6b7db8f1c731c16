import ApiServices.Disk.FileTree
import ApiServices.Proofs.Text.Lines

namespace ApiServices

/-!
# Where paths lead

A tree decides whether a path can be followed.  Where it leads is decided by
its text: if two trees follow the same path, they arrive at the same place.
So a place can be spoken of before anything is known about a tree, and a path
that was extended by a plain name leads to a child of the place it led to.
-/

namespace Path

/-- The place that a part leads to from a directory. -/
def nextPlace (place : Place) (part : Text) : Place :=
  match PathStep.ofText part with
  | .root => place
  | .current => place
  | .parent => place.dropLast
  | .name text => place ++ [text]

/-- The place that parts lead to from a directory. -/
def walk (place : Place) (parts : List Text) : Place :=
  parts.foldl nextPlace place

/-- The place that a path leads to in every tree that can follow it. -/
def place (path : Text) : Place :=
  walk [] (parts path)

/-- Whether following a path comes through a place. -/
def OnWay (path : Text) (passed : Place) : Prop :=
  Exists fun count => passed = walk [] ((parts path).take count)

theorem walk_cons (start : Place) (part : Text) (rest : List Text) :
    walk start (part :: rest) = walk (nextPlace start part) rest := rfl

theorem walk_concat (start : Place) (before : List Text) (last : Text) :
    walk start (before ++ [last]) = nextPlace (walk start before) last :=
  List.foldl_append

/-! ## Paths extended by a name -/

/-- A text that names an entry of a directory. -/
structure PlainName (name : Text) : Prop where
  nonempty : name ≠ []
  unslashed : '/' ∉ name
  notCurrent : name ≠ ['.']
  notParent : name ≠ ['.', '.']

instance (name : Text) : Decidable (PlainName name) :=
  decidable_of_iff (name ≠ [] ∧ '/' ∉ name ∧ name ≠ ['.'] ∧ name ≠ ['.', '.'])
    ⟨fun ⟨nonempty, unslashed, notCurrent, notParent⟩ =>
        ⟨nonempty, unslashed, notCurrent, notParent⟩,
      fun plain => ⟨plain.nonempty, plain.unslashed, plain.notCurrent, plain.notParent⟩⟩

theorem nextPlace_of_plain {name : Text} (plain : PlainName name) (start : Place) :
    nextPlace start name = start ++ [name] := by
  unfold nextPlace PathStep.ofText
  rw [if_neg plain.notCurrent, if_neg plain.notParent]

theorem parts_append_slash (before after : Text) :
    parts (before ++ '/' :: after) = parts before ++ parts after :=
  Text.runsBetween_append_separator _ before after '/' rfl

theorem parts_of_plain {name : Text} (plain : PlainName name) : parts name = [name] := by
  apply Text.runsBetween_of_forall_not _ name plain.nonempty
  intro c member
  apply beq_eq_false_iff_ne.mpr
  intro same
  exact plain.unslashed (same ▸ member)

/-- A relative path goes on where the path ends that it is joined to. -/
theorem parts_join_of_relative {part : Text} (relative : part.head? ≠ some '/') (path : Text) :
    parts (join path part) = parts path ++ parts part := by
  rw [join, if_neg relative]
  split
  · next ended =>
    rw [Bool.or_eq_true, decide_eq_true_eq] at ended
    rcases ended with empty | slash
    · rw [List.isEmpty_iff.mp empty]
      rfl
    · rcases List.getLast?_eq_some_iff.mp slash with ⟨before, shape⟩
      have ends : parts path = parts before := by
        calc
          parts path = parts (before ++ '/' :: []) := congrArg parts shape
          _ = parts before ++ parts [] := parts_append_slash _ _
          _ = parts before := List.append_nil _
      rw [ends, shape, List.append_assoc, List.singleton_append, parts_append_slash]
  · exact parts_append_slash path part

/-- A name becomes the last part of the path that it is joined to. -/
theorem parts_join {name : Text} (plain : PlainName name) (path : Text) :
    parts (join path name) = parts path ++ [name] := by
  have relative : name.head? ≠ some '/' := by
    intro first
    exact plain.unslashed (List.mem_of_head? first)
  rw [parts_join_of_relative relative, parts_of_plain plain]

/-- A path that a name was joined to leads to a child. -/
theorem place_join {name : Text} (plain : PlainName name) (path : Text) :
    place (join path name) = place path ++ [name] := by
  rw [place, parts_join plain, walk_concat, nextPlace_of_plain plain]
  rfl

end Path

/-! ## Following a path -/

namespace FileTree

theorem eq_nextPlace_of_step {start next : Place} {part : Text}
    (stepped : step start part = .ok next) : next = Path.nextPlace start part := by
  unfold step at stepped
  unfold Path.nextPlace
  cases kind : PathStep.ofText part with
  | root =>
    rw [kind] at stepped
    exact (Except.ok.inj stepped).symm
  | current =>
    rw [kind] at stepped
    exact (Except.ok.inj stepped).symm
  | parent =>
    rw [kind] at stepped
    exact (Except.ok.inj stepped).symm
  | name text =>
    rw [kind] at stepped
    change (if nameLimit < Text.byteSize text then Except.error DiskError.nameTooLong
      else .ok (start ++ [text])) = .ok next at stepped
    split at stepped
    · cases stepped
    · exact (Except.ok.inj stepped).symm

theorem enter_eq_ok_iff {tree : FileTree} {start next : Place} {part : Text} :
    enter tree start part = .ok next ↔
      step start part = .ok next ∧ tree.get? next = some .directory := by
  unfold enter
  cases stepped : step start part with
  | error fault =>
    constructor
    · intro entered
      cases entered
    · rintro ⟨impossible, _⟩
      cases impossible
  | ok reached =>
    simp only [bind, Except.bind]
    constructor
    · intro entered
      cases here : tree.get? reached with
      | none =>
        rw [here] at entered
        cases entered
      | some entry =>
        cases entry with
        | directory =>
          rw [here] at entered
          have same := Except.ok.inj entered
          exact ⟨congrArg Except.ok same, same ▸ here⟩
        | file content =>
          rw [here] at entered
          cases entered
    · rintro ⟨same, here⟩
      rw [Except.ok.inj same, here]

/-- Following parts through directories leads where the parts say. -/
theorem eq_walk_of_foldlM_enter {tree : FileTree} {start reached : Place} {parts : List Text}
    (followed : parts.foldlM (enter tree) start = .ok reached) :
    reached = Path.walk start parts := by
  induction parts generalizing start with
  | nil => exact (Except.ok.inj followed).symm
  | cons part rest ih =>
    rw [List.foldlM_cons] at followed
    cases entered : enter tree start part with
    | error fault =>
      rw [entered] at followed
      cases followed
    | ok next =>
      rw [entered] at followed
      rw [ih followed, Path.walk_cons, eq_nextPlace_of_step (enter_eq_ok_iff.mp entered).1]

/-- A path that can be followed leads where its text says. -/
theorem eq_place_of_locate {tree : FileTree} {path : Text} {found : Place}
    (located : tree.locate path = .ok found) : found = Path.place path := by
  unfold locate at located
  split at located
  · cases located
  · split at located
    · next ends =>
      rw [List.getLast?_eq_none_iff] at ends
      rw [Path.place, ends]
      exact (Except.ok.inj located).symm
    · next last ends =>
      rcases List.getLast?_eq_some_iff.mp ends with ⟨before, whole⟩
      have earlier : (Path.parts path).dropLast = before := by
        rw [whole, List.dropLast_concat]
      rw [earlier] at located
      cases followed : before.foldlM (enter tree) [] with
      | error fault =>
        rw [followed] at located
        cases located
      | ok parent =>
        rw [followed] at located
        rw [eq_nextPlace_of_step located, eq_walk_of_foldlM_enter followed, Path.place, whole,
          Path.walk_concat]

/-! ## Trees with more directories -/

/-- Parts that can be followed in a tree can be followed in a tree that has the
same directories and perhaps more. -/
theorem foldlM_enter_of_directories {before after : FileTree}
    (remain : forall place, before.get? place = some .directory ->
      after.get? place = some .directory)
    {start reached : Place} {parts : List Text}
    (followed : parts.foldlM (enter before) start = .ok reached) :
    parts.foldlM (enter after) start = .ok reached := by
  induction parts generalizing start with
  | nil => exact followed
  | cons part rest ih =>
    rw [List.foldlM_cons] at followed ⊢
    cases entered : enter before start part with
    | error fault =>
      rw [entered] at followed
      cases followed
    | ok next =>
      rw [entered] at followed
      have stepped := enter_eq_ok_iff.mp entered
      rw [enter_eq_ok_iff.mpr ⟨stepped.1, remain next stepped.2⟩]
      exact ih followed

theorem locate_of_directories {before after : FileTree}
    (remain : forall place, before.get? place = some .directory ->
      after.get? place = some .directory)
    {path : Text} {found : Place} (located : before.locate path = .ok found) :
    after.locate path = .ok found := by
  unfold locate at located ⊢
  split at located
  · cases located
  · split at located
    · exact located
    · next last _ =>
      cases followed : (Path.parts path).dropLast.foldlM (enter before) [] with
      | error fault =>
        rw [followed] at located
        cases located
      | ok parent =>
        rw [followed] at located
        rw [foldlM_enter_of_directories remain followed]
        exact located

end FileTree
end ApiServices
