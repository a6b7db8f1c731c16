import ApiServices.Disk.Program
import ApiServices.Proofs.Disk.Standing

namespace ApiServices

/-!
# Trees that differ at one place

Following a path takes no notice of what files hold; it only matters where
directories are, where files are and where nothing is.  So two trees that differ
at one place answer a request alike unless a file is read or the request comes
through the place, and coming through the place does no harm if the entries
there are of one kind.  Afterwards the trees still differ at this place only.

A program that makes no other requests cannot tell the trees apart.
-/

/-! ## Kinds of entries -/

/-- Entries of one kind: nothing, directories or files. -/
inductive SameKind : Option DiskEntry -> Option DiskEntry -> Prop
  | nothing : SameKind none none
  | directories : SameKind (some .directory) (some .directory)
  | files (content other : FileContent) : SameKind (some (.file content)) (some (.file other))

theorem SameKind.refl (entry : Option DiskEntry) : SameKind entry entry := by
  rcases entry with _ | _ | content
  · exact nothing
  · exact directories
  · exact files content content

theorem SameKind.directory_iff {entry other : Option DiskEntry} (kind : SameKind entry other) :
    entry = some .directory ↔ other = some .directory := by
  cases kind <;> simp

/-- Two trees that are the same but for one place.  If they are alike, the
entries at the place are of one kind. -/
structure Agree (place : Place) (alike : Prop) (tree other : FileTree) : Prop where
  elsewhere : forall passed, passed ≠ place -> tree.get? passed = other.get? passed
  kind : alike -> SameKind (tree.get? place) (other.get? place)

/-! ## Ways -/

namespace Path

variable {path name : Text} {passed : Place}

theorem onWay_place (path : Text) : OnWay path (place path) :=
  ⟨(parts path).length, by rw [List.take_length, place]⟩

theorem onWay_dropLast (path : Text) (count : Nat) :
    OnWay path (walk [] ((parts path).dropLast.take count)) :=
  ⟨min count ((parts path).length - 1), by rw [List.dropLast_eq_take, List.take_take]⟩

/-- The way of a path that was extended by a name has one more place. -/
theorem onWay_of_join (plain : PlainName name) (through : OnWay (join path name) passed) :
    OnWay path passed ∨ passed = place path ++ [name] := by
  rcases through with ⟨count, same⟩
  rw [parts_join plain] at same
  by_cases within : count ≤ (parts path).length
  · rw [List.take_append_of_le_length within] at same
    exact Or.inl ⟨count, same⟩
  · have all : (parts path ++ [name]).length ≤ count := by
      rw [List.length_append, List.length_singleton]
      omega
    rw [List.take_of_length_le all, walk_concat, nextPlace_of_plain plain] at same
    exact Or.inr same

end Path

namespace Agree

variable {place found start : Place} {alike : Prop} {tree other : FileTree} {path : Text}

theorem sameKind (agree : Agree place alike tree other) (seen : alike ∨ found ≠ place) :
    SameKind (tree.get? found) (other.get? found) := by
  by_cases here : found = place
  · rcases seen with known | apart
    · exact here ▸ agree.kind known
    · exact absurd here apart
  · exact agree.elsewhere found here ▸ SameKind.refl _

/-- Trees that agree but for the root agree everywhere. -/
theorem get?_eq (agree : Agree [] alike tree other) (found : Place) :
    tree.get? found = other.get? found := by
  by_cases root : found = []
  · rw [root, FileTree.get?_root, FileTree.get?_root]
  · exact agree.elsewhere found root

theorem put (agree : Agree place alike tree other) (below : found ≠ []) (entry : DiskEntry) :
    Agree place alike (tree.put found entry) (other.put found entry) where
  elsewhere := by
    intro passed apart
    rw [FileTree.get?_put tree found passed entry below,
      FileTree.get?_put other found passed entry below]
    split
    · rfl
    · exact agree.elsewhere passed apart
  kind := by
    intro known
    rw [FileTree.get?_put tree found place entry below,
      FileTree.get?_put other found place entry below]
    split
    · exact SameKind.refl _
    · exact agree.kind known

/-! ## Following a path -/

theorem enter_eq (agree : Agree place alike tree other) {part : Text}
    (seen : alike ∨ Path.nextPlace start part ≠ place) :
    FileTree.enter tree start part = FileTree.enter other start part := by
  unfold FileTree.enter
  cases stepped : FileTree.step start part with
  | error fault => rfl
  | ok next =>
    rw [← FileTree.eq_nextPlace_of_step stepped] at seen
    have kind := agree.sameKind seen
    simp only [bind, Except.bind]
    generalize tree.get? next = entry at kind ⊢
    generalize other.get? next = otherEntry at kind ⊢
    cases kind <;> rfl

theorem foldlM_enter_eq (agree : Agree place alike tree other) {parts : List Text}
    (seen : forall count, alike ∨ Path.walk start (parts.take count) ≠ place) :
    parts.foldlM (FileTree.enter tree) start = parts.foldlM (FileTree.enter other) start := by
  induction parts generalizing start with
  | nil => rfl
  | cons part rest ih =>
    rw [List.foldlM_cons, List.foldlM_cons, agree.enter_eq (seen 1)]
    cases entered : FileTree.enter other start part with
    | error fault => rfl
    | ok next =>
      refine ih ?_
      intro count
      rw [FileTree.eq_nextPlace_of_step (FileTree.enter_eq_ok_iff.mp entered).1]
      exact seen (count + 1)

/-- The last part of a path is not looked at to find its place. -/
theorem locate_eq (agree : Agree place alike tree other)
    (seen : forall count, alike ∨ Path.walk [] ((Path.parts path).dropLast.take count) ≠ place) :
    tree.locate path = other.locate path := by
  unfold FileTree.locate
  rw [agree.foldlM_enter_eq seen]

theorem locate_eq_of_clear (agree : Agree place alike tree other)
    (clear : alike ∨ ¬Path.OnWay path place) : tree.locate path = other.locate path :=
  agree.locate_eq fun count => clear.imp_right fun off same =>
    off (same ▸ Path.onWay_dropLast path count)

theorem sameKind_place (agree : Agree place alike tree other)
    (clear : alike ∨ ¬Path.OnWay path place) :
    SameKind (tree.get? (Path.place path)) (other.get? (Path.place path)) :=
  agree.sameKind (clear.imp_right fun off same => off (same ▸ Path.onWay_place path))

theorem isTaken_eq (agree : Agree place alike tree other)
    (clear : alike ∨ ¬Path.OnWay path place) : tree.isTaken path = other.isTaken path := by
  have kind := agree.sameKind_place clear
  unfold FileTree.isTaken FileTree.find
  rw [agree.locate_eq_of_clear clear]
  cases located : other.locate path with
  | error fault => rfl
  | ok found =>
    rw [← FileTree.eq_place_of_locate located] at kind
    simp only [bind, Except.bind]
    generalize tree.get? found = entry at kind ⊢
    generalize other.get? found = otherEntry at kind ⊢
    cases kind with
    | nothing => rfl
    | directories => rfl
    | files => cases FileTree.asksForDirectory path <;> rfl

end Agree

/-! ## Changes -/

namespace FileTree

variable {tree other left : FileTree} {path : Text}

/-- Where a path leads to the same place in two trees, and to a directory in
both or in none, they both refuse a file there or both allow it. -/
theorem fileAt_both (located : tree.locate path = other.locate path)
    (blocked : tree.get? (Path.place path) = some .directory ↔
      other.get? (Path.place path) = some .directory) :
    (Exists fun cause => tree.fileAt path = .error cause ∧ other.fileAt path = .error cause) ∨
      Exists fun prior => Exists fun otherPrior =>
        tree.fileAt path = .ok (Path.place path, prior) ∧
          other.fileAt path = .ok (Path.place path, otherPrior) := by
  unfold fileAt
  rw [located]
  cases followed : other.locate path with
  | error fault => exact Or.inl ⟨fault, rfl, rfl⟩
  | ok found =>
    rw [← eq_place_of_locate followed] at blocked ⊢
    simp only [bind, Except.bind]
    generalize tree.get? found = entry at blocked ⊢
    generalize other.get? found = otherEntry at blocked ⊢
    rcases entry with _ | _ | content <;> rcases otherEntry with _ | _ | otherContent <;>
      cases asksForDirectory path <;> simp at blocked ⊢

/-- An opened file was there before, or it is new and empty. -/
theorem get?_of_openFile (opened : tree.openFile path = .ok left) :
    (tree.get? (Path.place path) = none ∧
        left.get? (Path.place path) = some (.file (.text []))) ∨
      (left = tree ∧ Exists fun content => tree.get? (Path.place path) = some (.file content)) := by
  rcases fileAt_of_openFile opened with ⟨found, ⟨same, content, writable⟩ | ⟨made, free⟩⟩
  · rw [← eq_place_of_fileAt writable]
    exact Or.inr ⟨same, content, (fileAt_eq_ok_iff.mp writable).2.1⟩
  · rw [← eq_place_of_fileAt free, made]
    exact Or.inl ⟨(fileAt_eq_ok_iff.mp free).2.1, get?_put_file _ (free_of_fileAt free)⟩

theorem get?_of_openFile_of_ne (opened : tree.openFile path = .ok left) {place : Place}
    (apart : place ≠ Path.place path) : left.get? place = tree.get? place := by
  rcases fileAt_of_openFile opened with ⟨found, ⟨same, _⟩ | ⟨made, free⟩⟩
  · rw [same]
  · rw [made, get?_put _ _ _ _ (ne_root_of_get? (free_of_fileAt free)), if_neg]
    rwa [eq_place_of_fileAt free]

theorem openFile_both (located : tree.locate path = other.locate path)
    (blocked : tree.get? (Path.place path) = some .directory ↔
      other.get? (Path.place path) = some .directory) :
    (Exists fun cause => tree.openFile path = .error cause ∧ other.openFile path = .error cause) ∨
      Exists fun opened => Exists fun otherOpened =>
        tree.openFile path = .ok opened ∧ other.openFile path = .ok otherOpened := by
  unfold openFile
  rcases fileAt_both located blocked with ⟨cause, refused, otherRefused⟩ |
    ⟨prior, otherPrior, writable, otherWritable⟩
  · rw [refused, otherRefused]
    exact Or.inl ⟨cause, rfl, rfl⟩
  · rw [writable, otherWritable]
    cases prior <;> cases otherPrior <;> exact Or.inr ⟨_, _, rfl, rfl⟩

end FileTree

namespace Change

/-- The path that a change is about. -/
def path : Change -> Text
  | .makeDirs path => path
  | .write path _ => path
  | .openFile path => path
  | .lock path => path
  | .truncate path => path
  | .fill path _ => path
  | .unlock path => path

end Change

namespace Agree

variable {place start : Place} {alike : Prop} {tree other : FileTree} {path : Text}

theorem makeDirsFrom (agree : Agree place alike tree other) {begun : Bool} {parts : List Text}
    (seen : forall count, alike ∨ Path.walk start (parts.take count) ≠ place) :
    (tree.makeDirsFrom start begun parts).2 = (other.makeDirsFrom start begun parts).2 ∧
      Agree place alike (tree.makeDirsFrom start begun parts).1
        (other.makeDirsFrom start begun parts).1 := by
  induction parts generalizing tree other start begun with
  | nil => exact ⟨rfl, agree⟩
  | cons part rest ih =>
    unfold FileTree.makeDirsFrom
    cases stepped : FileTree.step start part with
    | error fault => exact ⟨rfl, agree⟩
    | ok next =>
      have reached := FileTree.eq_nextPlace_of_step stepped
      have further : forall count, alike ∨ Path.walk next (rest.take count) ≠ place := by
        intro count
        rw [reached]
        exact seen (count + 1)
      have kind : SameKind (tree.get? next) (other.get? next) := agree.sameKind (further 0)
      cases here : tree.get? next with
      | none =>
        have below : next ≠ [] := by
          apply FileTree.ne_root_of_get?
          rw [here]
          exact (Option.some_ne_none _).symm
        rw [here] at kind
        generalize there : other.get? next = otherEntry at kind
        cases kind
        simp only [here, there]
        exact ih (agree.put below .directory) further
      | some entry =>
        rw [here] at kind
        generalize there : other.get? next = otherEntry at kind
        cases kind with
        | directories =>
          simp only [here, there]
          exact ih agree further
        | files =>
          simp only [here, there]
          exact ⟨trivial, agree⟩

theorem makeDirs (agree : Agree place alike tree other)
    (clear : alike ∨ ¬Path.OnWay path place) :
    (tree.makeDirs path).2 = (other.makeDirs path).2 ∧
      Agree place alike (tree.makeDirs path).1 (other.makeDirs path).1 := by
  unfold FileTree.makeDirs
  cases FileTree.pathFault? path with
  | some fault => exact ⟨rfl, agree⟩
  | none =>
    exact agree.makeDirsFrom fun count => clear.imp_right fun off same => off ⟨count, same.symm⟩

theorem fileAt (agree : Agree place alike tree other) (clear : alike ∨ ¬Path.OnWay path place) :
    (Exists fun cause => tree.fileAt path = .error cause ∧ other.fileAt path = .error cause) ∨
      Exists fun prior => Exists fun otherPrior =>
        tree.fileAt path = .ok (Path.place path, prior) ∧
          other.fileAt path = .ok (Path.place path, otherPrior) :=
  FileTree.fileAt_both (agree.locate_eq_of_clear clear) (agree.sameKind_place clear).directory_iff

theorem write (agree : Agree place alike tree other) (clear : alike ∨ ¬Path.OnWay path place)
    (content : FileContent) :
    (tree.changed (tree.write path content)).2 = (other.changed (other.write path content)).2 ∧
      Agree place alike (tree.changed (tree.write path content)).1
        (other.changed (other.write path content)).1 := by
  rcases agree.fileAt clear with ⟨cause, refused, otherRefused⟩ |
    ⟨prior, otherPrior, writable, otherWritable⟩
  · rw [FileTree.write, FileTree.write, refused, otherRefused]
    exact ⟨rfl, agree⟩
  · rw [FileTree.write_of_fileAt content writable, FileTree.write_of_fileAt content otherWritable]
    exact ⟨rfl, agree.put (FileTree.ne_root_of_get? (FileTree.free_of_fileAt writable)) _⟩

theorem openFile (agree : Agree place alike tree other) (clear : alike ∨ ¬Path.OnWay path place) :
    (tree.changed (tree.openFile path)).2 = (other.changed (other.openFile path)).2 ∧
      Agree place alike (tree.changed (tree.openFile path)).1
        (other.changed (other.openFile path)).1 := by
  rcases agree.fileAt clear with ⟨cause, refused, otherRefused⟩ |
    ⟨prior, otherPrior, writable, otherWritable⟩
  · rw [FileTree.openFile, FileTree.openFile, refused, otherRefused]
    exact ⟨rfl, agree⟩
  · have below := FileTree.ne_root_of_get? (FileTree.free_of_fileAt writable)
    have kind := agree.sameKind_place clear
    rw [(FileTree.fileAt_eq_ok_iff.mp writable).2.1,
      (FileTree.fileAt_eq_ok_iff.mp otherWritable).2.1] at kind
    rw [FileTree.openFile, FileTree.openFile, writable, otherWritable]
    cases prior <;> cases otherPrior
    · exact ⟨rfl, agree.put below _⟩
    · cases kind
    · cases kind
    · exact ⟨rfl, agree⟩

/-- Agreeing trees answer a change alike and agree afterwards. -/
theorem carryOut (agree : Agree place alike tree other) (change : Change)
    (clear : alike ∨ ¬Path.OnWay change.path place) :
    (tree.carryOut change).2 = (other.carryOut change).2 ∧
      Agree place alike (tree.carryOut change).1 (other.carryOut change).1 := by
  cases change with
  | makeDirs path => exact agree.makeDirs clear
  | write path text => exact agree.write clear (.text text)
  | openFile path => exact agree.openFile clear
  | lock path => exact ⟨rfl, agree⟩
  | truncate path => exact agree.write clear (.text [])
  | fill path text => exact agree.write clear (.text text)
  | unlock path => exact ⟨rfl, agree⟩

end Agree

/-! ## Programs -/

/-- A program that has the same outcome on trees that are related beforehand, and
leaves trees that are related afterwards when it succeeds. -/
def Indifferent {ε α : Type} (before after : FileTree -> FileTree -> Prop)
    (program : Program ε α) : Prop :=
  forall tree other, before tree other ->
    (program.run tree).2.outcome = (program.run other).2.outcome ∧
      forall a, (program.run tree).2.outcome = .ok a ->
        after (program.run tree).1 (program.run other).1

section Programs

variable {ε α β : Type} {before middle after : FileTree -> FileTree -> Prop}

theorem indifferent_done (outcome : Except ε α) :
    Indifferent before before (.done outcome : Program ε α) :=
  fun _ _ related => ⟨rfl, fun _ _ => related⟩

theorem Indifferent.note {program : Program ε α} (indifferent : Indifferent before after program)
    (record : LogRecord) : Indifferent before after (.note record program) :=
  fun tree other related => indifferent tree other related

theorem Indifferent.bind {program : Program ε α} {next : α -> Program ε β}
    (first : Indifferent before middle program)
    (later : forall a, Indifferent middle after (next a)) :
    Indifferent before after (program >>= next) := by
  intro tree other related
  rcases first tree other related with ⟨same, between⟩
  rw [Program.run_bind, Program.run_bind, Program.followedBy, Program.followedBy, ← same]
  cases reached : (program.run tree).2.outcome with
  | error error => exact ⟨rfl, fun _ impossible => by cases impossible⟩
  | ok a => exact later a _ _ (between a reached)

theorem indifferent_forM {step : β -> Program ε PUnit} {inputs : List β}
    (steps : ∀ input ∈ inputs, Indifferent before before (step input)) :
    Indifferent before before (inputs.forM step) := by
  induction inputs with
  | nil => exact indifferent_done (.ok PUnit.unit)
  | cons input rest ih =>
    refine Indifferent.bind (steps input List.mem_cons_self) fun _ => ?_
    exact ih fun later member => steps later (List.mem_cons_of_mem input member)

/-! ### Requests -/

variable {place : Place} {alike : Prop} {path : Text}

theorem indifferent_change {change : Change} (clear : alike ∨ ¬Path.OnWay change.path place) :
    Indifferent (Agree place alike) (Agree place alike)
      (Program.perform (.change change) : Program ε _) :=
  fun _ _ agree => ⟨congrArg Except.ok (agree.carryOut change clear).1,
    fun _ _ => (agree.carryOut change clear).2⟩

theorem indifferent_isTaken (clear : alike ∨ ¬Path.OnWay path place) :
    Indifferent (Agree place alike) (Agree place alike)
      (Program.perform (.isTaken path) : Program ε Bool) :=
  fun _ _ agree => ⟨congrArg Except.ok (agree.isTaken_eq clear), fun _ _ => agree⟩

end Programs
end ApiServices
