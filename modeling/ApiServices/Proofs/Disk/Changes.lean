import ApiServices.Proofs.Disk.Places

namespace ApiServices

/-!
# What changes in a tree

Nothing that a run asks of a disk takes anything away.  An entry is left as it
is, or a directory is made where nothing was, or a file gets a content where no
directory was.  A change of a tree is described by the places where the second
and the third can happen; everywhere else the tree is as before.  Such
descriptions can be put one after the other.
-/

/-- What may become of the entry at a place. -/
inductive Fate (mayBeMade mayBeWritten : Prop) : Option DiskEntry -> Option DiskEntry -> Prop
  | kept (entry : Option DiskEntry) : Fate mayBeMade mayBeWritten entry entry
  | made (allowed : mayBeMade) : Fate mayBeMade mayBeWritten none (some .directory)
  | written (allowed : mayBeWritten) (former : Option DiskEntry) (content : FileContent)
      (free : former ≠ some .directory) :
      Fate mayBeMade mayBeWritten former (some (.file content))

namespace Fate

variable {made₁ made₂ written₁ written₂ : Prop} {first second third : Option DiskEntry}

theorem mono (fate : Fate made₁ written₁ first second) (made : made₁ -> made₂)
    (written : written₁ -> written₂) : Fate made₂ written₂ first second := by
  cases fate with
  | kept => exact Fate.kept first
  | made allowed => exact Fate.made (made allowed)
  | written allowed _ content free => exact Fate.written (written allowed) first content free

theorem trans (earlier : Fate made₁ written₁ first second)
    (later : Fate made₁ written₁ second third) : Fate made₁ written₁ first third := by
  cases later with
  | kept => exact earlier
  | made allowed =>
    cases earlier with
    | kept => exact Fate.made allowed
  | written allowed _ content free =>
    cases earlier with
    | kept => exact Fate.written allowed first content free
    | made => exact absurd rfl free
    | written _ _ _ before => exact Fate.written allowed first content before

end Fate

/-- Directories may be new at the places `dirs`, and files at the places `files`
may have a new content.  All else is as before. -/
def Changes (dirs files : Place -> Prop) (before after : FileTree) : Prop :=
  forall place, Fate (dirs place) (files place) (before.get? place) (after.get? place)

/-- No place at all. -/
def nowhere : Place -> Prop :=
  fun _ => False

namespace Changes

variable {dirs dirs' files files' : Place -> Prop} {before middle after : FileTree}
  {place : Place}

theorem refl (tree : FileTree) : Changes dirs files tree tree :=
  fun place => Fate.kept (tree.get? place)

theorem trans (earlier : Changes dirs files before middle)
    (later : Changes dirs files middle after) : Changes dirs files before after :=
  fun place => (earlier place).trans (later place)

theorem mono (changes : Changes dirs files before after)
    (moreDirs : forall place, dirs place -> dirs' place)
    (moreFiles : forall place, files place -> files' place) :
    Changes dirs' files' before after :=
  fun place => (changes place).mono (moreDirs place) (moreFiles place)

/-- Directories stay. -/
theorem directory (changes : Changes dirs files before after)
    (here : before.get? place = some .directory) : after.get? place = some .directory := by
  have fate := changes place
  rw [here] at fate
  generalize after.get? place = entry at fate
  cases fate with
  | kept => rfl
  | written _ _ _ free => exact absurd rfl free

/-- Where no file may be written, things stay or a directory is made. -/
theorem kept_or_made (changes : Changes dirs files before after) (unwritten : ¬files place) :
    after.get? place = before.get? place ∨
      (dirs place ∧ before.get? place = none ∧ after.get? place = some .directory) := by
  have fate := changes place
  generalize before.get? place = former at fate
  generalize after.get? place = latter at fate
  cases fate with
  | kept => exact Or.inl rfl
  | made allowed => exact Or.inr ⟨allowed, rfl, rfl⟩
  | written allowed => exact absurd allowed unwritten

/-- Where no directory and no file may be made, things stay. -/
theorem kept_of_nowhere (changes : Changes nowhere files before after) (unwritten : ¬files place) :
    after.get? place = before.get? place := by
  rcases changes.kept_or_made unwritten with same | ⟨impossible, _⟩
  · exact same
  · exact impossible.elim

/-- What is there stays where no file may be written. -/
theorem kept_of_taken (changes : Changes dirs files before after) (unwritten : ¬files place)
    (taken : before.get? place ≠ none) : after.get? place = before.get? place := by
  rcases changes.kept_or_made unwritten with same | ⟨_, free, _⟩
  · exact same
  · exact absurd free taken

theorem stays (changes : Changes dirs files before after) (unwritten : ¬files place)
    {entry : DiskEntry} (here : before.get? place = some entry) :
    after.get? place = some entry := by
  have taken : before.get? place ≠ none := by
    rw [here]
    exact fun same => nomatch same
  exact (changes.kept_of_taken unwritten taken).trans here

end Changes

namespace FileTree

variable {tree left : FileTree} {path : Text}

theorem ne_root_of_get? {place : Place} (other : tree.get? place ≠ some .directory) :
    place ≠ [] := by
  intro root
  rw [root, get?_root] at other
  exact other rfl

/-! ## Directories -/

theorem changes_put_directory {place : Place} {dirs : Place -> Prop} (free : tree.get? place = none)
    (allowed : dirs place) : Changes dirs nowhere tree (tree.put place .directory) := by
  have below : place ≠ [] := by
    apply ne_root_of_get?
    rw [free]
    exact fun same => nomatch same
  intro other
  rw [get?_put tree place other .directory below]
  by_cases same : other = place
  · rw [if_pos same, same, free]
    exact Fate.made allowed
  · rw [if_neg same]
    exact Fate.kept _

/-- Making directories from a place onward makes directories on the way and
nothing else. -/
theorem changes_makeDirsFrom (tree : FileTree) (start : Place) (begun : Bool) (parts : List Text) :
    Changes (fun passed => Exists fun count => passed = Path.walk start (parts.take count)) nowhere
      tree (tree.makeDirsFrom start begun parts).1 := by
  induction parts generalizing tree start begun with
  | nil => exact Changes.refl tree
  | cons part rest ih =>
    unfold makeDirsFrom
    cases stepped : step start part with
    | error fault => exact Changes.refl tree
    | ok next =>
      have reached := eq_nextPlace_of_step stepped
      have further : forall tree begun,
          Changes (fun passed => Exists fun count =>
            passed = Path.walk start ((part :: rest).take count)) nowhere tree
            (makeDirsFrom tree next begun rest).1 := by
        intro tree begun
        refine (ih tree next begun).mono ?_ (fun _ written => written)
        rintro passed ⟨count, same⟩
        refine ⟨count + 1, ?_⟩
        rw [same, List.take_succ_cons, Path.walk_cons, reached]
      cases here : tree.get? next with
      | none =>
        simp only [here]
        refine Changes.trans (changes_put_directory here ?_) (further (tree.put next .directory) true)
        exact ⟨1, by rw [List.take_succ_cons, Path.walk_cons, reached]; rfl⟩
      | some entry =>
        cases entry with
        | directory =>
          simp only [here]
          exact further tree begun
        | file content =>
          simp only [here]
          exact Changes.refl tree

/-- Where all directories could be made there is one in the end. -/
theorem get?_makeDirsFrom {start : Place} {begun : Bool} {parts : List Text}
    (here : tree.get? start = some .directory)
    (made : (tree.makeDirsFrom start begun parts).2 = .ok ()) :
    (tree.makeDirsFrom start begun parts).1.get? (Path.walk start parts) = some .directory := by
  induction parts generalizing tree start begun with
  | nil => exact here
  | cons part rest ih =>
    rw [Path.walk_cons]
    unfold makeDirsFrom at made ⊢
    cases stepped : step start part with
    | error fault =>
      rw [stepped] at made
      cases made
    | ok next =>
      rw [stepped] at made
      rw [← eq_nextPlace_of_step stepped]
      cases found : tree.get? next with
      | none =>
        simp only [found] at made ⊢
        apply ih _ made
        have below : next ≠ [] := by
          apply ne_root_of_get?
          rw [found]
          exact fun same => nomatch same
        rw [get?_put tree next next .directory below, if_pos rfl]
      | some entry =>
        cases entry with
        | directory =>
          simp only [found] at made ⊢
          exact ih found made
        | file content =>
          simp only [found] at made
          cases made

theorem changes_makeDirs (tree : FileTree) (path : Text) :
    Changes (Path.OnWay path) nowhere tree (tree.makeDirs path).1 := by
  unfold makeDirs
  cases pathFault? path with
  | none => exact changes_makeDirsFrom tree [] false (Path.parts path)
  | some fault => exact Changes.refl tree

/-- Also when not all parts of a path are gone through, only its way changes. -/
theorem changes_makeDirsFrom_take (tree : FileTree) (path : Text) (count : Nat) :
    Changes (Path.OnWay path) nowhere tree
      (tree.makeDirsFrom [] false ((Path.parts path).take count)).1 := by
  refine (changes_makeDirsFrom tree [] false _).mono ?_ (fun _ written => written)
  rintro passed ⟨fewer, same⟩
  exact ⟨min fewer count, by rw [same, List.take_take]⟩

theorem get?_makeDirs (made : (tree.makeDirs path).2 = .ok ()) :
    (tree.makeDirs path).1.get? (Path.place path) = some .directory := by
  unfold makeDirs at made ⊢
  cases fault : pathFault? path with
  | none =>
    rw [fault] at made
    exact get?_makeDirsFrom (get?_root tree) made
  | some cause =>
    rw [fault] at made
    cases made

/-! ## Files -/

/-- A file may be written where a path leads to a file or to nothing, and does
not insist on a directory. -/
theorem fileAt_eq_ok_iff {found : Place} {prior : Option FileContent} :
    tree.fileAt path = .ok (found, prior) ↔
      tree.locate path = .ok found ∧ tree.get? found = prior.map DiskEntry.file ∧
        asksForDirectory path = false := by
  unfold fileAt
  cases located : tree.locate path with
  | error fault =>
    constructor
    · intro impossible
      cases impossible
    · rintro ⟨impossible, _⟩
      cases impossible
  | ok place =>
    simp only [bind, Except.bind]
    constructor
    · intro writable
      cases here : tree.get? place with
      | none =>
        rw [here] at writable
        cases asks : asksForDirectory path with
        | true =>
          rw [asks] at writable
          cases writable
        | false =>
          rw [asks] at writable
          cases writable
          exact ⟨rfl, here, rfl⟩
      | some entry =>
        cases entry with
        | directory =>
          rw [here] at writable
          cases writable
        | file content =>
          rw [here] at writable
          cases asks : asksForDirectory path with
          | true =>
            rw [asks] at writable
            cases writable
          | false =>
            rw [asks] at writable
            cases writable
            exact ⟨rfl, here, rfl⟩
    · rintro ⟨same, here, other⟩
      cases same
      rw [here, other]
      cases prior <;> rfl

theorem changes_put_file {place : Place} (content : FileContent)
    (free : tree.get? place ≠ some .directory) :
    Changes nowhere (· = place) tree (tree.put place (.file content)) := by
  intro other
  rw [get?_put tree place other (.file content) (ne_root_of_get? free)]
  by_cases same : other = place
  · rw [if_pos same, same]
    exact Fate.written rfl _ content free
  · rw [if_neg same]
    exact Fate.kept _

theorem get?_put_file {place : Place} (content : FileContent)
    (free : tree.get? place ≠ some .directory) :
    (tree.put place (.file content)).get? place = some (.file content) := by
  rw [get?_put tree place place (.file content) (ne_root_of_get? free), if_pos rfl]

section Writable

variable {found : Place} {prior : Option FileContent} {content : FileContent}

theorem free_of_fileAt (writable : tree.fileAt path = .ok (found, prior)) :
    tree.get? found ≠ some .directory := by
  rw [(fileAt_eq_ok_iff.mp writable).2.1]
  cases prior <;> exact fun same => nomatch same

theorem eq_place_of_fileAt (writable : tree.fileAt path = .ok (found, prior)) :
    found = Path.place path :=
  eq_place_of_locate (fileAt_eq_ok_iff.mp writable).1

theorem write_of_fileAt (content : FileContent) (writable : tree.fileAt path = .ok (found, prior)) :
    tree.write path content = .ok (tree.put found (.file content)) := by
  rw [write, writable]
  rfl

theorem fileAt_of_write (written : tree.write path content = .ok left) :
    Exists fun found => Exists fun prior =>
      tree.fileAt path = .ok (found, prior) ∧ left = tree.put found (.file content) := by
  unfold write at written
  cases writable : tree.fileAt path with
  | error fault =>
    rw [writable] at written
    cases written
  | ok target =>
    rw [writable] at written
    exact ⟨target.1, target.2, rfl, (Except.ok.inj written).symm⟩

/-- A file that has been written can be written and read through the same path. -/
theorem fileAt_put (content : FileContent) (writable : tree.fileAt path = .ok (found, prior)) :
    (tree.put found (.file content)).fileAt path = .ok (found, some content) := by
  have free := free_of_fileAt writable
  apply fileAt_eq_ok_iff.mpr
  refine ⟨?_, get?_put_file content free, (fileAt_eq_ok_iff.mp writable).2.2⟩
  exact locate_of_directories (fun _ here => (changes_put_file content free).directory here)
    (fileAt_eq_ok_iff.mp writable).1

/-- Writing changes the place of the path and nothing else. -/
theorem changes_write (written : tree.write path content = .ok left) :
    Changes nowhere (· = Path.place path) tree left := by
  rcases fileAt_of_write written with ⟨found, prior, writable, result⟩
  rw [result, ← eq_place_of_fileAt writable]
  exact changes_put_file content (free_of_fileAt writable)

theorem get?_write (written : tree.write path content = .ok left) :
    left.get? (Path.place path) = some (.file content) := by
  rcases fileAt_of_write written with ⟨found, prior, writable, result⟩
  rw [result, ← eq_place_of_fileAt writable]
  exact get?_put_file content (free_of_fileAt writable)

/-- An opened file was there before, or is new and empty. -/
theorem fileAt_of_openFile (opened : tree.openFile path = .ok left) :
    Exists fun found =>
      (left = tree ∧ Exists fun content => tree.fileAt path = .ok (found, some content)) ∨
        (left = tree.put found (.file (.text [])) ∧ tree.fileAt path = .ok (found, none)) := by
  unfold openFile at opened
  cases writable : tree.fileAt path with
  | error fault =>
    rw [writable] at opened
    cases opened
  | ok target =>
    rcases target with ⟨found, prior⟩
    rw [writable] at opened
    refine ⟨found, ?_⟩
    cases prior with
    | none => exact Or.inr ⟨(Except.ok.inj opened).symm, rfl⟩
    | some content => exact Or.inl ⟨(Except.ok.inj opened).symm, content, rfl⟩

theorem find_of_fileAt (writable : tree.fileAt path = .ok (found, some content)) :
    tree.find path = .ok (.file content) := by
  rcases fileAt_eq_ok_iff.mp writable with ⟨located, here, other⟩
  unfold find
  simp only [located, bind, Except.bind]
  rw [here, other]
  rfl

theorem read_of_fileAt (writable : tree.fileAt path = .ok (found, some content)) :
    tree.read path = content.text? := by
  rw [read, find_of_fileAt writable]
  rfl

/-- A text that can be read is in the place that the path leads to. -/
theorem get?_of_read {text : Text} (known : tree.read path = .ok text) :
    tree.get? (Path.place path) = some (.file (.text text)) := by
  unfold read find at known
  cases located : tree.locate path with
  | error fault =>
    rw [located] at known
    cases known
  | ok found =>
    rw [located] at known
    rw [← eq_place_of_locate located]
    simp only [bind, Except.bind] at known
    cases here : tree.get? found with
    | none =>
      rw [here] at known
      cases known
    | some entry =>
      rw [here] at known
      cases entry with
      | directory => cases known
      | file content =>
        cases asks : asksForDirectory path with
        | true =>
          rw [asks] at known
          cases known
        | false =>
          rw [asks] at known
          cases content with
          | binary bytes => cases known
          | text found => rw [Except.ok.inj known]

/-- Something is at the end of a path that leads to a taken place. -/
theorem get?_of_isTaken (taken : tree.isTaken path = true) :
    tree.get? (Path.place path) ≠ none := by
  intro free
  unfold isTaken find at taken
  cases located : tree.locate path with
  | error fault =>
    rw [located] at taken
    cases taken
  | ok found =>
    rw [located] at taken
    simp only [bind, Except.bind] at taken
    rw [eq_place_of_locate located, free] at taken
    cases taken

/-- A place that can be written without being taken holds nothing. -/
theorem get?_of_not_isTaken (untaken : tree.isTaken path = false)
    (writable : tree.fileAt path = .ok (found, prior)) : tree.get? found = none := by
  cases prior with
  | none => exact (fileAt_eq_ok_iff.mp writable).2.1
  | some content =>
    rw [isTaken, find_of_fileAt writable] at untaken
    cases untaken

end Writable

end FileTree
end ApiServices
