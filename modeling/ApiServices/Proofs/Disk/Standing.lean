import ApiServices.Proofs.Disk.Changes
import ApiServices.Proofs.Keyed.Insertion

namespace ApiServices

/-!
# What stands in a tree

A request that has succeeded once finds its way prepared from then on: the
directories that it made or went through are there, and so is the file that it
wrote.  Since directories stay directories and files stay files, neither can be
lost again, whatever else is made or written.  Making the directories anew then
changes nothing, and the file can be opened, read and written.

Writing to files that are there neither adds nor moves entries.  So a tree is
itself again once the content that each file had is written last.
-/

namespace Changes

variable {dirs files : Place -> Prop} {before after : FileTree} {place : Place}

/-- Files stay files. -/
theorem file (changes : Changes dirs files before after) {content : FileContent}
    (here : before.get? place = some (.file content)) :
    Exists fun content => after.get? place = some (.file content) := by
  have fate := changes place
  rw [here] at fate
  generalize after.get? place = entry at fate
  cases fate with
  | kept => exact ⟨content, rfl⟩
  | written _ _ content => exact ⟨content, rfl⟩

end Changes

namespace FileTree

variable {tree left before after : FileTree} {path : Text} {dirs files : Place -> Prop}

/-! ## Directories -/

/-- A path that can be followed to its end through directories. -/
structure HasDirs (tree : FileTree) (path : Text) : Prop where
  faultless : pathFault? path = none
  followed : Exists fun reached => (Path.parts path).foldlM (enter tree) [] = .ok reached

theorem HasDirs.of_changes (standing : HasDirs before path)
    (changes : Changes dirs files before after) : HasDirs after path := by
  rcases standing.followed with ⟨reached, followed⟩
  exact ⟨standing.faultless, reached,
    foldlM_enter_of_directories (fun _ here => changes.directory here) followed⟩

/-- Every place on the way through directories is one. -/
theorem directory_of_foldlM_enter {start reached : Place} {parts : List Text}
    (here : tree.get? start = some .directory)
    (followed : parts.foldlM (enter tree) start = .ok reached) (count : Nat) :
    tree.get? (Path.walk start (parts.take count)) = some .directory := by
  induction parts generalizing start count with
  | nil =>
    rw [List.take_nil]
    exact here
  | cons part rest ih =>
    cases count with
    | zero => exact here
    | succ fewer =>
      rw [List.foldlM_cons] at followed
      cases entered : enter tree start part with
      | error fault =>
        rw [entered] at followed
        cases followed
      | ok next =>
        rw [entered] at followed
        obtain ⟨stepped, there⟩ := enter_eq_ok_iff.mp entered
        rw [List.take_succ_cons, Path.walk_cons, ← eq_nextPlace_of_step stepped]
        exact ih there followed fewer

theorem HasDirs.directory_of_onWay (standing : HasDirs tree path) {place : Place}
    (passed : Path.OnWay path place) : tree.get? place = some .directory := by
  rcases standing.followed with ⟨reached, followed⟩
  rcases passed with ⟨count, same⟩
  rw [same]
  exact directory_of_foldlM_enter (get?_root tree) followed count

/-- Where all directories are there, none is made. -/
theorem makeDirsFrom_of_foldlM_enter {start reached : Place} {begun : Bool} {parts : List Text}
    (followed : parts.foldlM (enter tree) start = .ok reached) :
    tree.makeDirsFrom start begun parts = (tree, .ok ()) := by
  induction parts generalizing start begun with
  | nil => rfl
  | cons part rest ih =>
    rw [List.foldlM_cons] at followed
    cases entered : enter tree start part with
    | error fault =>
      rw [entered] at followed
      cases followed
    | ok next =>
      rw [entered] at followed
      obtain ⟨stepped, here⟩ := enter_eq_ok_iff.mp entered
      rw [makeDirsFrom, stepped]
      simp only [here]
      exact ih followed

theorem makeDirs_of_hasDirs (standing : HasDirs tree path) :
    tree.makeDirs path = (tree, .ok ()) := by
  rcases standing.followed with ⟨reached, followed⟩
  rw [makeDirs, standing.faultless]
  exact makeDirsFrom_of_foldlM_enter followed

/-- Directories that have been made can be followed. -/
theorem foldlM_enter_of_makeDirsFrom {start : Place} {begun : Bool} {parts : List Text}
    (made : (tree.makeDirsFrom start begun parts).2 = .ok ()) :
    Exists fun reached =>
      parts.foldlM (enter (tree.makeDirsFrom start begun parts).1) start = .ok reached := by
  induction parts generalizing tree start begun with
  | nil => exact ⟨start, rfl⟩
  | cons part rest ih =>
    unfold makeDirsFrom at made ⊢
    cases stepped : step start part with
    | error fault =>
      rw [stepped] at made
      cases made
    | ok next =>
      rw [stepped] at made
      -- Whatever is made further on, the first place stays a directory.
      have further : forall (tree : FileTree) (begun : Bool),
          tree.get? next = some .directory ->
          (tree.makeDirsFrom next begun rest).2 = .ok () ->
          Exists fun reached =>
            (part :: rest).foldlM (enter (tree.makeDirsFrom next begun rest).1) start =
              .ok reached := by
        intro tree begun here made
        rcases ih made with ⟨reached, followed⟩
        have stays := (changes_makeDirsFrom tree next begun rest).directory here
        refine ⟨reached, ?_⟩
        rw [List.foldlM_cons, enter_eq_ok_iff.mpr ⟨stepped, stays⟩]
        exact followed
      cases found : tree.get? next with
      | none =>
        simp only [found] at made ⊢
        have below : next ≠ [] := by
          apply ne_root_of_get?
          rw [found]
          intro impossible
          cases impossible
        refine further (tree.put next .directory) true ?_ made
        rw [get?_put tree next next .directory below, if_pos rfl]
      | some entry =>
        cases entry with
        | directory =>
          simp only [found] at made ⊢
          exact further tree begun found made
        | file content =>
          simp only [found] at made
          cases made

theorem hasDirs_of_makeDirs (made : tree.makeDirs path = (left, .ok ())) : HasDirs left path := by
  unfold makeDirs at made
  cases fault : pathFault? path with
  | none =>
    rw [fault] at made
    change tree.makeDirsFrom [] false (Path.parts path) = _ at made
    have followed := foldlM_enter_of_makeDirsFrom (congrArg Prod.snd made)
    rw [made] at followed
    exact ⟨fault, followed⟩
  | some cause =>
    rw [fault] at made
    cases congrArg Prod.snd made

/-! ## Files -/

/-- A path that leads to a file. -/
def HasFile (tree : FileTree) (path : Text) : Prop :=
  Exists fun content => tree.fileAt path = .ok (Path.place path, some content)

theorem hasFile_of_fileAt {found : Place} {content : FileContent}
    (writable : tree.fileAt path = .ok (found, some content)) : HasFile tree path :=
  ⟨content, eq_place_of_fileAt writable ▸ writable⟩

theorem HasFile.of_changes (standing : HasFile before path)
    (changes : Changes dirs files before after) : HasFile after path := by
  rcases standing with ⟨content, writable⟩
  obtain ⟨located, here, other⟩ := fileAt_eq_ok_iff.mp writable
  rcases changes.file here with ⟨latter, there⟩
  exact ⟨latter, fileAt_eq_ok_iff.mpr
    ⟨locate_of_directories (fun _ here => changes.directory here) located, there, other⟩⟩

theorem hasFile_of_write {content : FileContent} (written : tree.write path content = .ok left) :
    HasFile left path := by
  rcases fileAt_of_write written with ⟨found, prior, writable, result⟩
  rw [result]
  exact hasFile_of_fileAt (fileAt_put content writable)

theorem hasFile_of_openFile (opened : tree.openFile path = .ok left) : HasFile left path := by
  rcases fileAt_of_openFile opened with ⟨found, ⟨same, content, writable⟩ | ⟨made, free⟩⟩
  · rw [same]
    exact hasFile_of_fileAt writable
  · rw [made]
    exact hasFile_of_fileAt (fileAt_put (.text []) free)

theorem HasFile.write (standing : HasFile tree path) (content : FileContent) :
    tree.write path content = .ok (tree.put (Path.place path) (.file content)) := by
  rcases standing with ⟨former, writable⟩
  exact write_of_fileAt content writable

theorem HasFile.openFile (standing : HasFile tree path) : tree.openFile path = .ok tree := by
  rcases standing with ⟨content, writable⟩
  rw [FileTree.openFile, writable]
  rfl

/-- What a path leads to is what is in its place. -/
theorem HasFile.read (standing : HasFile tree path) {content : FileContent}
    (here : tree.get? (Path.place path) = some (.file content)) :
    tree.read path = content.text? := by
  rcases standing with ⟨former, writable⟩
  have same := (fileAt_eq_ok_iff.mp writable).2.1
  rw [here] at same
  rw [read_of_fileAt writable, ← DiskEntry.file.inj (Option.some.inj same)]

/-! ## Taken places -/

theorem isTaken_of_hasFile (standing : HasFile tree path) : tree.isTaken path = true := by
  rcases standing with ⟨content, writable⟩
  rw [isTaken, find_of_fileAt writable]

/-! ## Writing again -/

/-- Two trees differ at most in the contents of the files at some places. -/
structure Rewrites (files : Place -> Prop) (before after : FileTree) : Prop where
  changes : Changes nowhere files before after
  keys : after.entries.keys = before.entries.keys
  entries : forall place, ¬files place -> after.entries.get? place = before.entries.get? place

theorem rewrites_refl (files : Place -> Prop) (tree : FileTree) : Rewrites files tree tree where
  changes := Changes.refl tree
  keys := rfl
  entries := fun _ _ => rfl

theorem Rewrites.eq (rewrites : Rewrites nowhere before after) : after = before := by
  cases before
  cases after
  congr
  exact Keyed.eq_of_get? rewrites.keys fun place => rewrites.entries place id

theorem entries_get?_of_file {place : Place} {content : FileContent}
    (here : tree.get? place = some (.file content)) :
    tree.entries.get? place = some (.file content) := by
  cases place with
  | nil => cases here
  | cons name names => exact here

theorem get?_eq_of_entries {place : Place}
    (same : after.entries.get? place = before.entries.get? place) :
    after.get? place = before.get? place := by
  cases place with
  | nil => rfl
  | cons name names => exact same

/-- Writing to a place is one more difference, but at places that get the
content of the first tree there is none from then on. -/
theorem Rewrites.put {more : Place -> Prop} (rewrites : Rewrites files before after) {place : Place}
    {former content : FileContent} (here : before.get? place = some (.file former))
    (still : forall other, ¬more other ->
      (other = place ∧ before.get? place = some (.file content)) ∨
        (other ≠ place ∧ ¬files other)) :
    Rewrites more before (after.put place (.file content)) := by
  have below : place ≠ [] := by
    intro root
    rw [root] at here
    cases here
  have entries : forall other, ¬more other ->
      (after.put place (.file content)).entries.get? other = before.entries.get? other := by
    intro other kept
    change (after.entries.insert place (.file content)).get? other = _
    rw [Keyed.get?_insert]
    rcases still other kept with ⟨same, written⟩ | ⟨apart, outside⟩
    · rw [if_pos same, same, entries_get?_of_file written]
    · rw [if_neg apart, rewrites.entries other outside]
  refine ⟨?_, ?_, entries⟩
  · intro other
    by_cases allowed : more other
    · rw [get?_put after place other (.file content) below]
      by_cases same : other = place
      · rw [if_pos same, same, here]
        exact Fate.written (same ▸ allowed) _ content (fun impossible => nomatch impossible)
      · rw [if_neg same]
        exact (rewrites.changes other).mono id fun _ => allowed
    · rw [get?_eq_of_entries (entries other allowed)]
      exact Fate.kept _
  · change (after.entries.insert place (.file content)).keys = _
    rw [Keyed.keys_insert, rewrites.keys, if_pos]
    exact Keyed.mem_keys_of_get? (entries_get?_of_file here)

end FileTree
end ApiServices
