import ApiServices.Disk.Basic
import ApiServices.Keyed
import ApiServices.Path

namespace ApiServices

/-!
# File trees

A tree says what is at which place.  A place is the list of names on the way
to it; the root is the empty list, and there is always a directory.

A path is followed from the root, part by part.  Every place on the way has to
be a directory, also where the next part leads back out of it.  Only the last
part may lead to a place where nothing is.
-/

/-- The names on the way from the root. -/
abbrev Place := List Text

/-- What is at the places other than the root. -/
structure FileTree where
  entries : Keyed Place DiskEntry
deriving DecidableEq

namespace FileTree

/-- A disk that holds nothing but its root. -/
def bare : FileTree :=
  ⟨Keyed.empty⟩

def get? (tree : FileTree) : Place -> Option DiskEntry
  | [] => some .directory
  | name :: names => tree.entries.get? (name :: names)

def put (tree : FileTree) (place : Place) (entry : DiskEntry) : FileTree :=
  ⟨tree.entries.insert place entry⟩

@[simp] theorem get?_root (tree : FileTree) : tree.get? [] = some .directory := rfl

/-- Putting an entry at a place under the root changes that place alone. -/
theorem get?_put (tree : FileTree) (place other : Place) (entry : DiskEntry)
    (below : place ≠ []) :
    (tree.put place entry).get? other =
      if other = place then some entry else tree.get? other := by
  cases other with
  | nil => simp [Ne.symm below]
  | cons name names => exact Keyed.get?_insert tree.entries place (name :: names) entry

/-! ## Following a path -/

/-- How many bytes a name may have. -/
def nameLimit : Nat := 255

/-- How many bytes a path may have. -/
def pathLimit : Nat := 4095

/-- What is wrong with a path wherever it leads. -/
def pathFault? (path : Text) : Option DiskError :=
  if path.isEmpty then some .notFound
  else if path.contains '\x00' then some .nulInPath
  else if pathLimit < Text.byteSize path then some .nameTooLong
  else none

/-- Where a part of a path leads to from a directory. -/
def step (place : Place) (part : Text) : Except DiskError Place :=
  match PathStep.ofText part with
  | .root => .ok place
  | .current => .ok place
  | .parent => .ok place.dropLast
  | .name text =>
    if nameLimit < Text.byteSize text then .error .nameTooLong else .ok (place ++ [text])

/-- Go from a directory into another one. -/
def enter (tree : FileTree) (place : Place) (part : Text) : Except DiskError Place := do
  let next ← step place part
  match tree.get? next with
  | some .directory => .ok next
  | some (.file _) => .error .notADirectory
  | none => .error .notFound

/-- The place that a path leads to. -/
def locate (tree : FileTree) (path : Text) : Except DiskError Place :=
  match pathFault? path with
  | some fault => .error fault
  | none =>
    match (Path.parts path).getLast? with
    | none => .ok []
    | some last => do
      let parent ← (Path.parts path).dropLast.foldlM (enter tree) []
      step parent last

/-- Whether a path ends in a slash, so that it has to lead to a directory. -/
def asksForDirectory (path : Text) : Bool :=
  path.getLast? == some '/'

/-- What is at the end of a path. -/
def find (tree : FileTree) (path : Text) : Except DiskError DiskEntry := do
  match tree.get? (← tree.locate path) with
  | none => .error .notFound
  | some .directory => .ok .directory
  | some (.file content) =>
    if asksForDirectory path then .error .notADirectory else .ok (.file content)

/-! ## Questions -/

/-- Whether there is anything at the end of a path. -/
def isTaken (tree : FileTree) (path : Text) : Bool :=
  match tree.find path with
  | .ok _ => true
  | .error _ => false

/-- The text of the file at the end of a path. -/
def read (tree : FileTree) (path : Text) : Except DiskError Text := do
  match ← tree.find path with
  | .directory => .error .isADirectory
  | .file content => content.text?

/-! ## Changes -/

/-- The place of a file that may be written: there is one, or nothing yet. -/
def fileAt (tree : FileTree) (path : Text) : Except DiskError (Place × Option FileContent) := do
  let place ← tree.locate path
  match tree.get? place with
  | some .directory => .error .isADirectory
  | some (.file content) =>
    if asksForDirectory path then .error .isADirectory else .ok (place, some content)
  | none => if asksForDirectory path then .error .isADirectory else .ok (place, none)

/-- Make a file hold a content, whatever it held before. -/
def write (tree : FileTree) (path : Text) (content : FileContent) : Except DiskError FileTree := do
  let (place, _) ← tree.fileAt path
  .ok (tree.put place (.file content))

/-- Open a file, with an empty one made where nothing is. -/
def openFile (tree : FileTree) (path : Text) : Except DiskError FileTree := do
  match ← tree.fileAt path with
  | (_, some _) => .ok tree
  | (place, none) => .ok (tree.put place (.file (.text [])))

/-- Make the directories on the way that are missing.  A file in the way is
reported as being there already when the directory to be made is the first one
missing or lies behind one that has just been made, and as being no directory
otherwise.  What has been made stays when a later one cannot be made. -/
def makeDirsFrom (tree : FileTree) (place : Place) (begun : Bool) :
    List Text -> FileTree × Except DiskError Unit
  | [] => (tree, .ok ())
  | part :: rest =>
    match step place part with
    | .error fault => (tree, .error fault)
    | .ok next =>
      match tree.get? next with
      | some .directory => makeDirsFrom tree next begun rest
      | some (.file _) =>
        (tree, .error (if begun || rest.isEmpty then .alreadyExists else .notADirectory))
      | none => makeDirsFrom (tree.put next .directory) next true rest

/-- Make a directory and those on the way to it. -/
def makeDirs (tree : FileTree) (path : Text) : FileTree × Except DiskError Unit :=
  match pathFault? path with
  | some fault => (tree, .error fault)
  | none => makeDirsFrom tree [] false (Path.parts path)

/-- Remove what is at a place, and everything under it. -/
def prune (tree : FileTree) (place : Place) : FileTree :=
  ⟨tree.entries.filterKeys fun other => !place.isPrefixOf other⟩

/-- Remove what is at the end of a path, and everything under it. -/
def remove (tree : FileTree) (path : Text) : Except DiskError FileTree := do
  let _ ← tree.find path
  .ok (tree.prune (← tree.locate path))

end FileTree
end ApiServices
