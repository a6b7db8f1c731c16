import ApiServices.Text.Basic

namespace ApiServices

/-!
# Paths

Paths are texts with slashes in between.  Repeated slashes and steps to the
current directory carry no meaning, except that a relative path may begin
with one such step.  All operations here are lexical: they look at the text
of a path and not at a disk.
-/

/-- One step of a path. -/
inductive PathStep
  | root
  | current
  | parent
  | name (text : Text)
deriving DecidableEq

namespace PathStep

def text : PathStep -> Text
  | .root => ['/']
  | .current => ['.']
  | .parent => ['.', '.']
  | .name text => text

/-- The step that a nonempty text between slashes stands for. -/
def ofText (text : Text) : PathStep :=
  if text = ['.'] then .current
  else if text = ['.', '.'] then .parent
  else .name text

end PathStep

namespace Path

def isAbsolute (path : Text) : Bool :=
  path.head? == some '/'

/-- The texts between the slashes of a path, without the empty ones. -/
def parts (path : Text) : List Text :=
  Text.runsBetween (· == '/') path

/-- The steps of a path.  Steps to the current directory are left out, but for
one that opens a relative path. -/
def steps (path : Text) : List PathStep :=
  let named := (parts path).map PathStep.ofText
  let moving := named.filter (· != .current)
  if isAbsolute path then .root :: moving
  else if named.head? = some .current then .current :: moving
  else moving

/-- A path extended by one more part. -/
def join (path part : Text) : Text :=
  if part.head? = some '/' then part
  else if path.isEmpty || path.getLast? = some '/' then path ++ part
  else path ++ '/' :: part

/-- A path as it is seen from a directory.  The empty path leads nowhere from
anywhere. -/
def seenFrom (directory path : Text) : Text :=
  if path.isEmpty then [] else join directory path

/-- The absolute form of a path, seen from a working directory; the empty path
has none.  Steps to the parent directory are kept.  So are a slash at the end,
which says that a directory is meant, and exactly two slashes at the
beginning, whose meaning is left to the system. -/
def absolute? (workingDirectory path : Text) : Option Text :=
  if path.isEmpty then none
  else
    let start :=
      if !isAbsolute path then workingDirectory
      else if ['/', '/'].isPrefixOf path && !(['/', '/', '/'].isPrefixOf path) then ['/', '/']
      else ['/']
    let moves := (steps path).filter fun step => step != .root && step != .current
    let joined := (moves.map PathStep.text).foldl join start
    if path.getLast? = some '/' then some (join joined []) else some joined

/-- Take one more step from the place that earlier steps lead to.  A step to
the parent undoes the last step when there is one that can be undone; it stays
as it is where the path is empty or at the root. -/
def advance (place : List PathStep) : PathStep -> List PathStep
  | .root => [.root]
  | .current => place
  | .parent =>
    match place.getLast? with
    | none => place ++ [.parent]
    | some .root => place ++ [.parent]
    | some _ => place.dropLast
  | .name text => place ++ [.name text]

/-- The place a path leads to. -/
def normalized (path : Text) : List PathStep :=
  (steps path).foldl advance []

/-- Drop the common beginning of two lists. -/
def diverge : List PathStep -> List PathStep -> List PathStep × List PathStep
  | a :: as, b :: bs => if a = b then diverge as bs else (a :: as, b :: bs)
  | as, bs => (as, bs)

/-- How to get from one directory to the other: up to the last place they
share, and down from there. -/
def between (start goal : Text) : Text :=
  match diverge (normalized start) (normalized goal) with
  | (up, down) =>
    let route := up.map (fun _ => PathStep.parent.text) ++ down.map PathStep.text
    match route with
    | [] => ['.']
    | first :: _ =>
      if first = PathStep.parent.text then Text.joinWith ['/'] route
      else Text.joinWith ['/'] (['.'] :: route)

/-- The path by which the fixture file imports a service: from the tests
directory to the directory of the services, in the notation of module paths,
which begin with a dot. -/
def importPath (testsDir outputDir service extension : Text) : Text :=
  between testsDir outputDir ++ '/' :: service ++ extension

end Path
end ApiServices
