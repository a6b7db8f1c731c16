import ApiServices.Fixture.Printer
import ApiServices.Text.Blank

namespace ApiServices

/-!
# Reading the fixture file

The entries of a fixture file are its import lines.  Reading refuses a file
with an import that it cannot represent, because a line passed over in
silence would be a service lost in the next writing of the file.  The lines
of the two other blocks are not looked at.
-/

/-- Why a fixture file was refused, and the number of the line, from 1. -/
inductive FixtureError
  | unrecognisedImport (line : Nat) (content : Text)
  | notOneService (line : Nat) (binding : Text)
deriving DecidableEq

namespace FixtureError

def line : FixtureError -> Nat
  | .unrecognisedImport line _ => line
  | .notOneService line _ => line

def reason : FixtureError -> Text
  | .unrecognisedImport _ content =>
    "unrecognised import `".toList ++ content ++ "`".toList
  | .notOneService _ binding =>
    "expected a single service in `\x7b ".toList ++ binding ++ " \x7d`".toList

def message (error : FixtureError) : Text :=
  "refusing to merge fixture file, line ".toList ++ Text.ofNat error.line ++ ": ".toList
    ++ error.reason

end FixtureError

/-- The binding and the module path of an import line. -/
structure FixtureImport where
  binding : Text
  path : Text
deriving DecidableEq

namespace FixtureImport

/-- Whether a trimmed line counts as an import: the word, and after it
nothing, a space, a tab or an opening brace. -/
def isImport (line : Text) : Bool :=
  match "import".toList.isPrefixOf? line with
  | none => false
  | some [] => true
  | some (c :: _) => c == ' ' || c == '\t' || c == '{'

def isQuote (c : Char) : Bool :=
  c == '\'' || c == '"'

/-- Read what stands in braces, and what follows them. -/
def braced? : Text -> Option (Text × Text)
  | '{' :: rest =>
    match rest.dropWhile (· != '}') with
    | [] => none
    | _ :: after => some (rest.takeWhile (· != '}'), after)
  | _ => none

/-- Read a path in quotes of either kind, and what follows them. -/
def quoted? : Text -> Option (Text × Text)
  | [] => none
  | c :: rest =>
    match rest.takeWhile (!isQuote ·), rest.dropWhile (!isQuote ·) with
    | p :: path, _ :: after => if isQuote c then some (p :: path, after) else none
    | _, _ => none

/-- Read `import { binding } from 'path';` with white space anywhere between
the parts and around the binding.  The semicolon may be missing. -/
def parse? (line : Text) : Option FixtureImport := do
  let afterWord ← "import".toList.isPrefixOf? line
  let (inside, afterBraces) ← braced? (Text.dropBlanks afterWord)
  let afterFrom ← "from".toList.isPrefixOf? (Text.dropBlanks afterBraces)
  let (path, afterPath) ← quoted? (Text.dropBlanks afterFrom)
  match Text.dropBlanks afterPath with
  | [] => some ⟨Text.trim inside, path⟩
  | [';'] => some ⟨Text.trim inside, path⟩
  | _ => none

end FixtureImport

namespace FixtureSet

/-- What a line of the file says: an entry, or nothing. -/
def readLine (number : Nat) (line : Text) : Except FixtureError (Option (Text × Text)) :=
  if FixtureImport.isImport (Text.trim line) then
    match FixtureImport.parse? (Text.trim line) with
    | none => .error (.unrecognisedImport number (Text.trim line))
    | some found =>
      if found.path = frameworkModule then .ok none
      else if found.binding.isEmpty || found.binding.contains ',' then
        .error (.notOneService number found.binding)
      else .ok (some (found.binding, found.path))
  else .ok none

/-- Add an entry that was read; a service that is there already gets the
later path. -/
def addRead (set : FixtureSet) (entry : Text × Text) : Logged FixtureError FixtureSet := do
  if (set.get? entry.1).isSome then
    Logged.note .warn <|
      "fixture file imports ".toList ++ entry.1 ++ " twice, keeping the last path".toList
  return set.insert entry.1 entry.2

/-- Read numbered lines from top to bottom. -/
def readLines (set : FixtureSet) (number : Nat) : List Text -> Logged FixtureError FixtureSet
  | [] => pure set
  | line :: rest => do
    match ← Logged.ofExcept (readLine number line) with
    | none => readLines set (number + 1) rest
    | some entry =>
      let grown ← addRead set entry
      readLines grown (number + 1) rest

/-- The entries of a fixture file. -/
def parse (text : Text) : Logged FixtureError FixtureSet :=
  readLines Keyed.empty 1 (Text.lines text)

end FixtureSet

/-- The fixture file after a run: the batch merged into the entries of the
existing text, if there is one. -/
def mergeFixtureFile (existing : Option Text) (batch : List (Text × Text)) :
    Logged FixtureError Text := do
  let set : FixtureSet ← match existing with
    | none => pure Keyed.empty
    | some text => FixtureSet.parse text
  let grown ← FixtureSet.merge set batch
  return FixtureSet.render grown

end ApiServices
