import ApiServices.Yaml.Cursor
import ApiServices.Yaml.Token

namespace ApiServices
namespace Yaml

/-!
# Names, tags and directives

The tokens that say something about nodes without being nodes.  Every reader
begins at the character that announces its token and gives the cursor behind
it; there is no result if the text breaks the rules.
-/

/-- Read the name of an anchor or an alias. -/
def anchorName? (cursor : Cursor) : Option (Text × Cursor) :=
  let begin := cursor.advance 1
  let name := begin.rest.takeWhile isWordChar
  let after := begin.advance name.length
  let ended :=
    endsWord after.head? || after.head?.any fun c => "?:,]\x7d%@`".toList.contains c
  if name.isEmpty || !ended then none else some (name, after)

/-- Characters of a resource identifier, apart from percent signs. -/
def isUriChar (verbatim : Bool) (c : Char) : Bool :=
  isWordChar c || ";/?:@&=+$.!~*'()".toList.contains c || (verbatim && ",[]".toList.contains c)

def hexNibble? (c : Char) : Option Nat :=
  if c.isDigit then some (c.toNat - '0'.toNat)
  else if 'a' <= c && c <= 'f' then some (c.toNat - 'a'.toNat + 10)
  else if 'A' <= c && c <= 'F' then some (c.toNat - 'A'.toNat + 10)
  else none

/-- Read a byte written as a percent sign and two hexadecimal digits. -/
def escapedByte? : Text -> Option (Nat × Text)
  | '%' :: a :: b :: rest => do some ((← hexNibble? a) * 16 + (← hexNibble? b), rest)
  | _ => none

/-- Read `n` more bytes of an escaped character. -/
def escapedTail? (code : Nat) : Nat -> Text -> Option (Nat × Text)
  | 0, text => some (code, text)
  | n + 1, text => do
    let (byte, rest) ← escapedByte? text
    if byte / 0x40 = 2 then escapedTail? (code * 0x40 + byte % 0x40) n rest else none

/-- Read a character written as escaped bytes. -/
def escapedUriChar? (text : Text) : Option (Char × Text) := do
  let (byte, rest) ← escapedByte? text
  let (code, rest) ←
    if byte < 0x80 then some (byte, rest)
    else if byte / 0x20 = 6 then escapedTail? (byte % 0x20) 1 rest
    else if byte / 0x10 = 0xE then escapedTail? (byte % 0x10) 2 rest
    else if byte / 0x8 = 0x1E then escapedTail? (byte % 0x8) 3 rest
    else none
  some (Char.ofNat code, rest)

/-- Read the characters of a resource identifier; the number bounds them. -/
def uriChars? (verbatim : Bool) : Nat -> Text -> Option (Text × Text)
  | 0, text => some ([], text)
  | fuel + 1, text =>
    match text with
    | [] => some ([], [])
    | c :: rest => do
      if c = '%' then
        let (decoded, rest) ← escapedUriChar? (c :: rest)
        let (more, after) ← uriChars? verbatim fuel rest
        some (decoded :: more, after)
      else if isUriChar verbatim c then
        let (more, after) ← uriChars? verbatim fuel rest
        some (c :: more, after)
      else some ([], c :: rest)

/-- Read a resource identifier that follows what has been read of it already;
together they may not be empty. -/
def uri? (verbatim : Bool) (before : Text) (cursor : Cursor) : Option (Text × Cursor) := do
  let (found, after) ← uriChars? verbatim cursor.rest.length cursor.rest
  if before.isEmpty && found.isEmpty then none
  else some (before.drop 1 ++ found, cursor.advance (cursor.rest.length - after.length))

/-- Read the handle of a tag: one exclamation mark, or a word between two. -/
def tagHandle? (cursor : Cursor) : Option (Text × Cursor) :=
  if cursor.isAt '!' then
    let word := (cursor.advance 1).rest.takeWhile isWordChar
    let after := cursor.advance (1 + word.length)
    if after.isAt '!' then some ('!' :: word ++ ['!'], after.advance 1)
    else some ('!' :: word, after)
  else none

/-- Read a tag, as a handle and a suffix. -/
def tag? (inFlow : Bool) (cursor : Cursor) : Option (Token × Cursor) := do
  let (handle, suffix, after) ←
    if cursor.get? 1 = some '<' then do
      let (suffix, after) ← uri? true [] (cursor.advance 2)
      if after.isAt '>' then some ([], suffix, after.advance 1) else none
    else do
      let (handle, rest) ← tagHandle? cursor
      if 2 <= handle.length && handle.getLast? = some '!' then
        let (suffix, after) ← uri? false [] rest
        some (handle, suffix, after)
      else
        let (suffix, after) ← uri? false handle rest
        if suffix.isEmpty then some ([], ['!'], after) else some (['!'], suffix, after)
  if endsWord after.head? || (inFlow && after.isAt ',') then some (.tag handle suffix, after)
  else none

/-- Read a number of at most nine digits. -/
def versionNumber? (cursor : Cursor) : Option (Nat × Cursor) :=
  let digits := cursor.rest.takeWhile Char.isDigit
  if digits.isEmpty || 9 < digits.length then none
  else
    let number := digits.foldl (fun n c => n * 10 + (c.toNat - '0'.toNat)) 0
    some (number, cursor.advance digits.length)

/-- Read what follows `%YAML`. -/
def versionDirective? (cursor : Cursor) : Option (Token × Cursor) := do
  let (major, after) ← versionNumber? (cursor.advanceWhile isSpaceOrTab)
  if after.isAt '.' then
    let (minor, after) ← versionNumber? (after.advance 1)
    some (.versionDirective major minor, after)
  else none

/-- Read what follows `%TAG`. -/
def tagDirective? (cursor : Cursor) : Option (Token × Cursor) := do
  let (handle, after) ← tagHandle? (cursor.advanceWhile isSpaceOrTab)
  if handle.getLast? != some '!' || !(after.head?.any isSpaceOrTab) then none
  else
    let (uri, after) ← uri? true [] (after.advanceWhile isSpaceOrTab)
    if endsWord after.head? then some (.tagDirective handle uri, after) else none

/-- Read a directive and the end of its line. -/
def directive? (cursor : Cursor) : Option (Token × Cursor) := do
  let begin := cursor.advance 1
  let name := begin.rest.takeWhile isWordChar
  let afterName := begin.advance name.length
  if !endsWord afterName.head? then none
  else
    let (token, after) ←
      if name = "YAML".toList then versionDirective? afterName
      else if name = "TAG".toList then tagDirective? afterName
      else none
    let lineEnd := after.skipToLineEnd
    if !endsLine lineEnd.head? then none
    else some (token, if lineEnd.rest.isEmpty then lineEnd else lineEnd.nextLine)

end Yaml
end ApiServices
