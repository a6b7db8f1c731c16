import ApiServices.Yaml.Cursor
import ApiServices.Yaml.Token

namespace ApiServices
namespace Yaml

/-!
# Block scalars

A block scalar is a run of lines with a common indentation.  A literal one
keeps its line breaks; a folded one turns single line breaks between lines
that do not begin with white space into spaces.  What happens to the line
breaks at the end is for the header to say.
-/

namespace Block

/-- What is kept of the line breaks at the end. -/
inductive Chomping
  | strip
  | clip
  | keep
deriving DecidableEq

structure Header where
  chomping : Chomping
  /-- The indentation, when it is given, counted from the surrounding block. -/
  increment : Option Nat

def chomping? : Option Char -> Option Chomping
  | some '+' => some .keep
  | some '-' => some .strip
  | _ => none

/-- Read an indentation of one digit, which may be missing but not zero. -/
def increment? (cursor : Cursor) : Option (Option Nat × Cursor) :=
  match cursor.head? with
  | some c =>
    if c = '0' then none
    else if c.isDigit then some (some (c.toNat - '0'.toNat), cursor.advance 1)
    else some (none, cursor)
  | none => some (none, cursor)

/-- Read the two parts of the header, in either order. -/
def header? (cursor : Cursor) : Option (Header × Cursor) :=
  match chomping? cursor.head? with
  | some chomping => do
    let (increment, after) ← increment? (cursor.advance 1)
    some (⟨chomping, increment⟩, after)
  | none => do
    let (increment, after) ← increment? cursor
    match increment, chomping? after.head? with
    | some _, some chomping => some (⟨chomping, increment⟩, after.advance 1)
    | _, _ => some (⟨.clip, increment⟩, after)

/-- Empty lines: their line breaks, the widest indentation of the lines that
were passed, and where the next line with content begins. -/
structure EmptyLines where
  breaks : Text
  widest : Nat
  cursor : Cursor

/-- Pass over empty lines, taking no more than `indent` spaces off each line if
it is known.  A tab may not stand in the indentation.  There are no more lines
than `bound` has characters; it is the text at the cursor. -/
def emptyLines? (indent : Option Nat) (bound : Text) (lines : EmptyLines) : Option EmptyLines :=
  match bound with
  | [] => some lines
  | _ :: bound =>
    let inIndent (column : Nat) : Bool := indent.all (column < ·)
    let spaces := (lines.cursor.rest.takeWhile (· == ' ')).length
    let taken :=
      match indent with
      | none => spaces
      | some indent => min spaces (indent - lines.cursor.column)
    let cursor := lines.cursor.advance taken
    let widest := max lines.widest cursor.column
    if inIndent cursor.column && cursor.isAt '\t' then none
    else if cursor.rest.isEmpty || !endsLine cursor.head? then
      some ⟨lines.breaks, widest, cursor⟩
    else emptyLines? indent bound ⟨lines.breaks ++ cursor.lineBreak, widest, cursor.nextLine⟩

/-- What has been read of a scalar: its text, the break after its last line,
the breaks of the empty lines after that, and whether the last line began with
white space. -/
structure Progress where
  text : Text
  lastBreak : Text
  breaks : Text
  afterBlank : Bool
  cursor : Cursor

/-- What the breaks between two lines contribute. -/
def joint (style : ScalarStyle) (progress : Progress) (beforeBlank : Bool) : Text :=
  if style = .folded && progress.lastBreak = ['\n'] && !progress.afterBlank && !beforeBlank then
    if progress.breaks.isEmpty then [' '] else progress.breaks
  else progress.lastBreak ++ progress.breaks

/-- Read the lines that have the indentation.  There are no more of them than
`bound` has characters; it is the text at the beginning of the first one. -/
def lines? (style : ScalarStyle) (indent : Nat) (bound : Text) (progress : Progress) :
    Option Progress :=
  match bound with
  | [] => some progress
  | _ :: bound =>
    let cursor := progress.cursor
    if cursor.column != indent || cursor.rest.isEmpty then some progress
    else do
      let beginsBlank := cursor.head?.any isSpaceOrTab
      let line := cursor.rest.takeWhile (!isLineBreak ·)
      let lineEnd := cursor.advance line.length
      let after := if lineEnd.rest.isEmpty then lineEnd else lineEnd.nextLine
      let empty ← emptyLines? (some indent) after.rest ⟨[], 0, after⟩
      lines? style indent bound
        ⟨progress.text ++ joint style progress beginsBlank ++ line, lineEnd.lineBreak,
          empty.breaks, beginsBlank, empty.cursor⟩

/-- Read a block scalar inside a block that is indented by `parent`. -/
def scalar? (style : ScalarStyle) (parent : Int) (cursor : Cursor) : Option (Text × Cursor) := do
  let (header, afterHeader) ← header? (cursor.advance 1)
  let lineEnd := afterHeader.skipToLineEnd
  if !endsLine lineEnd.head? then none
  let begin := if lineEnd.rest.isEmpty then lineEnd else lineEnd.nextLine
  let given := header.increment.map fun n => (max parent 0).toNat + n
  let empty ← emptyLines? given begin.rest ⟨[], 0, begin⟩
  let indent := given.getD (max empty.widest (max (parent + 1).toNat 1))
  let read ← lines? style indent empty.cursor.rest
    ⟨[], [], empty.breaks, false, empty.cursor⟩
  let tail :=
    match header.chomping with
    | .strip => []
    | .clip => read.lastBreak
    | .keep => read.lastBreak ++ read.breaks
  some (read.text ++ tail, read.cursor)

end Block
end Yaml
end ApiServices
