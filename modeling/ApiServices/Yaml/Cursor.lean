import ApiServices.Text.Basic

namespace ApiServices
namespace Yaml

/-!
# Positions in a YAML text

The place of a token on its line decides how blocks nest, and its place in
the text decides how long a simple key may still turn up.  A cursor carries
both along with the text that is left.
-/

/-- Characters that may stand in a text at all. -/
def isAllowed (c : Char) : Bool :=
  let n := c.toNat
  n == 0x9 || n == 0xA || n == 0xD || (0x20 <= n && n <= 0x7E) || n == 0x85
    || (0xA0 <= n && n != 0xFEFF && n != 0xFFFE && n != 0xFFFF)

def isLineBreak (c : Char) : Bool :=
  c == '\n' || c == '\r' || c == '\u0085' || c == '\u2028' || c == '\u2029'

def isSpaceOrTab (c : Char) : Bool :=
  c == ' ' || c == '\t'

/-- Letters, digits, hyphens and underscores. -/
def isWordChar (c : Char) : Bool :=
  c.isAlphanum || c == '-' || c == '_'

/-- White space, line breaks and the end of the text. -/
def endsWord : Option Char -> Bool
  | none => true
  | some c => isSpaceOrTab c || isLineBreak c

/-- Line breaks and the end of the text. -/
def endsLine : Option Char -> Bool
  | none => true
  | some c => isLineBreak c

/-- What is left of a text, and where it begins. -/
structure Cursor where
  rest : Text
  index : Nat
  line : Nat
  column : Nat

namespace Cursor

def start (text : Text) : Cursor :=
  ⟨text, 0, 0, 0⟩

/-- The next character. -/
def head? (cursor : Cursor) : Option Char :=
  cursor.rest.head?

/-- The character after the next `n`. -/
def get? (cursor : Cursor) (n : Nat) : Option Char :=
  cursor.rest[n]?

def isAt (cursor : Cursor) (c : Char) : Bool :=
  cursor.head? == some c

/-- Pass over `n` characters of a line. -/
def advance (cursor : Cursor) (n : Nat) : Cursor :=
  { cursor with
    rest := cursor.rest.drop n
    index := cursor.index + n
    column := cursor.column + n }

/-- Pass over the characters of a line that satisfy `p`. -/
def advanceWhile (cursor : Cursor) (p : Char -> Bool) : Cursor :=
  cursor.advance (cursor.rest.takeWhile p).length

/-- Pass over a line break; a carriage return and a line feed are one. -/
def nextLine (cursor : Cursor) : Cursor :=
  let width :=
    match cursor.rest with
    | '\r' :: '\n' :: _ => 2
    | _ => 1
  { rest := cursor.rest.drop width
    index := cursor.index + width
    line := cursor.line + 1
    column := 0 }

/-- How the next line break reads in a scalar: the two separators of Unicode
as they are, all others as a line feed. -/
def lineBreak (cursor : Cursor) : Text :=
  match cursor.head? with
  | none => []
  | some c => if c = '\u2028' || c = '\u2029' then [c] else ['\n']

/-- Pass over white space and a comment, up to the end of the line. -/
def skipToLineEnd (cursor : Cursor) : Cursor :=
  let after := cursor.advanceWhile isSpaceOrTab
  if after.isAt '#' then after.advanceWhile (!isLineBreak ·) else after

/-- Whether three equal characters stand here as a word of their own at the
beginning of a line. -/
def isAtMarker (cursor : Cursor) (c : Char) : Bool :=
  cursor.column == 0 && [c, c, c].isPrefixOf cursor.rest && endsWord (cursor.get? 3)

/-- Whether a line begins here that separates documents. -/
def isAtDocumentMarker (cursor : Cursor) : Bool :=
  cursor.isAtMarker '-' || cursor.isAtMarker '.'

end Cursor
end Yaml
end ApiServices
