import ApiServices.Document.Value

namespace ApiServices
namespace Json

/-!
# Writing JSON

Two layouts of the same values: the compact one has no white space at all,
and the indented one puts every item and every member on a line of its own,
two spaces deeper than the brackets around it.
-/

def hexDigit (n : Nat) : Char :=
  (Nat.toDigits 16 (n % 16)).headD '0'

/-- How a character is written inside a string: quotation marks, backslashes
and control characters are escaped, the common ones by a letter. -/
def escapedChar (c : Char) : Text :=
  if c = '"' then ['\\', '"']
  else if c = '\\' then ['\\', '\\']
  else if c = '\n' then ['\\', 'n']
  else if c = '\r' then ['\\', 'r']
  else if c = '\t' then ['\\', 't']
  else if c = '\x08' then ['\\', 'b']
  else if c = '\x0c' then ['\\', 'f']
  else if c.toNat < 0x20 then
    ['\\', 'u', '0', '0', hexDigit (c.toNat / 16), hexDigit c.toNat]
  else [c]

def quoted (text : Text) : Text :=
  '"' :: text.flatMap escapedChar ++ ['"']

def scalar : Value -> Text
  | .null => "null".toList
  | .bool true => "true".toList
  | .bool false => "false".toList
  | .unsigned n => Text.ofNat n
  | .signed n => Text.ofInt n
  | .float x => x.dataText
  | .text t => quoted t
  | .list _ => []
  | .map _ => []

mutual

/-- The compact layout. -/
def compact : Value -> Text
  | .list items => '[' :: Text.joinWith [','] (compactItems items) ++ [']']
  | .map entries => '{' :: Text.joinWith [','] (compactMembers entries) ++ ['}']
  | value => scalar value

def compactItems : List Value -> List Text
  | [] => []
  | item :: rest => compact item :: compactItems rest

def compactMembers : List (Value × Value) -> List Text
  | [] => []
  | (key, value) :: rest => (compact key ++ ':' :: compact value) :: compactMembers rest

end

/-- The beginning of a line at a depth. -/
def newLine (depth : Nat) : Text :=
  '\n' :: List.replicate (2 * depth) ' '

/-- Brackets around parts that stand on lines of their own; nothing at all
stands between the brackets when there are no parts. -/
def bracketed (left right : Char) (depth : Nat) : List Text -> Text
  | [] => [left, right]
  | parts =>
    left :: Text.joinWith [','] (parts.map (newLine (depth + 1) ++ ·)) ++ newLine depth ++ [right]

mutual

/-- The indented layout, for a value that stands at a depth. -/
def indented (depth : Nat) : Value -> Text
  | .list items => bracketed '[' ']' depth (indentedItems (depth + 1) items)
  | .map entries => bracketed '{' '}' depth (indentedMembers (depth + 1) entries)
  | value => scalar value

def indentedItems (depth : Nat) : List Value -> List Text
  | [] => []
  | item :: rest => indented depth item :: indentedItems depth rest

def indentedMembers (depth : Nat) : List (Value × Value) -> List Text
  | [] => []
  | (key, value) :: rest =>
    (compact key ++ ':' :: ' ' :: indented depth value) :: indentedMembers depth rest

end

end Json
end ApiServices
