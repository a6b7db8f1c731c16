import ApiServices.Document.Node
import ApiServices.Json.Numeral

namespace ApiServices
namespace Json

/-!
# Reading JSON

A JSON text is read into a tree in one pass.  Where it breaks the grammar the
tree is cut, and what comes after is not looked at.

Two faults do not break the grammar and are left to whoever reads the tree:
a number that no double can hold, and half of a surrogate pair in a string.
Both are harmless in parts that are skipped.
-/

def isSpace (c : Char) : Bool :=
  c == ' ' || c == '\n' || c == '\t' || c == '\r'

def skipSpace (text : Text) : Text :=
  text.dropWhile isSpace

def hexValue? (c : Char) : Option Nat :=
  if c.isDigit then some (c.toNat - '0'.toNat)
  else if 'a' <= c && c <= 'f' then some (c.toNat - 'a'.toNat + 10)
  else if 'A' <= c && c <= 'F' then some (c.toNat - 'A'.toNat + 10)
  else none

/-- The number that four hexadecimal digits spell. -/
def hexUnit? (a b c d : Char) : Option Nat := do
  let high := (← hexValue? a) * 16 + (← hexValue? b)
  let low := (← hexValue? c) * 16 + (← hexValue? d)
  some (high * 256 + low)

/-- What a backslash and a letter stand for. -/
def unescaped? (c : Char) : Option Char :=
  if c = '"' || c = '\\' || c = '/' then some c
  else if c = 'b' then some '\x08'
  else if c = 'f' then some '\x0c'
  else if c = 'n' then some '\n'
  else if c = 'r' then some '\r'
  else if c = 't' then some '\t'
  else none

/-- Read a string after its opening quote, and give the text after its closing
quote.  The result holds code points, and surrogates as they were escaped. -/
def stringUnits? : Text -> Option (List Nat × Text)
  | [] => none
  | '"' :: rest => some ([], rest)
  | '\\' :: 'u' :: a :: b :: c :: d :: rest => do
    let unit ← hexUnit? a b c d
    let (units, after) ← stringUnits? rest
    some (unit :: units, after)
  | '\\' :: c :: rest => do
    let plain ← unescaped? c
    let (units, after) ← stringUnits? rest
    some (plain.toNat :: units, after)
  | c :: rest => do
    if c.toNat < 0x20 then none
    else
      let (units, after) ← stringUnits? rest
      some (c.toNat :: units, after)

def isHighSurrogate (unit : Nat) : Bool :=
  0xD800 <= unit && unit < 0xDC00

def isLowSurrogate (unit : Nat) : Bool :=
  0xDC00 <= unit && unit < 0xE000

/-- The characters of a string; surrogates have to come in pairs. -/
def charsOfUnits? : List Nat -> Option Text
  | [] => some []
  | [unit] =>
    if isHighSurrogate unit || isLowSurrogate unit then none else some [Char.ofNat unit]
  | unit :: next :: rest =>
    if isHighSurrogate unit then
      if isLowSurrogate next then
        (charsOfUnits? rest).map
          (Char.ofNat (0x10000 + (unit - 0xD800) * 0x400 + (next - 0xDC00)) :: ·)
      else none
    else if isLowSurrogate unit then none
    else (charsOfUnits? (next :: rest)).map (Char.ofNat unit :: ·)

def nullNode : Node :=
  .scalar ⟨none, some .null, some false, false, none⟩

def valueNode (value : Option Value) : Node :=
  .scalar ⟨none, value, some true, false, none⟩

def stringNode (units : List Nat) : Node :=
  let text := charsOfUnits? units
  .scalar ⟨text, text.map .text, some true, false, none⟩

/-- Read a scalar that is not a string. -/
def bareNode (text : Text) : Node × Option Text :=
  if let some rest := "null".toList.isPrefixOf? text then (nullNode, some rest)
  else if let some rest := "true".toList.isPrefixOf? text then
    (valueNode (some (.bool true)), some rest)
  else if let some rest := "false".toList.isPrefixOf? text then
    (valueNode (some (.bool false)), some rest)
  else if let some (numeral, rest) := Numeral.parse? text then
    (valueNode numeral.value?, some rest)
  else (.cut, none)

mutual

/-- Read a node, and give the text after it unless the tree is cut there.  The
first argument bounds the work; the length of the text is enough. -/
def nodeOf : Nat -> Text -> Node × Option Text
  | 0, _ => (.cut, none)
  | fuel + 1, text =>
    match skipSpace text with
    | '"' :: rest =>
      match stringUnits? rest with
      | none => (.cut, none)
      | some (units, after) => (stringNode units, some after)
    | '[' :: rest =>
      match skipSpace rest with
      | ']' :: after => (.list false [], some after)
      | _ =>
        let (items, after) := itemsOf fuel rest
        (.list false items, after)
    | '{' :: rest =>
      match skipSpace rest with
      | '}' :: after => (.map false [], some after)
      | _ =>
        let (members, after) := membersOf fuel rest
        (.map false members, after)
    | bare => bareNode bare

/-- Read the items of a list, up to its closing bracket. -/
def itemsOf : Nat -> Text -> List Node × Option Text
  | 0, _ => ([.cut], none)
  | fuel + 1, text =>
    match nodeOf fuel text with
    | (item, none) => ([item], none)
    | (item, some rest) =>
      match skipSpace rest with
      | ',' :: after =>
        let (items, after) := itemsOf fuel after
        (item :: items, after)
      | ']' :: after => ([item], some after)
      | _ => ([item, .cut], none)

/-- Read the members of an object, up to its closing brace. -/
def membersOf : Nat -> Text -> List (Node × Node) × Option Text
  | 0, _ => ([(.cut, .cut)], none)
  | fuel + 1, text =>
    match skipSpace text with
    | '"' :: rest =>
      match stringUnits? rest with
      | none => ([(.cut, .cut)], none)
      | some (units, rest) =>
        let key := stringNode units
        match skipSpace rest with
        | ':' :: rest =>
          match nodeOf fuel rest with
          | (node, none) => ([(key, node)], none)
          | (node, some rest) =>
            match skipSpace rest with
            | ',' :: after =>
              let (members, after) := membersOf fuel after
              ((key, node) :: members, after)
            | '}' :: after => ([(key, node)], some after)
            | _ => ([(key, node), (.cut, .cut)], none)
        | _ => ([(key, .cut)], none)
    | _ => ([(.cut, .cut)], none)

end

/-- How many collections may stand inside each other in a JSON document. -/
def depthLimit : Nat :=
  127

/-- The document that a JSON text holds. -/
def documentOf (text : Text) : Document :=
  let (root, after) := nodeOf (2 * text.length + 2) text
  { root
    anchors := []
    isWhole := (after.map fun rest => (skipSpace rest).isEmpty).getD false
    depthLimit
    aliasLimit := 0
    listsAreRecords := true }

end Json
end ApiServices
