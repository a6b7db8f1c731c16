import ApiServices.Yaml.Token.Folding
import ApiServices.Yaml.Token.Tag

namespace ApiServices
namespace Yaml

/-!
# Quoted scalars

Single quotes know one escape, the doubled quote.  Double quotes know escapes
by a letter and by a code point, and a backslash at the end of a line hides
the line break.
-/

namespace Quoted

/-- What a backslash and a letter stand for in double quotes. -/
def unescaped? (c : Char) : Option Char :=
  [ ('0', 0x0), ('a', 0x7), ('b', 0x8), ('t', 0x9), ('\t', 0x9), ('n', 0xA), ('v', 0xB),
    ('f', 0xC), ('r', 0xD), ('e', 0x1B), (' ', 0x20), ('"', 0x22), ('/', 0x2F), ('\\', 0x5C),
    ('N', 0x85), ('_', 0xA0), ('L', 0x2028), ('P', 0x2029) ].lookup c |>.map Char.ofNat

/-- How many hexadecimal digits follow a letter that announces a code point. -/
def codeLength? (c : Char) : Option Nat :=
  [('x', 2), ('u', 4), ('U', 8)].lookup c

/-- The code point that exactly `n` hexadecimal digits spell. -/
def codePoint? (n : Nat) (text : Text) : Option Char := do
  if text.length < n then none
  let code ← (text.take n).foldlM (fun code c => do some (code * 16 + (← hexNibble? c))) 0
  if (0xD800 <= code && code <= 0xDFFF) || 0x10FFFF < code then none else some (Char.ofNat code)

/-- What stands between white space: characters, and whether an escaped line
break follows. -/
structure Word where
  text : Text
  cursor : Cursor
  hidesBreak : Bool

/-- Read up to white space, the closing quote or an escaped line break.  No
more characters are read than `bound` has; it is the text at the cursor, or a
longer one. -/
def word? (quote : Char) (bound text : Text) (cursor : Cursor) : Option Word :=
  match bound with
  | [] => some ⟨text, cursor, false⟩
  | _ :: bound =>
    match cursor.rest with
    | [] => some ⟨text, cursor, false⟩
    | c :: rest =>
      if endsWord (some c) then some ⟨text, cursor, false⟩
      else if c = quote then
        if quote = '\'' && rest.head? = some '\'' then
          word? quote bound (text ++ [c]) (cursor.advance 2)
        else some ⟨text, cursor, false⟩
      else if quote = '"' && c = '\\' then
        match rest with
        | [] => none
        | e :: digits =>
          if isLineBreak e then some ⟨text, (cursor.advance 1).nextLine, true⟩
          else
            match unescaped? e, codeLength? e with
            | some plain, _ => word? quote bound (text ++ [plain]) (cursor.advance 2)
            | none, some n => do
              word? quote bound (text ++ [← codePoint? n digits]) (cursor.advance (2 + n))
            | none, none => none
      else word? quote bound (text ++ [c]) (cursor.advance 1)

/-- Read on until the closing quote.  There are fewer words than `bound` has
characters; it is the text that begins with the opening quote. -/
def words? (quote : Char) (bound text : Text) (cursor : Cursor) : Option (Text × Cursor) :=
  match bound with
  | [] => none
  | _ :: bound => do
    if cursor.isAtDocumentMarker || cursor.rest.isEmpty then none
    let word ← word? quote cursor.rest text cursor
    if word.cursor.isAt quote then some (word.text, word.cursor.advance 1)
    else
      let gap : Gap := if word.hidesBreak then .escaped else .none
      let (gap, after) ← Gap.read? 0 word.cursor.rest gap word.cursor
      words? quote bound (word.text ++ gap.folded) after

/-- Read a quoted scalar. -/
def scalar? (cursor : Cursor) : Option (Text × Cursor) := do
  let quote ← cursor.head?
  words? quote cursor.rest [] (cursor.advance 1)

end Quoted
end Yaml
end ApiServices
