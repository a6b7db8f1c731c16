import ApiServices.Text.Basic
import ApiServices.Text.Cased
import ApiServices.Text.CaseTables

namespace ApiServices
namespace Text

/-!
# Upper and lower case

A character may become several characters when its case changes, so both
mappings give a text.  The lowercase form of a whole text differs from that
of its characters in one place only: a capital sigma that ends a word becomes
the final form of the letter.
-/

def firstImage (n : Nat) : List CaseRun -> Nat
  | [] => n
  | run :: rest =>
    if n < run.first then n
    else match run.image? n with
      | some image => image
      | none => firstImage n rest

def mapped (runs : List CaseRun) (expansions : List (Nat × List Nat)) (c : Char) : Text :=
  match expansions.lookup c.toNat with
  | some codes => codes.map Char.ofNat
  | none => [Char.ofNat (firstImage c.toNat runs)]

/-- The lowercase form of one character. -/
def lowerChar (c : Char) : Text :=
  mapped lowerRuns lowerExpansions c

/-- The uppercase form of one character. -/
def upperChar (c : Char) : Text :=
  mapped upperRuns upperExpansions c

/-- Lowercase the first character and leave the rest as it is. -/
def lowerFirst : Text -> Text
  | [] => []
  | c :: rest => lowerChar c ++ rest

/-- Uppercase the first character and leave the rest as it is. -/
def upperFirst : Text -> Text
  | [] => []
  | c :: rest => upperChar c ++ rest

/-- Whether a cased character comes first, once the case-ignorable ones are
skipped. -/
def beginsCased (text : Text) : Bool :=
  match text.dropWhile isCaseIgnorable with
  | [] => false
  | c :: _ => isCased c

def lowerAfter (before : Text) : Text -> Text
  | [] => []
  | c :: rest =>
    let image :=
      if c = 'Σ' then
        if beginsCased before && !beginsCased rest then ['ς'] else ['σ']
      else lowerChar c
    image ++ lowerAfter (c :: before) rest

/-- The lowercase form of a text. -/
def lower (text : Text) : Text :=
  lowerAfter [] text

theorem lowerChar_of_ascii : forall n : Fin 128,
    lowerChar (Char.ofNat n) = [(Char.ofNat n).toLower] := by
  decide +kernel

theorem upperChar_of_ascii : forall n : Fin 128,
    upperChar (Char.ofNat n) = [(Char.ofNat n).toUpper] := by
  decide +kernel

end Text
end ApiServices
