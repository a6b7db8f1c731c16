import ApiServices.Binary64.Shortest
import ApiServices.Keyed

namespace ApiServices

/-!
# Data values

What a document says, apart from how it is written: the common value type of
the formats that the library reads and writes.  Maps keep the order and the
repetitions of their entries; what a repeated key means is decided by whoever
reads the map.

Whole numbers come in two kinds, because one of the formats tells a number
without a sign from one with a sign, and only the former may select a field
by its position.
-/

inductive Value
  | null
  | bool (b : Bool)
  | unsigned (n : Nat)
  | signed (n : Int)
  | float (x : Binary64)
  | text (t : Text)
  | list (items : List Value)
  | map (entries : List (Value × Value))

namespace Value

def ofTexts (texts : List Text) : Value :=
  .list (texts.map .text)

/-- A map whose keys are texts. -/
def ofFields (fields : List (Text × Value)) : Value :=
  .map (fields.map fun field => (.text field.1, field.2))

/-- A text, or nothing. -/
def ofText? : Option Text -> Value
  | none => .null
  | some t => .text t

/-- The largest whole number that is written out exactly when it stands for a
text. -/
def exactLimit : Nat :=
  Nat.pow 2 63 - 1

/-- A scalar as a text: texts are themselves, whole numbers are numerals, and
numbers beyond the limit go through double precision. -/
def scalarText? : Value -> Option Text
  | .text t => some t
  | .unsigned n =>
    some (if n <= exactLimit then Text.ofNat n else (Binary64.ofNat n).plainText)
  | .signed n => some (Text.ofInt n)
  | .float x => some x.plainText
  | .bool true => some "true".toList
  | .bool false => some "false".toList
  | .null => none
  | .list _ => none
  | .map _ => none

/-- The entries of a map by text keys; there are none if a key is not a text. -/
def textEntries? : List (Value × Value) -> Option (List (Text × Value))
  | [] => some []
  | (.text key, value) :: rest => (textEntries? rest).map ((key, value) :: ·)
  | _ => none

/-- The entries of a map of fields are the fields. -/
theorem textEntries?_map (fields : List (Text × Value)) :
    textEntries? (fields.map fun field => (.text field.1, field.2)) = some fields := by
  induction fields with
  | nil => rfl
  | cons field rest ih =>
    rw [List.map_cons, textEntries?, ih]
    rfl

end Value
end ApiServices
