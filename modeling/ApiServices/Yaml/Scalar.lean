import ApiServices.Document.Node
import ApiServices.Yaml.Token

namespace ApiServices
namespace Yaml

/-!
# What a scalar reads as

A plain scalar without a tag is a null, a truth value, a number or a text,
by its spelling.  A quoted one is a text.  The tags of the core schema ask for
one of these kinds whatever the style, and refuse what is not spelled that
way; application tags ask for something that no reader here provides.

Whole numbers are those that fit 64 bits.  Longer ones up to 128 bits are
refused, and still longer ones read as floating point numbers.
-/

namespace Schema

/-- The common beginning of the tags of the core schema. -/
def tagBase : Text :=
  "tag:yaml.org,2002:".toList

def tag (name : String) : Text :=
  tagBase ++ name.toList

def isNull (text : Text) : Bool :=
  ["null", "Null", "NULL", "~"].any (·.toList == text)

def bool? (text : Text) : Option Bool :=
  if ["true", "True", "TRUE"].any (·.toList == text) then some true
  else if ["false", "False", "FALSE"].any (·.toList == text) then some false
  else none

/-- The value of a digit in a radix of at most sixteen. -/
def digit? (radix : Nat) (c : Char) : Option Nat :=
  let value :=
    if c.isDigit then some (c.toNat - '0'.toNat)
    else if 'a' <= c && c <= 'f' then some (c.toNat - 'a'.toNat + 10)
    else if 'A' <= c && c <= 'F' then some (c.toNat - 'A'.toNat + 10)
    else none
  value.filter (· < radix)

/-- The number that digits in a radix spell; there is at least one digit. -/
def natural? (radix : Nat) (text : Text) : Option Nat :=
  if text.isEmpty then none
  else text.foldlM (fun number c => (digit? radix c).map (number * radix + ·)) 0

/-- Digits that begin with a zero without being one are a text. -/
def isPaddedNumeral (text : Text) : Bool :=
  let digits :=
    match text with
    | '-' :: rest => rest
    | '+' :: rest => rest
    | _ => text
  1 < digits.length && digits.head? == some '0' && digits.all Char.isDigit

/-- The radix that a letter after a leading zero announces. -/
def radix? (c : Char) : Option Nat :=
  [('x', 16), ('o', 8), ('b', 2)].lookup c

/-- A number written in another radix. -/
def radixNumeral? : Text -> Option Nat
  | '0' :: letter :: digits => do natural? (← radix? letter) digits
  | _ => none

/-- A whole number without a minus sign. -/
def unsigned? (text : Text) : Option Nat :=
  let magnitude :=
    match text with
    | '+' :: rest => rest
    | _ => text
  radixNumeral? magnitude <|>
    if isPaddedNumeral text then none else natural? 10 magnitude

/-- The magnitude of a whole number with a minus sign. -/
def negative? : Text -> Option Nat
  | '-' :: magnitude =>
    radixNumeral? magnitude <|>
      if isPaddedNumeral magnitude then none else natural? 10 magnitude
  | _ => none

/-- A whole number: there is no outer result if the text is none, and no inner
one if it does not fit. -/
def integer? (text : Text) : Option (Option Value) :=
  match unsigned? text, negative? text with
  | some n, _ =>
    if n < Nat.pow 2 64 then some (some (.unsigned n))
    else if n < Nat.pow 2 128 then some none
    else none
  | none, some n =>
    if n <= Nat.pow 2 63 then some (some (.signed (-(n : Int))))
    else if n <= Nat.pow 2 127 then some none
    else none
  | none, none => none

/-- Digits up to the next other character. -/
def digitsOf (text : Text) : Text × Text :=
  (text.takeWhile Char.isDigit, text.dropWhile Char.isDigit)

/-- The exponent that a text consists of. -/
def exponent? : Text -> Option Int
  | [] => some 0
  | c :: rest =>
    if c = 'e' || c = 'E' then
      match rest with
      | '-' :: digits => (natural? 10 digits).map fun n => -(n : Int)
      | '+' :: digits => (natural? 10 digits).map Int.ofNat
      | digits => (natural? 10 digits).map Int.ofNat
    else none

/-- A decimal number without a sign. -/
def decimal? (negative : Bool) (text : Text) : Option Binary64 := do
  let (whole, rest) := digitsOf text
  let (fraction, rest) :=
    match rest with
    | '.' :: rest => digitsOf rest
    | _ => ([], rest)
  let digits ← natural? 10 (whole ++ fraction)
  let exponent ← exponent? rest
  some (Binary64.ofDecimal negative digits (exponent - (fraction.length : Int)))

/-- A floating point number. -/
def float? (text : Text) : Option Binary64 :=
  if [".inf", ".Inf", ".INF", "+.inf", "+.Inf", "+.INF"].any (·.toList == text) then
    some (.infinite false)
  else if ["-.inf", "-.Inf", "-.INF"].any (·.toList == text) then some (.infinite true)
  else if [".nan", ".NaN", ".NAN"].any (·.toList == text) then some .nan
  else
    let number :=
      match text with
      | '-' :: rest => decimal? true rest
      | '+' :: rest => decimal? false rest
      | _ => decimal? false text
    number.filter Binary64.isFinite

/-- The value of a plain scalar without a tag. -/
def plain? (text : Text) : Option Value :=
  if text.isEmpty || isNull text then some .null
  else
    match bool? text, integer? text with
    | some b, _ => some (.bool b)
    | none, some value => value
    | none, none =>
      match if isPaddedNumeral text then none else float? text with
      | some x => some (.float x)
      | none => some (.text text)

/-- The value of a scalar. -/
def value? (tagged : Option Text) (style : ScalarStyle) (text : Text) : Option Value :=
  match tagged with
  | none => if style = .plain then plain? text else some (.text text)
  | some found =>
    if found.head? = some '!' then none
    else if found = tag "bool" then (bool? text).map .bool
    else if found = tag "int" then (integer? text).join
    else if found = tag "float" then (float? text).map .float
    else if found = tag "null" then if isNull text then some .null else none
    else some (.text text)

/-- Whether a scalar says something where nothing may be said. -/
def present? (tagged : Option Text) (style : ScalarStyle) (text : Text) : Option Bool :=
  if style ≠ .plain then some true
  else
    match tagged with
    | none => some (!(text.isEmpty || isNull text))
    | some found =>
      if found = tag "null" then if isNull text then some false else none
      else some true

/-- A scalar where a truth value is wanted: it has to be plain, or a literal
block that is tagged as one. -/
def flag? (tagged : Option Text) (style : ScalarStyle) (text : Text) : Option Bool :=
  if style = .plain || (style = .literal && tagged = some (tag "bool")) then bool? text else none

/-- All readings of a scalar. -/
def readings (tagged : Option Text) (style : ScalarStyle) (text : Text) : Scalar where
  text := some text
  value := value? tagged style text
  present := present? tagged style text
  isBlank := style = .plain && text.isEmpty
  flag := flag? tagged style text

end Schema
end Yaml
end ApiServices
