import ApiServices.Document.Value

namespace ApiServices
namespace Json

/-!
# JSON numerals

A numeral without a fraction and without an exponent is a whole number if it
fits 64 bits.  Every other numeral is a double, found in a quick way that is
not always the nearest one: the leading digits that fit 64 bits make a
double, which is multiplied or divided by a power of ten that is a double as
well.  So there are up to three roundings.
-/

/-- A numeral taken apart.  All texts hold decimal digits only. -/
structure Numeral where
  negative : Bool
  whole : Text
  fraction : Option Text
  exponent : Option (Bool × Text)

namespace Numeral

def digitValue (c : Char) : Nat :=
  c.toNat - '0'.toNat

def digitsOf (text : Text) : Text × Text :=
  (text.takeWhile Char.isDigit, text.dropWhile Char.isDigit)

/-- Read the digits before the point; a zero stands alone. -/
def whole? (text : Text) : Option (Text × Text) :=
  match digitsOf text with
  | ([], _) => none
  | ('0' :: _ :: _, _) => none
  | found => some found

/-- Read the fraction, if there is one. -/
def fraction? : Text -> Option (Option Text × Text)
  | '.' :: rest =>
    match digitsOf rest with
    | ([], _) => none
    | (digits, after) => some (some digits, after)
  | text => some (none, text)

/-- Read a sign; it says whether a negative number follows. -/
def sign : Text -> Bool × Text
  | '-' :: rest => (true, rest)
  | '+' :: rest => (false, rest)
  | text => (false, text)

/-- Read the exponent, if there is one. -/
def exponent? : Text -> Option (Option (Bool × Text) × Text)
  | [] => some (none, [])
  | c :: rest =>
    if c = 'e' || c = 'E' then
      let (negative, unsigned) := sign rest
      match digitsOf unsigned with
      | ([], _) => none
      | (digits, after) => some (some (negative, digits), after)
    else some (none, c :: rest)

/-- Read a numeral, and give the text after it. -/
def parse? (text : Text) : Option (Numeral × Text) := do
  let (negative, unsigned) :=
    match text with
    | '-' :: rest => (true, rest)
    | _ => (false, text)
  let (whole, rest) ← whole? unsigned
  let (fraction, rest) ← fraction? rest
  let (exponent, rest) ← exponent? rest
  some (⟨negative, whole, fraction, exponent⟩, rest)

/-- Append digits to a number as long as the result fits 64 bits, and give
those that are left over. -/
def absorb (number : Nat) : Text -> Nat × Text
  | [] => (number, [])
  | digit :: rest =>
    let longer := number * 10 + digitValue digit
    if longer < Nat.pow 2 64 then absorb longer rest else (number, digit :: rest)

/-- The number that digits spell. -/
def spelled (digits : Text) : Nat :=
  digits.foldl (fun number digit => number * 10 + digitValue digit) 0

/-- The largest power of ten that a double can hold. -/
def largestPower : Nat :=
  308

def powerOfTen (n : Nat) : Binary64 :=
  Binary64.ofDecimal false 1 n

/-- `significand * 10 ^ power` in double precision.  Numbers that are too
large are refused; numbers that are too small are zero. -/
def double? (significand : Nat) : Int -> Option Binary64
  | .ofNat power =>
    if significand = 0 then some (.ofNat 0)
    else if power <= largestPower then
      let product := (Binary64.ofNat significand).mul (powerOfTen power)
      if product.isFinite then some product else none
    else none
  | .negSucc below =>
    let places := below + 1
    let start := Binary64.ofNat significand
    if places <= largestPower then some (start.div (powerOfTen places))
    else if places <= 2 * largestPower then
      some ((start.div (powerOfTen largestPower)).div (powerOfTen (places - largestPower)))
    else some (.ofNat 0)

/-- The whole number that a sign and a magnitude of at most 64 bits make; a
negative one that is zero or too large becomes a double. -/
def wholeValue (negative : Bool) (magnitude : Nat) : Value :=
  if !negative then .unsigned magnitude
  else if magnitude = 0 || Nat.pow 2 63 < magnitude then
    .float ((Binary64.ofNat magnitude).withSign true)
  else .signed (-(magnitude : Int))

/-- The number that a numeral stands for. -/
def value? (numeral : Numeral) : Option Value :=
  let (significand, left) := absorb 0 numeral.whole
  match numeral.fraction, numeral.exponent, left with
  | none, none, [] => some (wholeValue numeral.negative significand)
  | fraction, exponent, _ =>
    let digits := fraction.getD []
    let (significand, unused) := absorb significand digits
    let shift : Int := (left.length : Int) - ((digits.length - unused.length : Nat) : Int)
    let power : Int :=
      match exponent with
      | none => 0
      | some (true, written) => -(spelled written : Int)
      | some (false, written) => (spelled written : Int)
    (double? significand (shift + power)).map fun x => .float (x.withSign numeral.negative)

end Numeral
end Json
end ApiServices
