import ApiServices.Binary64.Basic
import ApiServices.Text.Basic

namespace ApiServices
namespace Binary64

/-!
# Shortest decimal numerals

The digits of a double are the fewest that read back as it.  They are found
by trying one power of ten after the other, from the largest down: the
first grid that has a point in the interval of numbers that round to the
double gives the digits, and of two points the nearer one is taken.

Two layouts put the digits into text.  The plain one never uses an exponent;
the other one, which data formats use, does so for very large and very small
numbers and always shows that the number is not an integer.
-/

/-- `left / den` against `point * 10 ^ power`. -/
def compareToPoint (left den point : Nat) : Int -> Ordering
  | .ofNat power => compare left (point * Nat.pow 10 power * den)
  | .negSucc power => compare (left * Nat.pow 10 (power + 1)) (point * den)

/-- The integral part of `num / den` in units of `10 ^ power`. -/
def pointBelow (num den : Nat) : Int -> Nat
  | .ofNat power => num / (den * Nat.pow 10 power)
  | .negSucc power => num * Nat.pow 10 (power + 1) / den

/-- The numbers that round to a positive double: two ends over a common
denominator, which also lie in it when `closed`, and the double between. -/
structure Cell where
  low : Nat
  middle : Nat
  high : Nat
  den : Nat
  closed : Bool

/-- The cell of `mantissa * 2 ^ exponent`.  Below a power of two the neighbour
is half as far away as above. -/
def cell (mantissa : Nat) (exponent : Int) : Cell :=
  let below := if mantissa = Nat.pow 2 52 && -1074 < exponent then 1 else 2
  let (unit, den) := scaled 1 1 (exponent - 2)
  ⟨(4 * mantissa - below) * unit, 4 * mantissa * unit, (4 * mantissa + 2) * unit, den,
    mantissa % 2 == 0⟩

namespace Cell

/-- Whether `point * 10 ^ power` lies in the cell. -/
def contains (cell : Cell) (power : Int) (point : Nat) : Bool :=
  let fromLow := compareToPoint cell.low cell.den point power
  let fromHigh := compareToPoint cell.high cell.den point power
  (fromLow == .lt || cell.closed && fromLow == .eq)
    && (fromHigh == .gt || cell.closed && fromHigh == .eq)

/-- Whether the upper of two neighbouring points is the nearer one, or as near
as the lower one and even. -/
def prefersUpper (cell : Cell) (power : Int) (lower : Nat) : Bool :=
  match compareToPoint (2 * cell.middle) cell.den (2 * lower + 1) power with
  | .lt => false
  | .gt => true
  | .eq => lower % 2 == 1

/-- The point of the grid of `10 ^ power` in the cell, the nearer one if there
are two. -/
def point? (cell : Cell) (power : Int) : Option Nat :=
  let lower := pointBelow cell.middle cell.den power
  match cell.contains power lower, cell.contains power (lower + 1) with
  | true, true => some (if cell.prefersUpper power lower then lower + 1 else lower)
  | true, false => some lower
  | false, true => some (lower + 1)
  | false, false => none

end Cell

/-- The powers of ten to try, from the largest down. -/
def powers : List Int :=
  (List.range 660).map fun n : Nat => 310 - (n : Int)

/-- The fewest digits that read back as a positive double, and the power of
ten of the last one. -/
def shortest (mantissa : Nat) (exponent : Int) : Nat × Int :=
  let home := cell mantissa exponent
  (powers.findSome? fun power => (home.point? power).map (·, power)).getD (mantissa, 0)

/-- Digits written out without an exponent. -/
def positional (digits : Nat) (power : Int) : Text :=
  let written := Text.ofNat digits
  match power with
  | .ofNat power => written ++ List.replicate power '0'
  | .negSucc power =>
    let places := power + 1
    let padded := List.replicate (places + 1 - written.length) '0' ++ written
    padded.take (padded.length - places) ++ '.' :: padded.drop (padded.length - places)

def signed (negative : Bool) (text : Text) : Text :=
  if negative then '-' :: text else text

/-- The plain layout. -/
def plainText : Binary64 -> Text
  | .nan => "NaN".toList
  | .infinite negative => signed negative "inf".toList
  | .finite negative 0 _ => signed negative ['0']
  | .finite negative mantissa exponent =>
    let (digits, power) := shortest mantissa exponent
    signed negative (positional digits power)

/-- Digits with an exponent: one digit, a point if more follow, and the rest. -/
def scientific (digits : Nat) (power : Int) : Text :=
  let written := Text.ofNat digits
  let exponent := power + (written.length : Int) - 1
  let mantissa :=
    match written with
    | first :: second :: rest => first :: '.' :: second :: rest
    | short => short
  mantissa ++ 'e' :: (if exponent < 0 then '-' else '+') :: Text.ofNat exponent.natAbs

/-- The layout of data formats: positional from `0.00001` up to sixteen digits
before the point. -/
def dataText : Binary64 -> Text
  | .nan => "null".toList
  | .infinite _ => "null".toList
  | .finite negative 0 _ => signed negative "0.0".toList
  | .finite negative mantissa exponent =>
    let (digits, power) := shortest mantissa exponent
    let first := power + ((Text.ofNat digits).length : Int) - 1
    signed negative <|
      if first < -5 || 15 < first then scientific digits power
      else if power < 0 then positional digits power
      else positional digits power ++ ".0".toList

end Binary64
end ApiServices
