namespace ApiServices

/-!
# Double precision numbers

The binary interchange format with 64 bits: a finite number is a sign and
`mantissa * 2 ^ exponent`, where the mantissa has at most 53 bits and the
exponent is as small as the mantissa allows, but not below -1074.

Documents reach these numbers only through decimal numerals, so the only
operations are the ones that reading a numeral takes.  Each computes an exact
ratio of natural numbers and rounds it once, to the nearest number, and to the
one with an even mantissa when two are equally near.
-/

inductive Binary64
  | finite (negative : Bool) (mantissa : Nat) (exponent : Int)
  | infinite (negative : Bool)
  | nan
deriving DecidableEq

namespace Binary64

/-- The quotient rounded to the nearest natural number, ties to even. -/
def roundQuotient (num den : Nat) : Nat :=
  let quotient := num / den
  let twice := 2 * (num % den)
  if twice < den then quotient
  else if den < twice then quotient + 1
  else quotient + quotient % 2

/-- `num / den * 2 ^ shift`, again as a ratio. -/
def scaled (num den : Nat) : Int -> Nat × Nat
  | .ofNat shift => (num * Nat.pow 2 shift, den)
  | .negSucc shift => (num, den * Nat.pow 2 (shift + 1))

/-- The exponent with which `num / den` has a mantissa of 53 bits, or the
least exponent there is. -/
def exponentFor (num den : Nat) : Int :=
  let guess : Int := (num.log2 : Int) - (den.log2 : Int) - 52
  let (top, bottom) := scaled num den (-guess)
  max (-1074) (if top < bottom * Nat.pow 2 52 then guess - 1 else guess)

/-- The double nearest to `num / den`, which is not zero below. -/
def ofRatio (negative : Bool) (num den : Nat) : Binary64 :=
  if num = 0 then .finite negative 0 (-1074)
  else
    let exponent := exponentFor num den
    let (top, bottom) := scaled num den (-exponent)
    let mantissa := roundQuotient top bottom
    let (mantissa, exponent) :=
      if mantissa = Nat.pow 2 53 then (Nat.pow 2 52, exponent + 1) else (mantissa, exponent)
    if 971 < exponent then .infinite negative else .finite negative mantissa exponent

def ofNat (n : Nat) : Binary64 :=
  ofRatio false n 1

/-- The double nearest to `digits * 10 ^ power`.  Powers far beyond the range
of the format are settled without computing them. -/
def ofDecimal (negative : Bool) (digits : Nat) (power : Int) : Binary64 :=
  if digits = 0 then .finite negative 0 (-1074)
  else
    match power with
    | .ofNat power =>
      if 400 < power then .infinite negative else ofRatio negative (digits * Nat.pow 10 power) 1
    | .negSucc power =>
      if 400 + digits.log2 < power then .finite negative 0 (-1074)
      else ofRatio negative digits (Nat.pow 10 (power + 1))

/-- A number without its sign, as a ratio. -/
def ratio (mantissa : Nat) (exponent : Int) : Nat × Nat :=
  scaled mantissa 1 exponent

/-- The product of two numbers that are not negative. -/
def mul : Binary64 -> Binary64 -> Binary64
  | .finite _ m₁ e₁, .finite _ m₂ e₂ =>
    let (num, den) := ratio (m₁ * m₂) (e₁ + e₂)
    ofRatio false num den
  | .nan, _ => .nan
  | _, .nan => .nan
  | .infinite _, .finite _ 0 _ => .nan
  | .finite _ 0 _, .infinite _ => .nan
  | _, _ => .infinite false

/-- The quotient of two finite numbers that are not negative, the second of
which is not zero. -/
def div : Binary64 -> Binary64 -> Binary64
  | .finite _ m₁ e₁, .finite _ m₂ e₂ =>
    let (num, den) := scaled m₁ m₂ (e₁ - e₂)
    ofRatio false num den
  | _, _ => .nan

def withSign (negative : Bool) : Binary64 -> Binary64
  | .finite _ m e => .finite negative m e
  | .infinite _ => .infinite negative
  | .nan => .nan

def isFinite : Binary64 -> Bool
  | .finite .. => true
  | _ => false

end Binary64
end ApiServices
