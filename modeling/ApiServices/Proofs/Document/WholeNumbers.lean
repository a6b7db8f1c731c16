import ApiServices.Document.Value
import ApiServices.Proofs.Binary64.WholeNumbers
import Mathlib.Algebra.Group.Int.Defs

namespace ApiServices
namespace Value

/-!
# Whole numbers as texts

Where a text is wanted, a whole number of 63 bits is its numeral.  Larger ones go
through double precision and are what the double is written as, which is a multiple of
1000 nearby: nearly all of them lose their last digits, and many share one text.
-/

/-- A whole number as a value: one without a sign unless it is negative. -/
def ofInt : Int -> Value
  | .ofNat n => .unsigned n
  | .negSucc n => .signed (.negSucc n)

/-- The text that a whole number stands for where a text is wanted. -/
def numeralText (n : Int) : Text :=
  ((ofInt n).scalarText?).getD []

/-- Whether a whole number is itself where a text is wanted: it fits 63 bits, or it is
what the nearest double is written as. -/
def IsExact (n : Int) : Prop :=
  n < 2 ^ 63 ∨ (Binary64.ofNat n.toNat).plainText = Text.ofInt n

instance (n : Int) : Decidable (IsExact n) :=
  inferInstanceAs (Decidable (_ ∨ _))

variable {n : Int}

theorem scalarText?_ofInt (n : Int) : (ofInt n).scalarText? = some (numeralText n) := by
  cases n <;> rfl

theorem numeralText_of_lt (small : n < 2 ^ 63) : numeralText n = Text.ofInt n := by
  cases n with
  | ofNat n =>
    have fits : n ≤ exactLimit := by
      have small : (n : Int) < 2 ^ 63 := small
      change n ≤ 2 ^ 63 - 1
      omega
    change (if n ≤ exactLimit then Text.ofNat n else _) = Text.ofNat n
    rw [if_pos fits]
  | negSucc n => rfl

theorem numeralText_of_le (large : 2 ^ 63 ≤ n) :
    numeralText n = (Binary64.ofNat n.toNat).plainText := by
  obtain ⟨m, rfl⟩ := Int.eq_ofNat_of_zero_le (Int.le_trans (by decide) large)
  have beyond : ¬m ≤ exactLimit := by
    change ¬m ≤ 2 ^ 63 - 1
    omega
  change (if m ≤ exactLimit then _ else (Binary64.ofNat m).plainText) = _
  rw [if_neg beyond]
  rfl

theorem numeralText_eq_iff : numeralText n = Text.ofInt n ↔ IsExact n := by
  rcases Int.lt_or_le n (2 ^ 63) with small | large
  · exact iff_of_true (numeralText_of_lt small) (Or.inl small)
  · rw [numeralText_of_le large, IsExact, or_iff_right (by omega)]

/-- Beyond 63 bits the text is the numeral of a multiple of 1000 nearby. -/
theorem exists_numeralText_of_le (large : 2 ^ 63 ≤ n) (high : n < 2 ^ 64) :
    Exists fun shown => numeralText n = Text.ofInt shown ∧ 1000 ∣ shown ∧ n ≤ shown + 3072 ∧
      shown ≤ n + 3072 := by
  obtain ⟨m, rfl⟩ := Int.eq_ofNat_of_zero_le (Int.le_trans (by decide) large)
  obtain ⟨shown, written, thousands, below, above⟩ :=
    Binary64.exists_plainText_ofNat (n := m) (by omega) (by omega)
  exact ⟨shown, (numeralText_of_le large).trans written, Int.natCast_dvd_natCast.mpr thousands,
    by omega, by omega⟩

/-- Whole numbers that are themselves where a text is wanted are told apart there. -/
theorem IsExact.eq {other : Int} (exact : IsExact n) (also : IsExact other)
    (same : numeralText n = numeralText other) : n = other := by
  rw [numeralText_eq_iff.mpr exact, numeralText_eq_iff.mpr also] at same
  exact Text.ofInt_injective same

end Value
end ApiServices
