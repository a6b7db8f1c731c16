import ApiServices.Text.Basic
import Mathlib.Algebra.Group.Nat.Defs

namespace ApiServices
namespace Text

/-!
# Decimal numerals

The numeral of a natural number is a nonempty text of digits that begins with a zero
only if it is the zero.  A numeral tells its number, so two numbers never have the same.
-/

theorem ofNat_ne_nil (n : Nat) : ofNat n ≠ [] :=
  Nat.toDigits_ne_nil

theorem isDigit_of_mem_ofNat {n : Nat} {c : Char} (member : c ∈ ofNat n) : c.isDigit = true :=
  Nat.isDigit_of_mem_toDigits (by decide) (by decide) member

theorem ofNat_ne_cons (n : Nat) {c : Char} (other : c.isDigit = false) (rest : Text) :
    ofNat n ≠ c :: rest := by
  intro same
  rw [isDigit_of_mem_ofNat (same ▸ List.mem_cons_self : c ∈ ofNat n)] at other
  cases other

/-- The digits of a numeral spell its number. -/
theorem ofDigitChars_ofNat (n : Nat) : Nat.ofDigitChars 10 (ofNat n) 0 = n :=
  Nat.ofDigitChars_ten_toDigits

theorem ofNat_injective {n m : Nat} (same : ofNat n = ofNat m) : n = m := by
  rw [← ofDigitChars_ofNat n, same, ofDigitChars_ofNat]

/-- Only zero begins with a zero. -/
theorem ofNat_of_head {n : Nat} (zero : (ofNat n).head? = some '0') : ofNat n = ['0'] := by
  induction n using Nat.strongRecOn with
  | ind n ih =>
    unfold ofNat at zero ih ⊢
    rw [Nat.toDigits_eq_if (by decide)] at zero ⊢
    split at zero
    · next small =>
      rw [if_pos small]
      exact congrArg (fun c => [c]) (Option.some.inj zero)
    · next large =>
      have shorter : n / 10 < n := Nat.div_lt_self (by omega) (by decide)
      have first : (Nat.toDigits 10 (n / 10)).head? = some '0' := by
        obtain ⟨c, rest, shape⟩ := List.exists_cons_of_ne_nil (ofNat_ne_nil (n / 10))
        unfold ofNat at shape
        rw [shape] at zero ⊢
        exact zero
      have none : n / 10 = 0 := ofNat_injective (ih (n / 10) shorter first)
      omega

/-- Digits only make a number larger. -/
theorem le_ofDigitChars (digits : Text) (n : Nat) : n ≤ Nat.ofDigitChars 10 digits n := by
  induction digits generalizing n with
  | nil => exact Nat.le_refl n
  | cons c rest ih =>
    rw [Nat.ofDigitChars_cons]
    exact Nat.le_trans (by omega) (ih _)

/-- Zeros behind a numeral multiply its number. -/
theorem ofNat_append_zeros {n : Nat} (positive : 0 < n) (zeros : Nat) :
    ofNat n ++ List.replicate zeros '0' = ofNat (n * 10 ^ zeros) := by
  induction zeros with
  | zero => rw [List.replicate_zero, List.append_nil, Nat.pow_zero, Nat.mul_one]
  | succ zeros ih =>
    have larger : 0 < n * 10 ^ zeros := Nat.mul_pos positive (Nat.pow_pos (by decide))
    have longer : ofNat (n * 10 ^ zeros) ++ Nat.toDigits 10 0 = ofNat (10 * (n * 10 ^ zeros) + 0) :=
      Nat.toDigits_append_toDigits (by decide) larger (by decide)
    rw [List.replicate_succ', ← List.append_assoc, ih, Nat.pow_succ, ← Nat.mul_assoc, Nat.mul_comm _ 10]
    exact longer

/-! ## Integers -/

/-- A numeral begins with a digit or with a minus sign. -/
def BeginsNumeral (c : Char) : Prop :=
  c.isDigit = true ∨ c = '-'

instance (c : Char) : Decidable (BeginsNumeral c) :=
  inferInstanceAs (Decidable (_ ∨ _))

theorem exists_ofInt_eq_cons (n : Int) :
    Exists fun c => Exists fun rest => ofInt n = c :: rest ∧ BeginsNumeral c := by
  cases n with
  | ofNat n =>
    obtain ⟨c, rest, shape⟩ := List.exists_cons_of_ne_nil (ofNat_ne_nil n)
    exact ⟨c, rest, shape, Or.inl (isDigit_of_mem_ofNat (shape ▸ List.mem_cons_self))⟩
  | negSucc n => exact ⟨'-', ofNat (n + 1), rfl, Or.inr rfl⟩

theorem ofInt_injective {n m : Int} (same : ofInt n = ofInt m) : n = m := by
  cases n with
  | ofNat n =>
    cases m with
    | ofNat m => rw [ofNat_injective same]
    | negSucc m => exact absurd same (ofNat_ne_cons n rfl _)
  | negSucc n =>
    cases m with
    | ofNat m => exact absurd same.symm (ofNat_ne_cons m rfl _)
    | negSucc m =>
      have digits := ofNat_injective (List.cons.inj same).2
      rw [Nat.add_right_cancel digits]

end Text
end ApiServices
