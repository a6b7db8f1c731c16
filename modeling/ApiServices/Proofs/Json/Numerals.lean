import ApiServices.Json.Reader
import ApiServices.Proofs.Document.WholeNumbers
import ApiServices.Proofs.Json.RoundTrip
import ApiServices.Proofs.Text.Lines
import ApiServices.Proofs.Text.Numerals

namespace ApiServices
namespace Json

/-!
# JSON numerals of whole numbers

The numeral of a whole number that fits 64 bits is read as this number, wherever it
stands: its digits are taken up one by one and never grow out of the 64 bits, and all
that is asked of the text behind it is that the numeral does not go on there.
-/

/-- What can stand behind a whole numeral: no digit, no point and no exponent. -/
def EndsNumeral (after : Text) : Prop :=
  ∀ c ∈ after.head?, c.isDigit = false ∧ c ≠ '.' ∧ c ≠ 'e' ∧ c ≠ 'E'

namespace Numeral

variable {after : Text}

/-! ## Taking a numeral apart -/

theorem digitsOf_append {digits : Text} (all : ∀ c ∈ digits, c.isDigit = true)
    (ends : ∀ c ∈ after.head?, c.isDigit = false) : digitsOf (digits ++ after) = (digits, after) := by
  have none : after.takeWhile Char.isDigit = [] ∧ after.dropWhile Char.isDigit = after := by
    cases after with
    | nil => exact ⟨rfl, rfl⟩
    | cons c rest =>
      have stop := ends c rfl
      exact ⟨by rw [List.takeWhile_cons, stop]; rfl, by rw [List.dropWhile_cons, stop]; rfl⟩
  rw [digitsOf, List.takeWhile_append_of_pos all, List.dropWhile_append_of_pos all, none.1, none.2,
    List.append_nil]

theorem whole?_ofNat (n : Nat) (ends : EndsNumeral after) :
    whole? (Text.ofNat n ++ after) = some (Text.ofNat n, after) := by
  have found : digitsOf (Text.ofNat n ++ after) = (Text.ofNat n, after) :=
    digitsOf_append (fun _ member => Text.isDigit_of_mem_ofNat member) fun c first => (ends c first).1
  rw [whole?, found]
  split
  · next empty => exact absurd (Prod.mk.inj empty).1 (Text.ofNat_ne_nil n)
  · next padded =>
    have shape := (Prod.mk.inj padded).1
    have zero : (Text.ofNat n).head? = some '0' := by rw [shape]; rfl
    rw [Text.ofNat_of_head zero] at shape
    cases shape
  · rfl

theorem fraction?_of_ends (ends : EndsNumeral after) : fraction? after = some (none, after) := by
  unfold fraction?
  split
  · exact absurd rfl (ends '.' rfl).2.1
  · rfl

theorem exponent?_of_ends (ends : EndsNumeral after) : exponent? after = some (none, after) := by
  cases after with
  | nil => rfl
  | cons c rest =>
    obtain ⟨_, _, small, capital⟩ := ends c rfl
    simp [exponent?, small, capital]

/-- A whole numeral is a sign and digits. -/
theorem parse?_ofInt (n : Int) (ends : EndsNumeral after) :
    parse? (Text.ofInt n ++ after) =
      some (⟨decide (n < 0), Text.ofNat n.natAbs, none, none⟩, after) := by
  have digits (m : Nat) := whole?_ofNat m ends
  cases n with
  | ofNat m =>
    have unsigned : ∀ rest, Text.ofNat m ++ after ≠ '-' :: rest := by
      intro rest same
      obtain ⟨c, others, shape⟩ := List.exists_cons_of_ne_nil (Text.ofNat_ne_nil m)
      rw [shape] at same
      exact Text.ofNat_ne_cons m rfl others (shape.trans (by rw [(List.cons.inj same).1]))
    change parse? (Text.ofNat m ++ after) = _
    simp [parse?, digits, fraction?_of_ends ends, exponent?_of_ends ends]
  | negSucc m =>
    change parse? ('-' :: (Text.ofNat (m + 1) ++ after)) = _
    simp [parse?, digits, fraction?_of_ends ends, exponent?_of_ends ends]

/-! ## Its number -/

/-- Digits are taken up as long as the number they spell fits. -/
theorem absorb_of_lt {digits : Text} {n : Nat} (fits : Nat.ofDigitChars 10 digits n < Nat.pow 2 64) :
    absorb n digits = (Nat.ofDigitChars 10 digits n, []) := by
  induction digits generalizing n with
  | nil => rfl
  | cons c rest ih =>
    rw [Nat.ofDigitChars_cons, Nat.mul_comm] at fits ⊢
    have shorter := Nat.lt_of_le_of_lt (Text.le_ofDigitChars rest _) fits
    rw [absorb]
    change (if n * 10 + (c.toNat - '0'.toNat) < Nat.pow 2 64 then _ else _) = _
    rw [if_pos shorter]
    exact ih fits

/-- A whole numeral of 64 bits stands for its number. -/
theorem value?_ofInt {n : Int} (low : -2 ^ 63 ≤ n) (high : n < 2 ^ 64) :
    value? ⟨decide (n < 0), Text.ofNat n.natAbs, none, none⟩ = some (.ofInt n) := by
  have magnitude : n.natAbs < Nat.pow 2 64 := by
    rw [show Nat.pow 2 64 = 2 ^ 64 from rfl]
    omega
  have taken : absorb 0 (Text.ofNat n.natAbs) = (n.natAbs, []) := by
    rw [absorb_of_lt, Text.ofDigitChars_ofNat]
    rwa [Text.ofDigitChars_ofNat]
  have number : wholeValue (decide (n < 0)) n.natAbs = .ofInt n := by
    cases n with
    | ofNat m => simp [wholeValue, Value.ofInt]
    | negSucc m =>
      have fits : ¬Nat.pow 2 63 < m + 1 := by
        rw [show Nat.pow 2 63 = 2 ^ 63 from rfl]
        omega
      simpa [wholeValue, fits, Value.ofInt] using (Int.negSucc_eq m).symm
  rw [value?, taken]
  exact congrArg some number

end Numeral

/-! ## Where values stand -/

/-- What begins a numeral begins no word. -/
theorem isPrefixOf?_word {c d : Char} {word rest : Text} (begins : Text.BeginsNumeral c)
    (letter : ¬Text.BeginsNumeral d) : (d :: word).isPrefixOf? (c :: rest) = none := by
  have other : d ≠ c := fun same => letter (same ▸ begins)
  rw [Text.isPrefixOf?_cons_cons, if_neg (by simpa using other)]

theorem bareNode_ofInt {n : Int} (low : -2 ^ 63 ≤ n) (high : n < 2 ^ 64) {after : Text}
    (ends : EndsNumeral after) :
    bareNode (Text.ofInt n ++ after) = (valueNode (some (.ofInt n)), some after) := by
  obtain ⟨c, rest, shape, begins⟩ := Text.exists_ofInt_eq_cons n
  have parsed := Numeral.parse?_ofInt n ends
  rw [shape, List.cons_append] at parsed ⊢
  have null : "null".toList.isPrefixOf? (c :: (rest ++ after)) = none :=
    isPrefixOf?_word begins (by decide)
  have yes : "true".toList.isPrefixOf? (c :: (rest ++ after)) = none :=
    isPrefixOf?_word begins (by decide)
  have no : "false".toList.isPrefixOf? (c :: (rest ++ after)) = none :=
    isPrefixOf?_word begins (by decide)
  rw [bareNode, null, yes, no, parsed]
  exact congrArg (fun value => (valueNode value, some after)) (Numeral.value?_ofInt low high)

/-- The numeral of a whole number is read as the number where a value stands. -/
theorem nodeOf_ofInt {n : Int} (low : -2 ^ 63 ≤ n) (high : n < 2 ^ 64) (fuel : Nat) {after : Text}
    (ends : EndsNumeral after) :
    nodeOf (fuel + 1) (Text.ofInt n ++ after) = (valueNode (some (.ofInt n)), some after) := by
  have bare := bareNode_ofInt low high ends
  obtain ⟨c, rest, shape, begins⟩ := Text.exists_ofInt_eq_cons n
  have other {d : Char} (letter : ¬Text.BeginsNumeral d) : c ≠ d := fun same =>
    letter (same ▸ begins)
  have solid : isSpace c = false := by
    simp [isSpace, other (d := ' ') (by decide), other (d := '\n') (by decide),
      other (d := '\t') (by decide), other (d := '\r') (by decide)]
  rw [shape, List.cons_append] at bare ⊢
  rw [nodeOf, skipSpace_cons solid]
  split
  · next same => exact absurd (List.cons.inj same).1 (other (by decide))
  · next same => exact absurd (List.cons.inj same).1 (other (by decide))
  · next same => exact absurd (List.cons.inj same).1 (other (by decide))
  · exact bare

end Json
end ApiServices
