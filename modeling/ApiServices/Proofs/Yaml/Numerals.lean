import ApiServices.Proofs.Json.Numerals
import ApiServices.Yaml.Tree

namespace ApiServices
namespace Yaml

/-!
# YAML numerals of whole numbers

A plain scalar is looked at as a null, as a truth value and as a whole number, in this
order.  The numeral of a whole number that fits 64 bits is the first two by no spelling,
and it is no numeral of another radix and not padded with zeros, so that it is read as
the decimal number that it is.
-/

namespace Schema

/-- What begins a numeral begins none of some words. -/
theorem any_eq_false {words : List String} {text : Text}
    (apart : ∀ word ∈ words, word.toList.head?.any (decide <| Text.BeginsNumeral ·) = false)
    (begins : Exists fun c => Exists fun rest => text = c :: rest ∧ Text.BeginsNumeral c) :
    words.any (·.toList == text) = false := by
  obtain ⟨c, rest, shape, numeral⟩ := begins
  rw [List.any_eq_false]
  intro word member same
  have spelled : word.toList.head? = some c := by rw [eq_of_beq same, shape]; rfl
  have other := apart word member
  rw [spelled] at other
  exact of_decide_eq_false other numeral

theorem isNull_ofInt (n : Int) : isNull (Text.ofInt n) = false :=
  any_eq_false (by decide) (Text.exists_ofInt_eq_cons n)

theorem bool?_ofInt (n : Int) : bool? (Text.ofInt n) = none := by
  have begins := Text.exists_ofInt_eq_cons n
  rw [bool?, any_eq_false (by decide) begins, any_eq_false (by decide) begins]
  rfl

/-! ## Digits -/

theorem digit?_of_isDigit {c : Char} (digit : c.isDigit = true) :
    digit? 10 c = some (c.toNat - '0'.toNat) := by
  have small : c.toNat - '0'.toNat < 10 := by
    simp only [Char.isDigit, Bool.and_eq_true, decide_eq_true_eq, UInt32.le_iff_toNat_le,
      Char.reduceVal, UInt32.reduceToNat] at digit
    change c.val.toNat - 48 < 10
    omega
  rw [digit?, if_pos digit]
  exact Option.filter_some_pos (decide_eq_true small)

/-- Digits spell their number. -/
theorem natural?_of_digits {text : Text} (nonempty : text ≠ [])
    (digits : ∀ c ∈ text, c.isDigit = true) :
    natural? 10 text = some (Nat.ofDigitChars 10 text 0) := by
  have all : forall n, text.foldlM (fun number c => (digit? 10 c).map (number * 10 + ·)) n =
      some (Nat.ofDigitChars 10 text n) := by
    intro n
    clear nonempty
    induction text generalizing n with
    | nil => rfl
    | cons c rest ih =>
      obtain ⟨first, later⟩ := List.forall_mem_cons.mp digits
      rw [List.foldlM_cons, digit?_of_isDigit first, Nat.ofDigitChars_cons, Nat.mul_comm]
      exact ih later _
  rw [natural?, if_neg (by simpa using nonempty)]
  exact all 0

theorem natural?_ofNat (n : Nat) : natural? 10 (Text.ofNat n) = some n := by
  rw [natural?_of_digits (Text.ofNat_ne_nil n) fun _ member => Text.isDigit_of_mem_ofNat member,
    Text.ofDigitChars_ofNat]

/-! ## Whole numbers -/

theorem radixNumeral?_ofNat (n : Nat) : radixNumeral? (Text.ofNat n) = none := by
  unfold radixNumeral?
  split
  · next shape =>
    have single := Text.ofNat_of_head (n := n) (by rw [shape]; rfl)
    rw [single] at shape
    cases shape
  · rfl

/-- A numeral is not padded, with or without a sign. -/
theorem not_padded_ofNat (n : Nat) : (1 < (Text.ofNat n).length && (Text.ofNat n).head? == some '0' &&
    (Text.ofNat n).all Char.isDigit) = false := by
  by_cases zero : (Text.ofNat n).head? = some '0'
  · rw [Text.ofNat_of_head zero]
    rfl
  · simp [zero]

theorem isPaddedNumeral_ofNat (n : Nat) : isPaddedNumeral (Text.ofNat n) = false := by
  unfold isPaddedNumeral
  split
  · next shape => exact absurd shape (Text.ofNat_ne_cons n rfl _)
  · next shape => exact absurd shape (Text.ofNat_ne_cons n rfl _)
  · exact not_padded_ofNat n

theorem unsigned?_ofNat (n : Nat) : unsigned? (Text.ofNat n) = some n := by
  unfold unsigned?
  split
  · next shape => exact absurd shape (Text.ofNat_ne_cons n rfl _)
  · dsimp only
    rw [radixNumeral?_ofNat, isPaddedNumeral_ofNat, natural?_ofNat]
    rfl

theorem unsigned?_minus (n : Nat) : unsigned? ('-' :: Text.ofNat n) = none := by
  have padded : isPaddedNumeral ('-' :: Text.ofNat n) = false := not_padded_ofNat n
  have digits : natural? 10 ('-' :: Text.ofNat n) = none := rfl
  unfold unsigned?
  split
  · next shape => exact absurd (List.cons.inj shape).1 (by decide)
  · dsimp only
    rw [padded]
    exact digits

theorem negative?_minus (n : Nat) : negative? ('-' :: Text.ofNat n) = some n := by
  rw [negative?, radixNumeral?_ofNat, isPaddedNumeral_ofNat, natural?_ofNat]
  rfl

/-- The numeral of a whole number of 64 bits is read as the number. -/
theorem integer?_ofInt {n : Int} (low : -2 ^ 63 ≤ n) (high : n < 2 ^ 64) :
    integer? (Text.ofInt n) = some (some (.ofInt n)) := by
  cases n with
  | ofNat n =>
    have fits : n < 2 ^ 64 := by
      have high : (n : Int) < 2 ^ 64 := high
      omega
    rw [Text.ofInt, integer?, unsigned?_ofNat]
    exact if_pos fits
  | negSucc n =>
    have fits : n + 1 ≤ 2 ^ 63 := by omega
    rw [Text.ofInt, integer?, unsigned?_minus, negative?_minus]
    exact if_pos fits

theorem isEmpty_or_isNull_ofInt (n : Int) :
    ((Text.ofInt n).isEmpty || isNull (Text.ofInt n)) = false := by
  obtain ⟨c, rest, shape, _⟩ := Text.exists_ofInt_eq_cons n
  rw [isNull_ofInt, shape]
  rfl

theorem plain?_ofInt {n : Int} (low : -2 ^ 63 ≤ n) (high : n < 2 ^ 64) :
    plain? (Text.ofInt n) = some (.ofInt n) := by
  rw [plain?, isEmpty_or_isNull_ofInt, bool?_ofInt, integer?_ofInt low high]
  rfl

/-- A numeral says something. -/
theorem present?_ofInt (n : Int) : present? none .plain (Text.ofInt n) = some true := by
  rw [present?, if_neg fun other => other rfl, isEmpty_or_isNull_ofInt]
  rfl

end Schema

namespace Build

/-- A scalar token is a node of its own. -/
theorem node_of_scalar (fuel : Nat) (block loose : Bool) {builder : Builder} {text : Text}
    {style : ScalarStyle} {after : List Token} (next : builder.tokens = .scalar text style :: after) :
    (node (fuel + 2) block loose).run builder =
      (nodeOfScalar none style text, { builder with tokens := after }) := by
  obtain ⟨tokens, handles, anchors, holders, count, anchored⟩ := builder
  cases next
  rfl

end Build
end Yaml
end ApiServices
