import ApiServices.Binary64.Shortest
import ApiServices.Proofs.Text.Numerals

namespace ApiServices

/-!
# Whole numbers beyond 63 bits

From `2 ^ 63` on neighbouring doubles are at least 2048 apart, and the interval of
numbers that round to one is wider than 1000.  So there is a multiple of 1000 in it,
and the fewest digits that read back as the double end in three zeros or more.  A whole
number that goes through a double to become a text is replaced by one that is close,
but a multiple of 1000.
-/

namespace Binary64

/-! ## Points of cells -/

namespace Cell

variable {home : Cell} {power point : Nat}

theorem contains_of_point? {power : Int} (found : home.point? power = some point) :
    home.contains power point = true := by
  unfold point? at found
  dsimp only at found
  split at found
  · next lower upper =>
    cases found
    split
    · exact upper
    · exact lower
  · next lower _ =>
    cases found
    exact lower
  · next _ upper =>
    cases found
    exact upper
  · cases found

/-- A cell has the whole numbers between its ends, and its ends if it is closed. -/
theorem contains_iff (whole : home.den = 1) : home.contains (.ofNat power) point = true ↔
    (home.low < point * 10 ^ power ∨ home.closed = true ∧ home.low = point * 10 ^ power) ∧
      (point * 10 ^ power < home.high ∨ home.closed = true ∧ home.high = point * 10 ^ power) := by
  simp [contains, compareToPoint, whole, Nat.compare_eq_lt, Nat.compare_eq_gt]

/-- In a cell that is wide enough there is a multiple of 1000. -/
theorem point?_three (whole : home.den = 1) (below : home.low + 512 ≤ home.middle)
    (above : home.middle + 1024 ≤ home.high) : (home.point? 3).isSome = true := by
  have lower : pointBelow home.middle home.den 3 = home.middle / 1000 := by
    rw [whole]
    rfl
  have inside : home.contains 3 (home.middle / 1000) = true ∨
      home.contains 3 (home.middle / 1000 + 1) = true := by
    rw [show (3 : Int) = .ofNat 3 from rfl, contains_iff whole, contains_iff whole]
    omega
  unfold point?
  rw [lower]
  dsimp only
  rcases inside with found | found
  · rw [found]
    split <;> simp_all
  · rw [found]
    split <;> simp_all

end Cell

/-! ## The digits of large doubles -/

/-- The powers of ten from 1000 on are tried before the others. -/
theorem exists_powers_eq : Exists fun large => Exists fun others =>
    powers = large ++ others ∧ 3 ∈ large ∧ ∀ power ∈ large, 3 ≤ power := by
  refine ⟨(List.range 308).map fun n : Nat => 310 - (n : Int),
    ((List.range 352).map (308 + ·)).map fun n : Nat => 310 - (n : Int), ?_, ?_, ?_⟩
  · rw [powers, show 660 = 308 + 352 from rfl, List.range_add, List.map_append]
  · exact List.mem_map.mpr ⟨307, List.mem_range.mpr (by decide), rfl⟩
  · intro power member
    obtain ⟨n, small, rfl⟩ := List.mem_map.mp member
    have small := List.mem_range.mp small
    omega

/-- The digits of a double with a point at 1000 or more. -/
theorem shortest_of_point? {mantissa : Nat} {exponent : Int}
    (thousands : ((cell mantissa exponent).point? 3).isSome = true) :
    ∃ digits power, 3 ≤ power ∧ shortest mantissa exponent = (digits, .ofNat power) ∧
      (cell mantissa exponent).contains (.ofNat power) digits = true := by
  obtain ⟨tries, others, split, among, large⟩ := exists_powers_eq
  have some : (tries.findSome? fun power =>
      ((cell mantissa exponent).point? power).map (·, power)).isSome = true :=
    List.findSome?_isSome_iff.mpr ⟨3, among, by simpa only [Option.isSome_map] using thousands⟩
  obtain ⟨⟨digits, power⟩, found⟩ := Option.isSome_iff_exists.mp some
  obtain ⟨tried, member, hit⟩ := List.exists_of_findSome?_eq_some found
  obtain ⟨point, isPoint, same⟩ := Option.map_eq_some_iff.mp hit
  obtain ⟨rfl, rfl⟩ := Prod.mk.inj same
  obtain ⟨zeros, rfl⟩ := Int.eq_ofNat_of_zero_le (Int.le_trans (by decide) (large _ member))
  refine ⟨point, zeros, Int.ofNat_le.mp (large _ member), ?_, Cell.contains_of_point? isPoint⟩
  unfold shortest
  dsimp only
  rw [split, List.findSome?_append, found]
  rfl

/-- The cell of a whole double reaches half the way to its neighbours, of which the
lower one may be half as far away. -/
theorem cell_ofNat {mantissa : Nat} (positive : 0 < mantissa) (exponent : Nat) {home : Cell}
    (is : cell mantissa (.ofNat (exponent + 2)) = home) :
    home.den = 1 ∧ home.middle = 4 * mantissa * 2 ^ exponent ∧
      home.high = home.middle + 2 * 2 ^ exponent ∧
      home.low + 2 ^ exponent ≤ home.middle ∧ home.middle ≤ home.low + 2 * 2 ^ exponent := by
  have shifted : Int.ofNat (exponent + 2) - 2 = .ofNat exponent := by
    change ((exponent + 2 : Nat) : Int) - 2 = exponent
    omega
  have four : 4 * 2 ^ exponent ≤ 4 * mantissa * 2 ^ exponent := Nat.mul_le_mul_right _ (by omega)
  rw [cell, shifted] at is
  dsimp only [scaled] at is
  rw [← is]
  dsimp only
  rw [Nat.one_mul, Nat.pow_eq]
  refine ⟨rfl, rfl, Nat.add_mul .., ?_⟩
  rw [Nat.sub_mul]
  split <;> omega

/-- A double from `2 ^ 63` on is written as a multiple of 1000 that is in its cell. -/
theorem exists_plainText {mantissa exponent : Nat} (positive : 0 < mantissa) (large : 9 ≤ exponent) :
    Exists fun m => (finite false mantissa (.ofNat (exponent + 2))).plainText = Text.ofNat m ∧
      1000 ∣ m ∧ 4 * mantissa * 2 ^ exponent ≤ m + 2 * 2 ^ exponent ∧
        m ≤ 4 * mantissa * 2 ^ exponent + 2 * 2 ^ exponent := by
  obtain ⟨whole, middle, high, below, near⟩ := cell_ofNat positive exponent rfl
  have unit : 2 ^ 9 ≤ 2 ^ exponent := Nat.pow_le_pow_right (by decide) large
  obtain ⟨digits, power, zeros, short, inside⟩ :=
    shortest_of_point? (Cell.point?_three whole (by omega) (by omega))
  obtain ⟨lower, upper⟩ := (Cell.contains_iff whole).mp inside
  have nonzero : 0 < digits := by
    have four : 4 * 2 ^ exponent ≤ 4 * mantissa * 2 ^ exponent :=
      Nat.mul_le_mul_right _ (by omega)
    apply Nat.pos_of_ne_zero
    rintro rfl
    omega
  refine ⟨digits * 10 ^ power, ?_, ?_, ?_, ?_⟩
  · rw [← Text.ofNat_append_zeros nonzero, plainText, short]
    · rfl
    · omega
  · exact Nat.dvd_mul_left_of_dvd (Nat.pow_dvd_pow 10 zeros) digits
  · omega
  · omega

/-! ## The double of a whole number -/

/-- Rounding moves a quotient by half a unit at most. -/
theorem roundQuotient_bounds (num : Nat) {den : Nat} (positive : 0 < den) :
    2 * (den * roundQuotient num den) ≤ 2 * num + den ∧
      2 * num ≤ 2 * (den * roundQuotient num den) + den := by
  have split := Nat.div_add_mod num den
  have small := Nat.mod_lt num positive
  unfold roundQuotient
  dsimp only
  split
  · omega
  split
  · rw [Nat.mul_succ]
    omega
  · rcases Nat.mod_two_eq_zero_or_one (num / den) with even | odd
    · rw [even, Nat.add_zero]
      omega
    · rw [odd, Nat.mul_succ]
      omega

/-- The double of a number of 64 bits that does not fit 63 bits. -/
theorem ofNat_of_large {n : Nat} (low : 2 ^ 63 ≤ n) (high : n < 2 ^ 64) : ofNat n =
    if roundQuotient n (2 ^ 11) = 2 ^ 53 then finite false (2 ^ 52) (.ofNat 12)
    else finite false (roundQuotient n (2 ^ 11)) (.ofNat 11) := by
  have nonzero : n ≠ 0 := by omega
  have bits : n.log2 = 63 := (Nat.log2_eq_iff nonzero).mpr ⟨low, high⟩
  have normal : exponentFor n 1 = 11 := by
    unfold exponentFor
    rw [bits]
    change max (-1074) (if n < 1 * 2 ^ 11 * Nat.pow 2 52 then _ else (11 : Int)) = 11
    rw [if_neg (by change ¬n < 2 ^ 63; omega)]
    rfl
  rw [ofNat, ofRatio, if_neg nonzero, normal]
  dsimp only
  rw [show scaled n 1 (-11) = (n, 2 ^ 11) from rfl]
  simp only [Nat.pow_eq]
  by_cases round : roundQuotient n (2 ^ 11) = 2 ^ 53
  · rw [if_pos round, if_pos round]
    rfl
  · rw [if_neg round, if_neg round]
    rfl

/-- The double of a number from `2 ^ 63` on is written as a multiple of 1000 nearby. -/
theorem exists_plainText_ofNat {n : Nat} (low : 2 ^ 63 ≤ n) (high : n < 2 ^ 64) :
    Exists fun m => (ofNat n).plainText = Text.ofNat m ∧ 1000 ∣ m ∧ n ≤ m + 3072 ∧ m ≤ n + 3072 := by
  have bounds := roundQuotient_bounds n (show 0 < 2 ^ 11 by decide)
  rw [ofNat_of_large low high]
  split
  · next round =>
    obtain ⟨m, written, thousands, least, most⟩ :=
      @exists_plainText (2 ^ 52) 10 (by decide) (by decide)
    exact ⟨m, written, thousands, by omega, by omega⟩
  · obtain ⟨m, written, thousands, least, most⟩ :=
      @exists_plainText (roundQuotient n (2 ^ 11)) 9 (by omega) (by decide)
    exact ⟨m, written, thousands, by omega, by omega⟩

end Binary64
end ApiServices
