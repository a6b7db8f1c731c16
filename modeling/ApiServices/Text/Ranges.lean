namespace ApiServices
namespace Text

/-!
# Sets of code points

A set of code points is written as a list of ranges in rising order, both
ends included.  The order lets a search stop at the first range that begins
beyond the code point.
-/

/-- Whether a code point lies in one of the ranges. -/
def inRanges : List (Nat × Nat) -> Nat -> Bool
  | [], _ => false
  | (low, high) :: rest, n => low <= n && (n <= high || inRanges rest n)

end Text
end ApiServices
