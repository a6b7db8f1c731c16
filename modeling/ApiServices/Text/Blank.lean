import ApiServices.Text.Basic
import ApiServices.Text.Ranges

namespace ApiServices
namespace Text

/-!
# White space

The Unicode property `White_Space`, and removing it from the ends of a text.
-/

/-- The ranges of `White_Space`, in rising order. -/
def blankRanges : List (Nat × Nat) :=
  [(0x9, 0xD), (0x20, 0x20), (0x85, 0x85), (0xA0, 0xA0), (0x1680, 0x1680), (0x2000, 0x200A),
    (0x2028, 0x2029), (0x202F, 0x202F), (0x205F, 0x205F), (0x3000, 0x3000)]

def isBlank (c : Char) : Bool :=
  inRanges blankRanges c.toNat

def dropBlanks (text : Text) : Text :=
  text.dropWhile isBlank

/-- The text without the white space at its two ends. -/
def trim (text : Text) : Text :=
  (dropBlanks (dropBlanks text).reverse).reverse

theorem isBlank_of_isWhitespace (c : Char) (h : c.isWhitespace = true) : isBlank c = true := by
  simp only [Char.isWhitespace, Bool.or_eq_true, decide_eq_true_eq] at h
  rcases h with ((h | h) | h) | h <;> subst h <;> decide

end Text
end ApiServices
