namespace ApiServices

/-!
# Text

A text is the list of its characters.  This module holds the few operations
on texts that the rest of the library shares: cutting at separators, reading
lines, replacing characters and putting pieces together again.
-/

/-- A text is its sequence of characters. -/
abbrev Text := List Char

namespace Text

/-- Cut at every character that satisfies `p`; the pieces between, before and
after the cuts are all kept, also the empty ones. -/
def splitWhere (p : Char -> Bool) : Text -> List Text
  | [] => [[]]
  | c :: rest =>
    if p c then [] :: splitWhere p rest
    else match splitWhere p rest with
      | [] => [[c]]
      | piece :: pieces => (c :: piece) :: pieces

/-- The maximal runs of characters that do not satisfy `p`. -/
def runsBetween (p : Char -> Bool) (text : Text) : List Text :=
  (splitWhere p text).filter (!·.isEmpty)

/-- The text before the first `c`, or all of it. -/
def upTo (c : Char) (text : Text) : Text :=
  text.takeWhile (· != c)

/-- Pieces put together with a separator between neighbours. -/
def joinWith (separator : Text) (pieces : List Text) : Text :=
  separator.intercalate pieces

/-- A line end is a line feed, or a carriage return and a line feed; a last
line without one counts when it is not empty. -/
def lines (text : Text) : List Text :=
  match (splitWhere (· == '\n') text).reverse with
  | [] => []
  | last :: before =>
    let ended := before.reverse.map fun line =>
      if line.getLast? = some '\r' then line.dropLast else line
    if last.isEmpty then ended else ended ++ [last]

/-- Decimal numeral of a natural number. -/
def ofNat (n : Nat) : Text :=
  Nat.toDigits 10 n

/-- Decimal numeral of an integer, with a minus sign when it is negative. -/
def ofInt : Int -> Text
  | .ofNat n => ofNat n
  | .negSucc n => '-' :: ofNat (n + 1)

/-- How many bytes the text takes up. -/
def byteSize (text : Text) : Nat :=
  text.foldr (fun c size => c.utf8Size + size) 0

theorem splitWhere_ne_nil (p : Char -> Bool) (text : Text) : splitWhere p text ≠ [] := by
  cases text with
  | nil => simp [splitWhere]
  | cons c rest =>
    unfold splitWhere
    split
    · simp
    · split <;> simp

end Text
end ApiServices
