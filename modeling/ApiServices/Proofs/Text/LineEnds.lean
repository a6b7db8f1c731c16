import ApiServices.Proofs.Text.Lines
import ApiServices.Proofs.Text.Trimming
import Mathlib.Data.List.Forall2

namespace ApiServices
namespace Text

/-!
# Line ends

A line can be ended with or without a carriage return before the line feed.
Reading takes a carriage return for a part of the line end, and trimming would
take it off the line anyway.  A reader that trims its lines can therefore not
tell which kind of line ends a text has, even if it has both.
-/

/-- The second text is the first one with carriage returns before some of its
line feeds. -/
inductive Returned : Text -> Text -> Prop
  | empty : Returned [] []
  | kept (c : Char) {text other : Text} (rest : Returned text other) :
      Returned (c :: text) (c :: other)
  | added {text other : Text} (rest : Returned text other) :
      Returned ('\n' :: text) ('\r' :: '\n' :: other)

/-- A line, and the same line with a carriage return at its end or without. -/
def ReturnedLine (line other : Text) : Prop :=
  other = line ∨ other = line ++ ['\r']

section Pieces

variable (p : Char -> Bool) {c : Char} {text : Text}

theorem splitWhere_cons_of_separator (separates : p c = true) :
    splitWhere p (c :: text) = [] :: splitWhere p text :=
  if_pos separates

theorem splitWhere_cons_of_plain {first : Text} {others : List Text} (plain : p c = false)
    (pieces : splitWhere p text = first :: others) :
    splitWhere p (c :: text) = (c :: first) :: others := by
  rw [splitWhere, plain, if_neg Bool.false_ne_true, pieces]

end Pieces

/-- The pieces of the two texts differ in carriage returns at their ends, and
not at all behind the last line feed. -/
theorem exists_pieces_of_returned {text other : Text} (returned : Returned text other) :
    Exists fun before => Exists fun after => Exists fun last =>
      splitWhere (· == '\n') text = before ++ [last] ∧
        splitWhere (· == '\n') other = after ++ [last] ∧
          List.Forall₂ ReturnedLine before after := by
  induction returned with
  | empty => exact ⟨[], [], [], rfl, rfl, List.Forall₂.nil⟩
  | kept c rest ih =>
    rcases ih with ⟨before, after, last, pieces, otherPieces, alike⟩
    by_cases feed : (c == '\n') = true
    · refine ⟨[] :: before, [] :: after, last, ?_, ?_, List.Forall₂.cons (Or.inl rfl) alike⟩
      · rw [splitWhere_cons_of_separator (· == '\n') feed, pieces, List.cons_append]
      · rw [splitWhere_cons_of_separator (· == '\n') feed, otherPieces, List.cons_append]
    · have plain := Bool.eq_false_iff.mpr feed
      cases alike with
      | nil =>
        exact ⟨[], [], c :: last, splitWhere_cons_of_plain _ plain pieces,
          splitWhere_cons_of_plain _ plain otherPieces, List.Forall₂.nil⟩
      | @cons line same lines others here further =>
        have longer : ReturnedLine (c :: line) (c :: same) := by
          rcases here with equal | ended
          · exact Or.inl (by rw [equal])
          · exact Or.inr (by rw [ended, List.cons_append])
        exact ⟨(c :: line) :: lines, (c :: same) :: others, last,
          splitWhere_cons_of_plain _ plain pieces, splitWhere_cons_of_plain _ plain otherPieces,
          List.Forall₂.cons longer further⟩
  | @added text other rest ih =>
    rcases ih with ⟨before, after, last, pieces, otherPieces, alike⟩
    refine ⟨[] :: before, ['\r'] :: after, last, ?_, ?_, List.Forall₂.cons (Or.inr rfl) alike⟩
    · rw [splitWhere_cons_of_separator (· == '\n') (by rfl), pieces, List.cons_append]
    · have fed : splitWhere (· == '\n') ('\n' :: other) = [] :: splitWhere (· == '\n') other :=
        splitWhere_cons_of_separator (· == '\n') (by rfl)
      rw [splitWhere_cons_of_plain (· == '\n') (by rfl) fed, otherPieces, List.cons_append]

theorem trim_append_return (line : Text) : trim (line ++ ['\r']) = trim line :=
  trim_append_of_blank line (by decide)

/-- Taking a carriage return off the end of a line does not change its trimmed
form. -/
theorem trim_unreturned (line : Text) :
    trim (if line.getLast? = some '\r' then line.dropLast else line) = trim line := by
  split
  · next ended =>
    have whole : line = line.dropLast ++ ['\r'] := by
      rcases List.getLast?_eq_some_iff.mp ended with ⟨front, shape⟩
      rw [shape, List.dropLast_concat]
    exact (trim_append_return line.dropLast).symm.trans (congrArg trim whole.symm)
  · rfl

/-- The trimmed lines of a text, by its pieces between line feeds. -/
theorem map_trim_lines {text last : Text} {before : List Text}
    (pieces : splitWhere (· == '\n') text = before ++ [last]) :
    (lines text).map trim = before.map trim ++ if last.isEmpty then [] else [trim last] := by
  have ended : (before.map fun line =>
      if line.getLast? = some '\r' then line.dropLast else line).map trim = before.map trim := by
    rw [List.map_map]
    exact List.map_congr_left fun line _ => trim_unreturned line
  unfold lines
  rw [pieces, List.reverse_append, List.reverse_singleton, List.singleton_append]
  simp only [List.reverse_reverse]
  split
  · rw [ended, List.append_nil]
  · rw [List.map_append, ended, List.map_singleton]

theorem map_trim_of_returned {before after : List Text}
    (alike : List.Forall₂ ReturnedLine before after) : after.map trim = before.map trim := by
  induction alike with
  | nil => rfl
  | cons here _ ih =>
    rw [List.map_cons, List.map_cons, ih]
    rcases here with equal | ended
    · rw [equal]
    · rw [ended, trim_append_return]

/-- Whatever line ends a text has, its lines have the same trimmed forms. -/
theorem map_trim_lines_of_returned {text other : Text} (returned : Returned text other) :
    (lines other).map trim = (lines text).map trim := by
  rcases exists_pieces_of_returned returned with ⟨before, after, last, pieces, otherPieces, alike⟩
  rw [map_trim_lines pieces, map_trim_lines otherPieces, map_trim_of_returned alike]

end Text
end ApiServices
