import ApiServices.Text.Blank
import Mathlib.Data.List.TakeWhile

namespace ApiServices
namespace Text

/-!
# Trimming

A trimmed text neither begins nor ends with white space, and a text that does
neither is its own trimmed form.  White space that is added at an end does not
change the trimmed form.
-/

/-- The characters that are white space. -/
def blankChars : List Char :=
  blankRanges.flatMap fun range =>
    (List.range (range.2 + 1 - range.1)).map fun k => Char.ofNat (range.1 + k)

theorem mem_of_inRanges {ranges : List (Nat × Nat)} {n : Nat} (inside : inRanges ranges n = true) :
    Exists fun range => range ∈ ranges ∧ range.1 ≤ n ∧ n ≤ range.2 := by
  induction ranges with
  | nil => cases inside
  | cons range rest ih =>
    rw [inRanges, Bool.and_eq_true, Bool.or_eq_true, decide_eq_true_eq, decide_eq_true_eq] at inside
    rcases inside with ⟨low, high | later⟩
    · exact ⟨range, List.mem_cons_self, low, high⟩
    · obtain ⟨found, member, bounds⟩ := ih later
      exact ⟨found, List.mem_cons_of_mem range member, bounds⟩

theorem mem_blankChars {c : Char} (blank : isBlank c = true) : c ∈ blankChars := by
  obtain ⟨range, member, low, high⟩ := mem_of_inRanges blank
  refine List.mem_flatMap.mpr ⟨range, member, List.mem_map.mpr ⟨c.toNat - range.1, ?_, ?_⟩⟩
  · exact List.mem_range.mpr (by omega)
  · rw [Nat.add_sub_cancel' low, Char.ofNat_toNat]

@[simp] theorem dropBlanks_cons_of_blank {c : Char} (text : Text) (blank : isBlank c = true) :
    dropBlanks (c :: text) = dropBlanks text :=
  List.dropWhile_cons_of_pos blank

@[simp] theorem dropBlanks_cons_of_plain {c : Char} (text : Text) (plain : isBlank c = false) :
    dropBlanks (c :: text) = c :: text :=
  List.dropWhile_cons_of_neg (by simp [plain])

/-- White space in front of a text is dropped. -/
theorem dropBlanks_append_of_blank {gap : Text} (text : Text)
    (blank : ∀ c ∈ gap, isBlank c = true) : dropBlanks (gap ++ text) = dropBlanks text :=
  List.dropWhile_append_of_pos blank

/-- What is dropped is white space. -/
theorem exists_eq_append_dropBlanks (text : Text) :
    Exists fun gap => (∀ c ∈ gap, isBlank c = true) ∧ text = gap ++ dropBlanks text :=
  ⟨text.takeWhile isBlank, fun _ member => List.mem_takeWhile_imp member,
    List.takeWhile_append_dropWhile.symm⟩

theorem dropBlanks_of_head {text : Text}
    (first : forall c, text.head? = some c -> isBlank c = false) : dropBlanks text = text := by
  cases text with
  | nil => rfl
  | cons c rest => exact dropBlanks_cons_of_plain rest (first c rfl)

theorem head_of_dropBlanks {text : Text} {c : Char} (first : (dropBlanks text).head? = some c) :
    isBlank c = false := by
  induction text with
  | nil => cases first
  | cons d rest ih =>
    by_cases blank : isBlank d = true
    · rw [dropBlanks_cons_of_blank rest blank] at first
      exact ih first
    · have plain := Bool.eq_false_iff.mpr blank
      rw [dropBlanks_cons_of_plain rest plain] at first
      exact Option.some.inj first ▸ plain

theorem dropBlanks_reverse_of_last {text : Text}
    (last : forall c, text.getLast? = some c -> isBlank c = false) :
    dropBlanks text.reverse = text.reverse := by
  apply dropBlanks_of_head
  intro c first
  rw [List.head?_reverse] at first
  exact last c first

/-- A text whose ends are no white space is its own trimmed form. -/
theorem trim_of_ends {text : Text} (first : forall c, text.head? = some c -> isBlank c = false)
    (last : forall c, text.getLast? = some c -> isBlank c = false) : trim text = text := by
  rw [trim, dropBlanks_of_head first, dropBlanks_reverse_of_last last, List.reverse_reverse]

/-- A text between two characters that are no white space is trimmed. -/
theorem trim_enclosed {c d : Char} (text : Text) (first : isBlank c = false)
    (last : isBlank d = false) : trim (c :: (text ++ [d])) = c :: (text ++ [d]) := by
  apply trim_of_ends
  · intro e same
    exact Option.some.inj same ▸ first
  · intro e same
    rw [← List.cons_append, List.getLast?_concat] at same
    exact Option.some.inj same ▸ last

theorem last_of_trim {text : Text} {c : Char} (last : (trim text).getLast? = some c) :
    isBlank c = false := by
  rw [trim, List.getLast?_reverse] at last
  exact head_of_dropBlanks last

/-- The trimmed form stands at the beginning of what is left when the white
space before it is dropped. -/
theorem trim_isPrefixOf_dropBlanks (text : Text) : trim text <+: dropBlanks text := by
  have suffix : dropBlanks (dropBlanks text).reverse <:+ (dropBlanks text).reverse :=
    List.dropWhile_suffix isBlank
  have opposite := List.reverse_prefix.mpr suffix
  rwa [List.reverse_reverse] at opposite

theorem head_of_trim {text : Text} {c : Char} (first : (trim text).head? = some c) :
    isBlank c = false := by
  rcases trim_isPrefixOf_dropBlanks text with ⟨blanks, whole⟩
  have left : (dropBlanks text).head? = some c := by
    rw [← whole, List.head?_append, first]
    rfl
  exact head_of_dropBlanks left

/-- Trimming twice is trimming once. -/
@[simp] theorem trim_trim (text : Text) : trim (trim text) = trim text :=
  trim_of_ends (fun _ first => head_of_trim first) (fun _ last => last_of_trim last)

/-- Only white space is trimmed away altogether. -/
theorem isBlank_of_trim_eq_nil {text : Text} (empty : trim text = []) :
    ∀ c ∈ text, isBlank c = true := by
  have blanks : ∀ c ∈ dropBlanks text, isBlank c = true := by
    have dropped := List.reverse_eq_nil_iff.mp empty
    intro c member
    exact List.dropWhile_eq_nil_iff.mp dropped c (List.mem_reverse.mpr member)
  have nothing : dropBlanks text = [] := by
    cases left : dropBlanks text with
    | nil => rfl
    | cons c rest =>
      have plain := head_of_dropBlanks (show (dropBlanks text).head? = some c by rw [left]; rfl)
      rw [blanks c (left ▸ List.mem_cons_self)] at plain
      cases plain
  exact List.dropWhile_eq_nil_iff.mp nothing

theorem mem_of_mem_trim {text : Text} {c : Char} (member : c ∈ trim text) : c ∈ text :=
  (List.dropWhile_suffix isBlank).subset ((trim_isPrefixOf_dropBlanks text).subset member)

theorem trim_cons_of_blank {c : Char} (text : Text) (blank : isBlank c = true) :
    trim (c :: text) = trim text := by
  rw [trim, dropBlanks_cons_of_blank text blank]
  rfl

theorem trim_space_cons (text : Text) : trim (' ' :: text) = trim text :=
  trim_cons_of_blank text (by decide)

/-- An indented text is trimmed like the text. -/
theorem trim_indented (depth : Nat) (text : Text) :
    trim (List.replicate depth ' ' ++ text) = trim text := by
  induction depth with
  | zero => rfl
  | succ depth ih => rw [List.replicate_succ, List.cons_append, trim_space_cons, ih]

theorem trim_append_of_blank {c : Char} (text : Text) (blank : isBlank c = true) :
    trim (text ++ [c]) = trim text := by
  unfold trim
  have both : dropBlanks (text ++ [c]) =
      if (dropBlanks text).isEmpty then dropBlanks [c] else dropBlanks text ++ [c] :=
    List.dropWhile_append
  rw [both]
  split
  · next empty =>
    rw [dropBlanks_cons_of_blank [] blank, List.isEmpty_iff.mp empty]
    rfl
  · rw [List.reverse_append, List.reverse_singleton, List.singleton_append,
      dropBlanks_cons_of_blank _ blank]

end Text
end ApiServices
