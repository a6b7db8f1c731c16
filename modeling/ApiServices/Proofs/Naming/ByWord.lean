import ApiServices.Proofs.Naming.Identifiers
import Mathlib.Data.List.Infix

namespace ApiServices

/-!
# Names that speak of a parameter

A placeholder of a route is announced in the name of the method by the word `By`.  A
route without placeholders has a name without the word unless its segments spell it:
they get into the name with their letters and digits, the first of which is made
uppercase.  So a segment brings the word in when it has it inside, and also when it
begins with `by` and something stands before it in the name.

There are no other ways.  The verb has no capital letter once it is lowercase, and the
word cannot arise between two segments, as the second one begins with no small letter.
-/

namespace Text

/-! ## Neighbouring characters -/

section Neighbours

variable {a b : Char} {before after : Text}

/-- Neighbours in two texts put together are neighbours in one of them, or stand on the
two sides of the seam. -/
theorem pair_infix_append_iff :
    [a, b] <:+: before ++ after ↔
      [a, b] <:+: before ∨ [a, b] <:+: after ∨
        (before.getLast? = some a ∧ after.head? = some b) := by
  rw [List.infix_append_iff_ne_nil]
  refine or_congr_right (or_congr_right ?_)
  constructor
  · rintro ⟨left, right, filled, alsoFilled, split, ends, begins⟩
    rcases List.exists_cons_of_ne_nil filled with ⟨c, rest, shape⟩
    rw [shape, List.cons_append] at split
    rcases List.cons.inj split with ⟨first, second⟩
    have none : rest = [] := by
      cases rest with
      | nil => rfl
      | cons d more =>
        exact absurd (List.append_eq_nil_iff.mp (List.cons.inj second).2.symm).2 alsoFilled
    rw [none, List.nil_append] at second
    rw [shape, none, ← first] at ends
    rw [← second] at begins
    rcases ends with ⟨opening, whole⟩
    rcases begins with ⟨closing, alsoWhole⟩
    rw [← whole, ← alsoWhole, List.getLast?_concat]
    exact ⟨rfl, rfl⟩
  · rintro ⟨last, first⟩
    rcases List.getLast?_eq_some_iff.mp last with ⟨opening, whole⟩
    rcases List.head?_eq_some_iff.mp first with ⟨closing, alsoWhole⟩
    exact ⟨[a], [b], List.cons_ne_nil a [], List.cons_ne_nil b [], rfl, ⟨opening, whole.symm⟩,
      ⟨closing, alsoWhole.symm⟩⟩

/-- A text without the first of two neighbours adds none of them in front. -/
theorem pair_infix_append_of_notMem (absent : a ∉ before) :
    [a, b] <:+: before ++ after ↔ [a, b] <:+: after := by
  rw [pair_infix_append_iff]
  constructor
  · rintro (inside | later | ⟨last, _⟩)
    · exact absurd (inside.subset List.mem_cons_self) absent
    · exact later
    · exact absurd (List.mem_of_getLast? last) absent
  · exact fun later => Or.inr (Or.inl later)

/-- A text that does not begin with the second of two neighbours makes none at the seam. -/
theorem pair_infix_append_of_head (other : after.head? ≠ some b) :
    [a, b] <:+: before ++ after ↔ [a, b] <:+: before ∨ [a, b] <:+: after := by
  rw [pair_infix_append_iff]
  exact or_congr_right (or_iff_left fun seam => other seam.2)

theorem head?_flatMap_ne {α : Type} {f : α -> Text} {inputs : List α}
    (others : ∀ input ∈ inputs, (f input).head? ≠ some b) : (inputs.flatMap f).head? ≠ some b := by
  rw [List.head?_flatMap]
  intro found
  rcases List.exists_of_findSome?_eq_some found with ⟨input, member, first⟩
  exact others input member first

/-- Where no text begins with the second of two neighbours, they stand inside one. -/
theorem pair_infix_flatMap_iff {α : Type} {f : α -> Text} {inputs : List α}
    (others : ∀ input ∈ inputs, (f input).head? ≠ some b) :
    [a, b] <:+: inputs.flatMap f ↔ ∃ input ∈ inputs, [a, b] <:+: f input := by
  induction inputs with
  | nil => simp
  | cons first rest ih =>
    have later := (List.forall_mem_cons.mp others).2
    rw [List.flatMap_cons, pair_infix_append_of_head (head?_flatMap_ne later), ih later,
      List.exists_mem_cons_iff]

end Neighbours

end Text

namespace MethodName

variable {verb route word : Text}

/-! ## Words of a route -/

/-- The letters and digits of the segments that have any. -/
def words (route : Text) : List Text :=
  ((segments route).map (·.filter isNameChar)).filter (!·.isEmpty)

/-- Whether a word begins with `by`, in either case of its first letter. -/
def BeginsBy (word : Text) : Prop :=
  word.take 2 ∈ ["by".toList, "By".toList]

instance (word : Text) : Decidable (BeginsBy word) :=
  inferInstanceAs (Decidable (word.take 2 ∈ ["by".toList, "By".toList]))

/-- Whether the words of a route spell `By` in the name: one has it inside, or one
begins with it and is not the first part of the name. -/
def SpellsBy (verb route : Text) : Prop :=
  (∃ word ∈ words route, "By".toList <:+: word.tail) ∨
    ∃ word ∈ (words route).drop (if verb.isEmpty then 1 else 0), BeginsBy word

instance (verb route : Text) : Decidable (SpellsBy verb route) :=
  inferInstanceAs (Decidable (_ ∨ _))

theorem isNameChar_of_mem_words (member : word ∈ words route) :
    ∀ c ∈ word, isNameChar c = true := by
  rcases List.mem_map.mp (List.mem_filter.mp member).1 with ⟨segment, _, letters⟩
  intro c inside
  rw [← letters] at inside
  exact (List.mem_filter.mp inside).2

theorem ne_nil_of_mem_words (member : word ∈ words route) : word ≠ [] := by
  simpa using (List.mem_filter.mp member).2

/-- A character of a name stays a single one when it is made uppercase. -/
theorem upperChar_of_isNameChar {c : Char} (letter : isNameChar c = true) :
    Exists fun capital => Text.upperChar c = [capital] ∧ capital ≠ 'y' ∧
      (capital = 'B' ↔ c = 'b' ∨ c = 'B') := by
  have table : forall n : Fin 128, (Char.ofNat n).toUpper ≠ 'y' ∧
      ((Char.ofNat n).toUpper = 'B' ↔ Char.ofNat n = 'b' ∨ Char.ofNat n = 'B') := by
    decide
  have follow : Identifier.canFollow c = true := by
    have letter : c.isAlphanum = true := letter
    simp [Identifier.canFollow, letter]
  have small := Identifier.toNat_lt_of_canFollow follow
  have upper := Text.of_table (p := fun c => Text.upperChar c = [c.toUpper])
    Text.upperChar_of_ascii small
  have known := Text.of_table
    (p := fun c => c.toUpper ≠ 'y' ∧ (c.toUpper = 'B' ↔ c = 'b' ∨ c = 'B')) table small
  exact ⟨c.toUpper, upper, known⟩

/-- A word with an uppercase first letter does not begin with a small one. -/
theorem head?_upperFirst_ne (letters : ∀ c ∈ word, isNameChar c = true) :
    (Text.upperFirst word).head? ≠ some 'y' := by
  cases word with
  | nil => exact fun impossible => nomatch impossible
  | cons c rest =>
    rcases upperChar_of_isNameChar (letters c List.mem_cons_self) with ⟨capital, upper, other, _⟩
    rw [Text.upperFirst, upper]
    exact fun same => other (Option.some.inj same)

/-- What makes a word with an uppercase first letter have `By` in it. -/
theorem by_infix_upperFirst_iff (letters : ∀ c ∈ word, isNameChar c = true) :
    "By".toList <:+: Text.upperFirst word ↔ "By".toList <:+: word.tail ∨ BeginsBy word := by
  cases word with
  | nil => decide
  | cons c rest =>
    rcases upperChar_of_isNameChar (letters c List.mem_cons_self) with ⟨capital, upper, _, letter⟩
    have begins : "By".toList <+: capital :: rest ↔ BeginsBy (c :: rest) := by
      unfold BeginsBy
      change ['B', 'y'] <+: capital :: rest ↔ _
      rw [List.cons_prefix_cons, eq_comm, letter]
      cases rest with
      | nil => simp
      | cons d more => simp [List.cons_prefix_cons, eq_comm, or_and_right]
    rw [Text.upperFirst, upper, List.singleton_append]
    change ['B', 'y'] <:+: capital :: rest ↔ _
    rw [List.infix_cons_iff, or_comm]
    exact or_congr_right begins

/-! ## Names -/

/-- The segments of a route without placeholders contribute its words. -/
theorem flatMap_ofSegment (plain : '{' ∉ route) :
    (segments route).flatMap ofSegment = (words route).flatMap Text.upperFirst := by
  have each : ∀ segment ∈ segments route,
      ofSegment segment = Text.upperFirst (segment.filter isNameChar) := by
    intro segment member
    have none : placeholder? segment = none := by
      cases placed : placeholder? segment with
      | none => rfl
      | some name =>
        have brace : '{' ∈ segment := placeholder?_eq_some_iff.mp placed ▸ List.mem_cons_self
        exact absurd ((isInfix_of_mem_segments member).subset brace) plain
    rw [ofSegment, none]
  unfold words
  generalize segments route = pieces at each
  induction pieces with
  | nil => rfl
  | cons segment rest ih =>
    rcases List.forall_mem_cons.mp each with ⟨first, later⟩
    rw [List.flatMap_cons, first, ih later, List.map_cons, List.filter_cons]
    cases segment.filter isNameChar <;> rfl

/-- The words of a route have `By` in the name as far as they spell it. -/
theorem by_infix_flatMap_words {inputs : List Text} (among : ∀ word ∈ inputs, word ∈ words route) :
    "By".toList <:+: inputs.flatMap Text.upperFirst ↔
      (∃ word ∈ inputs, "By".toList <:+: word.tail) ∨ ∃ word ∈ inputs, BeginsBy word := by
  have letters : ∀ word ∈ inputs, ∀ c ∈ word, isNameChar c = true :=
    fun word member => isNameChar_of_mem_words (among word member)
  have heads := fun word member => head?_upperFirst_ne (letters word member)
  refine (Text.pair_infix_flatMap_iff heads).trans ?_
  rw [← exists_or]
  apply exists_congr
  intro word
  rw [← and_or_left]
  exact and_congr_right fun member => by_infix_upperFirst_iff (letters word member)

theorem capitalB_notMem_lowerChar (c : Char) : 'B' ∉ Text.lowerChar c :=
  Text.notMem_lowerChar (by decide +kernel) (by decide +kernel) c

theorem capitalB_notMem_lower (text : Text) : 'B' ∉ Text.lower text :=
  Text.notMem_lowerAfter (by decide) fun c _ => capitalB_notMem_lowerChar c

/-- With a verb in front, the name has the word where the words of the route have it. -/
theorem by_infix_lowerFirst_append (named : verb ≠ []) (rest : Text) :
    "By".toList <:+: Text.lowerFirst (Text.lower verb ++ rest) ↔ "By".toList <:+: rest := by
  cases lowered : Text.lower verb with
  | nil => exact absurd (Text.lower_eq_nil_iff.mp lowered) named
  | cons c others =>
    have absent : 'B' ∉ Text.lowerChar c ++ others := by
      intro member
      rcases List.mem_append.mp member with first | later
      · exact capitalB_notMem_lowerChar c first
      · exact capitalB_notMem_lower verb (lowered ▸ List.mem_cons_of_mem c later)
    rw [List.cons_append, Text.lowerFirst, ← List.append_assoc]
    exact Text.pair_infix_append_of_notMem absent

/-- Without a verb, the first letter of the first word is made lowercase again. -/
theorem by_infix_lowerFirst_words :
    "By".toList <:+: Text.lowerFirst ((words route).flatMap Text.upperFirst) ↔
      SpellsBy [] route := by
  unfold SpellsBy
  cases found : words route with
  | nil => decide
  | cons word others =>
    have first : word ∈ words route := found ▸ List.mem_cons_self
    have later : ∀ other ∈ others, other ∈ words route :=
      fun other member => found ▸ List.mem_cons_of_mem word member
    rcases List.exists_cons_of_ne_nil (ne_nil_of_mem_words first) with ⟨c, rest, shape⟩
    have letter : isNameChar c = true :=
      isNameChar_of_mem_words first c (shape ▸ List.mem_cons_self)
    rcases upperChar_of_isNameChar letter with ⟨capital, upper, _⟩
    have heads : (others.flatMap Text.upperFirst).head? ≠ some 'y' :=
      Text.head?_flatMap_ne fun other member =>
        head?_upperFirst_ne (isNameChar_of_mem_words (later other member))
    rw [List.flatMap_cons, shape, Text.upperFirst, upper, List.singleton_append, List.cons_append,
      Text.lowerFirst]
    refine (Text.pair_infix_append_of_notMem (capitalB_notMem_lowerChar capital)).trans ?_
    refine (Text.pair_infix_append_of_head heads).trans ?_
    rw [List.exists_mem_cons_iff, or_assoc]
    exact or_congr_right (by_infix_flatMap_words later)

/-- The name of a method on a route without placeholders has the word `By` in it just
where the words of the route spell it. -/
theorem by_infix_methodName_iff (verb : Text) (plain : '{' ∉ route) :
    "By".toList <:+: methodName verb route none ↔ SpellsBy verb route := by
  change "By".toList <:+: ofRoute verb route ↔ _
  unfold ofRoute
  split
  · next empty =>
    rw [List.isEmpty_iff.mp empty]
    refine iff_of_false ?_ ?_
    · exact fun inside => capitalB_notMem_lower verb (inside.subset List.mem_cons_self)
    · rintro (⟨word, member, _⟩ | ⟨word, member, _⟩)
      · cases member
      · cases List.mem_of_mem_drop member
  · rw [flatMap_ofSegment plain]
    cases verb with
    | nil => exact by_infix_lowerFirst_words
    | cons c rest =>
      rw [by_infix_lowerFirst_append (List.cons_ne_nil c rest),
        by_infix_flatMap_words fun _ member => member]
      rfl

/-- Words that stop after one letter, go on in capitals or have the wrong letter small,
and the word itself behind the query mark. -/
theorem by_not_infix_methodName_of_bafflingRoute :
    ¬"By".toList <:+: methodName "BY".toList "/b/y/BYTES/-/a-b.Y?by".toList none :=
  fun inside => absurd ((by_infix_methodName_iff "BY".toList (by decide)).mp inside) (by decide)

/-- Without a verb, the first segment can begin with the word and leave no trace of it. -/
example : methodName [] "/by/bay".toList none = "byBay".toList := by
  decide +kernel

/-- A segment that begins with `by` makes a name that a parameter could have made. -/
theorem methodName_not_always_without_by :
    ¬forall verb route : Text, '{' ∉ route -> ¬"By".toList <:+: methodName verb route none := by
  intro never
  have name : methodName "get".toList "/users/byId".toList none = "getUsersById".toList := by
    decide +kernel
  have absent := never "get".toList "/users/byId".toList (by decide)
  rw [name] at absent
  exact absent (by decide)

end MethodName
end ApiServices
