import ApiServices.Proofs.Naming.Stems

namespace ApiServices

/-!
# Service names of accented tags

Beyond ASCII a tag keeps what Unicode takes for a letter or for a number.  In the next
128 characters the letters are good for identifiers, and so are their uppercase forms,
two of which lie further out.  The numbers are not: the three raised digits and the three
fractions are no digits to the target language.  A tag with one of them keeps it, and
gives its service a name that is no identifier.  All other tags of this range are named
well.
-/

namespace Identifier

/-- Whether a character is a letter up to `U+00FF`. -/
def isLatin (c : Char) : Bool :=
  Text.inRanges [(0x41, 0x5A), (0x61, 0x7A), (0xAA, 0xAA), (0xB5, 0xB5), (0xBA, 0xBA), (0xC0, 0xD6),
    (0xD8, 0xF6), (0xF8, 0xFF)] c.toNat

/-- A letter up to `U+00FF`, or a character of the uppercase form of one. -/
def IsLatinLetter (c : Char) : Prop :=
  isLatin c = true ∨ Exists fun d => isLatin d = true ∧ c ∈ Text.upperChar d

def CanBeginLatin (c : Char) : Prop :=
  IsLatinLetter c ∨ c = '_' ∨ c = '$'

def CanFollowLatin (c : Char) : Prop :=
  CanBeginLatin c ∨ c.isDigit = true

/-- Whether a text is an identifier of letters up to `U+00FF` and their uppercase forms. -/
def IsLatinIdentifier : Text -> Prop
  | [] => False
  | c :: rest => CanBeginLatin c ∧ ∀ d ∈ rest, CanFollowLatin d

theorem toNat_lt_of_isLatin {c : Char} (letter : isLatin c = true) : c.toNat < 256 := by
  simp only [isLatin, Text.inRanges, Bool.and_eq_true, Bool.or_eq_true, decide_eq_true_eq,
    Bool.false_eq_true, or_false] at letter
  omega

/-- Of the uppercase forms only two are beyond `U+00FF`. -/
theorem isLatinLetter_iff {c : Char} : IsLatinLetter c ↔ isLatin c = true ∨ c ∈ "\u0178\u039C".toList := by
  have table : forall n : Fin 256, isLatin (Char.ofNat n) = true ->
      ∀ c ∈ Text.upperChar (Char.ofNat n), isLatin c = true ∨ c ∈ "\u0178\u039C".toList := by
    decide +kernel
  constructor
  · rintro (letter | ⟨d, letter, upper⟩)
    · exact Or.inl letter
    · exact Text.of_table (p := fun d => isLatin d = true -> ∀ c ∈ Text.upperChar d,
        isLatin c = true ∨ c ∈ "\u0178\u039C".toList) table (toNat_lt_of_isLatin letter) letter c upper
  · rintro (letter | capital)
    · exact Or.inl letter
    · rcases List.mem_cons.mp capital with same | same
      · exact Or.inr ⟨'ÿ', by decide +kernel, same ▸ by decide +kernel⟩
      · exact Or.inr ⟨'µ', by decide +kernel, List.mem_singleton.mp same ▸ by decide +kernel⟩

instance (c : Char) : Decidable (IsLatinLetter c) :=
  decidable_of_iff _ isLatinLetter_iff.symm

instance (c : Char) : Decidable (CanBeginLatin c) :=
  inferInstanceAs (Decidable (_ ∨ _))

instance (c : Char) : Decidable (CanFollowLatin c) :=
  inferInstanceAs (Decidable (_ ∨ _))

theorem canFollowLatin_of_mem {name : Text} (identifier : IsLatinIdentifier name) :
    ∀ c ∈ name, CanFollowLatin c := by
  cases name with
  | nil => exact identifier.elim
  | cons first rest => exact List.forall_mem_cons.mpr ⟨Or.inl identifier.1, identifier.2⟩

end Identifier

namespace ServiceName

open Identifier

variable {tag : Text}

/-- The numbers between ASCII and `U+00FF`: raised digits and fractions. -/
def latinNumbers : Text :=
  "²³¹¼½¾".toList

/-! ## Single characters -/

/-- Word characters of this range can follow in an identifier, apart from the numbers. -/
theorem isWordChar_iff_of_latin {c : Char} (latin : c.toNat < 256) :
    isWordChar c = true ↔ CanFollowLatin c ∨ c ∈ latinNumbers := by
  have table : forall n : Fin 256, isWordChar (Char.ofNat n) = true ↔
      CanFollowLatin (Char.ofNat n) ∨ Char.ofNat n ∈ latinNumbers := by
    decide +kernel
  exact Text.of_table
    (p := fun c => isWordChar c = true ↔ CanFollowLatin c ∨ c ∈ latinNumbers) table latin

theorem not_canFollowLatin_of_number {c : Char} (number : c ∈ latinNumbers) :
    ¬CanFollowLatin c ∧ Text.upperChar c = [c] := by
  have table : ∀ c ∈ latinNumbers, ¬CanFollowLatin c ∧ Text.upperChar c = [c] := by
    decide +kernel
  exact table c number

/-- What can follow in an identifier still can with an uppercase first letter. -/
theorem canFollowLatin_of_mem_upperFirst {word : Text} (latin : ∀ c ∈ word, c.toNat < 256)
    (follow : ∀ c ∈ word, CanFollowLatin c) : ∀ c ∈ Text.upperFirst word, CanFollowLatin c := by
  have table : forall n : Fin 256, CanFollowLatin (Char.ofNat n) ->
      ∀ c ∈ Text.upperChar (Char.ofNat n), CanFollowLatin c := by
    decide +kernel
  cases word with
  | nil => exact follow
  | cons c rest =>
    obtain ⟨first, later⟩ := List.forall_mem_cons.mp follow
    refine List.forall_mem_append.mpr ⟨?_, later⟩
    exact Text.of_table (p := fun c => CanFollowLatin c -> ∀ d ∈ Text.upperChar c, CanFollowLatin d)
      table (latin c List.mem_cons_self) first

/-! ## Names -/

section Latin

variable (latin : ∀ c ∈ tag, c.toNat < 256)

include latin

theorem latin_of_mem_words {word : Text} (member : word ∈ words tag) : ∀ c ∈ word, c.toNat < 256 :=
  fun c inside => latin c (Text.mem_of_mem_splitWhere _ (List.mem_filter.mp member).1 inside)

/-- Without numbers in the tag, words run together can follow in an identifier. -/
theorem canFollowLatin_of_mem_joined (plain : ∀ c ∈ tag, c ∉ latinNumbers) :
    ∀ c ∈ joined (words tag), CanFollowLatin c := by
  refine forall_mem_joined
    (fun word member => canFollowLatin_of_mem_upperFirst (latin_of_mem_words latin member)) ?_
  intro word member c inside
  have piece := (List.mem_filter.mp member).1
  have kept := Text.not_of_mem_splitWhere _ piece inside
  have wordChar : isWordChar c = true := by simpa using kept
  have among := Text.mem_of_mem_splitWhere _ piece inside
  exact ((isWordChar_iff_of_latin (latin c among)).mp wordChar).resolve_right (plain c among)

/-- A number of the tag stays in the name. -/
theorem mem_serviceName_of_number {c : Char} (member : c ∈ tag) (number : c ∈ latinNumbers) :
    c ∈ serviceName tag := by
  have wordChar := (isWordChar_iff_of_latin (latin c member)).mpr (Or.inr number)
  have kept : c ∈ (words tag).flatten := by
    rw [words, Text.flatten_runsBetween, List.mem_filter]
    exact ⟨member, by simpa using wordChar⟩
  exact List.mem_append_left _
    (mem_guarded (mem_joined (not_canFollowLatin_of_number number).2 kept))

end Latin

/-- Guarded characters that can follow in an identifier are one, also with more of them
behind. -/
theorem isLatinIdentifier_guarded_append {text rest : Text} (follow : ∀ c ∈ text, CanFollowLatin c)
    (later : ∀ c ∈ rest, CanFollowLatin c) : IsLatinIdentifier (guarded text ++ rest) := by
  cases text with
  | nil =>
    have fallback : CanBeginLatin 'D' ∧ ∀ c ∈ "efault".toList, CanFollowLatin c := by decide +kernel
    exact ⟨fallback.1, List.forall_mem_append.mpr ⟨fallback.2, later⟩⟩
  | cons c others =>
    obtain ⟨first, _⟩ := List.forall_mem_cons.mp follow
    have whole := List.forall_mem_append.mpr ⟨follow, later⟩
    by_cases numeric : Text.isNumeric c = true
    · rw [guarded_of_numeric numeric]
      exact ⟨Or.inr (Or.inl rfl), whole⟩
    · have begins : CanBeginLatin c := by
        refine first.resolve_right fun digit => numeric ?_
        have small := toNat_lt_of_canFollow (c := c) (by simp [canFollow, Char.isAlphanum, digit])
        rw [isNumeric_of_small small, digit]
      rw [guarded_of_not_numeric (Bool.eq_false_iff.mpr numeric)]
      exact ⟨begins, (List.forall_mem_cons.mp whole).2⟩

/-- The service name of a tag of characters up to `U+00FF` is an identifier just where
the tag has no number but the ordinary digits. -/
theorem isLatinIdentifier_serviceName_iff (latin : ∀ c ∈ tag, c.toNat < 256) :
    IsLatinIdentifier (serviceName tag) ↔ ∀ c ∈ tag, c ∉ latinNumbers := by
  constructor
  · intro identifier c member number
    exact (not_canFollowLatin_of_number number).1
      (canFollowLatin_of_mem identifier c (mem_serviceName_of_number latin member number))
  · intro plain
    exact isLatinIdentifier_guarded_append (canFollowLatin_of_mem_joined latin plain) (by decide +kernel)

/-- Letters with accents, one with an uppercase form of two characters and one with an
uppercase form in another script, and signs of all kinds. -/
theorem isLatinIdentifier_serviceName_of_accented :
    (∀ c ∈ "1ÿ ßé×ÿ~µº".toList, c.toNat < 256) ∧
      IsLatinIdentifier (serviceName "1ÿ ßé×ÿ~µº".toList) := by
  have latin : ∀ c ∈ "1ÿ ßé×ÿ~µº".toList, c.toNat < 256 := by decide
  exact ⟨latin, (isLatinIdentifier_serviceName_iff latin).mpr (by decide)⟩

example : serviceName "1ÿ ßé×ÿ~µº".toList = "_1ÿSSé\u0178\u039CºService".toList := by
  decide +kernel

/-- A raised digit is kept and is no part of an identifier. -/
theorem serviceName_not_always_latin_identifier :
    ¬forall tag : Text, (∀ c ∈ tag, c.toNat < 256) -> IsLatinIdentifier (serviceName tag) := by
  intro always
  have name : serviceName "m²".toList = "m²Service".toList := by decide +kernel
  have identifier := always "m²".toList (by decide)
  rw [name] at identifier
  exact absurd (canFollowLatin_of_mem identifier '²' (by decide)) (by decide +kernel)

end ServiceName
end ApiServices
