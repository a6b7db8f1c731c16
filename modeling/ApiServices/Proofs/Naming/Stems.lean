import ApiServices.Proofs.Naming.Identifiers
import ApiServices.Proofs.Text.Runs

namespace ApiServices

/-!
# Services are named by a normal form

A tag becomes the stem of a service name in a few steps: it is cut into words, the words
are run together, and an empty result or a leading digit is taken care of.  For tags of
ASCII characters the outcome is a normal form.  It is an identifier, an identifier is its
own stem, and all tags with the same words have the same stem.  What the steps keep of a
tag are its word characters, in their order and up to the case of letters.
-/

namespace Text

/-! ## The case of letters -/

/-- An uppercase first letter is the same letter. -/
theorem map_toLower_upperFirst {word : Text} (ascii : ∀ c ∈ word, c.toNat < 128) :
    (upperFirst word).map Char.toLower = word.map Char.toLower := by
  have table : forall n : Fin 128,
      (Char.ofNat n).toUpper.toLower = (Char.ofNat n).toLower := by
    decide
  cases word with
  | nil => rfl
  | cons c rest =>
    have small := ascii c List.mem_cons_self
    have upper := of_table (p := fun c => upperChar c = [c.toUpper]) upperChar_of_ascii small
    have same := of_table (p := fun c => c.toUpper.toLower = c.toLower) table small
    rw [upperFirst, upper, List.singleton_append, List.map_cons, List.map_cons, same]

end Text

namespace ServiceName

open Identifier

variable {tag : Text}

/-! ## Words run together -/

/-- What holds of all characters of words, and of their uppercase forms, holds of all
characters of the words run together. -/
theorem forall_mem_joined {p : Char -> Prop} {pieces : List Text}
    (upper : ∀ word ∈ pieces, (∀ c ∈ word, p c) -> ∀ c ∈ Text.upperFirst word, p c)
    (inside : ∀ word ∈ pieces, ∀ c ∈ word, p c) : ∀ c ∈ joined pieces, p c := by
  cases pieces with
  | nil => exact fun _ impossible => nomatch impossible
  | cons first others =>
    obtain ⟨start, later⟩ := List.forall_mem_cons.mp inside
    refine List.forall_mem_append.mpr ⟨start, fun c member => ?_⟩
    obtain ⟨word, among, member⟩ := List.mem_flatMap.mp member
    exact upper word (List.mem_cons_of_mem first among) (later word among) c member

/-- A character without an uppercase form stays in the words. -/
theorem mem_joined {pieces : List Text} {c : Char} (caseless : Text.upperChar c = [c])
    (member : c ∈ pieces.flatten) : c ∈ joined pieces := by
  cases pieces with
  | nil => exact member
  | cons first others =>
    rcases List.mem_append.mp member with start | later
    · exact List.mem_append_left _ start
    · obtain ⟨word, among, inside⟩ := List.mem_flatten.mp later
      exact List.mem_append_right _
        (List.mem_flatMap.mpr ⟨word, among, mem_upperFirst caseless inside⟩)

theorem map_toLower_joined {pieces : List Text} (ascii : ∀ word ∈ pieces, ∀ c ∈ word, c.toNat < 128) :
    (joined pieces).map Char.toLower = pieces.flatten.map Char.toLower := by
  have others : forall rest : List Text, (∀ word ∈ rest, ∀ c ∈ word, c.toNat < 128) ->
      (rest.flatMap Text.upperFirst).map Char.toLower = rest.flatten.map Char.toLower := by
    intro rest small
    induction rest with
    | nil => rfl
    | cons word more ih =>
      obtain ⟨first, later⟩ := List.forall_mem_cons.mp small
      rw [List.flatMap_cons, List.flatten_cons, List.map_append, List.map_append, ih later,
        Text.map_toLower_upperFirst first]
  cases pieces with
  | nil => rfl
  | cons first rest =>
    rw [joined, List.flatten_cons, List.map_append, List.map_append,
      others rest (List.forall_mem_cons.mp ascii).2]

theorem isNumeric_of_small {c : Char} (small : c.toNat < 128) : Text.isNumeric c = c.isDigit :=
  Text.of_table (p := fun c => Text.isNumeric c = c.isDigit) Text.isNumeric_of_ascii small

theorem isDigit_of_canBegin {c : Char} (begins : canBegin c = true) : c.isDigit = false := by
  have table : forall n : Fin 128,
      canBegin (Char.ofNat n) = true -> (Char.ofNat n).isDigit = false := by
    decide
  have small := toNat_lt_of_canFollow (canFollow_of_canBegin begins)
  exact Text.of_table (p := fun c => canBegin c = true -> c.isDigit = false) table small begins

/-! ## Guarded names -/

theorem guarded_of_not_numeric {c : Char} {rest : Text} (plain : Text.isNumeric c = false) :
    guarded (c :: rest) = c :: rest := by
  rw [guarded, plain]
  rfl

theorem guarded_of_numeric {c : Char} {rest : Text} (digit : Text.isNumeric c = true) :
    guarded (c :: rest) = '_' :: c :: rest :=
  if_pos digit

theorem mem_guarded {text : Text} {c : Char} (member : c ∈ text) : c ∈ guarded text := by
  cases text with
  | nil => cases member
  | cons first rest =>
    rw [guarded]
    split
    · exact List.mem_cons_of_mem _ member
    · exact member

/-! ## Tags of ASCII characters -/

theorem isWordChar_of_ascii {c : Char} (small : c.toNat < 128) : isWordChar c = canFollow c := by
  have table : forall n : Fin 128, isWordChar (Char.ofNat n) = canFollow (Char.ofNat n) := by
    decide +kernel
  exact Text.of_table (p := fun c => isWordChar c = canFollow c) table small

section Ascii

variable (ascii : ∀ c ∈ tag, c.toNat < 128)

include ascii

/-- The words of a tag are its runs of what can follow in an identifier. -/
theorem words_eq : words tag = Text.runsBetween (!canFollow ·) tag :=
  Text.runsBetween_congr fun c member => by rw [isWordChar_of_ascii (ascii c member)]

theorem canFollow_of_mem_words {word : Text} (member : word ∈ words tag) :
    ∀ c ∈ word, canFollow c = true := by
  intro c inside
  rw [words_eq ascii] at member
  have kept := Text.not_of_mem_splitWhere _ (List.mem_filter.mp member).1 inside
  simpa using kept

theorem canFollow_of_mem_joined : ∀ c ∈ joined (words tag), canFollow c = true :=
  forall_mem_joined (fun _ _ => canFollow_of_mem_upperFirst) fun _ =>
    canFollow_of_mem_words ascii

/-- Up to the case of letters, the words run together are the tag without all else. -/
theorem map_toLower_joined_words :
    (joined (words tag)).map Char.toLower = (tag.filter canFollow).map Char.toLower := by
  have small : ∀ word ∈ words tag, ∀ c ∈ word, c.toNat < 128 := fun word member c inside =>
    toNat_lt_of_canFollow (canFollow_of_mem_words ascii member c inside)
  rw [map_toLower_joined small, words_eq ascii, Text.flatten_runsBetween]
  simp

end Ascii

/-! ## Stems -/

/-- Guarded word characters are an identifier. -/
theorem isIdentifier_guarded {text : Text} (follow : ∀ c ∈ text, canFollow c = true) :
    isIdentifier (guarded text) = true := by
  cases text with
  | nil => decide
  | cons c rest =>
    have start := follow c List.mem_cons_self
    by_cases digit : Text.isNumeric c = true
    · rw [guarded_of_numeric digit, isIdentifier, List.all_eq_true.mpr follow]
      decide
    · have plain : c.isDigit = false := by
        rw [← isNumeric_of_small (toNat_lt_of_canFollow start)]
        exact Bool.eq_false_iff.mpr digit
      have begins : canBegin c = true := by
        simpa [canBegin, canFollow, Char.isAlphanum, plain] using start
      rw [guarded_of_not_numeric (Bool.eq_false_iff.mpr digit), isIdentifier, begins, Bool.true_and]
      exact List.all_eq_true.mpr (List.forall_mem_cons.mp follow).2

theorem isIdentifier_stem (ascii : ∀ c ∈ tag, c.toNat < 128) : isIdentifier (stem tag) = true :=
  isIdentifier_guarded (canFollow_of_mem_joined ascii)

/-- An identifier is one word, with nothing to guard it from. -/
theorem stem_of_isIdentifier (identifier : isIdentifier tag = true) : stem tag = tag := by
  have follow := canFollow_of_mem identifier
  have ascii : ∀ c ∈ tag, c.toNat < 128 := fun c member => toNat_lt_of_canFollow (follow c member)
  cases tag with
  | nil => cases identifier
  | cons c rest =>
    have whole : ∀ d ∈ c :: rest, (!canFollow d) = false := fun d member => by
      rw [follow d member]
      rfl
    have begins : canBegin c = true := (Bool.and_eq_true_iff.mp identifier).1
    have plain : Text.isNumeric c = false := by
      rw [isNumeric_of_small (ascii c List.mem_cons_self)]
      exact isDigit_of_canBegin begins
    rw [stem, words_eq ascii, Text.runsBetween_of_forall_not _ _ (List.cons_ne_nil c rest) whole,
      joined, List.flatMap_nil, List.append_nil, guarded_of_not_numeric plain]

/-- Up to the case of letters, what is guarded is guarded in the same way. -/
theorem map_toLower_guarded {text rest : Text} {c : Char} (small : ∀ d ∈ text, d.toNat < 128)
    (alsoSmall : c.toNat < 128) (same : text.map Char.toLower = (c :: rest).map Char.toLower) :
    (guarded text).map Char.toLower =
      (if c.isDigit then '_' :: c :: rest else c :: rest).map Char.toLower := by
  have table : forall n : Fin 128, (Char.ofNat n).toLower.isDigit = (Char.ofNat n).isDigit := by
    decide
  have caseless {d : Char} (small : d.toNat < 128) : d.toLower.isDigit = d.isDigit :=
    Text.of_table (p := fun d => d.toLower.isDigit = d.isDigit) table small
  cases text with
  | nil => cases same
  | cons d others =>
    have first := small d List.mem_cons_self
    have digits : Text.isNumeric d = c.isDigit := by
      rw [isNumeric_of_small first, ← caseless first, (List.cons.inj same).1, caseless alsoSmall]
    rw [guarded, digits]
    split
    · exact congrArg ('_' :: ·) same
    · exact same

/-- The service name of a tag of ASCII characters is a stem and `Service`, where the
stem is a normal form of the tag: it is its own stem, it is the tag if and only if the
tag is an identifier, it depends on the words of the tag only, and up to the case of
letters it is the tag without the characters that cannot be in an identifier, with a
guard against a leading digit and against nothing at all. -/
theorem serviceName_is_normal_form (ascii : ∀ c ∈ tag, c.toNat < 128) :
    Exists fun stem => serviceName tag = stem ++ "Service".toList ∧
      serviceName stem = serviceName tag ∧
      (stem = tag ↔ isIdentifier tag = true) ∧
      (forall (other : Text) (runs : List Text), (∀ c ∈ other, c.toNat < 128) ->
        Text.Runs canFollow tag runs -> Text.Runs canFollow other runs ->
          serviceName other = serviceName tag) ∧
      (tag.filter canFollow = [] -> stem = "Default".toList) ∧
      forall c rest, tag.filter canFollow = c :: rest -> stem.map Char.toLower =
        (if c.isDigit then '_' :: c :: rest else c :: rest).map Char.toLower := by
  have identifier := isIdentifier_stem ascii
  have kept := map_toLower_joined_words ascii
  refine ⟨stem tag, rfl, ?_, ⟨?_, stem_of_isIdentifier⟩, ?_, ?_, ?_⟩
  · rw [serviceName, stem_of_isIdentifier identifier]
    rfl
  · exact fun same => same ▸ identifier
  · intro other runs alsoAscii given alsoGiven
    have same : words other = words tag := by
      rw [words_eq ascii, words_eq alsoAscii, Text.runsBetween_of_runs given,
        Text.runsBetween_of_runs alsoGiven]
    rw [serviceName, serviceName, stem, stem, same]
  · intro none
    rw [none, List.map_nil, List.map_eq_nil_iff] at kept
    rw [stem, kept]
    rfl
  · intro c rest shape
    have member : c ∈ tag.filter canFollow := shape ▸ List.mem_cons_self
    rw [shape] at kept
    exact map_toLower_guarded
      (fun d inside => toNat_lt_of_canFollow (canFollow_of_mem_joined ascii d inside))
      (ascii c (List.mem_filter.mp member).1) kept

/-- Two tags with a leading digit, a word in small letters and one that has no letter
first. -/
theorem serviceName_of_separatedWords :
    (∀ c ∈ "/2 fa.$b-".toList, c.toNat < 128) ∧
      Text.Runs canFollow "/2 fa.$b-".toList ["2".toList, "fa".toList, "$b".toList] ∧
        serviceName "2--fa,,$b".toList = serviceName "/2 fa.$b-".toList := by
  have ascii : ∀ c ∈ "/2 fa.$b-".toList, c.toNat < 128 := by decide
  have runs : Text.Runs canFollow "/2 fa.$b-".toList ["2".toList, "fa".toList, "$b".toList] := by
    decide
  obtain ⟨_, _, _, _, sameRuns, _⟩ := serviceName_is_normal_form ascii
  exact ⟨ascii, runs, sameRuns "2--fa,,$b".toList _ (by decide) runs (by decide)⟩

end ServiceName
end ApiServices
