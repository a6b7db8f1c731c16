import ApiServices.Proofs.Fixture.Acceptance
import ApiServices.Proofs.Keyed.Order
import ApiServices.Proofs.Text.LineEnds

namespace ApiServices
namespace FixtureSet

/-!
# The grammar of fixture files

What a fixture file says is determined line by line.  Whatever counts as an import
has to be spelled in one of the ways of `FixtureImport.Spelling`, and has to have
a single binding unless it imports from the framework.  Reading accepts a file if
all its lines obey this, and otherwise names the first one that does not.

The lines are looked at in their trimmed forms, and those that do not count as
imports are not looked at further.  So the other lines, the indentation and the
kind of line ends can at most change the number in an error.
-/

/-- A line that counts as an import: it begins with the word, and a space, a tab
or an opening brace follows unless the line ends there. -/
def Imports (line : Text) : Prop :=
  Text.trim line = "import".toList ∨
    Exists fun next => Exists fun rest =>
      next ∈ [' ', '\t', '{'] ∧ Text.trim line = "import".toList ++ next :: rest

/-- A line that is no import, or is spelled like one and has a single binding
unless it imports from the framework. -/
def Obeys (line : Text) : Prop :=
  Imports line -> Exists fun found => FixtureImport.Spelling (Text.trim line) found ∧
    (found.path = frameworkModule ∨ (found.binding ≠ [] ∧ ',' ∉ found.binding))

/-- What a line says, if it says an entry at all. -/
inductive Tells (line : Text) : Option (Text × Text) -> Prop
  | nothing (other : ¬Imports line) : Tells line none
  | framework (found : FixtureImport) (marked : Imports line)
      (spelled : FixtureImport.Spelling (Text.trim line) found)
      (own : found.path = frameworkModule) : Tells line none
  | entry (found : FixtureImport) (marked : Imports line)
      (spelled : FixtureImport.Spelling (Text.trim line) found)
      (foreign : found.path ≠ frameworkModule)
      (single : found.binding ≠ [] ∧ ',' ∉ found.binding) :
      Tells line (some (found.binding, found.path))

/-- What is wrong with the line of the given number. -/
inductive Offends (number : Nat) (line : Text) : FixtureError -> Prop
  | unspelled (marked : Imports line)
      (unknown : forall found, ¬FixtureImport.Spelling (Text.trim line) found) :
      Offends number line (.unrecognisedImport number (Text.trim line))
  | several (found : FixtureImport) (marked : Imports line)
      (spelled : FixtureImport.Spelling (Text.trim line) found)
      (foreign : found.path ≠ frameworkModule)
      (other : ¬(found.binding ≠ [] ∧ ',' ∉ found.binding)) :
      Offends number line (.notOneService number found.binding)

/-! ## One line -/

section Line

variable {number : Nat} {line : Text}

theorem isImport_trim_iff : FixtureImport.isImport (Text.trim line) = true ↔ Imports line :=
  FixtureImport.isImport_eq_true_iff (Text.trim line)

/-- A binding is refused if it is empty or has a comma. -/
theorem refused_iff (binding : Text) :
    (binding.isEmpty || binding.contains ',') = true ↔ ¬(binding ≠ [] ∧ ',' ∉ binding) := by
  rw [Bool.or_eq_true, List.isEmpty_iff, List.contains_iff_mem, not_and_or, not_not, not_not]

theorem readLine_of_tells {said : Option (Text × Text)} (told : Tells line said) :
    readLine number line = .ok said := by
  unfold readLine
  cases told with
  | nothing other => rw [if_neg (mt isImport_trim_iff.mp other)]
  | framework found marked spelled own =>
    rw [if_pos (isImport_trim_iff.mpr marked), FixtureImport.parse?_eq_some_iff.mpr spelled]
    exact if_pos own
  | entry found marked spelled foreign single =>
    rw [if_pos (isImport_trim_iff.mpr marked), FixtureImport.parse?_eq_some_iff.mpr spelled]
    have fit : ¬(found.binding.isEmpty || found.binding.contains ',') = true :=
      fun refused => (refused_iff found.binding).mp refused single
    exact (if_neg foreign).trans (if_neg fit)

theorem readLine_of_offends {error : FixtureError} (offends : Offends number line error) :
    readLine number line = .error error := by
  unfold readLine
  cases offends with
  | unspelled marked unknown =>
    have unread : FixtureImport.parse? (Text.trim line) = none :=
      Option.eq_none_iff_forall_ne_some.mpr fun found read =>
        unknown found (FixtureImport.parse?_eq_some_iff.mp read)
    rw [if_pos (isImport_trim_iff.mpr marked), unread]
  | several found marked spelled foreign other =>
    rw [if_pos (isImport_trim_iff.mpr marked), FixtureImport.parse?_eq_some_iff.mpr spelled]
    exact (if_neg foreign).trans (if_pos ((refused_iff found.binding).mpr other))

/-- A line that does not offend says something, if only that there is nothing. -/
theorem tells_or_offends (number : Nat) (line : Text) :
    (Obeys line ∧ Exists fun said => Tells line said) ∨
      (¬Obeys line ∧ Exists fun error => Offends number line error) := by
  by_cases marked : Imports line
  · by_cases spellable : Exists fun found => FixtureImport.Spelling (Text.trim line) found
    · rcases spellable with ⟨found, spelled⟩
      by_cases own : found.path = frameworkModule
      · exact Or.inl ⟨fun _ => ⟨found, spelled, Or.inl own⟩, none,
          Tells.framework found marked spelled own⟩
      · by_cases single : found.binding ≠ [] ∧ ',' ∉ found.binding
        · exact Or.inl ⟨fun _ => ⟨found, spelled, Or.inr single⟩, _,
            Tells.entry found marked spelled own single⟩
        · refine Or.inr ⟨?_, _, Offends.several found marked spelled own single⟩
          intro obeys
          rcases obeys marked with ⟨other, otherSpelled, allowed⟩
          -- A line has one spelling at most, since reading it gives one result.
          have same : found = other := Option.some.inj
            ((FixtureImport.parse?_eq_some_iff.mpr spelled).symm.trans
              (FixtureImport.parse?_eq_some_iff.mpr otherSpelled))
          rcases allowed with framework | allowed
          · exact own (same ▸ framework)
          · exact single (same ▸ allowed)
    · refine Or.inr ⟨?_, _, Offends.unspelled marked (not_exists.mp spellable)⟩
      intro obeys
      rcases obeys marked with ⟨found, spelled, _⟩
      exact spellable ⟨found, spelled⟩
  · exact Or.inl ⟨fun claimed => absurd claimed marked, none, Tells.nothing marked⟩

theorem Offends.line_eq {error : FixtureError} (offends : Offends number line error) :
    error.line = number :=
  line_of_readLine_error (readLine_of_offends offends)

theorem obeys_iff : Obeys line ↔ Exists fun said => Tells line said := by
  rcases tells_or_offends 0 line with ⟨obeys, told⟩ | ⟨broken, error, offends⟩
  · exact iff_of_true obeys told
  · refine iff_of_false broken ?_
    rintro ⟨said, told⟩
    have both := (readLine_of_tells told).symm.trans (readLine_of_offends offends)
    cases both

end Line

/-! ## All lines -/

/-- The lines say the entries of the set: each key stands where it is said first,
and has the path that is said last. -/
def Holds (lines : List Text) (set : FixtureSet) : Prop :=
  Exists fun said => List.Forall₂ Tells lines said ∧
    set.keys = Keyed.firstKeys (said.filterMap id) ∧
      forall name, set.get? name = Keyed.lastValue? (said.filterMap id) name

/-- The error is about the first line that does not obey. -/
inductive FirstOffence (error : FixtureError) : List Text -> Prop
  | first (before : List Text) (line : Text) (later : List Text)
      (obeyed : ∀ earlier ∈ before, Obeys earlier) (broken : ¬Obeys line)
      (place : error.line = before.length + 1)
      (offends : Offends (before.length + 1) line error) :
      FirstOffence error (before ++ line :: later)

section Lines

variable {lines : List Text}

theorem readLines_of_tells {said : List (Option (Text × Text))} (set : FixtureSet) (number : Nat)
    (told : List.Forall₂ Tells lines said) :
    (readLines set number lines).outcome = .ok (set.insertAll (said.filterMap id)) := by
  induction told generalizing set number with
  | nil => rfl
  | @cons line found rest others here _ ih =>
    have read : readLine number line = .ok found := readLine_of_tells here
    cases found with
    | none =>
      rw [readLines_cons_of_silent read, ih]
      rfl
    | some entry =>
      rw [readLines_cons_of_entry read, ih]
      rfl

theorem exists_tells_of_obeyed (obeyed : ∀ line ∈ lines, Obeys line) :
    Exists fun said => List.Forall₂ Tells lines said := by
  induction lines with
  | nil => exact ⟨[], List.Forall₂.nil⟩
  | cons line rest ih =>
    rcases obeys_iff.mp (obeyed line List.mem_cons_self) with ⟨found, here⟩
    obtain ⟨others, further⟩ := ih fun later member =>
      obeyed later (List.mem_cons_of_mem line member)
    exact ⟨found :: others, List.Forall₂.cons here further⟩

theorem readLines_of_firstOffence {error : FixtureError} (first : FirstOffence error lines) :
    (readLines Keyed.empty 1 lines).outcome = .error error := by
  cases first with
  | first before line later obeyed _ _ offends =>
    rcases exists_tells_of_obeyed obeyed with ⟨said, told⟩
    rw [readLines_append, readLines_of_tells _ _ told]
    change (readLines _ (1 + before.length) (line :: later)).outcome = _
    rw [Nat.add_comm]
    exact readLines_cons_of_error (readLine_of_offends offends)

/-- Either all lines obey, or there is a first one that does not. -/
theorem obeyed_or_firstOffence (lines : List Text) :
    (∀ line ∈ lines, Obeys line) ∨ Exists fun error => FirstOffence error lines := by
  suffices parts : (∀ line ∈ lines, Obeys line) ∨
      Exists fun before => Exists fun line => Exists fun later =>
        lines = before ++ line :: later ∧ (∀ earlier ∈ before, Obeys earlier) ∧ ¬Obeys line by
    rcases parts with all | ⟨before, line, later, split, obeyed, broken⟩
    · exact Or.inl all
    · rcases tells_or_offends (before.length + 1) line with ⟨obeys, _⟩ | ⟨_, error, offends⟩
      · exact absurd obeys broken
      · exact Or.inr ⟨error, split ▸ FirstOffence.first before line later obeyed broken
          offends.line_eq offends⟩
  induction lines with
  | nil => exact Or.inl fun line member => absurd member List.not_mem_nil
  | cons line rest ih =>
    by_cases here : Obeys line
    · rcases ih with all | ⟨before, other, later, split, obeyed, broken⟩
      · exact Or.inl (List.forall_mem_cons.mpr ⟨here, all⟩)
      · exact Or.inr ⟨line :: before, other, later, congrArg (line :: ·) split,
          List.forall_mem_cons.mpr ⟨here, obeyed⟩, broken⟩
    · exact Or.inr ⟨[], line, rest, rfl, fun _ member => absurd member List.not_mem_nil, here⟩

theorem FirstOffence.not_obeyed {error : FixtureError} (first : FirstOffence error lines) :
    ¬∀ line ∈ lines, Obeys line := by
  cases first with
  | first before line later _ broken _ _ =>
    exact fun all => broken (all line (List.mem_append_right before List.mem_cons_self))

theorem holds_iff {set : FixtureSet} :
    Holds lines set ↔ Exists fun said =>
      List.Forall₂ Tells lines said ∧ set = Keyed.ofList (said.filterMap id) := by
  constructor
  · rintro ⟨said, told, keys, values⟩
    refine ⟨said, told, Keyed.eq_of_get? (keys.trans (Keyed.keys_ofList _).symm) ?_⟩
    exact fun name => (values name).trans (Keyed.get?_ofList _ name).symm
  · rintro ⟨said, told, same⟩
    rw [same]
    exact ⟨said, told, Keyed.keys_ofList _, Keyed.get?_ofList _⟩

end Lines

/-! ## What has no effect -/

/-- The trimmed forms of the lines that count as imports. -/
def importLines (lines : List Text) : List Text :=
  (lines.map Text.trim).filter FixtureImport.isImport

theorem readLine_trim (number : Nat) (line : Text) :
    readLine number (Text.trim line) = readLine number line := by
  unfold readLine
  rw [Text.trim_trim]

theorem readLines_map_trim (set : FixtureSet) (number : Nat) (lines : List Text) :
    readLines set number (lines.map Text.trim) = readLines set number lines := by
  induction lines generalizing set number with
  | nil => rfl
  | cons line rest ih =>
    rw [List.map_cons, readLines, readLines, readLine_trim]
    simp only [ih]

/-- The number of a line stands in its error and nowhere else. -/
theorem reason_readLine (number other : Nat) (line : Text) :
    (readLine number line).mapError FixtureError.reason =
      (readLine other line).mapError FixtureError.reason := by
  unfold readLine
  split
  · split
    · rfl
    · split
      · rfl
      · split <;> rfl
  · rfl

section Numbers

variable {set : FixtureSet} {number other : Nat}

/-- Lines are read alike up to numbers if the first ones are and the others are
after any entries. -/
theorem reason_readLines_cons {line otherLine : Text} {rest others : List Text}
    (alike : (readLine number line).mapError FixtureError.reason =
      (readLine other otherLine).mapError FixtureError.reason)
    (further : forall grown,
      (readLines grown (number + 1) rest).outcome.mapError FixtureError.reason =
        (readLines grown (other + 1) others).outcome.mapError FixtureError.reason) :
    (readLines set number (line :: rest)).outcome.mapError FixtureError.reason =
      (readLines set other (otherLine :: others)).outcome.mapError FixtureError.reason := by
  cases read : readLine number line with
  | error error =>
    cases otherRead : readLine other otherLine with
    | error otherError =>
      rw [read, otherRead] at alike
      rw [readLines_cons_of_error read, readLines_cons_of_error otherRead]
      exact congrArg Except.error (Except.error.inj alike)
    | ok found =>
      rw [read, otherRead] at alike
      cases alike
  | ok found =>
    cases otherRead : readLine other otherLine with
    | error otherError =>
      rw [read, otherRead] at alike
      cases alike
    | ok otherFound =>
      rw [read, otherRead] at alike
      rw [← Except.ok.inj alike] at otherRead
      cases found with
      | none => rw [readLines_cons_of_silent read, readLines_cons_of_silent otherRead, further]
      | some entry => rw [readLines_cons_of_entry read, readLines_cons_of_entry otherRead, further]

/-- Lines that are no imports can be left out, if numbers do not matter. -/
theorem reason_readLines_importLines (set : FixtureSet) (number other : Nat) (lines : List Text) :
    (readLines set number lines).outcome.mapError FixtureError.reason =
      (readLines set other (importLines lines)).outcome.mapError FixtureError.reason := by
  induction lines generalizing set number other with
  | nil => rfl
  | cons line rest ih =>
    unfold importLines at ih ⊢
    rw [List.map_cons, List.filter_cons]
    split
    · have alike := reason_readLine number other line
      rw [← readLine_trim other line] at alike
      exact reason_readLines_cons alike fun grown => ih grown (number + 1) (other + 1)
    · next unmarked =>
      have silent : readLine number line = .ok none :=
        readLine_of_tells (Tells.nothing (mt isImport_trim_iff.mpr unmarked))
      rw [readLines_cons_of_silent silent, ih]

end Numbers

/-! ## Reading by the grammar -/

section Parsing

variable {text : Text}

theorem parse_of_tells {said : List (Option (Text × Text))}
    (told : List.Forall₂ Tells (Text.lines text) said) :
    (parse text).outcome = .ok (Keyed.ofList (said.filterMap id)) :=
  readLines_of_tells Keyed.empty 1 told

theorem parse_of_firstOffence {error : FixtureError}
    (first : FirstOffence error (Text.lines text)) : (parse text).outcome = .error error :=
  readLines_of_firstOffence first

theorem parse_eq_error_iff {error : FixtureError} :
    (parse text).outcome = .error error ↔ FirstOffence error (Text.lines text) := by
  refine ⟨?_, parse_of_firstOffence⟩
  intro failed
  rcases obeyed_or_firstOffence (Text.lines text) with all | ⟨found, first⟩
  · rcases exists_tells_of_obeyed all with ⟨said, told⟩
    cases (parse_of_tells told).symm.trans failed
  · exact Except.error.inj ((parse_of_firstOffence first).symm.trans failed) ▸ first

theorem parse_eq_ok_iff {set : FixtureSet} :
    (parse text).outcome = .ok set ↔ Holds (Text.lines text) set := by
  rw [holds_iff]
  constructor
  · intro read
    rcases obeyed_or_firstOffence (Text.lines text) with all | ⟨error, first⟩
    · rcases exists_tells_of_obeyed all with ⟨said, told⟩
      exact ⟨said, told, Except.ok.inj (read.symm.trans (parse_of_tells told))⟩
    · cases read.symm.trans (parse_of_firstOffence first)
  · rintro ⟨said, told, same⟩
    rw [same, parse_of_tells told]

theorem accepted_iff :
    (Exists fun set => (parse text).outcome = .ok set) ↔ ∀ line ∈ Text.lines text, Obeys line := by
  rcases obeyed_or_firstOffence (Text.lines text) with all | ⟨error, first⟩
  · rcases exists_tells_of_obeyed all with ⟨said, told⟩
    exact iff_of_true ⟨_, parse_of_tells told⟩ all
  · refine iff_of_false ?_ first.not_obeyed
    rintro ⟨set, read⟩
    cases read.symm.trans (parse_of_firstOffence first)

theorem outcome_parse_of_map_trim {other : Text}
    (same : (Text.lines other).map Text.trim = (Text.lines text).map Text.trim) :
    (parse other).outcome = (parse text).outcome := by
  rw [parse, parse, ← readLines_map_trim, same, readLines_map_trim]

end Parsing

/-- What reading a text comes to, said by its lines. -/
structure ReadByGrammar (text : Text) : Prop where
  /-- A text is accepted if all its lines obey. -/
  accepted : (Exists fun set => (parse text).outcome = .ok set) ↔
    ∀ line ∈ Text.lines text, Obeys line
  /-- The entries are those that the lines say. -/
  entries : forall set, (parse text).outcome = .ok set ↔ Holds (Text.lines text) set
  /-- A text is refused for the first line that does not obey. -/
  refused : forall error, (parse text).outcome = .error error ↔
    FirstOffence error (Text.lines text)
  /-- A text with the same import lines is read alike, up to the number of a line. -/
  otherLines : forall other,
    importLines (Text.lines other) = importLines (Text.lines text) ->
      (parse other).outcome.mapError FixtureError.reason =
        (parse text).outcome.mapError FixtureError.reason
  /-- Indentation does not matter. -/
  indentation : forall other,
    (Text.lines other).map Text.trim = (Text.lines text).map Text.trim ->
      (parse other).outcome = (parse text).outcome
  /-- Carriage returns in front of line feeds do not matter. -/
  lineEnds : forall other, Text.Returned text other ->
    (parse other).outcome = (parse text).outcome

/-- A fixture file is read by the grammar, whatever the text is. -/
theorem readByGrammar (text : Text) : ReadByGrammar text where
  accepted := accepted_iff
  entries := fun _ => parse_eq_ok_iff
  refused := fun _ => parse_eq_error_iff
  otherLines := by
    intro other same
    rw [parse, parse, reason_readLines_importLines _ 1 1, same, ← reason_readLines_importLines]
  indentation := fun _ same => outcome_parse_of_map_trim same
  lineEnds := fun _ returned => outcome_parse_of_map_trim (Text.map_trim_lines_of_returned returned)

example : (parse "test\r\n\timport\t\x7b a,b \x7d from \"./ab'\nimport".toList).outcome =
    .error (.notOneService 2 "a,b".toList) := by
  decide +kernel

end FixtureSet
end ApiServices
