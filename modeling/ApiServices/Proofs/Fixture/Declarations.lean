import ApiServices.Proofs.Fixture.Acceptance
import ApiServices.Proofs.Fixture.FileLines

namespace ApiServices
namespace FixtureSet

/-!
# What becomes of import declarations

A fixture file is rewritten from the entries that were read, so an import that
reading passes over is lost.  An import declaration is the word `import`, with
white space, a brace, a star or a quote after it.  Where a space, a tab or a
brace follows the word, the declaration is accounted for: the file is refused,
or the declaration is the one of the framework, or its binding is among the
entries.

Any other declaration is passed over as if its line were empty.  This concerns
imports of everything a module has and imports without bindings, but also a
named import whose first gap begins with another kind of white space, which the
reader of a single line would accept.
-/

/-- A line that declares an import, by the character that follows the word. -/
structure Declares (line : Text) (next : Char) : Prop where
  word : Exists fun rest => Text.trim line = "import".toList ++ next :: rest
  mark : Text.isBlank next = true ∨ next ∈ ['{', '*', '\'', '"']

/-- What can become of a declaration that is not lost.  The line is given with
its number in the text. -/
inductive Accounted (text : Text) (number : Nat) (line : Text) : Prop
  /-- The file is refused, for this line or an earlier one. -/
  | refused (error : FixtureError) (failed : (parse text).outcome = .error error)
      (inTime : error.line ≤ number)
  /-- The line imports from the framework. -/
  | framework (found : FixtureImport) (spelled : FixtureImport.Spelling (Text.trim line) found)
      (own : found.path = frameworkModule)
  /-- The line has a single binding, which is read as the key of an entry. -/
  | kept (found : FixtureImport) (spelled : FixtureImport.Spelling (Text.trim line) found)
      (single : found.binding ≠ [] ∧ ',' ∉ found.binding)
      (key : forall set, (parse text).outcome = .ok set -> found.binding ∈ set.keys)

section Declarations

variable {number : Nat} {line : Text} {next : Char}

/-- A declaration is recognized by a space, a tab or a brace after the word. -/
theorem isImport_iff_of_declares (declares : Declares line next) :
    FixtureImport.isImport (Text.trim line) = true ↔ next ∈ [' ', '\t', '{'] := by
  rcases declares.word with ⟨rest, shape⟩
  rw [shape, FixtureImport.isImport_eq_true_iff]
  constructor
  · rintro (alone | ⟨other, tail, allowed, same⟩)
    · have short := List.append_right_eq_self.mp alone
      cases short
    · rw [(List.cons.inj (List.append_cancel_left same)).1]
      exact allowed
  · intro allowed
    exact Or.inr ⟨next, rest, allowed, rfl⟩

/-- What a recognized import line says, if it is not refused. -/
theorem readLine_eq_ok {said : Option (Text × Text)}
    (recognized : FixtureImport.isImport (Text.trim line) = true)
    (read : readLine number line = .ok said) :
    Exists fun found => FixtureImport.Spelling (Text.trim line) found ∧
      ((found.path = frameworkModule ∧ said = none) ∨
        ((found.binding ≠ [] ∧ ',' ∉ found.binding) ∧ said = some (found.binding, found.path))) := by
  rw [readLine, recognized, if_pos rfl] at read
  split at read
  · cases read
  · next found parsed =>
    refine ⟨found, FixtureImport.parse?_eq_some_iff.mp parsed, ?_⟩
    split at read
    · next own => exact Or.inl ⟨own, (Except.ok.inj read).symm⟩
    · split at read
      · cases read
      · next fit =>
        rw [Bool.or_eq_true, not_or] at fit
        exact Or.inr ⟨⟨by simpa using fit.1, by simpa using fit.2⟩, (Except.ok.inj read).symm⟩

theorem accounted_of_isImport {text : Text} {before later : List Text}
    (split : Text.lines text = before ++ line :: later)
    (recognized : FixtureImport.isImport (Text.trim line) = true) :
    Accounted text (before.length + 1) line := by
  have reading := readLines_append Keyed.empty 1 before (line :: later)
  rw [← split, Nat.add_comm 1 before.length] at reading
  change (parse text).outcome = _ at reading
  cases earlier : (readLines Keyed.empty 1 before).outcome with
  | error error =>
    rw [earlier] at reading
    have inside := line_lt_of_readLines_error earlier
    exact Accounted.refused error reading (by omega)
  | ok grown =>
    rw [earlier] at reading
    change (parse text).outcome =
      (readLines grown (before.length + 1) (line :: later)).outcome at reading
    cases said : readLine (before.length + 1) line with
    | error error =>
      rw [readLines_cons_of_error said] at reading
      exact Accounted.refused error reading (Nat.le_of_eq (line_of_readLine_error said))
    | ok found =>
      rcases readLine_eq_ok recognized said with
        ⟨found, spelled, ⟨own, _⟩ | ⟨single, entry⟩⟩
      · exact Accounted.framework found spelled own
      · rw [entry] at said
        rw [readLines_cons_of_entry said] at reading
        refine Accounted.kept found spelled single ?_
        intro set parsed
        exact mem_keys_of_readLines (Keyed.mem_keys_insert (Or.inl rfl)) (reading.symm.trans parsed)

/-- A line that is not recognized might as well be empty. -/
theorem outcome_readLines_of_unrecognized {before later : List Text}
    (other : FixtureImport.isImport (Text.trim line) = false) :
    (readLines Keyed.empty 1 (before ++ line :: later)).outcome =
      (readLines Keyed.empty 1 (before ++ [] :: later)).outcome := by
  have empty : FixtureImport.isImport (Text.trim []) = false := by decide
  rw [readLines_append, readLines_append]
  cases (readLines Keyed.empty 1 before).outcome with
  | error error => rfl
  | ok grown =>
    change (readLines grown _ (line :: later)).outcome = (readLines grown _ ([] :: later)).outcome
    rw [readLines_cons_of_silent (readLine_of_isImport_eq_false other),
      readLines_cons_of_silent (readLine_of_isImport_eq_false empty)]

end Declarations

/-- A declaration with a space, a tab or a brace after the word is accounted
for, whatever else the file holds.  The others are passed over as if their lines
were empty. -/
theorem accounted_of_declares {text line : Text} {before later : List Text} {next : Char}
    (split : Text.lines text = before ++ line :: later) (declares : Declares line next) :
    (next ∈ [' ', '\t', '{'] -> Accounted text (before.length + 1) line) ∧
      (next ∉ [' ', '\t', '{'] -> (parse text).outcome =
        (readLines Keyed.empty 1 (before ++ [] :: later)).outcome) := by
  constructor
  · intro allowed
    exact accounted_of_isImport split ((isImport_iff_of_declares declares).mpr allowed)
  · intro other
    have unrecognized : FixtureImport.isImport (Text.trim line) = false :=
      Bool.eq_false_iff.mpr fun recognized =>
        other ((isImport_iff_of_declares declares).mp recognized)
    rw [parse, split]
    exact outcome_readLines_of_unrecognized unrecognized

theorem accounted_of_indented_import :
    Accounted "// mine\n\timport\t\x7ba\x7d from \"./a\"\r\nimport b from './b';".toList 2
      "\timport\t\x7ba\x7d from \"./a\"".toList := by
  have split : Text.lines "// mine\n\timport\t\x7ba\x7d from \"./a\"\r\nimport b from './b';".toList =
      ["// mine".toList] ++ "\timport\t\x7ba\x7d from \"./a\"".toList ::
        ["import b from './b';".toList] := by
    decide
  have declares : Declares "\timport\t\x7ba\x7d from \"./a\"".toList '\t' :=
    ⟨⟨"\x7ba\x7d from \"./a\"".toList, by decide⟩, by decide⟩
  exact (accounted_of_declares split declares).1 (by decide)

/-- An import of everything a module has can be lost. -/
theorem star_import_not_accounted :
    ¬forall text line before later next, Text.lines text = before ++ line :: later ->
      Declares line next -> Accounted text (before.length + 1) line := by
  intro all
  have declares : Declares "import* as users from './users';".toList '*' :=
    ⟨⟨" as users from './users';".toList, by decide⟩, by decide⟩
  have read : (parse "import* as users from './users';".toList).outcome = .ok Keyed.empty := by
    decide +kernel
  have unspelled : FixtureImport.parse? (Text.trim "import* as users from './users';".toList) =
      none := by
    decide +kernel
  have alone : Text.lines "import* as users from './users';".toList =
      [] ++ "import* as users from './users';".toList :: [] := by
    decide
  cases all _ _ [] [] '*' alone declares with
  | refused error failed _ =>
    rw [read] at failed
    cases failed
  | framework found spelled _ =>
    rw [FixtureImport.parse?_eq_some_iff.mpr spelled] at unspelled
    cases unspelled
  | kept found spelled _ _ =>
    rw [FixtureImport.parse?_eq_some_iff.mpr spelled] at unspelled
    cases unspelled

end FixtureSet
end ApiServices
