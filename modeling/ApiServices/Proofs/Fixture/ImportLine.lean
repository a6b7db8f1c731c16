import ApiServices.Proofs.Fixture.Spelling
import ApiServices.Proofs.Text.CaseMapping

namespace ApiServices

/-!
# Which lines of the fixture file read as imports

An import line of the file is read back as the entry that it was written for.
Every other line has to be passed over, and two kinds of lines can fail to
be: the type line and the definition line of an entry begin with the name of
its fixture, and a name may be spelled like an import.  `mistakable` says
exactly when that happens.
-/

/-- A service name that an import of the fixture file can carry.  These are
the bindings that reading accepts. -/
structure CarriedName (name : Text) : Prop where
  nonempty : name ≠ []
  trimmed : Text.trim name = name
  unbraced : '}' ∉ name
  single : ',' ∉ name
  oneLine : '\n' ∉ name

/-- An import path that the fixture file can carry. -/
structure CarriedPath (path : Text) : Prop where
  nonempty : path ≠ []
  unquoted : ∀ c ∈ path, FixtureImport.isQuote c = false
  oneLine : '\n' ∉ path
  ownModule : path ≠ frameworkModule

/-- An entry that the import block of the fixture file can carry. -/
structure CarriedEntry (entry : Text × Text) : Prop where
  name : CarriedName entry.1
  path : CarriedPath entry.2

/-- An entry whose lines stay lines.  Its path may have quotes, so the import
block need not carry it. -/
structure LinedEntry (entry : Text × Text) : Prop where
  name : CarriedName entry.1
  path : '\n' ∉ entry.2

theorem CarriedEntry.lined {entry : Text × Text} (carried : CarriedEntry entry) :
    LinedEntry entry :=
  ⟨carried.name, carried.path.oneLine⟩

/-- Whether the field of a service can be taken for an import: the name begins
with the word `import`, in either case of its first letter, and a space, a tab
or an opening brace. -/
def mistakable (name : Text) : Bool :=
  ["import".toList, "Import".toList].any fun word =>
    [' ', '\t', '{'].any fun next => (word ++ [next]).isPrefixOf name

instance (name : Text) : Decidable (CarriedName name) :=
  decidable_of_iff
    (name ≠ [] ∧ Text.trim name = name ∧ '}' ∉ name ∧ ',' ∉ name ∧ '\n' ∉ name)
    ⟨fun ⟨nonempty, trimmed, unbraced, single, oneLine⟩ =>
        ⟨nonempty, trimmed, unbraced, single, oneLine⟩,
      fun carried => ⟨carried.nonempty, carried.trimmed, carried.unbraced, carried.single,
        carried.oneLine⟩⟩

theorem unquoted_iff {path : Text} :
    path.all (!FixtureImport.isQuote ·) = true ↔ ∀ c ∈ path, FixtureImport.isQuote c = false := by
  simp

/-- A path is gone through once, so quotes are looked for in the path and not
among all characters. -/
instance (path : Text) : Decidable (CarriedPath path) :=
  decidable_of_iff
    (path ≠ [] ∧ path.all (!FixtureImport.isQuote ·) = true ∧ '\n' ∉ path ∧
      path ≠ frameworkModule)
    ⟨fun ⟨nonempty, unquoted, oneLine, ownModule⟩ =>
        ⟨nonempty, unquoted_iff.mp unquoted, oneLine, ownModule⟩,
      fun carried => ⟨carried.nonempty, unquoted_iff.mpr carried.unquoted, carried.oneLine,
        carried.ownModule⟩⟩

instance (entry : Text × Text) : Decidable (CarriedEntry entry) :=
  decidable_of_iff (CarriedName entry.1 ∧ CarriedPath entry.2)
    ⟨fun ⟨name, path⟩ => ⟨name, path⟩, fun carried => ⟨carried.name, carried.path⟩⟩

namespace CarriedName

variable {name : Text}

theorem head_plain (carried : CarriedName name) :
    forall c, name.head? = some c -> Text.isBlank c = false :=
  fun _ first => Text.head_of_trim (carried.trimmed ▸ first)

/-- The blanks that the printer puts around a binding are trimmed away. -/
theorem trim_padded (carried : CarriedName name) :
    Text.trim (' ' :: name ++ [' ']) = name := by
  rw [Text.trim_append_of_blank _ (by decide), Text.trim_cons_of_blank _ (by decide)]
  exact carried.trimmed

end CarriedName

namespace FixtureImport

/-! ## Recognizing imports -/

/-- An import begins with the word, and a space, a tab or an opening brace
follows unless the line ends there. -/
theorem isImport_eq_true_iff (line : Text) :
    isImport line = true ↔
      line = "import".toList ∨
      Exists fun next => Exists fun rest =>
        next ∈ [' ', '\t', '{'] ∧ line = "import".toList ++ next :: rest := by
  unfold isImport
  constructor
  · intro accepted
    split at accepted
    · cases accepted
    · next found =>
      left
      rw [Text.isPrefixOf?_eq_some_iff.mp found, List.append_nil]
    · next next rest found =>
      right
      refine ⟨next, rest, ?_, Text.isPrefixOf?_eq_some_iff.mp found⟩
      simpa [or_assoc] using accepted
  · rintro (shape | ⟨next, rest, allowed, shape⟩)
    · rw [shape, Text.isPrefixOf?_eq_some_iff.mpr (List.append_nil _).symm]
    · rw [shape, Text.isPrefixOf?_append]
      simpa [or_assoc] using allowed

theorem isImport_of_head_ne {c : Char} {rest : Text} (other : c ≠ 'i') :
    isImport (c :: rest) = false := by
  apply Bool.eq_false_iff.mpr
  intro accepted
  rcases (isImport_eq_true_iff _).mp accepted with shape | ⟨next, tail, _, shape⟩
  · exact other (List.cons.inj shape).1
  · exact other (List.cons.inj shape).1

end FixtureImport

/-! ## Names that look like imports -/

theorem mistakable_eq_true_iff (name : Text) :
    mistakable name = true ↔
      Exists fun first => Exists fun next => Exists fun rest =>
        (first = 'i' ∨ first = 'I') ∧ next ∈ [' ', '\t', '{'] ∧
          name = first :: ("mport".toList ++ next :: rest) := by
  unfold mistakable
  simp only [List.any_eq_true, List.isPrefixOf_iff_prefix]
  constructor
  · rintro ⟨word, either, next, allowed, rest, shape⟩
    rw [List.append_assoc, List.singleton_append] at shape
    rcases List.mem_cons.mp either with small | capital
    · exact ⟨'i', next, rest, Or.inl rfl, allowed, by rw [← shape, small]; rfl⟩
    · rw [List.mem_singleton] at capital
      exact ⟨'I', next, rest, Or.inr rfl, allowed, by rw [← shape, capital]; rfl⟩
  · rintro ⟨first, next, rest, either, allowed, shape⟩
    refine ⟨first :: "mport".toList, ?_, next, allowed, rest, ?_⟩
    · rcases either with small | capital
      · rw [small]
        exact List.mem_cons_self
      · rw [capital]
        exact List.mem_cons_of_mem _ List.mem_cons_self
    · rw [shape, List.append_assoc]
      rfl

/-- When a line begins with the fixture of a service and a colon, whether it
reads as an import is decided by the name of the service.  The colon cannot
be part of the word, so the word has to end inside the name. -/
theorem isImport_field_colon (name rest : Text) :
    FixtureImport.isImport (fixtureField name ++ ':' :: rest) = mistakable name := by
  apply Bool.eq_iff_iff.mpr
  rw [FixtureImport.isImport_eq_true_iff, mistakable_eq_true_iff]
  constructor
  · intro shapes
    have opening : Exists fun tail =>
        fixtureField name ++ ':' :: rest = "import".toList ++ tail ∧
          forall next, tail.head? = some next -> next ∈ [' ', '\t', '{'] := by
      rcases shapes with whole | ⟨next, tail, allowed, shape⟩
      · refine ⟨[], by rw [whole, List.append_nil], ?_⟩
        intro next first
        cases first
      · refine ⟨next :: tail, shape, ?_⟩
        intro other first
        exact Option.some.inj first ▸ allowed
    obtain ⟨tail, shape, allowed⟩ := opening
    have colon : ':' ∉ [' ', '\t', '{'] := by decide
    cases name with
    | nil => cases (List.cons.inj shape).1
    | cons c others =>
      rw [fixtureField, Text.lowerFirst, List.append_assoc] at shape
      obtain ⟨either, following⟩ := Text.lowerChar_append_eq_im shape
      change others ++ ':' :: rest = "mport".toList ++ tail at following
      rcases List.append_eq_append_iff.mp following with ⟨gap, word, after⟩ | ⟨gap, longer, after⟩
      · cases gap with
        | nil => exact absurd (allowed ':' (by rw [← List.nil_append tail, ← after]; rfl)) colon
        | cons d more =>
          obtain ⟨same, _⟩ := List.cons.inj after
          have inside : ':' ∈ "mport".toList := by
            rw [word, same]
            exact List.mem_append.mpr (Or.inr List.mem_cons_self)
          exact absurd inside (by decide)
      · cases gap with
        | nil =>
          rw [List.nil_append] at after
          exact absurd (allowed ':' (by rw [after]; rfl)) colon
        | cons next more =>
          refine ⟨c, next, more, either, allowed next (by rw [after]; rfl), ?_⟩
          rw [longer]
  · rintro ⟨first, next, tail, either, allowed, shape⟩
    right
    refine ⟨next, tail ++ ':' :: rest, allowed, ?_⟩
    have lowered : Text.lowerChar first = ['i'] := by
      rcases either with small | capital
      · rw [small]
        decide +kernel
      · rw [capital]
        decide +kernel
    rw [shape, fixtureField, Text.lowerFirst, lowered]
    simp

/-! ## Reading the lines that were written -/

namespace FixtureImport

/-- The printer's import line reads as its binding and its path. -/
theorem parse?_importLine {binding path : Text} (named : CarriedName binding)
    (located : path ≠ []) (unquoted : ∀ c ∈ path, isQuote c = false) :
    parse? (FixtureSet.importLine binding path) = some ⟨binding, path⟩ := by
  have blank : ∀ gap ∈ [[' '], [' '], [' '], []], Blank gap := by
    simp [blank_space, blank_nil]
  have unbraced : '}' ∉ ' ' :: binding ++ [' '] := by
    simpa using named.unbraced
  have spelled := Spelling.named [' '] (' ' :: binding ++ [' ']) [' '] [' '] path [] [';'] '\'' '\''
    blank unbraced (by decide) located unquoted (Or.inr rfl)
  have line : FixtureSet.importLine binding path =
      "import".toList ++ [' '] ++ '{' :: (' ' :: binding ++ [' ']) ++ '}' :: [' ']
        ++ "from".toList ++ [' '] ++ '\'' :: path ++ '\'' :: [] ++ [';'] := by
    unfold FixtureSet.importLine
    simp
  rw [line, parse?_eq_some_iff]
  rwa [named.trim_padded] at spelled

/-- A spelling ends its first pair of braces before the path, and has no quotes
besides the two around the path. -/
theorem Spelling.countP_isQuote {line before after : Text} {found : FixtureImport}
    (spelled : Spelling line found) (split : line = before ++ '}' :: after)
    (first : '}' ∉ before) : after.countP isQuote = 2 := by
  have plain : forall gap, Blank gap -> gap.countP isQuote = 0 := by
    intro gap blank
    apply List.countP_eq_zero.mpr
    intro c member quote
    have either : c = '\'' ∨ c = '"' := by
      simpa [isQuote] using quote
    rcases either with single | double
    · rw [single] at member
      exact absurd (blank _ member) (by decide)
    · rw [double] at member
      exact absurd (blank _ member) (by decide)
  cases spelled with
  | named afterWord inside afterBraces afterFrom path afterPath ending opening closing blank
      unbraced quotes located unquoted ended =>
    have gap : '}' ∉ afterWord := by
      intro member
      exact absurd (blank afterWord (by simp) '}' member) (by decide)
    have opened : '}' ∉ "import".toList ++ afterWord ++ '{' :: inside := by
      simp [gap, unbraced]
    have shape : ("import".toList ++ afterWord ++ '{' :: inside) ++ '}' ::
        (afterBraces ++ "from".toList ++ afterFrom ++ opening :: path ++ closing :: afterPath
          ++ ending) = before ++ '}' :: after := by
      rw [← split]
      simp
    rw [← (eq_of_first_brace opened first shape).2]
    have inPath : path.countP isQuote = 0 := List.countP_eq_zero.mpr (by simpa using unquoted)
    have inEnding : ending.countP isQuote = 0 := by
      rcases ended with none | semicolon
      · rw [none]
        rfl
      · rw [semicolon]
        decide
    simp [plain afterBraces (blank _ (by simp)), plain afterFrom (blank _ (by simp)),
      plain afterPath (blank _ (by simp)), inPath, inEnding, quotes.1, quotes.2,
      List.countP_cons]
    decide

/-- A path that has a quote itself makes the import line unreadable. -/
theorem parse?_importLine_of_quoted {binding path : Text} (named : CarriedName binding)
    (quoted : Exists fun c => c ∈ path ∧ isQuote c = true) :
    parse? (FixtureSet.importLine binding path) = none := by
  cases read : parse? (FixtureSet.importLine binding path) with
  | none => rfl
  | some found =>
    have split : FixtureSet.importLine binding path =
        ("import \x7b ".toList ++ binding ++ [' ']) ++ '}' :: (" from '".toList ++ path ++
          "';".toList) := by
      unfold FixtureSet.importLine
      simp
    have first : '}' ∉ "import \x7b ".toList ++ binding ++ [' '] := by
      simp [named.unbraced]
    have count := (parse?_eq_some_iff.mp read).countP_isQuote split first
    have inside : 0 < path.countP isQuote := List.countP_pos_iff.mpr quoted
    rw [List.countP_append, List.countP_append] at count
    have around : " from '".toList.countP isQuote = 1 ∧ "';".toList.countP isQuote = 1 := by
      decide
    omega

end FixtureImport

end ApiServices
