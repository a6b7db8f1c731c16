import ApiServices.Proofs.Fixture.Acceptance
import ApiServices.Proofs.Fixture.FileLines

namespace ApiServices

/-!
# Reading a fixture file back

A file that was written for entries without mistakable names is read as exactly
these entries.  Since merging changes entries and not their spelling, the file
on the disk follows the merged sets through any number of runs.  One mistakable
name makes a written file unreadable; nothing else does.
-/

namespace FixtureSet

variable {set : FixtureSet}

/-- The lines of a fixture file that follow its import block. -/
def laterLines (set : FixtureSet) : List Text :=
  [[], "type MyFixtures = \x7b".toList]
    ++ set.keys.map typeLine
    ++ ["\x7d;".toList, [], "export const test = base.extend<MyFixtures>(\x7b".toList]
    ++ definitions set.keys
    ++ ["\x7d);".toList, [],
      "export \x7b expect \x7d from '".toList ++ frameworkModule ++ "';".toList]

theorem fileLines_eq (set : FixtureSet) :
    set.fileLines = importLine "test as base".toList frameworkModule ::
      (set.entries.map (fun entry => importLine entry.1 entry.2) ++ set.laterLines) := by
  unfold fileLines laterLines
  simp only [List.append_assoc, List.cons_append, List.nil_append]

theorem mem_definitions {names : List Text} {line : Text} (member : line ∈ definitions names) :
    Exists fun name => Exists fun isLast => name ∈ names ∧ line ∈ definitionLines name isLast := by
  induction names with
  | nil => cases member
  | cons name rest ih =>
    rcases List.mem_append.mp member with here | later
    · exact ⟨name, rest.isEmpty, List.mem_cons_self, here⟩
    · obtain ⟨other, isLast, among, inside⟩ := ih later
      exact ⟨other, isLast, List.mem_cons_of_mem name among, inside⟩

/-- The lines after the import block that do not depend on the entries. -/
def framingLines : List Text :=
  [ [], "type MyFixtures = \x7b".toList, "\x7d;".toList,
    "export const test = base.extend<MyFixtures>(\x7b".toList, "\x7d);".toList,
    "export \x7b expect \x7d from '".toList ++ frameworkModule ++ "';".toList ]

/-- A line after the import block is a framing line, or a line for a service. -/
theorem mem_laterLines {line : Text} (member : line ∈ set.laterLines) :
    line ∈ framingLines ∨
      (Exists fun name => name ∈ set.keys ∧ typeLine name = line) ∨
      Exists fun name => Exists fun isLast =>
        name ∈ set.keys ∧ line ∈ definitionLines name isLast := by
  unfold laterLines at member
  simp only [List.mem_append, or_assoc] at member
  rcases member with typing | types | extension | defined | ending
  · left
    revert line
    decide
  · right
    left
    exact List.mem_map.mp types
  · left
    revert line
    decide
  · right
    right
    exact mem_definitions defined
  · left
    revert line
    decide

theorem carriedName_of_mem_keys (lined : ∀ entry ∈ set.entries, LinedEntry entry) :
    ∀ name ∈ set.keys, CarriedName name := by
  intro name member
  obtain ⟨entry, inside, same⟩ := List.mem_map.mp member
  exact same ▸ (lined entry inside).name

theorem lined_of_carried (carried : ∀ entry ∈ set.entries, CarriedEntry entry) :
    ∀ entry ∈ set.entries, LinedEntry entry :=
  fun entry member => (carried entry member).lined

/-! ## Lines stay lines -/

/-- A line that reading gives back as it was written. -/
def Unbroken (line : Text) : Prop :=
  '\n' ∉ line ∧ line.getLast? ≠ some '\r'

theorem unbroken_concat {text : Text} {d : Char} (oneLine : '\n' ∉ text) (plain : d ≠ '\n')
    (kept : d ≠ '\r') : Unbroken (text ++ [d]) := by
  constructor
  · intro member
    rcases List.mem_append.mp member with inside | last
    · exact oneLine inside
    · exact plain (List.mem_singleton.mp last).symm
  · rw [List.getLast?_concat]
    exact fun same => kept (Option.some.inj same)

theorem unbroken_importLine {entry : Text × Text} (lined : LinedEntry entry) :
    Unbroken (importLine entry.1 entry.2) := by
  have shape : importLine entry.1 entry.2 =
      ("import \x7b ".toList ++ entry.1 ++ " \x7d from '".toList ++ entry.2 ++ ['\'']) ++ [';'] := by
    unfold importLine
    simp
  rw [shape]
  apply unbroken_concat _ (by decide) (by decide)
  simp [lined.name.oneLine, lined.path]

theorem lineFeed_notMem_fixtureField {name : Text} (carried : CarriedName name) :
    '\n' ∉ fixtureField name :=
  Text.notMem_mapFirst (by decide +kernel) carried.oneLine

theorem unbroken_typeLine {name : Text} (carried : CarriedName name) : Unbroken (typeLine name) := by
  have field := lineFeed_notMem_fixtureField carried
  unfold typeLine
  apply unbroken_concat _ (by decide) (by decide)
  simp [field, carried.oneLine]

theorem unbroken_of_mem_definitionLines {name line : Text} {isLast : Bool}
    (carried : CarriedName name) (member : line ∈ definitionLines name isLast) : Unbroken line := by
  have field := lineFeed_notMem_fixtureField carried
  simp only [definitionLines, List.mem_cons, List.not_mem_nil, or_false] at member
  rcases member with opening | construction | use | closing
  · have shape : line = ("  ".toList ++ fixtureField name ++
        ": async (\x7b request \x7d, use) => ".toList) ++ ['{'] := by
      rw [opening]
      simp
    rw [shape]
    apply unbroken_concat _ (by decide) (by decide)
    simp [field]
  · have shape : line = ("    const service = new ".toList ++ name ++ "(request)".toList) ++ [';'] := by
      rw [construction]
      simp
    rw [shape]
    apply unbroken_concat _ (by decide) (by decide)
    simp [carried.oneLine]
  · rw [use]
    constructor <;> decide
  · rw [closing]
    cases isLast <;> constructor <;> decide

/-- The printer writes lines that are read back as they are. -/
theorem unbroken_of_mem_fileLines (lined : ∀ entry ∈ set.entries, LinedEntry entry) :
    ∀ line ∈ set.fileLines, Unbroken line := by
  have fixed : ∀ line ∈ importLine "test as base".toList frameworkModule :: framingLines,
      Unbroken line := by
    unfold Unbroken
    decide
  have names := carriedName_of_mem_keys lined
  intro line member
  rw [fileLines_eq] at member
  rcases List.mem_cons.mp member with first | others
  · exact fixed line (first ▸ List.mem_cons_self)
  · rcases List.mem_append.mp others with entry | later
    · obtain ⟨entry, inside, written⟩ := List.mem_map.mp entry
      exact written ▸ unbroken_importLine (lined entry inside)
    · rcases mem_laterLines later with framing | ⟨name, inside, written⟩ |
        ⟨name, isLast, inside, written⟩
      · exact fixed line (List.mem_cons_of_mem _ framing)
      · exact written ▸ unbroken_typeLine (names name inside)
      · exact unbroken_of_mem_definitionLines (names name inside) written

theorem lines_render (lined : ∀ entry ∈ set.entries, LinedEntry entry) :
    Text.lines set.render = set.fileLines := by
  have unbroken := unbroken_of_mem_fileLines lined
  exact Text.lines_flatMap_ended set.fileLines (fun line member => (unbroken line member).1)
    (fun line member => (unbroken line member).2)

/-! ## Lines that say nothing, and lines that say an entry -/

section Reading

variable {number : Nat} {rest : List Text}

theorem readLines_of_silent {silent : List Text}
    (nothing : ∀ line ∈ silent, forall number, readLine number line = .ok none) :
    (readLines set number silent).outcome = .ok set := by
  induction silent generalizing number with
  | nil => rfl
  | cons line others ih =>
    rw [readLines_cons_of_silent (nothing line List.mem_cons_self number)]
    exact ih fun other member => nothing other (List.mem_cons_of_mem line member)

theorem readLines_append_of_silent {silent : List Text}
    (nothing : ∀ line ∈ silent, forall number, readLine number line = .ok none) :
    (readLines set number (silent ++ rest)).outcome =
      (readLines set (number + silent.length) rest).outcome := by
  rw [readLines_append, readLines_of_silent nothing]
  rfl

theorem readLines_importLines {entries : List (Text × Text)}
    (carried : ∀ entry ∈ entries, CarriedEntry entry) :
    (readLines set number (entries.map fun entry => importLine entry.1 entry.2)).outcome =
      .ok (set.insertAll entries) := by
  induction entries generalizing set number with
  | nil => rfl
  | cons entry others ih =>
    rw [List.map_cons,
      readLines_cons_of_entry (readLine_importLine (carried entry List.mem_cons_self))]
    exact ih fun other member => carried other (List.mem_cons_of_mem entry member)

/-- A mistakable name among others makes the type block unreadable. -/
theorem readLines_typeLines_of_mistakable {names : List Text}
    (carried : ∀ name ∈ names, CarriedName name)
    (wrong : Exists fun name => name ∈ names ∧ mistakable name = true) :
    Exists fun line => Exists fun content =>
      (readLines set number (names.map typeLine ++ rest)).outcome =
        .error (.unrecognisedImport line content) := by
  induction names generalizing number with
  | nil =>
    obtain ⟨name, member, _⟩ := wrong
    cases member
  | cons name others ih =>
    rw [List.map_cons, List.cons_append]
    have said : readLine number (typeLine name) = _ :=
      readLine_typeLine (carried name List.mem_cons_self)
    cases spelled : mistakable name with
    | true =>
      rw [spelled, if_pos rfl] at said
      exact ⟨number, Text.trim (typeLine name), readLines_cons_of_error said⟩
    | false =>
      rw [spelled, if_neg Bool.false_ne_true] at said
      rw [readLines_cons_of_silent said]
      apply ih (fun other member => carried other (List.mem_cons_of_mem name member))
      obtain ⟨found, member, spelling⟩ := wrong
      rcases List.mem_cons.mp member with here | later
      · rw [here, spelled] at spelling
        cases spelling
      · exact ⟨found, later, spelling⟩

end Reading

/-- Whether no service of the set can be taken for an import. -/
def Clear (set : FixtureSet) : Prop :=
  ∀ name ∈ set.keys, mistakable name = false

instance (set : FixtureSet) : Decidable set.Clear :=
  inferInstanceAs (Decidable (∀ name ∈ set.keys, mistakable name = false))

theorem readLine_of_mem_framingLines {line : Text} {number : Nat}
    (member : line ∈ framingLines) : readLine number line = .ok none := by
  apply readLine_of_isImport_eq_false
  revert line
  decide

/-- Nothing that follows the import block says anything. -/
theorem readLine_of_mem_laterLines (carried : ∀ name ∈ set.keys, CarriedName name)
    (clear : set.Clear) :
    ∀ line ∈ set.laterLines, forall number, readLine number line = .ok none := by
  intro line member number
  rcases mem_laterLines member with framing | ⟨name, inside, written⟩ |
    ⟨name, isLast, inside, written⟩
  · exact readLine_of_mem_framingLines framing
  · rw [← written, readLine_typeLine (carried name inside), clear name inside]
    rfl
  · exact readLine_of_mem_definitionLines (carried name inside) (clear name inside) written

/-- A written file is read up to the end of its import block as the entries
that it was written for. -/
theorem outcome_parse_render (carried : ∀ entry ∈ set.entries, CarriedEntry entry) :
    (parse set.render).outcome =
      (readLines set (2 + set.entries.length) set.laterLines).outcome := by
  rw [parse, lines_render (lined_of_carried carried), fileLines_eq,
    readLines_cons_of_silent readLine_frameworkLine, readLines_append,
    readLines_importLines carried, Keyed.insertAll_entries, List.length_map]
  rfl

/-- A file without mistakable names is read as the entries it was written for. -/
theorem parse_render (carried : ∀ entry ∈ set.entries, CarriedEntry entry) (clear : set.Clear) :
    (parse set.render).outcome = .ok set := by
  have names := carriedName_of_mem_keys (lined_of_carried carried)
  rw [outcome_parse_render carried]
  exact readLines_of_silent (readLine_of_mem_laterLines names clear)

/-- A file with a mistakable name is refused. -/
theorem parse_render_of_mistakable (carried : ∀ entry ∈ set.entries, CarriedEntry entry)
    (unclear : ¬set.Clear) :
    Exists fun line => Exists fun content =>
      (parse set.render).outcome = .error (.unrecognisedImport line content) := by
  have opening : ∀ line ∈ [[], "type MyFixtures = \x7b".toList],
      forall number, readLine number line = .ok none :=
    fun line member number => readLine_of_mem_framingLines (List.mem_append_left _ member)
  have spelled : Exists fun name => name ∈ set.keys ∧ mistakable name = true := by
    unfold Clear at unclear
    simp only [not_forall, Bool.not_eq_false] at unclear
    obtain ⟨name, member, wrong⟩ := unclear
    exact ⟨name, member, wrong⟩
  rw [outcome_parse_render carried]
  unfold laterLines
  simp only [List.append_assoc]
  rw [readLines_append_of_silent opening]
  exact readLines_typeLines_of_mistakable
    (carriedName_of_mem_keys (lined_of_carried carried)) spelled

end FixtureSet
end ApiServices
