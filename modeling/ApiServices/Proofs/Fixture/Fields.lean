import ApiServices.Proofs.Fixture.Merging
import ApiServices.Proofs.Generation.Services
import Mathlib.Data.List.Nodup

namespace ApiServices

/-!
# The fixtures that a file declares

A set of fixture entries has every service once, but the file hands a service out
under another name, the one with a lowercase first letter.  Two services whose
names differ in the case of that letter have one fixture between them.  Both
blocks of the file then declare it twice, and only one of the services can be
reached.  Nothing else makes fixtures coincide, which is not obvious: the
lowercase form of one letter is two characters long, and the second of them might
be in a name by itself.  No tag brings it there.

What a block declares is read off its lines here.  The lines are those that the
file is printed from, so nothing is assumed of the import paths.
-/

/-- Whether two names are the same but for the case of their first letters. -/
def SameButFirstCase (first second : Text) : Prop :=
  first.head?.map Text.lowerChar = second.head?.map Text.lowerChar ∧ first.tail = second.tail

instance (first second : Text) : Decidable (SameButFirstCase first second) :=
  inferInstanceAs (Decidable (_ ∧ _))

/-- The entries of the services for tags. -/
def tagEntries (batch : List (Text × Text)) : List (Text × Text) :=
  batch.map fun entry => (serviceName entry.1, entry.2)

namespace FixtureSet

/-! ## Reading declarations -/

/-- The lines between the one that opens a block and the next that closes it. -/
def blockLines (opening closing : Text) (lines : List Text) : List Text :=
  ((lines.dropWhile fun line => line ≠ opening).drop 1).takeWhile fun line => line ≠ closing

/-- The property that a line of a block declares: what stands before the colon
where the line begins with two spaces, and no space or brace follows them. -/
def declaredField? : Text -> Option Text
  | ' ' :: ' ' :: c :: rest =>
    if c = ' ' ∨ c = '}' then none else some (Text.upTo ':' (c :: rest))
  | _ => none

/-- The properties of the type of the fixtures. -/
def typeFields (lines : List Text) : List Text :=
  (blockLines "type MyFixtures = \x7b".toList "\x7d;".toList lines).filterMap declaredField?

/-- The properties of the object that the test base is extended with. -/
def extensionFields (lines : List Text) : List Text :=
  (blockLines "export const test = base.extend<MyFixtures>(\x7b".toList "\x7d);".toList
    lines).filterMap declaredField?

theorem blockLines_append {opening closing : Text} {before inside : List Text} (after : List Text)
    (notOpened : opening ∉ before) (notClosed : closing ∉ inside) :
    blockLines opening closing (before ++ opening :: (inside ++ closing :: after)) = inside := by
  have skipped : ∀ line ∈ before, decide (line ≠ opening) = true :=
    fun line member => decide_eq_true fun same => notOpened (same ▸ member)
  have kept : ∀ line ∈ inside, decide (line ≠ closing) = true :=
    fun line member => decide_eq_true fun same => notClosed (same ▸ member)
  rw [blockLines, List.dropWhile_append_of_pos skipped, List.dropWhile_cons_of_neg (by simp),
    List.drop_one, List.tail_cons, List.takeWhile_append_of_pos kept,
    List.takeWhile_cons_of_neg (by simp), List.append_nil]

/-! ## Names that declare themselves -/

/-- A field that a line can declare. -/
structure Declarable (field : Text) : Prop where
  begins : forall c, field.head? = some c -> c ≠ ' ' ∧ c ≠ '}'
  nonempty : field ≠ []
  unended : ':' ∉ field

theorem Declarable.declaredField? {field : Text} (declarable : Declarable field) (rest : Text) :
    declaredField? ("  ".toList ++ field ++ ':' :: rest) = some field := by
  have filled := declarable.nonempty
  have begins := declarable.begins
  have unended := declarable.unended
  cases field with
  | nil => exact absurd rfl filled
  | cons c others =>
    have plain : ¬(c = ' ' ∨ c = '}') := not_or.mpr (begins c rfl)
    have before : ∀ d ∈ c :: others, (d != ':') = true :=
      fun d member => bne_iff_ne.mpr fun same => unended (same ▸ member)
    change (if c = ' ' ∨ c = '}' then none
      else some (Text.upTo ':' ((c :: others) ++ ':' :: rest))) = _
    rw [if_neg plain, Text.upTo, List.takeWhile_append_of_pos before,
      List.takeWhile_cons_of_neg (by decide), List.append_nil]

theorem declarable_fixtureField (tag : Text) : Declarable (fixtureField (serviceName tag)) where
  begins := by
    have plain : ∀ c ∈ fixtureField (serviceName tag), isForeign c = false :=
      Text.forall_mem_mapFirst (by decide +kernel) (isForeign_of_mem_serviceName tag)
    intro c first
    have inside := plain c (List.mem_of_mem_head? first)
    constructor
    · intro same
      rw [same] at inside
      exact absurd inside (by decide)
    · intro same
      rw [same] at inside
      exact absurd inside (by decide)
  nonempty := by
    intro empty
    cases shape : serviceName tag with
    | nil => exact absurd (List.append_eq_nil_iff.mp shape).2 (by decide)
    | cons c rest => exact Text.lowerFirst_cons_ne_nil c rest (shape ▸ empty)
  unended := by
    apply Text.notMem_mapFirst (by decide +kernel)
    exact notMem_serviceName_of_separator (by decide +kernel) (by decide +kernel) (by decide) tag

/-! ## The two blocks of a file -/

section Blocks

variable (set : FixtureSet)

theorem filterMap_typeLine {names : List Text}
    (declarable : ∀ name ∈ names, Declarable (fixtureField name)) :
    (names.map typeLine).filterMap declaredField? = names.map fixtureField := by
  rw [List.filterMap_map, List.filterMap_eq_map_iff_forall_eq_some]
  intro name member
  have shape : typeLine name =
      "  ".toList ++ fixtureField name ++ ':' :: (' ' :: name ++ [';']) := by
    unfold typeLine
    simp
  rw [Function.comp_apply, shape, (declarable name member).declaredField?]

/-- Of the four lines of a definition the first declares its fixture. -/
theorem filterMap_definitionLines {name : Text} (declarable : Declarable (fixtureField name))
    (isLast : Bool) : (definitionLines name isLast).filterMap declaredField? = [fixtureField name] := by
  have shape : "  ".toList ++ fixtureField name ++ ": async (\x7b request \x7d, use) => \x7b".toList =
      "  ".toList ++ fixtureField name ++ ':' :: " async (\x7b request \x7d, use) => \x7b".toList := rfl
  have construction : declaredField?
      ("    const service = new ".toList ++ name ++ "(request);".toList) = none := rfl
  have use : declaredField? "    await use(service);".toList = none := rfl
  have closing : declaredField? (if isLast then "  \x7d".toList else "  \x7d,".toList) = none := by
    cases isLast <;> rfl
  rw [definitionLines, shape, List.filterMap_cons_some (declarable.declaredField? _),
    List.filterMap_cons_none construction, List.filterMap_cons_none use,
    List.filterMap_cons_none closing, List.filterMap_nil]

theorem filterMap_definitions {names : List Text}
    (declarable : ∀ name ∈ names, Declarable (fixtureField name)) :
    (definitions names).filterMap declaredField? = names.map fixtureField := by
  induction names with
  | nil => rfl
  | cons name rest ih =>
    rw [definitions, List.filterMap_append,
      filterMap_definitionLines (declarable name List.mem_cons_self),
      ih fun other member => declarable other (List.mem_cons_of_mem name member)]
    rfl

/-- The lines that depend on an entry begin with the word of an import or with a
space. -/
theorem head_of_mem_importLines {line : Text}
    (member : line ∈ set.entries.map fun entry => importLine entry.1 entry.2) :
    line.head? = some 'i' := by
  obtain ⟨entry, _, same⟩ := List.mem_map.mp member
  rw [← same]
  rfl

theorem head_of_mem_typeLines {line : Text} (member : line ∈ set.keys.map typeLine) :
    line.head? = some ' ' := by
  obtain ⟨name, _, same⟩ := List.mem_map.mp member
  rw [← same]
  rfl

theorem head_of_mem_definitions {line : Text} (member : line ∈ definitions set.keys) :
    line.head? = some ' ' := by
  obtain ⟨name, isLast, _, inside⟩ := mem_definitions member
  simp only [definitionLines, List.mem_cons, List.not_mem_nil, or_false] at inside
  rcases inside with opening | construction | use | closing
  · rw [opening]
    rfl
  · rw [construction]
    rfl
  · rw [use]
    rfl
  · rw [closing]
    cases isLast <;> rfl

theorem typeFields_fileLines (declarable : ∀ name ∈ set.keys, Declarable (fixtureField name)) :
    typeFields set.fileLines = set.keys.map fixtureField := by
  have split : set.fileLines =
      (importLine "test as base".toList frameworkModule ::
          (set.entries.map (fun entry => importLine entry.1 entry.2) ++ [[]])) ++
        "type MyFixtures = \x7b".toList :: (set.keys.map typeLine ++ "\x7d;".toList ::
          ([[], "export const test = base.extend<MyFixtures>(\x7b".toList]
            ++ definitions set.keys
            ++ ["\x7d);".toList, [],
              "export \x7b expect \x7d from '".toList ++ frameworkModule ++ "';".toList])) := by
    unfold fileLines
    simp only [List.append_assoc, List.cons_append, List.nil_append]
  rw [typeFields, split, blockLines_append, filterMap_typeLine declarable]
  · intro member
    rcases List.mem_cons.mp member with framework | member
    · exact absurd framework (by decide)
    · rcases List.mem_append.mp member with imported | blank
      · exact absurd (head_of_mem_importLines set imported) (by decide)
      · exact absurd blank (by decide)
  · exact fun member => absurd (head_of_mem_typeLines set member) (by decide)

theorem extensionFields_fileLines
    (declarable : ∀ name ∈ set.keys, Declarable (fixtureField name)) :
    extensionFields set.fileLines = set.keys.map fixtureField := by
  have split : set.fileLines =
      (importLine "test as base".toList frameworkModule ::
          (set.entries.map (fun entry => importLine entry.1 entry.2) ++
            ([[], "type MyFixtures = \x7b".toList] ++ set.keys.map typeLine ++
              ["\x7d;".toList, []]))) ++
        "export const test = base.extend<MyFixtures>(\x7b".toList ::
          (definitions set.keys ++ "\x7d);".toList ::
            [[], "export \x7b expect \x7d from '".toList ++ frameworkModule ++ "';".toList]) := by
    unfold fileLines
    simp only [List.append_assoc, List.cons_append, List.nil_append]
  rw [extensionFields, split, blockLines_append, filterMap_definitions declarable]
  · intro member
    rcases List.mem_cons.mp member with framework | member
    · exact absurd framework (by decide)
    · rcases List.mem_append.mp member with imported | member
      · exact absurd (head_of_mem_importLines set imported) (by decide)
      · rcases List.mem_append.mp member with member | closing
        · rcases List.mem_append.mp member with opening | types
          · exact absurd opening (by decide)
          · exact absurd (head_of_mem_typeLines set types) (by decide)
        · exact absurd closing (by decide)
  · exact fun member => absurd (head_of_mem_definitions set member) (by decide)

end Blocks

/-! ## When the fixtures are distinct -/

/-- Two services have one fixture just where their names differ in the case of
the first letter at most. -/
theorem fixtureField_eq_iff (first second : Text) :
    fixtureField (serviceName first) = fixtureField (serviceName second) ↔
      SameButFirstCase (serviceName first) (serviceName second) := by
  have undotted : forall tag, '\u0307' ∉ serviceName tag :=
    notMem_serviceName_of_separator (by decide +kernel) (by decide +kernel) (by decide)
  exact Text.lowerFirst_eq_iff (undotted first) (undotted second)

theorem exists_tag_of_mem_keys {batches : List (List (Text × Text))} {name : Text}
    (member : name ∈ (mergedAll Keyed.empty (batches.map tagEntries)).keys) :
    Exists fun tag => name = serviceName tag := by
  rw [keys_mergedAll, List.mem_append, mem_latestNames] at member
  rcases member with earlier | later
  · cases (List.mem_filter.mp earlier).1
  · obtain ⟨batch, among, given⟩ := List.any_eq_true.mp later
    obtain ⟨source, _, same⟩ := List.mem_map.mp among
    rw [Keyed.isSome_lastValue?, ← same, tagEntries, List.map_map] at given
    obtain ⟨entry, _, named⟩ := List.mem_map.mp given
    exact ⟨entry.1, named.symm⟩

/-- After any merges of services for tags, both blocks of the file declare the
fixtures of the services in the order of the set.  Each of them is declared once
if, and only if, no two names in the set differ just in the case of their first
letters. -/
theorem fields_declared_once_iff (batches : List (List (Text × Text))) :
    let set := mergedAll Keyed.empty (batches.map tagEntries)
    typeFields set.fileLines = set.keys.map fixtureField ∧
      extensionFields set.fileLines = set.keys.map fixtureField ∧
      ((set.keys.map fixtureField).Nodup ↔
        ∀ first ∈ set.keys, ∀ second ∈ set.keys, SameButFirstCase first second -> first = second) := by
  intro set
  have declarable : ∀ name ∈ set.keys, Declarable (fixtureField name) := by
    intro name member
    obtain ⟨tag, named⟩ := exists_tag_of_mem_keys member
    exact named ▸ declarable_fixtureField tag
  refine ⟨typeFields_fileLines set declarable, extensionFields_fileLines set declarable, ?_⟩
  rw [List.nodup_map_iff_inj_on (Keyed.nodup_keys set)]
  refine forall₂_congr fun first member => forall₂_congr fun second alsoMember => ?_
  obtain ⟨tag, named⟩ := exists_tag_of_mem_keys member
  obtain ⟨otherTag, alsoNamed⟩ := exists_tag_of_mem_keys alsoMember
  rw [named, alsoNamed, fixtureField_eq_iff]

/-- Services for different tags can have one fixture. -/
theorem fields_not_always_declared_once :
    ¬forall batches : List (List (Text × Text)),
      (typeFields (mergedAll Keyed.empty (batches.map tagEntries)).fileLines).Nodup := by
  intro always
  have clash := always [[("Pet".toList, "./PetService".toList), ("pet".toList, "./petService".toList)]]
  exact absurd clash (by decide +kernel)

end FixtureSet
end ApiServices
