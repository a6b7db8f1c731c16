import ApiServices.Proofs.Fixture.ImportLine

namespace ApiServices

/-!
# What the lines of a fixture file say

The import block says the entries, and nothing else in the file says anything,
provided no name is mistakable.  A mistakable name makes its own type line
unreadable, so the whole file is refused.
-/

/-- The framework import carries the name that tests are written with. -/
theorem carriedName_frameworkBinding : CarriedName "test as base".toList := by
  decide

namespace FixtureSet

variable {name : Text} {number : Nat}

/-! ## One line -/

theorem readLine_of_isImport_eq_false {line : Text}
    (other : FixtureImport.isImport (Text.trim line) = false) :
    readLine number line = .ok none := by
  rw [readLine, other]
  rfl

theorem trim_importLine (binding path : Text) :
    Text.trim (importLine binding path) = importLine binding path := by
  have shape : importLine binding path =
      'i' :: ("mport \x7b ".toList ++ binding ++ " \x7d from '".toList ++ path ++ ['\''] ++ [';']) := by
    unfold importLine
    simp
  rw [shape]
  exact Text.trim_enclosed _ (by decide) (by decide)

theorem isImport_importLine (binding path : Text) :
    FixtureImport.isImport (importLine binding path) = true := by
  apply (FixtureImport.isImport_eq_true_iff _).mpr
  right
  refine ⟨' ', "\x7b ".toList ++ binding ++ " \x7d from '".toList ++ path ++ "';".toList, ?_, ?_⟩
  · exact List.mem_cons_self
  · unfold importLine
    simp

/-- An import line that was written for an entry says the entry. -/
theorem readLine_importLine {entry : Text × Text} (carried : CarriedEntry entry) :
    readLine number (importLine entry.1 entry.2) = .ok (some entry) := by
  have named := carried.name
  have located := carried.path
  have filled : entry.1.isEmpty = false := by
    simpa using named.nonempty
  have alone : entry.1.contains ',' = false := by
    simpa using named.single
  rw [readLine, trim_importLine, isImport_importLine,
    FixtureImport.parse?_importLine named located.nonempty located.unquoted]
  simp only [if_true, if_neg located.ownModule, filled, alone, Bool.or_false, Bool.false_eq_true,
    if_false]

/-- The framework import says nothing. -/
theorem readLine_frameworkLine :
    readLine number (importLine "test as base".toList frameworkModule) = .ok none := by
  have unquoted : ∀ c ∈ frameworkModule, FixtureImport.isQuote c = false :=
    unquoted_iff.mp (by decide)
  rw [readLine, trim_importLine, isImport_importLine,
    FixtureImport.parse?_importLine carriedName_frameworkBinding (by decide) unquoted, if_pos rfl]
  exact if_pos rfl

/-- A line that opens with the fixture of a service is trimmed to begin there. -/
theorem trim_fieldLine {d : Char} (rest : Text) (carried : CarriedName name)
    (last : Text.isBlank d = false) :
    Text.trim (List.replicate 2 ' ' ++ (fixtureField name ++ (rest ++ [d]))) =
      fixtureField name ++ (rest ++ [d]) := by
  rw [Text.trim_indented]
  apply Text.trim_of_ends
  · intro c first
    apply Text.head_lowerFirst_plain carried.head_plain
    cases shape : fixtureField name with
    | nil =>
      cases empty : name with
      | nil => exact absurd empty carried.nonempty
      | cons e others =>
        rw [empty, fixtureField, Text.lowerFirst, List.append_eq_nil_iff] at shape
        exact absurd shape.1 (Text.lowerChar_ne_nil e)
    | cons e others =>
      rw [shape] at first
      change (fixtureField name).head? = some c
      rw [shape]
      exact first
  · intro c same
    rw [← List.append_assoc, List.getLast?_concat] at same
    exact Option.some.inj same ▸ last

/-- The type line of a service says nothing, unless the name is mistakable:
then it is an import that cannot be read. -/
theorem readLine_typeLine (carried : CarriedName name) :
    readLine number (typeLine name) =
      if mistakable name then .error (.unrecognisedImport number (Text.trim (typeLine name)))
      else .ok none := by
  have shape : typeLine name =
      List.replicate 2 ' ' ++ (fixtureField name ++ ((':' :: ' ' :: name) ++ [';'])) := by
    unfold typeLine
    simp
  have trimmed := trim_fieldLine (':' :: ' ' :: name) carried (by decide : Text.isBlank ';' = false)
  have recognized : FixtureImport.isImport (Text.trim (typeLine name)) = mistakable name := by
    rw [shape, trimmed]
    exact isImport_field_colon name _
  have unbraced : '}' ∉ Text.trim (typeLine name) := by
    have field : '}' ∉ fixtureField name :=
      Text.notMem_mapFirst (by decide +kernel) carried.unbraced
    rw [shape, trimmed]
    simp [field, carried.unbraced]
  rw [readLine, recognized, FixtureImport.parse?_of_unbraced unbraced]

/-- The lines that define a fixture say nothing. -/
theorem readLine_of_mem_definitionLines {line : Text} {isLast : Bool} (carried : CarriedName name)
    (clear : mistakable name = false) (member : line ∈ definitionLines name isLast) :
    readLine number line = .ok none := by
  apply readLine_of_isImport_eq_false
  simp only [definitionLines, List.mem_cons, List.not_mem_nil, or_false] at member
  rcases member with opening | construction | use | closing
  · have shape : line = List.replicate 2 ' ' ++ (fixtureField name ++
        ((':' :: " async (\x7b request \x7d, use) => ".toList) ++ ['{'])) := by
      rw [opening]
      simp
    rw [shape, trim_fieldLine _ carried (by decide), List.cons_append, isImport_field_colon]
    exact clear
  · have shape : line = List.replicate 4 ' ' ++ ('c' ::
        ("onst service = new ".toList ++ name ++ "(request)".toList ++ [';'])) := by
      rw [construction]
      simp [List.replicate]
    rw [shape, Text.trim_indented, Text.trim_enclosed _ (by decide) (by decide)]
    exact FixtureImport.isImport_of_head_ne (by decide)
  · rw [use]
    decide
  · rw [closing]
    cases isLast <;> decide

end FixtureSet
end ApiServices
