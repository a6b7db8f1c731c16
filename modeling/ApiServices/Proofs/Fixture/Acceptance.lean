import ApiServices.Proofs.Fixture.ImportLine
import ApiServices.Proofs.Keyed.Insertion

namespace ApiServices

/-!
# What reading accepts

Every entry that is read from a file can be carried by a file: its name is a
trimmed binding without braces, commas and line feeds, and its path could stand
in quotes.  Nothing is said here about the text of the file being one that was
generated.
-/

/-- Reading takes the binding and the path from the line; the binding is trimmed
and has no brace, and the path has no quote. -/
theorem FixtureImport.Spelling.parts {line : Text} {found : FixtureImport}
    (spelled : Spelling line found) :
    (found.binding ⊆ line ∧ Text.trim found.binding = found.binding ∧ '}' ∉ found.binding) ∧
      found.path ⊆ line ∧ found.path ≠ [] ∧ ∀ c ∈ found.path, isQuote c = false := by
  cases spelled with
  | named _ inside _ _ path _ _ _ _ _ unbraced _ located unquoted =>
    refine ⟨⟨?_, Text.trim_trim inside, fun member => unbraced (Text.mem_of_mem_trim member)⟩,
      ?_, located, unquoted⟩
    · intro c member
      simp [Text.mem_of_mem_trim member]
    · intro c (member : c ∈ path)
      simp [member]

namespace FixtureSet

/-- What a line without line feeds says can be carried by a file. -/
theorem carriedEntry_of_readLine {number : Nat} {line : Text} {entry : Text × Text}
    (oneLine : '\n' ∉ line) (said : readLine number line = .ok (some entry)) :
    CarriedEntry entry := by
  have within : '\n' ∉ Text.trim line := fun member => oneLine (Text.mem_of_mem_trim member)
  unfold readLine at said
  split at said
  · split at said
    · cases said
    · next found read =>
      obtain ⟨⟨bindingPart, trimmed, unbraced⟩, pathPart, located, unquoted⟩ :=
        (FixtureImport.parse?_eq_some_iff.mp read).parts
      split at said
      · cases said
      · next own =>
        split at said
        · cases said
        · next fit =>
          rw [Bool.or_eq_true, not_or] at fit
          have same : (found.binding, found.path) = entry := Option.some.inj (Except.ok.inj said)
          rw [← same]
          refine ⟨⟨?_, trimmed, unbraced, ?_, fun member => within (bindingPart member)⟩,
            ⟨located, unquoted, fun member => within (pathPart member), own⟩⟩
          · simpa using fit.1
          · simpa using fit.2
  · cases said

/-! ## All lines -/

section Reading

variable {set : FixtureSet} {number : Nat} {line : Text} {rest : List Text}

theorem readLines_cons_of_silent (silent : readLine number line = .ok none) :
    (readLines set number (line :: rest)).outcome = (readLines set (number + 1) rest).outcome := by
  rw [readLines, Logged.outcome_bind, Logged.ofExcept, silent]
  rfl

theorem readLines_cons_of_entry {entry : Text × Text}
    (said : readLine number line = .ok (some entry)) :
    (readLines set number (line :: rest)).outcome =
      (readLines (set.insert entry.1 entry.2) (number + 1) rest).outcome := by
  rw [readLines, Logged.outcome_bind, Logged.ofExcept, said]
  change ((addRead set entry >>= fun grown => readLines grown (number + 1) rest).outcome) = _
  have added : (addRead set entry).outcome = .ok (set.insert entry.1 entry.2) := by
    unfold addRead
    split <;> rfl
  rw [Logged.outcome_bind, added]
  rfl

theorem readLines_cons_of_error {error : FixtureError}
    (refused : readLine number line = .error error) :
    (readLines set number (line :: rest)).outcome = .error error := by
  rw [readLines, Logged.outcome_bind, Logged.ofExcept, refused]
  rfl

/-- Lines are read if the first one can be read and the others can be read after
it. -/
theorem of_readLines_cons_ok {final : FixtureSet}
    (read : (readLines set number (line :: rest)).outcome = .ok final) :
    Exists fun said => readLine number line = .ok said ∧
      (readLines (said.elim set fun entry => set.insert entry.1 entry.2) (number + 1) rest).outcome =
        .ok final := by
  cases said : readLine number line with
  | error error =>
    rw [readLines_cons_of_error said] at read
    cases read
  | ok found =>
    refine ⟨found, rfl, ?_⟩
    cases found with
    | none =>
      rw [readLines_cons_of_silent said] at read
      exact read
    | some entry =>
      rw [readLines_cons_of_entry said] at read
      exact read

/-- Lines are read one part after the other, and the later part goes on with the
entries of the earlier one. -/
theorem readLines_append (set : FixtureSet) (number : Nat) (first rest : List Text) :
    (readLines set number (first ++ rest)).outcome =
      (readLines set number first).outcome.bind fun grown =>
        (readLines grown (number + first.length) rest).outcome := by
  induction first generalizing set number with
  | nil => rfl
  | cons line others ih =>
    have further : number + 1 + others.length = number + (others.length + 1) := by omega
    rw [List.cons_append, List.length_cons]
    cases said : readLine number line with
    | error error => rw [readLines_cons_of_error said, readLines_cons_of_error said]; rfl
    | ok found =>
      cases found with
      | none =>
        rw [readLines_cons_of_silent said, readLines_cons_of_silent said, ih, further]
      | some entry =>
        rw [readLines_cons_of_entry said, readLines_cons_of_entry said, ih, further]

/-! ### Errors -/

theorem line_of_readLine_error {error : FixtureError}
    (refused : readLine number line = .error error) : error.line = number := by
  unfold readLine at refused
  split at refused
  · split at refused
    · rw [← Except.error.inj refused]
      rfl
    · split at refused
      · cases refused
      · split at refused
        · rw [← Except.error.inj refused]
          rfl
        · cases refused
  · cases refused

/-- A failure of reading names one of the lines that were read. -/
theorem line_lt_of_readLines_error {lines : List Text} {error : FixtureError}
    (failed : (readLines set number lines).outcome = .error error) :
    error.line < number + lines.length := by
  induction lines generalizing set number with
  | nil => cases failed
  | cons line rest ih =>
    rw [List.length_cons]
    cases said : readLine number line with
    | error found =>
      rw [readLines_cons_of_error said] at failed
      rw [← Except.error.inj failed, line_of_readLine_error said]
      omega
    | ok found =>
      cases found with
      | none =>
        rw [readLines_cons_of_silent said] at failed
        have later := ih failed
        omega
      | some entry =>
        rw [readLines_cons_of_entry said] at failed
        have later := ih failed
        omega

theorem readLine_of_mem_readLines {final : FixtureSet} {lines : List Text} (member : line ∈ lines)
    (read : (readLines set number lines).outcome = .ok final) :
    Exists fun number => Exists fun said => readLine number line = .ok said := by
  induction lines generalizing set number with
  | nil => cases member
  | cons first rest ih =>
    obtain ⟨said, here, further⟩ := of_readLines_cons_ok read
    rcases List.mem_cons.mp member with same | later
    · exact ⟨number, said, same ▸ here⟩
    · exact ih later further

/-- A line that is refused wherever it stands makes the whole text refused. -/
theorem readLines_error_of_mem {lines : List Text} (member : line ∈ lines)
    (refused : forall number, Exists fun error => readLine number line = .error error) :
    Exists fun error => (readLines set number lines).outcome = .error error := by
  cases read : (readLines set number lines).outcome with
  | error error => exact ⟨error, rfl⟩
  | ok final =>
    obtain ⟨place, said, here⟩ := readLine_of_mem_readLines member read
    obtain ⟨error, failed⟩ := refused place
    rw [here] at failed
    cases failed

/-! ### Keys -/

/-- No later line takes an entry away. -/
theorem mem_keys_of_readLines {final : FixtureSet} {lines : List Text} {name : Text}
    (there : name ∈ set.keys) (read : (readLines set number lines).outcome = .ok final) :
    name ∈ final.keys := by
  induction lines generalizing set number with
  | nil => exact Except.ok.inj read ▸ there
  | cons line rest ih =>
    obtain ⟨said, _, further⟩ := of_readLines_cons_ok read
    refine ih ?_ further
    cases said with
    | none => exact there
    | some entry => exact Keyed.mem_keys_insert (Or.inr there)

end Reading

/-- Reading adds only entries that can be carried. -/
theorem carriedEntry_of_readLines {set final : FixtureSet} {number : Nat} {lines : List Text}
    (before : ∀ entry ∈ set.entries, CarriedEntry entry)
    (oneLine : ∀ line ∈ lines, '\n' ∉ line)
    (read : (readLines set number lines).outcome = .ok final) :
    ∀ entry ∈ final.entries, CarriedEntry entry := by
  induction lines generalizing set number with
  | nil => exact Except.ok.inj read ▸ before
  | cons line rest ih =>
    obtain ⟨said, here, further⟩ := of_readLines_cons_ok read
    refine ih ?_ (fun later member => oneLine later (List.mem_cons_of_mem line member)) further
    cases said with
    | none => exact before
    | some entry =>
      intro other member
      rcases Keyed.mem_entries_insert member with added | old
      · rw [added]
        exact carriedEntry_of_readLine (oneLine line List.mem_cons_self) here
      · exact before other old

/-- Every entry of a file that is read can be carried by a file. -/
theorem carriedEntry_of_parse {text : Text} {set : FixtureSet}
    (read : (parse text).outcome = .ok set) : ∀ entry ∈ set.entries, CarriedEntry entry := by
  refine carriedEntry_of_readLines ?_ (fun _ member => Text.lineFeed_notMem_of_mem_lines member) read
  intro entry member
  cases member

end FixtureSet
end ApiServices
