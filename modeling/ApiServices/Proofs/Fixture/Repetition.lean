import ApiServices.Proofs.Fixture.Runs

namespace ApiServices

/-!
# Merging the same entries twice

A run that merges its entries into a file, and then does so again, comes to the
entries that it had: the second time, its own entries are taken out of the file
and put back behind the others, where they were.  So the second file is the
first one, provided that the first one can be read.

A quote in an import path is the one thing that a run can bring into the file
and not read back.  The path is pasted between quotes as it is, and what is
read ends at the first of its own quotes.
-/

namespace FixtureSet

variable {set : FixtureSet} {batch : List (Text × Text)}

/-! ## Entries -/

/-- Merging leaves the entries of others as they were. -/
theorem untouched_merged (set : FixtureSet) (batch : List (Text × Text)) :
    (set.merged batch).untouched batch = set.untouched batch := by
  unfold merged untouched
  rw [Keyed.filterKeys_insertAll_of_not, Keyed.filterKeys_filterKeys]
  intro entry member
  simp only [Bool.not_eq_false', List.contains_iff_mem]
  exact List.mem_map_of_mem member

/-- Merging a batch twice is merging it once. -/
theorem merged_merged (set : FixtureSet) (batch : List (Text × Text)) :
    (set.merged batch).merged batch = set.merged batch := by
  rw [merged, untouched_merged]
  rfl

theorem clear_merged_iff (clear : ∀ entry ∈ batch, mistakable entry.1 = false) :
    (set.merged batch).Clear ↔ set.Clear := by
  refine ⟨?_, fun earlier => clear_merged earlier clear⟩
  intro all name member
  by_cases named : name ∈ batch.map Prod.fst
  · obtain ⟨entry, inside, same⟩ := List.mem_map.mp named
    exact same ▸ clear entry inside
  · obtain ⟨entry, inside, same⟩ := List.mem_map.mp member
    apply all
    apply Keyed.mem_keys_insertAll
    left
    refine List.mem_map.mpr ⟨entry, List.mem_filter.mpr ⟨inside, ?_⟩, same⟩
    simpa [same] using named

/-- Where a name has one path in the whole batch, every entry of the batch is
among the merged ones. -/
theorem mem_entries_merged_of_mem (functional : ∀ entry ∈ batch, ∀ other ∈ batch,
      entry.1 = other.1 -> entry = other)
    {entry : Text × Text} (member : entry ∈ batch) : entry ∈ (set.merged batch).entries := by
  have key : entry.1 ∈ (set.merged batch).keys :=
    Keyed.mem_keys_insertAll (Or.inr (List.mem_map_of_mem member))
  obtain ⟨found, inside, same⟩ := List.mem_map.mp key
  rcases Keyed.mem_entries_insertAll inside with earlier | added
  · have other := (List.mem_filter.mp earlier).2
    rw [Bool.not_eq_true', List.contains_eq_mem, decide_eq_false_iff_not] at other
    exact absurd (List.mem_map.mpr ⟨entry, member, same.symm⟩) other
  · rwa [← functional found added entry member same]

/-! ## Files -/

/-- The text of a fixture file is never blank. -/
theorem trim_render_ne_nil (set : FixtureSet) : Text.trim set.render ≠ [] := by
  intro empty
  have letter : 'i' ∈ set.render := by
    refine List.mem_flatMap.mpr ⟨importLine "test as base".toList frameworkModule, ?_, ?_⟩
    · rw [fileLines_eq]
      exact List.mem_cons_self
    · decide
  exact absurd (Text.isBlank_of_trim_eq_nil empty 'i' letter) (by decide)

/-- An entry that can be carried by a file, but for quotes in its path. -/
structure PlacedEntry (entry : Text × Text) : Prop extends LinedEntry entry where
  located : entry.2 ≠ []
  ownModule : entry.2 ≠ frameworkModule

theorem placed_of_carried {entry : Text × Text} (carried : CarriedEntry entry) :
    PlacedEntry entry :=
  ⟨carried.lined, carried.path.nonempty, carried.path.ownModule⟩

theorem PlacedEntry.carried {entry : Text × Text} (placed : PlacedEntry entry)
    (unquoted : ∀ c ∈ entry.2, FixtureImport.isQuote c = false) : CarriedEntry entry :=
  ⟨placed.name, placed.located, unquoted, placed.path, placed.ownModule⟩

/-- An import with a quote in its path is refused. -/
theorem readLine_importLine_of_quoted {entry : Text × Text} (named : CarriedName entry.1)
    (quoted : Exists fun c => c ∈ entry.2 ∧ FixtureImport.isQuote c = true) (number : Nat) :
    readLine number (importLine entry.1 entry.2) =
      .error (.unrecognisedImport number (importLine entry.1 entry.2)) := by
  rw [readLine, trim_importLine, isImport_importLine,
    FixtureImport.parse?_importLine_of_quoted named quoted]
  rfl

/-- A file with a quote in a path is refused. -/
theorem parse_render_of_quoted (lined : ∀ entry ∈ set.entries, LinedEntry entry)
    {entry : Text × Text} (member : entry ∈ set.entries)
    (quoted : Exists fun c => c ∈ entry.2 ∧ FixtureImport.isQuote c = true) :
    Exists fun error => (parse set.render).outcome = .error error := by
  have written : importLine entry.1 entry.2 ∈ set.fileLines := by
    rw [fileLines_eq]
    exact List.mem_cons_of_mem _ (List.mem_append_left _ (List.mem_map_of_mem member))
  rw [parse, lines_render lined]
  exact readLines_error_of_mem written fun number =>
    ⟨_, readLine_importLine_of_quoted (lined entry member).name quoted number⟩

/-- Apart from quotes and mistakable names, nothing makes a file unreadable. -/
theorem parse_render_of_not_faithful (placed : ∀ entry ∈ set.entries, PlacedEntry entry)
    (unfaithful : ¬set.Faithful) :
    Exists fun error => (parse set.render).outcome = .error error := by
  have lined : ∀ entry ∈ set.entries, LinedEntry entry :=
    fun entry member => (placed entry member).toLinedEntry
  by_cases unquoted : ∀ entry ∈ set.entries, ∀ c ∈ entry.2, FixtureImport.isQuote c = false
  · have carried : ∀ entry ∈ set.entries, CarriedEntry entry :=
      fun entry member => (placed entry member).carried (unquoted entry member)
    obtain ⟨line, content, refused⟩ :=
      parse_render_of_mistakable carried fun clear => unfaithful ⟨carried, clear⟩
    exact ⟨_, refused⟩
  · simp only [not_forall, Bool.not_eq_false] at unquoted
    obtain ⟨entry, member, c, inside, quote⟩ := unquoted
    exact parse_render_of_quoted lined member ⟨c, inside, quote⟩

end FixtureSet

/-! ## The second run -/

/-- The entries that a run starts from can be carried by a file. -/
theorem carriedEntry_of_priorEntries {existing : Option Text} {set : FixtureSet}
    (prior : priorEntries existing = .ok set) : ∀ entry ∈ set.entries, CarriedEntry entry := by
  cases existing with
  | none =>
    rw [← Except.ok.inj prior]
    intro entry member
    cases member
  | some text => exact FixtureSet.carriedEntry_of_parse prior

section Again

variable {set : FixtureSet} {batch : List (Text × Text)}

/-- Where the file of a run can be read, an equal run gives the same file. -/
theorem mergeFixtureFile_again (faithful : (set.merged batch).Faithful) :
    (mergeFixtureFile (some (set.merged batch).render) batch).outcome =
      .ok (set.merged batch).render := by
  have readBack : priorEntries (some (set.merged batch).render) = .ok (set.merged batch) :=
    faithful.parse_render
  rw [outcome_mergeFixtureFile, readBack]
  change Except.ok ((set.merged batch).merged batch).render = _
  rw [FixtureSet.merged_merged]

/-- Where it cannot be read, an equal run fails. -/
theorem mergeFixtureFile_again_of_not_faithful
    (placed : ∀ entry ∈ (set.merged batch).entries, FixtureSet.PlacedEntry entry)
    (unfaithful : ¬(set.merged batch).Faithful) :
    Exists fun error =>
      (mergeFixtureFile (some (set.merged batch).render) batch).outcome = .error error := by
  obtain ⟨error, refused⟩ := FixtureSet.parse_render_of_not_faithful placed unfaithful
  have readBack : priorEntries (some (set.merged batch).render) = .error error := refused
  refine ⟨error, ?_⟩
  rw [outcome_mergeFixtureFile, readBack]
  rfl

end Again

end ApiServices
