import ApiServices.Proofs.Fixture.RoundTrip

namespace ApiServices

/-!
# Fixture files over many runs

A run reads the entries of the file that is there, merges a batch into them and
writes them anew.  The entries live on in the text alone, so what a later run
works with is what reading makes of the text.  While no name is mistakable, the
texts follow the merged sets exactly; this also holds for a file that was
written by hand, from its first rewriting on.

A mistakable name can come from a file written by hand, because an import line
carries it without harm.  The file that replaces it is refused, and every run
after that one fails.
-/

namespace FixtureSet

/-- An entry of a merged set is an earlier one or one of the batch. -/
theorem mem_entries_merged {set : FixtureSet} {batch : List (Text × Text)} {entry : Text × Text}
    (member : entry ∈ (set.merged batch).entries) : entry ∈ set.entries ∨ entry ∈ batch := by
  rcases Keyed.mem_entries_insertAll member with earlier | added
  · exact Or.inl (List.mem_filter.mp earlier).1
  · exact Or.inr added

/-- An empty batch changes nothing. -/
theorem merged_nil (set : FixtureSet) : set.merged [] = set := by
  apply Keyed.eq_of_entries
  change set.entries.filter (fun entry => !(List.contains [] entry.1)) = set.entries
  apply List.filter_eq_self.mpr
  intro entry _
  rfl

/-- No merged name is mistakable if none of the earlier names and none of the
batch is. -/
theorem clear_merged {set : FixtureSet} {batch : List (Text × Text)} (earlier : set.Clear)
    (clear : ∀ entry ∈ batch, mistakable entry.1 = false) : (set.merged batch).Clear := by
  intro name member
  obtain ⟨entry, inside, same⟩ := List.mem_map.mp member
  rcases mem_entries_merged inside with kept | added
  · exact earlier name (same ▸ List.mem_map_of_mem kept)
  · exact same ▸ clear entry added

/-- A set whose file is read as the set: all entries can be carried, and none
is mistakable. -/
structure Faithful (set : FixtureSet) : Prop where
  carried : ∀ entry ∈ set.entries, CarriedEntry entry
  clear : set.Clear

theorem faithful_empty : Faithful Keyed.empty where
  carried := by
    intro entry member
    cases member
  clear := by
    intro name member
    cases member

/-- Merging a faithful batch into a faithful set gives a faithful set. -/
theorem Faithful.merged {set : FixtureSet} {batch : List (Text × Text)} (faithful : Faithful set)
    (carried : ∀ entry ∈ batch, CarriedEntry entry)
    (clear : ∀ entry ∈ batch, mistakable entry.1 = false) : Faithful (set.merged batch) where
  carried := by
    intro entry member
    rcases mem_entries_merged member with earlier | added
    · exact faithful.carried entry earlier
    · exact carried entry added
  clear := clear_merged faithful.clear clear

theorem Faithful.parse_render {set : FixtureSet} (faithful : Faithful set) :
    (parse set.render).outcome = .ok set :=
  FixtureSet.parse_render faithful.carried faithful.clear

end FixtureSet

/-! ## Runs -/

/-- The entries that a run starts from. -/
def priorEntries : Option Text -> Except FixtureError FixtureSet
  | none => .ok Keyed.empty
  | some text => (FixtureSet.parse text).outcome

/-- A run fails only where the existing text is refused. -/
theorem outcome_mergeFixtureFile (existing : Option Text) (batch : List (Text × Text)) :
    (mergeFixtureFile existing batch).outcome =
      (priorEntries existing).map fun set => (set.merged batch).render := by
  cases existing with
  | none => rfl
  | some text =>
    change (FixtureSet.parse text >>= fun set => FixtureSet.merge set batch >>= fun grown =>
      pure grown.render).outcome =
      (FixtureSet.parse text).outcome.map fun set => (set.merged batch).render
    rw [Logged.outcome_bind]
    cases (FixtureSet.parse text).outcome <;> rfl

/-- The texts of the fixture file after each of a sequence of runs. -/
def textsOfRuns (existing : Option Text) :
    List (List (Text × Text)) -> Except FixtureError (List Text)
  | [] => .ok []
  | batch :: later => do
    let text ← (mergeFixtureFile existing batch).outcome
    let texts ← textsOfRuns (some text) later
    return text :: texts

/-- The entries after each of a sequence of merges. -/
def setsOfRuns (set : FixtureSet) : List (List (Text × Text)) -> List FixtureSet
  | [] => []
  | batch :: later => set.merged batch :: setsOfRuns (set.merged batch) later

/-- One run keeps the text in step with the entries. -/
theorem mergeFixtureFile_of_priorEntries {existing : Option Text} {set : FixtureSet}
    {batch : List (Text × Text)} (prior : priorEntries existing = .ok set)
    (faithful : (set.merged batch).Faithful) :
    (mergeFixtureFile existing batch).outcome = .ok (set.merged batch).render ∧
      priorEntries (some (set.merged batch).render) = .ok (set.merged batch) := by
  constructor
  · rw [outcome_mergeFixtureFile, prior]
    rfl
  · exact faithful.parse_render

/-- Runs keep the text in step with the entries, whatever they start from. -/
theorem textsOfRuns_of_priorEntries {existing : Option Text} {set : FixtureSet}
    {batches : List (List (Text × Text))} (prior : priorEntries existing = .ok set)
    (faithful : set.Faithful)
    (carried : ∀ batch ∈ batches, ∀ entry ∈ batch, CarriedEntry entry)
    (clear : ∀ batch ∈ batches, ∀ entry ∈ batch, mistakable entry.1 = false) :
    Exists fun texts => textsOfRuns existing batches = .ok texts ∧
      texts.map (fun text => (FixtureSet.parse text).outcome) =
        (setsOfRuns set batches).map .ok := by
  induction batches generalizing existing set with
  | nil => exact ⟨[], rfl, rfl⟩
  | cons batch later ih =>
    have grown : (set.merged batch).Faithful :=
      faithful.merged (carried batch List.mem_cons_self) (clear batch List.mem_cons_self)
    obtain ⟨written, readBack⟩ := mergeFixtureFile_of_priorEntries prior grown
    obtain ⟨texts, ran, same⟩ := ih readBack grown
      (fun other member => carried other (List.mem_cons_of_mem batch member))
      (fun other member => clear other (List.mem_cons_of_mem batch member))
    refine ⟨(set.merged batch).render :: texts, ?_, ?_⟩
    · rw [textsOfRuns, written]
      change (textsOfRuns (some (set.merged batch).render) later).bind _ = _
      rw [ran]
      rfl
    · rw [List.map_cons, same, setsOfRuns, List.map_cons, grown.parse_render]

/-- Where runs begin without a file, all of them succeed, and after each of
them the file is read as the entries that merging alone would have given. -/
theorem parse_textsOfRuns (batches : List (List (Text × Text)))
    (carried : ∀ batch ∈ batches, ∀ entry ∈ batch, CarriedEntry entry)
    (clear : ∀ batch ∈ batches, ∀ entry ∈ batch, mistakable entry.1 = false) :
    Exists fun texts => textsOfRuns none batches = .ok texts ∧
      texts.map (fun text => (FixtureSet.parse text).outcome) =
        (setsOfRuns Keyed.empty batches).map .ok :=
  textsOfRuns_of_priorEntries rfl FixtureSet.faithful_empty carried clear

theorem parse_textsOfRuns_of_replaced_service :
    Exists fun texts =>
      textsOfRuns none
          [ [("petStoreService".toList, "./pets".toList), ("Import".toList, "../import".toList)], [],
            [("petStoreService".toList, "./store".toList)] ] = .ok texts ∧
        texts.map (fun text => (FixtureSet.parse text).outcome) =
          (setsOfRuns Keyed.empty
            [ [("petStoreService".toList, "./pets".toList), ("Import".toList, "../import".toList)], [],
              [("petStoreService".toList, "./store".toList)] ]).map .ok :=
  parse_textsOfRuns _ (by decide +kernel) (by decide +kernel)

/-! ## Files that a run did not write -/

/-- Every file that is read can be rewritten.  The new file has the same
entries and is its own rewriting, unless a name of the old one is mistakable:
then the new file is refused, by reading and by every later run. -/
theorem mergeFixtureFile_rewriting {text : Text} {set : FixtureSet}
    (read : (FixtureSet.parse text).outcome = .ok set) :
    Exists fun next => (mergeFixtureFile (some text) []).outcome = .ok next ∧
      (set.Clear ->
        (FixtureSet.parse next).outcome = .ok set ∧
          (mergeFixtureFile (some next) []).outcome = .ok next) ∧
      (¬set.Clear -> Exists fun line => Exists fun content =>
        (FixtureSet.parse next).outcome = .error (.unrecognisedImport line content) ∧
          (mergeFixtureFile (some next) []).outcome =
            .error (.unrecognisedImport line content)) := by
  have carried := FixtureSet.carriedEntry_of_parse read
  have prior : priorEntries (some text) = .ok set := read
  refine ⟨set.render, ?_, ?_, ?_⟩
  · rw [outcome_mergeFixtureFile, prior]
    change Except.ok (set.merged []).render = _
    rw [FixtureSet.merged_nil]
  · intro clear
    have again := FixtureSet.parse_render carried clear
    have readBack : priorEntries (some set.render) = .ok set := again
    refine ⟨again, ?_⟩
    rw [outcome_mergeFixtureFile, readBack]
    change Except.ok (set.merged []).render = _
    rw [FixtureSet.merged_nil]
  · intro unclear
    obtain ⟨line, content, refused⟩ := FixtureSet.parse_render_of_mistakable carried unclear
    have readBack : priorEntries (some set.render) =
        .error (.unrecognisedImport line content) := refused
    refine ⟨line, content, refused, ?_⟩
    rw [outcome_mergeFixtureFile, readBack]
    rfl

theorem mergeFixtureFile_rewriting_of_hand_written_file :
    (FixtureSet.parse "import \x7bimportService\x7d from \"./i\"\nimport\t\x7b a \x7d from './a';".toList).outcome =
        .ok (Keyed.ofList [("importService".toList, "./i".toList), ("a".toList, "./a".toList)]) ∧
      Exists fun next =>
        (mergeFixtureFile (some "import \x7bimportService\x7d from \"./i\"\nimport\t\x7b a \x7d from './a';".toList)
          []).outcome = .ok next ∧
        (FixtureSet.parse next).outcome =
          .ok (Keyed.ofList [("importService".toList, "./i".toList), ("a".toList, "./a".toList)]) := by
  have read : (FixtureSet.parse
      "import \x7bimportService\x7d from \"./i\"\nimport\t\x7b a \x7d from './a';".toList).outcome =
      .ok (Keyed.ofList [("importService".toList, "./i".toList), ("a".toList, "./a".toList)]) := by
    decide +kernel
  rcases mergeFixtureFile_rewriting read with ⟨next, written, kept, _⟩
  exact ⟨read, next, written, (kept (by decide)).1⟩

/-- Rewriting can turn a file that is read into one that is refused. -/
theorem parse_not_stable_under_rewriting :
    ¬forall text set, (FixtureSet.parse text).outcome = .ok set ->
      Exists fun next => (mergeFixtureFile (some text) []).outcome = .ok next ∧
        (FixtureSet.parse next).outcome = .ok set ∧
          (mergeFixtureFile (some next) []).outcome = .ok next := by
  intro stable
  have read : (FixtureSet.parse "import \x7b Import x \x7d from './a';".toList).outcome =
      .ok (Keyed.ofList [("Import x".toList, "./a".toList)]) := by
    decide +kernel
  have written : (mergeFixtureFile (some "import \x7b Import x \x7d from './a';".toList) []).outcome =
      .ok (FixtureSet.render (Keyed.ofList [("Import x".toList, "./a".toList)])) := by
    decide +kernel
  have refused :
      (FixtureSet.parse (FixtureSet.render (Keyed.ofList [("Import x".toList, "./a".toList)]))).outcome =
        .error (.unrecognisedImport 5 "import x: Import x;".toList) := by
    decide +kernel
  rcases stable _ _ read with ⟨next, again, readBack, _⟩
  have same := Except.ok.inj (written.symm.trans again)
  rw [← same, refused] at readBack
  cases readBack

end ApiServices
