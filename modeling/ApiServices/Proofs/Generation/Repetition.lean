import ApiServices.Proofs.Fixture.Repetition
import ApiServices.Proofs.Generation.Failure
import ApiServices.Proofs.Generation.Standing
import ApiServices.Proofs.Generation.Success
import ApiServices.Proofs.Path.Between

namespace ApiServices
namespace Generation

/-!
# Running twice

A run that follows an equal run finds everything as it would leave it, and so it
changes nothing and reports the same services.  One thing can come in between:
the second run reads the fixture file that the first one wrote, and it fails if
the file cannot be read.  What the first run writes into it cannot be read when
an import path has a quote, and what it keeps cannot be read when the name of a
service looks like an import.  Nothing has to be read when the earlier entries
are not wanted.

Nothing is claimed of import paths with line feeds when there is something to
read.  Such a path is read as several lines, and these may say anything.
-/

/-! ## The entries of a run -/

section Entries

variable {testsDir outputDir extension : Text} {groups : Groups} {entry : Text × Text}

theorem carriedName_serviceName (tag : Text) : CarriedName (serviceName tag) where
  nonempty := by
    intro empty
    cases (List.append_eq_nil_iff.mp empty).2
  trimmed := by
    have plain : ∀ c ∈ serviceName tag, Text.isBlank c = false :=
      fun c member => (Bool.or_eq_false_iff.mp (isForeign_of_mem_serviceName tag c member)).1
    exact Text.trim_of_ends (fun c first => plain c (List.mem_of_head? first))
      fun c last => plain c (List.mem_of_getLast? last)
  unbraced := notMem_serviceName (by decide) tag
  single := notMem_serviceName (by decide) tag
  oneLine := notMem_serviceName (by decide) tag

/-- The name of no service looks like an import. -/
theorem mistakable_serviceName (tag : Text) : mistakable (serviceName tag) = false := by
  apply Bool.eq_false_iff.mpr
  intro wrong
  obtain ⟨first, next, rest, _, allowed, shape⟩ := (mistakable_eq_true_iff _).mp wrong
  have foreign : [' ', '\t', '{'].all isForeign = true := by decide
  apply notMem_serviceName (List.all_eq_true.mp foreign next allowed) tag
  rw [shape]
  simp

theorem head?_importPath (testsDir outputDir service extension : Text) :
    (Path.importPath testsDir outputDir service extension).head? = some '.' := by
  unfold Path.importPath
  rw [List.append_assoc, List.head?_append, Path.head?_between]
  rfl

theorem mem_fixtureEntries
    (member : entry ∈ fixtureEntries testsDir outputDir extension groups.allServices) :
    Exists fun tag => entry =
      (serviceName tag, Path.importPath testsDir outputDir (serviceName tag) extension) := by
  rw [fixtureEntries_allServices] at member
  obtain ⟨name, named, same⟩ := List.mem_map.mp member
  obtain ⟨tag, _, derived⟩ := List.mem_map.mp named
  exact ⟨tag, by rw [← same, ← derived]⟩

theorem functional_fixtureEntries :
    ∀ entry ∈ fixtureEntries testsDir outputDir extension groups.allServices,
      ∀ other ∈ fixtureEntries testsDir outputDir extension groups.allServices,
        entry.1 = other.1 -> entry = other := by
  intro entry member other among same
  obtain ⟨tag, shape⟩ := mem_fixtureEntries member
  obtain ⟨otherTag, otherShape⟩ := mem_fixtureEntries among
  rw [shape, otherShape] at same ⊢
  rw [show serviceName tag = serviceName otherTag from same]

theorem mistakable_fixtureEntries :
    ∀ entry ∈ fixtureEntries testsDir outputDir extension groups.allServices,
      mistakable entry.1 = false := by
  intro entry member
  obtain ⟨tag, shape⟩ := mem_fixtureEntries member
  rw [shape]
  exact mistakable_serviceName tag

/-- The fixture file can carry the entries of a run, but for quotes and line
feeds in their paths. -/
theorem placed_fixtureEntries
    (member : entry ∈ fixtureEntries testsDir outputDir extension groups.allServices)
    (oneLine : '\n' ∉ entry.2) : FixtureSet.PlacedEntry entry := by
  obtain ⟨tag, shape⟩ := mem_fixtureEntries member
  have dotted : entry.2.head? = some '.' := by
    rw [shape]
    exact head?_importPath testsDir outputDir (serviceName tag) extension
  refine ⟨⟨?_, oneLine⟩, ?_, ?_⟩
  · rw [shape]
    exact carriedName_serviceName tag
  · intro empty
    rw [empty] at dotted
    cases dotted
  · intro own
    rw [own] at dotted
    cases dotted

end Entries

/-- What makes the fixture file of a run readable for an equal run: the paths
that the run imports from have no quotes and no line feeds, and no service of
the former file looks like an import. -/
structure Rereadable (entries : List (Text × Text)) (former : Option DiskEntry) : Prop where
  unquoted : ∀ entry ∈ entries, ∀ c ∈ entry.2, FixtureImport.isQuote c = false
  oneLine : ∀ entry ∈ entries, '\n' ∉ entry.2
  clear : forall set, priorEntries (priorText true former) = .ok set -> set.Clear

section Merging

variable {testsDir outputDir extension : Text} {groups : Groups} {former : Option DiskEntry}
  {next : Text}

theorem priorText_render (set : FixtureSet) :
    priorText true (some (.file (.text set.render))) = some set.render := by
  have filled : (Text.trim set.render).isEmpty = false := by
    simpa using FixtureSet.trim_render_ne_nil set
  simp only [priorText, filled, Bool.not_false, Bool.and_self, if_true]

theorem faithful_of_rereadable {set : FixtureSet}
    (prior : priorEntries (priorText true former) = .ok set)
    (rereadable : Rereadable (fixtureEntries testsDir outputDir extension groups.allServices)
      former) :
    (set.merged (fixtureEntries testsDir outputDir extension groups.allServices)).Faithful := by
  have earlier : set.Faithful := ⟨carriedEntry_of_priorEntries prior, rereadable.clear set prior⟩
  refine earlier.merged ?_ mistakable_fixtureEntries
  intro entry member
  exact (placed_fixtureEntries member (rereadable.oneLine entry member)).carried
    (rereadable.unquoted entry member)

theorem rereadable_of_faithful {set : FixtureSet}
    (prior : priorEntries (priorText true former) = .ok set)
    (faithful : (set.merged
      (fixtureEntries testsDir outputDir extension groups.allServices)).Faithful) :
    Rereadable (fixtureEntries testsDir outputDir extension groups.allServices) former := by
  have carried : ∀ entry ∈ fixtureEntries testsDir outputDir extension groups.allServices,
      CarriedEntry entry :=
    fun entry member => faithful.carried entry
      (FixtureSet.mem_entries_merged_of_mem functional_fixtureEntries member)
  refine ⟨fun entry member => (carried entry member).path.unquoted,
    fun entry member => (carried entry member).path.oneLine, ?_⟩
  intro other same
  rw [← Except.ok.inj (prior.symm.trans same)]
  exact (FixtureSet.clear_merged_iff mistakable_fixtureEntries).mp faithful.clear

/-- Merging once more into what merging gave gives the same text, where nothing
has to be read or the text can be read. -/
theorem merging_again {merge : Bool}
    (merged : (mergeFixtureFile (priorText merge former)
      (fixtureEntries testsDir outputDir extension groups.allServices)).outcome = .ok next)
    (rereadable : merge = true ->
      Rereadable (fixtureEntries testsDir outputDir extension groups.allServices) former) :
    (mergeFixtureFile (priorText merge (some (.file (.text next))))
      (fixtureEntries testsDir outputDir extension groups.allServices)).outcome = .ok next := by
  cases merge with
  | false => rwa [priorText_false] at merged ⊢
  | true =>
    rw [outcome_mergeFixtureFile] at merged
    cases prior : priorEntries (priorText true former) with
    | error error =>
      rw [prior] at merged
      cases merged
    | ok set =>
      rw [prior] at merged
      rw [← show _ = next from Except.ok.inj merged, priorText_render]
      exact mergeFixtureFile_again (faithful_of_rereadable prior (rereadable rfl))

/-- Where the text cannot be read it is refused. -/
theorem merging_again_refused
    (merged : (mergeFixtureFile (priorText true former)
      (fixtureEntries testsDir outputDir extension groups.allServices)).outcome = .ok next)
    (oneLine : ∀ entry ∈ fixtureEntries testsDir outputDir extension groups.allServices,
      '\n' ∉ entry.2)
    (unreadable :
      ¬Rereadable (fixtureEntries testsDir outputDir extension groups.allServices) former) :
    Exists fun cause => (mergeFixtureFile (priorText true (some (.file (.text next))))
      (fixtureEntries testsDir outputDir extension groups.allServices)).outcome =
        .error cause := by
  rw [outcome_mergeFixtureFile] at merged
  cases prior : priorEntries (priorText true former) with
  | error error =>
    rw [prior] at merged
    cases merged
  | ok set =>
    rw [prior] at merged
    rw [← show _ = next from Except.ok.inj merged, priorText_render]
    refine mergeFixtureFile_again_of_not_faithful ?_
      fun faithful => unreadable (rereadable_of_faithful prior faithful)
    intro entry member
    rcases FixtureSet.mem_entries_merged member with kept | added
    · exact FixtureSet.placed_of_carried (carriedEntry_of_priorEntries prior entry kept)
    · exact placed_fixtureEntries added (oneLine entry added)

end Merging

/-! ## The second run -/

/-- What stands after a run that has succeeded. -/
structure Settled (outputDir testsDir : Text) (options : GenerationOptions) (groups : Groups)
    (tree left : FileTree) : Prop where
  prepared : Prepared outputDir testsDir groups.allServices left
  file : left.HasFile (Path.join testsDir fixtureFileName)
  fixture : Exists fun next =>
    (mergeFixtureFile (priorText options.merge (tree.get? (fixturePlace testsDir)))
      (fixtureEntries testsDir outputDir options.importExtension groups.allServices)).outcome =
        .ok next ∧
      left.get? (fixturePlace testsDir) = some (.file (.text next))
  starter : options.skeleton = true -> left.isTaken (Path.join testsDir skeletonFileName) = true

section Second

variable {tree left : FileTree} {asked : List Request} {workingDirectory outputDir testsDir : Text}
  {options : GenerationOptions} {spec : Spec} {groups : Groups} {report : GenerationReport}

theorem settled_of_writeAll
    (execution : Execution tree (writeAll outputDir testsDir options groups.allServices) asked left
      (.ok report)) :
    Settled outputDir testsDir options groups tree left ∧
      report.services = groups.allServices.map Service.name := by
  rw [writeAll_eq] at execution
  rcases Execution.of_bind_ok execution with ⟨ready, _, _, _, _, preparing, rest⟩
  rcases Execution.of_bind_ok rest with ⟨updated, _, _, _, _, updating, finishing⟩
  rcases of_updateFixtureFile updating with ⟨_, impossible, _⟩ | rewritten
  · cases impossible
  have preparation := (confined_prepare _ _ _ _ _ _ _ preparing).1
  have ending := (confined_finish _ _ _ _ _ _ _ _ finishing).1
  have update : Changes nowhere (· = fixturePlace testsDir) ready updated :=
    place_fixture testsDir ▸ rewritten.changes
  have prepared := (prepared_of_prepare preparing).of_changes update
    fun place written same => fixturePlace_notMem_servicePlaces outputDir testsDir groups (same ▸ written)
  rcases of_finish finishing with ⟨_, _, named, _⟩
  refine ⟨?_, named⟩
  exact
    { prepared := prepared.of_changes ending fun place written same =>
        skeletonPlace_notMem_servicePlaces outputDir testsDir groups (same ▸ written)
      file := (hasFile_of_updateFixtureFile updating).of_changes ending
      fixture := rewritten.fixture preparation ending
      starter := fun wanted => isTaken_of_finish wanted finishing }

theorem ends_writeAll {next : Text} (settled : Settled outputDir testsDir options groups tree left)
    (here : left.get? (fixturePlace testsDir) = some (.file (.text next)))
    (same : (mergeFixtureFile (priorText options.merge (some (.file (.text next))))
      (fixtureEntries testsDir outputDir options.importExtension groups.allServices)).outcome =
        .ok next) :
    Ends left (writeAll outputDir testsDir options groups.allServices) left
      (.ok ⟨groups.allServices.map Service.name,
        groups.allServices.map (servicePath outputDir) ++ [Path.join testsDir fixtureFileName]⟩) := by
  rw [← place_fixture] at here
  rw [writeAll_eq]
  exact (ends_prepare settled.prepared).bind
    ((ends_updateFixtureFile settled.file.openFile (ends_renewFixtureFile settled.file here same)).bind
      (ends_finish settled.starter))

theorem ends_writeAll_of_refused {next : Text} {cause : FixtureError}
    (settled : Settled outputDir testsDir options groups tree left)
    (here : left.get? (fixturePlace testsDir) = some (.file (.text next)))
    (refused : (mergeFixtureFile (priorText options.merge (some (.file (.text next))))
      (fixtureEntries testsDir outputDir options.importExtension groups.allServices)).outcome =
        .error cause) :
    Ends left (writeAll outputDir testsDir options groups.allServices) left
      (.error (.malformedFixture cause)) := by
  rw [← place_fixture] at here
  rw [writeAll_eq]
  exact (ends_prepare settled.prepared).bind
    (ends_updateFixtureFile settled.file.openFile
      (ends_renewFixtureFile_of_refused settled.file here refused)).bind_error

theorem ends_emission (tree : FileTree) (groups : Groups) (strict : Bool) :
    Ends tree
      (Program.ofLogged ((Groups.services groups strict).mapError GenerationError.ambiguousName))
      tree ((Groups.services groups strict).outcome.mapError .ambiguousName) :=
  Ends.ofLogged tree _

/-- If a run succeeds its services can be emitted, and this does not depend on
the tree. -/
theorem emitted_of_run
    (succeeded : ((generate workingDirectory options spec).run tree).2.outcome = .ok report) :
    (Groups.services spec.groups options.strict).outcome = .ok spec.groups.allServices := by
  cases emitted : (Groups.services spec.groups options.strict).outcome with
  | ok services => rw [Groups.eq_allServices_of_services emitted]
  | error error =>
    have emission := ends_emission tree spec.groups options.strict
    rw [emitted] at emission
    have failed : Ends tree (generate workingDirectory options spec) tree
        (.error (.ambiguousName error)) :=
      (Ends.ofLogged tree spec.group).bind emission.bind_error
    rw [failed.outcome] at succeeded
    cases succeeded

/-- A run whose services can be emitted ends as it does from the naming of its
directories on. -/
theorem ends_generate_of_emitted {outcome : Except GenerationError GenerationReport}
    (emitted : (Groups.services spec.groups options.strict).outcome = .ok spec.groups.allServices)
    (remaining : Ends tree
      (absolute workingDirectory options.outputDir >>= fun outputDir =>
        absolute workingDirectory options.testsDir >>= fun testsDir =>
          writeAll outputDir testsDir options spec.groups.allServices) left outcome) :
    Ends tree (generate workingDirectory options spec) left outcome := by
  have emission := ends_emission tree spec.groups options.strict
  rw [emitted] at emission
  rcases Ends.of_silent (silent_warnOfRepeats [] spec.groups.allServices) with ⟨_, same, warning⟩
  rw [same] at warning
  exact (Ends.ofLogged tree spec.group).bind (emission.bind (warning.bind remaining))

theorem ends_absolute {path found : Text} (tree : FileTree)
    (seen : Path.absolute? workingDirectory path = some found) :
    Ends tree (absolute workingDirectory path) tree (.ok found) := by
  unfold absolute
  rw [seen]
  exact Ends.done tree (.ok found)

/-- A run ends as its writing does. -/
theorem ends_generate {outcome : Except GenerationError GenerationReport}
    (emitted : (Groups.services spec.groups options.strict).outcome = .ok spec.groups.allServices)
    (output : Path.absolute? workingDirectory options.outputDir = some outputDir)
    (tests : Path.absolute? workingDirectory options.testsDir = some testsDir)
    (writing : Ends tree (writeAll outputDir testsDir options spec.groups.allServices) left outcome) :
    Ends tree (generate workingDirectory options spec) left outcome :=
  ends_generate_of_emitted emitted
    ((ends_absolute tree output).bind ((ends_absolute tree tests).bind writing))

end Second

/-- A second run leaves the tree as the first one left it.  It reports the same
services if it can read the fixture file, or need not.  Otherwise it is refused,
provided that all import paths are on one line. -/
theorem run_again {tree : FileTree} {workingDirectory outputDir testsDir : Text}
    {options : GenerationOptions} {spec : Spec} {report : GenerationReport}
    (succeeded : ((generate workingDirectory options spec).run tree).2.outcome = .ok report)
    (output : Path.absolute? workingDirectory options.outputDir = some outputDir)
    (tests : Path.absolute? workingDirectory options.testsDir = some testsDir) :
    let left := ((generate workingDirectory options spec).run tree).1
    let entries := fixtureEntries testsDir outputDir options.importExtension spec.groups.allServices
    ((options.merge = true -> Rereadable entries (tree.get? (fixturePlace testsDir))) ->
      Ends left (generate workingDirectory options spec) left
        (.ok ⟨report.services, spec.groups.allServices.map (servicePath outputDir) ++
          [Path.join testsDir fixtureFileName]⟩)) ∧
    (options.merge = true -> ¬Rereadable entries (tree.get? (fixturePlace testsDir)) ->
      (∀ entry ∈ entries, '\n' ∉ entry.2) -> Exists fun cause =>
        Ends left (generate workingDirectory options spec) left
          (.error (.malformedFixture cause))) := by
  dsimp only
  have emitted := emitted_of_run succeeded
  have execution := Execution.run tree (generate workingDirectory options spec)
  rw [succeeded] at execution
  rcases of_generate execution with ⟨_, _, _, impossible, _⟩ |
    ⟨outputDir', testsDir', output', tests', writing⟩
  · cases impossible
  rw [← Option.some.inj (output.symm.trans output'),
    ← Option.some.inj (tests.symm.trans tests')] at writing
  rcases settled_of_writeAll writing with ⟨settled, named⟩
  rcases settled.fixture with ⟨next, merged, here⟩
  constructor
  · intro rereadable
    rw [named]
    exact ends_generate emitted output tests
      (ends_writeAll settled here (merging_again merged rereadable))
  · intro merge unreadable oneLine
    rw [merge] at merged
    rcases merging_again_refused merged oneLine unreadable with ⟨cause, refused⟩
    rw [← merge] at refused
    exact ⟨cause, ends_generate emitted output tests
      (ends_writeAll_of_refused settled here refused)⟩

/-- A file that was written by hand stays as the first run left it, though two
tags share a service and both directories are one. -/
theorem run_again_of_collidingSpec :
    Ends ((generate "/w".toList oneDirectory collidingSpec).run handWrittenTree).1
      (generate "/w".toList oneDirectory collidingSpec)
      ((generate "/w".toList oneDirectory collidingSpec).run handWrittenTree).1
      (.ok ⟨["petStoreService".toList, "petStoreService".toList],
        ["/w/t/petStoreService.ts".toList, "/w/t/petStoreService.ts".toList,
          "/w/t/../t/base.ts".toList]⟩) := by
  have succeeded :
      ((generate "/w".toList oneDirectory collidingSpec).run handWrittenTree).2.outcome =
        .ok ⟨["petStoreService".toList, "petStoreService".toList],
          ["/w/t/petStoreService.ts".toList, "/w/t/petStoreService.ts".toList,
            "/w/t/../t/base.ts".toList, "/w/t/../t/skeleton-test.ts".toList]⟩ := by
    decide +kernel
  have prior : priorEntries (priorText true
      (handWrittenTree.get? (fixturePlace "/w/t/../t".toList))) =
        .ok (Keyed.ofList [("users".toList, "./users".toList)]) := by
    decide +kernel
  have twice := (run_again succeeded (show _ = some "/w/t".toList by decide +kernel)
    (show _ = some "/w/t/../t".toList by decide +kernel)).1
  apply twice
  intro _
  refine ⟨?_, by decide +kernel, ?_⟩
  · intro entry member
    apply unquoted_iff.mp
    revert entry
    decide +kernel
  · intro set same
    rw [← Except.ok.inj (prior.symm.trans same)]
    decide +kernel

/-- With an apostrophe in the output directory, the second run is refused. -/
theorem run_not_always_repeatable :
    ¬forall tree workingDirectory options spec report,
      ((generate workingDirectory options spec).run tree).2.outcome = .ok report ->
      Exists fun second =>
        ((generate workingDirectory options spec).run
            ((generate workingDirectory options spec).run tree).1).2.outcome = .ok second ∧
          second.services = report.services ∧
          forall place, ((generate workingDirectory options spec).run
              ((generate workingDirectory options spec).run tree).1).1.get? place =
            ((generate workingDirectory options spec).run tree).1.get? place := by
  intro repeatable
  have succeeded :
      ((generate "/w".toList (twoDirectories "it's".toList) petSpec).run FileTree.bare).2.outcome =
        .ok ⟨["petService".toList],
          ["/w/it's/petService.ts".toList, "/w/tests/base.ts".toList,
            "/w/tests/skeleton-test.ts".toList]⟩ := by
    decide +kernel
  have refused :
      ((generate "/w".toList (twoDirectories "it's".toList) petSpec).run
        ((generate "/w".toList (twoDirectories "it's".toList) petSpec).run
          FileTree.bare).1).2.outcome =
        .error (.malformedFixture (.unrecognisedImport 2
          "import \x7b petService \x7d from '../it's/petService.js';".toList)) := by
    decide +kernel
  rcases repeatable _ _ _ _ _ succeeded with ⟨second, again, _⟩
  rw [refused] at again
  cases again

end Generation
end ApiServices
