import ApiServices.Proofs.Disk.Agreement
import ApiServices.Proofs.Generation.Repetition

namespace ApiServices
namespace Generation

/-!
# Runs that do not merge

A run that does not merge has no use for the former fixture file, and what the
file says has no influence on it: the outcome is the same and the disk is left
the same, whether the file was missing, was refused by others or could have been
merged.

The file is read all the same, and this fails when its bytes are no text.  So a
run can fail because of a file that it was to overwrite.
-/

/-! ## What may have an influence -/

/-- Anything but a file whose bytes are no text. -/
def Readable (entry : Option DiskEntry) : Prop :=
  forall bytes, entry ≠ some (.file (.binary bytes))

/-- Two trees that are the same but for the fixture file, which either of them
may lack. -/
structure SameButFixture (testsDir : Text) (tree other : FileTree) : Prop where
  elsewhere : forall place, place ≠ fixturePlace testsDir -> tree.get? place = other.get? place
  noDirectory : tree.get? (fixturePlace testsDir) ≠ some .directory ∧
    other.get? (fixturePlace testsDir) ≠ some .directory

/-- Whether both trees have the fixture file or both lack it. -/
def BothHaveFixture (testsDir : Text) (tree other : FileTree) : Prop :=
  tree.get? (fixturePlace testsDir) = none ↔ other.get? (fixturePlace testsDir) = none

/-- What a former fixture file means for a run that does not merge, on two trees
that differ in this file only. -/
structure Unaffected (outputDir testsDir : Text) (options : GenerationOptions) (groups : Groups)
    (tree other : FileTree) (program : Action GenerationReport) : Prop where
  /-- If the file can be read in both trees or in none, the two runs come to the
  same.  When the way to a directory leads through the place of the file, it
  must not be missing in one tree only. -/
  alike : (Readable (tree.get? (fixturePlace testsDir)) ↔
      Readable (other.get? (fixturePlace testsDir))) ->
    (BothHaveFixture testsDir tree other ∨ ¬runDirs outputDir testsDir (fixturePlace testsDir)) ->
    (program.run tree).2.outcome = (program.run other).2.outcome ∧
      forall report, (program.run tree).2.outcome = .ok report ->
        forall place, (program.run tree).1.get? place = (program.run other).1.get? place
  /-- With such a way no run succeeds anyway. -/
  led : runDirs outputDir testsDir (fixturePlace testsDir) ->
    (forall report, (program.run tree).2.outcome ≠ .ok report) ∧
      forall report, (program.run other).2.outcome ≠ .ok report
  /-- A run that succeeds leaves the entries of the run and no others. -/
  anew : forall report, (program.run tree).2.outcome = .ok report ->
    (program.run tree).1.get? (fixturePlace testsDir) =
      some (.file (.text (FixtureSet.render (Keyed.ofList
        (fixtureEntries testsDir outputDir options.importExtension groups.allServices)))))
  /-- Where the file is no text, a run fails that would have succeeded. -/
  unread : Readable (tree.get? (fixturePlace testsDir)) ->
    ¬Readable (other.get? (fixturePlace testsDir)) ->
    forall report, (program.run tree).2.outcome = .ok report ->
      (program.run other).2.outcome =
        .error (.disk (Path.join testsDir fixtureFileName) .notText)

/-! ## The update on one tree -/

section Update

variable {tree opened : FileTree} {path : Text} {entries : List (Text × Text)} {merge : Bool}

theorem outcome_mergeFixtureFile_none (entries : List (Text × Text)) :
    (mergeFixtureFile none entries).outcome = .ok (FixtureSet.render (Keyed.ofList entries)) := by
  rw [outcome_mergeFixtureFile]
  rfl

theorem ends_demand_refused {change : Change} {cause : DiskError}
    (refused : tree.carryOut change = (tree, .error cause)) :
    Ends tree (demand path change) tree (.error (.disk path cause)) := by
  refine Ends.bind (Ends.perform tree (.change change)) ?_
  change Ends (tree.carryOut change).1 (require path (tree.carryOut change).2) tree _
  rw [refused]
  exact Ends.done tree _

/-- A file that cannot be opened ends the update. -/
theorem ends_updateFixtureFile_of_unopened {cause : DiskError}
    (refused : tree.openFile path = .error cause) :
    Ends tree (updateFixtureFile path entries merge) tree (.error (.disk path cause)) := by
  have carried : tree.carryOut (.openFile path) = (tree, .error cause) := by
    change tree.changed (tree.openFile path) = _
    rw [refused]
    rfl
  exact (ends_demand_refused carried).bind_error

/-- An opened file whose bytes are no text ends the update too. -/
theorem ends_updateFixtureFile_of_unreadable (opening : tree.openFile path = .ok opened)
    (unreadable : ¬Readable (tree.get? (Path.place path))) :
    Ends tree (updateFixtureFile path entries merge) tree (.error (.disk path .notText)) := by
  rcases not_forall_not.mp unreadable with ⟨bytes, here⟩
  rcases FileTree.get?_of_openFile opening with ⟨absent, _⟩ | ⟨same, _⟩
  · rw [absent] at here
    cases here
  · have standing := FileTree.hasFile_of_openFile opening
    rw [same] at standing opening
    refine ends_updateFixtureFile opening ?_
    refine Ends.bind (Ends.perform tree (.read path)) ?_
    change Ends tree (require path (tree.read path) >>= _) tree _
    rw [standing.read here]
    exact (Ends.done tree _).bind_error

/-- Without merging an opened text is overwritten, and nothing else changes. -/
theorem ends_updateFixtureFile_anew (opening : tree.openFile path = .ok opened)
    (readable : Readable (tree.get? (Path.place path))) :
    Exists fun left => Ends tree (updateFixtureFile path entries false) left (.ok ()) ∧
      forall place, left.get? place =
        if place = Path.place path then
          some (.file (.text (FixtureSet.render (Keyed.ofList entries))))
        else tree.get? place := by
  have former : Exists fun text => opened.get? (Path.place path) = some (.file (.text text)) := by
    rcases FileTree.get?_of_openFile opening with ⟨_, here⟩ | ⟨same, content, here⟩
    · exact ⟨[], here⟩
    · cases content with
      | text text => exact ⟨text, same ▸ here⟩
      | binary bytes => exact absurd here (readable bytes)
  rcases former with ⟨text, here⟩
  have standing := FileTree.hasFile_of_openFile opening
  have merging := ends_nextFixtureText opened path entries false text
  rw [priorText_false, outcome_mergeFixtureFile_none] at merging
  have renewing : Ends opened (renewFixtureFile path entries false) _ (.ok ()) :=
    ends_of_read standing here (merging.bind (ends_refill standing _))
  refine ⟨_, ends_updateFixtureFile opening renewing, ?_⟩
  have below : Path.place path ≠ [] := by
    apply FileTree.ne_root_of_get?
    rw [here]
    exact fun same => nomatch same
  intro place
  rw [FileTree.get?_put _ _ _ _ below]
  split
  · rfl
  · next apart =>
    rw [FileTree.get?_put _ _ _ _ below, if_neg apart,
      FileTree.get?_of_openFile_of_ne opening apart]

end Update

/-! ## The stages on two trees -/

section Stages

variable {place : Place} {alike : Prop} {path : Text} {outputDir testsDir : Text}
  {options : GenerationOptions} {groups : Groups} {tree other : FileTree}
  {before : FileTree -> FileTree -> Prop}

theorem indifferent_require {α : Type} (path : Text) (reply : Except DiskError α) :
    Indifferent before before (require path reply) := by
  cases reply <;> exact indifferent_done _

theorem indifferent_demand {change : Change} (clear : alike ∨ ¬Path.OnWay change.path place) :
    Indifferent (Agree place alike) (Agree place alike) (demand path change) :=
  (indifferent_change clear).bind fun reply => indifferent_require path reply

theorem indifferent_info (message : Text) : Indifferent before before (info message) :=
  (indifferent_done (.ok ())).note _

/-- No service file is the fixture file, so writing one comes through its place
only on the way to the output directory. -/
theorem onWay_of_servicePath {service : Service} (member : service ∈ groups.allServices)
    (passed : Path.OnWay (servicePath outputDir service) (fixturePlace testsDir)) :
    Path.OnWay outputDir (fixturePlace testsDir) := by
  rcases List.mem_map.mp member with ⟨⟨tag, operations⟩, _, made⟩
  rw [← made] at passed
  rcases Path.onWay_of_join (plainName_tagFileName tag) passed with earlier | last
  · exact earlier
  · exact absurd last.symm (children_of_tags outputDir testsDir tag).2.1

/-- The preparations of a run do not come through the place of the fixture file
unless the way to a directory does. -/
theorem indifferent_prepare (groups : Groups)
    (clear : alike ∨ ¬runDirs outputDir testsDir (fixturePlace testsDir)) :
    Indifferent (Agree (fixturePlace testsDir) alike) (Agree (fixturePlace testsDir) alike)
      (prepare outputDir testsDir groups.allServices) := by
  have clearOutput : alike ∨ ¬Path.OnWay outputDir (fixturePlace testsDir) :=
    clear.imp_right fun off passed => off (Or.inl passed)
  have clearTests : alike ∨ ¬Path.OnWay testsDir (fixturePlace testsDir) :=
    clear.imp_right fun off passed => off (Or.inr passed)
  refine (indifferent_demand clearOutput).bind fun _ => Indifferent.bind ?_ fun _ =>
    indifferent_demand clearTests
  apply indifferent_forM
  intro service member
  refine Indifferent.bind (indifferent_demand ?_) fun _ => indifferent_info _
  exact clearOutput.imp_right fun off passed => off (onWay_of_servicePath member passed)

/-- On trees that agree everywhere a run ends alike. -/
theorem indifferent_finish :
    Indifferent (Agree [] True) (Agree [] True)
      (finish outputDir testsDir options groups.allServices) := by
  have starting : Indifferent (Agree [] True) (Agree [] True) (startTest testsDir options) := by
    unfold startTest
    cases options.skeleton with
    | false => exact indifferent_done (.ok [])
    | true =>
      refine Indifferent.bind (indifferent_isTaken (Or.inl trivial)) fun taken => ?_
      cases taken with
      | true => exact (indifferent_done (.ok [])).note _
      | false => exact (indifferent_demand (Or.inl trivial)).bind fun _ => indifferent_done _
  exact (indifferent_info _).bind fun _ => starting.bind fun _ => indifferent_done _

/-- Trees that are the same but for the file at the end of a path, and allow or
refuse a file there together. -/
structure SameButFile (path : Text) (tree other : FileTree) : Prop where
  elsewhere : forall place, place ≠ Path.place path -> tree.get? place = other.get? place
  located : tree.locate path = other.locate path
  blocked : tree.get? (Path.place path) = some .directory ↔
    other.get? (Path.place path) = some .directory

/-- Two runs that fail alike have the same outcome, and no tree to compare. -/
theorem same_of_failures {α : Type} {program : Action α} {left otherLeft : FileTree}
    {error : GenerationError} (failed : Ends tree program left (.error error))
    (otherFailed : Ends other program otherLeft (.error error)) :
    (program.run tree).2.outcome = (program.run other).2.outcome ∧
      forall a, (program.run tree).2.outcome = .ok a ->
        before (program.run tree).1 (program.run other).1 := by
  rw [failed.outcome, otherFailed.outcome]
  exact ⟨rfl, fun _ impossible => nomatch impossible⟩

/-- Once the fixture file is overwritten, nothing is left of what was different. -/
theorem indifferent_updateFixtureFile (entries : List (Text × Text)) :
    Indifferent
      (fun tree other => SameButFile path tree other ∧
        (Readable (tree.get? (Path.place path)) ↔ Readable (other.get? (Path.place path))))
      (Agree [] True) (updateFixtureFile path entries false) := by
  rintro tree other ⟨same, readable_iff⟩
  rcases FileTree.openFile_both same.located same.blocked with ⟨cause, refused, otherRefused⟩ |
    ⟨opened, otherOpened, opening, otherOpening⟩
  · exact same_of_failures (ends_updateFixtureFile_of_unopened refused)
      (ends_updateFixtureFile_of_unopened otherRefused)
  by_cases readable : Readable (tree.get? (Path.place path))
  · rcases ends_updateFixtureFile_anew opening readable with ⟨left, ends, holds⟩
    obtain ⟨otherLeft, otherEnds, otherHolds⟩ :=
      ends_updateFixtureFile_anew otherOpening (readable_iff.mp readable)
    rw [ends.outcome, otherEnds.outcome, ends.left, otherEnds.left]
    refine ⟨rfl, fun _ _ => ⟨?_, fun _ => SameKind.directories⟩⟩
    intro place _
    rw [holds, otherHolds]
    split
    · rfl
    · next apart => exact same.elsewhere place apart
  · exact same_of_failures (ends_updateFixtureFile_of_unreadable opening readable)
      (ends_updateFixtureFile_of_unreadable otherOpening (mt readable_iff.mpr readable))

end Stages

/-! ## Both runs -/

section Runs

variable {outputDir testsDir : Text} {options : GenerationOptions} {groups : Groups}
  {tree other : FileTree} {report : GenerationReport}

/-- The preparations leave the fixture file as it is, but a directory can be made
where none was. -/
theorem fixture_of_prepare (tree : FileTree) (outputDir testsDir : Text) (groups : Groups) :
    ((prepare outputDir testsDir groups.allServices).run tree).1.get? (fixturePlace testsDir) =
        tree.get? (fixturePlace testsDir) ∨
      (runDirs outputDir testsDir (fixturePlace testsDir) ∧
        tree.get? (fixturePlace testsDir) = none ∧
        ((prepare outputDir testsDir groups.allServices).run tree).1.get? (fixturePlace testsDir) =
          some .directory) :=
  (confined_prepare _ _ _ _ _ _ _ (Execution.run tree _)).1.kept_or_made
    (fixturePlace_notMem_servicePlaces outputDir testsDir groups)

theorem readable_of_prepare (tree : FileTree) (outputDir testsDir : Text) (groups : Groups) :
    Readable (((prepare outputDir testsDir groups.allServices).run tree).1.get?
        (fixturePlace testsDir)) ↔ Readable (tree.get? (fixturePlace testsDir)) := by
  rcases fixture_of_prepare tree outputDir testsDir groups with same | ⟨_, absent, directory⟩
  · rw [same]
  · rw [absent, directory]
    exact iff_of_true (fun _ impossible => nomatch impossible)
      (fun _ impossible => nomatch impossible)

theorem SameButFixture.agree (same : SameButFixture testsDir tree other) :
    Agree (fixturePlace testsDir) (BothHaveFixture testsDir tree other) tree other where
  elsewhere := same.elsewhere
  kind := by
    intro both
    rcases same.noDirectory with ⟨notHere, notThere⟩
    unfold BothHaveFixture at both
    generalize tree.get? (fixturePlace testsDir) = entry at *
    generalize other.get? (fixturePlace testsDir) = otherEntry at *
    rcases entry with _ | _ | content
    · rw [both.mp rfl]
      exact SameKind.nothing
    · exact absurd rfl notHere
    · rcases otherEntry with _ | _ | otherContent
      · cases both.mpr rfl
      · exact absurd rfl notThere
      · exact SameKind.files content otherContent

/-- After the preparations the trees still differ in the fixture file alone, if
these have succeeded alike. -/
theorem sameButFile_of_prepare (same : SameButFixture testsDir tree other)
    (clear : BothHaveFixture testsDir tree other ∨
      ¬runDirs outputDir testsDir (fixturePlace testsDir))
    (agree : Agree (fixturePlace testsDir) (BothHaveFixture testsDir tree other)
      ((prepare outputDir testsDir groups.allServices).run tree).1
      ((prepare outputDir testsDir groups.allServices).run other).1) :
    SameButFile (Path.join testsDir fixtureFileName)
      ((prepare outputDir testsDir groups.allServices).run tree).1
      ((prepare outputDir testsDir groups.allServices).run other).1 where
  elsewhere := by
    rw [place_fixture]
    exact agree.elsewhere
  located := by
    apply agree.locate_eq
    intro count
    rw [Path.parts_join plainName_fixtureFileName, List.dropLast_concat]
    exact clear.imp_right fun off passed => off (Or.inr ⟨count, passed.symm⟩)
  blocked := by
    rw [place_fixture]
    rcases clear with both | off
    · exact (agree.kind both).directory_iff
    · have kept : forall tree : FileTree,
          ((prepare outputDir testsDir groups.allServices).run tree).1.get?
            (fixturePlace testsDir) = tree.get? (fixturePlace testsDir) := fun tree =>
        (fixture_of_prepare tree outputDir testsDir groups).resolve_right fun made => off made.1
      rw [kept, kept]
      exact iff_of_false same.noDirectory.1 same.noDirectory.2

/-- What the preparations come to on two trees, and what they leave. -/
theorem prepare_alike (groups : Groups) (same : SameButFixture testsDir tree other)
    (clear : BothHaveFixture testsDir tree other ∨
      ¬runDirs outputDir testsDir (fixturePlace testsDir)) :
    ((prepare outputDir testsDir groups.allServices).run tree).2.outcome =
        ((prepare outputDir testsDir groups.allServices).run other).2.outcome ∧
      (((prepare outputDir testsDir groups.allServices).run tree).2.outcome = .ok () ->
        SameButFile (Path.join testsDir fixtureFileName)
          ((prepare outputDir testsDir groups.allServices).run tree).1
          ((prepare outputDir testsDir groups.allServices).run other).1) := by
  rcases indifferent_prepare groups clear tree other same.agree with ⟨sameOutcome, after⟩
  exact ⟨sameOutcome, fun prepared => sameButFile_of_prepare same clear (after () prepared)⟩

/-- If the fixture file can be read in both trees or in none, it has no
influence. -/
theorem writeAll_alike (unmerged : options.merge = false)
    (same : SameButFixture testsDir tree other)
    (clear : BothHaveFixture testsDir tree other ∨
      ¬runDirs outputDir testsDir (fixturePlace testsDir))
    (readable_iff : Readable (tree.get? (fixturePlace testsDir)) ↔
      Readable (other.get? (fixturePlace testsDir))) :
    ((writeAll outputDir testsDir options groups.allServices).run tree).2.outcome =
        ((writeAll outputDir testsDir options groups.allServices).run other).2.outcome ∧
      forall report,
        ((writeAll outputDir testsDir options groups.allServices).run tree).2.outcome =
            .ok report ->
          Agree [] True ((writeAll outputDir testsDir options groups.allServices).run tree).1
            ((writeAll outputDir testsDir options groups.allServices).run other).1 := by
  rcases prepare_alike groups same clear with ⟨sameOutcome, after⟩
  rw [writeAll_eq, unmerged, Program.run_bind, Program.run_bind, Program.followedBy,
    Program.followedBy, ← sameOutcome]
  cases reached : ((prepare outputDir testsDir groups.allServices).run tree).2.outcome with
  | error error => exact ⟨rfl, fun _ impossible => by cases impossible⟩
  | ok done =>
    refine ((indifferent_updateFixtureFile _).bind fun _ => indifferent_finish) _ _
      ⟨after reached, ?_⟩
    rw [place_fixture, readable_of_prepare, readable_of_prepare]
    exact readable_iff

/-- A run that succeeds does not come through the place of its fixture file. -/
theorem not_runDirs_of_writeAll
    (succeeded : ((writeAll outputDir testsDir options groups.allServices).run tree).2.outcome =
      .ok report) : ¬runDirs outputDir testsDir (fixturePlace testsDir) := by
  intro passed
  have execution := Execution.run tree (writeAll outputDir testsDir options groups.allServices)
  rw [succeeded] at execution
  rcases settled_of_writeAll execution with ⟨settled, _⟩
  rcases settled.fixture with ⟨next, _, here⟩
  have directory : ((writeAll outputDir testsDir options groups.allServices).run tree).1.get?
      (fixturePlace testsDir) = some .directory := by
    rcases passed with output | tests
    · exact settled.prepared.output.directory_of_onWay output
    · exact settled.prepared.tests.directory_of_onWay tests
  rw [directory] at here
  cases here

theorem ends_writeAll_of_unprepared {left : FileTree} {error : GenerationError}
    (failed : Ends tree (prepare outputDir testsDir groups.allServices) left (.error error)) :
    Ends tree (writeAll outputDir testsDir options groups.allServices) left (.error error) := by
  rw [writeAll_eq]
  exact failed.bind_error

theorem ends_writeAll_of_failed_update {prepared left : FileTree} {error : GenerationError}
    (preparing : Ends tree (prepare outputDir testsDir groups.allServices) prepared (.ok ()))
    (failed : Ends prepared (updateFixtureFile (Path.join testsDir fixtureFileName)
      (fixtureEntries testsDir outputDir options.importExtension groups.allServices) options.merge)
      left (.error error)) :
    Ends tree (writeAll outputDir testsDir options groups.allServices) left (.error error) := by
  rw [writeAll_eq]
  exact preparing.bind failed.bind_error

/-- A file that a successful run was to overwrite makes the run fail if its bytes
are no text. -/
theorem writeAll_unread (same : SameButFixture testsDir tree other)
    (unreadable : ¬Readable (other.get? (fixturePlace testsDir)))
    (succeeded : ((writeAll outputDir testsDir options groups.allServices).run tree).2.outcome =
      .ok report) :
    ((writeAll outputDir testsDir options groups.allServices).run other).2.outcome =
      .error (.disk (Path.join testsDir fixtureFileName) .notText) := by
  obtain ⟨sameOutcome, after⟩ :=
    prepare_alike groups same (Or.inr (not_runDirs_of_writeAll succeeded))
  cases reached : ((prepare outputDir testsDir groups.allServices).run tree).2.outcome with
  | error error =>
    rw [(ends_writeAll_of_unprepared ⟨rfl, reached⟩).outcome] at succeeded
    cases succeeded
  | ok done =>
    have still := after reached
    rcases FileTree.openFile_both still.located still.blocked with ⟨cause, refused, _⟩ |
      ⟨_, _, _, opening⟩
    · rw [(ends_writeAll_of_failed_update ⟨rfl, reached⟩
        (ends_updateFixtureFile_of_unopened refused)).outcome] at succeeded
      cases succeeded
    · have unread : ¬Readable (((prepare outputDir testsDir groups.allServices).run other).1.get?
          (Path.place (Path.join testsDir fixtureFileName))) := by
        rwa [place_fixture, readable_of_prepare]
      exact (ends_writeAll_of_failed_update ⟨rfl, sameOutcome ▸ reached⟩
        (ends_updateFixtureFile_of_unreadable opening unread)).outcome

theorem unaffected_writeAll (unmerged : options.merge = false)
    (same : SameButFixture testsDir tree other) :
    Unaffected outputDir testsDir options groups tree other
      (writeAll outputDir testsDir options groups.allServices) where
  alike := by
    intro readable_iff clear
    rcases writeAll_alike unmerged same clear readable_iff with ⟨sameOutcome, after⟩
    exact ⟨sameOutcome, fun report succeeded => (after report succeeded).get?_eq⟩
  led := by
    intro passed
    exact ⟨fun _ succeeded => not_runDirs_of_writeAll succeeded passed,
      fun _ succeeded => not_runDirs_of_writeAll succeeded passed⟩
  anew := by
    intro report succeeded
    have execution := Execution.run tree (writeAll outputDir testsDir options groups.allServices)
    rw [succeeded] at execution
    rcases (settled_of_writeAll execution).1.fixture with ⟨next, merged, here⟩
    rw [unmerged, priorText_false, outcome_mergeFixtureFile_none] at merged
    rw [here, Except.ok.inj merged]
  unread := fun _ unreadable _ succeeded => writeAll_unread same unreadable succeeded

/-- Programs that end alike are affected alike. -/
theorem Unaffected.of_ends {program inner : Action GenerationReport}
    (ends : forall tree, Ends tree program (inner.run tree).1 (inner.run tree).2.outcome)
    (unaffected : Unaffected outputDir testsDir options groups tree other inner) :
    Unaffected outputDir testsDir options groups tree other program := by
  have here := ends tree
  have there := ends other
  constructor <;> simp only [here.outcome, here.left, there.outcome, there.left]
  · exact unaffected.alike
  · exact unaffected.led
  · exact unaffected.anew
  · exact unaffected.unread

end Runs

section Generating

variable {workingDirectory : Text} {options : GenerationOptions} {spec : Spec} {tree : FileTree}

theorem ends_absolute_of_none {path : Text} (tree : FileTree)
    (unseen : Path.absolute? workingDirectory path = none) :
    Ends tree (absolute workingDirectory path) tree (.error (.disk path .emptyPath)) := by
  unfold absolute
  rw [unseen]
  exact Ends.done tree _

/-- A run fails without looking at the tree, or it ends as its writing does. -/
theorem fails_or_writes (workingDirectory : Text) (options : GenerationOptions) (spec : Spec) :
    (Exists fun error => forall tree,
        Ends tree (generate workingDirectory options spec) tree (.error error)) ∨
      Exists fun outputDir => Exists fun testsDir =>
        Path.absolute? workingDirectory options.outputDir = some outputDir ∧
          Path.absolute? workingDirectory options.testsDir = some testsDir ∧
          forall tree, Ends tree (generate workingDirectory options spec)
            ((writeAll outputDir testsDir options spec.groups.allServices).run tree).1
            ((writeAll outputDir testsDir options spec.groups.allServices).run tree).2.outcome := by
  cases emitted : (Groups.services spec.groups options.strict).outcome with
  | error error =>
    refine Or.inl ⟨.ambiguousName error, fun tree => ?_⟩
    have emission := ends_emission tree spec.groups options.strict
    rw [emitted] at emission
    exact (Ends.ofLogged tree spec.group).bind emission.bind_error
  | ok services =>
    rw [Groups.eq_allServices_of_services emitted] at emitted
    cases output : Path.absolute? workingDirectory options.outputDir with
    | none =>
      exact Or.inl ⟨_, fun tree =>
        ends_generate_of_emitted emitted (ends_absolute_of_none tree output).bind_error⟩
    | some outputDir =>
      cases tests : Path.absolute? workingDirectory options.testsDir with
      | none =>
        exact Or.inl ⟨_, fun tree => ends_generate_of_emitted emitted
          ((ends_absolute tree output).bind (ends_absolute_of_none tree tests).bind_error)⟩
      | some testsDir =>
        exact Or.inr ⟨outputDir, testsDir, rfl, rfl, fun tree =>
          ends_generate emitted output tests ⟨rfl, rfl⟩⟩

end Generating

/-- A run that does not merge is not affected by the former fixture file, except
that it fails on bytes that are no text.  If a directory is not named, the tree
has no influence at all. -/
theorem overwriting_unaffected (workingDirectory : Text) (options : GenerationOptions) (spec : Spec)
    (unmerged : options.merge = false) :
    ((options.outputDir = [] ∨ options.testsDir = []) -> forall tree other,
        ((generate workingDirectory options spec).run tree).2.outcome =
          ((generate workingDirectory options spec).run other).2.outcome) ∧
      forall outputDir testsDir tree other,
        Path.absolute? workingDirectory options.outputDir = some outputDir ->
        Path.absolute? workingDirectory options.testsDir = some testsDir ->
        SameButFixture testsDir tree other ->
        Unaffected outputDir testsDir options spec.groups tree other
          (generate workingDirectory options spec) := by
  rcases fails_or_writes workingDirectory options spec with ⟨error, failed⟩ |
    ⟨outputDir, testsDir, output, tests, ends⟩
  · have unsuccessful : forall tree report,
        ((generate workingDirectory options spec).run tree).2.outcome ≠ .ok report := by
      intro tree report succeeded
      rw [(failed tree).outcome] at succeeded
      cases succeeded
    have equal : forall tree other,
        ((generate workingDirectory options spec).run tree).2.outcome =
          ((generate workingDirectory options spec).run other).2.outcome :=
      fun tree other => (failed tree).outcome.trans (failed other).outcome.symm
    refine ⟨fun _ => equal, ?_⟩
    intro outputDir testsDir tree other _ _ _
    exact
      { alike := fun _ _ => ⟨equal tree other, fun report succeeded =>
          absurd succeeded (unsuccessful tree report)⟩
        led := fun _ => ⟨unsuccessful tree, unsuccessful other⟩
        anew := fun report succeeded => absurd succeeded (unsuccessful tree report)
        unread := fun _ _ report succeeded => absurd succeeded (unsuccessful tree report) }
  · constructor
    · rintro (empty | empty)
      · rw [(absolute?_eq_none_iff _ _).mpr empty] at output
        cases output
      · rw [(absolute?_eq_none_iff _ _).mpr empty] at tests
        cases tests
    · intro outputDir' testsDir' tree other output' tests' same
      cases output.symm.trans output'
      cases tests.symm.trans tests'
      exact (unaffected_writeAll unmerged same).of_ends ends

/-! ## Formers without influence, and one with -/

/-- Options that do not merge. -/
def unmergedDirectories : GenerationOptions :=
  { twoDirectories "services".toList with merge := false }

/-- A disk with a fixture file of the given content and nothing else. -/
def fixtureTree (content : FileContent) : FileTree :=
  FileTree.put
    ⟨Keyed.ofList [(["w".toList], .directory), (["w".toList, "tests".toList], .directory)]⟩
    (fixturePlace "/w/tests".toList) (.file content)

theorem get?_fixtureTree (content : FileContent) (place : Place) :
    (fixtureTree content).get? place =
      if place = fixturePlace "/w/tests".toList then some (.file content)
      else FileTree.get? ⟨Keyed.ofList
        [(["w".toList], .directory), (["w".toList, "tests".toList], .directory)]⟩ place :=
  FileTree.get?_put _ _ _ _ (List.concat_ne_nil _ _)

theorem sameButFixture_fixtureTree (content other : FileContent) :
    SameButFixture "/w/tests".toList (fixtureTree content) (fixtureTree other) where
  elsewhere := by
    intro place apart
    rw [get?_fixtureTree, get?_fixtureTree, if_neg apart, if_neg apart]
  noDirectory := by
    rw [get?_fixtureTree, get?_fixtureTree, if_pos rfl, if_pos rfl]
    exact ⟨fun same => (nomatch same), fun same => (nomatch same)⟩

/-- A file that could not have been merged is overwritten like a blank one, and
one whose bytes are no text is not overwritten. -/
theorem overwriting_unaffected_of_petSpec :
    ((generate "/w".toList unmergedDirectories petSpec).run
        (fixtureTree (.text "import pets from './pets';".toList))).2.outcome =
      ((generate "/w".toList unmergedDirectories petSpec).run
        (fixtureTree (.text [' ', '\n']))).2.outcome ∧
    ((generate "/w".toList unmergedDirectories petSpec).run
        (fixtureTree (.binary [0xff]))).2.outcome =
      .error (.disk "/w/tests/base.ts".toList .notText) := by
  have unaffected := fun content other =>
    (overwriting_unaffected "/w".toList unmergedDirectories petSpec rfl).2
      "/w/services".toList "/w/tests".toList (fixtureTree content) (fixtureTree other)
      (by decide +kernel) (by decide +kernel) (sameButFixture_fixtureTree content other)
  have there : forall content, (fixtureTree content).get? (fixturePlace "/w/tests".toList) =
      some (.file content) := fun content => (get?_fixtureTree content _).trans (if_pos rfl)
  have readable : forall text, Readable ((fixtureTree (.text text)).get?
      (fixturePlace "/w/tests".toList)) := by
    intro text bytes same
    rw [there] at same
    cases same
  have both : forall content other,
      BothHaveFixture "/w/tests".toList (fixtureTree content) (fixtureTree other) := by
    intro content other
    rw [BothHaveFixture, there, there]
    exact iff_of_false (fun same => nomatch same) (fun same => nomatch same)
  have succeeded : ((generate "/w".toList unmergedDirectories petSpec).run
      (fixtureTree (.text [' ', '\n']))).2.outcome =
        .ok ⟨["petService".toList],
          ["/w/services/petService.ts".toList, "/w/tests/base.ts".toList,
            "/w/tests/skeleton-test.ts".toList]⟩ := by
    decide +kernel
  constructor
  · exact ((unaffected _ _).alike (iff_of_true (readable _) (readable _))
      (Or.inl (both _ _))).1
  · exact (unaffected _ _).unread (readable _) (fun all => all _ (there _)) _ succeeded

/-- A run can fail because of a fixture file that it was to overwrite. -/
theorem overwriting_not_always_unaffected :
    ¬forall tree other workingDirectory options spec testsDir, options.merge = false ->
      Path.absolute? workingDirectory options.testsDir = some testsDir ->
      SameButFixture testsDir tree other ->
      ((generate workingDirectory options spec).run tree).2.outcome =
        ((generate workingDirectory options spec).run other).2.outcome := by
  intro unaffected
  have equal := unaffected _ _ "/w".toList unmergedDirectories petSpec "/w/tests".toList rfl
    (by decide +kernel) (sameButFixture_fixtureTree (.text []) (.binary [0xff]))
  have failed : ((generate "/w".toList unmergedDirectories petSpec).run
      (fixtureTree (.binary [0xff]))).2.outcome =
        .error (.disk "/w/tests/base.ts".toList .notText) := by
    decide +kernel
  have succeeded : ((generate "/w".toList unmergedDirectories petSpec).run
      (fixtureTree (.text []))).2.outcome =
        .ok ⟨["petService".toList],
          ["/w/services/petService.ts".toList, "/w/tests/base.ts".toList,
            "/w/tests/skeleton-test.ts".toList]⟩ := by
    decide +kernel
  rw [failed, succeeded] at equal
  cases equal

end Generation
end ApiServices
