import ApiServices.Proofs.Generation.FixtureUpdate

namespace ApiServices
namespace Generation

/-!
# Taking a run apart

A run that fails before it writes leaves the tree as it was.  Every other run
prepares, updates the fixture file and may write a starter test; it is followed
up to the stage that fails, or to its end.
-/

/-- Where the fixture file is. -/
def fixturePlace (testsDir : Text) : Place :=
  Path.place testsDir ++ [fixtureFileName]

/-- Where the starter test is. -/
def skeletonPlace (testsDir : Text) : Place :=
  Path.place testsDir ++ [skeletonFileName]

theorem place_fixture (testsDir : Text) :
    Path.place (Path.join testsDir fixtureFileName) = fixturePlace testsDir :=
  Path.place_join plainName_fixtureFileName testsDir

theorem place_skeleton (testsDir : Text) :
    Path.place (Path.join testsDir skeletonFileName) = skeletonPlace testsDir :=
  Path.place_join plainName_skeletonFileName testsDir

theorem fixturePlace_ne_skeletonPlace (testsDir : Text) :
    fixturePlace testsDir ≠ skeletonPlace testsDir := by
  intro same
  exact fixtureFileName_ne_skeletonFileName
    (List.singleton_inj.mp (List.append_cancel_left same))

theorem place_servicePath (outputDir tag : Text) (operations : List Operation) :
    Path.place (servicePath outputDir (Service.ofTag tag operations)) =
      Path.place outputDir ++ [tagFileName tag] :=
  Path.place_join (plainName_tagFileName tag) outputDir

/-- Services are written to places named after their tags. -/
theorem servicePlaces_iff {outputDir : Text} {entries : List (Text × List Operation)}
    {place : Place} :
    servicePlaces outputDir (entries.map fun entry => Service.ofTag entry.1 entry.2) place ↔
      Exists fun tag =>
        tag ∈ entries.map Prod.fst ∧ place = Path.place outputDir ++ [tagFileName tag] := by
  constructor
  · rintro ⟨service, member, same⟩
    rcases List.mem_map.mp member with ⟨entry, inside, made⟩
    refine ⟨entry.1, List.mem_map_of_mem inside, ?_⟩
    rw [same, ← made, place_servicePath]
  · rintro ⟨tag, member, same⟩
    rcases List.mem_map.mp member with ⟨entry, inside, named⟩
    refine ⟨Service.ofTag entry.1 entry.2, List.mem_map_of_mem inside, ?_⟩
    rw [same, place_servicePath, named]

/-- No service is written to a place with another kind of name, in whichever
directories the two are. -/
theorem notMem_servicePlaces {outputDir name : Text} {directory : Place} {groups : Groups}
    (other : forall tag, tagFileName tag ≠ name) :
    ¬servicePlaces outputDir groups.allServices (directory ++ [name]) := by
  intro written
  rcases servicePlaces_iff.mp written with ⟨tag, _, same⟩
  have ends := congrArg List.getLast? same
  rw [List.getLast?_concat, List.getLast?_concat] at ends
  exact other tag (Option.some.inj ends).symm

theorem fixturePlace_notMem_servicePlaces (outputDir testsDir : Text) (groups : Groups) :
    ¬servicePlaces outputDir groups.allServices (fixturePlace testsDir) :=
  notMem_servicePlaces tagFileName_ne_fixtureFileName

theorem skeletonPlace_notMem_servicePlaces (outputDir testsDir : Text) (groups : Groups) :
    ¬servicePlaces outputDir groups.allServices (skeletonPlace testsDir) :=
  notMem_servicePlaces tagFileName_ne_skeletonFileName

/-! ## Before anything is written -/

section Inversion

variable {tree left : FileTree} {asked : List Request}

theorem silent_warnOfRepeats (seen : List Text) (services : List Service) :
    Execution.Silent (· = .ok ()) (warnOfRepeats seen services) := by
  intro tree asked left outcome execution
  induction services generalizing seen with
  | nil => exact Execution.of_done execution
  | cons service rest ih =>
    unfold warnOfRepeats at execution
    split at execution
    · exact ih _ (Execution.of_note execution)
    · exact ih _ execution

theorem absolute?_eq_none_iff (workingDirectory path : Text) :
    Path.absolute? workingDirectory path = none ↔ path = [] := by
  unfold Path.absolute?
  constructor
  · intro absent
    by_cases empty : path.isEmpty = true
    · exact List.isEmpty_iff.mp empty
    · rw [if_neg empty] at absent
      dsimp only at absent
      by_cases ended : path.getLast? = some '/'
      · rw [if_pos ended] at absent
        cases absent
      · rw [if_neg ended] at absent
        cases absent
  · intro empty
    rw [empty]
    rfl

theorem silent_absolute (workingDirectory path : Text) :
    Execution.Silent
      (fun outcome => (path = [] ∧ outcome = .error (.disk path .emptyPath)) ∨
        Exists fun found =>
          Path.absolute? workingDirectory path = some found ∧ outcome = .ok found)
      (absolute workingDirectory path) := by
  intro tree asked left outcome execution
  unfold absolute at execution
  cases made : Path.absolute? workingDirectory path with
  | none =>
    rw [made] at execution
    rcases Execution.of_done execution with ⟨nothing, same, failed⟩
    exact ⟨nothing, same, Or.inl ⟨(absolute?_eq_none_iff _ _).mp made, failed⟩⟩
  | some found =>
    rw [made] at execution
    rcases Execution.of_done execution with ⟨nothing, same, succeeded⟩
    exact ⟨nothing, same, Or.inr ⟨found, rfl, succeeded⟩⟩

/-- What emitting the services of groups can give. -/
theorem silent_services (groups : Groups) (strict : Bool) :
    Execution.Silent
      (fun outcome => (Exists fun cause => outcome = .error (.ambiguousName cause)) ∨
        outcome = .ok groups.allServices)
      (Program.ofLogged ((Groups.services groups strict).mapError GenerationError.ambiguousName)) := by
  intro tree asked left outcome execution
  rcases Execution.of_ofLogged execution with ⟨nothing, same, result⟩
  refine ⟨nothing, same, ?_⟩
  rw [result]
  change (Exists fun cause =>
    (Groups.services groups strict).outcome.mapError GenerationError.ambiguousName =
      .error (.ambiguousName cause)) ∨
    (Groups.services groups strict).outcome.mapError GenerationError.ambiguousName = _
  cases emitted : (Groups.services groups strict).outcome with
  | error cause => exact Or.inl ⟨cause, rfl⟩
  | ok services =>
    rw [Groups.eq_allServices_of_services emitted]
    exact Or.inr rfl

/-- A run fails before it writes, for one of two causes, or it writes all
services to absolute directories. -/
theorem of_generate {workingDirectory : Text} {options : GenerationOptions} {spec : Spec}
    {outcome : Except GenerationError GenerationReport}
    (execution : Execution tree (generate workingDirectory options spec) asked left outcome) :
    (asked = [] ∧ left = tree ∧ Exists fun error => outcome = .error error ∧
        ((Exists fun cause => error = .ambiguousName cause) ∨
          ((options.outputDir = [] ∨ options.testsDir = []) ∧
            Exists fun path => error = .disk path .emptyPath))) ∨
      Exists fun outputDir => Exists fun testsDir =>
        Path.absolute? workingDirectory options.outputDir = some outputDir ∧
          Path.absolute? workingDirectory options.testsDir = some testsDir ∧
          Execution tree (writeAll outputDir testsDir options spec.groups.allServices) asked left
            outcome := by
  rcases (Execution.silent_ofLogged spec.group).of_bind execution with
    ⟨_, _, _, _, impossible⟩ | ⟨groups, filed, rest⟩
  · cases impossible
  rw [show groups = spec.groups from Except.ok.inj filed] at rest
  rcases (silent_services _ _).of_bind rest with
    ⟨nothing, same, error, failed, ⟨cause, ambiguous⟩ | impossible⟩ | ⟨services, emitted, rest⟩
  · exact Or.inl ⟨nothing, same, error, failed, Or.inl ⟨cause, Except.error.inj ambiguous⟩⟩
  · cases impossible
  rcases emitted with ⟨_, impossible⟩ | all
  · cases impossible
  rw [Except.ok.inj all] at rest
  rcases (silent_warnOfRepeats _ _).of_bind rest with ⟨_, _, _, _, impossible⟩ | ⟨_, _, rest⟩
  · cases impossible
  rcases (silent_absolute _ _).of_bind rest with
    ⟨nothing, same, error, failed, ⟨empty, result⟩ | ⟨_, _, impossible⟩⟩ | ⟨outputDir, output, rest⟩
  · exact Or.inl ⟨nothing, same, error, failed, Or.inr ⟨Or.inl empty, _, Except.error.inj result⟩⟩
  · cases impossible
  rcases (silent_absolute _ _).of_bind rest with
    ⟨nothing, same, error, failed, ⟨empty, result⟩ | ⟨_, _, impossible⟩⟩ | ⟨testsDir, tests, rest⟩
  · exact Or.inl ⟨nothing, same, error, failed, Or.inr ⟨Or.inr empty, _, Except.error.inj result⟩⟩
  · cases impossible
  rcases output with ⟨_, impossible⟩ | ⟨found, absoluteOutput, same⟩
  · cases impossible
  rw [← Except.ok.inj same] at absoluteOutput
  rcases tests with ⟨_, impossible⟩ | ⟨found, absoluteTests, same⟩
  · cases impossible
  rw [← Except.ok.inj same] at absoluteTests
  exact Or.inr ⟨outputDir, testsDir, absoluteOutput, absoluteTests, rest⟩

/-! ## After the fixture file -/

/-- Write the starter test if the options ask for it. -/
def startTest (testsDir : Text) (options : GenerationOptions) : Action (List Text) :=
  if options.skeleton then writeSkeleton (Path.join testsDir skeletonFileName) else pure []

/-- What a run does once the fixture file is up to date. -/
def finish (outputDir testsDir : Text) (options : GenerationOptions) (services : List Service) :
    Action GenerationReport := do
  info ("updated ".toList ++ Path.join testsDir fixtureFileName)
  let started ← startTest testsDir options
  return {
    services := services.map Service.name
    written := services.map (servicePath outputDir) ++ Path.join testsDir fixtureFileName :: started }

theorem writeAll_eq (outputDir testsDir : Text) (options : GenerationOptions)
    (services : List Service) :
    writeAll outputDir testsDir options services =
      prepare outputDir testsDir services >>= fun _ =>
        updateFixtureFile (Path.join testsDir fixtureFileName)
          (fixtureEntries testsDir outputDir options.importExtension services) options.merge
            >>= fun _ => finish outputDir testsDir options services := by
  unfold writeAll prepare finish startTest
  cases options.skeleton <;> simp only [bind_assoc] <;> rfl

variable {outputDir testsDir : Text} {options : GenerationOptions} {services : List Service}

theorem confined_finish (outputDir testsDir : Text) (options : GenerationOptions)
    (services : List Service) :
    Confined nowhere (· = skeletonPlace testsDir) (finish outputDir testsDir options services) := by
  apply Confined.bind
  · exact (confined_info _).mono (fun _ impossible => impossible) (fun _ impossible => impossible.elim)
  · intro _
    apply Confined.bind
    · unfold startTest
      cases options.skeleton with
      | true => exact place_skeleton testsDir ▸ confined_writeSkeleton _
      | false => exact confined_pure []
    · intro started
      exact confined_pure _

/-- What becomes of the starter test. -/
inductive Starter (outputDir testsDir : Text) (options : GenerationOptions)
    (tree left : FileTree) : List Text -> Prop
  | kept (same : left = tree)
      (taken : options.skeleton = true -> tree.get? (skeletonPlace testsDir) ≠ none) :
      Starter outputDir testsDir options tree left []
  | begun (wanted : options.skeleton = true) (free : tree.get? (skeletonPlace testsDir) = none)
      (here : left.get? (skeletonPlace testsDir) = some (.file (.text skeletonText))) :
      Starter outputDir testsDir options tree left [Path.join testsDir skeletonFileName]

theorem of_finish {report : GenerationReport}
    (execution : Execution tree (finish outputDir testsDir options services) asked left
      (.ok report)) :
    Exists fun started => Starter outputDir testsDir options tree left started ∧
      report.services = services.map Service.name ∧
      report.written = services.map (servicePath outputDir) ++
        Path.join testsDir fixtureFileName :: started := by
  rcases Execution.of_bind_ok execution with ⟨told, _, _, _, _, telling, rest⟩
  rw [(Execution.of_done (Execution.of_note telling)).2.1] at rest
  rcases Execution.of_bind_ok rest with ⟨ended, started, _, _, _, starting, reporting⟩
  rcases Execution.of_done reporting with ⟨_, same, result⟩
  rw [same]
  have report_eq := Except.ok.inj result
  refine ⟨started, ?_, by rw [report_eq], by rw [report_eq]⟩
  unfold startTest at starting
  cases wanted : options.skeleton with
  | true =>
    rw [wanted] at starting
    rcases of_writeSkeleton starting with ⟨none, unchanged, taken⟩ | ⟨one, free, here⟩
    · rw [none]
      exact Starter.kept unchanged (fun _ => place_skeleton testsDir ▸ taken)
    · rw [one]
      exact Starter.begun wanted (place_skeleton testsDir ▸ free) (place_skeleton testsDir ▸ here)
  | false =>
    rw [wanted] at starting
    rcases Execution.of_done starting with ⟨_, unchanged, none⟩
    rw [Except.ok.inj none]
    refine Starter.kept unchanged ?_
    intro impossible
    rw [wanted] at impossible
    cases impossible

/-- A run that does not come to emptying the fixture file: only directories and
service files can have changed, unless the fixture file was made and left empty. -/
structure Stopped (outputDir testsDir : Text) (services : List Service) (tree : FileTree)
    (asked : List Request) (left : FileTree) (error : GenerationError) : Prop where
  spared : Exists fun prepared =>
    Changes (runDirs outputDir testsDir) (servicePlaces outputDir services) tree prepared ∧
      (left = prepared ∨ LeftEmpty (Path.join testsDir fixtureFileName) prepared asked left error)
  unemptied : forall emptied, .change (.truncate emptied) ∉ asked
  failed : (Exists fun path => Exists fun cause => error = .disk path cause) ∨
    Exists fun cause => error = .malformedFixture cause

/-- Writing stops before the fixture file is emptied, or it brings the fixture
file up to date and finishes. -/
theorem of_writeAll {outcome : Except GenerationError GenerationReport}
    (execution : Execution tree (writeAll outputDir testsDir options services) asked left outcome) :
    (Exists fun error => outcome = .error error ∧
        Stopped outputDir testsDir services tree asked left error) ∨
      Exists fun prepared => Exists fun updated => Exists fun first => Exists fun second =>
        Exists fun third => asked = first ++ (second ++ third) ∧
          Execution tree (prepare outputDir testsDir services) first prepared (.ok ()) ∧
          Rewritten (Path.join testsDir fixtureFileName)
            (fixtureEntries testsDir outputDir options.importExtension services) options.merge
            prepared second updated (.ok ()) ∧
          Execution updated (finish outputDir testsDir options services) third left outcome := by
  rw [writeAll_eq] at execution
  rcases Execution.of_bind execution with ⟨error, failed, stopped⟩ |
    ⟨prepared, _, first, later, split, preparing, rest⟩
  · have inner := confined_prepare outputDir testsDir services tree asked left _ stopped
    exact Or.inl ⟨error, failed, ⟨left, inner.1, Or.inl rfl⟩, inner.2.1, Or.inl (inner.2.2 error rfl)⟩
  have inner := confined_prepare outputDir testsDir services tree first prepared _ preparing
  rcases Execution.of_bind rest with ⟨error, failed, stopped⟩ |
    ⟨updated, _, second, third, divided, updating, finishing⟩
  · rcases of_updateFixtureFile stopped with ⟨cause, same, refused, spared⟩ | rewritten
    · rw [← Except.error.inj same] at refused spared
      refine Or.inl ⟨error, failed, ⟨prepared, inner.1, ?_⟩, ?_, ?_⟩
      · refine spared.imp id fun leftEmpty => leftEmpty.among ?_
        intro request member
        rw [split]
        exact List.mem_append_right first member
      · intro emptied member
        rw [split] at member
        rcases List.mem_append.mp member with early | late
        · exact inner.2.1 emptied early
        · exact refused.unemptied emptied late
      · rcases refused.failed with ⟨cause, disk⟩ | malformed
        · exact Or.inl ⟨_, cause, disk⟩
        · exact Or.inr malformed
    · cases rewritten.succeeded
  · rcases of_updateFixtureFile updating with ⟨_, impossible, _⟩ | rewritten
    · cases impossible
    · refine Or.inr ⟨prepared, updated, first, second, third, ?_, preparing, rewritten, finishing⟩
      rw [split, divided]

section Rewriting

variable {groups : Groups} {prepared updated : FileTree} {entries : List (Text × Text)}
  {merge : Bool} {outcome : Except GenerationError Unit}

/-- What a rewriting merges into is what was there before the run. -/
theorem Rewritten.get?_fixturePlace
    (rewritten : Rewritten (Path.join testsDir fixtureFileName) entries merge prepared asked
      updated outcome)
    (preparation : Changes (runDirs outputDir testsDir)
      (servicePlaces outputDir groups.allServices) tree prepared) :
    prepared.get? (fixturePlace testsDir) = tree.get? (fixturePlace testsDir) := by
  rcases preparation.kept_or_made (fixturePlace_notMem_servicePlaces outputDir testsDir groups) with
    same | ⟨_, _, directory⟩
  · exact same
  · rw [← place_fixture] at directory
    rcases rewritten.former with absent | ⟨text, here⟩
    · rw [directory] at absent
      cases absent
    · rw [directory] at here
      cases here

/-- A fixture file that was rewritten was a text before the run, if there was
one. -/
theorem Rewritten.readable
    (rewritten : Rewritten (Path.join testsDir fixtureFileName) entries merge prepared asked
      updated outcome)
    (preparation : Changes (runDirs outputDir testsDir)
      (servicePlaces outputDir groups.allServices) tree prepared) :
    tree.get? (fixturePlace testsDir) = none ∨
      Exists fun former => tree.get? (fixturePlace testsDir) = some (.file (.text former)) := by
  rw [← rewritten.get?_fixturePlace preparation, ← place_fixture]
  exact rewritten.former

/-- A fixture file that was rewritten keeps the merged text to the end. -/
theorem Rewritten.fixture
    (rewritten : Rewritten (Path.join testsDir fixtureFileName) entries merge prepared asked
      updated outcome)
    (preparation : Changes (runDirs outputDir testsDir)
      (servicePlaces outputDir groups.allServices) tree prepared)
    (ending : Changes nowhere (· = skeletonPlace testsDir) updated left) :
    Exists fun next =>
      (mergeFixtureFile (priorText merge (tree.get? (fixturePlace testsDir))) entries).outcome =
          .ok next ∧
        left.get? (fixturePlace testsDir) = some (.file (.text next)) := by
  rcases rewritten.text with ⟨next, merged, here⟩
  rw [place_fixture, rewritten.get?_fixturePlace preparation] at merged
  rw [place_fixture] at here
  exact ⟨next, merged, ending.stays (fixturePlace_ne_skeletonPlace testsDir) here⟩

end Rewriting

end Inversion

end Generation
end ApiServices
