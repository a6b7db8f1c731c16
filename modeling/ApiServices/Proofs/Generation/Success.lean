import ApiServices.Proofs.Generation.Inversion

namespace ApiServices
namespace Generation

/-!
# Runs that succeed

A run that succeeds changes the files that it reports, and makes directories
on the way to them; everything else is left as it was.  This holds for every
tree, for tags of any spelling, and when the two directories coincide or lie
inside one another.

When several tags come to one service, the last of them has its file.  When
something stands in the place of the starter test, it stays.
-/

/-- What a run with the given directories has done once it ends with a report. -/
structure Generated (outputDir testsDir : Text) (options : GenerationOptions) (groups : Groups)
    (tree left : FileTree) (report : GenerationReport) : Prop where
  /-- The services are those of the tags. -/
  services : report.services = groups.keys.map serviceName
  /-- The output directory is there. -/
  directory : left.get? (Path.place outputDir) = some .directory
  /-- Every service file is a child of the output directory, and none of the
  two other files. -/
  children : ∀ tag ∈ groups.keys,
    Path.place (Path.join outputDir (serviceFileName (serviceName tag))) =
        Path.place outputDir ++ [serviceFileName (serviceName tag)] ∧
      Path.place outputDir ++ [serviceFileName (serviceName tag)] ≠ fixturePlace testsDir ∧
      Path.place outputDir ++ [serviceFileName (serviceName tag)] ≠ skeletonPlace testsDir
  /-- A service file holds what its last tag gives. -/
  contents : forall before tag operations later,
    groups.entries = before ++ (tag, operations) :: later ->
    serviceName tag ∉ later.map (fun entry => serviceName entry.1) ->
    left.get? (Path.place outputDir ++ [serviceFileName (serviceName tag)]) =
      some (.file (.text (Service.fileText (serviceName tag) operations)))
  /-- The former fixture file was a text, if there was one. -/
  readable : tree.get? (fixturePlace testsDir) = none ∨
    Exists fun former => tree.get? (fixturePlace testsDir) = some (.file (.text former))
  /-- The fixture file holds the former entries, unless they were not wanted,
  and an entry for each service. -/
  fixture : Exists fun next =>
    (mergeFixtureFile (priorText options.merge (tree.get? (fixturePlace testsDir)))
        (report.services.map fun name =>
          (name, Path.importPath testsDir outputDir name options.importExtension))).outcome =
        .ok next ∧
      left.get? (fixturePlace testsDir) = some (.file (.text next))
  /-- The files are reported in the order of their writing.  The starter test
  is among them only if it was wanted and nothing was in its place. -/
  written : Exists fun started =>
    report.written =
        groups.keys.map (fun tag => Path.join outputDir (serviceFileName (serviceName tag))) ++
          Path.join testsDir fixtureFileName :: started ∧
      ((started = [] ∧
          (options.skeleton = true -> left.get? (skeletonPlace testsDir) ≠ none)) ∨
        (started = [Path.join testsDir skeletonFileName] ∧ options.skeleton = true ∧
          tree.get? (skeletonPlace testsDir) = none ∧
          left.get? (skeletonPlace testsDir) = some (.file (.text skeletonText))))
  /-- Apart from the reported files only directories are new, on the way to the
  two directories. -/
  elsewhere : Changes (runDirs outputDir testsDir)
    (fun place => Exists fun path => path ∈ report.written ∧ place = Path.place path) tree left

section Success

variable {tree left prepared updated : FileTree} {asked : List Request} {outputDir testsDir : Text}
  {options : GenerationOptions} {groups : Groups} {report : GenerationReport}

theorem map_servicePath_allServices (outputDir : Text) (groups : Groups) :
    groups.allServices.map (servicePath outputDir) =
      groups.keys.map fun tag => Path.join outputDir (serviceFileName (serviceName tag)) := by
  unfold Groups.allServices Keyed.keys
  rw [List.map_map, List.map_map]
  rfl

theorem fixtureEntries_allServices (testsDir outputDir extension : Text) (groups : Groups) :
    fixtureEntries testsDir outputDir extension groups.allServices =
      (groups.keys.map serviceName).map fun name =>
        (name, Path.importPath testsDir outputDir name extension) := by
  rw [← Groups.map_name_allServices, List.map_map]
  rfl

theorem children_of_tags (outputDir testsDir tag : Text) :
    Path.place (Path.join outputDir (serviceFileName (serviceName tag))) =
        Path.place outputDir ++ [serviceFileName (serviceName tag)] ∧
      Path.place outputDir ++ [serviceFileName (serviceName tag)] ≠ fixturePlace testsDir ∧
      Path.place outputDir ++ [serviceFileName (serviceName tag)] ≠ skeletonPlace testsDir := by
  refine ⟨Path.place_join (plainName_tagFileName tag) outputDir, ?_, ?_⟩
  · intro same
    have ends := congrArg List.getLast? same
    rw [fixturePlace, List.getLast?_concat, List.getLast?_concat] at ends
    exact tagFileName_ne_fixtureFileName tag (Option.some.inj ends)
  · intro same
    have ends := congrArg List.getLast? same
    rw [skeletonPlace, List.getLast?_concat, List.getLast?_concat] at ends
    exact tagFileName_ne_skeletonFileName tag (Option.some.inj ends)

/-- After the preparations, and whatever is written besides afterwards, a
service file holds what its last tag gives. -/
theorem contents_of_prepare
    (preparing : Execution tree (prepare outputDir testsDir groups.allServices) asked prepared
      (.ok ()))
    {before later : List (Text × List Operation)} {tag : Text} {operations : List Operation}
    (split : groups.entries = before ++ (tag, operations) :: later)
    (last : serviceName tag ∉ later.map fun entry => serviceName entry.1) :
    prepared.get? (Path.place outputDir ++ [serviceFileName (serviceName tag)]) =
      some (.file (.text (Service.fileText (serviceName tag) operations))) := by
  have services : groups.allServices =
      before.map (fun entry => Service.ofTag entry.1 entry.2) ++ Service.ofTag tag operations ::
        later.map fun entry => Service.ofTag entry.1 entry.2 := by
    unfold Groups.allServices
    rw [split, List.map_append, List.map_cons]
  rw [← (children_of_tags outputDir testsDir tag).1]
  apply (of_prepare preparing).2 _ (Service.ofTag tag operations) _ services
  intro written
  rw [place_servicePath] at written
  rcases servicePlaces_iff.mp written with ⟨other, member, same⟩
  apply last
  rcases List.mem_map.mp member with ⟨entry, inside, named⟩
  have files := List.singleton_inj.mp (List.append_cancel_left same)
  rw [serviceFileName_injective files, ← named]
  exact List.mem_map.mpr ⟨entry, inside, rfl⟩

/-- Nothing was in the place of a starter test before the run that wrote it. -/
theorem get?_skeletonPlace_of_free
    (preparation : Changes (runDirs outputDir testsDir)
      (servicePlaces outputDir groups.allServices) tree prepared)
    (update : Changes nowhere (· = fixturePlace testsDir) prepared updated)
    (free : updated.get? (skeletonPlace testsDir) = none) :
    tree.get? (skeletonPlace testsDir) = none := by
  by_cases absent : tree.get? (skeletonPlace testsDir) = none
  · exact absent
  · have kept := preparation.kept_of_taken
      (skeletonPlace_notMem_servicePlaces outputDir testsDir groups) absent
    have still := update.kept_of_taken (fixturePlace_ne_skeletonPlace testsDir).symm
      (kept.symm ▸ absent)
    rw [← kept, ← still]
    exact free

/-- The stages of a run change the files that it reports. -/
theorem changes_reported {started : List Text}
    (preparation : Changes (runDirs outputDir testsDir)
      (servicePlaces outputDir groups.allServices) tree prepared)
    (update : Changes nowhere (· = fixturePlace testsDir) prepared updated)
    (ending : Changes nowhere (· = skeletonPlace testsDir) updated left)
    (starter : Starter outputDir testsDir options updated left started) :
    Changes (runDirs outputDir testsDir)
      (fun place => Exists fun path =>
        path ∈ groups.allServices.map (servicePath outputDir) ++
          Path.join testsDir fixtureFileName :: started ∧ place = Path.place path) tree left := by
  refine (preparation.mono (fun _ made => made) ?_).trans ?_
  · rintro place ⟨service, member, same⟩
    exact ⟨_, List.mem_append_left _ (List.mem_map_of_mem member), same⟩
  refine (update.mono (fun _ impossible => impossible.elim) ?_).trans ?_
  · intro place same
    exact ⟨_, List.mem_append_right _ List.mem_cons_self, same.trans (place_fixture testsDir).symm⟩
  cases starter with
  | kept same _ =>
    rw [same]
    exact Changes.refl updated
  | begun _ _ _ =>
    refine ending.mono (fun _ impossible => impossible.elim) ?_
    intro place same
    exact ⟨_, List.mem_append_right _ (List.mem_cons_of_mem _ List.mem_cons_self),
      same.trans (place_skeleton testsDir).symm⟩

/-- Every execution of a run that succeeds has done what a run is to do. -/
theorem generated_of_writeAll
    (execution : Execution tree (writeAll outputDir testsDir options groups.allServices) asked left
      (.ok report)) : Generated outputDir testsDir options groups tree left report := by
  rcases of_writeAll execution with ⟨_, impossible, _⟩ |
    ⟨prepared, updated, _, _, _, _, preparing, rewritten, finishing⟩
  · cases impossible
  have preparation := (confined_prepare _ _ _ _ _ _ _ preparing).1
  have update : Changes nowhere (· = fixturePlace testsDir) prepared updated :=
    place_fixture testsDir ▸ rewritten.changes
  have ending := (confined_finish _ _ _ _ _ _ _ _ finishing).1
  rcases of_finish finishing with ⟨started, starter, named, listed⟩
  have names : report.services = groups.keys.map serviceName := by
    rw [named, Groups.map_name_allServices]
  refine
    { services := names
      directory := ending.directory (update.directory (of_prepare preparing).1)
      children := fun tag _ => children_of_tags outputDir testsDir tag
      contents := ?_
      readable := rewritten.readable preparation
      fixture := ?_
      written := ?_
      elsewhere := ?_ }
  · intro before tag operations later split last
    rcases children_of_tags outputDir testsDir tag with ⟨_, notFixture, notSkeleton⟩
    have filled := contents_of_prepare preparing split last
    have kept := update.stays notFixture filled
    exact ending.stays notSkeleton kept
  · have fixture := rewritten.fixture preparation ending
    rwa [fixtureEntries_allServices, ← names] at fixture
  · refine ⟨started, map_servicePath_allServices outputDir groups ▸ listed, ?_⟩
    cases starter with
    | kept same taken => exact Or.inl ⟨rfl, same ▸ taken⟩
    | begun wanted free here =>
      exact Or.inr ⟨rfl, wanted, get?_skeletonPlace_of_free preparation update free, here⟩
  · rw [listed]
    exact changes_reported preparation update ending starter

end Success

/-- A run that succeeds has written what it reports and changed nothing else,
whatever the tree held before. -/
theorem generated_of_run {tree : FileTree} {workingDirectory : Text} {options : GenerationOptions}
    {spec : Spec} {report : GenerationReport}
    (succeeded : ((generate workingDirectory options spec).run tree).2.outcome = .ok report) :
    Exists fun outputDir => Exists fun testsDir =>
      Path.absolute? workingDirectory options.outputDir = some outputDir ∧
        Path.absolute? workingDirectory options.testsDir = some testsDir ∧
        Generated outputDir testsDir options spec.groups tree
          ((generate workingDirectory options spec).run tree).1 report := by
  have execution := Execution.run tree (generate workingDirectory options spec)
  rw [succeeded] at execution
  rcases of_generate execution with ⟨_, _, _, impossible, _⟩ |
    ⟨outputDir, testsDir, output, tests, writing⟩
  · cases impossible
  · exact ⟨outputDir, testsDir, output, tests, generated_of_writeAll writing⟩

/-- A description with two tags that come to one service. -/
def collidingSpec : Spec where
  version := none
  info := none
  paths := Keyed.ofList
    [ ("/a".toList, Keyed.ofList [("get".toList, ⟨["pet store".toList], none, none⟩)]),
      ("/b".toList, Keyed.ofList [("post".toList, ⟨["../pet-store".toList], none, none⟩)]) ]

/-- A disk with a fixture file that was written by hand. -/
def handWrittenTree : FileTree :=
  ⟨Keyed.ofList
    [ (["w".toList], .directory), (["w".toList, "t".toList], .directory),
      (["w".toList, "t".toList, "base.ts".toList],
        .file (.text "import \x7b users \x7d from './users';".toList)) ]⟩

/-- Options with one directory for services and tests, under two spellings. -/
def oneDirectory : GenerationOptions where
  outputDir := "t".toList
  testsDir := "./t/../t".toList
  merge := true
  strict := false
  skeleton := true
  importExtension := ".js".toList

theorem generated_of_run_of_collidingSpec :
    Generated "/w/t".toList "/w/t/../t".toList oneDirectory collidingSpec.groups handWrittenTree
      ((generate "/w".toList oneDirectory collidingSpec).run handWrittenTree).1
      ⟨["petStoreService".toList, "petStoreService".toList],
        ["/w/t/petStoreService.ts".toList, "/w/t/petStoreService.ts".toList,
          "/w/t/../t/base.ts".toList, "/w/t/../t/skeleton-test.ts".toList]⟩ := by
  have succeeded :
      ((generate "/w".toList oneDirectory collidingSpec).run handWrittenTree).2.outcome =
        .ok ⟨["petStoreService".toList, "petStoreService".toList],
          ["/w/t/petStoreService.ts".toList, "/w/t/petStoreService.ts".toList,
            "/w/t/../t/base.ts".toList, "/w/t/../t/skeleton-test.ts".toList]⟩ := by
    decide +kernel
  have output : Path.absolute? "/w".toList oneDirectory.outputDir = some "/w/t".toList := by
    decide +kernel
  have tests : Path.absolute? "/w".toList oneDirectory.testsDir = some "/w/t/../t".toList := by
    decide +kernel
  rcases generated_of_run succeeded with ⟨outputDir, testsDir, foundOutput, foundTests, generated⟩
  rw [output] at foundOutput
  rw [tests] at foundTests
  rw [Option.some.inj foundOutput, Option.some.inj foundTests]
  exact generated

end Generation
end ApiServices
