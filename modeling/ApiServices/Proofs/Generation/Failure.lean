import ApiServices.Proofs.Generation.Inversion

namespace ApiServices
namespace Generation

/-!
# Runs that fail

A run can fail at every request, for causes that lie in the tree or outside of
it.  The fixture file is emptied only when its new text is known, so a run that
does not come to this leaves it as it was, and with it every file but those of
the services.  A run that does come to it brings the file up to date before it
can fail again.

The place of the fixture file need not stay empty for all that: the output
directory may lead through it, and then a directory is made there; and a file
that is made when it is opened stays there, empty, when it cannot be read.
-/

/-- What is in the place of the fixture file when a run does not come to emptying
it.  Where no file was, there is none, or an empty one that could not be read. -/
inductive FixtureSpared (outputDir testsDir : Text) (asked : List Request) (error : GenerationError)
    (tree left : FileTree) : Prop
  | kept (same : left.get? (fixturePlace testsDir) = tree.get? (fixturePlace testsDir))
  /-- The way to one of the directories leads through the place. -/
  | passed (way : runDirs outputDir testsDir (fixturePlace testsDir))
      (absent : tree.get? (fixturePlace testsDir) = none)
      (directory : left.get? (fixturePlace testsDir) = some .directory)
  | unread (absent : tree.get? (fixturePlace testsDir) = none)
      (empty : left.get? (fixturePlace testsDir) = some (.file (.text [])))
      (unread : Unread (Path.join testsDir fixtureFileName) asked error)

/-- What stays as it was when a run does not come to emptying the fixture
file. -/
structure Spared (outputDir testsDir : Text) (groups : Groups) (asked : List Request)
    (error : GenerationError) (tree left : FileTree) : Prop where
  fixture : FixtureSpared outputDir testsDir asked error tree left
  /-- No starter test is written. -/
  skeleton : left.get? (skeletonPlace testsDir) = tree.get? (skeletonPlace testsDir) ∨
    (runDirs outputDir testsDir (skeletonPlace testsDir) ∧
      tree.get? (skeletonPlace testsDir) = none ∧
      left.get? (skeletonPlace testsDir) = some .directory)
  /-- Files are as before unless they are those of the services of the run. -/
  files : forall place content, tree.get? place = some (.file content) ->
    (∀ tag ∈ groups.keys, place ≠ Path.place outputDir ++ [serviceFileName (serviceName tag)]) ->
    left.get? place = some (.file content)

section Failure

variable {tree left : FileTree} {asked : List Request} {outputDir testsDir : Text}
  {options : GenerationOptions} {groups : Groups} {error : GenerationError}

theorem spared_of_changes
    (changes : Changes (runDirs outputDir testsDir) (servicePlaces outputDir groups.allServices)
      tree left) : Spared outputDir testsDir groups asked error tree left where
  fixture := by
    rcases changes.kept_or_made (fixturePlace_notMem_servicePlaces outputDir testsDir groups) with
      same | ⟨passed, free, directory⟩
    · exact .kept same
    · exact .passed passed free directory
  skeleton := by
    rcases changes.kept_or_made (skeletonPlace_notMem_servicePlaces outputDir testsDir groups) with
      same | ⟨passed, free, directory⟩
    · exact Or.inl same
    · exact Or.inr ⟨passed, free, directory⟩
  files := by
    intro place content here apart
    refine changes.stays ?_ here
    intro written
    rcases servicePlaces_iff.mp written with ⟨tag, member, same⟩
    exact apart tag member same

/-- An empty fixture file that is left behind is the only other thing that changes. -/
theorem Spared.leftEmpty {prepared : FileTree}
    (spared : Spared outputDir testsDir groups asked error tree prepared)
    (leftEmpty : LeftEmpty (Path.join testsDir fixtureFileName) prepared asked left error) :
    Spared outputDir testsDir groups asked error tree left := by
  obtain ⟨absent, empty, changes, unread⟩ := leftEmpty
  rw [place_fixture] at absent empty changes
  have elsewhere : forall place, place ≠ fixturePlace testsDir ->
      left.get? place = prepared.get? place := fun _ apart => changes.kept_of_nowhere apart
  refine ⟨.unread ?_ empty unread, ?_, ?_⟩
  · cases spared.fixture with
    | kept same => exact same ▸ absent
    | passed _ absent _ => exact absent
    | unread absent _ _ => exact absent
  · rw [elsewhere _ (fixturePlace_ne_skeletonPlace testsDir).symm]
    exact spared.skeleton
  · intro place content here apart
    have kept := spared.files place content here apart
    have other : place ≠ fixturePlace testsDir := by
      rintro rfl
      rw [absent] at kept
      cases kept
    rw [elsewhere place other]
    exact kept

theorem spared_of_stopped
    (stopped : Stopped outputDir testsDir groups.allServices tree asked left error) :
    Spared outputDir testsDir groups asked error tree left := by
  rcases stopped.spared with ⟨prepared, changes, same | leftEmpty⟩
  · exact spared_of_changes (same ▸ changes)
  · exact (spared_of_changes changes).leftEmpty leftEmpty

/-- A failure of writing is one of the disk or of the fixture file. -/
theorem failure_of_writeAll
    (execution : Execution tree (writeAll outputDir testsDir options groups.allServices) asked left
      (.error error)) :
    Stopped outputDir testsDir groups.allServices tree asked left error ∨
      ((Exists fun path => Exists fun cause => error = .disk path cause) ∧
        .change (.truncate (Path.join testsDir fixtureFileName)) ∈ asked ∧
        (forall bytes, tree.get? (fixturePlace testsDir) ≠ some (.file (.binary bytes))) ∧
        Exists fun next =>
          (mergeFixtureFile (priorText options.merge (tree.get? (fixturePlace testsDir)))
              (fixtureEntries testsDir outputDir options.importExtension groups.allServices)).outcome =
              .ok next ∧
            left.get? (fixturePlace testsDir) = some (.file (.text next))) := by
  rcases of_writeAll execution with ⟨other, same, stopped⟩ |
    ⟨prepared, updated, first, second, third, split, preparing, rewritten, finishing⟩
  · rw [Except.error.inj same]
    exact Or.inl stopped
  right
  have preparation := (confined_prepare _ _ _ _ _ _ _ preparing).1
  have ending := confined_finish _ _ _ _ _ _ _ _ finishing
  refine ⟨ending.2.2 error rfl, ?_, ?_, rewritten.fixture preparation ending.1⟩
  · rw [split]
    exact List.mem_append_right _ (List.mem_append_left _ rewritten.emptied)
  · intro bytes binary
    rcases rewritten.readable preparation with absent | ⟨text, here⟩
    · rw [absent] at binary
      cases binary
    · rw [here] at binary
      cases binary

end Failure

/-- However a run fails, the fixture file is not damaged.  Nothing is changed
when a method name is ambiguous or a directory is not named.  A run that refuses
the fixture file, or fails before it has been emptied, spares it; and one that
has emptied it leaves it with its new text. -/
theorem fixture_intact_of_failure {tree left : FileTree} {asked : List Request}
    {workingDirectory : Text} {options : GenerationOptions} {spec : Spec} {error : GenerationError}
    (execution : Execution tree (generate workingDirectory options spec) asked left (.error error)) :
    (((Exists fun cause => error = .ambiguousName cause) ∨
        options.outputDir = [] ∨ options.testsDir = []) -> left = tree) ∧
      forall outputDir testsDir,
        Path.absolute? workingDirectory options.outputDir = some outputDir ->
        Path.absolute? workingDirectory options.testsDir = some testsDir ->
        (((Exists fun cause => error = .malformedFixture cause) ∨
            (Exists fun bytes => tree.get? (fixturePlace testsDir) = some (.file (.binary bytes))) ∨
            .change (.truncate (Path.join testsDir fixtureFileName)) ∉ asked) ->
          Spared outputDir testsDir spec.groups asked error tree left) ∧
        (.change (.truncate (Path.join testsDir fixtureFileName)) ∈ asked -> Exists fun next =>
          (mergeFixtureFile (priorText options.merge (tree.get? (fixturePlace testsDir)))
              (fixtureEntries testsDir outputDir options.importExtension
                spec.groups.allServices)).outcome = .ok next ∧
            left.get? (fixturePlace testsDir) = some (.file (.text next))) := by
  rcases of_generate execution with ⟨nothing, same, _⟩ |
    ⟨outputDir, testsDir, output, tests, writing⟩
  · refine ⟨fun _ => same, ?_⟩
    intro outputDir testsDir _ _
    constructor
    · intro _
      rw [same]
      exact spared_of_changes (Changes.refl tree)
    · intro emptied
      rw [nothing] at emptied
      cases emptied
  · have named : ¬(options.outputDir = [] ∨ options.testsDir = []) := by
      rintro (empty | empty)
      · rw [(absolute?_eq_none_iff _ _).mpr empty] at output
        cases output
      · rw [(absolute?_eq_none_iff _ _).mpr empty] at tests
        cases tests
    have failure := failure_of_writeAll writing
    constructor
    · rintro (⟨cause, ambiguous⟩ | empty)
      · rcases failure with stopped | ⟨⟨path, cause, disk⟩, _⟩
        · rcases stopped.failed with ⟨path, cause, disk⟩ | ⟨cause, malformed⟩
          · rw [ambiguous] at disk
            cases disk
          · rw [ambiguous] at malformed
            cases malformed
        · rw [ambiguous] at disk
          cases disk
      · exact absurd empty named
    · intro outputDir' testsDir' output' tests'
      rw [output] at output'
      rw [tests] at tests'
      rw [← Option.some.inj output', ← Option.some.inj tests']
      rcases failure with stopped | ⟨⟨path, cause, disk⟩, emptied, readable, rewritten⟩
      · exact ⟨fun _ => spared_of_stopped stopped,
          fun emptied => absurd emptied (stopped.unemptied _)⟩
      · refine ⟨?_, fun _ => rewritten⟩
        rintro (⟨cause, malformed⟩ | ⟨bytes, binary⟩ | unemptied)
        · rw [malformed] at disk
          cases disk
        · exact absurd binary (readable bytes)
        · exact absurd emptied unemptied

/-- Options with a directory for services and one for tests. -/
def twoDirectories (outputDir : Text) : GenerationOptions where
  outputDir := outputDir
  testsDir := "tests".toList
  merge := true
  strict := true
  skeleton := true
  importExtension := ".js".toList

/-- A description with one operation. -/
def petSpec : Spec where
  version := none
  info := none
  paths := Keyed.ofList
    [("/pets".toList, Keyed.ofList [("get".toList, ⟨["pet".toList], none, none⟩)])]

/-- A disk with a fixture file that is refused. -/
def refusedTree : FileTree :=
  ⟨Keyed.ofList
    [ (["w".toList], .directory), (["w".toList, "tests".toList], .directory),
      (["w".toList, "tests".toList, "base.ts".toList],
        .file (.text "import pets from './pets';".toList)) ]⟩

theorem fixture_intact_of_refused_file :
    Spared "/w/services".toList "/w/tests".toList petSpec.groups
      (Execution.requests refusedTree
        (generate "/w".toList (twoDirectories "services".toList) petSpec))
      (.malformedFixture (.unrecognisedImport 1 "import pets from './pets';".toList)) refusedTree
      ((generate "/w".toList (twoDirectories "services".toList) petSpec).run refusedTree).1 := by
  have failed :
      ((generate "/w".toList (twoDirectories "services".toList) petSpec).run refusedTree).2.outcome =
        .error (.malformedFixture (.unrecognisedImport 1 "import pets from './pets';".toList)) := by
    decide +kernel
  have execution := Execution.run refusedTree
    (generate "/w".toList (twoDirectories "services".toList) petSpec)
  rw [failed] at execution
  have kept := (fixture_intact_of_failure execution).2 "/w/services".toList "/w/tests".toList
    (by decide +kernel) (by decide +kernel)
  exact kept.1 (Or.inl ⟨_, rfl⟩)

/-- The answers of a tree on a disk from which nothing can be read. -/
def answerUnread (tree : FileTree) : (request : Request) -> FileTree × request.Reply
  | .change change => tree.carryOut change
  | .isTaken path => (tree, tree.isTaken path)
  | .read _ => (tree, .error (.other "Input/output error (os error 5)".toList))

theorem answers_answerUnread (tree : FileTree) (request : Request) :
    Answers tree request (answerUnread tree request).1 (answerUnread tree request).2 := by
  cases request with
  | change change => exact Or.inl rfl
  | isTaken path => exact ⟨rfl, rfl⟩
  | read path => exact ⟨rfl, Or.inr ⟨_, rfl⟩⟩

/-- The place of the fixture file does not always stay empty.  It can be taken by a
directory of the run, or by an empty file that could not be read. -/
theorem fixturePlace_not_always_free :
    (¬forall tree workingDirectory options spec error outputDir testsDir,
      ((generate workingDirectory options spec).run tree).2.outcome = .error error ->
      Path.absolute? workingDirectory options.outputDir = some outputDir ->
      Path.absolute? workingDirectory options.testsDir = some testsDir ->
      .change (.truncate (Path.join testsDir fixtureFileName)) ∉
        Execution.requests tree (generate workingDirectory options spec) ->
      tree.get? (fixturePlace testsDir) = none ->
      ((generate workingDirectory options spec).run tree).1.get? (fixturePlace testsDir) = none) ∧
    Exists fun asked => Exists fun left => Exists fun error =>
      Execution FileTree.bare (generate "/w".toList (twoDirectories "services".toList) petSpec) asked
        left (.error error) ∧
      .change (.truncate (Path.join "/w/tests".toList fixtureFileName)) ∉ asked ∧
      FileTree.bare.get? (fixturePlace "/w/tests".toList) = none ∧
      left.get? (fixturePlace "/w/tests".toList) = some (.file (.text [])) := by
  constructor
  · intro free
    have taken : ((generate "/w".toList (twoDirectories "tests/base.ts".toList)
        ⟨none, none, Keyed.empty⟩).run FileTree.bare).1.get? (fixturePlace "/w/tests".toList) =
          some .directory := by
      decide +kernel
    have absent := free FileTree.bare "/w".toList (twoDirectories "tests/base.ts".toList)
      ⟨none, none, Keyed.empty⟩ (.disk "/w/tests/base.ts".toList .isADirectory)
      "/w/tests/base.ts".toList "/w/tests".toList
      (by decide +kernel) (by decide +kernel) (by decide +kernel) (by decide +kernel)
      (by decide +kernel)
    rw [taken] at absent
    cases absent
  · have execution := Execution.of_answers answers_answerUnread FileTree.bare
      (generate "/w".toList (twoDirectories "services".toList) petSpec)
    have failed : (Execution.answeredBy answerUnread FileTree.bare
        (generate "/w".toList (twoDirectories "services".toList) petSpec)).2.2 =
          .error (.disk "/w/tests/base.ts".toList
            (.other "Input/output error (os error 5)".toList)) := by
      decide +kernel
    rw [failed] at execution
    exact ⟨_, _, _, execution, by decide +kernel, by decide +kernel, by decide +kernel⟩

end Generation
end ApiServices
