import ApiServices.Proofs.Disk.Endings
import ApiServices.Proofs.Generation.Inversion

namespace ApiServices
namespace Generation

/-!
# What stands after a run

Once a run has succeeded, the stages of an equal run find their work done.  The
two directories are there, every service file has its last content, the fixture
file has its text and something is in the place of the starter test.  Going
through a stage once more then succeeds and leaves the tree as it is.

In between the tree may be another one.  When several tags come to one service,
its file is written with each content in turn, and the fixture file is empty
before it has its text again.
-/

section Ending

variable {tree left : FileTree} {path : Text}

theorem ends_demand {change : Change} (granted : tree.carryOut change = (left, .ok ())) :
    Ends tree (demand path change) left (.ok ()) := by
  refine Ends.bind (Ends.perform tree (.change change)) ?_
  change Ends (tree.carryOut change).1 (require path (tree.carryOut change).2) left (.ok ())
  rw [granted]
  exact Ends.done left (.ok ())

theorem ends_info (tree : FileTree) (message : Text) : Ends tree (info message) tree (.ok ()) :=
  (Ends.done tree (.ok ())).note

end Ending

/-! ## Directories and services -/

/-- A tree in which the preparations of a run have been made. -/
structure Prepared (outputDir testsDir : Text) (services : List Service) (tree : FileTree) :
    Prop where
  output : tree.HasDirs outputDir
  tests : tree.HasDirs testsDir
  files : ∀ service ∈ services, tree.HasFile (servicePath outputDir service)
  contents : LastWritten outputDir services tree

section Preparation

variable {tree left start : FileTree} {asked : List Request} {outputDir testsDir : Text}
  {services : List Service}

theorem hasFile_of_writeServices
    (execution : Execution tree (services.forM (writeService outputDir)) asked left (.ok ())) :
    ∀ service ∈ services, left.HasFile (servicePath outputDir service) := by
  induction services generalizing tree asked with
  | nil =>
    intro service member
    cases member
  | cons first rest ih =>
    rcases Execution.of_bind_ok execution with ⟨middle, _, _, _, _, writing, others⟩
    refine List.forall_mem_cons.mpr ⟨?_, ih others⟩
    have changes := (confined_writeServices outputDir rest _ _ _ _ others).1
    exact (FileTree.hasFile_of_write (write_of_writeService writing)).of_changes changes

/-- After the preparations of a run, they have been made. -/
theorem prepared_of_prepare
    (execution : Execution tree (prepare outputDir testsDir services) asked left (.ok ())) :
    Prepared outputDir testsDir services left := by
  have contents := (of_prepare execution).2
  rcases Execution.of_bind_ok execution with ⟨opened, _, _, _, _, directory, rest⟩
  rcases Execution.of_bind_ok rest with ⟨filled, _, _, _, _, writing, ending⟩
  have writes := (confined_writeServices outputDir services _ _ _ _ writing).1
  have final := (confined_makeDirs testsDir _ _ _ _ ending).1
  have made : tree.makeDirs outputDir = (opened, .ok ()) := of_demand_ok directory
  have madeTests : filled.makeDirs testsDir = (left, .ok ()) := of_demand_ok ending
  exact
    { output := ((FileTree.hasDirs_of_makeDirs made).of_changes writes).of_changes final
      tests := FileTree.hasDirs_of_makeDirs madeTests
      files := fun service member => (hasFile_of_writeServices writing service member).of_changes final
      contents := contents }

/-- What is written elsewhere does not undo the preparations. -/
theorem Prepared.of_changes {dirs files : Place -> Prop}
    (prepared : Prepared outputDir testsDir services tree) (changes : Changes dirs files tree left)
    (apart : forall place, servicePlaces outputDir services place -> ¬files place) :
    Prepared outputDir testsDir services left where
  output := prepared.output.of_changes changes
  tests := prepared.tests.of_changes changes
  files := fun service member => (prepared.files service member).of_changes changes
  contents := by
    intro before service later split last
    refine changes.stays (apart _ ⟨service, ?_, rfl⟩) (prepared.contents before service later split last)
    rw [split]
    exact List.mem_append_right _ List.mem_cons_self

/-- Writing all services again gives the files the contents that they had, from
whichever contents they have in between. -/
theorem ends_writeServices
    (files : ∀ service ∈ services, tree.HasFile (servicePath outputDir service))
    (contents : LastWritten outputDir services tree)
    (rewrites : FileTree.Rewrites (servicePlaces outputDir services) tree start) :
    Ends start (services.forM (writeService outputDir)) tree (.ok ()) := by
  induction services generalizing start with
  | nil =>
    have none : servicePlaces outputDir [] = nowhere := by
      funext place
      apply propext
      constructor
      · rintro ⟨_, impossible, _⟩
        cases impossible
      · exact False.elim
    rw [none] at rewrites
    rw [rewrites.eq]
    exact Ends.done tree (.ok ())
  | cons service rest ih =>
    have standing := files service List.mem_cons_self
    have writing : Ends start (writeService outputDir service)
        (start.put (Path.place (servicePath outputDir service)) (.file (.text service.content)))
        (.ok ()) := by
      refine Ends.bind (ends_demand ?_) (ends_info _ _)
      change start.changed (start.write _ _) = _
      rw [(standing.of_changes rewrites.changes).write]
      rfl
    refine Ends.bind writing (ih ?_ ?_ ?_)
    · exact fun other member => files other (List.mem_cons_of_mem service member)
    · intro before other later split last
      exact contents (service :: before) other later (congrArg (service :: ·) split) last
    · rcases standing with ⟨former, writable⟩
      refine rewrites.put (FileTree.fileAt_eq_ok_iff.mp writable).2.1 ?_
      intro place unwritten
      by_cases same : place = Path.place (servicePath outputDir service)
      · exact Or.inl ⟨same, contents [] service rest rfl (same ▸ unwritten)⟩
      · refine Or.inr ⟨same, ?_⟩
        rintro ⟨other, member, there⟩
        rcases List.mem_cons.mp member with here | later
        · exact same (here ▸ there)
        · exact unwritten ⟨other, later, there⟩

/-- Preparations that have been made can be made again, and change nothing. -/
theorem ends_prepare (prepared : Prepared outputDir testsDir services tree) :
    Ends tree (prepare outputDir testsDir services) tree (.ok ()) := by
  have output : tree.carryOut (.makeDirs outputDir) = (tree, .ok ()) :=
    FileTree.makeDirs_of_hasDirs prepared.output
  have tests : tree.carryOut (.makeDirs testsDir) = (tree, .ok ()) :=
    FileTree.makeDirs_of_hasDirs prepared.tests
  have writing := ends_writeServices prepared.files prepared.contents
    (FileTree.rewrites_refl _ tree)
  exact (ends_demand output).bind (writing.bind (ends_demand tests))

end Preparation

/-! ## The fixture file -/

section Update

variable {tree left : FileTree} {asked : List Request} {path former : Text}
  {entries : List (Text × Text)} {merge : Bool}

theorem hasFile_of_updateFixtureFile
    (execution : Execution tree (updateFixtureFile path entries merge) asked left (.ok ())) :
    left.HasFile path := by
  rcases Execution.of_bind_ok execution with ⟨opened, _, _, _, _, opening, rest⟩
  have standing := FileTree.hasFile_of_openFile (of_changed_ok (of_demand_ok opening))
  rcases of_lockedUpdate rest with ⟨renewing, renewal, _⟩
  rcases standing with ⟨content, writable⟩
  rcases of_renewFixtureFile writable renewal with ⟨_, impossible, _⟩ | rewritten
  · cases impossible
  · exact FileTree.HasFile.of_changes ⟨content, writable⟩ rewritten.changes

theorem ends_nextFixtureText (tree : FileTree) (path : Text) (entries : List (Text × Text))
    (merge : Bool) (existing : Text) :
    Ends tree (nextFixtureText path entries merge existing) tree
      ((mergeFixtureFile (priorText merge (some (.file (.text existing)))) entries).outcome.mapError
        .malformedFixture) := by
  rcases Ends.of_silent (silent_nextFixtureText path entries merge existing) with
    ⟨outcome, same, ends⟩
  exact same ▸ ends

theorem ends_of_read {next : Text -> Action Unit} {outcome : Except GenerationError Unit}
    (standing : tree.HasFile path)
    (here : tree.get? (Path.place path) = some (.file (.text former)))
    (later : Ends tree (next former) left outcome) :
    Ends tree (Program.perform (.read path) >>= fun reply => require path reply >>= next) left
      outcome := by
  refine Ends.bind (Ends.perform tree (.read path)) ?_
  change Ends tree (require path (tree.read path) >>= next) left outcome
  rw [standing.read here]
  exact Ends.bind (Ends.done tree (.ok former)) later

/-- A file that is there can be emptied and filled. -/
theorem ends_refill (standing : tree.HasFile path) (next : Text) :
    Ends tree (demand path (.truncate path) >>= fun _ => demand path (.fill path next))
      ((tree.put (Path.place path) (.file (.text []))).put (Path.place path) (.file (.text next)))
      (.ok ()) := by
  have cutting : tree.carryOut (.truncate path) =
      (tree.put (Path.place path) (.file (.text [])), .ok ()) := by
    change tree.changed (tree.write path (.text [])) = _
    rw [standing.write]
    rfl
  rcases standing with ⟨former, writable⟩
  have still := FileTree.hasFile_of_fileAt (FileTree.fileAt_put (.text []) writable)
  have filling : (tree.put (Path.place path) (.file (.text []))).carryOut (.fill path next) =
      ((tree.put (Path.place path) (.file (.text []))).put (Path.place path) (.file (.text next)),
        .ok ()) := by
    change FileTree.changed _ (FileTree.write _ path (.text next)) = _
    rw [still.write]
    rfl
  exact (ends_demand cutting).bind (ends_demand filling)

/-- Emptying a file and filling it with the text that it had changes nothing. -/
theorem ends_overwrite (standing : tree.HasFile path)
    (here : tree.get? (Path.place path) = some (.file (.text former))) :
    Ends tree (demand path (.truncate path) >>= fun _ => demand path (.fill path former)) tree
      (.ok ()) := by
  have blank : FileTree.Rewrites (· = Path.place path) tree
      (tree.put (Path.place path) (.file (.text []))) := by
    refine (FileTree.rewrites_refl (· = Path.place path) tree).put here ?_
    exact fun other apart => Or.inr ⟨apart, apart⟩
  have filled : FileTree.Rewrites nowhere tree
      ((tree.put (Path.place path) (.file (.text []))).put (Path.place path)
        (.file (.text former))) := by
    refine blank.put here fun other _ => ?_
    by_cases same : other = Path.place path
    · exact Or.inl ⟨same, here⟩
    · exact Or.inr ⟨same, same⟩
  have refilled := ends_refill standing former
  rwa [filled.eq] at refilled

/-- A file whose merged text is the text that it has stays as it is. -/
theorem ends_renewFixtureFile (standing : tree.HasFile path)
    (here : tree.get? (Path.place path) = some (.file (.text former)))
    (same : (mergeFixtureFile (priorText merge (some (.file (.text former)))) entries).outcome =
      .ok former) :
    Ends tree (renewFixtureFile path entries merge) tree (.ok ()) := by
  have merging := ends_nextFixtureText tree path entries merge former
  rw [same] at merging
  exact ends_of_read standing here (merging.bind (ends_overwrite standing here))

/-- So does a file that is refused. -/
theorem ends_renewFixtureFile_of_refused {cause : FixtureError} (standing : tree.HasFile path)
    (here : tree.get? (Path.place path) = some (.file (.text former)))
    (refused : (mergeFixtureFile (priorText merge (some (.file (.text former)))) entries).outcome =
      .error cause) :
    Ends tree (renewFixtureFile path entries merge) tree (.error (.malformedFixture cause)) := by
  have merging := ends_nextFixtureText tree path entries merge former
  rw [refused] at merging
  exact ends_of_read standing here merging.bind_error

/-- An update of a file that can be opened ends as the work on the opened file
does. -/
theorem ends_updateFixtureFile {opened : FileTree} {outcome : Except GenerationError Unit}
    (opening : tree.openFile path = .ok opened)
    (renewing : Ends opened (renewFixtureFile path entries merge) left outcome) :
    Ends tree (updateFixtureFile path entries merge) left outcome := by
  have granted : tree.carryOut (.openFile path) = (opened, .ok ()) := by
    change tree.changed (tree.openFile path) = _
    rw [opening]
    rfl
  refine (ends_demand granted).bind ?_
  refine Ends.bind (ends_demand rfl) ?_
  refine Ends.bind renewing.attempt ?_
  refine Ends.bind (Ends.perform left (.change (.unlock path))) ?_
  cases outcome with
  | ok done => exact Ends.done left (.ok done)
  | error error => exact Ends.done left (.error error)

end Update

/-! ## The starter test -/

section Finish

variable {tree left : FileTree} {asked : List Request} {outputDir testsDir path : Text}
  {options : GenerationOptions} {services : List Service} {report : GenerationReport}

theorem isTaken_of_writeSkeleton {started : List Text}
    (execution : Execution tree (writeSkeleton path) asked left (.ok started)) :
    left.isTaken path = true := by
  rcases Execution.of_perform_bind execution with ⟨_, taken, _, _, ⟨same, answered⟩, after⟩
  rw [same] at after
  cases taken with
  | true =>
    rw [(Execution.of_done (Execution.of_note after)).2.1]
    exact answered.symm
  | false =>
    rcases Execution.of_bind_ok after with ⟨written, _, _, _, _, writing, ending⟩
    rw [(Execution.of_done ending).2.1]
    exact FileTree.isTaken_of_hasFile
      (FileTree.hasFile_of_write (of_changed_ok (of_demand_ok writing)))

theorem isTaken_of_finish (wanted : options.skeleton = true)
    (execution : Execution tree (finish outputDir testsDir options services) asked left
      (.ok report)) :
    left.isTaken (Path.join testsDir skeletonFileName) = true := by
  rcases Execution.of_bind_ok execution with ⟨_, _, _, _, _, _, rest⟩
  rcases Execution.of_bind_ok rest with ⟨_, _, _, _, _, starting, reporting⟩
  unfold startTest at starting
  rw [wanted] at starting
  rw [(Execution.of_done reporting).2.1]
  exact isTaken_of_writeSkeleton starting

/-- A starter test that is there is left alone. -/
theorem ends_finish (taken : options.skeleton = true ->
      tree.isTaken (Path.join testsDir skeletonFileName) = true) :
    Ends tree (finish outputDir testsDir options services) tree
      (.ok ⟨services.map Service.name,
        services.map (servicePath outputDir) ++ [Path.join testsDir fixtureFileName]⟩) := by
  have starting : Ends tree (startTest testsDir options) tree (.ok []) := by
    unfold startTest
    cases wanted : options.skeleton with
    | false => exact Ends.done tree (.ok [])
    | true =>
      refine Ends.bind (Ends.perform tree (.isTaken _)) ?_
      change Ends tree (if tree.isTaken (Path.join testsDir skeletonFileName) then _ else _) tree _
      rw [taken wanted]
      exact (Ends.done tree (.ok [])).note
  exact (ends_info tree _).bind (starting.bind (Ends.done tree _))

end Finish

end Generation
end ApiServices
