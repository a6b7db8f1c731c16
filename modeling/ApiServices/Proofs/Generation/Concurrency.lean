import ApiServices.Proofs.Generation.Coordination

namespace ApiServices
namespace Generation

/-!
# Runs that share a fixture file

Runs that work on one fixture file at the same time come out as if they had done
so one after the other, in the order in which they obtained the lock.  That they
come to an end at all takes two more facts: turns cannot go on without end, and
the lock never holds everybody back, because its holder never waits.

A request that fails stops the run that made it for good here, as if it were
still waiting for the reply.  So what is said of the end of all runs is said of
runs without a failure.
-/

section Whole

variable {home : Place} {runs : List (SharingRun home)} {set : FixtureSet}
  {shared : Shared GenerationError GenerationReport} {stage : Nat -> Stage}

/-- Before the first turn there is no fixture file and no entry, or the file has been
written for the entries. -/
def Begins (set : FixtureSet) (entry : Option DiskEntry) : Prop :=
  (entry = none ∧ set = Keyed.empty) ∨ entry = some (.file (.text set.render))

/-- Runs that share a disk, before the first turn. -/
def sharedRuns (tree : FileTree) (runs : List (SharingRun home)) :
    Shared GenerationError GenerationReport :=
  Shared.start tree (runs.map SharingRun.program)

theorem coordinated_sharedRuns {tree : FileTree} (begins : Begins set (tree.get? home)) :
    Coordinated runs set (sharedRuns tree runs) fun _ => .before where
  count := List.length_map _
  follows := by
    intro who program here
    change (runs.map SharingRun.program)[who]? = some program at here
    rw [List.getElem?_map] at here
    obtain ⟨run, found, same⟩ := Option.map_eq_some_iff.mp here
    exact ⟨run, found, same ▸ run.follows_program⟩
  before := fun _ => iff_of_true rfl List.not_mem_nil
  distinct := List.nodup_nil
  within := fun _ impossible => nomatch impossible
  file := by
    refine FileState.free rfl (fun _ impossible => nomatch impossible) ?_
    change Resting runs set [] (tree.get? home)
    rcases begins with ⟨absent, nothing⟩ | written
    · exact Resting.blank rfl nothing (Or.inl absent)
    · rw [written]
      exact Resting.written

namespace Coordinated

theorem exists_program {who : Nat} (coordinated : Coordinated runs set shared stage)
    (inside : who < runs.length) :
    Exists fun program => shared.running[who]? = some program :=
  ⟨_, List.getElem?_eq_getElem (coordinated.count ▸ inside)⟩

/-- A program that has ended has succeeded, and is past its last stage. -/
theorem of_done {who : Nat} {outcome : Except GenerationError GenerationReport}
    (coordinated : Coordinated runs set shared stage) (faithful : set.Faithful)
    (here : shared.running[who]? = some (.done outcome)) :
    stage who = .after ∧ Exists fun report => outcome = .ok report := by
  obtain ⟨run, found, follows⟩ := coordinated.follows who _ here
  generalize reached : stage who = s at follows
  cases follows with
  | ended report => exact ⟨rfl, report, rfl⟩
  | refused refused =>
    obtain ⟨_, _, merging⟩ := coordinated.merging found faithful reached
    rw [merging] at refused
    cases refused

/-- A run asks for no lock but that of the fixture file, and only once. -/
theorem waiting_of_lock {who : Nat} {path : Text}
    {next : Except DiskError Unit -> Action GenerationReport}
    (coordinated : Coordinated runs set shared stage) (faithful : set.Faithful)
    (here : shared.running[who]? = some (.ask (.change (.lock path)) next)) :
    stage who = .before ∧ Path.place path = home := by
  obtain ⟨run, found, follows⟩ := coordinated.follows who _ here
  generalize reached : stage who = s at follows
  cases follows with
  | quiet _ quiet _ => exact absurd rfl (quiet.ne_lock path)
  | lock _ => exact ⟨rfl, run.place_path⟩
  | refused refused =>
    obtain ⟨_, _, merging⟩ := coordinated.merging found faithful reached
    rw [merging] at refused
    cases refused

/-- Where no program can take a turn, and none meets a failure, all have ended:
a holder of the lock could go on, and without a holder nobody waits. -/
theorem allEnded_of_stuck (coordinated : Coordinated runs set shared stage)
    (faithful : set.Faithful) (stuck : forall who, shared.turn? who = none)
    (unfailing : forall who, shared.failing who = false) : shared.allEnded = true := by
  have blocked : forall who program, shared.running[who]? = some program ->
      (Exists fun outcome => program = .done outcome) ∨
        stage who = .before ∧ (shared.holder home).isSome := by
    intro who program here
    rcases Shared.cases_of_turn?_eq_none (stuck who) here with ended | failed | ⟨path, next, waits, held⟩
    · exact Or.inl ended
    · rw [unfailing who] at failed
      cases failed
    · rw [waits] at here
      obtain ⟨waiting, place⟩ := coordinated.waiting_of_lock faithful here
      exact Or.inr ⟨waiting, place ▸ held⟩
  have unheld : shared.holder home = none := by
    cases coordinated.file with
    | free unheld _ _ => exact unheld
    | @held who run earlier holder =>
      obtain ⟨program, here⟩ :=
        coordinated.exists_program (List.getElem?_eq_some_iff.mp holder.here).1
      rcases blocked who program here with ⟨outcome, ended⟩ | ⟨waiting, _⟩
      · have atWork := holder.atWork
        rw [(coordinated.of_done faithful (ended ▸ here)).1] at atWork
        cases atWork
      · exact absurd waiting (holder.entered coordinated)
  refine List.all_eq_true.mpr fun program member => ?_
  obtain ⟨who, here⟩ := List.getElem?_of_mem member
  rcases blocked who program here with ⟨outcome, ended⟩ | ⟨_, held⟩
  · rw [ended]
  · rw [unheld] at held
    cases held

/-- Once all programs have ended, each run has had the lock once, and the file holds
the entries of all of them. -/
theorem of_allEnded (coordinated : Coordinated runs set shared stage) (faithful : set.Faithful)
    (ended : shared.allEnded = true) :
    (shared.lockOrder home).Perm (List.range runs.length) ∧
      Resting runs set (shared.lockOrder home) (shared.tree.get? home) := by
  have after : forall who, who < runs.length -> stage who = .after := by
    intro who inside
    obtain ⟨program, here⟩ := coordinated.exists_program inside
    have done := List.all_eq_true.mp ended program (List.mem_of_getElem? here)
    cases program with
    | done outcome => exact (coordinated.of_done faithful here).1
    | note record rest => cases done
    | ask request next => cases done
  constructor
  · apply (List.perm_ext_iff_of_nodup coordinated.distinct List.nodup_range).mpr
    intro who
    rw [List.mem_range]
    refine ⟨coordinated.within who, fun inside => ?_⟩
    apply Decidable.not_not.mp
    intro absent
    have waiting := (coordinated.before who).mpr absent
    rw [after who inside] at waiting
    cases waiting
  · cases coordinated.file with
    | free _ _ resting => exact resting
    | @held who run earlier holder =>
      have atWork := holder.atWork
      rw [after who (List.getElem?_eq_some_iff.mp holder.here).1] at atWork
      cases atWork

end Coordinated

/-- What is known of runs at some point of their turns. -/
structure Serialized (runs : List (SharingRun home)) (set : FixtureSet) (tree : FileTree)
    (shared : Shared GenerationError GenerationReport) : Prop where
  /-- Every run that has ended has succeeded. -/
  succeeded : forall (who : Nat) (outcome : Except GenerationError GenerationReport),
    shared.running[who]? = some (.done outcome) -> Exists fun report => outcome = .ok report
  /-- The lock never holds all of them back. -/
  progress : (forall who, shared.turn? who = none) -> (forall who, shared.failing who = false) ->
    shared.allEnded = true
  /-- In the end every run has obtained the lock once. -/
  order : shared.allEnded = true -> (shared.lockOrder home).Perm (List.range runs.length)
  /-- In the end the file says what merging in this order gives, provided that
  there is a file. -/
  text : shared.allEnded = true -> runs ≠ [] ∨ tree.get? home ≠ none -> Exists fun text =>
    shared.tree.get? home = some (.file (.text text)) ∧
      (FixtureSet.parse text).outcome = .ok (mergedInOrder runs set (shared.lockOrder home))
  /-- These are the earlier names and those of all runs, each of them once. -/
  names : shared.allEnded = true -> forall name,
    (mergedInOrder runs set (shared.lockOrder home)).keys.count name =
      if name ∈ set.keys ∨ Exists fun run => run ∈ runs ∧ name ∈ run.entries.map Prod.fst
      then 1 else 0

theorem mem_batchesInOrder {order : List Nat} (permuted : order.Perm (List.range runs.length))
    {batch : List (Text × Text)} :
    batch ∈ batchesInOrder runs order ↔ Exists fun run => run ∈ runs ∧ run.entries = batch := by
  have among : forall run, run ∈ order.filterMap (fun who => runs[who]?) ↔ run ∈ runs := by
    intro run
    rw [List.mem_filterMap, List.mem_iff_getElem?]
    refine exists_congr fun who => and_iff_right_of_imp fun here => ?_
    exact permuted.mem_iff.mpr (List.mem_range.mpr (List.getElem?_eq_some_iff.mp here).1)
  rw [batchesInOrder, List.mem_map]
  simp only [among]

/-- Without runs nothing happens. -/
theorem eq_of_play_nil {tree : FileTree} {turns : List Nat}
    (played : (sharedRuns tree ([] : List (SharingRun home))).play turns = some shared) :
    shared = sharedRuns tree ([] : List (SharingRun home)) := by
  cases turns with
  | nil => exact (Option.some.inj played).symm
  | cons who rest => cases played

/-- Runs that work on one fixture file at the same time all succeed, in whichever
order they take their turns, and none of their entries is lost: the file comes to
say what the same runs would have made it say one after the other, in the order in
which they obtained the lock. -/
theorem concurrent_runs_serialized (runs : List (SharingRun home)) (set : FixtureSet)
    (tree : FileTree) (faithful : set.Faithful) (begins : Begins set (tree.get? home)) :
    (forall choice : Nat -> Nat, Exists fun count =>
        (sharedRuns tree runs).play ((List.range count).map choice) = none) ∧
      forall turns shared, (sharedRuns tree runs).play turns = some shared ->
        Serialized runs set tree shared := by
  refine ⟨Shared.play_ends _, fun turns shared played => ?_⟩
  obtain ⟨stage, coordinated⟩ := Shared.play_induction
    (P := fun shared => Exists fun stage => Coordinated runs set shared stage)
    (fun _ _ _ ⟨_, coordinated⟩ taken => coordinated_turn faithful coordinated taken)
    ⟨_, coordinated_sharedRuns begins⟩ played
  refine
    { succeeded := fun who outcome here => (coordinated.of_done faithful here).2
      progress := coordinated.allEnded_of_stuck faithful
      order := fun ended => (coordinated.of_allEnded faithful ended).1
      text := ?_
      names := ?_ }
  · intro ended exists_file
    obtain ⟨permuted, resting⟩ := coordinated.of_allEnded faithful ended
    generalize here : shared.tree.get? home = entry at resting
    cases resting with
    | written => exact ⟨_, rfl, (faithful_mergedInOrder runs set faithful _).parse_render⟩
    | blank unmerged _ _ =>
      -- Nobody has merged anything, so there is no run, and the file is the first one.
      rw [unmerged] at permuted ⊢
      have none : runs = [] := by
        have empty := permuted.symm.eq_nil
        rwa [List.range_eq_nil, List.length_eq_zero_iff] at empty
      have absent := exists_file.resolve_left fun some => some none
      rw [none] at played
      rw [eq_of_play_nil played] at here
      rcases begins with ⟨free, _⟩ | written
      · exact absurd free absent
      · exact ⟨_, here.symm.trans written, faithful.parse_render⟩
  · intro ended name
    have permuted := (coordinated.of_allEnded faithful ended).1
    have given : (Exists fun batch => batch ∈ batchesInOrder runs (shared.lockOrder home) ∧
        name ∈ batch.map Prod.fst) ↔
        Exists fun run => run ∈ runs ∧ name ∈ run.entries.map Prod.fst := by
      simp only [mem_batchesInOrder permuted]
      constructor
      · rintro ⟨_, ⟨run, member, rfl⟩, inside⟩
        exact ⟨run, member, inside⟩
      · rintro ⟨run, member, inside⟩
        exact ⟨run.entries, ⟨run, member, rfl⟩, inside⟩
    rw [mergedInOrder, (FixtureSet.mergedInTurn_mergedAll set _).once name]
    simp only [given]

end Whole

/-! ### Two runs -/

/-- The place of a fixture file. -/
def sharedHome : Place :=
  ["w".toList, "tests".toList, "base.ts".toList]

def petRun : SharingRun sharedHome where
  workingDirectory := "/w".toList
  options := twoDirectories "services".toList
  spec := petSpec
  outputDir := "/w/services".toList
  testsDir := "/w/tests".toList
  output := by decide +kernel
  tests := by decide +kernel
  shares := by decide +kernel
  keeps := rfl
  unambiguous := by decide +kernel
  carried := by decide +kernel

/-- Another run that comes to the same file by another path. -/
def storeRun : SharingRun sharedHome where
  workingDirectory := "/w/tests".toList
  options := { twoDirectories "/api".toList with testsDir := "../tests".toList, skeleton := false }
  spec :=
    { version := none
      info := none
      paths := Keyed.ofList
        [("/orders".toList, Keyed.ofList [("post".toList, ⟨["store".toList], none, none⟩)])] }
  outputDir := "/api".toList
  testsDir := "/w/tests/../tests".toList
  output := by decide +kernel
  tests := by decide +kernel
  shares := by decide +kernel
  keeps := rfl
  unambiguous := by decide +kernel
  carried := by decide +kernel

/-- The second run obtains the lock first, and the first run opens the file while
it is empty. -/
def overlappingTurns : List Nat :=
  List.replicate 5 0 ++ List.replicate 10 1 ++ [0] ++ List.replicate 3 1 ++ List.replicate 9 0

theorem concurrent_runs_serialized_of_overlappingTurns :
    Exists fun shared =>
      (sharedRuns FileTree.bare [petRun, storeRun]).play overlappingTurns = some shared ∧
        shared.allEnded = true ∧ shared.lockOrder sharedHome = [1, 0] ∧
        Serialized [petRun, storeRun] Keyed.empty FileTree.bare shared := by
  have ending : ((sharedRuns FileTree.bare [petRun, storeRun]).play overlappingTurns).map
      (fun shared => (shared.allEnded, shared.lockOrder sharedHome)) = some (true, [1, 0]) := by
    decide +kernel
  obtain ⟨shared, played, known⟩ := Option.map_eq_some_iff.mp ending
  obtain ⟨ended, order⟩ := Prod.mk.inj known
  have begins : Begins Keyed.empty (FileTree.bare.get? sharedHome) := Or.inl ⟨rfl, rfl⟩
  have serialized := (concurrent_runs_serialized [petRun, storeRun] Keyed.empty FileTree.bare
    FixtureSet.faithful_empty begins).2 overlappingTurns shared played
  exact ⟨shared, played, ended, order, serialized⟩

end Generation
end ApiServices
