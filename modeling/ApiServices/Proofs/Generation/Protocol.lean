import ApiServices.Proofs.Disk.Sharing
import ApiServices.Proofs.Generation.Inversion

namespace ApiServices
namespace Generation

/-!
# What a run does to a fixture file that it shares

Seen from the fixture file, a run is quiet at first, though it may make an empty
file where none is.  It waits for the lock, reads the file, empties it, writes
the merged text, lets go of the lock and is quiet again.  No other order is
possible, whatever the replies are, as long as they report no failure.

The text that was read can be refused.  What a run does then is left open here;
whoever shows that a file is never refused need not know it.
-/

/-! ## Quiet requests -/

/-- Requests that do not touch the file at a place, except that it may be made
there. -/
inductive Quiet (home : Place) : Request -> Prop
  | makeDirs (path : Text) : Quiet home (.change (.makeDirs path))
  | write (path text : Text) (elsewhere : Path.place path ≠ home) :
      Quiet home (.change (.write path text))
  | openFile (path : Text) : Quiet home (.change (.openFile path))
  | isTaken (path : Text) : Quiet home (.isTaken path)

section QuietRequests

variable {home : Place} {request : Request}

/-- A quiet request leaves the entry at the place, or makes an empty one. -/
theorem Quiet.entry (quiet : Quiet home request) (tree : FileTree) :
    (tree.answer request).1.get? home = tree.get? home ∨
      tree.get? home = none ∧
        ((tree.answer request).1.get? home = some .directory ∨
          (tree.answer request).1.get? home = some (.file (.text []))) := by
  cases quiet with
  | makeDirs path =>
    have changes := FileTree.changes_makeDirs tree path
    rcases changes.kept_or_made (id : ¬nowhere home) with same | ⟨_, free, made⟩
    · exact Or.inl same
    · exact Or.inr ⟨free, Or.inl made⟩
  | write path text elsewhere =>
    have changes := changes_carryOut_write tree path text
    rcases changes.kept_or_made (Ne.symm elsewhere) with same | ⟨impossible, _⟩
    · exact Or.inl same
    · exact impossible.elim
  | isTaken path => exact Or.inl rfl
  | openFile path =>
    change (tree.changed (tree.openFile path)).1.get? home = _ ∨
      _ ∧ ((tree.changed (tree.openFile path)).1.get? home = _ ∨
        (tree.changed (tree.openFile path)).1.get? home = _)
    cases opened : tree.openFile path with
    | error cause => exact Or.inl rfl
    | ok left =>
      obtain ⟨found, ⟨same, _⟩ | ⟨made, writable⟩⟩ := FileTree.fileAt_of_openFile opened
      · exact Or.inl (same ▸ rfl)
      · have free := (FileTree.fileAt_eq_ok_iff.mp writable).2.1
        have vacant := FileTree.free_of_fileAt writable
        change left.get? home = _ ∨ _ ∧ (left.get? home = _ ∨ left.get? home = _)
        rw [made]
        by_cases here : home = found
        · rw [here]
          exact Or.inr ⟨free, Or.inr (FileTree.get?_put_file _ vacant)⟩
        · rw [FileTree.get?_put _ _ _ _ (FileTree.ne_root_of_get? vacant), if_neg here]
          exact Or.inl rfl

theorem Quiet.ne_lock (quiet : Quiet home request) (path : Text) :
    request ≠ .change (.lock path) := by
  intro same
  rw [same] at quiet
  cases quiet

end QuietRequests

theorem eq_ok_of_granted_change {change : Change} {reply : Except DiskError Unit}
    (granted : (Request.change change).granted reply = true) : reply = .ok () := by
  cases reply with
  | ok done => rfl
  | error cause => cases granted

theorem eq_ok_of_granted_read {path : Text} {reply : Except DiskError Text}
    (granted : (Request.read path).granted reply = true) :
    Exists fun text => reply = .ok text := by
  cases reply with
  | ok text => exact ⟨text, rfl⟩
  | error cause => cases granted

/-! ## Quiet programs -/

/-- A program that makes quiet requests only, and succeeds while they are
granted. -/
inductive Quietly {ε α : Type} (home : Place) : Program ε α -> Prop
  | done (a : α) : Quietly home (.done (.ok a))
  | note {record : LogRecord} {rest : Program ε α} (remaining : Quietly home rest) :
      Quietly home (.note record rest)
  | ask {request : Request} {next : request.Reply -> Program ε α} (quiet : Quiet home request)
      (remaining : forall reply, request.granted reply = true -> Quietly home (next reply)) :
      Quietly home (.ask request next)

section QuietPrograms

variable {home : Place}

theorem Quietly.bind {ε α β : Type} {program : Program ε α} {next : α -> Program ε β}
    (first : Quietly home program) (later : forall a, Quietly home (next a)) :
    Quietly home (program >>= next) := by
  change Quietly home (Program.bind next program)
  induction first with
  | done a => exact later a
  | note _ ih => exact Quietly.note ih
  | ask quiet _ ih => exact Quietly.ask quiet ih

theorem quietly_demand {path : Text} {change : Change} (quiet : Quiet home (.change change)) :
    Quietly home (demand path change) := by
  refine Quietly.ask quiet fun reply granted => ?_
  rw [eq_ok_of_granted_change granted]
  exact Quietly.done ()

theorem quietly_info (message : Text) : Quietly home (info message) :=
  Quietly.note (Quietly.done ())

theorem quietly_warnOfRepeats (seen : List Text) (services : List Service) :
    Quietly home (warnOfRepeats seen services) := by
  induction services generalizing seen with
  | nil => exact Quietly.done ()
  | cons service rest ih =>
    unfold warnOfRepeats
    split
    · exact Quietly.note (ih _)
    · exact ih _

theorem quietly_writeServices {outputDir : Text} {services : List Service}
    (elsewhere : ¬servicePlaces outputDir services home) :
    Quietly home (services.forM (writeService outputDir)) := by
  induction services with
  | nil => exact Quietly.done ()
  | cons service rest ih =>
    have apart : Path.place (servicePath outputDir service) ≠ home :=
      fun same => elsewhere ⟨service, List.mem_cons_self, same.symm⟩
    have writing : Quietly home (writeService outputDir service) :=
      (quietly_demand (Quiet.write _ _ apart)).bind fun _ => quietly_info _
    refine writing.bind fun _ => ih ?_
    rintro ⟨other, member, same⟩
    exact elsewhere ⟨other, List.mem_cons_of_mem service member, same⟩

theorem quietly_prepare {outputDir testsDir : Text} {services : List Service}
    (elsewhere : ¬servicePlaces outputDir services home) :
    Quietly home (prepare outputDir testsDir services) :=
  (quietly_demand (Quiet.makeDirs outputDir)).bind fun _ =>
    (quietly_writeServices elsewhere).bind fun _ => quietly_demand (Quiet.makeDirs testsDir)

theorem quietly_writeSkeleton {path : Text} (elsewhere : Path.place path ≠ home) :
    Quietly home (writeSkeleton path) := by
  refine Quietly.ask (Quiet.isTaken path) fun taken _ => ?_
  cases taken with
  | true => exact Quietly.note (Quietly.done [])
  | false =>
    exact (quietly_demand (Quiet.write path skeletonText elsewhere)).bind fun _ => Quietly.done [path]

theorem quietly_finish {testsDir : Text} (outputDir : Text) (options : GenerationOptions)
    (services : List Service) (shares : fixturePlace testsDir = home) :
    Quietly home (finish outputDir testsDir options services) := by
  have elsewhere : Path.place (Path.join testsDir skeletonFileName) ≠ home := by
    rw [place_skeleton, ← shares]
    exact (fixturePlace_ne_skeletonPlace testsDir).symm
  have starting : Quietly home (startTest testsDir options) := by
    unfold startTest
    split
    · exact quietly_writeSkeleton elsewhere
    · exact Quietly.done []
  exact (quietly_info _).bind fun _ => starting.bind fun _ => Quietly.done _

end QuietPrograms

/-! ## The order of the requests -/

/-- How far a run has come with the fixture file. -/
inductive Stage
  | before
  /-- It holds the lock. -/
  | holding
  /-- It knows the text of the file. -/
  | informed (text : Text)
  /-- It has emptied the file and is about to write a text. -/
  | emptied (next : Text)
  | filled
  | after

/-- A stage in which a run has nothing to do with the file. -/
def Stage.Outside (stage : Stage) : Prop :=
  stage = .before ∨ stage = .after

/-- A program that goes through the stages from a given one, merging entries into
the file at the end of a path. -/
inductive Follows {ε α : Type} (path : Text) (entries : List (Text × Text)) :
    Stage -> Program ε α -> Prop
  | ended (a : α) : Follows path entries .after (.done (.ok a))
  | note {stage : Stage} {record : LogRecord} {rest : Program ε α}
      (remaining : Follows path entries stage rest) : Follows path entries stage (.note record rest)
  | quiet {stage : Stage} {request : Request} {next : request.Reply -> Program ε α}
      (outside : stage.Outside) (quiet : Quiet (Path.place path) request)
      (remaining : forall reply, request.granted reply = true ->
        Follows path entries stage (next reply)) : Follows path entries stage (.ask request next)
  | lock {next : Except DiskError Unit -> Program ε α}
      (remaining : Follows path entries .holding (next (.ok ()))) :
      Follows path entries .before (.ask (.change (.lock path)) next)
  | read {next : Except DiskError Text -> Program ε α}
      (remaining : forall text, Follows path entries (.informed text) (next (.ok text))) :
      Follows path entries .holding (.ask (.read path) next)
  | refused {text : Text} {cause : FixtureError} {program : Program ε α}
      (refused : (mergeFixtureFile (priorText true (some (.file (.text text)))) entries).outcome =
        .error cause) : Follows path entries (.informed text) program
  | truncate {text merged : Text} {next : Except DiskError Unit -> Program ε α}
      (merging : (mergeFixtureFile (priorText true (some (.file (.text text)))) entries).outcome =
        .ok merged)
      (remaining : Follows path entries (.emptied merged) (next (.ok ()))) :
      Follows path entries (.informed text) (.ask (.change (.truncate path)) next)
  | fill {merged : Text} {next : Except DiskError Unit -> Program ε α}
      (remaining : Follows path entries .filled (next (.ok ()))) :
      Follows path entries (.emptied merged) (.ask (.change (.fill path merged)) next)
  | unlock {next : Except DiskError Unit -> Program ε α}
      (remaining : Follows path entries .after (next (.ok ()))) :
      Follows path entries .filled (.ask (.change (.unlock path)) next)

namespace Follows

variable {ε α β γ : Type} {path : Text} {entries : List (Text × Text)} {stage : Stage}

/-- A quiet program may come before the lock and after it. -/
theorem of_quietly_bind {program : Program ε α} {next : α -> Program ε β} (outside : stage.Outside)
    (first : Quietly (Path.place path) program)
    (later : forall a, Follows path entries stage (next a)) :
    Follows path entries stage (program >>= next) := by
  change Follows path entries stage (Program.bind next program)
  induction first with
  | done a => exact later a
  | note _ ih => exact Follows.note ih
  | ask quiet _ ih => exact Follows.quiet outside quiet ih

theorem of_quietly {program : Program ε α} (quietly : Quietly (Path.place path) program) :
    Follows path entries .after program := by
  induction quietly with
  | done a => exact Follows.ended a
  | note _ ih => exact Follows.note ih
  | ask quiet _ ih => exact Follows.quiet (Or.inr rfl) quiet ih

/-- A computation that succeeds goes on with its result. -/
theorem of_ofLogged_bind {computation : Logged ε α} {next : α -> Program ε β} {a : α}
    (computed : computation.outcome = .ok a) (later : Follows path entries stage (next a)) :
    Follows path entries stage (Program.ofLogged computation >>= next) := by
  obtain ⟨records, outcome⟩ := computation
  change outcome = .ok a at computed
  rw [computed]
  change Follows path entries stage (Program.bind next (records.foldr .note (.done (.ok a))))
  induction records with
  | nil => exact later
  | cons record rest ih => exact Follows.note ih

/-- So does one in an attempt. -/
theorem of_attempt_ofLogged {δ : Type} {computation : Logged δ α} {inner : α -> Program δ γ}
    {next : Except δ γ -> Program ε β} {a : α} (computed : computation.outcome = .ok a)
    (later : Follows path entries stage ((inner a).attempt >>= next)) :
    Follows path entries stage ((Program.ofLogged computation >>= inner).attempt >>= next) := by
  obtain ⟨records, outcome⟩ := computation
  change outcome = .ok a at computed
  rw [computed]
  change Follows path entries stage (Program.bind next
    (Program.attempt (Program.bind inner (records.foldr .note (.done (.ok a))))))
  induction records with
  | nil => exact later
  | cons record rest ih => exact Follows.note ih

end Follows

/-! ## The whole run -/

section Runs

variable {α : Type} {path : Text} {entries : List (Text × Text)}

/-- Once the text is known and not refused, the file is emptied and filled. -/
theorem follows_rewriting {text merged : Text} {next : Except GenerationError Unit -> Action α}
    (merging : (mergeFixtureFile (priorText true (some (.file (.text text)))) entries).outcome =
      .ok merged) (later : Follows path entries .filled (next (.ok ()))) :
    Follows path entries (.informed text)
      (Program.attempt (nextFixtureText path entries true text >>= fun merged =>
        demand path (.truncate path) >>= fun _ => demand path (.fill path merged)) >>= next) := by
  have unannounced : nextFixtureText path entries true text =
      Program.ofLogged ((mergeFixtureFile (priorText true (some (.file (.text text))))
        entries).mapError .malformedFixture) := by
    unfold nextFixtureText priorText
    simp
  have computed : ((mergeFixtureFile (priorText true (some (.file (.text text))))
      entries).mapError GenerationError.malformedFixture).outcome = .ok merged := by
    change (mergeFixtureFile _ entries).outcome.mapError GenerationError.malformedFixture = _
    rw [merging]
    rfl
  rw [unannounced]
  exact Follows.of_attempt_ofLogged computed (Follows.truncate merging (Follows.fill later))

/-- Bringing the file up to date goes through all stages. -/
theorem follows_updateFixtureFile {next : Unit -> Action α}
    (later : Follows path entries .after (next ())) :
    Follows path entries .before (updateFixtureFile path entries true >>= next) := by
  unfold updateFixtureFile
  simp only [bind_assoc]
  refine Follows.quiet (Or.inl rfl) (Quiet.openFile path) fun reply granted => ?_
  rw [eq_ok_of_granted_change granted]
  refine Follows.lock (Follows.read fun text => ?_)
  cases merging : (mergeFixtureFile (priorText true (some (.file (.text text)))) entries).outcome with
  | error cause => exact Follows.refused merging
  | ok merged => exact follows_rewriting merging (Follows.unlock later)

end Runs

/-- A run that keeps the entries of a fixture file that others may be working on.
Its method names are unambiguous as far as it is strict, its directories are
named, and the fixture file can carry its entries. -/
structure SharingRun (home : Place) where
  workingDirectory : Text
  options : GenerationOptions
  spec : Spec
  outputDir : Text
  testsDir : Text
  output : Path.absolute? workingDirectory options.outputDir = some outputDir
  tests : Path.absolute? workingDirectory options.testsDir = some testsDir
  /-- The fixture file is the one that is shared. -/
  shares : fixturePlace testsDir = home
  keeps : options.merge = true
  unambiguous : (Groups.services spec.groups options.strict).outcome =
    .ok spec.groups.allServices
  carried : ∀ entry ∈ fixtureEntries testsDir outputDir options.importExtension
    spec.groups.allServices, CarriedEntry entry

namespace SharingRun

variable {home : Place} (run : SharingRun home)

def program : Program GenerationError GenerationReport :=
  generate run.workingDirectory run.options run.spec

def path : Text :=
  Path.join run.testsDir fixtureFileName

def entries : List (Text × Text) :=
  fixtureEntries run.testsDir run.outputDir run.options.importExtension run.spec.groups.allServices

theorem place_path : Path.place run.path = home :=
  (place_fixture run.testsDir).trans run.shares

/-- A run goes through all stages from the first to the last. -/
theorem follows_program : Follows run.path run.entries .before run.program := by
  have elsewhere : ¬servicePlaces run.outputDir run.spec.groups.allServices (Path.place run.path) := by
    rw [show Path.place run.path = fixturePlace run.testsDir from place_fixture run.testsDir]
    exact fixturePlace_notMem_servicePlaces _ _ _
  have emitted : ((Groups.services run.spec.groups run.options.strict).mapError
      GenerationError.ambiguousName).outcome = .ok run.spec.groups.allServices := by
    change (Groups.services _ _).outcome.mapError GenerationError.ambiguousName = _
    rw [run.unambiguous]
    rfl
  have output : absolute run.workingDirectory run.options.outputDir = pure run.outputDir := by
    rw [absolute, run.output]
  have tests : absolute run.workingDirectory run.options.testsDir = pure run.testsDir := by
    rw [absolute, run.tests]
  have ending : Quietly (Path.place run.path)
      (finish run.outputDir run.testsDir run.options run.spec.groups.allServices) :=
    quietly_finish _ _ _ (run.shares.trans run.place_path.symm)
  refine Follows.of_ofLogged_bind (a := run.spec.groups) rfl ?_
  refine Follows.of_ofLogged_bind emitted ?_
  refine Follows.of_quietly_bind (Or.inl rfl) (quietly_warnOfRepeats _ _) fun _ => ?_
  rw [output, tests, pure_bind, pure_bind, writeAll_eq, run.keeps]
  refine Follows.of_quietly_bind (Or.inl rfl) (quietly_prepare elsewhere) fun _ => ?_
  exact follows_updateFixtureFile (Follows.of_quietly ending)

end SharingRun
end Generation
end ApiServices
