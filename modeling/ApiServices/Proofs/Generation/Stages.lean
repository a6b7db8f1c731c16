import ApiServices.Generation
import ApiServices.Proofs.Disk.Execution
import ApiServices.Proofs.Generation.Services

namespace ApiServices
namespace Generation

/-!
# The stages of a run

Apart from bringing the fixture file up to date, a run only makes directories
and writes files, and stops at the first failure.  For these stages three things
are known whatever happens: where the tree has changed, that no file was
emptied, and that only the disk can have been the cause of a failure.  Stages
that are confined in this sense can be put together.

What is in the files afterwards is said only of stages that succeed.
-/

/-- A program that changes the tree at most as described, empties no file, and
fails for no other cause than the disk. -/
def Confined {α : Type} (dirs files : Place -> Prop) (program : Action α) : Prop :=
  forall tree asked left outcome, Execution tree program asked left outcome ->
    Changes dirs files tree left ∧
      (forall path, .change (.truncate path) ∉ asked) ∧
      forall error, outcome = .error error ->
        Exists fun path => Exists fun cause => error = .disk path cause

section Confinement

variable {α β : Type} {dirs dirs' files files' : Place -> Prop}

theorem confined_pure (a : α) : Confined dirs files (pure a : Action α) := by
  intro tree asked left outcome execution
  rcases Execution.of_done execution with ⟨nothing, same, result⟩
  rw [nothing, same, result]
  refine ⟨Changes.refl tree, fun _ => List.not_mem_nil, ?_⟩
  intro error impossible
  cases impossible

theorem Confined.note {program : Action α} (confined : Confined dirs files program)
    (record : LogRecord) : Confined dirs files (.note record program) :=
  fun tree asked left outcome execution =>
    confined tree asked left outcome (Execution.of_note execution)

theorem Confined.mono {program : Action α} (confined : Confined dirs files program)
    (moreDirs : forall place, dirs place -> dirs' place)
    (moreFiles : forall place, files place -> files' place) : Confined dirs' files' program := by
  intro tree asked left outcome execution
  have inner := confined tree asked left outcome execution
  exact ⟨inner.1.mono moreDirs moreFiles, inner.2⟩

/-- Confined programs one after the other are confined together. -/
theorem Confined.bind {program : Action α} {next : α -> Action β}
    (confined : Confined dirs files program) (later : forall a, Confined dirs files (next a)) :
    Confined dirs files (program >>= next) := by
  intro tree asked left outcome execution
  rcases Execution.of_bind execution with ⟨error, stopped, before⟩ |
    ⟨middle, a, first, rest, split, before, after⟩
  · have inner := confined tree asked left (.error error) before
    refine ⟨inner.1, inner.2.1, ?_⟩
    intro other same
    exact inner.2.2 other (congrArg _ (Except.error.inj (stopped.symm.trans same)))
  · have earlier := confined tree first middle (.ok a) before
    have final := later a middle rest left outcome after
    refine ⟨earlier.1.trans final.1, ?_, final.2.2⟩
    intro path member
    rw [split] at member
    rcases List.mem_append.mp member with early | late
    · exact earlier.2.1 path early
    · exact final.2.1 path late

theorem confined_forM {step : β -> Action Unit} {inputs : List β}
    (steps : ∀ input ∈ inputs, Confined dirs files (step input)) :
    Confined dirs files (inputs.forM step) := by
  induction inputs with
  | nil => exact confined_pure ()
  | cons input rest ih =>
    apply Confined.bind (steps input List.mem_cons_self)
    intro _
    exact ih fun other member => steps other (List.mem_cons_of_mem input member)

end Confinement

/-! ## Changes that are demanded -/

variable {tree left : FileTree} {asked : List Request} {path : Text}

/-- A change that is demanded is carried out, or the run ends there with its
path. -/
theorem of_demand {change : Change} {outcome : Except GenerationError Unit}
    (execution : Execution tree (demand path change) asked left outcome) :
    asked = [.change change] ∧
      ((outcome = .ok () ∧ tree.carryOut change = (left, .ok ())) ∨
        Exists fun cause => outcome = .error (.disk path cause) ∧
          (tree.carryOut change = (left, .error cause) ∨ Interrupted tree change left)) := by
  rcases Execution.of_perform_bind execution with ⟨middle, reply, later, split, answered, after⟩
  cases reply with
  | ok done =>
    rcases Execution.of_done after with ⟨nothing, same, result⟩
    rw [nothing] at split
    rw [same]
    refine ⟨split, Or.inl ⟨result, ?_⟩⟩
    rcases answered with exact | ⟨_, cause, impossible⟩
    · exact exact.symm
    · cases impossible
  | error cause =>
    rcases Execution.of_done after with ⟨nothing, same, result⟩
    rw [nothing] at split
    rw [same]
    refine ⟨split, Or.inr ⟨cause, result, ?_⟩⟩
    rcases answered with exact | ⟨interrupted, _⟩
    · exact Or.inl exact.symm
    · exact Or.inr interrupted

/-- What holds of every tree that a change may leave holds after a demand. -/
theorem confined_demand {dirs files : Place -> Prop} {change : Change}
    (other : forall path, change ≠ .truncate path)
    (exact : forall tree, Changes dirs files tree (tree.carryOut change).1)
    (interrupted : forall tree left, Interrupted tree change left -> Changes dirs files tree left) :
    Confined dirs files (demand path change) := by
  intro tree asked left outcome execution
  rcases of_demand execution with ⟨once, fate⟩
  have unemptied : forall path, .change (.truncate path) ∉ asked := by
    intro emptied member
    rw [once, List.mem_singleton] at member
    exact other emptied (Request.change.inj member).symm
  rcases fate with ⟨succeeded, carried⟩ | ⟨cause, failed, stopped⟩
  · refine ⟨?_, unemptied, ?_⟩
    · have changes := exact tree
      rwa [carried] at changes
    · intro error impossible
      rw [succeeded] at impossible
      cases impossible
  · refine ⟨?_, unemptied, ?_⟩
    · rcases stopped with carried | halted
      · have changes := exact tree
        rwa [carried] at changes
      · exact interrupted tree left halted
    · intro error same
      rw [failed] at same
      exact ⟨path, cause, (Except.error.inj same).symm⟩

theorem confined_makeDirs (path : Text) :
    Confined (Path.OnWay path) nowhere (demand path (.makeDirs path)) := by
  apply confined_demand
  · intro emptied same
    cases same
  · exact fun tree => FileTree.changes_makeDirs tree path
  · exact fun tree left interrupted => interrupted.changes_makeDirs

theorem changes_carryOut_write (tree : FileTree) (path text : Text) :
    Changes nowhere (· = Path.place path) tree (tree.carryOut (.write path text)).1 := by
  change Changes nowhere _ tree (tree.changed (tree.write path (.text text))).1
  cases written : tree.write path (.text text) with
  | error cause => exact Changes.refl tree
  | ok left => exact FileTree.changes_write written

theorem confined_write (path text : Text) :
    Confined nowhere (· = Path.place path) (demand path (.write path text)) := by
  apply confined_demand
  · intro emptied same
    cases same
  · exact fun tree => changes_carryOut_write tree path text
  · exact fun tree left interrupted => interrupted.changes_write

theorem of_changed_ok {attempted : Except DiskError FileTree}
    (changed : tree.changed attempted = (left, .ok ())) : attempted = .ok left := by
  cases attempted with
  | ok next => exact congrArg Except.ok (congrArg Prod.fst changed)
  | error cause => cases congrArg Prod.snd changed

theorem of_demand_ok {change : Change} (execution : Execution tree (demand path change) asked left (.ok ())) :
    tree.carryOut change = (left, .ok ()) := by
  rcases (of_demand execution).2 with ⟨_, carried⟩ | ⟨_, impossible, _⟩
  · exact carried
  · cases impossible

/-! ## Services -/

/-- The places of the files that services are written to. -/
def servicePlaces (outputDir : Text) (services : List Service) (place : Place) : Prop :=
  Exists fun service => service ∈ services ∧ place = Path.place (servicePath outputDir service)

theorem confined_info (message : Text) : Confined nowhere nowhere (info message) :=
  (confined_pure ()).note _

theorem confined_writeService (outputDir : Text) (service : Service) :
    Confined nowhere (· = Path.place (servicePath outputDir service))
      (writeService outputDir service) := by
  apply Confined.bind (confined_write _ _)
  intro _
  exact (confined_info _).mono (fun _ impossible => impossible) (fun _ impossible => impossible.elim)

theorem confined_writeServices (outputDir : Text) (services : List Service) :
    Confined nowhere (servicePlaces outputDir services)
      (services.forM (writeService outputDir)) := by
  apply confined_forM
  intro service member
  refine (confined_writeService outputDir service).mono (fun _ impossible => impossible) ?_
  intro place same
  exact ⟨service, member, same⟩

theorem write_of_writeService {outputDir : Text} {service : Service}
    (execution : Execution tree (writeService outputDir service) asked left (.ok ())) :
    tree.write (servicePath outputDir service) (.text service.content) = .ok left := by
  rcases Execution.of_bind_ok execution with ⟨middle, _, first, later, _, before, after⟩
  rw [(Execution.of_done (Execution.of_note after)).2.1]
  exact of_changed_ok (of_demand_ok before)

/-- Every service file holds what the last of the services in its place gives. -/
def LastWritten (outputDir : Text) (services : List Service) (tree : FileTree) : Prop :=
  forall before service later, services = before ++ service :: later ->
    ¬servicePlaces outputDir later (Path.place (servicePath outputDir service)) ->
    tree.get? (Path.place (servicePath outputDir service)) = some (.file (.text service.content))

/-- Once all services are written, every file holds what was written to it last. -/
theorem get?_writeServices {outputDir : Text} {before later : List Service} {service : Service}
    (execution : Execution tree ((before ++ service :: later).forM (writeService outputDir))
      asked left (.ok ()))
    (last : ¬servicePlaces outputDir later (Path.place (servicePath outputDir service))) :
    left.get? (Path.place (servicePath outputDir service)) =
      some (.file (.text service.content)) := by
  induction before generalizing tree asked with
  | nil =>
    rcases Execution.of_bind_ok execution with ⟨middle, _, first, rest, _, written, others⟩
    have here := FileTree.get?_write (write_of_writeService written)
    have changes := (confined_writeServices outputDir later middle rest left _ others).1
    exact changes.stays last here
  | cons other before ih =>
    rcases Execution.of_bind_ok execution with ⟨middle, _, first, rest, _, _, others⟩
    exact ih others

/-! ## Up to the fixture file -/

/-- What a run does before it opens the fixture file. -/
def prepare (outputDir testsDir : Text) (services : List Service) : Action Unit := do
  demand outputDir (.makeDirs outputDir)
  services.forM (writeService outputDir)
  demand testsDir (.makeDirs testsDir)

/-- Where directories may be made for a run. -/
def runDirs (outputDir testsDir : Text) (place : Place) : Prop :=
  Path.OnWay outputDir place ∨ Path.OnWay testsDir place

theorem confined_prepare (outputDir testsDir : Text) (services : List Service) :
    Confined (runDirs outputDir testsDir) (servicePlaces outputDir services)
      (prepare outputDir testsDir services) := by
  apply Confined.bind
  · exact (confined_makeDirs outputDir).mono (fun _ passed => Or.inl passed)
      (fun _ impossible => impossible.elim)
  · intro _
    apply Confined.bind
    · exact (confined_writeServices outputDir services).mono (fun _ impossible => impossible.elim)
        (fun _ written => written)
    · intro _
      exact (confined_makeDirs testsDir).mono (fun _ passed => Or.inr passed)
        (fun _ impossible => impossible.elim)

/-- After the preparations the output directory is there and every service
file holds what was written to it last. -/
theorem of_prepare {outputDir testsDir : Text} {services : List Service}
    (execution : Execution tree (prepare outputDir testsDir services) asked left (.ok ())) :
    left.get? (Path.place outputDir) = some .directory ∧ LastWritten outputDir services left := by
  rcases Execution.of_bind_ok execution with ⟨opened, _, _, _, _, directory, rest⟩
  rcases Execution.of_bind_ok rest with ⟨filled, _, _, _, _, writing, ending⟩
  have made : tree.makeDirs outputDir = (opened, .ok ()) := of_demand_ok directory
  have output : opened.get? (Path.place outputDir) = some .directory := by
    have here := FileTree.get?_makeDirs (congrArg Prod.snd made)
    rwa [congrArg Prod.fst made] at here
  have writes := (confined_writeServices outputDir services opened _ filled _ writing).1
  have final := (confined_makeDirs testsDir filled _ left _ ending).1
  refine ⟨final.directory (writes.directory output), ?_⟩
  intro before service later split last
  rw [split] at writing
  exact final.stays (fun impossible => impossible) (get?_writeServices writing last)

/-! ## The starter test -/

theorem confined_writeSkeleton (path : Text) :
    Confined nowhere (· = Path.place path) (writeSkeleton path) := by
  intro tree asked left outcome execution
  rcases Execution.of_perform_bind execution with ⟨middle, taken, later, split, ⟨same, _⟩, after⟩
  rw [same] at after
  have rest : Confined nowhere (· = Path.place path)
      (if taken then
        .note ⟨.debug, path ++ " exists, leaving it alone".toList⟩ (pure [])
      else (do
        demand path (.write path skeletonText)
        return [path]) : Action (List Text)) := by
    cases taken with
    | true => exact (confined_pure []).note _
    | false => exact (confined_write path skeletonText).bind fun _ => confined_pure [path]
  have inner := rest tree later left outcome after
  refine ⟨inner.1, ?_, inner.2.2⟩
  intro emptied member
  rw [split] at member
  rcases List.mem_cons.mp member with impossible | late
  · cases impossible
  · exact inner.2.1 emptied late

/-- The starter test is left alone if something is in its place, and written
if nothing is. -/
theorem of_writeSkeleton {started : List Text}
    (execution : Execution tree (writeSkeleton path) asked left (.ok started)) :
    (started = [] ∧ left = tree ∧ tree.get? (Path.place path) ≠ none) ∨
      (started = [path] ∧ tree.get? (Path.place path) = none ∧
        left.get? (Path.place path) = some (.file (.text skeletonText))) := by
  rcases Execution.of_perform_bind execution with ⟨_, taken, _, _, ⟨same, answered⟩, after⟩
  rw [same] at after
  cases taken with
  | true =>
    rcases Execution.of_done (Execution.of_note after) with ⟨_, kept, result⟩
    exact Or.inl ⟨Except.ok.inj result, kept, FileTree.get?_of_isTaken answered.symm⟩
  | false =>
    rcases Execution.of_bind_ok after with ⟨written, _, _, _, _, writing, ending⟩
    rcases Execution.of_done ending with ⟨_, kept, result⟩
    have change := of_changed_ok (of_demand_ok writing)
    rcases FileTree.fileAt_of_write change with ⟨found, prior, writable, _⟩
    have free := FileTree.get?_of_not_isTaken answered.symm writable
    rw [FileTree.eq_place_of_fileAt writable] at free
    refine Or.inr ⟨Except.ok.inj result, free, ?_⟩
    rw [kept]
    exact FileTree.get?_write change

end Generation
end ApiServices
