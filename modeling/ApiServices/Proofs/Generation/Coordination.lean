import ApiServices.Proofs.Fixture.Merging
import ApiServices.Proofs.Generation.Protocol
import ApiServices.Proofs.Generation.Repetition

namespace ApiServices
namespace Generation

/-!
# How runs take turns with a fixture file

The fixture file is opened before it is locked, and may be made by that, and it
is empty for a while before it is written.  But whoever holds the lock has found
it as the last holder left it: nobody else reads it or writes to it, and making
it where it is missing does not change what it says.

So the invariant has two sides.  While nobody holds the lock, the file holds the
entries of all runs that have held it; while somebody does, the file is in one of
the few states into which this run can have brought it.  Each kind of turn has a
lemma that says how the invariant survives it.
-/

section Order

variable {home : Place} (runs : List (SharingRun home)) (set : FixtureSet)

/-- The entries of runs, in an order of the runs. -/
def batchesInOrder (order : List Nat) : List (List (Text × Text)) :=
  (order.filterMap fun who => runs[who]?).map SharingRun.entries

/-- What becomes of a set when runs are merged into it in an order. -/
def mergedInOrder (order : List Nat) : FixtureSet :=
  set.mergedAll (batchesInOrder runs order)

theorem mergedInOrder_concat {order : List Nat} {who : Nat} {run : SharingRun home}
    (here : runs[who]? = some run) :
    mergedInOrder runs set (order ++ [who]) = (mergedInOrder runs set order).merged run.entries := by
  have last : batchesInOrder runs (order ++ [who]) = batchesInOrder runs order ++ [run.entries] := by
    unfold batchesInOrder
    rw [List.filterMap_append, List.filterMap_cons_some here, List.map_append]
    rfl
  unfold mergedInOrder
  rw [last]
  exact List.foldl_append

theorem mistakable_of_mem_entries (run : SharingRun home) :
    ∀ entry ∈ run.entries, mistakable entry.1 = false :=
  mistakable_fixtureEntries

theorem faithful_mergedInOrder (faithful : set.Faithful) (order : List Nat) :
    (mergedInOrder runs set order).Faithful := by
  have each : ∀ batch ∈ batchesInOrder runs order, Exists fun run : SharingRun home =>
      batch = run.entries := by
    intro batch member
    obtain ⟨run, _, same⟩ := List.mem_map.mp member
    exact ⟨run, same.symm⟩
  unfold mergedInOrder
  generalize batchesInOrder runs order = batches at each
  induction batches generalizing set with
  | nil => exact faithful
  | cons batch later ih =>
    obtain ⟨run, same⟩ := each batch List.mem_cons_self
    have grown : (set.merged batch).Faithful := by
      rw [same]
      exact faithful.merged run.carried (mistakable_of_mem_entries run)
    exact ih (set.merged batch) grown fun other member => each other (List.mem_cons_of_mem batch member)

/-! ## What the file holds -/

/-- What the file holds while nobody is at work on it.  Before any merge into
nothing there may be no file yet, or an empty one; a directory in its place will
make every run fail. -/
inductive Resting (order : List Nat) : Option DiskEntry -> Prop
  | written : Resting order (some (.file (.text (mergedInOrder runs set order).render)))
  | blank {entry : Option DiskEntry} (unmerged : order = []) (nothing : set = Keyed.empty)
      (blank : entry = none ∨ entry = some .directory ∨ entry = some (.file (.text []))) :
      Resting order entry

/-- What the file holds while a run is at work on it, after others. -/
inductive AtWork (earlier : List Nat) (run : SharingRun home) : Stage -> Option DiskEntry -> Prop
  | holding {entry : Option DiskEntry} (resting : Resting runs set earlier entry) :
      AtWork earlier run .holding entry
  | informed {text : Text} (resting : Resting runs set earlier (some (.file (.text text)))) :
      AtWork earlier run (.informed text) (some (.file (.text text)))
  | emptied (entry : Option DiskEntry) :
      AtWork earlier run
        (.emptied ((mergedInOrder runs set earlier).merged run.entries).render) entry
  | filled :
      AtWork earlier run .filled
        (some (.file (.text ((mergedInOrder runs set earlier).merged run.entries).render)))

variable {runs set} {order earlier : List Nat} {run : SharingRun home} {stage : Stage}
  {entry latter : Option DiskEntry}

/-- What others do to the file without holding it. -/
abbrev LeftOrMade (entry latter : Option DiskEntry) : Prop :=
  latter = entry ∨
    entry = none ∧ (latter = some .directory ∨ latter = some (.file (.text [])))

theorem Resting.leftOrMade (resting : Resting runs set order entry)
    (quiet : LeftOrMade entry latter) : Resting runs set order latter := by
  rcases quiet with same | ⟨absent, made⟩
  · exact same ▸ resting
  · rw [absent] at resting
    cases resting with
    | blank unmerged nothing _ => exact Resting.blank unmerged nothing (Or.inr made)

theorem AtWork.leftOrMade (atWork : AtWork runs set earlier run stage entry)
    (quiet : LeftOrMade entry latter) : AtWork runs set earlier run stage latter := by
  cases atWork with
  | holding resting => exact AtWork.holding (resting.leftOrMade quiet)
  | emptied => exact AtWork.emptied latter
  | informed resting =>
    rcases quiet with same | ⟨absent, _⟩
    · exact same ▸ AtWork.informed resting
    · cases absent
  | filled =>
    rcases quiet with same | ⟨absent, _⟩
    · exact same ▸ AtWork.filled
    · cases absent

/-- What a file at rest holds is never refused. -/
theorem Resting.merging (resting : Resting runs set order entry) (faithful : set.Faithful)
    (batch : List (Text × Text)) :
    (mergeFixtureFile (priorText true entry) batch).outcome =
      .ok ((mergedInOrder runs set order).merged batch).render := by
  have prior : priorEntries (priorText true entry) = .ok (mergedInOrder runs set order) := by
    cases resting with
    | written =>
      have filled : (Text.trim (mergedInOrder runs set order).render).isEmpty = false :=
        List.isEmpty_eq_false_iff.mpr (FixtureSet.trim_render_ne_nil _)
      have kept : priorText true (some (.file (.text (mergedInOrder runs set order).render))) =
          some (mergedInOrder runs set order).render := by
        change (if (true && !(Text.trim (mergedInOrder runs set order).render).isEmpty) = true
          then some _ else none) = _
        rw [filled]
        rfl
      rw [kept]
      exact (faithful_mergedInOrder runs set faithful order).parse_render
    | blank unmerged nothing blank =>
      rw [unmerged, nothing]
      rcases blank with absent | directory | empty
      · rw [absent]
        rfl
      · rw [directory]
        rfl
      · rw [empty]
        rfl
  rw [outcome_mergeFixtureFile, prior]
  rfl

end Order

/-! ## The invariant -/

section Invariant

variable {home : Place} (runs : List (SharingRun home)) (set : FixtureSet)

/-- A run that holds the lock after others have held it, and what it has done so
far. -/
structure Holder (shared : Shared GenerationError GenerationReport) (stage : Nat -> Stage)
    (who : Nat) (run : SharingRun home) (earlier : List Nat) : Prop where
  holder : shared.holder home = some who
  order : shared.lockOrder home = earlier ++ [who]
  here : runs[who]? = some run
  others : ∀ other ∈ earlier, stage other = .after
  atWork : AtWork runs set earlier run (stage who) (shared.tree.get? home)

/-- Who is at work on the file, if anybody is, and what it holds accordingly. -/
inductive FileState (shared : Shared GenerationError GenerationReport) (stage : Nat -> Stage) : Prop
  | free (unheld : shared.holder home = none)
      (others : ∀ who ∈ shared.lockOrder home, stage who = .after)
      (resting : Resting runs set (shared.lockOrder home) (shared.tree.get? home))
  | held {who : Nat} {run : SharingRun home} {earlier : List Nat}
      (holder : Holder runs set shared stage who run earlier)

/-- What holds of runs that share a fixture file, and of how far each of them has
come with it. -/
structure Coordinated (shared : Shared GenerationError GenerationReport) (stage : Nat -> Stage) :
    Prop where
  count : shared.running.length = runs.length
  follows : forall who program, shared.running[who]? = some program ->
    Exists fun run => runs[who]? = some run ∧ Follows run.path run.entries (stage who) program
  before : forall who, stage who = .before ↔ who ∉ shared.lockOrder home
  distinct : (shared.lockOrder home).Nodup
  within : ∀ who ∈ shared.lockOrder home, who < runs.length
  file : FileState runs set shared stage

/-- The stages when one run has come to another one. -/
def moved (stage : Nat -> Stage) (who : Nat) (now : Stage) (other : Nat) : Stage :=
  if other = who then now else stage other

variable {runs set} {shared : Shared GenerationError GenerationReport} {stage : Nat -> Stage}
  {who : Nat} {now : Stage} {rest : Action GenerationReport} {run : SharingRun home}

theorem moved_self (stage : Nat -> Stage) (who : Nat) (now : Stage) : moved stage who now who = now :=
  if_pos rfl

theorem moved_of_ne (stage : Nat -> Stage) (now : Stage) {other : Nat} (apart : other ≠ who) :
    moved stage who now other = stage other :=
  if_neg apart

theorem moved_stage (stage : Nat -> Stage) (who : Nat) : moved stage who (stage who) = stage := by
  funext other
  unfold moved
  split
  · next same => rw [same]
  · rfl

theorem moved_of_forall_after {others : List Nat} (fresh : who ∉ others)
    (after : ∀ other ∈ others, stage other = .after) (now : Stage) :
    ∀ other ∈ others, moved stage who now other = .after := by
  intro other member
  have apart : other ≠ who := fun same => fresh (same ▸ member)
  rw [moved_of_ne stage now apart]
  exact after other member

namespace Coordinated

/-- Every program still follows its run when one of them goes on as it should. -/
theorem follows_set (coordinated : Coordinated runs set shared stage) (here : runs[who]? = some run)
    (next : Follows run.path run.entries now rest) (other : Nat) (program : Action GenerationReport)
    (there : (shared.running.set who rest)[other]? = some program) :
    Exists fun run => runs[other]? = some run ∧
      Follows run.path run.entries (moved stage who now other) program := by
  rw [List.getElem?_set] at there
  by_cases same : who = other
  · rw [if_pos same] at there
    split at there
    · rw [← same, moved_self]
      exact ⟨run, here, Option.some.inj there ▸ next⟩
    · cases there
  · rw [if_neg same] at there
    rw [moved_of_ne stage now (Ne.symm same)]
    exact coordinated.follows other program there

/-- A run in one of the stages with the lock is the one that holds it. -/
theorem holds (coordinated : Coordinated runs set shared stage) (here : runs[who]? = some run)
    (reached : stage who = now) (inside : ¬now.Outside) :
    Exists fun earlier => Holder runs set shared stage who run earlier := by
  have obtained : who ∈ shared.lockOrder home :=
    Decidable.not_not.mp fun absent =>
      inside (Or.inl (reached.symm.trans ((coordinated.before who).mpr absent)))
  cases coordinated.file with
  | free _ others _ => exact absurd (Or.inr (reached.symm.trans (others who obtained))) inside
  | @held found foundRun earlier holder =>
    rw [holder.order, List.mem_append, List.mem_singleton] at obtained
    rcases obtained with early | same
    · exact absurd (Or.inr (reached.symm.trans (holder.others who early))) inside
    · have sameRun : run = foundRun := Option.some.inj (here.symm.trans (same ▸ holder.here))
      rw [same, sameRun]
      exact ⟨earlier, holder⟩

/-! ### Turns that leave the file alone -/

theorem note (coordinated : Coordinated runs set shared stage) (here : runs[who]? = some run)
    (next : Follows run.path run.entries (stage who) rest) :
    Coordinated runs set { shared with running := shared.running.set who rest } stage where
  count := (List.length_set).trans coordinated.count
  follows := by
    have follows := coordinated.follows_set here next
    rwa [moved_stage] at follows
  before := coordinated.before
  distinct := coordinated.distinct
  within := coordinated.within
  file := by
    cases coordinated.file with
    | free unheld others resting => exact FileState.free unheld others resting
    | held holder =>
      exact FileState.held ⟨holder.holder, holder.order, holder.here, holder.others, holder.atWork⟩

theorem quiet {request : Request} (coordinated : Coordinated runs set shared stage)
    (here : runs[who]? = some run) (quiet : Quiet home request)
    (next : Follows run.path run.entries (stage who) rest) :
    Coordinated runs set (shared.answered who request rest) stage := by
  have order : (shared.answered who request rest).lockOrder home = shared.lockOrder home := by
    rw [Shared.lockOrder_answered]
    cases quiet <;> exact List.append_nil _
  have kept : (shared.answered who request rest).holder home = shared.holder home := by
    cases quiet <;> rfl
  have entry : LeftOrMade (shared.tree.get? home)
      ((shared.answered who request rest).tree.get? home) := quiet.entry shared.tree
  have follows := coordinated.follows_set here next
  rw [moved_stage] at follows
  refine ⟨(List.length_set).trans coordinated.count, follows, order ▸ coordinated.before,
    order ▸ coordinated.distinct, order ▸ coordinated.within, ?_⟩
  cases coordinated.file with
  | free unheld others resting =>
    exact FileState.free (kept.trans unheld) (order ▸ others) (order ▸ resting.leftOrMade entry)
  | held holder =>
    exact FileState.held ⟨kept.trans holder.holder, order.trans holder.order, holder.here,
      holder.others, holder.atWork.leftOrMade entry⟩

/-! ### Turns with the lock -/

/-- The run that has waited becomes the last one in the order. -/
theorem lock (coordinated : Coordinated runs set shared stage) (here : runs[who]? = some run)
    (waiting : stage who = .before) (unheld : shared.holder home = none)
    (next : Follows run.path run.entries .holding rest) :
    Coordinated runs set (shared.answered who (.change (.lock run.path)) rest)
      (moved stage who .holding) := by
  have place := run.place_path
  have fresh : who ∉ shared.lockOrder home := (coordinated.before who).mp waiting
  have inside : who < runs.length := (List.getElem?_eq_some_iff.mp here).1
  have order : (shared.answered who (.change (.lock run.path)) rest).lockOrder home =
      shared.lockOrder home ++ [who] := by
    rw [Shared.lockOrder_answered, Shared.locked?, if_pos place]
    rfl
  refine ⟨(List.length_set).trans coordinated.count, coordinated.follows_set here next, ?_, ?_, ?_, ?_⟩
  · intro other
    rw [order, List.mem_append, List.mem_singleton]
    by_cases same : other = who
    · rw [same, moved_self]
      simp
    · rw [moved_of_ne stage _ same, coordinated.before other]
      simp [same]
  · rw [order, List.nodup_append]
    refine ⟨coordinated.distinct, List.pairwise_singleton _ who, ?_⟩
    intro other member one same
    rw [List.mem_singleton.mp same]
    exact fun equal => fresh (equal ▸ member)
  · rw [order]
    exact List.forall_mem_append.mpr ⟨coordinated.within, List.forall_mem_singleton.mpr inside⟩
  · cases coordinated.file with
    | held holder =>
      have held := holder.holder
      rw [unheld] at held
      cases held
    | free _ others resting =>
      exact FileState.held ⟨if_pos place, order, here, moved_of_forall_after fresh others _,
        (moved_self stage who _).symm ▸ AtWork.holding resting⟩

/-- The run that holds the lock goes on, and the file follows. -/
theorem goesOn {request : Request} (coordinated : Coordinated runs set shared stage)
    (here : runs[who]? = some run) (next : Follows run.path run.entries now rest)
    (entered : stage who ≠ .before) (inside : now ≠ .before)
    (order : (shared.answered who request rest).lockOrder home = shared.lockOrder home)
    (file : FileState runs set (shared.answered who request rest) (moved stage who now)) :
    Coordinated runs set (shared.answered who request rest) (moved stage who now) := by
  refine ⟨(List.length_set).trans coordinated.count, coordinated.follows_set here next, ?_,
    order ▸ coordinated.distinct, order ▸ coordinated.within, file⟩
  intro other
  rw [order]
  by_cases same : other = who
  · rw [same, moved_self, ← coordinated.before who]
    exact iff_of_false inside entered
  · rw [moved_of_ne stage _ same]
    exact coordinated.before other

end Coordinated

theorem Holder.fresh {earlier : List Nat} (holder : Holder runs set shared stage who run earlier)
    (coordinated : Coordinated runs set shared stage) : who ∉ earlier := by
  have distinct := coordinated.distinct
  rw [holder.order, List.nodup_append] at distinct
  exact fun member => distinct.2.2 who member who List.mem_cons_self rfl

theorem Holder.entered {earlier : List Nat} (holder : Holder runs set shared stage who run earlier)
    (coordinated : Coordinated runs set shared stage) : stage who ≠ .before := by
  intro waiting
  apply (coordinated.before who).mp waiting
  rw [holder.order]
  exact List.mem_append_right earlier List.mem_cons_self

/-- With the lock in hand the run brings the file from state to state. -/
theorem Holder.works {earlier : List Nat} {request : Request}
    (holder : Holder runs set shared stage who run earlier)
    (coordinated : Coordinated runs set shared stage)
    (next : Follows run.path run.entries now rest) (inside : now ≠ .before)
    (order : (shared.answered who request rest).lockOrder home = shared.lockOrder home)
    (kept : (shared.answered who request rest).holder home = shared.holder home)
    (atWork : AtWork runs set earlier run now ((shared.answered who request rest).tree.get? home)) :
    Coordinated runs set (shared.answered who request rest) (moved stage who now) :=
  coordinated.goesOn holder.here next (holder.entered coordinated) inside order <| FileState.held
    { holder := kept.trans holder.holder
      order := order.trans holder.order
      here := holder.here
      others := moved_of_forall_after (holder.fresh coordinated) holder.others now
      atWork := (moved_self stage who now).symm ▸ atWork }

namespace Coordinated

theorem read {text : Text} (coordinated : Coordinated runs set shared stage)
    (here : runs[who]? = some run) (reached : stage who = .holding)
    (known : shared.tree.read run.path = .ok text)
    (next : Follows run.path run.entries (.informed text) rest) :
    Coordinated runs set (shared.answered who (.read run.path) rest)
      (moved stage who (.informed text)) := by
  obtain ⟨earlier, holder⟩ := coordinated.holds here reached (by simp [Stage.Outside])
  have order : (shared.answered who (.read run.path) rest).lockOrder home =
      shared.lockOrder home := by
    rw [Shared.lockOrder_answered]
    exact List.append_nil _
  have found : shared.tree.get? home = some (.file (.text text)) :=
    run.place_path ▸ FileTree.get?_of_read known
  have atWork := holder.atWork
  rw [reached, found] at atWork
  refine holder.works coordinated next (fun impossible => nomatch impossible) order rfl ?_
  change AtWork runs set earlier run (.informed text) (shared.tree.get? home)
  rw [found]
  cases atWork with
  | holding resting => exact AtWork.informed resting

/-- A run that knows the text of the file finds that it is not refused. -/
theorem merging {text : Text} (coordinated : Coordinated runs set shared stage)
    (here : runs[who]? = some run) (faithful : set.Faithful) (reached : stage who = .informed text) :
    Exists fun earlier => Holder runs set shared stage who run earlier ∧
      (mergeFixtureFile (priorText true (some (.file (.text text)))) run.entries).outcome =
        .ok ((mergedInOrder runs set earlier).merged run.entries).render := by
  obtain ⟨earlier, holder⟩ := coordinated.holds here reached (by simp [Stage.Outside])
  have atWork := holder.atWork
  rw [reached] at atWork
  generalize shared.tree.get? home = entry at atWork
  cases atWork with
  | informed resting => exact ⟨earlier, holder, resting.merging faithful run.entries⟩

theorem truncate {text merged : Text} (coordinated : Coordinated runs set shared stage)
    (here : runs[who]? = some run) (faithful : set.Faithful) (reached : stage who = .informed text)
    (merging : (mergeFixtureFile (priorText true (some (.file (.text text)))) run.entries).outcome =
      .ok merged)
    (next : Follows run.path run.entries (.emptied merged) rest) :
    Coordinated runs set (shared.answered who (.change (.truncate run.path)) rest)
      (moved stage who (.emptied merged)) := by
  obtain ⟨earlier, holder, known⟩ := coordinated.merging here faithful reached
  have order : (shared.answered who (.change (.truncate run.path)) rest).lockOrder home =
      shared.lockOrder home := by
    rw [Shared.lockOrder_answered]
    exact List.append_nil _
  rw [known] at merging
  rw [← Except.ok.inj merging] at next ⊢
  exact holder.works coordinated next (fun impossible => nomatch impossible) order rfl
    (AtWork.emptied _)

theorem fill {merged : Text} (coordinated : Coordinated runs set shared stage)
    (here : runs[who]? = some run) (reached : stage who = .emptied merged)
    (granted : (shared.tree.carryOut (.fill run.path merged)).2 = .ok ())
    (next : Follows run.path run.entries .filled rest) :
    Coordinated runs set (shared.answered who (.change (.fill run.path merged)) rest)
      (moved stage who .filled) := by
  obtain ⟨earlier, holder⟩ := coordinated.holds here reached (by simp [Stage.Outside])
  have order : (shared.answered who (.change (.fill run.path merged)) rest).lockOrder home =
      shared.lockOrder home := by
    rw [Shared.lockOrder_answered]
    exact List.append_nil _
  have written := of_changed_ok (Prod.ext rfl granted)
  have found := FileTree.get?_write written
  rw [run.place_path] at found
  refine holder.works coordinated next (fun impossible => nomatch impossible) order rfl ?_
  change AtWork runs set earlier run .filled
    ((shared.tree.changed (shared.tree.write run.path (.text merged))).1.get? home)
  have atWork := holder.atWork
  rw [reached] at atWork
  rw [found]
  generalize shared.tree.get? home = entry at atWork
  cases atWork with
  | emptied => exact AtWork.filled

theorem unlock (coordinated : Coordinated runs set shared stage)
    (here : runs[who]? = some run) (reached : stage who = .filled)
    (next : Follows run.path run.entries .after rest) :
    Coordinated runs set (shared.answered who (.change (.unlock run.path)) rest)
      (moved stage who .after) := by
  obtain ⟨earlier, holder⟩ := coordinated.holds here reached (by simp [Stage.Outside])
  have order : (shared.answered who (.change (.unlock run.path)) rest).lockOrder home =
      shared.lockOrder home := by
    rw [Shared.lockOrder_answered]
    exact List.append_nil _
  have unheld : (shared.answered who (.change (.unlock run.path)) rest).holder home = none :=
    if_pos ⟨run.place_path, holder.holder⟩
  refine coordinated.goesOn here next (holder.entered coordinated)
    (fun impossible => nomatch impossible) order (FileState.free unheld ?_ ?_)
  · rw [order, holder.order]
    refine List.forall_mem_append.mpr ⟨?_, ?_⟩
    · exact moved_of_forall_after (holder.fresh coordinated) holder.others _
    · exact List.forall_mem_singleton.mpr (moved_self stage who _)
  · have atWork := holder.atWork
    rw [reached] at atWork
    change Resting runs set _ (shared.tree.get? home)
    rw [order, holder.order]
    generalize shared.tree.get? home = entry at atWork ⊢
    cases atWork with
    | filled =>
      rw [← mergedInOrder_concat runs set holder.here]
      exact Resting.written

end Coordinated

/-- Every turn keeps the runs coordinated. -/
theorem coordinated_turn {later : Shared GenerationError GenerationReport}
    (faithful : set.Faithful) (coordinated : Coordinated runs set shared stage)
    (taken : shared.turn? who = some later) :
    Exists fun stage => Coordinated runs set later stage := by
  rcases Shared.turn?_cases taken with ⟨record, rest, running, same⟩ |
    ⟨request, next, running, admitted, granted, same⟩
  · obtain ⟨run, here, follows⟩ := coordinated.follows who _ running
    refine ⟨stage, same ▸ coordinated.note here ?_⟩
    generalize reached : stage who = s at follows
    cases follows with
    | note remaining => exact remaining
    | refused refused =>
      obtain ⟨_, _, merging⟩ := coordinated.merging here faithful reached
      rw [merging] at refused
      cases refused
  · obtain ⟨run, here, follows⟩ := coordinated.follows who _ running
    generalize reached : stage who = s at follows
    rw [same]
    cases follows with
    | quiet _ quiet remaining =>
      refine ⟨stage, coordinated.quiet here (run.place_path ▸ quiet) ?_⟩
      exact reached ▸ remaining _ granted
    | lock remaining =>
      have unheld : shared.holder home = none := by
        rw [← run.place_path]
        exact Option.not_isSome_iff_eq_none.mp (Bool.eq_false_iff.mp admitted)
      exact ⟨_, coordinated.lock here reached unheld remaining⟩
    | @read next remaining =>
      obtain ⟨text, known⟩ := eq_ok_of_granted_read granted
      refine ⟨_, coordinated.read here reached known ?_⟩
      exact known ▸ remaining text
    | refused refused =>
      obtain ⟨_, _, merging⟩ := coordinated.merging here faithful reached
      rw [merging] at refused
      cases refused
    | truncate merging remaining =>
      rw [eq_ok_of_granted_change granted]
      exact ⟨_, coordinated.truncate here faithful reached merging remaining⟩
    | fill remaining =>
      have known := eq_ok_of_granted_change granted
      refine ⟨_, coordinated.fill here reached known ?_⟩
      exact known ▸ remaining
    | unlock remaining =>
      rw [eq_ok_of_granted_change granted]
      exact ⟨_, coordinated.unlock here reached remaining⟩

end Invariant

end Generation
end ApiServices
