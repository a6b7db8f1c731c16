import ApiServices.Proofs.Fixture.Runs
import ApiServices.Proofs.Generation.Stages

namespace ApiServices
namespace Generation

/-!
# Bringing the fixture file up to date

The file is emptied only when its new text is known, and nothing can go wrong
with an opened file from then on.  So there are two outcomes.  Either the file
holds the merged text, or the tree is exactly as it was, but for one case: opening
makes a missing file, and although a file that was just made holds nothing that
could be refused, it may turn out that it cannot be read.  Then it stays, and is
empty.
-/

/-- The text that a run merges its entries into, given what it finds in the
place of the fixture file. -/
def priorText (merge : Bool) : Option DiskEntry -> Option Text
  | some (.file (.text text)) =>
    if merge && !(Text.trim text).isEmpty then some text else none
  | _ => none

/-- A run that does not merge starts from nothing. -/
theorem priorText_false (former : Option DiskEntry) : priorText false former = none := by
  unfold priorText
  split <;> rfl

section Update

variable {tree left : FileTree} {asked : List Request} {path : Text}
  {entries : List (Text × Text)} {merge : Bool} {outcome : Except GenerationError Unit}

/-- A demand that a tree grants, and that cannot be interrupted, is granted. -/
theorem of_demand_certain {change : Change} {next : FileTree}
    (granted : tree.carryOut change = (next, .ok ()))
    (certain : forall left, ¬Interrupted tree change left)
    (execution : Execution tree (demand path change) asked left outcome) :
    asked = [.change change] ∧ left = next ∧ outcome = .ok () := by
  rcases of_demand execution with ⟨once, ⟨succeeded, carried⟩ | ⟨cause, _, carried | interrupted⟩⟩
  · rw [granted] at carried
    exact ⟨once, (congrArg Prod.fst carried).symm, succeeded⟩
  · rw [granted] at carried
    cases congrArg Prod.snd carried
  · exact absurd interrupted (certain left)

theorem silent_nextFixtureText (path : Text) (entries : List (Text × Text)) (merge : Bool)
    (existing : Text) :
    Execution.Silent
      (fun result => result =
        (mergeFixtureFile (priorText merge (some (.file (.text existing)))) entries).outcome.mapError
          .malformedFixture)
      (nextFixtureText path entries merge existing) := by
  intro tree asked left outcome execution
  unfold nextFixtureText at execution
  dsimp only at execution
  split at execution
  · exact Execution.of_ofLogged (Execution.of_note execution)
  · exact Execution.of_ofLogged execution

/-- How an update ends when it stops before the file is emptied. -/
structure Refused (path : Text) (asked : List Request) (error : GenerationError) : Prop where
  unemptied : forall emptied, .change (.truncate emptied) ∉ asked
  failed : (Exists fun cause => error = .disk path cause) ∨
    Exists fun cause => error = .malformedFixture cause

/-- Whether a file was to be read, and the disk has failed on this file. -/
def Unread (path : Text) (asked : List Request) (error : GenerationError) : Prop :=
  .read path ∈ asked ∧ Exists fun cause => error = .disk path cause

/-- What an update leaves when it makes a file that cannot be read. -/
structure LeftEmpty (path : Text) (tree : FileTree) (asked : List Request) (left : FileTree)
    (error : GenerationError) : Prop where
  absent : tree.get? (Path.place path) = none
  empty : left.get? (Path.place path) = some (.file (.text []))
  changes : Changes nowhere (· = Path.place path) tree left
  unread : Unread path asked error

theorem LeftEmpty.among {error : GenerationError} {more : List Request}
    (leftEmpty : LeftEmpty path tree asked left error) (inside : ∀ request ∈ asked, request ∈ more) :
    LeftEmpty path tree more left error :=
  { leftEmpty with unread := ⟨inside _ leftEmpty.unread.1, leftEmpty.unread.2⟩ }

/-- What an update does when the file is emptied. -/
structure Rewritten (path : Text) (entries : List (Text × Text)) (merge : Bool)
    (tree : FileTree) (asked : List Request) (left : FileTree)
    (outcome : Except GenerationError Unit) : Prop where
  succeeded : outcome = .ok ()
  emptied : .change (.truncate path) ∈ asked
  changes : Changes nowhere (· = Path.place path) tree left
  former : tree.get? (Path.place path) = none ∨
    Exists fun text => tree.get? (Path.place path) = some (.file (.text text))
  text : Exists fun next =>
    (mergeFixtureFile (priorText merge (tree.get? (Path.place path))) entries).outcome = .ok next ∧
      left.get? (Path.place path) = some (.file (.text next))

/-- An opened file can be emptied and filled. -/
theorem of_overwrite {found : Place} {prior : Option FileContent} {next : Text}
    (writable : tree.fileAt path = .ok (found, prior))
    (execution : Execution tree
      (demand path (.truncate path) >>= fun _ => demand path (.fill path next)) asked left outcome) :
    outcome = .ok () ∧ .change (.truncate path) ∈ asked ∧
      Changes nowhere (· = Path.place path) tree left ∧
      left.get? (Path.place path) = some (.file (.text next)) := by
  have uncut : forall tree left, ¬Interrupted tree (.truncate path) left := by
    intro tree left interrupted
    cases interrupted
  have unbroken : forall tree left, ¬Interrupted tree (.fill path next) left := by
    intro tree left interrupted
    cases interrupted
  have emptying : tree.carryOut (.truncate path) = (tree.put found (.file (.text [])), .ok ()) := by
    change tree.changed (tree.write path (.text [])) = _
    rw [FileTree.write_of_fileAt (.text []) writable]
    rfl
  have reopened := FileTree.fileAt_put (.text []) writable
  have filling : (tree.put found (.file (.text []))).carryOut (.fill path next) =
      ((tree.put found (.file (.text []))).put found (.file (.text next)), .ok ()) := by
    change FileTree.changed _ (FileTree.write _ path (.text next)) = _
    rw [FileTree.write_of_fileAt (.text next) reopened]
    rfl
  have free := FileTree.free_of_fileAt writable
  have freeAgain := FileTree.free_of_fileAt reopened
  rcases Execution.of_bind execution with ⟨_, _, stopped⟩ |
    ⟨empty, _, first, later, split, cutting, completing⟩
  · cases (of_demand_certain emptying (uncut tree) stopped).2.2
  · rcases of_demand_certain emptying (uncut tree) cutting with ⟨asking, blank, _⟩
    rw [blank] at completing
    rcases of_demand_certain filling (unbroken _) completing with ⟨_, final, succeeded⟩
    rw [final, ← FileTree.eq_place_of_fileAt writable]
    refine ⟨succeeded, ?_, ?_, FileTree.get?_put_file _ freeAgain⟩
    · rw [split, asking]
      exact List.mem_cons_self
    · exact (FileTree.changes_put_file _ free).trans (FileTree.changes_put_file _ freeAgain)

/-- The text that was read is refused, or it is replaced by the merged text. -/
theorem of_rewriting {found : Place} {former : Text}
    (writable : tree.fileAt path = .ok (found, some (.text former)))
    (execution : Execution tree
      (nextFixtureText path entries merge former >>= fun next =>
        demand path (.truncate path) >>= fun _ => demand path (.fill path next)) asked left outcome) :
    (Exists fun cause =>
        (mergeFixtureFile (priorText merge (some (.file (.text former)))) entries).outcome =
            .error cause ∧
          asked = [] ∧ left = tree ∧ outcome = .error (.malformedFixture cause)) ∨
      Exists fun next =>
        (mergeFixtureFile (priorText merge (some (.file (.text former)))) entries).outcome =
            .ok next ∧
          outcome = .ok () ∧ .change (.truncate path) ∈ asked ∧
          Changes nowhere (· = Path.place path) tree left ∧
          left.get? (Path.place path) = some (.file (.text next)) := by
  have merging := (silent_nextFixtureText path entries merge former).of_bind execution
  cases merged : (mergeFixtureFile (priorText merge (some (.file (.text former))))
      entries).outcome with
  | error cause =>
    rw [merged] at merging
    rcases merging with ⟨nothing, same, error, failed, result⟩ | ⟨next, impossible, _⟩
    · refine Or.inl ⟨cause, rfl, nothing, same, ?_⟩
      rw [failed, Except.error.inj result]
    · cases impossible
  | ok text =>
    rw [merged] at merging
    rcases merging with ⟨_, _, _, _, impossible⟩ | ⟨next, result, writing⟩
    · cases impossible
    · rw [show next = text from Except.ok.inj result] at writing
      exact Or.inr ⟨text, rfl, of_overwrite writable writing⟩

/-- A file that was just made holds no text to merge into. -/
theorem priorText_empty (merge : Bool) : priorText merge (some (.file (.text []))) = none := by
  cases merge <;> rfl

theorem refused_of_read {error : GenerationError} (once : asked = [.read path])
    (kind : (Exists fun cause => error = .disk path cause) ∨
      Exists fun cause => error = .malformedFixture cause) : Refused path asked error := by
  refine ⟨?_, kind⟩
  intro emptied member
  rw [once] at member
  cases List.mem_singleton.mp member

/-- Once the file is open and locked, it is either refused or rewritten.  An
empty file is refused only when it cannot be read. -/
theorem of_renewFixtureFile {found : Place} {content : FileContent}
    (writable : tree.fileAt path = .ok (found, some content))
    (execution : Execution tree (renewFixtureFile path entries merge) asked left outcome) :
    (Exists fun error => outcome = .error error ∧ left = tree ∧ Refused path asked error ∧
        (content = .text [] -> Unread path asked error)) ∨
      Rewritten path entries merge tree asked left outcome := by
  have here : tree.get? (Path.place path) = some (.file content) := by
    rw [← FileTree.eq_place_of_fileAt writable]
    exact (FileTree.fileAt_eq_ok_iff.mp writable).2.1
  rcases Execution.of_perform_bind execution with
    ⟨read, reply, later, split, ⟨unchanged, answered⟩, rest⟩
  rw [FileTree.read_of_fileAt writable] at answered
  rw [unchanged] at rest
  rcases answered with answered | ⟨cause, answered⟩
  · rw [answered] at rest
    cases content with
    | binary bytes =>
      rcases Execution.of_done rest with ⟨nothing, same, failed⟩
      rw [nothing] at split
      exact Or.inl ⟨_, failed, same, refused_of_read split (Or.inl ⟨_, rfl⟩),
        fun impossible => nomatch impossible⟩
    | text former =>
      rcases of_rewriting writable rest with ⟨cause, merged, nothing, same, failed⟩ |
        ⟨next, merged, succeeded, emptied, changes, final⟩
      · rw [nothing] at split
        refine Or.inl ⟨_, failed, same, refused_of_read split (Or.inr ⟨cause, rfl⟩), ?_⟩
        intro empty
        rw [empty, priorText_empty] at merged
        cases merged
      · refine Or.inr ⟨succeeded, ?_, changes, Or.inr ⟨former, here⟩, next, here ▸ merged, final⟩
        rw [split]
        exact List.mem_cons_of_mem _ emptied
  · rw [answered] at rest
    rcases Execution.of_done rest with ⟨nothing, same, failed⟩
    rw [nothing] at split
    refine Or.inl ⟨_, failed, same, refused_of_read split (Or.inl ⟨cause, rfl⟩), fun _ => ?_⟩
    exact ⟨split ▸ List.mem_singleton_self _, cause, rfl⟩

theorem of_release {unlocked : Except DiskError Unit} {result : Except GenerationError Unit}
    (free : unlocked = .ok ())
    (execution : Execution tree (release path result unlocked) asked left outcome) :
    asked = [] ∧ left = tree ∧ outcome = result := by
  rw [free] at execution
  cases result with
  | ok done => exact Execution.of_done execution
  | error error => exact Execution.of_done execution

/-- An update of an opened file: the lock changes nothing about its outcome. -/
theorem of_lockedUpdate (execution : Execution tree
      (do
        demand path (.lock path)
        let result ← (renewFixtureFile path entries merge).attempt
        release path result (← Program.perform (.change (.unlock path)))) asked left outcome) :
    Exists fun renewing =>
      Execution tree (renewFixtureFile path entries merge) renewing left outcome ∧
        asked = .change (.lock path) :: (renewing ++ [.change (.unlock path)]) := by
  have waiting : forall tree left, ¬Interrupted tree (.lock path) left := by
    intro tree left interrupted
    cases interrupted
  rcases Execution.of_bind execution with ⟨_, _, stopped⟩ |
    ⟨held, _, locking, later, split, locked, rest⟩
  · cases (of_demand_certain rfl (waiting tree) stopped).2.2
  rcases of_demand_certain rfl (waiting tree) locked with ⟨once, same, _⟩
  rw [same] at rest
  rcases Execution.of_bind rest with ⟨_, _, stopped⟩ |
    ⟨renewed, result, renewing, unlocking, divided, attempted, releasing⟩
  · rcases Execution.of_attempt stopped with ⟨_, impossible, _⟩
    cases impossible
  rcases Execution.of_attempt attempted with ⟨found, tried, renewal⟩
  rw [← Except.ok.inj tried] at renewal
  rcases Execution.of_perform_bind releasing with ⟨freed, reply, ending, cut, answered, final⟩
  have granted : (freed, reply) = (renewed, .ok ()) := by
    rcases answered with exact | ⟨interrupted, _⟩
    · exact exact
    · cases interrupted
  rcases of_release (congrArg Prod.snd granted) final with ⟨nothing, unchanged, kept⟩
  have back : left = renewed := unchanged.trans (congrArg Prod.fst granted)
  refine ⟨renewing, by rw [back, kept]; exact renewal, ?_⟩
  rw [split, once, divided, cut, nothing]
  rfl

/-- A file that cannot be opened is not made either. -/
theorem eq_of_demand_openFile_error {error : GenerationError}
    (execution : Execution tree (demand path (.openFile path)) asked left (.error error)) :
    left = tree ∧ Exists fun cause => error = .disk path cause := by
  rcases (of_demand execution).2 with ⟨impossible, _⟩ | ⟨cause, result, unopened⟩
  · cases impossible
  refine ⟨?_, cause, Except.error.inj result⟩
  rcases unopened with carried | interrupted
  · change tree.changed (tree.openFile path) = _ at carried
    cases opening : tree.openFile path with
    | ok opened =>
      rw [opening] at carried
      cases congrArg Prod.snd carried
    | error refused =>
      rw [opening] at carried
      exact (congrArg Prod.fst carried).symm
  · exact interrupted.eq_of_openFile

/-- A file that was just made is rewritten, or it cannot be read and stays empty. -/
theorem of_created {found : Place} (free : tree.fileAt path = .ok (found, none))
    (execution : Execution (tree.put found (.file (.text []))) (renewFixtureFile path entries merge)
      asked left outcome) :
    (Exists fun error => outcome = .error error ∧ Refused path asked error ∧
        LeftEmpty path tree asked left error) ∨
      Rewritten path entries merge tree asked left outcome := by
  have place := FileTree.eq_place_of_fileAt free
  have vacant := FileTree.free_of_fileAt free
  have absent : tree.get? (Path.place path) = none := by
    rw [← place]
    exact (FileTree.fileAt_eq_ok_iff.mp free).2.1
  have here : (tree.put found (.file (.text []))).get? (Path.place path) =
      some (.file (.text [])) := by
    rw [← place]
    exact FileTree.get?_put_file _ vacant
  have creation : Changes nowhere (· = Path.place path) tree (tree.put found (.file (.text []))) := by
    rw [← place]
    exact FileTree.changes_put_file _ vacant
  rcases of_renewFixtureFile (FileTree.fileAt_put (.text []) free) execution with
    ⟨error, failed, same, refused, unread⟩ | rewritten
  · refine Or.inl ⟨error, failed, refused, ?_⟩
    rw [same]
    exact ⟨absent, here, creation, unread rfl⟩
  · refine Or.inr ⟨rewritten.succeeded, rewritten.emptied, creation.trans rewritten.changes,
      Or.inl absent, ?_⟩
    rcases rewritten.text with ⟨next, merged, final⟩
    rw [here, priorText_empty] at merged
    rw [absent]
    exact ⟨next, merged, final⟩

/-- An update refuses the file and leaves the tree exactly as it was, but for an
empty file that could not be read, or it rewrites the file and succeeds. -/
theorem of_updateFixtureFile
    (execution : Execution tree (updateFixtureFile path entries merge) asked left outcome) :
    (Exists fun error => outcome = .error error ∧ Refused path asked error ∧
        (left = tree ∨ LeftEmpty path tree asked left error)) ∨
      Rewritten path entries merge tree asked left outcome := by
  rcases Execution.of_bind execution with ⟨error, failed, stopped⟩ |
    ⟨opened, _, first, later, split, opening, rest⟩
  · rcases eq_of_demand_openFile_error stopped with ⟨same, disk⟩
    refine Or.inl ⟨error, failed, ⟨?_, Or.inl disk⟩, Or.inl same⟩
    rw [(of_demand stopped).1]
    simp
  rcases of_lockedUpdate rest with ⟨renewing, renewal, locked⟩
  rw [(of_demand opening).1, locked] at split
  have inside : ∀ request ∈ renewing, request ∈ asked := by
    intro request member
    simp [split, member]
  have refused_of {error : GenerationError} (refused : Refused path renewing error) :
      Refused path asked error := by
    refine { refused with unemptied := fun emptied => ?_ }
    simpa [split] using refused.unemptied emptied
  rcases FileTree.fileAt_of_openFile (of_changed_ok (of_demand_ok opening)) with
    ⟨found, ⟨same, content, writable⟩ | ⟨made, free⟩⟩
  · rw [same] at renewal
    rcases of_renewFixtureFile writable renewal with ⟨error, failed, kept, refused, _⟩ | rewritten
    · exact Or.inl ⟨error, failed, refused_of refused, Or.inl kept⟩
    · exact Or.inr { rewritten with emptied := inside _ rewritten.emptied }
  · rw [made] at renewal
    rcases of_created free renewal with ⟨error, failed, refused, leftEmpty⟩ | rewritten
    · exact Or.inl ⟨error, failed, refused_of refused, Or.inr (leftEmpty.among inside)⟩
    · exact Or.inr { rewritten with emptied := inside _ rewritten.emptied }

end Update

end Generation
end ApiServices
