import ApiServices.Disk.Program
import ApiServices.Proofs.Disk.Changes

namespace ApiServices

/-!
# Programs on a disk that may fail

A tree has one answer to every request.  A disk can also fail for causes that
no tree shows: it is full, or access is denied.  Then making directories may
stop halfway, a file that was to be written may hold anything, a file that was
to be opened stays as it is, and a file that was to be read is not read.
Executions allow for this at every request; a run on a tree is the execution in
which nothing of the kind happens.

It is taken for granted that an opened file can be locked, emptied, filled and
let go of, and that questions are answered truthfully.
-/

/-- The trees that a change may leave when it fails for no cause in the tree. -/
inductive Interrupted (tree : FileTree) : Change -> FileTree -> Prop
  | halfway (path : Text) (count : Nat) :
      Interrupted tree (.makeDirs path)
        (tree.makeDirsFrom [] false ((Path.parts path).take count)).1
  | unwritten (path text : Text) : Interrupted tree (.write path text) tree
  | torn (path text : Text) (content : FileContent) (left : FileTree)
      (written : tree.write path content = .ok left) : Interrupted tree (.write path text) left
  | unopened (path : Text) : Interrupted tree (.openFile path) tree

/-- What a disk may answer to a request, and the tree that it leaves. -/
def Answers (tree : FileTree) : (request : Request) -> FileTree -> request.Reply -> Prop
  | .change change, left, reply =>
    (left, reply) = tree.carryOut change ∨
      Interrupted tree change left ∧ Exists fun cause => reply = .error cause
  | .isTaken path, left, reply => left = tree ∧ reply = tree.isTaken path
  | .read path, left, reply => left = tree ∧
    (reply = tree.read path ∨ Exists fun cause => reply = .error cause)

/-- A program is executed on a disk that holds a tree: the requests that it
makes, the tree that is left, and the outcome. -/
inductive Execution {ε α : Type} :
    FileTree -> Program ε α -> List Request -> FileTree -> Except ε α -> Prop
  | done (tree : FileTree) (outcome : Except ε α) :
      Execution tree (.done outcome) [] tree outcome
  | note {tree left : FileTree} {record : LogRecord} {rest : Program ε α} {asked : List Request}
      {outcome : Except ε α} (remaining : Execution tree rest asked left outcome) :
      Execution tree (.note record rest) asked left outcome
  | ask {tree middle left : FileTree} {request : Request} {reply : request.Reply}
      {next : request.Reply -> Program ε α} {asked : List Request} {outcome : Except ε α}
      (answered : Answers tree request middle reply)
      (remaining : Execution middle (next reply) asked left outcome) :
      Execution tree (.ask request next) (request :: asked) left outcome

namespace Execution

variable {ε δ α β : Type} {tree left : FileTree} {asked : List Request}

theorem answers_answer (tree : FileTree) (request : Request) :
    Answers tree request (tree.answer request).1 (tree.answer request).2 := by
  cases request with
  | change change => exact Or.inl rfl
  | isTaken path => exact ⟨rfl, rfl⟩
  | read path => exact ⟨rfl, Or.inl rfl⟩

/-- The requests that a program makes when a tree answers them. -/
def requests (tree : FileTree) : Program ε α -> List Request
  | .done _ => []
  | .note _ rest => requests tree rest
  | .ask request rest => request :: requests (tree.answer request).1 (rest (tree.answer request).2)

/-- A run on a tree is an execution. -/
theorem run (tree : FileTree) (program : Program ε α) :
    Execution tree program (requests tree program) (program.run tree).1
      (program.run tree).2.outcome := by
  induction program generalizing tree with
  | done outcome => exact Execution.done tree outcome
  | note record rest ih => exact Execution.note (ih tree)
  | ask request rest ih => exact Execution.ask (answers_answer tree request) (ih _ _)

/-- What comes of a program when its requests are answered in some way: the requests
that it makes, the tree that is left, and the outcome. -/
def answeredBy (answer : FileTree -> (request : Request) -> FileTree × request.Reply)
    (tree : FileTree) : Program ε α -> List Request × FileTree × Except ε α
  | .done outcome => ([], tree, outcome)
  | .note _ rest => answeredBy answer tree rest
  | .ask request rest =>
    let (asked, ending) :=
      answeredBy answer (answer tree request).1 (rest (answer tree request).2)
    (request :: asked, ending)

/-- Requests that are answered as a disk may answer them make an execution. -/
theorem of_answers {answer : FileTree -> (request : Request) -> FileTree × request.Reply}
    (may : forall tree request, Answers tree request (answer tree request).1 (answer tree request).2)
    (tree : FileTree) (program : Program ε α) :
    Execution tree program (answeredBy answer tree program).1
      (answeredBy answer tree program).2.1 (answeredBy answer tree program).2.2 := by
  induction program generalizing tree with
  | done outcome => exact Execution.done tree outcome
  | note record rest ih => exact Execution.note (ih tree)
  | ask request rest ih => exact Execution.ask (may tree request) (ih _ _)

/-! ## Taking executions apart -/

/-- An execution of two programs one after the other ends in the first one, or
is an execution of the first and one of the second. -/
theorem of_bind {program : Program ε α} {next : α -> Program ε β} {outcome : Except ε β}
    (execution : Execution tree (program >>= next) asked left outcome) :
    (Exists fun error => outcome = .error error ∧ Execution tree program asked left (.error error)) ∨
      Exists fun middle => Exists fun a => Exists fun first => Exists fun later =>
        asked = first ++ later ∧ Execution tree program first middle (.ok a) ∧
          Execution middle (next a) later left outcome := by
  change Execution tree (Program.bind next program) asked left outcome at execution
  induction program generalizing tree asked with
  | done result =>
    cases result with
    | error error =>
      cases execution with
      | done => exact Or.inl ⟨error, rfl, Execution.done left _⟩
    | ok a => exact Or.inr ⟨tree, a, [], asked, rfl, Execution.done tree _, execution⟩
  | note record rest ih =>
    cases execution with
    | note remaining =>
      rcases ih remaining with ⟨error, same, stopped⟩ | ⟨middle, a, first, later, split, before, after⟩
      · exact Or.inl ⟨error, same, Execution.note stopped⟩
      · exact Or.inr ⟨middle, a, first, later, split, Execution.note before, after⟩
  | ask request rest ih =>
    cases execution with
    | ask answered remaining =>
      rcases ih _ remaining with ⟨error, same, stopped⟩ | ⟨middle, a, first, later, split, before, after⟩
      · exact Or.inl ⟨error, same, Execution.ask answered stopped⟩
      · refine Or.inr ⟨middle, a, request :: first, later, ?_, Execution.ask answered before, after⟩
        rw [split]
        rfl

/-- Two programs one after the other succeed if both do. -/
theorem of_bind_ok {program : Program ε α} {next : α -> Program ε β} {b : β}
    (execution : Execution tree (program >>= next) asked left (.ok b)) :
    Exists fun middle => Exists fun a => Exists fun first => Exists fun later =>
      asked = first ++ later ∧ Execution tree program first middle (.ok a) ∧
        Execution middle (next a) later left (.ok b) := by
  rcases of_bind execution with ⟨_, impossible, _⟩ | both
  · cases impossible
  · exact both

theorem of_done {result outcome : Except ε α}
    (execution : Execution tree (.done result) asked left outcome) :
    asked = [] ∧ left = tree ∧ outcome = result := by
  cases execution with
  | done => exact ⟨rfl, rfl, rfl⟩

theorem of_note {record : LogRecord} {rest : Program ε α} {outcome : Except ε α}
    (execution : Execution tree (.note record rest) asked left outcome) :
    Execution tree rest asked left outcome := by
  cases execution with
  | note remaining => exact remaining

/-- Records and an outcome that are known before leave the disk as it is. -/
theorem of_ofLogged {computation : Logged ε α} {outcome : Except ε α}
    (execution : Execution tree (Program.ofLogged computation) asked left outcome) :
    asked = [] ∧ left = tree ∧ outcome = computation.outcome := by
  rcases computation with ⟨records, result⟩
  unfold Program.ofLogged at execution
  induction records with
  | nil => exact of_done execution
  | cons record rest ih => exact ih (of_note execution)

/-- A request is answered, and the program goes on with the reply. -/
theorem of_perform_bind {request : Request} {next : request.Reply -> Program ε α}
    {outcome : Except ε α}
    (execution : Execution tree (Program.perform request >>= next) asked left outcome) :
    Exists fun middle => Exists fun reply => Exists fun later =>
      asked = request :: later ∧ Answers tree request middle reply ∧
        Execution middle (next reply) later left outcome := by
  cases execution with
  | ask answered remaining => exact ⟨_, _, _, rfl, answered, remaining⟩

/-- An attempt does what the program does, and succeeds. -/
theorem of_attempt {program : Program ε α} {outcome : Except δ (Except ε α)}
    (execution : Execution tree (Program.attempt program) asked left outcome) :
    Exists fun result => outcome = .ok result ∧ Execution tree program asked left result := by
  induction program generalizing tree asked with
  | done result =>
    cases execution with
    | done => exact ⟨result, rfl, Execution.done left result⟩
  | note record rest ih =>
    cases execution with
    | note remaining =>
      rcases ih remaining with ⟨result, same, inner⟩
      exact ⟨result, same, Execution.note inner⟩
  | ask request rest ih =>
    cases execution with
    | ask answered remaining =>
      rcases ih _ remaining with ⟨result, same, inner⟩
      exact ⟨result, same, Execution.ask answered inner⟩

/-- A program that asks nothing of the disk, and what is known of its outcome. -/
def Silent (result : Except ε α -> Prop) (program : Program ε α) : Prop :=
  forall tree asked left outcome, Execution tree program asked left outcome ->
    asked = [] ∧ left = tree ∧ result outcome

theorem silent_ofLogged (computation : Logged ε α) :
    Silent (· = computation.outcome) (Program.ofLogged computation) :=
  fun _ _ _ _ execution => of_ofLogged execution

/-- After a silent program the disk is as before, and no request has been made. -/
theorem Silent.of_bind {result : Except ε α -> Prop} {program : Program ε α}
    {next : α -> Program ε β} {outcome : Except ε β} (silent : Silent result program)
    (execution : Execution tree (program >>= next) asked left outcome) :
    (asked = [] ∧ left = tree ∧ Exists fun error => outcome = .error error ∧ result (.error error)) ∨
      Exists fun a => result (.ok a) ∧ Execution tree (next a) asked left outcome := by
  rcases Execution.of_bind execution with ⟨error, failed, stopped⟩ |
    ⟨middle, a, first, later, split, before, after⟩
  · rcases silent tree asked left (.error error) stopped with ⟨nothing, same, known⟩
    exact Or.inl ⟨nothing, same, error, failed, known⟩
  · rcases silent tree first middle (.ok a) before with ⟨nothing, same, known⟩
    rw [nothing, List.nil_append] at split
    rw [same] at after
    exact Or.inr ⟨a, known, split ▸ after⟩

end Execution

/-! ## Interrupted changes -/

namespace Interrupted

variable {tree left : FileTree} {path text : Text}

theorem changes_makeDirs (interrupted : Interrupted tree (.makeDirs path) left) :
    Changes (Path.OnWay path) nowhere tree left := by
  cases interrupted with
  | halfway path count => exact FileTree.changes_makeDirsFrom_take tree path count

theorem changes_write (interrupted : Interrupted tree (.write path text) left) :
    Changes nowhere (· = Path.place path) tree left := by
  cases interrupted with
  | unwritten => exact Changes.refl tree
  | torn _ _ content _ written => exact FileTree.changes_write written

theorem eq_of_openFile (interrupted : Interrupted tree (.openFile path) left) : left = tree := by
  cases interrupted with
  | unopened => rfl

end Interrupted
end ApiServices
