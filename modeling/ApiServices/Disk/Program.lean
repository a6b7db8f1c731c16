import ApiServices.Disk.FileTree
import ApiServices.Logged

namespace ApiServices

/-!
# Programs that use a disk

A program makes requests, one at a time, and goes on with the replies.  It is
data: what it does depends on who answers.  Here a file tree answers, and
several programs can share one tree by having their requests answered in
turn; elsewhere the same program can be carried out on a real disk.

Locking a file holds back others who want to lock it.  It does not hold back
reads and writes.
-/

/-- A request that only succeeds or fails. -/
inductive Change
  /-- Make a directory and those on the way to it. -/
  | makeDirs (path : Text)
  /-- Make a file hold a text, whatever it held before. -/
  | write (path text : Text)
  /-- Open a file, with an empty one made where nothing is. -/
  | openFile (path : Text)
  /-- Wait until nobody else holds an opened file, and hold it. -/
  | lock (path : Text)
  /-- Empty an opened file. -/
  | truncate (path : Text)
  /-- Write a text to an opened file that is empty. -/
  | fill (path text : Text)
  /-- Let go of a file that is held. -/
  | unlock (path : Text)
deriving DecidableEq

inductive Request
  | change (change : Change)
  /-- Whether anything is there. -/
  | isTaken (path : Text)
  | read (path : Text)
deriving DecidableEq

/-- What the reply to a request is. -/
abbrev Request.Reply : Request -> Type
  | .change _ => Except DiskError Unit
  | .isTaken _ => Bool
  | .read _ => Except DiskError Text

/-- A program that ends with a result or an error, and leaves records. -/
inductive Program (ε α : Type)
  | done (outcome : Except ε α)
  | note (record : LogRecord) (next : Program ε α)
  | ask (request : Request) (next : request.Reply -> Program ε α)

namespace Program

variable {ε δ α β : Type}

def bind (next : α -> Program ε β) : Program ε α -> Program ε β
  | .done (.ok a) => next a
  | .done (.error e) => .done (.error e)
  | .note record rest => .note record (bind next rest)
  | .ask request rest => .ask request fun reply => bind next (rest reply)

instance : Monad (Program ε) where
  pure a := .done (.ok a)
  bind program next := bind next program

instance : LawfulMonad (Program ε) := LawfulMonad.mk' _
  (by
    intro _ program
    change bind (fun a => .done (.ok a)) program = program
    induction program with
    | done outcome => cases outcome <;> rfl
    | note record rest ih => simp [bind, ih]
    | ask request rest ih => simp [bind, ih])
  (by
    intro _ _ a f
    rfl)
  (by
    intro _ _ _ program f g
    change bind g (bind f program) = bind (fun a => bind g (f a)) program
    induction program with
    | done outcome => cases outcome <;> rfl
    | note record rest ih => simp [bind, ih]
    | ask request rest ih => simp [bind, ih])

def fail (e : ε) : Program ε α :=
  .done (.error e)

def perform (request : Request) : Program ε request.Reply :=
  .ask request fun reply => .done (.ok reply)

/-- The records of a computation, and then its outcome. -/
def ofLogged (computation : Logged ε α) : Program ε α :=
  computation.records.foldr .note (.done computation.outcome)

/-- The program whose result is the outcome of the given one. -/
def attempt : Program ε α -> Program δ (Except ε α)
  | .done outcome => .done (.ok outcome)
  | .note record rest => .note record (attempt rest)
  | .ask request rest => .ask request fun reply => attempt (rest reply)

/-- The same program with its error seen as an error of a larger kind. -/
def mapError (f : ε -> δ) : Program ε α -> Program δ α
  | .done outcome => .done (outcome.mapError f)
  | .note record rest => .note record (mapError f rest)
  | .ask request rest => .ask request fun reply => mapError f (rest reply)

end Program

namespace FileTree

/-- A tree as it is, with the cause of a failure, or a changed tree. -/
def changed (tree : FileTree) : Except DiskError FileTree -> FileTree × Except DiskError Unit
  | .ok next => (next, .ok ())
  | .error cause => (tree, .error cause)

/-- Carry out a change for a program that has the tree to itself: locks are
always free. -/
def carryOut (tree : FileTree) : Change -> FileTree × Except DiskError Unit
  | .makeDirs path => tree.makeDirs path
  | .write path text => tree.changed (tree.write path (.text text))
  | .openFile path => tree.changed (tree.openFile path)
  | .lock _ => (tree, .ok ())
  | .truncate path => tree.changed (tree.write path (.text []))
  | .fill path text => tree.changed (tree.write path (.text text))
  | .unlock _ => (tree, .ok ())

/-- Answer a request of a program that has the tree to itself. -/
def answer (tree : FileTree) : (request : Request) -> FileTree × request.Reply
  | .change change => tree.carryOut change
  | .isTaken path => (tree, tree.isTaken path)
  | .read path => (tree, tree.read path)

end FileTree

namespace Program

variable {ε α : Type}

/-- Run a program on a tree: the tree that it leaves, and its outcome with the
records. -/
def run (tree : FileTree) : Program ε α -> FileTree × Logged ε α
  | .done outcome => (tree, ⟨[], outcome⟩)
  | .note record rest =>
    let (left, result) := run tree rest
    (left, ⟨record :: result.records, result.outcome⟩)
  | .ask request rest =>
    run (tree.answer request).1 (rest (tree.answer request).2)

/-- What a run leaves and gives, when a run of a second program from the tree
left by the first one follows if the first one succeeds. -/
def followedBy {β : Type} (first : FileTree × Logged ε α)
    (second : FileTree -> α -> FileTree × Logged ε β) : FileTree × Logged ε β :=
  match first.2.outcome with
  | .error e => (first.1, ⟨first.2.records, .error e⟩)
  | .ok a =>
    let last := second first.1 a
    (last.1, ⟨first.2.records ++ last.2.records, last.2.outcome⟩)

/-- Programs one after the other run one after the other. -/
theorem run_bind {β : Type} (tree : FileTree) (program : Program ε α)
    (next : α -> Program ε β) :
    run tree (program >>= next) =
      followedBy (run tree program) fun left a => run left (next a) := by
  change run tree (bind next program) = _
  induction program generalizing tree with
  | done outcome => cases outcome <;> rfl
  | note record rest ih =>
    simp only [bind, run, ih, followedBy]
    cases (run tree rest).2.outcome <;> rfl
  | ask request rest ih =>
    simp only [bind, run]
    exact ih _ _

@[simp] theorem run_pure (tree : FileTree) (a : α) :
    run tree (pure a : Program ε α) = (tree, ⟨[], .ok a⟩) := rfl

@[simp] theorem run_fail (tree : FileTree) (e : ε) :
    run tree (fail e : Program ε α) = (tree, ⟨[], .error e⟩) := rfl

@[simp] theorem run_perform (tree : FileTree) (request : Request) :
    run tree (perform request : Program ε request.Reply) =
      ((tree.answer request).1, ⟨[], .ok (tree.answer request).2⟩) := rfl

/-- Records and an outcome that are known before leave the tree as it is. -/
@[simp] theorem run_ofLogged (tree : FileTree) (computation : Logged ε α) :
    run tree (ofLogged computation) = (tree, computation) := by
  obtain ⟨records, outcome⟩ := computation
  unfold ofLogged
  induction records with
  | nil => rfl
  | cons record rest ih =>
    simp only [List.foldr_cons, run]
    rw [ih]

/-- An attempt leaves the same tree and the same records. -/
theorem run_attempt {δ : Type} (tree : FileTree) (program : Program ε α) :
    run tree (attempt program : Program δ (Except ε α)) =
      let (left, result) := run tree program
      (left, ⟨result.records, .ok result.outcome⟩) := by
  induction program generalizing tree with
  | done outcome => rfl
  | note record rest ih => simp [attempt, run, ih]
  | ask request rest ih => simp [attempt, run, ih]

end Program
end ApiServices
