import ApiServices.Proofs.Disk.Places
import ApiServices.Disk.Program

namespace ApiServices

/-!
# Programs that share a disk

Programs that run at the same time have their requests answered by the one tree
that they share.  A turn belongs to one program: it leaves a record, or has one
request answered and goes on with the reply.  Whose turn it is, is decided by
nobody, so what can happen is described by lists of turns.

The lock of a file is held by one program at a time.  A program that asks for a
lock that is held gets no turn; nobody else is held back.  Requests that the tree
does not grant are not answered here, so what is said of such turns is said of a
disk on which nothing fails.

Turns come to an end, since every one of them shortens a program.  It is not said
that every program gets its turn.
-/

/-- Whether a reply reports no failure. -/
def Request.granted : (request : Request) -> request.Reply -> Bool
  | .change _, reply => reply.isOk
  | .isTaken _, _ => true
  | .read _, reply => reply.isOk

/-- Programs on one tree, and the requests that have been answered, oldest first,
with the programs that made them.  Programs are numbered. -/
structure Shared (ε α : Type) where
  tree : FileTree
  /-- Who holds the lock of the file at a place. -/
  holder : Place -> Option Nat
  /-- What remains of each program. -/
  running : List (Program ε α)
  asked : List (Nat × Request)

namespace Shared

variable {ε α : Type}

/-- Programs before the first turn. -/
def start (tree : FileTree) (programs : List (Program ε α)) : Shared ε α where
  tree := tree
  holder := fun _ => none
  running := programs
  asked := []

/-- Whether a request asks for a lock that is held. -/
def heldBack (shared : Shared ε α) : Request -> Bool
  | .change (.lock path) => (shared.holder (Path.place path)).isSome
  | _ => false

/-- Who holds the lock at a place once a request of a program is answered. -/
def holderAfter (shared : Shared ε α) (who : Nat) (request : Request) (place : Place) : Option Nat :=
  match request with
  | .change (.lock path) => if Path.place path = place then some who else shared.holder place
  | .change (.unlock path) =>
    if Path.place path = place ∧ shared.holder place = some who then none else shared.holder place
  | _ => shared.holder place

/-- A program has a request answered, and something remains of it. -/
def answered (shared : Shared ε α) (who : Nat) (request : Request) (rest : Program ε α) :
    Shared ε α where
  tree := (shared.tree.answer request).1
  holder := shared.holderAfter who request
  running := shared.running.set who rest
  asked := shared.asked ++ [(who, request)]

/-- A turn of a program, unless it has ended, is held back or meets a failure. -/
def turn? (shared : Shared ε α) (who : Nat) : Option (Shared ε α) :=
  match shared.running[who]? with
  | none => none
  | some (.done _) => none
  | some (.note _ rest) => some { shared with running := shared.running.set who rest }
  | some (.ask request next) =>
    if !shared.heldBack request && request.granted (shared.tree.answer request).2 then
      some (shared.answered who request (next (shared.tree.answer request).2))
    else none

/-- Turns of programs one after the other. -/
def play (shared : Shared ε α) (turns : List Nat) : Option (Shared ε α) :=
  turns.foldlM turn? shared

/-- Whether all programs have come to their ends. -/
def allEnded (shared : Shared ε α) : Bool :=
  shared.running.all fun program => match program with
    | .done _ => true
    | _ => false

/-- Whether the next request of a program meets a failure. -/
def failing (shared : Shared ε α) (who : Nat) : Bool :=
  match shared.running[who]? with
  | some (.ask request _) => !request.granted (shared.tree.answer request).2
  | _ => false

/-- The program that a request has given the lock at a place. -/
def locked? (place : Place) : Nat × Request -> Option Nat
  | (who, .change (.lock path)) => if Path.place path = place then some who else none
  | _ => none

/-- The programs that have obtained the lock at a place, in their order. -/
def lockOrder (shared : Shared ε α) (place : Place) : List Nat :=
  shared.asked.filterMap (locked? place)

/-! ## One turn -/

section Turns

variable {shared later : Shared ε α} {who : Nat}

/-- All that a turn can do. -/
theorem turn?_cases (taken : shared.turn? who = some later) :
    (Exists fun record => Exists fun rest =>
      shared.running[who]? = some (.note record rest) ∧
        later = { shared with running := shared.running.set who rest }) ∨
      Exists fun request => Exists fun next =>
        shared.running[who]? = some (.ask request next) ∧
          shared.heldBack request = false ∧
          request.granted (shared.tree.answer request).2 = true ∧
          later = shared.answered who request (next (shared.tree.answer request).2) := by
  unfold turn? at taken
  cases here : shared.running[who]? with
  | none =>
    rw [here] at taken
    cases taken
  | some program =>
    rw [here] at taken
    cases program with
    | done outcome => cases taken
    | note record rest => exact Or.inl ⟨record, rest, rfl, (Option.some.inj taken).symm⟩
    | ask request next =>
      dsimp only at taken
      split at taken
      · next allowed =>
        rw [Bool.and_eq_true, Bool.not_eq_true'] at allowed
        exact Or.inr ⟨request, next, rfl, allowed.1, allowed.2, (Option.some.inj taken).symm⟩
      · cases taken

/-- A program gets no turn when it has ended, meets a failure or waits for a lock. -/
theorem cases_of_turn?_eq_none {program : Program ε α} (stuck : shared.turn? who = none)
    (here : shared.running[who]? = some program) :
    (Exists fun outcome => program = .done outcome) ∨ shared.failing who = true ∨
      Exists fun path => Exists fun next => program = .ask (.change (.lock path)) next ∧
        (shared.holder (Path.place path)).isSome := by
  unfold turn? at stuck
  unfold failing
  rw [here] at stuck ⊢
  cases program with
  | done outcome => exact Or.inl ⟨outcome, rfl⟩
  | note record rest => cases stuck
  | ask request next =>
    right
    dsimp only at stuck ⊢
    cases granted : request.granted (shared.tree.answer request).2 with
    | false => exact Or.inl rfl
    | true =>
      right
      rw [granted, Bool.and_true] at stuck
      cases held : shared.heldBack request with
      | false =>
        rw [held] at stuck
        cases stuck
      | true =>
        unfold heldBack at held
        split at held
        · next path => exact ⟨path, next, rfl, held⟩
        · cases held

theorem lockOrder_answered (request : Request) (rest : Program ε α) (place : Place) :
    (shared.answered who request rest).lockOrder place =
      shared.lockOrder place ++ (locked? place (who, request)).toList := by
  change (shared.asked ++ [(who, request)]).filterMap (locked? place) = _
  rw [List.filterMap_append]
  cases obtained : locked? place (who, request) with
  | none => rw [List.filterMap_cons_none obtained]; rfl
  | some _ => rw [List.filterMap_cons_some obtained]; rfl

end Turns

/-! ## Many turns -/

/-- What holds at the start and survives every turn holds after all turns. -/
theorem play_induction {P : Shared ε α -> Prop}
    (step : forall shared who later, P shared -> shared.turn? who = some later -> P later)
    {first last : Shared ε α} {turns : List Nat} (begun : P first)
    (played : first.play turns = some last) : P last := by
  induction turns generalizing first with
  | nil => exact Option.some.inj played ▸ begun
  | cons who rest ih =>
    unfold play at played
    rw [List.foldlM_cons] at played
    cases taken : first.turn? who with
    | none =>
      rw [taken] at played
      cases played
    | some next =>
      rw [taken] at played
      exact ih (step first who next begun taken) played

/-! ## The end of all turns -/

/-- What a program goes on with is smaller than the program. -/
inductive Child : Program ε α -> Program ε α -> Prop
  | note (record : LogRecord) (rest : Program ε α) : Child rest (.note record rest)
  | ask (request : Request) (next : request.Reply -> Program ε α) (reply : request.Reply) :
      Child (next reply) (.ask request next)

/-- One of the programs has become smaller. -/
def Shrinks (later earlier : List (Program ε α)) : Prop :=
  Exists fun who => Exists fun program => Exists fun rest =>
    earlier[who]? = some program ∧ Child rest program ∧ later = earlier.set who rest

theorem acc_child (program : Program ε α) : Acc Child program := by
  induction program with
  | done outcome => exact ⟨_, fun _ impossible => nomatch impossible⟩
  | note record rest ih =>
    refine ⟨_, fun smaller child => ?_⟩
    cases child
    exact ih
  | ask request next ih =>
    refine ⟨_, fun smaller child => ?_⟩
    cases child with
    | ask _ _ reply => exact ih reply

/-- Either the first program shrinks, or the others do. -/
theorem acc_shrinks_cons {program : Program ε α} {others : List (Program ε α)}
    (first : Acc Child program) (rest : Acc Shrinks others) : Acc Shrinks (program :: others) := by
  induction first generalizing others with
  | intro program _ ihProgram =>
    induction rest with
    | intro others below ihOthers =>
      refine ⟨_, ?_⟩
      rintro later ⟨who, former, smaller, here, child, same⟩
      cases who with
      | zero =>
        have found : program = former := Option.some.inj here
        exact same ▸ ihProgram smaller (found ▸ child) ⟨others, below⟩
      | succ index =>
        exact same ▸ ihOthers (others.set index smaller) ⟨index, former, smaller, here, child, rfl⟩

theorem acc_shrinks (programs : List (Program ε α)) : Acc Shrinks programs := by
  induction programs with
  | nil =>
    refine ⟨_, ?_⟩
    rintro later ⟨who, program, rest, here, _⟩
    cases here
  | cons program others ih => exact acc_shrinks_cons (acc_child program) ih

theorem shrinks_of_turn? {shared later : Shared ε α} {who : Nat}
    (taken : shared.turn? who = some later) : Shrinks later.running shared.running := by
  rcases turn?_cases taken with ⟨record, rest, here, same⟩ | ⟨request, next, here, _, _, same⟩
  · exact ⟨who, _, rest, here, Child.note record rest, by rw [same]⟩
  · exact ⟨who, _, _, here, Child.ask request next _, by rw [same]; rfl⟩

/-- Turns cannot be taken without end, however they are chosen. -/
theorem play_ends (shared : Shared ε α) (choice : Nat -> Nat) :
    Exists fun count => shared.play ((List.range count).map choice) = none := by
  have bounded := acc_shrinks shared.running
  generalize remaining : shared.running = programs at bounded
  induction bounded generalizing shared choice with
  | intro programs _ ih =>
    cases taken : shared.turn? (choice 0) with
    | none =>
      refine ⟨1, ?_⟩
      change (shared.turn? (choice 0)).bind _ = none
      rw [taken]
      rfl
    | some later =>
      obtain ⟨count, stopped⟩ :=
        ih later.running (remaining ▸ shrinks_of_turn? taken) later (fun turn => choice (turn + 1)) rfl
      refine ⟨count + 1, ?_⟩
      rw [List.range_succ_eq_map, List.map_cons, List.map_map]
      change (shared.turn? (choice 0)).bind _ = none
      rw [taken]
      exact stopped

end Shared
end ApiServices
