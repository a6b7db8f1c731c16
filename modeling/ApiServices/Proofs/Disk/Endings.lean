import ApiServices.Proofs.Disk.Execution
import ApiServices.Proofs.Disk.Standing

namespace ApiServices

/-!
# How runs end

A run on a tree ends in one way.  What it ends in is found stage after stage:
the stages of a program that succeed hand their trees on, and the first one that
fails ends the run.  Records do not matter here.

An ending says that a run comes to something; what every execution has in common
is said elsewhere, and holds of the run with this ending among them.
-/

/-- What a run of a program leaves, and its outcome. -/
structure Ends {ε α : Type} (tree : FileTree) (program : Program ε α) (left : FileTree)
    (outcome : Except ε α) : Prop where
  left : (program.run tree).1 = left
  outcome : (program.run tree).2.outcome = outcome

namespace Ends

variable {ε δ α β : Type} {tree middle left : FileTree}

/-- The run with a known ending is an execution. -/
theorem execution {program : Program ε α} {outcome : Except ε α}
    (ends : Ends tree program left outcome) :
    Execution tree program (Execution.requests tree program) left outcome := by
  rw [← ends.left, ← ends.outcome]
  exact Execution.run tree program

theorem bind {program : Program ε α} {next : α -> Program ε β} {a : α} {outcome : Except ε β}
    (first : Ends tree program middle (.ok a)) (later : Ends middle (next a) left outcome) :
    Ends tree (program >>= next) left outcome := by
  constructor <;>
    rw [Program.run_bind, Program.followedBy, first.outcome, first.left]
  · exact later.left
  · exact later.outcome

theorem bind_error {program : Program ε α} {next : α -> Program ε β} {error : ε}
    (failed : Ends tree program left (.error error)) :
    Ends tree (program >>= next) left (.error error) := by
  constructor <;>
    rw [Program.run_bind, Program.followedBy, failed.outcome]
  exact failed.left

theorem done (tree : FileTree) (outcome : Except ε α) : Ends tree (.done outcome) tree outcome :=
  ⟨rfl, rfl⟩

theorem note {record : LogRecord} {program : Program ε α} {outcome : Except ε α}
    (ends : Ends tree program left outcome) : Ends tree (.note record program) left outcome :=
  ⟨ends.left, ends.outcome⟩

theorem perform (tree : FileTree) (request : Request) :
    Ends tree (Program.perform request : Program ε request.Reply) (tree.answer request).1
      (.ok (tree.answer request).2) :=
  ⟨rfl, rfl⟩

/-- An attempt succeeds, with what the program ends with as its result. -/
theorem attempt {program : Program ε α} {outcome : Except ε α}
    (ends : Ends tree program left outcome) :
    Ends tree (Program.attempt program : Program δ (Except ε α)) left (.ok outcome) := by
  constructor <;>
    rw [Program.run_attempt]
  · exact ends.left
  · exact congrArg Except.ok ends.outcome

theorem ofLogged (tree : FileTree) (computation : Logged ε α) :
    Ends tree (Program.ofLogged computation) tree computation.outcome := by
  constructor <;>
    rw [Program.run_ofLogged]

/-- A program that asks nothing leaves the tree as it is. -/
theorem of_silent {result : Except ε α -> Prop} {program : Program ε α}
    (silent : Execution.Silent result program) :
    Exists fun outcome => result outcome ∧ Ends tree program tree outcome := by
  rcases silent tree _ _ _ (Execution.run tree program) with ⟨_, same, known⟩
  exact ⟨_, known, same, rfl⟩

end Ends
end ApiServices
