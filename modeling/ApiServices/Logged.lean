import ApiServices.Text.Basic

namespace ApiServices

/-!
# Computations with a log

Reading a document and generating files leave records of what they noticed.
Records are kept when the computation fails later on: a log that lost the
warnings before an error would be of little use.  So the records stand beside
the outcome and are not part of it.
-/

inductive Severity
  | debug
  | info
  | warn
deriving DecidableEq

structure LogRecord where
  severity : Severity
  message : Text
deriving DecidableEq

instance decidableEqOutcome {ε α : Type} [DecidableEq ε] [DecidableEq α] :
    DecidableEq (Except ε α)
  | .ok a, .ok b => decidable_of_iff (a = b) ⟨congrArg Except.ok, Except.ok.inj⟩
  | .error a, .error b => decidable_of_iff (a = b) ⟨congrArg Except.error, Except.error.inj⟩
  | .ok _, .error _ => isFalse fun same => nomatch same
  | .error _, .ok _ => isFalse fun same => nomatch same

/-- An outcome and the records left on the way to it, oldest first. -/
structure Logged (ε α : Type) where
  records : List LogRecord
  outcome : Except ε α
deriving DecidableEq

namespace Logged

variable {ε α β : Type}

def bind (first : Logged ε α) (next : α -> Logged ε β) : Logged ε β :=
  match first.outcome with
  | .error e => ⟨first.records, .error e⟩
  | .ok a => ⟨first.records ++ (next a).records, (next a).outcome⟩

instance : Monad (Logged ε) where
  pure a := ⟨[], .ok a⟩
  bind := bind

def fail (e : ε) : Logged ε α :=
  ⟨[], .error e⟩

def note (severity : Severity) (message : Text) : Logged ε Unit :=
  ⟨[⟨severity, message⟩], .ok ()⟩

def ofExcept (outcome : Except ε α) : Logged ε α :=
  ⟨[], outcome⟩

/-- The same computation with its error seen as an error of a larger kind. -/
def mapError {δ : Type} (f : ε -> δ) (computation : Logged ε α) : Logged δ α :=
  ⟨computation.records, computation.outcome.mapError f⟩

@[simp] theorem outcome_pure (a : α) : (pure a : Logged ε α).outcome = .ok a := rfl

@[simp] theorem records_pure (a : α) : (pure a : Logged ε α).records = [] := rfl

theorem outcome_bind (first : Logged ε α) (next : α -> Logged ε β) :
    (first >>= next).outcome = first.outcome.bind fun a => (next a).outcome := by
  change (bind first next).outcome = _
  unfold bind
  cases first.outcome <;> rfl

instance : LawfulMonad (Logged ε) := LawfulMonad.mk' _
  (by
    rintro _ ⟨records, outcome⟩
    cases outcome <;> simp [Functor.map, bind])
  (by
    intro _ _ a f
    simp [Bind.bind, bind, Pure.pure])
  (by
    rintro _ _ _ ⟨records, outcome⟩ f g
    cases outcome with
    | error => rfl
    | ok a =>
      simp only [Bind.bind, bind]
      cases (f a).outcome <;> simp)

end Logged
end ApiServices
