import ApiServices.Proofs.Service.Summary
import Mathlib.Data.List.Nodup

namespace ApiServices

/-!
# Names that collide

Requiring names to be unambiguous changes one thing only: it refuses what would
otherwise be generated with two methods of one name.  Nothing else is refused, and
what is not refused is generated as it would be without the requirement.

Of several collisions one is reported.  It is found by going through the services in
their order and through the operations of a service in theirs, up to the first one
whose name an earlier operation of the same service has.  Operations of different
services do not collide.
-/

namespace Service

/-- Whether no two operations have the same method name. -/
def Unambiguous (operations : List Operation) : Prop :=
  (operations.map Operation.methodName).Nodup

instance (operations : List Operation) : Decidable (Unambiguous operations) :=
  inferInstanceAs (Decidable (operations.map Operation.methodName).Nodup)

/-- An operation is the first one to repeat a name: one of those that are taken, or
that of an operation before it. -/
def FirstRepeat (taken : List Text) (operations : List Operation) (operation : Operation) : Prop :=
  Exists fun earlier => Exists fun later =>
    operations = earlier ++ operation :: later ∧
      (taken ++ earlier.map Operation.methodName).Nodup ∧
      operation.methodName ∈ taken ++ earlier.map Operation.methodName

variable {service : Text} {taken : List Text} {operations rest : List Operation}
  {first operation : Operation}

theorem not_firstRepeat_nil : ¬FirstRepeat taken [] operation := by
  rintro ⟨earlier, later, impossible, _⟩
  exact List.append_ne_nil_of_right_ne_nil earlier (List.cons_ne_nil operation later) impossible.symm

/-- An operation whose name is taken is the first repetition. -/
theorem firstRepeat_cons_of_mem (distinct : taken.Nodup) (met : first.methodName ∈ taken) :
    FirstRepeat taken (first :: rest) operation ↔ operation = first := by
  constructor
  · rintro ⟨earlier, later, split, fresh, _⟩
    cases earlier with
    | nil => exact (List.cons.inj split).1.symm
    | cons other others =>
      have apart := (List.nodup_append.mp fresh).2.2 _ met _ List.mem_cons_self
      exact absurd (congrArg Operation.methodName (List.cons.inj split).1) apart
  · intro same
    rw [same]
    refine ⟨[], rest, rfl, ?_, ?_⟩
    · simpa using distinct
    · simpa using met

/-- An operation with a new name takes it. -/
theorem firstRepeat_cons_of_notMem (fresh : first.methodName ∉ taken) :
    FirstRepeat taken (first :: rest) operation ↔
      FirstRepeat (first.methodName :: taken) rest operation := by
  constructor
  · rintro ⟨earlier, later, split, distinct, repeated⟩
    cases earlier with
    | nil =>
      rw [(List.cons.inj split).1] at fresh
      exact absurd (by simpa using repeated) fresh
    | cons other others =>
      obtain ⟨same, split⟩ := List.cons.inj split
      rw [← same, List.map_cons] at distinct repeated
      refine ⟨others, later, split, List.nodup_middle.mp distinct, ?_⟩
      exact List.perm_middle.subset repeated
  · rintro ⟨earlier, later, split, distinct, repeated⟩
    refine ⟨first :: earlier, later, congrArg _ split, List.nodup_middle.mpr distinct, ?_⟩
    exact List.perm_middle.symm.subset repeated

/-! ## One service -/

theorem outcome_checkNames_of_mem (met : first.methodName ∈ taken) :
    (checkNames service true taken (first :: rest)).outcome = .error ⟨service, first.methodName⟩ := by
  rw [checkNames]
  dsimp only
  rw [if_pos (List.contains_iff_mem.mpr met), if_pos rfl, Logged.outcome_bind]
  rfl

theorem outcome_checkNames_of_notMem (fresh : first.methodName ∉ taken) :
    (checkNames service true taken (first :: rest)).outcome =
      (checkNames service true (first.methodName :: taken) rest).outcome := by
  rw [checkNames]
  dsimp only
  rw [if_neg fun met => fresh (List.contains_iff_mem.mp met)]

/-- The check passes where no name comes twice. -/
theorem outcome_checkNames_eq_ok_iff (distinct : taken.Nodup) :
    (checkNames service true taken operations).outcome = .ok () ↔
      (taken ++ operations.map Operation.methodName).Nodup := by
  induction operations generalizing taken with
  | nil => simpa [checkNames] using distinct
  | cons first rest ih =>
    by_cases met : first.methodName ∈ taken
    · rw [outcome_checkNames_of_mem met]
      refine iff_of_false (fun impossible => nomatch impossible) fun all => ?_
      exact (List.nodup_append.mp all).2.2 _ met _ List.mem_cons_self rfl
    · rw [outcome_checkNames_of_notMem met, ih (List.nodup_cons.mpr ⟨met, distinct⟩)]
      exact List.nodup_middle.symm

/-- The check fails at the first repetition. -/
theorem outcome_checkNames_eq_error_iff (distinct : taken.Nodup) {error : AmbiguousName} :
    (checkNames service true taken operations).outcome = .error error ↔
      Exists fun operation =>
        FirstRepeat taken operations operation ∧ error = ⟨service, operation.methodName⟩ := by
  induction operations generalizing taken with
  | nil =>
    refine iff_of_false (fun impossible => nomatch impossible) ?_
    rintro ⟨operation, impossible, _⟩
    exact not_firstRepeat_nil impossible
  | cons first rest ih =>
    by_cases met : first.methodName ∈ taken
    · rw [outcome_checkNames_of_mem met]
      simp only [firstRepeat_cons_of_mem distinct met, exists_eq_left, Except.error.injEq]
      exact eq_comm
    · rw [outcome_checkNames_of_notMem met, ih (List.nodup_cons.mpr ⟨met, distinct⟩)]
      simp only [firstRepeat_cons_of_notMem met]

theorem outcome_emit (tag : Text) (operations : List Operation) (strict : Bool) :
    (emit tag operations strict).outcome =
      (checkNames (serviceName tag) strict [] operations).outcome.map fun _ => ofTag tag operations := by
  unfold emit
  rw [Logged.outcome_bind]
  cases (checkNames (serviceName tag) strict [] operations).outcome <;> rfl

theorem exists_outcome_emit_eq_ok_iff {tag : Text} :
    (Exists fun emitted => (emit tag operations true).outcome = .ok emitted) ↔
      Unambiguous operations := by
  rw [outcome_emit]
  have checked : (checkNames (serviceName tag) true [] operations).outcome = .ok () ↔
      Unambiguous operations := outcome_checkNames_eq_ok_iff List.nodup_nil
  refine Iff.trans ?_ checked
  cases (checkNames (serviceName tag) true [] operations).outcome with
  | error cause => exact iff_of_false (fun ⟨_, impossible⟩ => nomatch impossible) nofun
  | ok done => exact iff_of_true ⟨_, rfl⟩ rfl

theorem outcome_emit_eq_error_iff {tag : Text} {error : AmbiguousName} :
    (emit tag operations true).outcome = .error error ↔
      Exists fun operation =>
        FirstRepeat [] operations operation ∧ error = ⟨serviceName tag, operation.methodName⟩ := by
  rw [outcome_emit, ← outcome_checkNames_eq_error_iff List.nodup_nil]
  cases (checkNames (serviceName tag) true [] operations).outcome with
  | error cause => simp only [Except.map, Except.error.injEq]
  | ok done => exact iff_of_false nofun nofun

end Service

/-! ## All services -/

namespace Logged

variable {ε α β : Type} {step : α -> Logged ε β} {inputs : List α}

/-- Going through a list succeeds just where every step does. -/
theorem exists_outcome_mapM_eq_ok_iff :
    (Exists fun results => (inputs.mapM step).outcome = .ok results) ↔
      ∀ input ∈ inputs, Exists fun result => (step input).outcome = .ok result := by
  induction inputs with
  | nil => exact iff_of_true ⟨[], rfl⟩ nofun
  | cons input rest ih =>
    rw [List.forall_mem_cons, ← ih, outcome_mapM_cons]
    cases (step input).outcome with
    | error cause => exact iff_of_false (fun ⟨_, impossible⟩ => nomatch impossible) nofun
    | ok result =>
      cases (rest.mapM step).outcome with
      | error cause => exact iff_of_false nofun nofun
      | ok results => exact iff_of_true ⟨_, rfl⟩ ⟨⟨_, rfl⟩, ⟨_, rfl⟩⟩

/-- Going through a list fails at the first step that fails. -/
theorem outcome_mapM_eq_error_iff {error : ε} :
    (inputs.mapM step).outcome = .error error ↔
      Exists fun before => Exists fun input => Exists fun after =>
        inputs = before ++ input :: after ∧
          (∀ earlier ∈ before, Exists fun result => (step earlier).outcome = .ok result) ∧
          (step input).outcome = .error error := by
  induction inputs with
  | nil =>
    refine iff_of_false nofun ?_
    rintro ⟨before, input, after, impossible, _⟩
    exact List.append_ne_nil_of_right_ne_nil before (List.cons_ne_nil input after) impossible.symm
  | cons input rest ih =>
    rw [outcome_mapM_cons]
    cases first : (step input).outcome with
    | error cause =>
      rw [Except.bind, Except.error.injEq]
      constructor
      · intro same
        exact ⟨[], input, rest, rfl, nofun, same ▸ first⟩
      · rintro ⟨before, failing, after, split, succeeded, failed⟩
        cases before with
        | nil =>
          rw [← (List.cons.inj split).1, first] at failed
          exact Except.error.inj failed
        | cons other others =>
          obtain ⟨result, succeeded⟩ := succeeded other List.mem_cons_self
          rw [← (List.cons.inj split).1, first] at succeeded
          cases succeeded
    | ok result =>
      have later : (Except.bind (.ok result) fun result =>
          (rest.mapM step).outcome.map fun results => result :: results) = .error error ↔
            (rest.mapM step).outcome = .error error := by
        cases (rest.mapM step).outcome with
        | error cause => simp only [Except.bind, Except.map, Except.error.injEq]
        | ok results => exact iff_of_false nofun nofun
      rw [later, ih]
      constructor
      · rintro ⟨before, failing, after, split, succeeded, failed⟩
        exact ⟨input :: before, failing, after, congrArg _ split,
          List.forall_mem_cons.mpr ⟨⟨result, first⟩, succeeded⟩, failed⟩
      · rintro ⟨before, failing, after, split, succeeded, failed⟩
        cases before with
        | nil =>
          rw [← (List.cons.inj split).1, first] at failed
          cases failed
        | cons other others =>
          exact ⟨others, failing, after, (List.cons.inj split).2,
            (List.forall_mem_cons.mp succeeded).2, failed⟩

end Logged

namespace Groups

/-- The ambiguity that is reported for groups: that of the first tag that has one, at
the first operation of the tag that repeats a name. -/
def FirstAmbiguity (groups : Groups) (error : AmbiguousName) : Prop :=
  Exists fun before => Exists fun tag => Exists fun operations => Exists fun after =>
    Exists fun operation =>
      groups.entries = before ++ (tag, operations) :: after ∧
        (∀ earlier ∈ before, Service.Unambiguous earlier.2) ∧
        Service.FirstRepeat [] operations operation ∧
        error = ⟨serviceName tag, operation.methodName⟩

/-- Without the requirement every tag gives its service.  With it, either the names
of every tag are different and the same services come out, or the first ambiguity is
reported. -/
theorem strictness_only_checks_names (groups : Groups) :
    Exists fun services =>
      (Groups.services groups false).outcome = .ok services ∧
      services.map (fun service => (service.name, service.operations)) =
        groups.entries.map (fun entry => (serviceName entry.1, entry.2)) ∧
      ((Exists fun found => (Groups.services groups true).outcome = .ok found) ↔
        ∀ entry ∈ groups.entries, Service.Unambiguous entry.2) ∧
      (forall found, (Groups.services groups true).outcome = .ok found -> found = services) ∧
      forall error, (Groups.services groups true).outcome = .error error ↔
        groups.FirstAmbiguity error := by
  refine ⟨groups.allServices, groups.outcome_services, ?_, ?_, ?_, ?_⟩
  · rw [allServices, List.map_map]
    rfl
  · rw [Groups.services, Logged.exists_outcome_mapM_eq_ok_iff]
    simp only [Service.exists_outcome_emit_eq_ok_iff]
  · exact fun found emitted => eq_allServices_of_services emitted
  · intro error
    rw [Groups.services, Logged.outcome_mapM_eq_error_iff]
    simp only [Service.exists_outcome_emit_eq_ok_iff, Service.outcome_emit_eq_error_iff]
    constructor
    · rintro ⟨before, ⟨tag, operations⟩, after, split, distinct, operation, first, same⟩
      exact ⟨before, tag, operations, after, operation, split, distinct, first, same⟩
    · rintro ⟨before, tag, operations, after, operation, split, distinct, first, same⟩
      exact ⟨before, (tag, operations), after, split, distinct, operation, first, same⟩

end Groups
end ApiServices
