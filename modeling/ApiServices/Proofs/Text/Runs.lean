import ApiServices.Proofs.Text.Lines

namespace ApiServices

/-!
# Maximal runs

The words of a text are its maximal runs of characters with a property.  What a run is
can be said without cutting the text: it is bounded by characters without the property,
or by the ends of the text.  Every text has its runs in this sense, it has no others,
and cutting finds them.
-/

namespace Text

variable {p : Char -> Bool}

/-- A text with its maximal runs of characters that have a property.  It does not matter
what is between the runs, before the first and behind the last one. -/
inductive Runs (p : Char -> Bool) : Text -> List Text -> Prop
  | none {gap : Text} (apart : ∀ c ∈ gap, p c = false) : Runs p gap []
  | next {gap run rest : Text} {runs : List Text} (apart : ∀ c ∈ gap, p c = false)
    (filled : run ≠ []) (inside : ∀ c ∈ run, p c = true)
    (ends : ∀ c ∈ rest.head?, p c = false) (later : Runs p rest runs) :
    Runs p (gap ++ run ++ rest) (run :: runs)

/-- Separators in front of a text do not matter. -/
theorem runsBetween_gap_append {gap : Text} (apart : ∀ c ∈ gap, p c = true) (text : Text) :
    runsBetween p (gap ++ text) = runsBetween p text := by
  induction gap with
  | nil => rfl
  | cons c rest ih =>
    obtain ⟨first, later⟩ := List.forall_mem_cons.mp apart
    exact (runsBetween_append_separator p [] (rest ++ text) c first).trans (ih later)

/-- Maximal runs are what is between the characters without the property. -/
theorem runsBetween_of_runs {text : Text} {runs : List Text} (given : Runs p text runs) :
    runsBetween (!p ·) text = runs := by
  induction given with
  | @none gap apart =>
    have separates : ∀ c ∈ gap, (!p c) = true := fun c member => by rw [apart c member]; rfl
    rw [← List.append_nil gap, runsBetween_gap_append separates]
    rfl
  | @next gap run rest runs apart filled inside ends _ ih =>
    have separates : ∀ c ∈ gap, (!p c) = true := fun c member => by rw [apart c member]; rfl
    have whole : ∀ c ∈ run, (!p c) = false := fun c member => by rw [inside c member]; rfl
    have single := runsBetween_of_forall_not (!p ·) run filled whole
    rw [List.append_assoc, runsBetween_gap_append separates]
    cases rest with
    | nil => rw [List.append_nil, single, ← ih]; rfl
    | cons c rest =>
      have cut : (!p c) = true := by rw [ends c rfl]; rfl
      rw [runsBetween_append_separator _ run rest c cut, single, ← ih]
      exact congrArg _ (runsBetween_append_separator (!p ·) [] rest c cut).symm

/-- A character in front is part of the first run or separates it further. -/
theorem exists_runs (p : Char -> Bool) (text : Text) : Exists fun runs => Runs p text runs := by
  induction text with
  | nil => exact ⟨[], .none fun _ impossible => nomatch impossible⟩
  | cons c rest ih =>
    obtain ⟨runs, given⟩ := ih
    by_cases inside : p c = true
    · have single : ∀ d ∈ [c], p d = true := List.forall_mem_singleton.mpr inside
      have nowhere : ∀ d ∈ ([] : Text), p d = false := fun _ impossible => nomatch impossible
      cases given with
      | none apart =>
        have ends : ∀ d ∈ rest.head?, p d = false := fun d first => apart d (List.mem_of_head? first)
        exact ⟨[[c]], .next nowhere (List.cons_ne_nil c []) single ends (.none apart)⟩
      | @next gap run more runs apart filled whole ends later =>
        cases gap with
        | nil =>
          refine ⟨(c :: run) :: runs, .next nowhere (List.cons_ne_nil c run) ?_ ends later⟩
          exact List.forall_mem_cons.mpr ⟨inside, whole⟩
        | cons d gap =>
          have begins : ∀ e ∈ ((d :: gap) ++ run ++ more).head?, p e = false := fun e first =>
            Option.some.inj first ▸ apart d List.mem_cons_self
          exact ⟨[c] :: run :: runs, .next nowhere (List.cons_ne_nil c []) single begins
            (.next apart filled whole ends later)⟩
    · have outside : p c = false := Bool.eq_false_iff.mpr inside
      cases given with
      | none apart => exact ⟨[], .none (List.forall_mem_cons.mpr ⟨outside, apart⟩)⟩
      | @next gap run more runs apart filled whole ends later =>
        exact ⟨run :: runs, .next (List.forall_mem_cons.mpr ⟨outside, apart⟩) filled whole ends later⟩

/-- Every text has its maximal runs, and no others. -/
theorem runs_iff {text : Text} {runs : List Text} :
    Runs p text runs ↔ runsBetween (!p ·) text = runs := by
  refine ⟨runsBetween_of_runs, fun same => ?_⟩
  obtain ⟨found, given⟩ := exists_runs p text
  exact same ▸ (runsBetween_of_runs given).symm ▸ given

instance (p : Char -> Bool) (text : Text) (runs : List Text) : Decidable (Runs p text runs) :=
  decidable_of_iff _ runs_iff.symm

/-- Cutting asks for the property of the characters in the text only. -/
theorem runsBetween_congr {q : Char -> Bool} {text : Text} (same : ∀ c ∈ text, p c = q c) :
    runsBetween p text = runsBetween q text := by
  have pieces : splitWhere p text = splitWhere q text := by
    induction text with
    | nil => rfl
    | cons c rest ih =>
      obtain ⟨first, later⟩ := List.forall_mem_cons.mp same
      rw [splitWhere, splitWhere, first, ih later]
  rw [runsBetween, runsBetween, pieces]

theorem flatten_splitWhere (p : Char -> Bool) (text : Text) :
    (splitWhere p text).flatten = text.filter (!p ·) := by
  induction text with
  | nil => rfl
  | cons c rest ih =>
    by_cases cut : p c = true
    · simp [splitWhere, cut, ih]
    · cases pieces : splitWhere p rest with
      | nil => exact absurd pieces (splitWhere_ne_nil p rest)
      | cons piece others =>
        rw [pieces, List.flatten_cons] at ih
        simp [splitWhere, cut, pieces, ← ih]

/-- The runs hold all characters that do not separate. -/
theorem flatten_runsBetween (p : Char -> Bool) (text : Text) :
    (runsBetween p text).flatten = text.filter (!p ·) := by
  rw [runsBetween, List.flatten_filter_not_isEmpty, flatten_splitWhere]

end Text
end ApiServices
