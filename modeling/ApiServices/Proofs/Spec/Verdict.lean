import ApiServices.Proofs.Document.Comparing
import ApiServices.Proofs.Spec.Paths
import ApiServices.Spec.Reader

namespace ApiServices

/-!
# The verdict on paths

Of the value of `paths` it is asked that it is a map of maps.  Where this fails, the
error says at which of the two layers, and in the inner one at which route first.
Where it holds, the description has the routes in the order in which they first
occur, each with what it has last, and so has every route its verbs.
-/

namespace Spec

section Verdict

variable {version : Option Text} {info : Option Info}

/-- The outcome for a description whose paths have been read but not checked. -/
def verdict (version : Option Text) (info : Option Info) (paths : Option PathsShape) :
    Except SpecError Spec :=
  ((checkPaths paths).outcome.mapError .malformed).map fun paths => ⟨version, info, paths⟩

theorem verdict_of_not_isMap {value : Value} (other : ¬value.IsMap) :
    verdict version info (some (pathsShape value)) = .error (.malformed .notMapping) := by
  cases value with
  | map entries => exact absurd ⟨entries, rfl⟩ other
  | _ => rfl

variable {entries : List (Value × Value)}

theorem verdict_of_items
    (items : ∀ route ∈ Keyed.firstKeys (Value.members entries),
      HasItem (Value.members entries) route) :
    verdict version info (some (pathsShape (.map entries))) =
      .ok ⟨version, info, pathsIn entries⟩ := by
  rw [verdict, outcome_checkPaths_of_items items]
  rfl

theorem verdict_of_not_item {before after : List Text} {route : Text}
    (order : Keyed.firstKeys (Value.members entries) = before ++ route :: after)
    (items : ∀ earlier ∈ before, HasItem (Value.members entries) earlier)
    (missing : ¬HasItem (Value.members entries) route) :
    verdict version info (some (pathsShape (.map entries))) =
      .error (.malformed (.itemNotMapping route)) := by
  rw [verdict, outcome_checkPaths_of_not_item order items missing]
  rfl

/-- Unless all routes have a map, there is a first one that has none. -/
theorem exists_first_not_item {routes : List Text} {members : List (Text × Value)}
    (missing : ¬∀ route ∈ routes, HasItem members route) :
    Exists fun before => Exists fun route => Exists fun after =>
      routes = before ++ route :: after ∧ (∀ earlier ∈ before, HasItem members earlier) ∧
        ¬HasItem members route := by
  induction routes with
  | nil => exact absurd (fun _ impossible => nomatch impossible) missing
  | cons route rest ih =>
    by_cases item : HasItem members route
    · have later : ¬∀ route ∈ rest, HasItem members route :=
        fun all => missing (List.forall_mem_cons.mpr ⟨item, all⟩)
      obtain ⟨before, first, after, split, items, none⟩ := ih later
      exact ⟨route :: before, first, after, congrArg _ split,
        List.forall_mem_cons.mpr ⟨item, items⟩, none⟩
    · exact ⟨[], route, rest, rfl, fun _ impossible => (nomatch impossible), item⟩

/-- A map of routes is accepted just when every route has a map. -/
theorem items_of_verdict {spec : Spec}
    (accepted : verdict version info (some (pathsShape (.map entries))) = .ok spec) :
    (∀ route ∈ Keyed.firstKeys (Value.members entries), HasItem (Value.members entries) route) ∧
      spec.paths = pathsIn entries := by
  have items : ∀ route ∈ Keyed.firstKeys (Value.members entries),
      HasItem (Value.members entries) route := by
    apply Classical.byContradiction
    intro missing
    obtain ⟨before, route, after, order, items, none⟩ := exists_first_not_item missing
    rw [verdict_of_not_item order items none] at accepted
    cases accepted
  rw [verdict_of_items items] at accepted
  cases accepted
  exact ⟨items, rfl⟩

/-- Of what is given as paths, a map of maps is accepted and nothing else. -/
theorem exists_verdict_eq_ok_iff {given : Option Value} :
    (Exists fun spec => verdict version info (given.map pathsShape) = .ok spec) ↔
      Exists fun entries => given = some (.map entries) ∧
        ∀ route ∈ Keyed.firstKeys (Value.members entries),
          HasItem (Value.members entries) route := by
  constructor
  · rintro ⟨spec, accepted⟩
    cases given with
    | none => cases accepted
    | some value =>
      by_cases map : value.IsMap
      · obtain ⟨entries, same⟩ := map
        rw [same] at accepted ⊢
        exact ⟨entries, rfl, (items_of_verdict accepted).1⟩
      · rw [Option.map_some, verdict_of_not_isMap map] at accepted
        cases accepted
  · rintro ⟨entries, same, items⟩
    rw [same]
    exact ⟨_, verdict_of_items items⟩

end Verdict

end Spec

/-- The verdict on a description by the value of its `paths`, if there is one, and by
whether this says nothing. -/
structure Judged (nothing : Prop) (paths : Option Value) (outcome : Except SpecError Spec) : Prop where
  accepted_iff : (Exists fun spec => outcome = .ok spec) ↔
    Exists fun entries => paths = some (.map entries) ∧
      ∀ route ∈ Keyed.firstKeys (Value.members entries), Spec.HasItem (Value.members entries) route
  missing : paths = none ∨ (paths = some .null ∧ nothing) -> outcome = .error (.malformed .missing)
  not_map : forall value, paths = some value -> ¬value.IsMap -> ¬(value = .null ∧ nothing) ->
    outcome = .error (.malformed .notMapping)
  not_item : forall entries before route after, paths = some (.map entries) ->
    Keyed.firstKeys (Value.members entries) = before ++ route :: after ->
      (∀ earlier ∈ before, Spec.HasItem (Value.members entries) earlier) ->
        ¬Spec.HasItem (Value.members entries) route ->
          outcome = .error (.malformed (.itemNotMapping route))
  routes : forall spec entries, outcome = .ok spec -> paths = some (.map entries) ->
    spec.paths.keys = Keyed.firstKeys (Value.members entries)
  operations : forall spec entries route, outcome = .ok spec -> paths = some (.map entries) ->
    route ∈ spec.paths.keys -> Exists fun item => Exists fun methods =>
      Keyed.lastValue? (Value.members entries) route = some (.map item) ∧
        spec.paths.get? route = some methods ∧
          methods.keys = Keyed.firstKeys (Value.members item) ∧
            forall verb, methods.get? verb =
              (Keyed.lastValue? (Value.members item) verb).map Details.ofValue

theorem Judged.congr {nothing other : Prop} {paths : Option Value} {outcome : Except SpecError Spec}
    (judged : Judged nothing paths outcome) (same : paths = some .null -> (nothing ↔ other)) :
    Judged other paths outcome where
  accepted_iff := judged.accepted_iff
  missing absent :=
    judged.missing (absent.imp_right fun ⟨null, silent⟩ => ⟨null, (same null).mpr silent⟩)
  not_map value there map nonempty :=
    judged.not_map value there map fun ⟨null, silent⟩ =>
      nonempty ⟨null, (same (null ▸ there)).mp silent⟩
  not_item := judged.not_item
  routes := judged.routes
  operations := judged.operations

namespace Spec

section Given

variable {nothing : Prop} [Decidable nothing] {paths : Option Value}

/-- A value is given as paths unless it is a null that is nothing. -/
def givenPaths (nothing : Prop) [Decidable nothing] (paths : Option Value) : Option Value :=
  paths.bind fun value => if value = .null ∧ nothing then none else some value

theorem givenPaths_eq_none (absent : paths = none ∨ (paths = some .null ∧ nothing)) :
    givenPaths nothing paths = none := by
  rcases absent with none | ⟨null, silent⟩
  · rw [none]
    rfl
  · rw [null]
    exact if_pos ⟨rfl, silent⟩

theorem givenPaths_eq_some_iff {value : Value} :
    givenPaths nothing paths = some value ↔ paths = some value ∧ ¬(value = .null ∧ nothing) := by
  rw [givenPaths, Option.bind_eq_some_iff]
  constructor
  · rintro ⟨other, there, kept⟩
    split at kept
    · cases kept
    case isFalse something =>
      cases kept
      exact ⟨there, something⟩
  · rintro ⟨there, something⟩
    exact ⟨value, there, if_neg something⟩

theorem givenPaths_eq_map_iff {entries : List (Value × Value)} :
    givenPaths nothing paths = some (.map entries) ↔ paths = some (.map entries) := by
  rw [givenPaths_eq_some_iff]
  exact and_iff_left fun impossible => nomatch impossible.1

/-- The verdict on what is given as paths is a verdict on their value. -/
theorem judged_of_verdict {version : Option Text} {info : Option Info}
    {outcome : Except SpecError Spec}
    (decided : outcome = verdict version info ((givenPaths nothing paths).map pathsShape)) :
    Judged nothing paths outcome := by
  have of_map {entries : List (Value × Value)} (there : paths = some (.map entries)) :
      outcome = verdict version info (some (pathsShape (.map entries))) := by
    rw [decided, givenPaths_eq_map_iff.mpr there]
    rfl
  constructor
  case accepted_iff =>
    rw [decided, exists_verdict_eq_ok_iff]
    simp only [givenPaths_eq_map_iff]
  case missing =>
    intro absent
    rw [decided, givenPaths_eq_none absent]
    rfl
  case not_map =>
    intro value there other something
    rw [decided, givenPaths_eq_some_iff.mpr ⟨there, something⟩]
    exact verdict_of_not_isMap other
  case not_item =>
    intro entries before route after there order items none
    exact (of_map there).trans (verdict_of_not_item order items none)
  case routes =>
    intro spec entries accepted there
    rw [(items_of_verdict ((of_map there).symm.trans accepted)).2, keys_pathsIn]
  case operations =>
    intro spec entries route accepted there member
    obtain ⟨items, same⟩ := items_of_verdict ((of_map there).symm.trans accepted)
    rw [same, keys_pathsIn] at member
    obtain ⟨item, last⟩ := items route member
    refine ⟨item, methodsIn (.map item), last, ?_, keys_methodsIn item, get?_methodsIn item⟩
    rw [same, get?_pathsIn, last]
    rfl

end Given

end Spec
end ApiServices
