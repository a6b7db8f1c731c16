import ApiServices.Proofs.Keyed.Order
import ApiServices.Proofs.Spec.Details

namespace ApiServices

/-!
# What `paths` says

The value of `paths` is first given a shape, in which everything is forgiven, and
the shape is then checked.  Together the two insist on a map of maps and on
nothing else.  A key that is repeated has its last value and its first place, and
this holds before anything is checked: a value that would be refused does no harm
when its key comes again.

Keys of maps are taken for texts, down to the fields of operations.  What stands
deeper is not looked at.
-/

namespace Value

/-- Whether a value is a map. -/
def IsMap (value : Value) : Prop :=
  Exists fun entries => value = .map entries

/-- Whether the maps in a value have texts for keys, down to a depth. -/
def TextKeyed : Nat -> Value -> Prop
  | depth + 1, .map entries =>
    (textEntries? entries).isSome ∧ ∀ member ∈ members entries, TextKeyed depth member.2
  | _, _ => True

/-- An object has texts for keys if its values have. -/
theorem textKeyed_ofFields_iff {depth : Nat} {fields : List (Text × Value)} :
    (ofFields fields).TextKeyed (depth + 1) ↔ ∀ field ∈ fields, field.2.TextKeyed depth := by
  rw [ofFields, TextKeyed, textEntries?_map, members_map]
  exact and_iff_right rfl

end Value

/-! ## Shapes -/

section Shapes

variable {ε α : Type}

/-- Entries with text keys are read into a map, each value by itself. -/
theorem outcome_readEntries {read : Value -> Logged ε α} {shape : Value -> α}
    {entries : List (Value × Value)} {fields : List (Text × Value)} (map : Keyed Text α)
    (keyed : Value.textEntries? entries = some fields)
    (values : ∀ field ∈ fields, (read field.2).outcome = .ok (shape field.2)) :
    (MapShape.readEntries read map entries).outcome =
      .ok (.entries (map.insertAll (fields.map fun field => (field.1, shape field.2)))) := by
  induction entries generalizing fields map with
  | nil =>
    rw [show fields = [] from (Option.some.inj keyed).symm]
    rfl
  | cons entry rest ih =>
    obtain ⟨key, value⟩ := entry
    obtain ⟨name, others, text, later, split⟩ := Value.textEntries?_cons_eq_some keyed
    rw [split] at values
    obtain ⟨first, values⟩ := List.forall_mem_cons.mp values
    rw [text, split, MapShape.readEntries, Logged.outcome_bind, first]
    exact ih (map.insert name (shape value)) later values

/-- The shape of a value that should be a map. -/
def mapShape (shape : Value -> α) : Value -> MapShape α
  | .map entries =>
    .entries (Keyed.ofList ((Value.members entries).map fun member => (member.1, shape member.2)))
  | _ => .other

theorem outcome_mapShape {read : Value -> Logged ε α} {shape : Value -> α} {depth : Nat}
    {value : Value} (keyed : value.TextKeyed (depth + 1))
    (inner : ∀ value, value.TextKeyed depth -> (read value).outcome = .ok (shape value)) :
    (MapShape.ofValue read value).outcome = .ok (mapShape shape value) := by
  cases value with
  | map entries =>
    obtain ⟨texts, members⟩ := keyed
    obtain ⟨fields, found⟩ := Option.isSome_iff_exists.mp texts
    rw [Value.members, found, Option.getD_some] at members
    rw [mapShape, Value.members, found]
    exact outcome_readEntries Keyed.empty found fun field member => inner field.2 (members field member)
  | _ => rfl

end Shapes

/-- The shape of the value of a route. -/
def itemShape : Value -> ItemShape :=
  mapShape Details.shapeOf

/-- The shape of the value of `paths`. -/
def pathsShape : Value -> PathsShape :=
  mapShape itemShape

theorem outcome_pathsShape {ε : Type} {value : Value} (keyed : value.TextKeyed 3) :
    (PathsShape.ofValue value : Logged ε PathsShape).outcome = .ok (pathsShape value) := by
  refine outcome_mapShape keyed fun item keyed => ?_
  refine outcome_mapShape keyed fun operation keyed => ?_
  apply Details.outcome_shapeOf
  intro entries same
  rw [same] at keyed
  exact keyed.1

/-! ## The check -/

namespace Spec

/-- The operations of a route, if there are any. -/
def methodsOf : ItemShape -> Keyed Text Details
  | .entries methods => methods.mapValues Details.ofShape
  | .other => Keyed.empty

theorem outcome_checkOperation {ε : Type} (route verb : Text) (shape : OperationShape) :
    (checkOperation route verb shape : Logged ε Details).outcome = .ok (Details.ofShape shape) := by
  cases shape <;> rfl

theorem outcome_checkMethods {ε : Type} (route : Text) (checked : Keyed Text Details)
    (shapes : List (Text × OperationShape)) :
    (checkMethods route checked shapes : Logged ε (Keyed Text Details)).outcome =
      .ok (checked.insertAll (shapes.map fun entry => (entry.1, Details.ofShape entry.2))) := by
  induction shapes generalizing checked with
  | nil => rfl
  | cons entry rest ih =>
    rw [checkMethods, Logged.outcome_bind, outcome_checkOperation]
    exact ih (checked.insert entry.1 (Details.ofShape entry.2))

/-- The operations of a map of verbs keep their order. -/
theorem outcome_checkMethods_entries {ε : Type} (route : Text) (methods : Keyed Text OperationShape) :
    (checkMethods route Keyed.empty methods.entries : Logged ε (Keyed Text Details)).outcome =
      .ok (methodsOf (.entries methods)) := by
  rw [outcome_checkMethods]
  exact congrArg Except.ok (Keyed.insertAll_entries (methods.mapValues Details.ofShape))

theorem outcome_checkItems {checked : Keyed Text (Keyed Text Details)}
    {items : List (Text × ItemShape)} (maps : ∀ item ∈ items, item.2 ≠ .other) :
    (checkItems checked items).outcome =
      .ok (checked.insertAll (items.map fun item => (item.1, methodsOf item.2))) := by
  induction items generalizing checked with
  | nil => rfl
  | cons item rest ih =>
    obtain ⟨route, shape⟩ := item
    obtain ⟨first, others⟩ := List.forall_mem_cons.mp maps
    cases shape with
    | other => exact absurd rfl first
    | entries methods =>
      rw [checkItems, Logged.outcome_bind, outcome_checkMethods_entries]
      exact ih others

/-- The first item that is no map ends the check. -/
theorem outcome_checkItems_other {checked : Keyed Text (Keyed Text Details)}
    {before after : List (Text × ItemShape)} {route : Text}
    (maps : ∀ item ∈ before, item.2 ≠ .other) :
    (checkItems checked (before ++ (route, .other) :: after)).outcome =
      .error (.itemNotMapping route) := by
  induction before generalizing checked with
  | nil => rfl
  | cons item rest ih =>
    obtain ⟨earlier, shape⟩ := item
    obtain ⟨first, others⟩ := List.forall_mem_cons.mp maps
    cases shape with
    | other => exact absurd rfl first
    | entries methods =>
      rw [List.cons_append, checkItems, Logged.outcome_bind, outcome_checkMethods_entries]
      exact ih others

/-! ## The verdict -/

/-- The operations that the value of a route stands for. -/
def methodsIn : Value -> Keyed Text Details
  | .map entries =>
    Keyed.ofList ((Value.members entries).map fun member => (member.1, Details.ofValue member.2))
  | _ => Keyed.empty

/-- The paths that a map of routes stands for. -/
def pathsIn (entries : List (Value × Value)) : Keyed Text (Keyed Text Details) :=
  Keyed.ofList ((Value.members entries).map fun member => (member.1, methodsIn member.2))

theorem keys_methodsIn (entries : List (Value × Value)) :
    (methodsIn (.map entries)).keys = Keyed.firstKeys (Value.members entries) := by
  rw [methodsIn, Keyed.keys_ofList, Keyed.firstKeys_map_snd]

theorem get?_methodsIn (entries : List (Value × Value)) (verb : Text) :
    (methodsIn (.map entries)).get? verb =
      (Keyed.lastValue? (Value.members entries) verb).map Details.ofValue := by
  rw [methodsIn, Keyed.get?_ofList, Keyed.lastValue?_map_snd]

theorem keys_pathsIn (entries : List (Value × Value)) :
    (pathsIn entries).keys = Keyed.firstKeys (Value.members entries) := by
  rw [pathsIn, Keyed.keys_ofList, Keyed.firstKeys_map_snd]

theorem get?_pathsIn (entries : List (Value × Value)) (route : Text) :
    (pathsIn entries).get? route =
      (Keyed.lastValue? (Value.members entries) route).map methodsIn := by
  rw [pathsIn, Keyed.get?_ofList, Keyed.lastValue?_map_snd]

/-- Whether the value that a route has last is a map. -/
def HasItem (members : List (Text × Value)) (route : Text) : Prop :=
  Exists fun entries => Keyed.lastValue? members route = some (.map entries)

theorem methodsOf_itemShape (value : Value) : methodsOf (itemShape value) = methodsIn value := by
  cases value with
  | map entries =>
    change Keyed.mapValues Details.ofShape (Keyed.ofList _) = Keyed.ofList _
    rw [Keyed.mapValues_ofList, List.map_map]
    simp only [Function.comp_def, Details.ofShape_shapeOf]
  | _ => rfl

section Verdict

variable {entries : List (Value × Value)}

/-- The shapes of all routes, each with the value that it has last. -/
def itemShapes (entries : List (Value × Value)) : Keyed Text ItemShape :=
  Keyed.ofList ((Value.members entries).map fun member => (member.1, itemShape member.2))

theorem keys_itemShapes : (itemShapes entries).keys = Keyed.firstKeys (Value.members entries) := by
  rw [itemShapes, Keyed.keys_ofList, Keyed.firstKeys_map_snd]

theorem itemShape_eq_other_iff {value : Value} :
    itemShape value = .other ↔ ¬value.IsMap := by
  cases value with
  | map entries => exact iff_of_false (fun impossible => nomatch impossible) fun absent => absent ⟨_, rfl⟩
  | _ => exact iff_of_true rfl fun ⟨_, impossible⟩ => nomatch impossible

/-- A route has the shape of a map just where its last value is one. -/
theorem eq_other_iff {item : Text × ItemShape} (member : item ∈ (itemShapes entries).entries) :
    item.2 = .other ↔ ¬HasItem (Value.members entries) item.1 := by
  have found := Keyed.get?_of_mem_entries member
  rw [itemShapes, Keyed.get?_ofList, Keyed.lastValue?_map_snd] at found
  obtain ⟨value, last, shape⟩ := Option.map_eq_some_iff.mp found
  rw [← shape, itemShape_eq_other_iff, HasItem, last]
  exact not_congr (exists_congr fun _ => Option.some_inj.symm)

/-- Where every route has a map, all of them are accepted. -/
theorem outcome_checkPaths_of_items
    (items : ∀ route ∈ Keyed.firstKeys (Value.members entries),
      HasItem (Value.members entries) route) :
    (checkPaths (some (pathsShape (.map entries)))).outcome = .ok (pathsIn entries) := by
  have maps : ∀ item ∈ (itemShapes entries).entries, item.2 ≠ .other := by
    intro item member other
    apply (eq_other_iff member).mp other
    apply items
    rw [← keys_itemShapes]
    exact List.mem_map_of_mem member
  change (checkItems Keyed.empty (itemShapes entries).entries).outcome = _
  rw [outcome_checkItems maps]
  change Except.ok (Keyed.empty.insertAll ((itemShapes entries).mapValues methodsOf).entries) = _
  rw [Keyed.insertAll_entries, itemShapes, Keyed.mapValues_ofList, List.map_map, pathsIn]
  simp only [Function.comp_def, methodsOf_itemShape]

/-- Where a route has none, the first such route is reported. -/
theorem outcome_checkPaths_of_not_item {before after : List Text} {route : Text}
    (order : Keyed.firstKeys (Value.members entries) = before ++ route :: after)
    (items : ∀ earlier ∈ before, HasItem (Value.members entries) earlier)
    (missing : ¬HasItem (Value.members entries) route) :
    (checkPaths (some (pathsShape (.map entries)))).outcome = .error (.itemNotMapping route) := by
  rw [← keys_itemShapes] at order
  obtain ⟨earlier, rest, split, first, others⟩ := List.map_eq_append_iff.mp order
  obtain ⟨item, later, shape, named, _⟩ := List.map_eq_cons_iff.mp others
  have here : item ∈ (itemShapes entries).entries := by
    rw [split, shape]
    exact List.mem_append_right _ List.mem_cons_self
  have other : item = (route, .other) := by
    refine Prod.ext named ?_
    exact (eq_other_iff here).mpr (named ▸ missing)
  have maps : ∀ item ∈ earlier, item.2 ≠ .other := by
    intro item member other
    have inside : item ∈ (itemShapes entries).entries := by
      rw [split]
      exact List.mem_append_left _ member
    exact (eq_other_iff inside).mp other (items item.1 (first ▸ List.mem_map_of_mem member))
  change (checkItems Keyed.empty (itemShapes entries).entries).outcome = _
  rw [split, shape, other]
  exact outcome_checkItems_other maps

end Verdict

end Spec
end ApiServices
