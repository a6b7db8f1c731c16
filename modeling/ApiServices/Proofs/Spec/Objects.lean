import ApiServices.Proofs.Document.Fields
import ApiServices.Proofs.Spec.Acceptance
import Mathlib.Data.List.Forall2

namespace ApiServices

/-!
# Operations as objects

An operation that is an object is read field by field.  Each of the fields is what its
own value says, whatever the others are and whatever else the object has, so that a
value of the wrong kind costs no more than the field it is in.

This is followed from the text to the operation.  A description that has been accepted
is known to have maps for its routes, and from there on nothing is refused; what its
operations say can therefore be told from one of them at a time.  In contrast to the
other modules nothing is assumed of the values, and keys of maps need not be texts
where the reader does not ask for it.
-/

/-! ## Shapes of any values -/

/-- The shape that any value is given where an operation may stand. -/
def OperationShape.foundIn : Value -> OperationShape
  | .map members =>
    match (Details.ofEntries [] .bare members).outcome with
    | .ok found => .details found
    | .error _ => .other
  | _ => .other

theorem OperationShape.outcome_ofValue {ε : Type} (value : Value) :
    (ofValue value : Logged ε OperationShape).outcome = .ok (foundIn value) := by
  cases value with
  | map entries =>
    unfold ofValue foundIn
    dsimp only
    cases (Details.ofEntries [] .bare entries).outcome <;> rfl
  | _ => rfl

namespace MapShape

variable {ε α : Type} {read : Value -> Logged ε α} {shape : Value -> α}

/-- The shape that any value is given where a map should stand. -/
def foundIn (shape : Value -> α) : Value -> MapShape α
  | .map members =>
    match Value.textEntries? members with
    | some fields => .entries (Keyed.ofList (fields.map fun field => (field.1, shape field.2)))
    | none => .other
  | _ => .other

theorem foundIn_of_none {entries : List (Value × Value)}
    (unkeyed : Value.textEntries? entries = none) : foundIn shape (.map entries) = .other := by
  rw [foundIn, unkeyed]

theorem foundIn_of_some {entries : List (Value × Value)} {members : List (Text × Value)}
    (keyed : Value.textEntries? entries = some members) : foundIn shape (.map entries) =
      .entries (Keyed.ofList (members.map fun member => (member.1, shape member.2))) := by
  rw [foundIn, keyed]

/-- A key that is no text spoils the map, once the values before it have been read. -/
theorem outcome_readEntries_of_none {entries : List (Value × Value)} (map : Keyed Text α)
    (unkeyed : Value.textEntries? entries = none)
    (values : forall value, (read value).outcome = .ok (shape value)) :
    (readEntries read map entries).outcome = .ok .other := by
  induction entries generalizing map with
  | nil => cases unkeyed
  | cons entry rest ih =>
    obtain ⟨key, value⟩ := entry
    cases key with
    | text name =>
      rw [readEntries, Logged.outcome_bind, values]
      exact ih (map.insert name (shape value)) (Option.map_eq_none_iff.mp unkeyed)
    | _ => rfl

theorem outcome_ofValue (values : forall value, (read value).outcome = .ok (shape value))
    (value : Value) : (ofValue read value).outcome = .ok (foundIn shape value) := by
  cases value with
  | map entries =>
    cases keyed : Value.textEntries? entries with
    | none =>
      rw [foundIn_of_none keyed]
      exact outcome_readEntries_of_none Keyed.empty keyed values
    | some members =>
      rw [foundIn_of_some keyed]
      exact outcome_readEntries Keyed.empty keyed fun member _ => values member.2
  | _ => rfl

/-- A map that gives a key a value is a map by its shape. -/
theorem foundIn_map {entries : List (Value × Value)} {key : Text} {value : Value}
    (given : Keyed.lastValue? (Value.members entries) key = some value) :
    foundIn shape (.map entries) =
      .entries (Keyed.ofList
        ((Value.members entries).map fun member => (member.1, shape member.2))) := by
  cases keyed : Value.textEntries? entries with
  | none =>
    rw [Value.members, keyed] at given
    cases given
  | some members => rw [foundIn_of_some keyed, Value.members, keyed, Option.getD_some]

end MapShape

/-- The shape that any value is given where the paths should stand. -/
def PathsShape.foundIn : Value -> PathsShape :=
  MapShape.foundIn (MapShape.foundIn OperationShape.foundIn)

theorem PathsShape.outcome_ofValue {ε : Type} (value : Value) :
    (ofValue value : Logged ε PathsShape).outcome = .ok (foundIn value) :=
  MapShape.outcome_ofValue (MapShape.outcome_ofValue OperationShape.outcome_ofValue) value

/-! ## Paths that have been accepted -/

namespace Spec

variable {paths : Keyed Text (Keyed Text Details)}

theorem maps_of_checkItems {checked : Keyed Text (Keyed Text Details)}
    {items : List (Text × ItemShape)} (accepted : (checkItems checked items).outcome = .ok paths) :
    ∀ item ∈ items, item.2 ≠ .other := by
  induction items generalizing checked with
  | nil => exact fun _ impossible => nomatch impossible
  | cons item rest ih =>
    obtain ⟨route, shape⟩ := item
    cases shape with
    | other => cases accepted
    | entries methods =>
      rw [checkItems, Logged.outcome_bind, outcome_checkMethods_entries] at accepted
      have isMap : (MapShape.entries methods : ItemShape) ≠ .other := by
        intro impossible
        cases impossible
      exact List.forall_mem_cons.mpr ⟨isMap, ih accepted⟩

/-- Paths that have been accepted are the operations of their shapes. -/
theorem eq_of_checkPaths {items : Keyed Text ItemShape}
    (accepted : (checkPaths (some (.entries items))).outcome = .ok paths) :
    paths = items.mapValues methodsOf := by
  have checked : (checkItems Keyed.empty items.entries).outcome = .ok paths := accepted
  rw [outcome_checkItems (maps_of_checkItems checked)] at checked
  exact (Except.ok.inj checked).symm.trans (Keyed.insertAll_entries (items.mapValues methodsOf))

/-- An operation that has been accepted has the details of its shape. -/
theorem exists_methods_of_checkPaths {entries item : List (Value × Value)} {route verb : Text}
    {operation : Value}
    (accepted : (checkPaths (some (PathsShape.foundIn (.map entries)))).outcome = .ok paths)
    (hasRoute : Keyed.lastValue? (Value.members entries) route = some (.map item))
    (hasVerb : Keyed.lastValue? (Value.members item) verb = some operation) :
    Exists fun methods => paths.get? route = some methods ∧
      methods.get? verb = some (Details.ofShape (OperationShape.foundIn operation)) := by
  rw [PathsShape.foundIn, MapShape.foundIn_map hasRoute] at accepted
  refine ⟨methodsOf (MapShape.foundIn OperationShape.foundIn (.map item)), ?_, ?_⟩
  · rw [eq_of_checkPaths accepted, Keyed.get?_mapValues, Keyed.get?_ofList,
      Keyed.lastValue?_map_snd, hasRoute]
    rfl
  · rw [MapShape.foundIn_map hasVerb, methodsOf, Keyed.get?_mapValues, Keyed.get?_ofList,
      Keyed.lastValue?_map_snd, hasVerb]
    rfl

end Spec

/-! ## Descriptions that have been accepted -/

namespace Spec.Draft

open Document Reading

variable {document : Document}

/-- The fields of a description. -/
def names : List Text :=
  ["swagger".toList, "openapi".toList, "info".toList, "paths".toList]

theorem target?_of_optional {node target : Node} {left remaining : Nat}
    (reads : Reads (document.optional node) left (some target) remaining) :
    document.target? node = some target := by
  obtain ⟨found, middle, resolved, reads⟩ := reads_bind_iff.mp reads
  rw [target?_of_resolve resolved]
  cases found with
  | scalar readings =>
    obtain ⟨present, _, _, reads⟩ := reads_bind_iff.mp reads
    cases present with
    | true => exact (Reads.eq_of_pure reads).1.symm
    | false => exact nomatch (Reads.eq_of_pure reads).1
  | cut => exact absurd reads not_reads_refuse
  | _ => exact (Reads.eq_of_pure reads).1.symm

/-- An optional field is set to nothing or to what its node is read as. -/
theorem of_reads_optionalField {α : Type} {read : Node -> Reading α}
    {set : Draft -> Option α -> Draft} {draft filled : Draft} {node : Node} {left remaining : Nat}
    (reads : Reads (optionalField document read set draft node) left filled remaining) :
    filled = set draft none ∨ Exists fun target => Exists fun before => Exists fun found =>
      document.target? node = some target ∧ Reads (read target) before found remaining ∧
        filled = set draft (some found) := by
  obtain ⟨found?, middle, optional, reads⟩ := reads_bind_iff.mp reads
  cases found? with
  | none => exact Or.inl (Reads.eq_of_pure reads).1
  | some target =>
    obtain ⟨found, after, reading, reads⟩ := reads_bind_iff.mp reads
    obtain ⟨same, kept⟩ := Reads.eq_of_pure reads
    exact Or.inr ⟨target, middle, found, target?_of_optional optional, kept ▸ reading, same⟩

theorem keeps_optionalField {α : Type} {read : Node -> Reading α} {set : Draft -> Option α -> Draft}
    (apart : forall draft value, (set draft value).paths = draft.paths) :
    Keeps paths (optionalField document read set) := by
  intro draft node left filled remaining reads
  rcases of_reads_optionalField reads with same | ⟨_, _, found, _, _, same⟩
  · exact same ▸ apart draft none
  · exact same ▸ apart draft (some found)

theorem othersKeep_fields : OthersKeep paths (fields document) "paths".toList := by
  intro field member other
  simp only [fields, List.mem_cons, List.not_mem_nil, or_false] at member
  rcases member with rfl | rfl | rfl | rfl
  · exact keeps_optionalField fun _ _ => rfl
  · exact keeps_optionalField fun _ _ => rfl
  · exact keeps_optionalField fun _ _ => rfl
  · exact absurd rfl other

/-- Unless a draft has no paths, they have the shape of what the document gives. -/
theorem exists_gives_of_read {draft : Draft}
    (read : (document.read (document.record (fields document) .empty)).outcome = .ok draft) :
    draft.paths = none ∨ Exists fun value => document.Gives names "paths".toList value ∧
      draft.paths = some (PathsShape.foundIn value) := by
  obtain ⟨⟨remaining, reads⟩, _⟩ := outcome_read_eq_ok_iff.mp read
  have field : ("paths".toList, _) ∈ fields document :=
    List.mem_cons_of_mem _ (List.mem_cons_of_mem _ (List.mem_cons_of_mem _ List.mem_cons_self))
  have distinct : ((fields document).map Prod.fst).Nodup := (by decide : names.Nodup)
  obtain ⟨root, isRoot, comes⟩ := comesFrom_record distinct field othersKeep_fields reads
  rcases comes with absent | ⟨node, kept, stored, left, after, isNode, reads, same⟩
  · exact Or.inl absent
  · rcases of_reads_optionalField reads with none | ⟨target, before, shape, isTarget, reads, some⟩
    · exact Or.inl (same.trans (congrArg paths none))
    · obtain ⟨value, middle, valueRead, logged⟩ := reads_bind_iff.mp reads
      have shapeIs := (Reads.of_log logged).symm.trans (PathsShape.outcome_ofValue value)
      refine Or.inr ⟨value, ⟨root, node, target, before, middle, isRoot, isNode, isTarget, valueRead⟩, ?_⟩
      rw [same, some, Except.ok.inj shapeIs]

end Spec.Draft

namespace Spec

open Document

/-- A description that has been accepted has paths, and these have been accepted. -/
theorem exists_gives_of_accepted {format : SpecFormat} {document : Document} {spec : Spec}
    (accepted : (ofDocument format document).outcome = .ok spec) :
    Exists fun value => document.Gives Draft.names "paths".toList value ∧
      (checkPaths (some (PathsShape.foundIn value))).outcome = .ok spec.paths := by
  unfold ofDocument at accepted
  rw [Logged.outcome_bind, Logged.mapError] at accepted
  cases read : (document.read (document.record (Draft.fields document) .empty)).outcome with
  | error cause =>
    rw [read] at accepted
    cases accepted
  | ok draft =>
    rw [read] at accepted
    change (Logged.outcome (_ >>= _)) = _ at accepted
    rw [Logged.outcome_bind, Logged.mapError] at accepted
    rcases Draft.exists_gives_of_read read with none | ⟨value, gives, some⟩
    · rw [none] at accepted
      cases accepted
    · rw [some] at accepted
      refine ⟨value, gives, ?_⟩
      cases checked : (checkPaths (Option.some (PathsShape.foundIn value))).outcome with
      | error fault =>
        rw [checked] at accepted
        cases accepted
      | ok paths =>
        rw [checked] at accepted
        exact congrArg Except.ok (congrArg Spec.paths (Except.ok.inj accepted))

/-- Whether a document has a value where the operation of a route and a verb stands. -/
def HasOperation (document : Document) (route verb : Text) (operation : Value) : Prop :=
  Exists fun entries => Exists fun item =>
    document.Gives Draft.names "paths".toList (.map entries) ∧
      Keyed.lastValue? (Value.members entries) route = some (.map item) ∧
        Keyed.lastValue? (Value.members item) verb = some operation

/-- Whether a document has an operation with these fields at a route and a verb. -/
def HasObject (document : Document) (route verb : Text) (fields : List (Text × Value)) : Prop :=
  Exists fun entries => Exists fun item =>
    document.Gives Draft.names "paths".toList (.map entries) ∧
      Keyed.lastValue? (Value.members entries) route = some (.map item) ∧
        Keyed.lastValue? (Value.members item) verb = some (.ofFields fields)

/-- An operation has the details that its value alone is read as. -/
theorem exists_methods_of_hasOperation {format : SpecFormat} {text : Text} {spec : Spec}
    {route verb : Text} {operation : Value}
    (accepted : (format.read text).outcome = .ok spec)
    (has : HasOperation (format.documentOf text) route verb operation) :
    Exists fun methods => spec.paths.get? route = some methods ∧
      methods.get? verb = some (Details.ofShape (OperationShape.foundIn operation)) := by
  have accepted : (ofDocument format (format.documentOf text)).outcome = .ok spec := by
    rw [← accepted]
    cases format <;> rfl
  obtain ⟨value, gives, checked⟩ := exists_gives_of_accepted accepted
  obtain ⟨entries, item, also, hasRoute, hasVerb⟩ := has
  rw [gives.unique also] at checked
  exact exists_methods_of_checkPaths checked hasRoute hasVerb

/-- The operation of an object has the details that the object alone is read as. -/
theorem exists_methods_of_hasObject {format : SpecFormat} {text : Text} {spec : Spec}
    {route verb : Text} {fields : List (Text × Value)}
    (accepted : (format.read text).outcome = .ok spec)
    (object : HasObject (format.documentOf text) route verb fields) :
    Exists fun methods => spec.paths.get? route = some methods ∧
      methods.get? verb = some (Details.ofShape (OperationShape.foundIn (.ofFields fields))) :=
  exists_methods_of_hasOperation accepted object

end Spec

/-! ## Field by field -/

namespace Details

/-- An object is read as details, each from the value of its own field. -/
theorem foundIn_ofFields {fields : List (Text × Value)} (distinct : (fields.map Prod.fst).Nodup) :
    OperationShape.foundIn (.ofFields fields) =
      .details (fieldwise fun field => fields.lookup field.name) := by
  have keyed : ∀ entries, Value.ofFields fields = .map entries ->
      (Value.textEntries? entries).isSome := by
    intro entries same
    rw [← Value.map.inj same, Value.textEntries?_map]
    rfl
  have shape : (OperationShape.ofValue (.ofFields fields) : Logged Unreadable OperationShape).outcome =
      .ok (shapeOf (.ofFields fields)) := outcome_shapeOf keyed
  rw [OperationShape.outcome_ofValue] at shape
  rw [Except.ok.inj shape, Value.ofFields, shapeOf, Value.members_map, if_pos (once_of_nodup distinct)]

/-- What is there as a text, if there is anything: texts and truth values are texts,
and nulls and collections are none.  Numerals are not looked at. -/
structure SaysText (value? : Option Value) (text? : Option Text) : Prop where
  text : forall t, value? = some (.text t) -> text? = some t
  flag : forall b, value? = some (.bool b) ->
    text? = some (if b then "true".toList else "false".toList)
  absent : value? = none -> text? = none
  null : value? = some .null -> text? = none
  collection : forall value, value? = some value -> value.isCollection = true -> text? = none

theorem saysText (value? : Option Value) : SaysText value? (value?.bind Value.scalarText?) where
  text t there := by rw [there]; rfl
  flag b there := by rw [there]; cases b <;> rfl
  absent there := by rw [there]; rfl
  null there := by rw [there]; rfl
  collection value there inside := by
    rw [there]
    cases value with
    | list items => rfl
    | map entries => rfl
    | _ => cases inside

/-- What is there as tags: a list has one for each item, empty where the item is no
text, and what is no list has none. -/
structure SaysTags (value? : Option Value) (tags : List Text) : Prop where
  list : forall items, value? = some (.list items) -> List.Forall₂
    (fun item tag => Exists fun text? => SaysText (some item) text? ∧ tag = text?.getD []) items tags
  other : (forall items, value? ≠ some (.list items)) -> tags = []

theorem saysTags (value? : Option Value) : SaysTags value? (tagsIn value?) where
  list items there := by
    rw [there, tagsIn, List.forall₂_map_right_iff, List.forall₂_same]
    exact fun item _ => ⟨item.scalarText?, saysText (some item), rfl⟩
  other none := by
    unfold tagsIn
    split
    · next items => exact absurd rfl (none items)
    · rfl

/-- Whether two operations have the same in a field. -/
def AgreeIn (details other : Details) : Field -> Prop
  | .tags => details.tags = other.tags
  | .operationId => details.operationId = other.operationId
  | .description => details.description = other.description

theorem agreeIn_fieldwise {values others : Field -> Option Value} {field : Field}
    (same : others field = values field) : AgreeIn (fieldwise values) (fieldwise others) field := by
  cases field <;> simp [AgreeIn, fieldwise, same]

/-- The fields of an operation are read independently of each other.  An object with
distinct keys is always read as details, the same ones in every description that is
accepted, and each field of these is what the value under its own key says: another
object that has the same value there has the same in this field. -/
theorem read_field_by_field {fields : List (Text × Value)}
    (distinct : (fields.map Prod.fst).Nodup) : Exists fun details : Details =>
    (OperationShape.ofValue (.ofFields fields) : Logged Unreadable OperationShape).outcome =
        .ok (.details details) ∧
      (forall (format : SpecFormat) (text : Text) (spec : Spec) (route verb : Text),
        (format.read text).outcome = .ok spec ->
          Spec.HasObject (format.documentOf text) route verb fields -> Exists fun methods =>
            spec.paths.get? route = some methods ∧ methods.get? verb = some details) ∧
      SaysTags (fields.lookup "tags".toList) details.tags ∧
      SaysText (fields.lookup "operationId".toList) details.operationId ∧
      SaysText (fields.lookup "description".toList) details.description ∧
      forall others : List (Text × Value), (others.map Prod.fst).Nodup ->
        Exists fun other : Details =>
          (OperationShape.ofValue (.ofFields others) : Logged Unreadable OperationShape).outcome =
              .ok (.details other) ∧
            forall field : Field, others.lookup field.name = fields.lookup field.name ->
              AgreeIn details other field := by
  have shape {fields : List (Text × Value)} (distinct : (fields.map Prod.fst).Nodup) :
      (OperationShape.ofValue (.ofFields fields) : Logged Unreadable OperationShape).outcome =
        .ok (.details (fieldwise fun field => fields.lookup field.name)) := by
    rw [OperationShape.outcome_ofValue, foundIn_ofFields distinct]
  refine ⟨_, shape distinct, ?_, saysTags _, saysText _, saysText _, ?_⟩
  · intro format text spec route verb accepted object
    obtain ⟨methods, there, operation⟩ := Spec.exists_methods_of_hasObject accepted object
    rw [foundIn_ofFields distinct] at operation
    exact ⟨methods, there, operation⟩
  · intro others apart
    exact ⟨_, shape apart, fun field same => agreeIn_fieldwise same⟩

/-- A description whose only operation has fields of all kinds. -/
def mixedOperation : Text :=
  ("\x7b\"openapi\":\"3.0.0\",\"paths\":\x7b\"/a\":\x7b\"get\":\x7b\"tags\":[\"b\",null,\x7b\"c\":[0]\x7d,true]," ++
    "\"operationId\":\x7b\"d\":[1]\x7d,\"description\":false,\"x\":[[]]\x7d\x7d\x7d\x7d").toList

/-- The fields of its operation. -/
def mixedFields : List (Text × Value) :=
  [ ("tags".toList, .list
      [.text "b".toList, .null, .ofFields [("c".toList, .list [.unsigned 0])], .bool true]),
    ("operationId".toList, .ofFields [("d".toList, .list [.unsigned 1])]),
    ("description".toList, .bool false),
    ("x".toList, .list [.list []]) ]

theorem read_mixedFields : (mixedFields.map Prod.fst).Nodup ∧
    Exists fun spec => (SpecFormat.json.read mixedOperation).outcome = .ok spec ∧
      Exists fun methods => Exists fun details => spec.paths.get? "/a".toList = some methods ∧
        methods.get? "get".toList = some details ∧ details.tags.length = 4 ∧
          details.operationId = none ∧ details.description = some "false".toList := by
  have distinct : (mixedFields.map Prod.fst).Nodup := by decide
  obtain ⟨details, _, everywhere, tags, operationId, description, _⟩ := read_field_by_field distinct
  have accepted : (SpecFormat.json.read mixedOperation).outcome = .ok
      ⟨some "3.0.0".toList, none, Keyed.ofList [("/a".toList, Keyed.ofList [("get".toList,
        ⟨["b".toList, [], [], "true".toList], none, some "false".toList⟩)])]⟩ := by decide +kernel
  have sound : (Json.documentOf mixedOperation).Sound :=
    (Json.definite_documentOf mixedOperation).mono fun _ definite => definite.toFits
  have whole : ((Json.documentOf mixedOperation).read ((Json.documentOf mixedOperation).value
      (Json.documentOf mixedOperation).depthLimit)).outcome = .ok (.ofFields
        [ ("openapi".toList, .text "3.0.0".toList),
          ("paths".toList, .ofFields
            [("/a".toList, .ofFields [("get".toList, .ofFields mixedFields)])]) ]) := by
    decide +kernel
  have gives : (Json.documentOf mixedOperation).Gives Spec.Draft.names "paths".toList
      (.ofFields [("/a".toList, .ofFields [("get".toList, .ofFields mixedFields)])]) :=
    Document.gives_of_read sound whole rfl
  obtain ⟨methods, route, verb⟩ := everywhere .json mixedOperation _ "/a".toList "get".toList accepted
    ⟨_, _, gives, rfl, rfl⟩
  exact ⟨distinct, _, accepted, methods, details, route, verb, (tags.list _ rfl).length_eq.symm,
    operationId.collection _ rfl rfl, description.flag false rfl⟩

end Details
end ApiServices
