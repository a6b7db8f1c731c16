import ApiServices.Proofs.Document.Comparing
import ApiServices.Proofs.Json.RoundTrip
import ApiServices.Proofs.Spec.Paths
import ApiServices.Spec.Printer
import ApiServices.Spec.Reader

namespace ApiServices

/-!
# Descriptions are read back

What is written for a description is read as the description, but for the version of
its format, which is written under a name that no reader knows.  The details of an
operation are read back as well, among the operations of a description and when they
are a document of their own; the two are read by different rules.

Writing leaves out what is not there, and reading forgives what is not there, so the
two meet in every description, also where texts are empty or look like something else.
-/

open Document Reading

variable {document : Document} {left : Nat}

/-! ## Records of written values -/

namespace Document

variable {σ : Type} {fields : Fields σ} {seen : List Text} {record stored filled : σ}
  {rest : List (Node × Node)} {name : Text} {node : Node}

/-- An entry of a record that is a field fills it. -/
theorem reads_recordEntries_field {read : σ -> Node -> Reading σ}
    (field : fields.lookup name = some read) (fresh : name ∉ seen)
    (stores : Reads (read record node) left stored left)
    (later : Reads (document.recordEntries fields (name :: seen) stored rest) left filled left) :
    Reads (document.recordEntries fields seen record ((Json.textNode name, node) :: rest)) left filled
      left := by
  have key : Reads (document.textOf (Json.textNode name)) left name left := rfl
  refine key.bind ?_
  rw [field]
  dsimp only
  rw [if_neg fun met => fresh (List.contains_iff_mem.mp met)]
  exact stores.bind later

/-- An entry that is no field is passed over. -/
theorem reads_recordEntries_skip (other : fields.lookup name = none)
    (complete : node.isComplete = true)
    (later : Reads (document.recordEntries fields seen record rest) left filled left) :
    Reads (document.recordEntries fields seen record ((Json.textNode name, node) :: rest)) left filled
      left := by
  have key : Reads (document.textOf (Json.textNode name)) left name left := rfl
  have passed : Reads (skip node) left () left := by
    rw [skip, if_pos complete]
    exact reads_pure () left
  refine key.bind ?_
  rw [other]
  exact passed.bind later

/-- An object is a record of its fields. -/
theorem reads_record_ofFields {members : List (Text × Value)}
    (inner : Reads (document.recordEntries fields [] record (members.map Json.fieldNode)) left filled
      left) : Reads (document.record fields record (Json.nodeFor (.ofFields members))) left filled left := by
  rw [Json.nodeFor_ofFields]
  exact (reads_pure _ left).bind inner

/-- Only a null says nothing where nothing may be said. -/
theorem reads_optional_nodeFor {depth : Nat} {value : Value} (verbal : value.Verbal depth)
    (there : value ≠ .null) :
    Reads (document.optional (Json.nodeFor value)) left (some (Json.nodeFor value)) left := by
  cases verbal with
  | null => exact absurd rfl there
  | fields _ =>
    rw [Json.nodeFor_ofFields]
    rfl
  | _ => rfl

end Document

/-! ## Details -/

namespace Details

/-- A field is read from a value that says something. -/
theorem exists_reads_field (field : Field) {value : Value} (there : value ≠ .null)
    (verbal : value.Verbal (document.depthLimit - 1)) : Exists fun read =>
      (fields document).lookup field.name = some read ∧ forall (values : Field -> Option Value) left,
        Reads (read (fieldwise values) (Json.nodeFor value)) left
          (fieldwise fun other => if other = field then some value else values other) left := by
  cases field <;>
    exact ⟨_, rfl, fun values left => (reads_optional_nodeFor verbal there).bind
      ((Json.readsAs_nodeFor verbal left).reads.bind (reads_log left (outcome_setField values value _)))⟩

/-- A record whose entries are fields that say something has what they say. -/
theorem reads_recordEntries_fields {members : List (Text × Value)} {seen : List Field}
    {values : Field -> Option Value} (once : Once seen members)
    (known : ∀ member ∈ members, Exists fun field : Field => member.1 = field.name)
    (verbal : ∀ member ∈ members, member.2 ≠ .null ∧ member.2.Verbal (document.depthLimit - 1)) :
    Reads (document.recordEntries (fields document) (seen.map Field.name) (fieldwise values)
        (members.map Json.fieldNode)) left
      (fieldwise fun field => (members.lookup field.name).or (values field)) left := by
  induction members generalizing seen values with
  | nil => exact reads_pure _ left
  | cons member others ih =>
    obtain ⟨name, value⟩ := member
    obtain ⟨⟨field, named⟩, known⟩ := List.forall_mem_cons.mp known
    obtain ⟨⟨there, inner⟩, verbal⟩ := List.forall_mem_cons.mp verbal
    dsimp only at named there inner
    rw [named] at once ⊢
    have fresh : field ∉ seen := fun met => not_once_of_seen met once
    have later := (once_cons_of_field fresh).mp once
    have unseen : field.name ∉ seen.map Field.name := by
      intro met
      obtain ⟨other, member, same⟩ := List.mem_map.mp met
      exact fresh (name_injective same ▸ member)
    rw [← fieldwise_cons values later]
    obtain ⟨read, isField, stores⟩ := exists_reads_field field there inner
    exact reads_recordEntries_field isField unseen (stores values left) (ih later known verbal)

/-- What is written for details are tags and texts. -/
theorem of_mem_toFields {details : Details} {member : Text × Value} (inside : member ∈ details.toFields) :
    (Exists fun field : Field => member.1 = field.name) ∧
      (member.2 = .ofTexts details.tags ∨ Exists fun t => member.2 = .text t) := by
  rcases List.mem_append.mp inside with inside | description
  · rcases List.mem_append.mp inside with tags | operationId
    · split at tags
      · cases tags
      · rw [List.mem_singleton.mp tags]
        exact ⟨⟨.tags, rfl⟩, Or.inl rfl⟩
    · obtain ⟨t, _, same⟩ := Option.map_eq_some_iff.mp (Option.mem_toList.mp operationId)
      rw [← same]
      exact ⟨⟨.operationId, rfl⟩, Or.inr ⟨t, rfl⟩⟩
  · obtain ⟨t, _, same⟩ := Option.map_eq_some_iff.mp (Option.mem_toList.mp description)
    rw [← same]
    exact ⟨⟨.description, rfl⟩, Or.inr ⟨t, rfl⟩⟩

theorem verbal_of_mem_toFields {details : Details} {member : Text × Value}
    (inside : member ∈ details.toFields) (depth : Nat) :
    member.2 ≠ .null ∧ member.2.Verbal (depth + 1) := by
  rcases (of_mem_toFields inside).2 with tags | ⟨t, text⟩
  · rw [tags]
    refine ⟨fun impossible => (nomatch impossible), .list fun item among => ?_⟩
    obtain ⟨t, _, same⟩ := List.mem_map.mp among
    exact same ▸ .text t
  · rw [text]
    exact ⟨fun impossible => (nomatch impossible), .text t⟩

theorem once_toFields (details : Details) : Once [] details.toFields := by
  apply once_of_nodup
  obtain ⟨tags, operationId, description⟩ := details
  cases tags <;> cases operationId <;> cases description <;> simp [toFields]

theorem tagsIn_ofTexts (tags : List Text) : tagsIn (some (.ofTexts tags)) = tags := by
  rw [Value.ofTexts, tagsIn, List.map_map]
  exact List.map_id tags

/-- The fields that are written for details are those of the details. -/
theorem fieldwise_toFields (details : Details) :
    (fieldwise fun field => details.toFields.lookup field.name) = details := by
  obtain ⟨tags, operationId, description⟩ := details
  have read := tagsIn_ofTexts tags
  cases tags with
  | nil => cases operationId <;> cases description <;> rfl
  | cons tag tags =>
    cases operationId <;> cases description <;> exact congrArg (Details.mk · _ _) read

/-- Details are read back from a value among the operations of a description. -/
theorem ofValue_toValue (details : Details) : ofValue details.toValue = details := by
  change ofFields (Value.members (details.toFields.map _)) = details
  rw [Value.members_map, ofFields, if_pos (once_toFields details), fieldwise_toFields]

/-- Details are read back from a document of their own. -/
theorem outcome_ofDocument {text : Text} {details : Details}
    (spells : Json.Spells text details.toValue) :
    (ofDocument (Json.documentOf text)).outcome = .ok details := by
  have tree := Json.isTree_of_spells spells
  have reads : Reads ((Json.documentOf text).recordEntries (fields (Json.documentOf text)) []
      (fieldwise fun _ => none) (details.toFields.map Json.fieldNode)) 0 _ 0 :=
    reads_recordEntries_fields (once_toFields details) (fun _ inside => (of_mem_toFields inside).1)
      fun _ inside => verbal_of_mem_toFields inside 125
  simp only [Option.or_none] at reads
  rw [fieldwise_toFields, fieldwise_none] at reads
  refine outcome_read_eq_ok_iff.mpr ⟨⟨0, ?_⟩, tree.whole⟩
  rw [tree.root]
  exact reads_record_ofFields reads

end Details

/-! ## Descriptions -/

namespace Spec

variable (paths : Keyed Text (Keyed Text Details))

/-- What is written for the operations of a route. -/
def methodsValue (methods : Keyed Text Details) : Value :=
  .ofFields (methods.entries.map fun method => (method.1, method.2.toValue))

/-- What is written for routes, in their order. -/
def routeValues : List (Text × Value) :=
  paths.entries.map fun entry => (entry.1, methodsValue entry.2)

theorem pathsValue_eq : pathsValue paths = .ofFields (routeValues paths) := rfl

theorem methodsIn_methodsValue (methods : Keyed Text Details) :
    methodsIn (methodsValue methods) = methods := by
  rw [methodsValue, Value.ofFields, methodsIn, Value.members_map, List.map_map]
  have same : (fun member : Text × Value => (member.1, Details.ofValue member.2)) ∘
      (fun method : Text × Details => (method.1, method.2.toValue)) = id :=
    funext fun method => Prod.ext rfl (Details.ofValue_toValue method.2)
  rw [same, List.map_id]
  exact Keyed.insertAll_entries methods

/-- The paths that are written are accepted, and are the paths. -/
theorem outcome_checkPaths_pathsValue :
    (checkPaths (some (pathsShape (pathsValue paths)))).outcome = .ok paths := by
  have members := Value.members_map (routeValues paths)
  have items : ∀ route ∈ Keyed.firstKeys (routeValues paths), HasItem (routeValues paths) route := by
    intro route among
    obtain ⟨value, last⟩ :=
      Option.isSome_iff_exists.mp (Keyed.isSome_lastValue?.mpr (Keyed.mem_firstKeys.mp among))
    have written := last
    rw [routeValues, Keyed.lastValue?_map_snd] at written
    obtain ⟨methods, _, same⟩ := Option.map_eq_some_iff.mp written
    exact ⟨_, last.trans (congrArg some same.symm)⟩
  rw [pathsValue_eq, Value.ofFields, outcome_checkPaths_of_items (members.symm ▸ items), pathsIn,
    members, routeValues, List.map_map]
  have same : (fun member : Text × Value => (member.1, methodsIn member.2)) ∘
      (fun entry : Text × Keyed Text Details => (entry.1, methodsValue entry.2)) = id :=
    funext fun entry => Prod.ext rfl (methodsIn_methodsValue entry.2)
  rw [same, List.map_id]
  exact congrArg Except.ok (Keyed.insertAll_entries paths)

theorem textKeyed_pathsValue : (pathsValue paths).TextKeyed 3 := by
  refine Value.textKeyed_ofFields_iff.mpr fun route among => ?_
  obtain ⟨entry, _, same⟩ := List.mem_map.mp among
  rw [← same]
  refine Value.textKeyed_ofFields_iff.mpr fun verb among => ?_
  obtain ⟨method, _, same⟩ := List.mem_map.mp among
  rw [← same]
  exact Value.textKeyed_ofFields_iff.mpr fun field _ => trivial

theorem verbal_pathsValue (depth : Nat) : (pathsValue paths).Verbal (depth + 4) := by
  refine .fields fun route among => ?_
  obtain ⟨entry, _, same⟩ := List.mem_map.mp among
  rw [← same]
  refine .fields fun verb among => ?_
  obtain ⟨method, _, same⟩ := List.mem_map.mp among
  rw [← same]
  exact .fields fun field inside => (Details.verbal_of_mem_toFields inside depth).2

end Spec

theorem Info.verbal_toValue (info : Info) (depth : Nat) : info.toValue.Verbal (depth + 1) :=
  .fields (List.forall_mem_cons.mpr ⟨.text _, List.forall_mem_singleton.mpr (.text _)⟩)

namespace Spec.Draft

/-- A field that says something is set to what it is read as. -/
theorem reads_optionalField {α : Type} {read : Node -> Reading α} {set : Draft -> Option α -> Draft}
    {depth : Nat} {value : Value} {found : α} (draft : Draft) (verbal : value.Verbal depth)
    (there : value ≠ .null) (reads : Reads (read (Json.nodeFor value)) left found left) :
    Reads (optionalField document read set draft (Json.nodeFor value)) left (set draft (some found))
      left :=
  (reads_optional_nodeFor verbal there).bind (reads.bind (reads_pure _ left))

/-- A heading is read back. -/
theorem reads_heading (info : Info) :
    Reads (document.record (Info.fields document) .blank (Json.nodeFor info.toValue)) left info left :=
  reads_record_ofFields rfl

/-- The value of a heading, or of none. -/
def headingValue (info : Option Info) : Value :=
  (info.map Info.toValue).getD .null

theorem verbal_headingValue (info : Option Info) (depth : Nat) :
    (headingValue info).Verbal (depth + 1) := by
  cases info with
  | none => exact .null
  | some info => exact info.verbal_toValue depth

theorem reads_info (draft : Draft) (info : Option Info) :
    Reads (optionalField document (document.record (Info.fields document) .blank)
        (fun draft info => { draft with info := info }) draft (Json.nodeFor (headingValue info)))
      left { draft with info := info } left := by
  cases info with
  | none => rfl
  | some info =>
    exact reads_optionalField draft (info.verbal_toValue 0) (fun impossible => nomatch impossible)
      (reads_heading info)

/-- The version of the format is passed over, and heading and paths are read. -/
theorem reads_draft (text : Text) (spec : Spec) (left : Nat) :
    Reads ((Json.documentOf text).record (fields (Json.documentOf text)) .empty
        (Json.nodeFor spec.toValue)) left
      ⟨none, none, spec.info, some (pathsShape (pathsValue spec.paths))⟩ left := by
  have version : Reads ((Json.documentOf text).value 0 (Json.nodeFor (.ofText? spec.version))) left
      (.ofText? spec.version) left := by
    cases spec.version <;> rfl
  have paths := verbal_pathsValue spec.paths 122
  have shape : Reads (do Reading.log (PathsShape.ofValue
      (← (Json.documentOf text).value 126 (Json.nodeFor (pathsValue spec.paths))))) left
        (pathsShape (pathsValue spec.paths)) left :=
    (Json.readsAs_nodeFor paths left).reads.bind
      (reads_log left (outcome_pathsShape (textKeyed_pathsValue spec.paths)))
  have apart : "paths".toList ∉ ["info".toList] := by decide
  refine reads_record_ofFields ?_
  refine reads_recordEntries_skip rfl (isComplete_of_value version) ?_
  refine reads_recordEntries_field rfl List.not_mem_nil (reads_info .empty spec.info) ?_
  refine reads_recordEntries_field rfl apart ?_ (reads_pure _ left)
  exact reads_optionalField _ paths (fun impossible => nomatch impossible) shape

end Spec.Draft

namespace Spec

/-- A description is read back from every text that is read as its value. -/
theorem outcome_ofJson {text : Text} {spec : Spec} (spells : Json.Spells text spec.toValue) :
    (ofJson text).outcome = .ok { spec with version := none } := by
  have tree := Json.isTree_of_spells spells
  have reads := Draft.reads_draft text spec 0
  rw [← tree.root] at reads
  have draft := outcome_read_eq_ok_iff.mpr ⟨⟨0, reads⟩, tree.whole⟩
  unfold ofJson ofDocument
  rw [Logged.outcome_bind, Logged.mapError, draft]
  change (Logged.outcome (_ >>= _)) = _
  rw [Logged.outcome_bind, Logged.mapError, outcome_checkPaths_pathsValue]
  rfl

theorem verbal_toValue (spec : Spec) (depth : Nat) : spec.toValue.Verbal (depth + 5) := by
  have version : (Value.ofText? spec.version).Verbal (depth + 4) := by
    cases spec.version with
    | none => exact .null
    | some t => exact .text t
  have heading := Draft.verbal_headingValue spec.info (depth + 3)
  have paths := verbal_pathsValue spec.paths depth
  exact .fields (List.forall_mem_cons.mpr ⟨version,
    List.forall_mem_cons.mpr ⟨heading, List.forall_mem_singleton.mpr paths⟩⟩)

/-- What is written for a description is read as the description without the version
of its format, so that it has the same groups; and what is written for the details of
an operation is read as the details.  The layout of the written text does not matter. -/
theorem read_written (spec : Spec) (details : Details) :
    Json.Spells (Json.compact spec.toValue) spec.toValue ∧
      (forall text, Json.Spells text spec.toValue ->
        (ofJson text).outcome = .ok { spec with version := none } ∧
          (ofJson text).outcome.map groups = .ok spec.groups) ∧
      Json.Spells (Json.compact details.toValue) details.toValue ∧
      forall text, Json.Spells text details.toValue ->
        (Details.ofDocument (Json.documentOf text)).outcome = .ok details := by
  have written : details.toValue.Verbal Json.depthLimit :=
    .fields fun field inside => (Details.verbal_of_mem_toFields inside 125).2
  refine ⟨Json.spells_compact (verbal_toValue spec 122), ?_, Json.spells_compact written, ?_⟩
  · intro text spells
    have read := outcome_ofJson spells
    exact ⟨read, congrArg (Except.map groups) read⟩
  · exact fun text spells => Details.outcome_ofDocument spells

/-- A description whose texts look like something else. -/
def misleading : Spec where
  version := some "3.0.0".toList
  info := some ⟨[], "null".toList⟩
  paths := Keyed.ofList
    [ ("/\"a\"".toList, Keyed.ofList
        [("get".toList, ⟨["true".toList, []], some "1".toList, none⟩), ([], .bare)]),
      ([], Keyed.empty) ]

theorem read_written_misleading : Exists fun text =>
    text = Json.indented 0 misleading.toValue ∧ Json.Spells text misleading.toValue ∧
      (ofJson text).outcome = .ok { misleading with version := none } := by
  have spells : Json.Spells (Json.indented 0 misleading.toValue) misleading.toValue := by
    unfold Json.Spells
    decide +kernel
  obtain ⟨_, read, _⟩ := read_written misleading .bare
  exact ⟨_, rfl, spells, (read _ spells).1⟩

end Spec
end ApiServices
