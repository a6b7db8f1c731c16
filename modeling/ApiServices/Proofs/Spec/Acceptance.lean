import ApiServices.Proofs.Document.Records
import ApiServices.Proofs.Json.Soundness
import ApiServices.Proofs.Spec.Verdict
import ApiServices.Proofs.Yaml.Soundness
import ApiServices.Spec.Reader
import Mathlib.Data.List.Nodup

namespace ApiServices

/-!
# Which descriptions are accepted

A text is judged as a value: it is read in its format, and what it says under `paths`
decides whether it is a description, and what it describes.  The other fields need
only be such that they can be read: the two version fields are scalars, and the
heading is an object with two texts.

An optional field that is null is nothing.  The value does not quite tell, because a
quoted scalar that is tagged as null is a null by value and still something; so
whether a field says nothing is asked of the document.  In JSON there is no such
scalar, and a null is always nothing.
-/

/-- An object with a text as title and a text as version. -/
def Value.IsHeading (value : Value) : Prop :=
  Exists fun members => value = .ofFields members ∧
    ∀ name ∈ ["title".toList, "version".toList], Exists fun t =>
      members.filter (·.1 == name) = [(name, .text t)]

namespace Spec.Draft

open Document Reading

variable {document : Document} {depth : Nat} {node : Node} {value : Value}

/-- An optional field changes a feature as its value says, or as nothing does. -/
theorem sets_optionalField {α γ : Type} (sound : document.Sound) (inside : node.Sound)
    {feature : Draft -> γ} {read : Node -> Reading α} {set : Draft -> Option α -> Draft}
    {change : γ -> γ}
    (nothing : value = .null -> document.isNothing node = true -> forall draft,
      feature (set draft none) = change (feature draft))
    (something : document.isNothing node = false -> forall target left remaining, target.Sound ->
      ReadsAs document depth target left value remaining -> Exists fun found =>
        Reaches (read target) left found remaining ∧ forall draft,
          feature (set draft (some found)) = change (feature draft)) :
    Sets document depth feature (optionalField document read set) node value change := by
  intro draft left remaining reads
  rcases reads_optional_of_value sound inside reads with
    ⟨silent, null, optional⟩ | ⟨there, target, middle, soundTarget, optional, direct⟩
  · exact ⟨set draft none, ⟨remaining, Nat.le_refl remaining, optional.bind (reads_pure _ remaining)⟩,
      nothing null silent draft⟩
  · obtain ⟨found, ⟨rest, saved, reading⟩, changed⟩ :=
      something there target middle remaining soundTarget direct
    exact ⟨set draft (some found), ⟨rest, saved, optional.bind (reading.bind (reads_pure _ rest))⟩,
      changed draft⟩

/-- A version that is a scalar does not touch the paths. -/
theorem sets_version (sound : document.Sound) (inside : node.Sound)
    (scalar : value.isCollection = false) {set : Draft -> Option Value -> Draft}
    (apart : forall draft version, (set draft version).paths = draft.paths) :
    Sets document depth Draft.paths (optionalField document (document.plainValue depth) set) node value
      fun kept => kept := by
  refine sets_optionalField sound inside (fun _ _ draft => apart draft none) ?_
  intro _ target left remaining _ direct
  exact ⟨value, (direct.reads_plainValue scalar).reaches, fun draft => apart draft (some value)⟩

theorem mem_names_of_lookup {name : Text} {read : Info -> Node -> Reading Info}
    (field : (Info.fields document).lookup name = some read) :
    name ∈ ["title".toList, "version".toList] := by
  have member : name ∈ (Info.fields document).map Prod.fst :=
    List.mem_map_of_mem (Keyed.mem_of_lookup field)
  exact member

/-- The texts of a heading are read as they are. -/
theorem sets_text (sound : document.Sound) (inside : node.Sound) {name t : Text}
    {read : Info -> Node -> Reading Info} (field : (Info.fields document).lookup name = some read)
    (text : value = .text t) {change : Unit -> Unit} :
    Sets document depth (fun _ => ()) read node value change := by
  intro info left remaining reads
  rw [text] at reads
  have reading := reads_textOf_of_value sound inside reads
  have member := Keyed.mem_of_lookup field
  rcases List.mem_cons.mp member with title | rest
  · rw [(Prod.mk.inj title).2]
    exact ⟨{ info with title := t },
      ⟨remaining, Nat.le_refl remaining, reading.bind (reads_pure _ remaining)⟩, rfl⟩
  · rw [(Prod.mk.inj (List.mem_singleton.mp rest)).2]
    exact ⟨{ info with version := t },
      ⟨remaining, Nat.le_refl remaining, reading.bind (reads_pure _ remaining)⟩, rfl⟩

/-- A heading is read and does not touch the paths. -/
theorem sets_info (sound : document.Sound) (inside : node.Sound)
    (heading : value.IsHeading ∨ (value = .null ∧ document.isNothing node = true)) :
    Sets document depth Draft.paths
      (optionalField document (document.record (Info.fields document) .blank)
        fun draft info => { draft with info := info }) node value fun kept => kept := by
  refine sets_optionalField sound inside (fun _ _ _ => rfl) ?_
  intro there target left remaining soundTarget direct
  rcases heading with ⟨members, same, texts⟩ | ⟨_, silent⟩
  · rw [same] at direct
    have unrepeated : Unrepeated (Info.fields document) [] members := by
      intro name known
      obtain ⟨read, field⟩ := Option.isSome_iff_exists.mp known
      obtain ⟨t, only⟩ := texts name (mem_names_of_lookup field)
      have counted : (members.map Prod.fst).count name = 1 := by
        rw [List.count_eq_countP, List.countP_map, List.countP_eq_length_filter]
        exact congrArg List.length only
      exact Nat.le_of_eq (congrArg _ counted)
    -- the heading only has to be read, so no feature of it is followed
    have sets : AllSet document (depth - 1) (fun _ => ()) (Info.fields document) "title".toList
        (fun _ _ => ()) (entriesOf target) members := by
      intro name read node value field found given
      obtain ⟨t, only⟩ := texts name (mem_names_of_lookup field)
      have among : (name, value) ∈ members.filter (·.1 == name) :=
        List.mem_filter.mpr ⟨given, beq_self_eq_true name⟩
      rw [only] at among
      have same := (Prod.mk.inj (List.mem_singleton.mp among)).2
      exact sets_text sound (every_of_nodeNamed? (everyEntry_entriesOf soundTarget) found) field same
    obtain ⟨filled, reading, _⟩ := reads_record sound direct.resolves direct
      soundTarget sets rfl unrepeated .blank
    exact ⟨filled, reading, fun _ => rfl⟩
  · rw [silent] at there
    cases there

/-- Paths are given the shape of their value, unless they say nothing. -/
theorem sets_paths (sound : document.Sound) (inside : node.Sound) (keyed : value.TextKeyed 3) :
    Sets document depth Draft.paths
      (optionalField document
        (fun node => do Reading.log (PathsShape.ofValue (← document.value depth node)))
        fun draft paths => { draft with paths := paths }) node value fun _ =>
      if value = .null ∧ document.isNothing node = true then none else some (pathsShape value) := by
  refine sets_optionalField sound inside ?_ ?_
  · intro null silent draft
    exact (if_pos ⟨null, silent⟩).symm
  · intro there target left remaining soundTarget direct
    refine ⟨pathsShape value, ?_, fun draft => ?_⟩
    · exact (direct.reads.bind (reads_log remaining (outcome_pathsShape keyed))).reaches
    · refine (if_neg fun both => ?_).symm
      rw [there] at both
      cases both.2

end Spec.Draft

namespace Spec

open Document Reading

/-! ## Descriptions -/

/-- What is asked of a document: it is an object whose fields can be read, whatever
the paths turn out to be.  A heading may be a null that is nothing. -/
structure Described (document : Document) (nothing : Text -> Prop) (fields : List (Text × Value)) :
    Prop where
  read : (document.read (document.value document.depthLimit)).outcome = .ok (.ofFields fields)
  distinct : (fields.map Prod.fst).Nodup
  version : ∀ name ∈ ["swagger".toList, "openapi".toList], forall value,
    fields.lookup name = some value -> value.isCollection = false
  heading : forall value, fields.lookup "info".toList = some value ->
    value.IsHeading ∨ (value = .null ∧ nothing "info".toList)
  keyed : forall value, fields.lookup "paths".toList = some value -> value.TextKeyed 3

namespace Described

variable {document : Document} {nothing other : Text -> Prop} {fields : List (Text × Value)}

theorem congr (described : Described document nothing fields)
    (same : forall name, fields.lookup name = some .null -> (nothing name ↔ other name)) :
    Described document other fields where
  read := described.read
  distinct := described.distinct
  version := described.version
  heading value there := by
    refine (described.heading value there).imp_right fun ⟨null, silent⟩ => ⟨null, ?_⟩
    exact (same _ (null ▸ there)).mp silent
  keyed := described.keyed

/-- The map that the document is. -/
theorem exists_root (described : Described document nothing fields) (sound : document.Sound) :
    Exists fun target => Exists fun middle => Exists fun remaining =>
      Reads (document.resolve document.root) document.aliasLimit target middle ∧
        ReadsAs document document.depthLimit target middle (.ofFields fields) remaining ∧
          target.Sound ∧ document.rootEntries = entriesOf target := by
  obtain ⟨⟨remaining, read⟩, _⟩ := outcome_read_eq_ok_iff.mp described.read
  obtain ⟨target, middle, resolved, direct⟩ := readsAs_of_value read
  have found := target?_of_resolve resolved
  refine ⟨target, middle, remaining, resolved, direct, sound.target sound.root found, ?_⟩
  rw [rootEntries, found]
  rfl

/-- Where every null is nothing, a field that is null says nothing. -/
theorem saysNothing_of_definite (described : Described document nothing fields)
    (every : document.Every Scalar.Definite) {name : Text}
    (null : fields.lookup name = some .null) : document.saysNothing name = true := by
  have sound : document.Sound := every.mono fun _ definite => definite.toFits
  obtain ⟨target, middle, remaining, resolved, direct, inside, root⟩ := described.exists_root sound
  have definite := every.target every.root (target?_of_resolve resolved)
  rw [saysNothing, root]
  -- the depth has to be a variable before the cases
  generalize document.depthLimit = depth at direct
  cases direct with
  | scalar there =>
    cases inside with
    | scalar fits => cases fits.isCollection_eq_false there
  | map inner =>
    obtain ⟨node, before, after, found, read⟩ :=
      exists_reads_nodeNamed? sound inner (everyEntry_entriesOf inside) null
    have passed := every_of_nodeNamed? (everyEntry_entriesOf definite) found
    rw [entriesOf, found]
    exact isNothing_of_definite every passed read

/-- The value of `paths`, unless it says nothing. -/
def paths? (document : Document) (fields : List (Text × Value)) : Option Value :=
  givenPaths (document.saysNothing "paths".toList = true) (fields.lookup "paths".toList)

variable (described : Described document (fun name => document.saysNothing name = true) fields)

include described

theorem allSet (sound : document.Sound) {target : Node}
    (inside : target.Sound) (root : document.rootEntries = entriesOf target) :
    AllSet document (document.depthLimit - 1) Draft.paths (Draft.fields document) "paths".toList
      (fun node? value =>
        if value = .null ∧ node?.any document.isNothing = true then none else some (pathsShape value))
      (entriesOf target) fields := by
  intro name read node value field found given
  have soundNode := every_of_nodeNamed? (everyEntry_entriesOf inside) found
  have there := Keyed.lookup_of_mem described.distinct given
  have kept {change : Option PathsShape -> Option PathsShape} (other : name ≠ "paths".toList) :
      (fun kept => if name = "paths".toList then change kept else kept) = fun kept => kept :=
    funext fun _ => if_neg other
  have silent : document.saysNothing name = document.isNothing node := by
    rw [saysNothing, root, found]
    rfl
  have scalar {other : Text} (listed : other ∈ ["swagger".toList, "openapi".toList])
      (named : name = other) : value.isCollection = false :=
    described.version other listed value (named ▸ there)
  have member := Keyed.mem_of_lookup field
  simp only [Draft.fields, List.mem_cons, List.not_mem_nil, or_false] at member
  rcases member with swagger | openapi | info | paths
  · obtain ⟨named, reading⟩ := Prod.mk.inj swagger
    rw [kept (named ▸ by decide), reading]
    exact Draft.sets_version sound soundNode (scalar (by decide) named) fun _ _ => rfl
  · obtain ⟨named, reading⟩ := Prod.mk.inj openapi
    rw [kept (named ▸ by decide), reading]
    exact Draft.sets_version sound soundNode (scalar (by decide) named) fun _ _ => rfl
  · obtain ⟨named, reading⟩ := Prod.mk.inj info
    rw [kept (named ▸ by decide), reading]
    rw [named] at there silent
    exact Draft.sets_info sound soundNode (silent ▸ described.heading value there)
  · obtain ⟨named, reading⟩ := Prod.mk.inj paths
    rw [named] at there
    rw [reading]
    simp only [named, if_true]
    exact Draft.sets_paths sound soundNode (described.keyed value there)

/-- The draft of a description has the shape of its paths. -/
theorem read_draft (sound : document.Sound) :
    Exists fun draft : Draft =>
      (document.read (document.record (Draft.fields document) .empty)).outcome = .ok draft ∧
        draft.paths = (paths? document fields).map pathsShape := by
  obtain ⟨_, whole⟩ := outcome_read_eq_ok_iff.mp described.read
  obtain ⟨target, middle, remaining, resolved, direct, inside, root⟩ := described.exists_root sound
  have unrepeated : Unrepeated (Draft.fields document) [] fields := by
    intro name _
    rw [List.count_nil, Nat.zero_add]
    exact List.nodup_iff_count_le_one.mp described.distinct name
  obtain ⟨draft, ⟨rest, _, reading⟩, paths⟩ := reads_record sound resolved direct inside
    (described.allSet sound inside root) rfl unrepeated .empty
  refine ⟨draft, outcome_read_eq_ok_iff.mpr ⟨⟨rest, reading⟩, whole⟩, ?_⟩
  rw [paths, featureOf, ← root, paths?, givenPaths]
  cases fields.lookup "paths".toList with
  | none => rfl
  | some value =>
    change (if value = .null ∧ document.saysNothing "paths".toList = true then none
        else some (pathsShape value)) =
      (if value = .null ∧ document.saysNothing "paths".toList = true then none
        else some value).map pathsShape
    split <;> rfl

/-- The outcome for a description is the verdict on its paths. -/
theorem outcome_eq (sound : document.Sound) (format : SpecFormat) :
    Exists fun version => Exists fun info =>
      (ofDocument format document).outcome =
        verdict version info ((paths? document fields).map pathsShape) := by
  obtain ⟨draft, read, paths⟩ := described.read_draft sound
  refine ⟨draft.version, draft.info, ?_⟩
  unfold ofDocument verdict
  rw [Logged.outcome_bind, Logged.mapError, read, ← paths]
  change (Logged.outcome (_ >>= _)) = _
  rw [Logged.outcome_bind, Logged.mapError]
  cases (checkPaths draft.paths).outcome <;> rfl

end Described
end Spec

/-- The document that a text is in a format. -/
def SpecFormat.documentOf : SpecFormat -> Text -> Document
  | .json => Json.documentOf
  | .yaml => Yaml.documentOf

/-- Read a description that is known to be in a format. -/
def SpecFormat.read : SpecFormat -> Text -> Logged SpecError Spec
  | .json => Spec.ofJson
  | .yaml => Spec.ofYaml

/-- Whether a null in the field of a name is nothing.  In JSON it always is. -/
def SpecFormat.NullIsNothing (format : SpecFormat) (text name : Text) : Prop :=
  match format with
  | .json => True
  | .yaml => (Yaml.documentOf text).saysNothing name = true

namespace Spec

/-- A text in either format is judged by what it says under `paths`. -/
theorem judged_of_described (format : SpecFormat) (text : Text) {fields : List (Text × Value)}
    (described : Described (format.documentOf text) (format.NullIsNothing text) fields) :
    Judged (format.NullIsNothing text "paths".toList) (fields.lookup "paths".toList)
      (format.read text).outcome := by
  have sound : (format.documentOf text).Sound := by
    cases format with
    | json => exact (Json.definite_documentOf text).mono fun _ definite => definite.toFits
    | yaml => exact Yaml.sound_documentOf text
  have same : forall name, fields.lookup name = some .null ->
      (format.NullIsNothing text name ↔ (format.documentOf text).saysNothing name = true) := by
    intro name null
    cases format with
    | json =>
      exact iff_of_true trivial (described.saysNothing_of_definite (Json.definite_documentOf text) null)
    | yaml => exact Iff.rfl
  obtain ⟨version, info, outcome⟩ := (described.congr same).outcome_eq sound format
  have read : (format.read text).outcome = (ofDocument format (format.documentOf text)).outcome := by
    cases format <;> rfl
  exact Judged.congr (judged_of_verdict (read.trans outcome)) fun null => (same _ null).symm

/-- A description that has a route twice, first with a number. -/
def repeatedRoute : Text :=
  ("\x7b\"openapi\":\"3.0.0\",\"info\":\x7b\"title\":\"Pets\",\"version\":\"1\"\x7d," ++
    "\"paths\":\x7b\"/a\":0,\"/b\":\x7b\"get\":[]\x7d,\"/a\":\x7b\"get\":\x7b\x7d\x7d\x7d\x7d").toList

/-- What its routes are given. -/
def repeatedRouteItems : List (Text × Value) :=
  [ ("/a".toList, .unsigned 0),
    ("/b".toList, .ofFields [("get".toList, .list [])]),
    ("/a".toList, .ofFields [("get".toList, .ofFields [])]) ]

theorem judged_repeatedRoute :
    Judged True (some (.ofFields repeatedRouteItems)) (SpecFormat.json.read repeatedRoute).outcome := by
  have described : Described (SpecFormat.json.documentOf repeatedRoute)
      (SpecFormat.json.NullIsNothing repeatedRoute)
      [ ("openapi".toList, .text "3.0.0".toList),
        ("info".toList,
          .ofFields [("title".toList, .text "Pets".toList), ("version".toList, .text "1".toList)]),
        ("paths".toList, .ofFields repeatedRouteItems) ] := by
    constructor
    case read => decide +kernel
    case distinct => decide
    case version =>
      intro name member value there
      rcases List.mem_cons.mp member with swagger | openapi
      · rw [swagger] at there
        cases there
      · rw [List.mem_singleton.mp openapi] at there
        rw [← Option.some.inj there]
        rfl
    case heading =>
      intro value there
      refine Or.inl ⟨_, (Option.some.inj there).symm, ?_⟩
      intro name member
      rcases List.mem_cons.mp member with title | version
      · rw [title]
        exact ⟨"Pets".toList, rfl⟩
      · rw [List.mem_singleton.mp version]
        exact ⟨"1".toList, rfl⟩
    case keyed =>
      intro value there
      rw [← Option.some.inj there]
      simp [repeatedRouteItems, Value.textKeyed_ofFields_iff, Value.TextKeyed]
  exact judged_of_described .json repeatedRoute described

/-- A null is not always nothing: a quoted one is a value of `paths`, and no map. -/
theorem null_paths_not_always_missing :
    ¬forall (text : Text) (fields : List (Text × Value)),
      ((Yaml.documentOf text).read ((Yaml.documentOf text).value Yaml.depthLimit)).outcome =
          .ok (.ofFields fields) ->
        (fields.map Prod.fst).Nodup -> fields.lookup "swagger".toList = none ->
          fields.lookup "openapi".toList = none -> fields.lookup "info".toList = none ->
            fields.lookup "paths".toList = some .null ->
              (ofYaml text).outcome = .error (.malformed .missing) := by
  intro always
  have refused := always "paths: !!null 'null'\n".toList [("paths".toList, .null)]
    (by decide +kernel) (by decide) (by decide) (by decide) (by decide) (by decide)
  exact absurd refused (by decide +kernel)

end Spec
end ApiServices
