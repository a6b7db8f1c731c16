import ApiServices.Proofs.Json.Numerals
import ApiServices.Proofs.Spec.Objects
import ApiServices.Proofs.Yaml.Numerals

namespace ApiServices

/-!
# Numerals in operations

A name, a description or a tag may be written as a whole number without quotes.  Both
formats read the numeral as the number, up to 64 bits, and an operation then says the
text that the number stands for.  So every number of 63 bits is said exactly, while the
larger ones are only if they happen to be what a double is written as.

An operation is taken here with all its entries, whatever their keys.  It is enough
that the object is read at all: no entry after the one that sets a field touches it.
-/

/-! ## The entries of an object -/

namespace Details

variable {seen : List Field} {details next found : Details} {key value : Value}
  {rest : List (Value × Value)}

theorem AgreeIn.trans {other : Details} {field : Field} (first : AgreeIn found next field)
    (later : AgreeIn next other field) : AgreeIn found other field := by
  cases field <;> exact Eq.trans first later

/-- Setting a field sets it to what the value says, and no other field. -/
theorem agreeIn_of_setField {ε : Type} {field : Field}
    (set : (setField details value field : Logged ε Details).outcome = .ok next) :
    AgreeIn next (fieldwise fun _ => some value) field ∧
      forall other, other ≠ field -> AgreeIn next details other := by
  cases field with
  | tags =>
    change (tagsField value >>= _ : Logged ε Details).outcome = _ at set
    rw [Logged.outcome_bind, outcome_tagsField] at set
    cases set
    refine ⟨rfl, fun other apart => ?_⟩
    cases other <;> first | rfl | exact absurd rfl apart
  | operationId =>
    change (textField value >>= _ : Logged ε Details).outcome = _ at set
    rw [Logged.outcome_bind, outcome_textField] at set
    cases set
    refine ⟨rfl, fun other apart => ?_⟩
    cases other <;> first | rfl | exact absurd rfl apart
  | description =>
    change (textField value >>= _ : Logged ε Details).outcome = _ at set
    rw [Logged.outcome_bind, outcome_textField] at set
    cases set
    refine ⟨rfl, fun other apart => ?_⟩
    cases other <;> first | rfl | exact absurd rfl apart

/-- What an entry does to the details that are being read. -/
theorem outcome_ofEntries_cons
    (read : (ofEntries seen details ((key, value) :: rest)).outcome = .ok found) :
    Field.ofKey? key = some none ∧ (ofEntries seen details rest).outcome = .ok found ∨
      Exists fun field => Exists fun next => Field.ofKey? key = some (some field) ∧
        field ∉ seen ∧ (ofEntries (field :: seen) next rest).outcome = .ok found ∧
        (value ≠ .null -> AgreeIn next (fieldwise fun _ => some value) field) ∧
        forall other, other ≠ field -> AgreeIn next details other := by
  rw [ofEntries] at read
  split at read
  · cases read
  · next none => exact Or.inl ⟨none, read⟩
  · next field selects =>
    split at read
    · cases read
    · next unmet =>
      have unmet : field ∉ seen := fun met => unmet (List.contains_iff_mem.mpr met)
      refine Or.inr ⟨field, ?_⟩
      split at read
      · refine ⟨details, selects, unmet, read, fun there => absurd rfl there, fun other _ => ?_⟩
        cases other <;> rfl
      · rw [Logged.outcome_bind] at read
        cases set : (setField details value field : Logged Unit Details).outcome with
        | error cause =>
          rw [set] at read
          cases read
        | ok next =>
          rw [set] at read
          exact ⟨next, selects, unmet, read, fun _ => (agreeIn_of_setField set).1,
            (agreeIn_of_setField set).2⟩

/-- A field that has been met stays as it is. -/
theorem agreeIn_of_seen {entries : List (Value × Value)} {field : Field} (met : field ∈ seen)
    (read : (ofEntries seen details entries).outcome = .ok found) : AgreeIn found details field := by
  induction entries generalizing seen details with
  | nil =>
    cases read
    cases field <;> rfl
  | cons entry rest ih =>
    rcases outcome_ofEntries_cons read with
      ⟨_, later⟩ | ⟨other, next, _, unmet, later, _, kept⟩
    · exact ih met later
    · have apart : field ≠ other := fun same => unmet (same ▸ met)
      exact (ih (List.mem_cons_of_mem other met) later).trans (kept field apart)

/-- A field is what the value of its entry says. -/
theorem agreeIn_of_entry {entries : List (Value × Value)} {field : Field}
    (selects : Field.ofKey? key = some (some field)) (there : value ≠ .null)
    (member : (key, value) ∈ entries)
    (read : (ofEntries seen details entries).outcome = .ok found) :
    AgreeIn found (fieldwise fun _ => some value) field := by
  induction entries generalizing seen details with
  | nil => exact absurd member List.not_mem_nil
  | cons entry rest ih =>
    rcases outcome_ofEntries_cons read with
      ⟨none, later⟩ | ⟨other, next, known, unmet, later, shown, kept⟩
    · rcases List.mem_cons.mp member with rfl | member
      · rw [selects] at none
        cases none
      · exact ih member later
    · rcases List.mem_cons.mp member with rfl | member
      · rw [selects] at known
        cases known
        exact (agreeIn_of_seen List.mem_cons_self later).trans (shown there)
      · exact ih member later

/-- What an operation says where an entry of its object has some value: the text that
the value stands for. -/
structure Says (entries : List (Value × Value)) (value : Value) (text : Text)
    (details : Details) : Prop where
  operationId : (.text "operationId".toList, value) ∈ entries -> details.operationId = some text
  description : (.text "description".toList, value) ∈ entries -> details.description = some text
  tags : forall (items : List Value) (i : Nat), (.text "tags".toList, .list items) ∈ entries ->
    items[i]? = some value -> details.tags[i]? = some text

/-- The fields of an object that is read say the texts of their values. -/
theorem says_of_ofEntries {entries : List (Value × Value)} {text : Text}
    (scalar : value.scalarText? = some text)
    (read : (ofEntries [] .bare entries).outcome = .ok found) : Says entries value text found := by
  have there : value ≠ .null := by
    rintro rfl
    cases scalar
  refine ⟨fun member => ?_, fun member => ?_, fun items i member item => ?_⟩
  · have agree : AgreeIn found (fieldwise fun _ => some value) .operationId :=
      agreeIn_of_entry rfl there member read
    exact Eq.trans agree scalar
  · have agree : AgreeIn found (fieldwise fun _ => some value) .description :=
      agreeIn_of_entry rfl there member read
    exact Eq.trans agree scalar
  · have list : Value.list items ≠ .null := by
      intro impossible
      cases impossible
    have agree : AgreeIn found (fieldwise fun _ => some (.list items)) .tags :=
      agreeIn_of_entry rfl list member read
    have tags : found.tags = items.map fun item => item.scalarText?.getD [] := agree
    rw [tags, List.getElem?_map, item, Option.map_some, scalar]
    rfl

end Details

/-! ## From the text to the operation -/

/-- A node that is read as a value in every document, also where there may be none. -/
def Node.Reads (node : Node) (value : Value) : Prop :=
  forall (document : Document) (left : Nat),
    Reading.Reads (document.optional node) left (some node) left ∧
      forall depth, Reading.Reads (document.value depth node) left value left

/-- Whether a text without quotes is a value wherever a value stands: in JSON in front of
what ends a numeral, in YAML as a plain scalar. -/
def SpecFormat.ReadsBare (written : Text) (value : Value) : SpecFormat -> Prop
  | .json => forall (fuel : Nat) (after : Text), Json.EndsNumeral after -> Exists fun node =>
    Json.nodeOf (fuel + 1) (written ++ after) = (node, some after) ∧ node.Reads value
  | .yaml => forall (fuel : Nat) (block loose : Bool) (builder : Yaml.Builder)
      (after : List Yaml.Token), builder.tokens = .scalar written .plain :: after ->
    Exists fun node => (Yaml.Build.node (fuel + 2) block loose).run builder =
      (node, { builder with tokens := after }) ∧ node.Reads value

theorem Node.reads_scalar {readings : Scalar} {value : Value} (present : readings.present = some true)
    (is : readings.value = some value) : (Node.scalar readings).Reads value := by
  intro document left
  refine ⟨(Reading.reads_pure _ left).bind ?_, fun depth => ?_⟩
  · exact (Reading.reads_orRefuse left present).bind (Reading.reads_pure _ left)
  · cases depth <;>
      exact (Reading.reads_pure _ left).bind (Reading.reads_orRefuse left is)

theorem SpecFormat.readsBare_ofInt (format : SpecFormat) {n : Int} (low : -2 ^ 63 ≤ n)
    (high : n < 2 ^ 64) : format.ReadsBare (Text.ofInt n) (.ofInt n) := by
  cases format with
  | json =>
    intro fuel after ends
    exact ⟨_, Json.nodeOf_ofInt low high fuel ends, Node.reads_scalar rfl rfl⟩
  | yaml =>
    intro fuel block loose builder after next
    exact ⟨_, Yaml.Build.node_of_scalar fuel block loose next,
      Node.reads_scalar (Yaml.Schema.present?_ofInt n) (Yaml.Schema.plain?_ofInt low high)⟩

namespace Spec

/-- The numeral of a number of 64 bits is read as the number in both formats, and an
operation that has the number as its name, its description or a tag says the text that
the number stands for.  This is its numeral in exactly the cases `IsExact`, in which no
two numbers are said alike; in the others it is the numeral of a multiple of 1000. -/
theorem numeral_said_exactly_iff (format : SpecFormat) {n : Int} (low : -2 ^ 63 ≤ n)
    (high : n < 2 ^ 64) :
    format.ReadsBare (Text.ofInt n) (.ofInt n) ∧
    (forall (text : Text) (spec : Spec) (route verb : Text) (entries : List (Value × Value))
      (found : Details), (format.read text).outcome = .ok spec ->
        HasOperation (format.documentOf text) route verb (.map entries) ->
          (Details.ofEntries [] .bare entries).outcome = .ok found ->
            (Exists fun methods => spec.paths.get? route = some methods ∧
              methods.get? verb = some found) ∧
            Details.Says entries (.ofInt n) (Value.numeralText n) found) ∧
    (Value.numeralText n = Text.ofInt n ↔ Value.IsExact n) ∧
    (2 ^ 63 ≤ n -> Exists fun shown => Value.numeralText n = Text.ofInt shown ∧ 1000 ∣ shown ∧
      n ≤ shown + 3072 ∧ shown ≤ n + 3072) ∧
    (forall other, Value.IsExact n -> Value.IsExact other ->
      Value.numeralText n = Value.numeralText other -> n = other) := by
  refine ⟨format.readsBare_ofInt low high, ?_, Value.numeralText_eq_iff,
    fun large => Value.exists_numeralText_of_le large high, fun other exact also => exact.eq also⟩
  intro text spec route verb entries found accepted has read
  obtain ⟨methods, there, operation⟩ := exists_methods_of_hasOperation accepted has
  rw [OperationShape.foundIn, read] at operation
  exact ⟨⟨methods, there, operation⟩, Details.says_of_ofEntries (Value.scalarText?_ofInt n) read⟩

/-- A description whose only operation has the largest number of 63 bits as its second
tag. -/
def numberedTags : Text :=
  ("paths:\n  /a:\n    get:\n      operationId: 9007199254740993\n" ++
    "      tags: [-1, 9223372036854775807]\n").toList

/-- The entries of its operation. -/
def numberedEntries : List (Value × Value) :=
  [ (.text "operationId".toList, .unsigned 9007199254740993),
    (.text "tags".toList, .list [.signed (-1), .unsigned 9223372036854775807]) ]

theorem numeral_said_in_numberedTags : (-2 ^ 63 : Int) ≤ 9223372036854775807 ∧
    (9223372036854775807 : Int) < 2 ^ 64 ∧ Exists fun spec => Exists fun methods =>
      Exists fun details : Details => (SpecFormat.yaml.read numberedTags).outcome = .ok spec ∧
        spec.paths.get? "/a".toList = some methods ∧ methods.get? "get".toList = some details ∧
          details.tags[1]? = some "9223372036854775807".toList := by
  obtain ⟨_, everywhere, _⟩ := numeral_said_exactly_iff .yaml
    (n := 9223372036854775807) (by decide) (by decide)
  have accepted : (SpecFormat.yaml.read numberedTags).outcome = .ok
      ⟨none, none, Keyed.ofList [("/a".toList, Keyed.ofList [("get".toList,
        ⟨["-1".toList, "9223372036854775807".toList], some "9007199254740993".toList, none⟩)])]⟩ := by
    decide +kernel
  have whole : ((Yaml.documentOf numberedTags).read ((Yaml.documentOf numberedTags).value
      (Yaml.documentOf numberedTags).depthLimit)).outcome = .ok (.ofFields
        [("paths".toList, .ofFields
          [("/a".toList, .ofFields [("get".toList, .map numberedEntries)])])]) := by
    decide +kernel
  have gives : (Yaml.documentOf numberedTags).Gives Spec.Draft.names "paths".toList
      (.ofFields [("/a".toList, .ofFields [("get".toList, .map numberedEntries)])]) :=
    Document.gives_of_read (Yaml.sound_documentOf numberedTags) whole rfl
  have read : (Details.ofEntries [] .bare numberedEntries).outcome = .ok
      ⟨["-1".toList, "9223372036854775807".toList], some "9007199254740993".toList, none⟩ := by
    decide +kernel
  obtain ⟨⟨methods, route, verb⟩, said⟩ := everywhere numberedTags _ "/a".toList "get".toList
    numberedEntries _ accepted ⟨_, _, gives, rfl, rfl⟩ read
  refine ⟨by decide, by decide, _, methods, _, accepted, route, verb, ?_⟩
  exact said.tags _ 1 (List.mem_cons_of_mem _ List.mem_cons_self) rfl

/-- A description whose only operation has a number for its name. -/
def namedByNumber (n : Int) : Text :=
  "\x7b\"paths\":\x7b\"/a\":\x7b\"get\":\x7b\"operationId\":".toList ++ Text.ofInt n ++
    "\x7d\x7d\x7d\x7d".toList

/-- The least number beyond 63 bits is not said exactly, and it is said as another one. -/
theorem numeral_not_always_said_exactly : Exists fun details : Details =>
    (SpecFormat.json.read (namedByNumber 9223372036854775808)).outcome =
        .ok ⟨none, none, Keyed.ofList [("/a".toList, Keyed.ofList [("get".toList, details)])]⟩ ∧
      details.operationId ≠ some (Text.ofInt 9223372036854775808) ∧
      (SpecFormat.json.read (namedByNumber 9223372036854776000)).outcome =
        .ok ⟨none, none, Keyed.ofList [("/a".toList, Keyed.ofList [("get".toList, details)])]⟩ :=
  ⟨⟨[], some "9223372036854776000".toList, none⟩, by decide +kernel, by decide +kernel,
    by decide +kernel⟩

end Spec
end ApiServices
