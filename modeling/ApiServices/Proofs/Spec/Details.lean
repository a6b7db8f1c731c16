import ApiServices.Proofs.Keyed.Order
import ApiServices.Spec.Values

namespace ApiServices

/-!
# What the value of a verb says

An operation is read from an object entry by entry.  What comes of it can be said
without the order of the entries: each field is what its own entry says, and an
object that has a field twice has none.  Keys are taken for texts here; an object
whose keys are numbers is another way to write an operation, of which nothing is
said.
-/

/-- Entries with text keys begin with one, and so on. -/
theorem Value.textEntries?_cons_eq_some {key value : Value} {rest : List (Value × Value)}
    {fields : List (Text × Value)} (keyed : textEntries? ((key, value) :: rest) = some fields) :
    Exists fun name => Exists fun others =>
      key = .text name ∧ textEntries? rest = some others ∧ fields = (name, value) :: others := by
  cases key with
  | text name =>
    obtain ⟨others, found, same⟩ := Option.map_eq_some_iff.mp keyed
    exact ⟨name, others, rfl, found, same.symm⟩
  | _ => cases keyed

/-- The entries of a map whose keys are texts. -/
def Value.members (entries : List (Value × Value)) : List (Text × Value) :=
  (textEntries? entries).getD []

theorem Value.members_map (fields : List (Text × Value)) :
    members (fields.map fun field => (.text field.1, field.2)) = fields := by
  rw [members, textEntries?_map]
  rfl

namespace Details

/-- The tags that a value stands for: items that are no scalars are empty texts, and
a value that is no list has none. -/
def tagsIn : Option Value -> List Text
  | some (.list items) => items.map fun item => item.scalarText?.getD []
  | _ => []

/-- The details that the values of the fields stand for. -/
def fieldwise (values : Field -> Option Value) : Details where
  tags := tagsIn (values .tags)
  operationId := (values .operationId).bind Value.scalarText?
  description := (values .description).bind Value.scalarText?

/-- How often the entries of an object have a field. -/
def occurrences (fields : List (Text × Value)) (field : Field) : Nat :=
  fields.countP fun entry => entry.1 = field.name

/-- Whether entries have no field twice, and none of those already met. -/
def Once (seen : List Field) (fields : List (Text × Value)) : Prop :=
  forall field, (if field ∈ seen then 1 else 0) + occurrences fields field ≤ 1

instance (seen : List Field) (fields : List (Text × Value)) : Decidable (Once seen fields) :=
  decidable_of_iff (∀ field ∈ Field.all, (if field ∈ seen then 1 else 0) + occurrences fields field ≤ 1)
    ⟨fun all field => all field (by cases field <;> decide), fun once field _ => once field⟩

/-- The details of an object with text keys: those of its fields, unless one of
them occurs twice. -/
def ofFields (fields : List (Text × Value)) : Details :=
  if Once [] fields then fieldwise fun field => fields.lookup field.name else .bare

/-- The details that a value stands for.  Only an object has any. -/
def ofValue : Value -> Details
  | .map entries => ofFields (Value.members entries)
  | _ => .bare

/-! ## One field -/

theorem ofName?_eq_some_iff {name : Text} {field : Field} :
    Field.ofName? name = some field ↔ name = field.name := by
  constructor
  · intro found
    have among : Field.all.find? (·.name == name) = some field := found
    have named := List.find?_some among
    exact (beq_iff_eq.mp named).symm
  · intro same
    rw [same]
    cases field <;> rfl

theorem fieldwise_none : fieldwise (fun _ => none) = .bare := rfl

theorem outcome_textField {ε : Type} (value : Value) :
    (textField value : Logged ε (Option Text)).outcome = .ok value.scalarText? := by
  unfold textField
  cases value.scalarText?.isNone <;> rfl

theorem outcome_tagsField {ε : Type} (value : Value) :
    (tagsField value : Logged ε (List Text)).outcome = .ok (tagsIn (some value)) := by
  unfold tagsField tagsIn
  cases value <;> rfl

/-- A field that is there and not null is set to what its value stands for. -/
theorem outcome_setField {ε : Type} (values : Field -> Option Value) (value : Value)
    (field : Field) :
    (setField (fieldwise values) value field : Logged ε Details).outcome =
      .ok (fieldwise fun other => if other = field then some value else values other) := by
  cases field with
  | tags =>
    change (tagsField value >>= _ : Logged ε Details).outcome = _
    rw [Logged.outcome_bind, outcome_tagsField]
    rfl
  | operationId =>
    change (textField value >>= _ : Logged ε Details).outcome = _
    rw [Logged.outcome_bind, outcome_textField]
    rfl
  | description =>
    change (textField value >>= _ : Logged ε Details).outcome = _
    rw [Logged.outcome_bind, outcome_textField]
    rfl

/-- A field that is null is as good as absent. -/
theorem fieldwise_null {values : Field -> Option Value} {field : Field}
    (absent : values field = none) :
    fieldwise (fun other => if other = field then some .null else values other) =
      fieldwise values := by
  unfold fieldwise
  cases field <;> simp [absent, tagsIn, Value.scalarText?]

/-! ## All entries -/

theorem occurrences_cons (name : Text) (value : Value) (rest : List (Text × Value))
    (field : Field) :
    occurrences ((name, value) :: rest) field =
      occurrences rest field + if name = field.name then 1 else 0 := by
  unfold occurrences
  rw [List.countP_cons]
  simp

theorem lookup_name_of_occurrences {fields : List (Text × Value)} {field : Field}
    (absent : occurrences fields field = 0) : fields.lookup field.name = none := by
  rw [List.lookup_eq_none_iff]
  intro entry member
  have other := List.countP_eq_zero.mp absent entry member
  rw [decide_eq_true_eq] at other
  exact bne_iff_ne.mpr fun same => other same.symm

theorem once_cons_of_other {seen : List Field} {name : Text} {value : Value}
    {rest : List (Text × Value)} (other : Field.ofName? name = none) :
    Once seen ((name, value) :: rest) ↔ Once seen rest := by
  refine forall_congr' fun field => ?_
  have apart : name ≠ field.name := by
    intro same
    rw [ofName?_eq_some_iff.mpr same] at other
    cases other
  rw [occurrences_cons, if_neg apart, Nat.add_zero]

theorem name_injective {field other : Field} (same : field.name = other.name) : field = other := by
  have known := ofName?_eq_some_iff.mpr same
  rw [ofName?_eq_some_iff.mpr rfl] at known
  exact Option.some.inj known

theorem once_cons_of_field {seen : List Field} {field : Field} {value : Value}
    {rest : List (Text × Value)} (fresh : field ∉ seen) :
    Once seen ((field.name, value) :: rest) ↔ Once (field :: seen) rest := by
  refine forall_congr' fun other => ?_
  rw [occurrences_cons]
  by_cases same : other = field
  · subst same
    simp [fresh, Nat.add_comm]
  · have apart : field.name ≠ other.name := fun equal => same (name_injective equal).symm
    simp [same, apart]

theorem not_once_of_seen {seen : List Field} {field : Field} {value : Value}
    {rest : List (Text × Value)} (met : field ∈ seen) :
    ¬Once seen ((field.name, value) :: rest) := by
  intro once
  have twice := once field
  rw [occurrences_cons, if_pos met, if_pos rfl] at twice
  omega

theorem once_of_nodup {fields : List (Text × Value)} (distinct : (fields.map Prod.fst).Nodup) :
    Once [] fields := by
  intro field
  have bound := List.nodup_iff_count.mp distinct field.name
  rw [List.count_eq_countP, List.countP_map] at bound
  rw [if_neg List.not_mem_nil, Nat.zero_add, occurrences]
  exact Nat.le_trans (List.countP_mono_left fun entry _ same => by simpa using same) bound

/-- What the fields say when one more of them is met in front of the others. -/
theorem fieldwise_cons {seen : List Field} {field : Field} {value : Value}
    {others : List (Text × Value)} (values : Field -> Option Value)
    (once : Once (field :: seen) others) :
    (fieldwise fun other => (others.lookup other.name).or
        (if other = field then some value else values other)) =
      fieldwise fun other =>
        (((field.name, value) :: others).lookup other.name).or (values other) := by
  congr 1
  funext other
  rw [List.lookup_cons]
  by_cases same : other = field
  · have none : occurrences others field = 0 := by
      have bounded := once field
      rw [if_pos List.mem_cons_self] at bounded
      omega
    rw [same, lookup_name_of_occurrences none, beq_self_eq_true, if_pos rfl]
    rfl
  · have apart : (other.name == field.name) = false :=
      beq_eq_false_iff_ne.mpr fun equal => same (name_injective equal)
    rw [apart, if_neg same]

/-- A field that is met for the first time adds what its value says. -/
theorem outcome_ofEntries_field {seen : List Field} {values : Field -> Option Value}
    {field : Field} (value : Value) (rest : List (Value × Value)) (unmet : field ∉ seen)
    (absent : values field = none) :
    (ofEntries seen (fieldwise values) ((.text field.name, value) :: rest)).outcome =
      (ofEntries (field :: seen)
        (fieldwise fun other => if other = field then some value else values other) rest).outcome := by
  have shown : Field.ofKey? (.text field.name) = some (some field) :=
    congrArg some (ofName?_eq_some_iff.mpr rfl)
  rw [ofEntries, shown]
  dsimp only
  rw [if_neg fun inside => unmet (List.contains_iff_mem.mp inside)]
  split
  · rw [fieldwise_null absent]
  · rw [Logged.outcome_bind, outcome_setField]
    rfl

/-- Entries with text keys are read field by field, or refused because a field
occurs twice. -/
theorem outcome_ofEntries {entries : List (Value × Value)} {fields : List (Text × Value)}
    (keyed : Value.textEntries? entries = some fields) {seen : List Field}
    {values : Field -> Option Value} (unmet : ∀ field, field ∉ seen -> values field = none) :
    (ofEntries seen (fieldwise values) entries).outcome =
      if Once seen fields then
        .ok (fieldwise fun field => (fields.lookup field.name).or (values field))
      else .error () := by
  induction entries generalizing fields seen values with
  | nil =>
    have empty : fields = [] := (Option.some.inj keyed).symm
    have once : Once seen [] := by
      intro field
      change (if field ∈ seen then 1 else 0) + 0 ≤ 1
      split <;> decide
    rw [empty, if_pos once]
    rfl
  | cons entry rest ih =>
    obtain ⟨key, value⟩ := entry
    obtain ⟨name, others, text, later, split⟩ := Value.textEntries?_cons_eq_some keyed
    rw [text, split]
    cases known : Field.ofName? name with
    | none =>
      have shown : Field.ofKey? (.text name) = some none := congrArg some known
      have apart : forall field : Field, (field.name == name) = false := by
        intro field
        apply beq_eq_false_iff_ne.mpr
        intro same
        rw [ofName?_eq_some_iff.mpr same.symm] at known
        cases known
      rw [ofEntries, shown]
      dsimp only
      rw [ih later unmet]
      simp only [once_cons_of_other known, List.lookup_cons, apart]
    | some field =>
      have shown : Field.ofKey? (.text name) = some (some field) := congrArg some known
      have named : name = field.name := ofName?_eq_some_iff.mp known
      by_cases met : field ∈ seen
      · rw [ofEntries, shown, named]
        dsimp only
        rw [if_pos (List.contains_iff_mem.mpr met), if_neg (not_once_of_seen met)]
        rfl
      · have grown : forall other, other ∉ field :: seen ->
            (if other = field then some value else values other) = none := by
          intro other fresh
          rw [List.mem_cons, not_or] at fresh
          rw [if_neg fresh.1]
          exact unmet other fresh.2
        rw [named, outcome_ofEntries_field value rest met (unmet field met), ih later grown]
        by_cases once : Once (field :: seen) others
        · rw [if_pos once, if_pos ((once_cons_of_field met).mpr once), fieldwise_cons values once]
        · rw [if_neg once, if_neg fun whole => once ((once_cons_of_field met).mp whole)]

/-! ## The shape of a value -/

/-- What the value of a verb turns out to be. -/
def shapeOf : Value -> OperationShape
  | .map entries =>
    if Once [] (Value.members entries) then
      .details (fieldwise fun field => (Value.members entries).lookup field.name)
    else .other
  | _ => .other

/-- The details of a shape. -/
def ofShape : OperationShape -> Details
  | .details details => details
  | .other => .bare

theorem ofShape_shapeOf (value : Value) : ofShape (shapeOf value) = ofValue value := by
  cases value with
  | map entries =>
    rw [shapeOf, ofValue, ofFields]
    split <;> rfl
  | _ => rfl

theorem outcome_shapeOf {ε : Type} {value : Value}
    (keyed : ∀ entries, value = .map entries -> (Value.textEntries? entries).isSome) :
    (OperationShape.ofValue value : Logged ε OperationShape).outcome = .ok (shapeOf value) := by
  cases value with
  | map entries =>
    obtain ⟨fields, found⟩ := Option.isSome_iff_exists.mp (keyed entries rfl)
    have read := @outcome_ofEntries entries fields found [] (fun _ => none) fun _ _ => rfl
    rw [fieldwise_none] at read
    simp only [Option.or_none] at read
    rw [shapeOf, Value.members, found, Option.getD_some]
    unfold OperationShape.ofValue
    dsimp only
    by_cases once : Once [] fields
    · rw [if_pos once] at read ⊢
      rw [read]
    · rw [if_neg once] at read ⊢
      rw [read]
  | _ => rfl

end Details
end ApiServices
