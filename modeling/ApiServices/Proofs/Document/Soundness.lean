import ApiServices.Document.Node

namespace ApiServices

/-!
# Scalars whose readings fit together

A scalar has a reading for each use, and nothing in its type relates them.  The
readers of documents only make scalars whose readings fit: a text by value is the
same text where a text is wanted, and what has a value other than null is
something where there may be nothing.  A null need not be nothing, but whether it
is can be told.

A document is sound when all its scalars are, those of its anchors included.  The
only test besides is that every null is nothing, which one of the formats passes.
-/

namespace Value

/-- Whether a value has other values inside. -/
def isCollection : Value -> Bool
  | .list _ => true
  | .map _ => true
  | _ => false

/-- Whether a value is a truth value or a number. -/
def isAtom : Value -> Bool
  | .bool _ => true
  | .unsigned _ => true
  | .signed _ => true
  | .float _ => true
  | _ => false

end Value

/-- The readings of a scalar that has a value fit together. -/
structure Scalar.Fits (readings : Scalar) : Prop where
  kind : forall value, readings.value = some value ->
    value = .null ∨ value.isAtom = true ∨ Exists fun t => value = .text t ∧ readings.text = some t
  present : forall value, readings.value = some value -> value ≠ .null ->
    readings.present = some true
  null : readings.value = some .null -> readings.present.isSome

/-- A text by value is the same text where a text is wanted. -/
theorem Scalar.Fits.text {readings : Scalar} (fits : readings.Fits) {t : Text}
    (there : readings.value = some (.text t)) : readings.text = some t := by
  rcases fits.kind _ there with impossible | impossible | ⟨u, same, text⟩
  · cases impossible
  · cases impossible
  · rw [Value.text.inj same, text]

theorem Scalar.Fits.isCollection_eq_false {readings : Scalar} (fits : readings.Fits) {value : Value}
    (there : readings.value = some value) : value.isCollection = false := by
  rcases fits.kind _ there with same | atom | ⟨u, same, _⟩
  · rw [same]
    rfl
  · cases value with
    | list _ => cases atom
    | map _ => cases atom
    | _ => rfl
  · rw [same]
    rfl

/-- Of a scalar that has a value it is known whether it says something, and only a
null says nothing. -/
theorem Scalar.Fits.present_cases {readings : Scalar} {value : Value} (fits : readings.Fits)
    (there : readings.value = some value) :
    (readings.present = some false ∧ value = .null) ∨ readings.present = some true := by
  by_cases null : value = .null
  · obtain ⟨present, known⟩ := Option.isSome_iff_exists.mp (fits.null (null ▸ there))
    cases present with
    | true => exact Or.inr known
    | false => exact Or.inl ⟨known, null⟩
  · exact Or.inr (fits.present value there null)

/-- A scalar whose readings fit together and that says nothing if it is a null. -/
structure Scalar.Definite (readings : Scalar) : Prop extends readings.Fits where
  nothing : readings.value = some .null -> readings.present = some false

theorem Scalar.definite_of_present {readings : Scalar} (present : readings.present = some true)
    (kind : forall value, readings.value = some value ->
      value.isAtom = true ∨ Exists fun t => value = .text t ∧ readings.text = some t) :
    readings.Definite where
  kind value there := Or.inr (kind value there)
  present _ _ _ := present
  null _ := present ▸ rfl
  nothing null := by
    rcases kind _ null with impossible | ⟨t, impossible, _⟩
    · cases impossible
    · cases impossible

namespace Node

/-- All scalars in a node pass a test. -/
inductive Every (test : Scalar -> Prop) : Node -> Prop
  | scalar {readings : Scalar} (passed : test readings) : Every test (.scalar readings)
  | list {marked : Bool} {items : List Node} (inner : ∀ item ∈ items, Every test item) :
    Every test (.list marked items)
  | map {marked : Bool} {entries : List (Node × Node)} (keys : ∀ entry ∈ entries, Every test entry.1)
    (values : ∀ entry ∈ entries, Every test entry.2) : Every test (.map marked entries)
  | alias (anchor : Nat) : Every test (.alias anchor)
  | cut : Every test .cut

/-- All nodes of a list pass. -/
def EveryItem (test : Scalar -> Prop) (items : List Node) : Prop :=
  ∀ item ∈ items, item.Every test

/-- The keys and the values of entries pass. -/
def EveryEntry (test : Scalar -> Prop) (entries : List (Node × Node)) : Prop :=
  ∀ entry ∈ entries, entry.1.Every test ∧ entry.2.Every test

variable {test weaker : Scalar -> Prop}

theorem EveryEntry.map {entries : List (Node × Node)} (every : EveryEntry test entries)
    (marked : Bool) : (Node.map marked entries).Every test :=
  .map (fun entry member => (every entry member).1) fun entry member => (every entry member).2

theorem EveryEntry.cut : EveryEntry test [(.cut, .cut)] :=
  List.forall_mem_singleton.mpr ⟨.cut, .cut⟩

theorem Every.mono {node : Node} (every : node.Every test)
    (weaken : forall readings, test readings -> weaker readings) : node.Every weaker := by
  induction every with
  | scalar passed => exact .scalar (weaken _ passed)
  | list _ ih => exact .list ih
  | map _ _ keys values => exact .map keys values
  | «alias» anchor => exact .alias anchor
  | cut => exact .cut

end Node

/-- All scalars in a document pass a test. -/
structure Document.Every (test : Scalar -> Prop) (document : Document) : Prop where
  root : document.root.Every test
  anchors : ∀ anchor ∈ document.anchors, anchor.2.Every test

theorem Document.Every.mono {test weaker : Scalar -> Prop} {document : Document}
    (every : document.Every test) (weaken : forall readings, test readings -> weaker readings) :
    document.Every weaker :=
  ⟨every.root.mono weaken, fun anchor member => (every.anchors anchor member).mono weaken⟩

/-- The readings of all scalars in a node fit together. -/
abbrev Node.Sound : Node -> Prop :=
  Node.Every Scalar.Fits

abbrev Node.SoundItems : List Node -> Prop :=
  Node.EveryItem Scalar.Fits

abbrev Node.SoundEntries : List (Node × Node) -> Prop :=
  Node.EveryEntry Scalar.Fits

/-- The readings of all scalars in a document fit together. -/
abbrev Document.Sound : Document -> Prop :=
  Document.Every Scalar.Fits

end ApiServices
