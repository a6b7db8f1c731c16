import ApiServices.Proofs.Document.Records
import ApiServices.Proofs.Keyed.Order
import Mathlib.Data.List.Basic

namespace ApiServices
namespace Document

/-!
# Where the fields of a record come from

A document that has been read as a record is followed back to its nodes here.  For
any of its fields the record either has what it had to begin with, or what one node
gave, and which node this is can be told from the document alone: the first one with
the name of the field, or in a list the one in its place.  What the other fields are,
and whether they are fields at all, plays no part.

In contrast to reading forwards nothing is assumed of the rest of the document, as it
is known that the reading has succeeded.
-/

open Reading

variable {document : Document} {σ γ : Type} {feature : σ -> γ} {fields : Fields σ} {wanted : Text}

/-- A reading of a field that leaves a feature of the record alone. -/
def Keeps (feature : σ -> γ) (read : σ -> Node -> Reading σ) : Prop :=
  forall record node left filled remaining, Reads (read record node) left filled remaining ->
    feature filled = feature record

/-- No field but one has to do with a feature. -/
def OthersKeep (feature : σ -> γ) (fields : Fields σ) (wanted : Text) : Prop :=
  ∀ field ∈ fields, field.1 ≠ wanted -> Keeps feature field.2

/-- A record has a feature from the start, or from the reading of a node. -/
def ComesFrom (feature : σ -> γ) (read : σ -> Node -> Reading σ) (node? : Option Node) (absent : γ)
    (filled : σ) : Prop :=
  feature filled = absent ∨
    Exists fun node => Exists fun kept => Exists fun stored => Exists fun left =>
      Exists fun remaining =>
        node? = some node ∧ Reads (read kept node) left stored remaining ∧
          feature filled = feature stored

section Records

variable {read : σ -> Node -> Reading σ} {left remaining : Nat} {record filled : σ}

/-! ## Records written as maps -/

section Maps

variable {seen : List Text} {key node : Node} {rest : List (Node × Node)}

/-- The first entry of a record is skipped, or it fills a field that is still empty. -/
theorem of_reads_recordEntries_cons
    (reads : Reads (document.recordEntries fields seen record ((key, node) :: rest)) left filled
      remaining) :
    Exists fun name => Exists fun middle => document.nameOf? key = some name ∧
      ((fields.lookup name = none ∧
          Reads (document.recordEntries fields seen record rest) middle filled remaining) ∨
        Exists fun set => Exists fun stored => Exists fun after =>
          fields.lookup name = some set ∧ name ∉ seen ∧ Reads (set record node) middle stored after ∧
            Reads (document.recordEntries fields (name :: seen) stored rest) after filled
              remaining) := by
  obtain ⟨name, middle, named, reads⟩ := reads_bind_iff.mp reads
  refine ⟨name, middle, nameOf?_of_textOf named, ?_⟩
  cases field : fields.lookup name with
  | none =>
    rw [field] at reads
    obtain ⟨_, after, skipped, reads⟩ := reads_bind_iff.mp reads
    left
    refine ⟨rfl, ?_⟩
    unfold skip at skipped
    split at skipped
    · exact (Reads.eq_of_pure skipped).2 ▸ reads
    · exact absurd skipped not_reads_refuse
  | some set =>
    rw [field] at reads
    dsimp only at reads
    split at reads
    · exact absurd reads not_reads_refuse
    · next fresh =>
      obtain ⟨stored, after, stores, reads⟩ := reads_bind_iff.mp reads
      exact Or.inr ⟨set, stored, after, rfl, fun met => fresh (List.contains_iff_mem.mpr met),
        stores, reads⟩

variable {entries : List (Node × Node)}

/-- A field that has been met is not filled again. -/
theorem feature_eq_of_mem_seen (others : OthersKeep feature fields wanted) (met : wanted ∈ seen)
    (reads : Reads (document.recordEntries fields seen record entries) left filled remaining) :
    feature filled = feature record := by
  induction entries generalizing seen record left with
  | nil => exact congrArg feature (Reads.eq_of_pure reads).1
  | cons entry rest ih =>
    obtain ⟨name, middle, _, ⟨_, reads⟩ | ⟨set, stored, after, field, fresh, stores, reads⟩⟩ :=
      of_reads_recordEntries_cons reads
    · exact ih met reads
    · have apart : name ≠ wanted := fun same => fresh (same ▸ met)
      have kept := others (name, set) (Keyed.mem_of_lookup field) apart _ _ _ _ _ stores
      exact (ih (List.mem_cons_of_mem name met) reads).trans kept

/-- In a map a field comes from the first entry with its name. -/
theorem comesFrom_recordEntries (field : fields.lookup wanted = some read)
    (others : OthersKeep feature fields wanted)
    (reads : Reads (document.recordEntries fields seen record entries) left filled remaining) :
    ComesFrom feature read (document.nodeNamed? wanted entries) (feature record) filled := by
  induction entries generalizing seen record left with
  | nil => exact Or.inl (congrArg feature (Reads.eq_of_pure reads).1)
  | cons entry rest ih =>
    obtain ⟨name, middle, named, ⟨missing, reads⟩ | ⟨set, stored, after, found, _, stores, reads⟩⟩ :=
      of_reads_recordEntries_cons reads
    · have apart : name ≠ wanted := by
        intro same
        rw [same, field] at missing
        cases missing
      rw [nodeNamed?_cons_of_ne named apart]
      exact ih reads
    · by_cases here : name = wanted
      · rw [here] at named found reads
        rw [field] at found
        rw [nodeNamed?_cons_self named]
        rw [← Option.some.inj found] at stores
        -- the entries behind this one cannot fill the field again
        exact Or.inr ⟨entry.2, record, stored, middle, after, rfl, stores,
          feature_eq_of_mem_seen others List.mem_cons_self reads⟩
      · rw [nodeNamed?_cons_of_ne named here,
          ← others (name, set) (Keyed.mem_of_lookup found) here _ _ _ _ _ stores]
        exact ih reads

end Maps

/-! ## Records written as lists -/

section Lists

variable {items : List Node}

theorem feature_eq_of_recordItems (others : ∀ field ∈ fields, Keeps feature field.2)
    (reads : Reads (recordItems record fields items) left filled remaining) :
    feature filled = feature record := by
  induction fields generalizing items record left with
  | nil =>
    cases items with
    | nil => exact congrArg feature (Reads.eq_of_pure reads).1
    | cons node rest => exact absurd reads not_reads_refuse
  | cons field fields ih =>
    obtain ⟨first, later⟩ := List.forall_mem_cons.mp others
    cases items with
    | nil => exact congrArg feature (Reads.eq_of_pure reads).1
    | cons node rest =>
      obtain ⟨stored, middle, stores, reads⟩ := reads_bind_iff.mp reads
      exact (ih later reads).trans (first _ _ _ _ _ stores)

/-- In a list a field comes from the item in its place. -/
theorem comesFrom_recordItems (distinct : (fields.map Prod.fst).Nodup)
    (field : (wanted, read) ∈ fields) (others : OthersKeep feature fields wanted)
    (reads : Reads (recordItems record fields items) left filled remaining) :
    ComesFrom feature read items[(fields.map Prod.fst).idxOf wanted]? (feature record) filled := by
  induction fields generalizing items record left with
  | nil => cases field
  | cons first fields ih =>
    obtain ⟨name, set⟩ := first
    obtain ⟨absent, distinct⟩ := List.nodup_cons.mp distinct
    obtain ⟨here, later⟩ := List.forall_mem_cons.mp others
    cases items with
    | nil => exact Or.inl (congrArg feature (Reads.eq_of_pure reads).1)
    | cons node rest =>
      obtain ⟨stored, middle, stores, onward⟩ := reads_bind_iff.mp reads
      rcases List.mem_cons.mp field with same | field
      · obtain ⟨rfl, rfl⟩ := Prod.mk.inj same
        have keeps : ∀ field ∈ fields, Keeps feature field.2 := fun field member =>
          later field member fun same => absent (List.mem_map.mpr ⟨field, member, same⟩)
        rw [List.map_cons, List.idxOf_cons_self]
        exact Or.inr ⟨node, record, stored, left, middle, rfl, stores,
          feature_eq_of_recordItems keeps onward⟩
      · have apart : name ≠ wanted := fun same =>
          absent (List.mem_map.mpr ⟨(wanted, read), field, same.symm⟩)
        rw [List.map_cons, List.idxOf_cons_ne _ apart, List.getElem?_cons_succ,
          ← here apart _ _ _ _ _ stores]
        exact ih distinct field later onward

end Lists

/-- The node of a field in the map or the list that a record is written as. -/
def fieldNode? (document : Document) (names : List Text) (name : Text) : Node -> Option Node
  | .map _ entries => document.nodeNamed? name entries
  | .list _ items => items[names.idxOf name]?
  | _ => none

/-- A field of a record comes from its node. -/
theorem comesFrom_record {absent : σ} {node : Node} (distinct : (fields.map Prod.fst).Nodup)
    (field : (wanted, read) ∈ fields) (others : OthersKeep feature fields wanted)
    (reads : Reads (document.record fields absent node) left filled remaining) :
    Exists fun target => document.target? node = some target ∧
      ComesFrom feature read (document.fieldNode? (fields.map Prod.fst) wanted target)
        (feature absent) filled := by
  obtain ⟨target, middle, resolved, reads⟩ := reads_bind_iff.mp reads
  refine ⟨target, target?_of_resolve resolved, ?_⟩
  cases target with
  | map marked entries =>
    exact comesFrom_recordEntries (Keyed.lookup_of_mem distinct field) others reads
  | list marked items =>
    dsimp only at reads
    split at reads
    · exact comesFrom_recordItems distinct field others reads
    · exact absurd reads not_reads_refuse
  | scalar readings =>
    dsimp only at reads
    split at reads
    · exact Or.inl (congrArg feature (Reads.eq_of_pure reads).1)
    · exact absurd reads not_reads_refuse
  | _ => exact absurd reads not_reads_refuse

end Records

/-! ## What a document gives -/

/-- A document gives a value under the name of a field, if the node of the field is
read as this value. -/
def Gives (document : Document) (names : List Text) (name : Text) (value : Value) : Prop :=
  Exists fun root => Exists fun node => Exists fun target => Exists fun left =>
    Exists fun remaining =>
      document.target? document.root = some root ∧
        document.fieldNode? names name root = some node ∧ document.target? node = some target ∧
          Reads (document.value (document.depthLimit - 1) target) left value remaining

/-- A document gives one value under a name. -/
theorem Gives.unique {names : List Text} {name : Text} {value other : Value}
    (gives : document.Gives names name value) (also : document.Gives names name other) :
    value = other := by
  obtain ⟨root, node, target, left, remaining, isRoot, isNode, isTarget, read⟩ := gives
  obtain ⟨root', node', target', more, remaining', isRoot', isNode', isTarget', read'⟩ := also
  rw [isRoot] at isRoot'
  cases isRoot'
  rw [isNode] at isNode'
  cases isNode'
  rw [isTarget] at isTarget'
  cases isTarget'
  have steady : Steady (document.value (document.depthLimit - 1) target) := steady_value _ target
  rcases Nat.le_total left more with fewer | fewer
  · obtain ⟨_, _, again⟩ := steady.reaches read fewer
    exact (Prod.mk.inj (Except.ok.inj (again.symm.trans read'))).1
  · obtain ⟨_, _, again⟩ := steady.reaches read' fewer
    exact (Prod.mk.inj (Except.ok.inj (read.symm.trans again))).1

/-- A document that is an object gives the values of the object. -/
theorem gives_of_read (sound : document.Sound) {names : List Text} {name : Text} {value : Value}
    {members : List (Text × Value)}
    (read : (document.read (document.value document.depthLimit)).outcome = .ok (.ofFields members))
    (given : members.lookup name = some value) : document.Gives names name value := by
  obtain ⟨⟨remaining, read⟩, _⟩ := outcome_read_eq_ok_iff.mp read
  obtain ⟨root, middle, resolved, direct⟩ := readsAs_of_value read
  have isRoot := target?_of_resolve resolved
  have inside := sound.target sound.root isRoot
  unfold Gives
  -- the depth has to be a variable before the cases
  generalize document.depthLimit = depth at direct
  cases direct with
  | scalar there =>
    cases inside with
    | scalar fits => cases fits.isCollection_eq_false there
  | @map inner _ _ entries _ pairs =>
    obtain ⟨node, before, after, isNode, nodeRead⟩ :=
      exists_reads_nodeNamed? sound pairs (everyEntry_entriesOf inside) given
    obtain ⟨target, left, isTarget, targetRead⟩ := readsAs_of_value nodeRead
    exact ⟨.map false entries, node, target, left, after, isRoot, isNode,
      target?_of_resolve isTarget, targetRead.reads⟩

end Document
end ApiServices
