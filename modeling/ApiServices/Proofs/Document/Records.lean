import ApiServices.Proofs.Document.Reading

namespace ApiServices
namespace Document

/-!
# Reading one document in two ways

An object that can be read as a value can also be read as a record, and what it says
as a value tells what the record holds.  The two ways do not follow the same aliases,
because a record skips the entries that are none of its fields; the record has then
more of them left.

Of a record only a feature is followed, such as one of its fields, which the entry of
one name sets and all others leave alone.  How the record is built does not matter
then, and neither does the order of the entries.
-/

open Reading

variable {document : Document}

/-! ## Names -/

/-- The text that a key is. -/
def nameOf? (document : Document) (key : Node) : Option Text :=
  match document.target? key with
  | some (.scalar readings) => readings.text
  | _ => none

/-- The node of the first entry that has a name. -/
def nodeNamed? (document : Document) (name : Text) (entries : List (Node × Node)) : Option Node :=
  (entries.find? fun entry => document.nameOf? entry.1 == some name).map Prod.snd

theorem nameOf?_of_textOf {node : Node} {left remaining : Nat} {name : Text}
    (read : Reads (document.textOf node) left name remaining) : document.nameOf? node = some name := by
  obtain ⟨target, middle, resolved, rest⟩ := reads_bind_iff.mp read
  unfold nameOf?
  rw [target?_of_resolve resolved]
  cases target with
  | scalar readings => exact (Reads.of_orRefuse rest).1
  | _ => exact absurd rest not_reads_refuse

/-! ## Features of records -/

section Records

variable {σ γ : Type} {depth : Nat} {feature : σ -> γ}

/-- What a field does to one feature of a record when the value of its entry is
known. -/
def Sets (document : Document) (depth : Nat) (feature : σ -> γ) (read : σ -> Node -> Reading σ)
    (node : Node) (value : Value) (change : γ -> γ) : Prop :=
  forall record left remaining, Reads (document.value depth node) left value remaining ->
    Exists fun filled => Reaches (read record node) left filled remaining ∧
      feature filled = change (feature record)

variable {fields : Fields σ} {wanted : Text} {set : Option Node -> Value -> γ}

/-- The feature of a record that the field of one name sets, and no other. -/
def featureOf (document : Document) (wanted : Text) (set : Option Node -> Value -> γ)
    (entries : List (Node × Node)) (members : List (Text × Value)) (absent : γ) : γ :=
  match members.lookup wanted with
  | some value => set (document.nodeNamed? wanted entries) value
  | none => absent

section Named

variable {entry : Node × Node} {rest : List (Node × Node)} {name : Text} {value : Value}
  {members : List (Text × Value)} {absent : γ}

theorem nodeNamed?_cons_self (named : document.nameOf? entry.1 = some name) :
    document.nodeNamed? name (entry :: rest) = some entry.2 := by
  unfold nodeNamed?
  rw [List.find?_cons, named, beq_self_eq_true]
  rfl

theorem nodeNamed?_cons_of_ne (named : document.nameOf? entry.1 = some name) (other : name ≠ wanted) :
    document.nodeNamed? wanted (entry :: rest) = document.nodeNamed? wanted rest := by
  have apart : (document.nameOf? entry.1 == some wanted) = false := by
    rw [named]
    exact beq_false_of_ne fun same => other (Option.some.inj same)
  unfold nodeNamed?
  rw [List.find?_cons, apart]

theorem every_of_nodeNamed? {test : Scalar -> Prop} {entries : List (Node × Node)} {node : Node}
    (inside : Node.EveryEntry test entries) (found : document.nodeNamed? name entries = some node) :
    node.Every test := by
  obtain ⟨entry, member, same⟩ := Option.map_eq_some_iff.mp found
  exact same ▸ (inside entry (List.mem_of_find?_eq_some member)).2

theorem featureOf_of_notMem {entries : List (Node × Node)} (missing : wanted ∉ members.map Prod.fst) :
    document.featureOf wanted set entries members absent = absent := by
  have none : members.lookup wanted = none := by
    rw [List.lookup_eq_none_iff]
    intro member inside
    exact bne_iff_ne.mpr fun same => missing (same ▸ List.mem_map_of_mem inside)
  unfold featureOf
  rw [none]

theorem featureOf_cons_of_ne (named : document.nameOf? entry.1 = some name) (other : name ≠ wanted) :
    document.featureOf wanted set (entry :: rest) ((name, value) :: members) absent =
      document.featureOf wanted set rest members absent := by
  unfold featureOf
  rw [nodeNamed?_cons_of_ne named other, List.lookup_cons, beq_false_of_ne (Ne.symm other)]

/-- An entry whose name does not come again changes the feature or leaves it alone. -/
theorem featureOf_cons (named : document.nameOf? entry.1 = some name)
    (single : name ∉ members.map Prod.fst) :
    document.featureOf wanted set (entry :: rest) ((name, value) :: members) absent =
      document.featureOf wanted set rest members
        (if name = wanted then set (some entry.2) value else absent) := by
  by_cases here : name = wanted
  · subst here
    rw [featureOf_of_notMem single, if_pos rfl]
    unfold featureOf
    rw [nodeNamed?_cons_self named, List.lookup_cons, beq_self_eq_true]
  · rw [featureOf_cons_of_ne named here, if_neg here]

end Named

/-- Every field among the entries of an object sets a feature as its node and its
value say. -/
def AllSet (document : Document) (depth : Nat) (feature : σ -> γ) (fields : Fields σ)
    (wanted : Text) (set : Option Node -> Value -> γ) (entries : List (Node × Node))
    (members : List (Text × Value)) : Prop :=
  forall name read node value, fields.lookup name = some read ->
    document.nodeNamed? name entries = some node -> (name, value) ∈ members ->
      Sets document depth feature read node value fun kept =>
        if name = wanted then set (some node) value else kept

/-- No field occurs twice, among the entries and those already seen together.
Entries that are no fields may be repeated. -/
def Unrepeated (fields : Fields σ) (seen : List Text) (members : List (Text × Value)) : Prop :=
  forall name, (fields.lookup name).isSome ->
    seen.count name + (members.map Prod.fst).count name ≤ 1

namespace Unrepeated

variable {seen : List Text} {name : Text} {value : Value} {members : List (Text × Value)}

theorem skip (unrepeated : Unrepeated fields seen ((name, value) :: members)) :
    Unrepeated fields seen members := by
  intro field known
  have bound := unrepeated field known
  rw [List.map_cons, List.count_cons] at bound
  omega

theorem take (unrepeated : Unrepeated fields seen ((name, value) :: members)) :
    Unrepeated fields (name :: seen) members := by
  intro field known
  have bound := unrepeated field known
  rw [List.map_cons, List.count_cons] at bound
  rw [List.count_cons]
  dsimp only at bound
  omega

theorem unmet (unrepeated : Unrepeated fields seen ((name, value) :: members))
    (known : (fields.lookup name).isSome) : ¬seen.contains name = true := by
  intro met
  have counted := List.count_pos_iff.mpr (List.contains_iff_mem.mp met)
  have bound := unrepeated name known
  rw [List.map_cons, List.count_cons_self] at bound
  omega

theorem single (unrepeated : Unrepeated fields seen ((name, value) :: members))
    (known : (fields.lookup name).isSome) : name ∉ members.map Prod.fst := by
  intro again
  have counted := List.count_pos_iff.mpr again
  have bound := unrepeated name known
  rw [List.map_cons, List.count_cons_self] at bound
  omega

end Unrepeated

theorem AllSet.tail {entry : Node × Node} {rest : List (Node × Node)} {name : Text} {value : Value}
    {members : List (Text × Value)} {seen : List Text}
    (sets : AllSet document depth feature fields wanted set (entry :: rest) ((name, value) :: members))
    (named : document.nameOf? entry.1 = some name)
    (unrepeated : Unrepeated fields seen ((name, value) :: members)) :
    AllSet document depth feature fields wanted set rest members := by
  intro other read node value field found given
  have apart : name ≠ other := by
    intro same
    have known : (fields.lookup name).isSome := same ▸ field ▸ rfl
    exact unrepeated.single known (same ▸ List.mem_map_of_mem given)
  refine sets other read node value field ?_ (List.mem_cons_of_mem _ given)
  rw [nodeNamed?_cons_of_ne named apart, found]

/-! ## Entries -/

/-- The first entry of an object with text keys, and the others. -/
theorem reads_mapM_valuePair_cons {entry : Node × Node} {rest : List (Node × Node)}
    {members : List (Text × Value)} {left remaining : Nat}
    (read : Reads ((entry :: rest).mapM (document.valuePair depth)) left
      (members.map fun member => (.text member.1, member.2)) remaining) :
    Exists fun name => Exists fun value => Exists fun others => Exists fun middle =>
      members = (name, value) :: others ∧
        Reads (document.valuePair depth entry) left (.text name, value) middle ∧
          Reads (rest.mapM (document.valuePair depth)) middle
            (others.map fun member => (.text member.1, member.2)) remaining := by
  obtain ⟨pair, pairs, middle, split, one, later⟩ := reads_mapM_cons read
  obtain ⟨⟨name, value⟩, others, same, pairIs, pairsAre⟩ := List.map_eq_cons_iff.mp split
  exact ⟨name, value, others, middle, same, pairIs ▸ one, pairsAre ▸ later⟩

/-- An entry that is read as a pair of values is read as a name and its value, with
no fewer aliases left. -/
theorem reads_entry (sound : document.Sound) {key node : Node} {name : Text} {value : Value}
    {left middle more : Nat} (soundKey : key.Sound)
    (read : Reads (document.valuePair depth (key, node)) left (.text name, value) middle)
    (enough : left ≤ more) :
    Exists fun afterKey => Reads (document.textOf key) more name afterKey ∧ middle ≤ afterKey ∧
      node.isComplete = true ∧ Reaches (document.value depth node) afterKey value middle := by
  obtain ⟨keyValue, between, keyRead, rest⟩ := reads_bind_iff.mp read
  obtain ⟨nodeValue, after, valueRead, ending⟩ := reads_bind_iff.mp rest
  obtain ⟨same, kept⟩ := Reads.eq_of_pure ending
  cases same
  rw [kept]
  obtain ⟨afterKey, saved, keyRead⟩ := (steady_value depth key).reaches keyRead enough
  exact ⟨afterKey, reads_textOf_of_value sound soundKey keyRead,
    Nat.le_trans ((steady_value depth node).spends valueRead) saved,
    isComplete_of_value valueRead, (steady_value depth node).reaches valueRead saved⟩

/-- A map that is read as an object with text keys is read as a record, and a
feature that one field sets is what the entry of this field says. -/
theorem reads_recordEntries (sound : document.Sound) {entries : List (Node × Node)}
    {members : List (Text × Value)} {left remaining more : Nat}
    (read : Reads (entries.mapM (document.valuePair depth)) left
      (members.map fun member => (.text member.1, member.2)) remaining)
    (enough : left ≤ more) (inside : Node.SoundEntries entries)
    (sets : AllSet document depth feature fields wanted set entries members)
    (isField : (fields.lookup wanted).isSome) {seen : List Text}
    (unrepeated : Unrepeated fields seen members) (record : σ) :
    Exists fun filled => Reaches (document.recordEntries fields seen record entries) more filled remaining ∧
      feature filled = document.featureOf wanted set entries members (feature record) := by
  induction entries generalizing members left more seen record with
  | nil =>
    obtain ⟨none, kept⟩ := Reads.eq_of_pure read
    rw [kept, List.map_eq_nil_iff.mp none]
    exact ⟨record, ⟨more, enough, reads_pure record more⟩, rfl⟩
  | cons entry rest ih =>
    obtain ⟨key, node⟩ := entry
    obtain ⟨name, value, members, middle, same, one, later⟩ := reads_mapM_valuePair_cons read
    rw [same] at sets unrepeated ⊢
    obtain ⟨⟨soundKey, _⟩, inside⟩ := List.forall_mem_cons.mp inside
    obtain ⟨afterKey, keyRead, saved, complete, moreAfter, savedValue, valueRead⟩ :=
      reads_entry sound soundKey one enough
    have named := nameOf?_of_textOf keyRead
    have setsRest := AllSet.tail sets named unrepeated
    cases field : fields.lookup name with
    | none =>
      -- an entry that is no field cannot be the wanted one, and is skipped
      have other : name ≠ wanted := by
        intro equal
        rw [← equal, field] at isField
        cases isField
      have skipped : Reads (skip node) afterKey () afterKey := by
        rw [skip, if_pos complete]
        exact reads_pure () afterKey
      obtain ⟨filled, ⟨final, kept, reading⟩, features⟩ :=
        ih later saved inside setsRest unrepeated.skip record
      rw [featureOf_cons_of_ne named other]
      refine ⟨filled, ⟨final, kept, keyRead.bind ?_⟩, features⟩
      rw [field]
      exact skipped.bind reading
    | some read =>
      have known : (fields.lookup name).isSome := field ▸ rfl
      obtain ⟨stored, ⟨afterSet, savedSet, setting⟩, changed⟩ :=
        sets name read node value field (nodeNamed?_cons_self named) List.mem_cons_self record
          afterKey moreAfter valueRead
      obtain ⟨filled, ⟨final, kept, reading⟩, features⟩ :=
        ih later (Nat.le_trans savedValue savedSet) inside setsRest unrepeated.take stored
      rw [featureOf_cons named (unrepeated.single known)]
      refine ⟨filled, ⟨final, kept, keyRead.bind ?_⟩, features.trans (congrArg _ changed)⟩
      rw [field]
      dsimp only
      rw [if_neg (unrepeated.unmet known)]
      exact setting.bind reading

/-- What an object with text keys has under a name is the value of the node that has
the name. -/
theorem exists_reads_nodeNamed? (sound : document.Sound) {entries : List (Node × Node)}
    {members : List (Text × Value)} {left remaining : Nat}
    (read : Reads (entries.mapM (document.valuePair depth)) left
      (members.map fun member => (.text member.1, member.2)) remaining)
    (inside : Node.SoundEntries entries) {value : Value} (given : members.lookup wanted = some value) :
    Exists fun node => Exists fun before => Exists fun after =>
      document.nodeNamed? wanted entries = some node ∧
        Reads (document.value depth node) before value after := by
  induction entries generalizing members left with
  | nil =>
    rw [List.map_eq_nil_iff.mp (Reads.eq_of_pure read).1] at given
    cases given
  | cons entry rest ih =>
    obtain ⟨key, node⟩ := entry
    obtain ⟨name, value, members, middle, same, one, later⟩ := reads_mapM_valuePair_cons read
    rw [same, List.lookup_cons] at given
    obtain ⟨⟨soundKey, _⟩, inside⟩ := List.forall_mem_cons.mp inside
    obtain ⟨afterKey, keyRead, _, _, after, _, valueRead⟩ :=
      reads_entry sound soundKey one (Nat.le_refl left)
    have named := nameOf?_of_textOf keyRead
    by_cases here : name = wanted
    · rw [here] at named given
      rw [beq_self_eq_true] at given
      rw [← Option.some.inj given]
      exact ⟨node, afterKey, after, nodeNamed?_cons_self named, valueRead⟩
    · rw [beq_false_of_ne (Ne.symm here)] at given
      rw [nodeNamed?_cons_of_ne named here]
      exact ih later inside given

/-- The entries of a node that is a map. -/
def entriesOf : Node -> List (Node × Node)
  | .map _ entries => entries
  | _ => []

theorem everyEntry_entriesOf {test : Scalar -> Prop} {node : Node} (inside : node.Every test) :
    Node.EveryEntry test (entriesOf node) := by
  cases inside with
  | map keys values => exact fun entry member => ⟨keys entry member, values entry member⟩
  | _ => exact fun _ impossible => nomatch impossible

/-- An object with text keys is read as a record. -/
theorem reads_record (sound : document.Sound) {node target : Node} {members : List (Text × Value)}
    {left middle remaining : Nat} (resolved : Reads (document.resolve node) left target middle)
    (read : ReadsAs document depth target middle (.ofFields members) remaining)
    (inside : target.Sound)
    (sets : AllSet document (depth - 1) feature fields wanted set (entriesOf target) members)
    (isField : (fields.lookup wanted).isSome) (unrepeated : Unrepeated fields [] members)
    (absent : σ) :
    Exists fun filled => Reaches (document.record fields absent node) left filled remaining ∧
      feature filled = document.featureOf wanted set (entriesOf target) members (feature absent) := by
  cases read with
  | scalar there =>
    cases inside with
    | scalar fits => cases fits.isCollection_eq_false there
  | map inner =>
    obtain ⟨filled, ⟨final, kept, reading⟩, features⟩ := reads_recordEntries sound inner
      (Nat.le_refl middle) (everyEntry_entriesOf inside) sets isField unrepeated absent
    exact ⟨filled, ⟨final, kept, resolved.bind reading⟩, features⟩

end Records

/-! ## Whole documents -/

/-- A document is read when its root is and nothing comes after it. -/
theorem outcome_read_eq_ok_iff {α : Type} {reading : Node -> Reading α} {result : α} :
    (document.read reading).outcome = .ok result ↔
      (Exists fun remaining => Reads (reading document.root) document.aliasLimit result remaining) ∧
        document.isWhole = true := by
  unfold read Reads
  rw [Logged.outcome_bind]
  change (((reading document.root) document.aliasLimit).outcome.bind _) = _ ↔ _
  cases ((reading document.root) document.aliasLimit).outcome with
  | error cause =>
    constructor
    · intro impossible
      cases impossible
    · rintro ⟨⟨_, impossible⟩, _⟩
      cases impossible
  | ok found =>
    obtain ⟨found, remaining⟩ := found
    change (if document.isWhole then pure found
      else Logged.fail Unreadable.unreadable : Logged _ α).outcome = _ ↔ _
    cases document.isWhole with
    | false => exact iff_of_false (fun impossible => nomatch impossible) fun whole => nomatch whole.2
    | true =>
      constructor
      · intro same
        cases same
        exact ⟨⟨remaining, rfl⟩, rfl⟩
      · rintro ⟨⟨_, same⟩, _⟩
        cases same
        rfl

/-- The entries of the map that a document is. -/
def rootEntries (document : Document) : List (Node × Node) :=
  ((document.target? document.root).map entriesOf).getD []

/-- Whether the field of a name says nothing. -/
def saysNothing (document : Document) (name : Text) : Bool :=
  (document.nodeNamed? name document.rootEntries).any document.isNothing

end Document
end ApiServices
