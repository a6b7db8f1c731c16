import ApiServices.Proofs.Document.Soundness
import ApiServices.Proofs.Keyed.Insertion

namespace ApiServices

/-!
# Reading nodes

What a node is read as in one way tells what it is read as in others: a text by
value is read as a text, a scalar by value as a plain value, and a null where there
may be nothing as nothing, if it is one.  This is where a document has to be sound.

Aliases may be followed so many times and no more, so a reading is stated with how
often before it and after it.  When more may be followed a reading reads the same.
Only what is read is stated; the log that is left on the way is not.
-/

namespace Reading

variable {α β : Type}

/-- A reading succeeds with a result; `left` and `remaining` are how often
aliases may be followed before and after it. -/
def Reads (reading : Reading α) (left : Nat) (result : α) (remaining : Nat) : Prop :=
  (reading left).outcome = .ok (result, remaining)

theorem reads_pure (a : α) (left : Nat) : Reads (pure a) left a left := rfl

theorem reads_bind_iff {reading : Reading α} {next : α -> Reading β} {left remaining : Nat}
    {result : β} :
    Reads (reading >>= next) left result remaining ↔
      Exists fun a => Exists fun middle =>
        Reads reading left a middle ∧ Reads (next a) middle result remaining := by
  unfold Reads
  change (reading left >>= fun found => next found.1 found.2).outcome = _ ↔ _
  rw [Logged.outcome_bind]
  cases (reading left).outcome with
  | error cause =>
    constructor
    · intro impossible
      cases impossible
    · rintro ⟨_, _, impossible, _⟩
      cases impossible
  | ok found =>
    constructor
    · intro read
      exact ⟨found.1, found.2, rfl, read⟩
    · rintro ⟨_, _, same, read⟩
      cases same
      exact read

theorem Reads.bind {reading : Reading α} {next : α -> Reading β} {left middle remaining : Nat}
    {a : α} {result : β} (first : Reads reading left a middle)
    (later : Reads (next a) middle result remaining) :
    Reads (reading >>= next) left result remaining :=
  reads_bind_iff.mpr ⟨a, middle, first, later⟩

theorem Reads.eq_of_pure {a result : α} {left remaining : Nat}
    (read : Reads (pure a) left result remaining) : result = a ∧ remaining = left := by
  cases read
  exact ⟨rfl, rfl⟩

theorem not_reads_refuse {left remaining : Nat} {result : α} :
    ¬Reads (refuse : Reading α) left result remaining :=
  fun impossible => nomatch impossible

theorem Reads.of_orRefuse {found : Option α} {result : α} {left remaining : Nat}
    (read : Reads (orRefuse found) left result remaining) :
    found = some result ∧ remaining = left := by
  cases found with
  | none => cases read
  | some a =>
    obtain ⟨same, kept⟩ := Reads.eq_of_pure read
    exact ⟨congrArg some same.symm, kept⟩

theorem reads_orRefuse {found : Option α} {result : α} (left : Nat) (there : found = some result) :
    Reads (orRefuse found) left result left := by
  rw [there]
  exact reads_pure result left

/-- A computation that is known to succeed may stand in a reading. -/
theorem reads_log {computation : Logged Unreadable α} {a : α} (left : Nat)
    (computed : computation.outcome = .ok a) : Reads (log computation) left a left := by
  unfold Reads log
  rw [Logged.outcome_bind, computed]
  rfl

theorem Reads.of_log {computation : Logged Unreadable α} {a : α} {left remaining : Nat}
    (read : Reads (log computation) left a remaining) : computation.outcome = .ok a := by
  unfold Reads log at read
  rw [Logged.outcome_bind] at read
  cases found : computation.outcome with
  | error cause =>
    rw [found] at read
    cases read
  | ok b =>
    rw [found] at read
    cases read
    rfl

theorem reads_mapM_cons {read : α -> Reading β} {first : α} {rest : List α} {results : List β}
    {left remaining : Nat} (reads : Reads ((first :: rest).mapM read) left results remaining) :
    Exists fun result => Exists fun others => Exists fun middle =>
      results = result :: others ∧ Reads (read first) left result middle ∧
        Reads (rest.mapM read) middle others remaining := by
  rw [List.mapM_cons] at reads
  obtain ⟨result, middle, one, reads⟩ := reads_bind_iff.mp reads
  obtain ⟨others, final, more, ending⟩ := reads_bind_iff.mp reads
  obtain ⟨same, kept⟩ := Reads.eq_of_pure ending
  exact ⟨result, others, middle, same, one, kept ▸ more⟩

/-! ## More aliases than needed -/

/-- A reading succeeds with a result and may follow at least so many aliases
afterwards. -/
def Reaches (reading : Reading α) (left : Nat) (result : α) (remaining : Nat) : Prop :=
  Exists fun rest => remaining ≤ rest ∧ Reads reading left result rest

theorem Reads.reaches {reading : Reading α} {left remaining : Nat} {result : α}
    (read : Reads reading left result remaining) : Reaches reading left result remaining :=
  ⟨remaining, Nat.le_refl _, read⟩

/-- A reading that uses up aliases and gives none, and that reads the same, with no
fewer of them left, when more may be followed. -/
structure Steady (reading : Reading α) : Prop where
  spends : forall {left remaining result}, Reads reading left result remaining -> remaining ≤ left
  reaches : forall {left remaining result more}, Reads reading left result remaining ->
    left ≤ more -> Reaches reading more result remaining

theorem steady_pure (a : α) : Steady (pure a : Reading α) where
  spends read := Nat.le_of_eq (Reads.eq_of_pure read).2
  reaches {_ _ _ more} read enough := by
    obtain ⟨same, kept⟩ := Reads.eq_of_pure read
    rw [same, kept]
    exact ⟨more, enough, reads_pure a more⟩

theorem steady_refuse : Steady (refuse : Reading α) where
  spends read := absurd read not_reads_refuse
  reaches read := absurd read not_reads_refuse

theorem steady_orRefuse (found : Option α) : Steady (orRefuse found) := by
  cases found with
  | none => exact steady_refuse
  | some a => exact steady_pure a

theorem Steady.bind {reading : Reading α} {next : α -> Reading β} (first : Steady reading)
    (later : forall a, Steady (next a)) : Steady (reading >>= next) where
  spends read := by
    obtain ⟨a, middle, begun, ended⟩ := reads_bind_iff.mp read
    exact Nat.le_trans ((later a).spends ended) (first.spends begun)
  reaches read enough := by
    obtain ⟨a, middle, begun, ended⟩ := reads_bind_iff.mp read
    obtain ⟨between, atLeast, begun⟩ := first.reaches begun enough
    obtain ⟨rest, saved, ended⟩ := (later a).reaches ended atLeast
    exact ⟨rest, saved, begun.bind ended⟩

theorem steady_mapM {read : α -> Reading β} (steady : forall a, Steady (read a)) (items : List α) :
    Steady (items.mapM read) := by
  induction items with
  | nil => exact steady_pure []
  | cons first rest ih =>
    rw [List.mapM_cons]
    exact (steady first).bind fun _ => ih.bind fun _ => steady_pure _

end Reading

namespace Document

open Reading

variable {document : Document}

/-! ## Values -/

/-- The node that a node stands for. -/
def target? (document : Document) : Node -> Option Node
  | .alias anchor => document.anchors.lookup anchor
  | node => some node

/-- Resolving an alias spends one of the aliases that are left. -/
theorem Reads.of_resolve_alias {anchor : Nat} {target : Node} {left middle : Nat}
    (read : Reads (document.resolve (.alias anchor)) left target middle) :
    document.anchors.lookup anchor = some target ∧ left = middle + 1 := by
  cases left with
  | zero => cases read
  | succ left =>
    have found : Reads (orRefuse (document.anchors.lookup anchor)) left target middle := read
    obtain ⟨there, kept⟩ := Reads.of_orRefuse found
    exact ⟨there, congrArg Nat.succ kept.symm⟩

theorem reads_resolve_alias {anchor : Nat} {target : Node} (left : Nat)
    (found : document.anchors.lookup anchor = some target) :
    Reads (document.resolve (.alias anchor)) (left + 1) target left :=
  reads_orRefuse left found

theorem target?_of_resolve {node target : Node} {left middle : Nat}
    (read : Reads (document.resolve node) left target middle) :
    document.target? node = some target := by
  cases node with
  | «alias» anchor => exact (Reads.of_resolve_alias read).1
  | _ => exact congrArg some (Reads.eq_of_pure read).1.symm

theorem eq_or_alias_of_resolve {node target : Node} {left middle : Nat}
    (read : Reads (document.resolve node) left target middle) :
    node = target ∨ Exists fun anchor => node = .alias anchor := by
  cases node with
  | «alias» anchor => exact Or.inr ⟨anchor, rfl⟩
  | _ => exact Or.inl (Reads.eq_of_pure read).1.symm

theorem Every.target {test : Scalar -> Prop} (every : document.Every test) {node target : Node}
    (inside : node.Every test) (found : document.target? node = some target) : target.Every test := by
  cases node with
  | «alias» anchor => exact every.anchors (anchor, target) (Keyed.mem_of_lookup found)
  | _ => exact Option.some.inj found ▸ inside

theorem steady_resolve (node : Node) : Steady (document.resolve node) := by
  cases node with
  | «alias» anchor =>
    constructor
    · intro left remaining target read
      rw [(Reads.of_resolve_alias read).2]
      exact Nat.le_succ remaining
    · intro left remaining target more read enough
      obtain ⟨found, spent⟩ := Reads.of_resolve_alias read
      obtain ⟨extra, rfl⟩ := Nat.exists_eq_add_of_le enough
      rw [spent, Nat.add_right_comm]
      exact ⟨remaining + extra, Nat.le_add_right remaining extra, reads_resolve_alias _ found⟩
  | _ => exact steady_pure _

/-- An entry of a map as a pair of values. -/
def valuePair (document : Document) (depth : Nat) (entry : Node × Node) : Reading (Value × Value) := do
  return (← document.value depth entry.1, ← document.value depth entry.2)

/-- How a node that is no alias is read as a value. -/
inductive ReadsAs (document : Document) : Nat -> Node -> Nat -> Value -> Nat -> Prop
  | scalar {depth left : Nat} {readings : Scalar} {value : Value}
    (there : readings.value = some value) : ReadsAs document depth (.scalar readings) left value left
  | list {depth left remaining : Nat} {items : List Node} {values : List Value}
    (inner : Reads (items.mapM (document.value depth)) left values remaining) :
    ReadsAs document (depth + 1) (.list false items) left (.list values) remaining
  | map {depth left remaining : Nat} {entries : List (Node × Node)} {pairs : List (Value × Value)}
    (inner : Reads (entries.mapM (document.valuePair depth)) left pairs remaining) :
    ReadsAs document (depth + 1) (.map false entries) left (.map pairs) remaining

theorem ReadsAs.reads {depth left remaining : Nat} {target : Node} {value : Value}
    (read : ReadsAs document depth target left value remaining) :
    Reads (document.value depth target) left value remaining := by
  cases read with
  | scalar there =>
    cases depth <;> exact (reads_pure _ left).bind (reads_orRefuse left there)
  | list inner => exact (reads_pure _ left).bind (inner.bind (reads_pure _ remaining))
  | map inner => exact (reads_pure _ left).bind (inner.bind (reads_pure _ remaining))

/-- A node that is read as a value stands for a scalar or a collection. -/
theorem readsAs_of_value {depth left remaining : Nat} {node : Node} {value : Value}
    (read : Reads (document.value depth node) left value remaining) :
    Exists fun target => Exists fun middle => Reads (document.resolve node) left target middle ∧
      ReadsAs document depth target middle value remaining := by
  cases depth with
  | zero =>
    obtain ⟨target, middle, resolved, rest⟩ := reads_bind_iff.mp read
    refine ⟨target, middle, resolved, ?_⟩
    cases target with
    | scalar readings =>
      obtain ⟨there, kept⟩ := Reads.of_orRefuse rest
      exact kept ▸ .scalar there
    | list marked items => cases marked <;> exact absurd rest not_reads_refuse
    | map marked entries => cases marked <;> exact absurd rest not_reads_refuse
    | _ => exact absurd rest not_reads_refuse
  | succ inner =>
    obtain ⟨target, middle, resolved, rest⟩ := reads_bind_iff.mp read
    refine ⟨target, middle, resolved, ?_⟩
    cases target with
    | scalar readings =>
      obtain ⟨there, kept⟩ := Reads.of_orRefuse rest
      exact kept ▸ .scalar there
    | list marked items =>
      cases marked with
      | true => exact absurd rest not_reads_refuse
      | false =>
        obtain ⟨values, final, items, ending⟩ := reads_bind_iff.mp rest
        obtain ⟨same, kept⟩ := Reads.eq_of_pure ending
        rw [same, kept]
        exact .list items
    | map marked entries =>
      cases marked with
      | true => exact absurd rest not_reads_refuse
      | false =>
        obtain ⟨pairs, final, entries, ending⟩ := reads_bind_iff.mp rest
        obtain ⟨same, kept⟩ := Reads.eq_of_pure ending
        rw [same, kept]
        exact .map entries
    | _ => exact absurd rest not_reads_refuse

theorem steady_valueWith {inside : Option ((Node -> Reading Value) × (Node -> Reading Value))}
    (steady : ∀ readers ∈ inside,
      (forall node, Steady (readers.1 node)) ∧ forall node, Steady (readers.2 node))
    (node : Node) : Steady (document.valueWith inside node) := by
  refine (steady_resolve node).bind fun target => ?_
  split
  · exact steady_orRefuse _
  · next key item =>
    obtain ⟨_, items⟩ := steady (key, item) rfl
    exact (steady_mapM items _).bind fun _ => steady_pure _
  · next key item =>
    obtain ⟨keys, items⟩ := steady (key, item) rfl
    refine Steady.bind (steady_mapM (fun entry => ?_) _) fun _ => steady_pure _
    exact (keys entry.1).bind fun _ => (items entry.2).bind fun _ => steady_pure _
  · exact steady_refuse

theorem steady_value (depth : Nat) (node : Node) : Steady (document.value depth node) := by
  induction depth generalizing node with
  | zero => exact steady_valueWith (fun _ impossible => absurd impossible (Option.not_mem_none _)) node
  | succ depth ih =>
    refine steady_valueWith ?_ node
    intro readers same
    rw [← Option.some.inj same]
    exact ⟨ih, ih⟩

/-! ## What else can be read -/

theorem exists_reads_of_mapM {α β : Type} {read : α -> Reading β} {items : List α} {results : List β}
    {left remaining : Nat} (reads : Reads (items.mapM read) left results remaining) :
    ∀ item ∈ items, Exists fun before => Exists fun result => Exists fun after =>
      Reads (read item) before result after := by
  induction items generalizing results left with
  | nil => exact fun _ impossible => nomatch impossible
  | cons first rest ih =>
    obtain ⟨result, others, middle, _, one, more⟩ := reads_mapM_cons reads
    exact List.forall_mem_cons.mpr ⟨⟨left, result, middle, one⟩, ih more⟩

theorem areComplete_of_forall {items : List Node} (complete : ∀ item ∈ items, item.isComplete = true) :
    Node.areComplete items = true := by
  induction items with
  | nil => rfl
  | cons first rest ih =>
    obtain ⟨one, others⟩ := List.forall_mem_cons.mp complete
    exact Bool.and_eq_true_iff.mpr ⟨one, ih others⟩

theorem entriesComplete_of_forall {entries : List (Node × Node)}
    (complete : ∀ entry ∈ entries, entry.1.isComplete = true ∧ entry.2.isComplete = true) :
    Node.entriesComplete entries = true := by
  induction entries with
  | nil => rfl
  | cons first rest ih =>
    obtain ⟨⟨key, value⟩, others⟩ := List.forall_mem_cons.mp complete
    exact Bool.and_eq_true_iff.mpr ⟨Bool.and_eq_true_iff.mpr ⟨key, value⟩, ih others⟩

/-- A node that is read as a value is complete. -/
theorem isComplete_of_value {depth left remaining : Nat} {node : Node} {value : Value}
    (read : Reads (document.value depth node) left value remaining) : node.isComplete = true := by
  induction depth generalizing node left value remaining with
  | zero =>
    obtain ⟨target, middle, resolved, direct⟩ := readsAs_of_value read
    rcases eq_or_alias_of_resolve resolved with same | ⟨anchor, same⟩
    · rw [same]
      cases direct
      rfl
    · rw [same]
      rfl
  | succ depth ih =>
    obtain ⟨target, middle, resolved, direct⟩ := readsAs_of_value read
    rcases eq_or_alias_of_resolve resolved with same | ⟨anchor, same⟩
    · rw [same]
      cases direct with
      | scalar there => rfl
      | list inner =>
        apply areComplete_of_forall
        intro item member
        obtain ⟨_, _, _, one⟩ := exists_reads_of_mapM inner item member
        exact ih one
      | map inner =>
        apply entriesComplete_of_forall
        intro entry member
        obtain ⟨_, _, _, pair⟩ := exists_reads_of_mapM inner entry member
        obtain ⟨_, _, key, rest⟩ := reads_bind_iff.mp pair
        obtain ⟨_, _, value, _⟩ := reads_bind_iff.mp rest
        exact ⟨ih key, ih value⟩
    · rw [same]
      rfl

/-- A text by value is the text where one is wanted. -/
theorem reads_textOf_of_value (sound : document.Sound) {depth left remaining : Nat} {node : Node}
    {t : Text} (inside : node.Sound) (read : Reads (document.value depth node) left (.text t) remaining) :
    Reads (document.textOf node) left t remaining := by
  obtain ⟨target, middle, resolved, direct⟩ := readsAs_of_value read
  refine resolved.bind ?_
  cases direct with
  | scalar there =>
    cases sound.target inside (target?_of_resolve resolved) with
    | scalar fits => exact reads_orRefuse _ (fits.text there)

/-- A scalar by value is read so whatever the keys of maps may be. -/
theorem ReadsAs.reads_plainValue {depth left remaining : Nat} {target : Node} {value : Value}
    (read : ReadsAs document depth target left value remaining) (scalar : value.isCollection = false) :
    Reads (document.plainValue depth target) left value remaining := by
  cases read with
  | scalar there => cases depth <;> exact (reads_pure _ left).bind (reads_orRefuse left there)
  | list _ => cases scalar
  | map _ => cases scalar

theorem ReadsAs.resolves {depth left remaining : Nat} {target : Node} {value : Value}
    (read : ReadsAs document depth target left value remaining) :
    Reads (document.resolve target) left target left := by
  cases read <;> exact reads_pure _ left

/-! ## Fields that may say nothing -/

/-- Whether a node is a scalar that says nothing where nothing may be said. -/
def isNothing (document : Document) (node : Node) : Bool :=
  match document.target? node with
  | some (.scalar readings) => readings.present == some false
  | _ => false

/-- Where there may be nothing, a node with a value is a null that says nothing, or
something with that value. -/
theorem reads_optional_of_value (sound : document.Sound) {depth left remaining : Nat} {node : Node}
    {value : Value} (inside : node.Sound)
    (read : Reads (document.value depth node) left value remaining) :
    (document.isNothing node = true ∧ value = .null ∧
        Reads (document.optional node) left none remaining) ∨
      (document.isNothing node = false ∧ Exists fun target => Exists fun middle =>
        target.Sound ∧ Reads (document.optional node) left (some target) middle ∧
          ReadsAs document depth target middle value remaining) := by
  obtain ⟨target, middle, resolved, direct⟩ := readsAs_of_value read
  have found := target?_of_resolve resolved
  have soundTarget := sound.target inside found
  unfold isNothing
  rw [found]
  cases direct with
  | @scalar _ _ readings _ there =>
    cases soundTarget with
    | scalar fits =>
      have chosen : forall present, readings.present = some present ->
          Reads (document.optional node) left (if present then some (.scalar readings) else none)
            remaining :=
        fun present known => resolved.bind ((reads_orRefuse remaining known).bind (reads_pure _ _))
      rcases fits.present_cases there with ⟨absent, null⟩ | present
      · exact Or.inl ⟨beq_iff_eq.mpr absent, null, chosen false absent⟩
      · refine Or.inr ⟨?_, .scalar readings, remaining, .scalar fits, chosen true present, .scalar there⟩
        dsimp only
        rw [present]
        rfl
  | list inner =>
    exact Or.inr ⟨rfl, _, _, soundTarget, resolved.bind (reads_pure _ _), .list inner⟩
  | map inner =>
    exact Or.inr ⟨rfl, _, _, soundTarget, resolved.bind (reads_pure _ _), .map inner⟩

theorem isNothing_of_definite (every : document.Every Scalar.Definite) {depth left remaining : Nat}
    {node : Node} (inside : node.Every Scalar.Definite)
    (null : Reads (document.value depth node) left .null remaining) :
    document.isNothing node = true := by
  obtain ⟨target, middle, resolved, direct⟩ := readsAs_of_value null
  have found := target?_of_resolve resolved
  have definite := every.target inside found
  unfold isNothing
  rw [found]
  cases direct with
  | scalar there =>
    cases definite with
    | scalar passed => exact beq_iff_eq.mpr (passed.nothing there)

end Document
end ApiServices
