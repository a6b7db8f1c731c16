import ApiServices.Json.Printer
import ApiServices.Json.Reader
import ApiServices.Proofs.Document.Records
import ApiServices.Proofs.Json.Soundness

namespace ApiServices

/-!
# JSON is read back

What is written for a value is read as a tree that stands for the value.  Descriptions
consist of texts and of what holds texts together, and this is all that is asked for
here; numerals are not looked at.

The tree of a value is given outright.  Reading a text then means to find this tree in
front of whatever comes after, so that parts of a value are read where they stand.
This is done for one layout.  Another one that is read as the same value has the same
tree, because a tree has nothing to it but the value.
-/

/-- A value without numbers whose maps have texts for keys, and in which at most so
many collections stand inside each other. -/
inductive Value.Verbal : Nat -> Value -> Prop
  | null {depth : Nat} : Verbal depth .null
  | bool {depth : Nat} (b : Bool) : Verbal depth (.bool b)
  | text {depth : Nat} (t : Text) : Verbal depth (.text t)
  | list {depth : Nat} {items : List Value} (inner : ∀ item ∈ items, Verbal depth item) :
    Verbal (depth + 1) (.list items)
  | fields {depth : Nat} {fields : List (Text × Value)}
    (inner : ∀ field ∈ fields, Verbal depth field.2) : Verbal (depth + 1) (.ofFields fields)

namespace Json

/-! ## Strings -/

theorem hexValue?_hexDigit (n : Nat) : hexValue? (hexDigit n) = some (n % 16) := by
  have table : ∀ digit < 16, hexValue? ((Nat.toDigits 16 digit).headD '0') = some digit := by
    decide
  exact table (n % 16) (Nat.mod_lt n (by decide))

/-- A character is escaped by a letter, escaped by its number, or written as it is. -/
theorem escapedChar_cases (c : Char) :
    (Exists fun letter => letter ≠ 'u' ∧ unescaped? letter = some c ∧ escapedChar c = ['\\', letter]) ∨
      (c.toNat < 0x20 ∧
        escapedChar c = ['\\', 'u', '0', '0', hexDigit (c.toNat / 16), hexDigit c.toNat]) ∨
      (c ≠ '"' ∧ c ≠ '\\' ∧ ¬c.toNat < 0x20 ∧ escapedChar c = [c]) := by
  unfold escapedChar
  split
  · next quote => exact Or.inl ⟨_, by decide, by rw [quote]; rfl, rfl⟩
  next noQuote =>
    split
    · next backslash => exact Or.inl ⟨_, by decide, by rw [backslash]; rfl, rfl⟩
    next noBackslash =>
      repeat' split
      any_goals
        rename_i same
        exact Or.inl ⟨_, by decide, by rw [same]; rfl, rfl⟩
      · next control => exact Or.inr (Or.inl ⟨control, rfl⟩)
      · next plain => exact Or.inr (Or.inr ⟨noQuote, noBackslash, plain, rfl⟩)

/-- A character is read back, however it is escaped. -/
theorem stringUnits?_escapedChar (c : Char) (rest : Text) :
    stringUnits? (escapedChar c ++ rest) =
      (stringUnits? rest).map fun found => (c.toNat :: found.1, found.2) := by
  rcases escapedChar_cases c with ⟨letter, other, means, written⟩ | ⟨control, written⟩ |
    ⟨quote, backslash, plain, written⟩
  · rw [written, List.cons_append, List.cons_append, List.nil_append]
    rw [stringUnits?]
    · rw [means]
      cases stringUnits? rest <;> rfl
    · exact fun _ _ _ _ _ hex _ => other hex
  · have number : hexUnit? '0' '0' (hexDigit (c.toNat / 16)) (hexDigit c.toNat) = some c.toNat := by
      rw [hexUnit?, hexValue?_hexDigit, hexValue?_hexDigit]
      change some ((0 * 16 + 0) * 256 + (c.toNat / 16 % 16 * 16 + c.toNat % 16)) = some c.toNat
      congr 1
      omega
    rw [written]
    change stringUnits? ('\\' :: 'u' :: '0' :: '0' :: _ :: _ :: rest) = _
    rw [stringUnits?, number]
    cases stringUnits? rest <;> rfl
  · rw [written, List.singleton_append, stringUnits?]
    · rw [if_neg plain]
      cases stringUnits? rest <;> rfl
    · exact quote
    · exact fun _ _ _ _ _ same _ => backslash same
    · exact fun _ _ same _ => backslash same

/-- A string is read back up to its closing quote. -/
theorem stringUnits?_flatMap (t rest : Text) :
    stringUnits? (t.flatMap escapedChar ++ '"' :: rest) = some (t.map Char.toNat, rest) := by
  induction t with
  | nil => rfl
  | cons c t ih =>
    rw [List.flatMap_cons, List.append_assoc, stringUnits?_escapedChar, ih]
    rfl

theorem isSurrogate_toNat (c : Char) :
    (isHighSurrogate c.toNat || isLowSurrogate c.toNat) = false := by
  have valid : c.toNat < 0xD800 ∨ 0xDFFF < c.toNat := c.valid.imp_right And.left
  unfold isHighSurrogate isLowSurrogate
  simp
  omega

/-- Characters are no surrogates, and need not come in pairs. -/
theorem charsOfUnits?_map_toNat (t : Text) : charsOfUnits? (t.map Char.toNat) = some t := by
  induction t with
  | nil => rfl
  | cons c rest ih =>
    have whole := isSurrogate_toNat c
    cases rest with
    | nil =>
      rw [List.map_singleton, charsOfUnits?, whole, Char.ofNat_toNat]
      rfl
    | cons next rest =>
      obtain ⟨high, low⟩ := Bool.or_eq_false_iff.mp whole
      rw [List.map_cons] at ih
      rw [List.map_cons, List.map_cons, charsOfUnits?, high, low, ih, Char.ofNat_toNat]
      rfl

/-! ## Trees -/

def textNode (t : Text) : Node :=
  .scalar ⟨some t, some (.text t), some true, false, none⟩

theorem stringNode_map_toNat (t : Text) : stringNode (t.map Char.toNat) = textNode t := by
  unfold stringNode
  rw [charsOfUnits?_map_toNat]
  rfl

mutual

/-- The node that stands for a value. -/
def nodeFor : Value -> Node
  | .null => nullNode
  | .text t => textNode t
  | .list items => .list false (nodesFor items)
  | .map entries => .map false (entryNodesFor entries)
  | atom => valueNode (some atom)

def nodesFor : List Value -> List Node
  | [] => []
  | item :: rest => nodeFor item :: nodesFor rest

def entryNodesFor : List (Value × Value) -> List (Node × Node)
  | [] => []
  | (key, value) :: rest => (nodeFor key, nodeFor value) :: entryNodesFor rest

end

theorem nodesFor_eq_map (items : List Value) : nodesFor items = items.map nodeFor := by
  induction items with
  | nil => rfl
  | cons item rest ih => rw [nodesFor, ih, List.map_cons]

/-- The nodes of a field. -/
def fieldNode (field : Text × Value) : Node × Node :=
  (textNode field.1, nodeFor field.2)

theorem nodeFor_ofFields (fields : List (Text × Value)) :
    nodeFor (.ofFields fields) = .map false (fields.map fieldNode) := by
  rw [Value.ofFields, nodeFor]
  congr 1
  induction fields with
  | nil => rfl
  | cons field rest ih =>
    rw [List.map_cons, entryNodesFor, ih, nodeFor]
    rfl

/-! ## Written values -/

theorem compactItems_eq_map (items : List Value) : compactItems items = items.map compact := by
  induction items with
  | nil => rfl
  | cons item rest ih => rw [compactItems, ih, List.map_cons]

/-- What is written for a field. -/
def writtenField (field : Text × Value) : Text :=
  quoted field.1 ++ ':' :: compact field.2

theorem compact_ofFields (fields : List (Text × Value)) :
    compact (.ofFields fields) = '\x7b' :: Text.joinWith [','] (fields.map writtenField) ++ ['\x7d'] := by
  rw [Value.ofFields, compact]
  congr 3
  induction fields with
  | nil => rfl
  | cons field rest ih =>
    rw [List.map_cons, compactMembers, ih]
    rfl

/-- A written value begins neither with white space nor with a closing bracket. -/
theorem exists_compact_eq_cons {depth : Nat} {value : Value} (verbal : value.Verbal depth) :
    Exists fun c => Exists fun rest =>
      compact value = c :: rest ∧ isSpace c = false ∧ c ≠ ']' := by
  cases verbal with
  | null => exact ⟨'n', _, rfl, by decide, by decide⟩
  | bool b => cases b <;> exact ⟨_, _, rfl, by decide, by decide⟩
  | text t => exact ⟨'"', _, rfl, by decide, by decide⟩
  | list _ => exact ⟨'[', _, rfl, by decide, by decide⟩
  | fields _ => exact ⟨'\x7b', _, rfl, by decide, by decide⟩

/-! ## The grammar -/

theorem skipSpace_cons {c : Char} (solid : isSpace c = false) (rest : Text) :
    skipSpace (c :: rest) = c :: rest := by
  rw [skipSpace, List.dropWhile_cons_of_neg (Bool.eq_false_iff.mp solid)]

section Grammar

variable {fuel : Nat} {text rest more : Text} {units : List Nat} {after : Option Text} {node : Node}
  {nodes : List Node} {members : List (Node × Node)}

theorem nodeOf_string (read : stringUnits? text = some (units, rest)) :
    nodeOf (fuel + 1) ('"' :: text) = (stringNode units, some rest) := by
  simp [nodeOf, skipSpace_cons (show isSpace '"' = false from rfl), read]

/-- A list that does not end at once has its items read. -/
theorem nodeOf_list (going : ∀ after, skipSpace text ≠ ']' :: after)
    (items : itemsOf fuel text = (nodes, after)) :
    nodeOf (fuel + 1) ('[' :: text) = (.list false nodes, after) := by
  simp [nodeOf, skipSpace_cons (show isSpace '[' = false from rfl), items]

/-- An object that does not end at once has its members read. -/
theorem nodeOf_map (going : ∀ after, skipSpace text ≠ '\x7d' :: after)
    (entries : membersOf fuel text = (members, after)) :
    nodeOf (fuel + 1) ('\x7b' :: text) = (.map false members, after) := by
  simp [nodeOf, skipSpace_cons (show isSpace '\x7b' = false from rfl), entries]

theorem itemsOf_last (item : nodeOf fuel text = (node, some (']' :: rest))) :
    itemsOf (fuel + 1) text = ([node], some rest) := by
  simp [itemsOf, item, skipSpace_cons (show isSpace ']' = false from rfl)]

theorem itemsOf_next (item : nodeOf fuel text = (node, some (',' :: rest)))
    (others : itemsOf fuel rest = (nodes, after)) :
    itemsOf (fuel + 1) text = (node :: nodes, after) := by
  simp [itemsOf, item, skipSpace_cons (show isSpace ',' = false from rfl), others]

variable (key : stringUnits? text = some (units, ':' :: rest))

include key

theorem membersOf_last (value : nodeOf fuel rest = (node, some ('\x7d' :: more))) :
    membersOf (fuel + 1) ('"' :: text) = ([(stringNode units, node)], some more) := by
  simp [membersOf, skipSpace_cons (show isSpace '"' = false from rfl), key,
    skipSpace_cons (show isSpace ':' = false from rfl), value,
    skipSpace_cons (show isSpace '\x7d' = false from rfl)]

theorem membersOf_next (value : nodeOf fuel rest = (node, some (',' :: more)))
    (others : membersOf fuel more = (members, after)) :
    membersOf (fuel + 1) ('"' :: text) = ((stringNode units, node) :: members, after) := by
  simp [membersOf, skipSpace_cons (show isSpace '"' = false from rfl), key,
    skipSpace_cons (show isSpace ':' = false from rfl), value,
    skipSpace_cons (show isSpace ',' = false from rfl), others]

end Grammar

/-! ## Reading back -/

/-- A value is read back in front of any text, if there is fuel for its length. -/
def ReadBack (value : Value) : Prop :=
  forall fuel rest, (compact value).length ≤ fuel ->
    nodeOf fuel (compact value ++ rest) = (nodeFor value, some rest)

theorem joinWith_cons_append (first second : Text) (others : List Text) (rest : Text) :
    Text.joinWith [','] (first :: second :: others) ++ rest =
      first ++ ',' :: (Text.joinWith [','] (second :: others) ++ rest) := by
  rw [Text.joinWith, List.intercalate_cons_cons, List.append_assoc, List.append_assoc]
  rfl

theorem length_joinWith_cons (first second : Text) (others : List Text) :
    (Text.joinWith [','] (first :: second :: others)).length =
      first.length + 1 + (Text.joinWith [','] (second :: others)).length := by
  rw [Text.joinWith, List.intercalate_cons_cons, List.length_append, List.length_append]
  rfl

/-- Items are read back up to the closing bracket of their list. -/
theorem itemsOf_joinWith {item : Value} {others : List Value}
    (each : ∀ value ∈ item :: others, ReadBack value) {fuel : Nat} (rest : Text)
    (enough : (Text.joinWith [','] ((item :: others).map compact)).length < fuel) :
    itemsOf fuel (Text.joinWith [','] ((item :: others).map compact) ++ ']' :: rest) =
      ((item :: others).map nodeFor, some rest) := by
  -- an item takes one unit of fuel, and at least its separator off the text
  induction others generalizing item fuel with
  | nil =>
    obtain ⟨fuel, rfl⟩ := Nat.exists_eq_add_one_of_ne_zero (Nat.ne_zero_of_lt enough)
    have one : Text.joinWith [','] [compact item] = compact item := List.intercalate_singleton
    rw [List.map_singleton, one] at enough ⊢
    exact itemsOf_last (each item List.mem_cons_self fuel _ (Nat.le_of_lt_succ enough))
  | cons next others ih =>
    obtain ⟨fuel, rfl⟩ := Nat.exists_eq_add_one_of_ne_zero (Nat.ne_zero_of_lt enough)
    obtain ⟨first, later⟩ := List.forall_mem_cons.mp each
    rw [List.map_cons, List.map_cons, length_joinWith_cons] at enough
    have fits : (Text.joinWith [','] ((next :: others).map compact)).length < fuel := by
      rw [List.map_cons]
      omega
    have more := ih later fits
    rw [List.map_cons] at more
    rw [List.map_cons, List.map_cons, joinWith_cons_append]
    exact itemsOf_next (first fuel _ (by omega)) more

theorem writtenField_append (field : Text × Value) (rest : Text) :
    writtenField field ++ rest =
      '"' :: (field.1.flatMap escapedChar ++ '"' :: ':' :: (compact field.2 ++ rest)) := by
  simp [writtenField, quoted]

theorem length_compact_lt (field : Text × Value) :
    (compact field.2).length < (writtenField field).length := by
  rw [writtenField, List.length_append, List.length_cons]
  omega

theorem fieldNode_eq (field : Text × Value) :
    fieldNode field = (stringNode (field.1.map Char.toNat), nodeFor field.2) := by
  rw [fieldNode, stringNode_map_toNat]

/-- Fields are read back up to the closing brace of their object. -/
theorem membersOf_joinWith {field : Text × Value} {others : List (Text × Value)}
    (each : ∀ member ∈ field :: others, ReadBack member.2) {fuel : Nat} (rest : Text)
    (enough : (Text.joinWith [','] ((field :: others).map writtenField)).length < fuel) :
    membersOf fuel (Text.joinWith [','] ((field :: others).map writtenField) ++ '\x7d' :: rest) =
      ((field :: others).map fieldNode, some rest) := by
  induction others generalizing field fuel with
  | nil =>
    obtain ⟨fuel, rfl⟩ := Nat.exists_eq_add_one_of_ne_zero (Nat.ne_zero_of_lt enough)
    have one : Text.joinWith [','] [writtenField field] = writtenField field :=
      List.intercalate_singleton
    have shorter := length_compact_lt field
    rw [List.map_singleton, one] at enough
    rw [List.map_singleton, List.map_singleton, one, writtenField_append, fieldNode_eq]
    exact membersOf_last (stringUnits?_flatMap field.1 _)
      (each field List.mem_cons_self fuel _ (by omega))
  | cons next others ih =>
    obtain ⟨fuel, rfl⟩ := Nat.exists_eq_add_one_of_ne_zero (Nat.ne_zero_of_lt enough)
    obtain ⟨first, later⟩ := List.forall_mem_cons.mp each
    have shorter := length_compact_lt field
    rw [List.map_cons, List.map_cons, length_joinWith_cons] at enough
    have fits : (Text.joinWith [','] ((next :: others).map writtenField)).length < fuel := by
      rw [List.map_cons]
      omega
    have more := ih later fits
    rw [List.map_cons] at more
    rw [List.map_cons, List.map_cons, List.map_cons, joinWith_cons_append,
      writtenField_append, fieldNode_eq]
    exact membersOf_next (stringUnits?_flatMap field.1 _) (first fuel _ (by omega)) more

/-- Parts of a collection do not begin with the bracket that closes it. -/
theorem skipSpace_joinWith_ne {first : Text} {c : Char} (close : Char) {tail : Text}
    (begins : first = c :: tail) (solid : isSpace c = false) (apart : c ≠ close)
    (others : List Text) (rest after : Text) :
    skipSpace (Text.joinWith [','] (first :: others) ++ rest) ≠ close :: after := by
  have joined : Exists fun more => Text.joinWith [','] (first :: others) ++ rest = c :: more := by
    rw [begins]
    cases others with
    | nil => exact ⟨tail ++ rest, congrArg (· ++ rest) List.intercalate_singleton⟩
    | cons second others => exact ⟨_, joinWith_cons_append (c :: tail) second others rest⟩
  obtain ⟨more, joined⟩ := joined
  rw [joined, skipSpace_cons solid]
  exact fun same => apart (List.cons.inj same).1

theorem readBack_list {depth : Nat} {items : List Value}
    (verbal : ∀ item ∈ items, item.Verbal depth) (each : ∀ item ∈ items, ReadBack item) :
    ReadBack (.list items) := by
  intro fuel rest enough
  have written : compact (.list items) ++ rest =
      '[' :: (Text.joinWith [','] (items.map compact) ++ ']' :: rest) := by
    rw [compact, compactItems_eq_map]
    simp
  rw [compact, compactItems_eq_map, List.length_append, List.length_cons,
    List.length_singleton] at enough
  obtain ⟨fuel, rfl⟩ := Nat.exists_eq_add_one_of_ne_zero (n := fuel) (by omega)
  rw [written, nodeFor, nodesFor_eq_map]
  cases items with
  | nil => rfl
  | cons item others =>
    obtain ⟨c, tail, begins, solid, apart⟩ :=
      exists_compact_eq_cons (verbal item List.mem_cons_self)
    have going := skipSpace_joinWith_ne ']' begins solid apart (others.map compact) (']' :: rest)
    rw [← List.map_cons] at going
    exact nodeOf_list going (itemsOf_joinWith each rest (by omega))

theorem readBack_fields {fields : List (Text × Value)}
    (each : ∀ field ∈ fields, ReadBack field.2) : ReadBack (.ofFields fields) := by
  intro fuel rest enough
  have written : compact (.ofFields fields) ++ rest =
      '\x7b' :: (Text.joinWith [','] (fields.map writtenField) ++ '\x7d' :: rest) := by
    rw [compact_ofFields]
    simp
  rw [compact_ofFields, List.length_append, List.length_cons,
    List.length_singleton] at enough
  obtain ⟨fuel, rfl⟩ := Nat.exists_eq_add_one_of_ne_zero (n := fuel) (by omega)
  rw [written, nodeFor_ofFields]
  cases fields with
  | nil => rfl
  | cons field others =>
    have begins : writtenField field = '"' :: _ := rfl
    have going := skipSpace_joinWith_ne '\x7d' begins (by decide) (by decide)
      (others.map writtenField) ('\x7d' :: rest)
    rw [← List.map_cons] at going
    exact nodeOf_map going (membersOf_joinWith each rest (by omega))

/-- What is written for a value is read as the tree of the value. -/
theorem readBack {depth : Nat} {value : Value} (verbal : value.Verbal depth) : ReadBack value := by
  induction verbal with
  | null =>
    intro fuel rest enough
    obtain ⟨fuel, rfl⟩ := Nat.exists_eq_add_one_of_ne_zero (Nat.ne_zero_of_lt enough)
    rfl
  | bool b =>
    intro fuel rest enough
    cases b <;> obtain ⟨fuel, rfl⟩ := Nat.exists_eq_add_one_of_ne_zero (Nat.ne_zero_of_lt enough) <;> rfl
  | text t =>
    intro fuel rest enough
    obtain ⟨fuel, rfl⟩ := Nat.exists_eq_add_one_of_ne_zero (Nat.ne_zero_of_lt enough)
    have written : compact (.text t) ++ rest = '"' :: (t.flatMap escapedChar ++ '"' :: rest) := by
      simp [compact, scalar, quoted]
    rw [written, nodeOf_string (stringUnits?_flatMap t rest), stringNode_map_toNat, nodeFor]
  | list inner ih => exact readBack_list inner ih
  | fields _ ih => exact readBack_fields ih

/-! ## Documents -/

open Document Reading

variable {depth : Nat} {value : Value}

/-- Whether a text is read as a value. -/
def Spells (text : Text) (value : Value) : Prop :=
  ((documentOf text).read ((documentOf text).value depthLimit)).outcome = .ok value

/-- A document that is the tree of a value, with nothing after it. -/
structure IsTree (text : Text) (value : Value) : Prop where
  root : (documentOf text).root = nodeFor value
  whole : (documentOf text).isWhole = true

theorem isTree_compact (verbal : value.Verbal depth) : IsTree (compact value) value := by
  have read := readBack verbal (2 * (compact value).length + 2) [] (by omega)
  rw [List.append_nil] at read
  constructor
  · unfold documentOf
    rw [read]
  · unfold documentOf
    rw [read]
    rfl

theorem reads_mapM {α β γ : Type} {read : α -> Reading β} {source : γ -> α} {result : γ -> β}
    {left : Nat} {items : List γ}
    (each : ∀ item ∈ items, Reads (read (source item)) left (result item) left) :
    Reads ((items.map source).mapM read) left (items.map result) left := by
  induction items with
  | nil => exact reads_pure [] left
  | cons item rest ih =>
    obtain ⟨first, later⟩ := List.forall_mem_cons.mp each
    rw [List.map_cons, List.mapM_cons]
    exact first.bind ((ih later).bind (reads_pure _ left))

/-- The tree of a value is read as the value. -/
theorem readsAs_nodeFor {document : Document} (verbal : value.Verbal depth) (left : Nat) :
    ReadsAs document depth (nodeFor value) left value left := by
  induction verbal with
  | null => exact .scalar rfl
  | bool b => exact .scalar rfl
  | text t => exact .scalar rfl
  | @list depth items _ ih =>
    rw [nodeFor, nodesFor_eq_map]
    have inner : Reads ((items.map nodeFor).mapM (document.value depth)) left (items.map id) left :=
      reads_mapM fun item member => (ih item member).reads
    rw [List.map_id] at inner
    exact .list inner
  | @fields depth fields _ ih =>
    rw [nodeFor_ofFields]
    refine .map (reads_mapM fun field member => ?_)
    have key : ReadsAs document depth (textNode field.1) left (.text field.1) left := .scalar rfl
    exact key.reads.bind ((ih field member).reads.bind (reads_pure _ left))

/-- What is written for a value is read as the value. -/
theorem spells_compact (verbal : value.Verbal depthLimit) : Spells (compact value) value := by
  have tree := isTree_compact verbal
  have reads : Reads ((documentOf (compact value)).value depthLimit (nodeFor value)) 0 value 0 :=
    (readsAs_nodeFor verbal 0).reads
  exact outcome_read_eq_ok_iff.mpr ⟨⟨0, tree.root ▸ reads⟩, tree.whole⟩

/-! ## Other layouts -/

section Layouts

variable {document : Document} {node : Node} {left remaining : Nat}

/-- Where nothing is anchored, a node stands for itself. -/
theorem readsAs_of_reads (free : document.anchors = [])
    (reads : Reads (document.value depth node) left value remaining) :
    ReadsAs document depth node left value remaining := by
  obtain ⟨target, middle, resolved, direct⟩ := readsAs_of_value reads
  cases node with
  | «alias» anchor =>
    have found := (Reads.of_resolve_alias resolved).1
    rw [free] at found
    cases found
  | _ =>
    obtain ⟨same, kept⟩ := Reads.eq_of_pure resolved
    exact same ▸ kept ▸ direct

/-- A scalar tells its value and nothing else. -/
theorem eq_nodeFor_of_scalar {readings : Scalar} (scalar : IsScalar readings)
    (there : readings.value = some value) : Node.scalar readings = nodeFor value := by
  cases scalar with
  | null =>
    cases there
    rfl
  | atom atom =>
    have isAtom := atom value there
    cases there
    cases value with
    | null => cases isAtom
    | text t => cases isAtom
    | list items => cases isAtom
    | map entries => cases isAtom
    | _ => rfl
  | text found =>
    obtain ⟨t, same, text⟩ := Option.map_eq_some_iff.mp there
    rw [same, ← text]
    rfl

/-- Whether nodes are known by their values, read down to a depth. -/
def TreesTell (document : Document) (depth : Nat) : Prop :=
  forall {node : Node} {value : Value} {left remaining : Nat}, node.Every IsScalar ->
    Reads (document.value depth node) left value remaining -> node = nodeFor value

theorem eq_nodesFor_of_reads (tell : TreesTell document depth) {items : List Node}
    {values : List Value} (inside : Node.EveryItem IsScalar items)
    (reads : Reads (items.mapM (document.value depth)) left values remaining) :
    items = nodesFor values := by
  induction items generalizing values left with
  | nil =>
    rw [(Reads.eq_of_pure reads).1]
    rfl
  | cons item rest ih =>
    obtain ⟨value, others, middle, same, one, more⟩ := reads_mapM_cons reads
    obtain ⟨first, later⟩ := List.forall_mem_cons.mp inside
    rw [same, nodesFor, ← tell first one, ← ih later more]

theorem eq_entryNodesFor_of_reads (tell : TreesTell document depth) {entries : List (Node × Node)}
    {pairs : List (Value × Value)} (inside : Node.EveryEntry IsScalar entries)
    (reads : Reads (entries.mapM (document.valuePair depth)) left pairs remaining) :
    entries = entryNodesFor pairs := by
  induction entries generalizing pairs left with
  | nil =>
    rw [(Reads.eq_of_pure reads).1]
    rfl
  | cons entry rest ih =>
    obtain ⟨pair, others, middle, same, one, more⟩ := reads_mapM_cons reads
    obtain ⟨⟨keyInside, valueInside⟩, later⟩ := List.forall_mem_cons.mp inside
    obtain ⟨key, between, keyRead, ending⟩ := reads_bind_iff.mp one
    obtain ⟨value, after, valueRead, ending⟩ := reads_bind_iff.mp ending
    rw [same, (Reads.eq_of_pure ending).1, entryNodesFor, ← tell keyInside keyRead,
      ← tell valueInside valueRead, ← ih later more]

/-- A node is known by its value if the nodes inside it are known by theirs. -/
theorem eq_nodeFor_of_readsAs (tell : forall inner, depth = inner + 1 -> TreesTell document inner)
    (inside : node.Every IsScalar) (read : ReadsAs document depth node left value remaining) :
    node = nodeFor value := by
  cases read with
  | scalar there =>
    cases inside with
    | scalar scalar => exact eq_nodeFor_of_scalar scalar there
  | list inner =>
    cases inside with
    | list items => rw [nodeFor, ← eq_nodesFor_of_reads (tell _ rfl) items inner]
  | map inner =>
    have entries := everyEntry_entriesOf inside
    rw [nodeFor, ← eq_entryNodesFor_of_reads (tell _ rfl) entries inner]
    rfl

/-- What is read as a value is the tree of the value. -/
theorem treesTell (free : document.anchors = []) (depth : Nat) : TreesTell document depth := by
  induction depth with
  | zero =>
    intro node value left remaining inside reads
    refine eq_nodeFor_of_readsAs ?_ inside (readsAs_of_reads free reads)
    intro inner impossible
    cases impossible
  | succ depth ih =>
    intro node value left remaining inside reads
    refine eq_nodeFor_of_readsAs ?_ inside (readsAs_of_reads free reads)
    intro inner same
    exact Nat.succ.inj same ▸ ih

/-- A text that is read as a value holds its tree, however it is laid out. -/
theorem isTree_of_spells {text : Text} (spells : Spells text value) : IsTree text value := by
  obtain ⟨⟨remaining, reads⟩, whole⟩ := outcome_read_eq_ok_iff.mp spells
  exact ⟨treesTell rfl depthLimit (every_documentOf text).root reads, whole⟩

end Layouts

end Json
end ApiServices
