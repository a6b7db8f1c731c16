import ApiServices.Document.Value
import ApiServices.Logged

namespace ApiServices

/-!
# Documents as trees

A document of any format is read into one kind of tree.  The tree is wider
than the values it stands for: it shows where the text stops being readable,
it keeps references to anchored nodes unresolved, and a scalar carries all the
ways in which it can be read, because a numeral may be wanted as a number in
one place and as a text in another.

Reading a tree goes from left to right and stops at the first part that
cannot be read.  Parts that nobody asks for are skipped; they must be
complete, but they may be deeper and stranger than those that are read.
-/

/-- The readings of a scalar. -/
structure Scalar where
  /-- The scalar where a text is wanted. -/
  text : Option Text
  /-- The scalar where any value will do. -/
  value : Option Value
  /-- Whether the scalar says something where nothing may be said; absent when
  it can be understood neither way. -/
  present : Option Bool
  /-- Whether the scalar is nothing at all, which stands for an empty record. -/
  isBlank : Bool
  /-- The scalar where a yes or no is wanted. -/
  flag : Option Bool

/-- A part of a document.  A marked collection carries an application tag. -/
inductive Node
  | scalar (readings : Scalar)
  | list (marked : Bool) (items : List Node)
  | map (marked : Bool) (entries : List (Node × Node))
  | alias (anchor : Nat)
  | cut

/-- A tree and what the format has to say about reading it. -/
structure Document where
  root : Node
  /-- The nodes that aliases refer to. -/
  anchors : List (Nat × Node)
  /-- Whether the text holds nothing after the tree. -/
  isWhole : Bool
  /-- How many collections may stand inside each other. -/
  depthLimit : Nat
  /-- How often aliases may be followed. -/
  aliasLimit : Nat
  /-- Whether a list may stand for a record, its items being the fields in
  their order. -/
  listsAreRecords : Bool

/-- The only thing to know about a document that cannot be read. -/
inductive Unreadable
  | unreadable
deriving DecidableEq

/-- A computation that reads a tree; the state is the number of aliases that
may still be followed. -/
abbrev Reading := StateT Nat (Logged Unreadable)

namespace Reading

variable {α : Type}

def refuse : Reading α :=
  fun _ => Logged.fail .unreadable

def orRefuse : Option α -> Reading α
  | none => refuse
  | some a => pure a

def log (computation : Logged Unreadable α) : Reading α :=
  fun left => computation >>= fun a => pure (a, left)

end Reading

namespace Node

mutual

/-- Whether the text of a node is complete. -/
def isComplete : Node -> Bool
  | .cut => false
  | .scalar _ => true
  | .alias _ => true
  | .list _ items => areComplete items
  | .map _ entries => entriesComplete entries

def areComplete : List Node -> Bool
  | [] => true
  | node :: rest => isComplete node && areComplete rest

def entriesComplete : List (Node × Node) -> Bool
  | [] => true
  | (key, node) :: rest => isComplete key && isComplete node && entriesComplete rest

end

mutual

/-- How many steps it takes to go through a node: one for a scalar or an
alias, and two for the ends of a collection, if it has both. -/
def steps : Node -> Nat
  | .cut => 0
  | .scalar _ => 1
  | .alias _ => 1
  | .list _ items => 1 + stepsOfItems items + if areComplete items then 1 else 0
  | .map _ entries => 1 + stepsOfEntries entries + if entriesComplete entries then 1 else 0

def stepsOfItems : List Node -> Nat
  | [] => 0
  | item :: rest => steps item + stepsOfItems rest

def stepsOfEntries : List (Node × Node) -> Nat
  | [] => 0
  | (key, value) :: rest => steps key + steps value + stepsOfEntries rest

end

end Node

namespace Document

/-- Follow a node that is an alias to the node it stands for. -/
def resolve (document : Document) : Node -> Reading Node
  | .alias anchor => do
    match ← get with
    | 0 => Reading.refuse
    | left + 1 =>
      set left
      Reading.orRefuse (document.anchors.lookup anchor)
  | node => pure node

/-- Pass over a part that nobody asks for. -/
def skip (node : Node) : Reading Unit :=
  if node.isComplete then pure () else Reading.refuse

/-- A scalar where a text is wanted. -/
def textOf (document : Document) (node : Node) : Reading Text := do
  match ← document.resolve node with
  | .scalar readings => Reading.orRefuse readings.text
  | _ => Reading.refuse

/-- A scalar where a yes or no is wanted. -/
def flagOf (document : Document) (node : Node) : Reading Bool := do
  match ← document.resolve node with
  | .scalar readings => Reading.orRefuse readings.flag
  | _ => Reading.refuse

/-- A node where there may be none: what it is, if it says anything. -/
def optional (document : Document) (node : Node) : Reading (Option Node) := do
  match ← document.resolve node with
  | .scalar readings =>
    let present ← Reading.orRefuse readings.present
    return if present then some (.scalar readings) else none
  | .cut => Reading.refuse
  | found => return some found

/-- A node as a value, given how to read the keys of a map and how to read
what stands inside a collection, unless no collection may stand here. -/
def valueWith (document : Document)
    (inside : Option ((Node -> Reading Value) × (Node -> Reading Value))) (node : Node) :
    Reading Value := do
  match ← document.resolve node, inside with
  | .scalar readings, _ => Reading.orRefuse readings.value
  | .list false items, some (_, item) => return .list (← items.mapM item)
  | .map false entries, some (key, item) =>
    return .map (← entries.mapM fun entry => do return (← key entry.1, ← item entry.2))
  | _, _ => Reading.refuse

/-- A node as a value, in which at most `depth` collections stand inside each
other. -/
def value (document : Document) : Nat -> Node -> Reading Value
  | 0 => document.valueWith none
  | depth + 1 => document.valueWith (some (value document depth, value document depth))

/-- A node as a value whose maps have texts for keys. -/
def plainValue (document : Document) : Nat -> Node -> Reading Value
  | 0 => document.valueWith none
  | depth + 1 =>
    document.valueWith
      (some (fun key => Value.text <$> document.textOf key, plainValue document depth))

/-- What a record has in the way of fields: their names in order, and for each
the reading of its value. -/
abbrev Fields (σ : Type) := List (Text × (σ -> Node -> Reading σ))

/-- Read the entries of a map as the fields of a record.  A field may occur
once; entries that are no fields are skipped. -/
def recordEntries {σ : Type} (document : Document) (fields : Fields σ) (seen : List Text)
    (record : σ) : List (Node × Node) -> Reading σ
  | [] => pure record
  | (key, node) :: rest => do
    let name ← document.textOf key
    match fields.lookup name with
    | none =>
      skip node
      recordEntries document fields seen record rest
    | some read =>
      if seen.contains name then Reading.refuse
      else recordEntries document fields (name :: seen) (← read record node) rest

/-- Read the items of a list as the fields of a record in their order.  Fields
may be missing at the end; items may not be left over. -/
def recordItems {σ : Type} (record : σ) : Fields σ -> List Node -> Reading σ
  | _, [] => pure record
  | [], _ :: _ => Reading.refuse
  | (_, read) :: fields, node :: rest => do
    recordItems (← read record node) fields rest

/-- Read a record, starting from the values that absent fields have. -/
def record {σ : Type} (document : Document) (fields : Fields σ) (absent : σ) (node : Node) :
    Reading σ := do
  match ← document.resolve node with
  | .map _ entries => document.recordEntries fields [] absent entries
  | .list _ items =>
    if document.listsAreRecords then recordItems absent fields items else Reading.refuse
  | .scalar readings => if readings.isBlank then pure absent else Reading.refuse
  | _ => Reading.refuse

/-- Read a whole document. -/
def read {α : Type} (document : Document) (reading : Node -> Reading α) :
    Logged Unreadable α := do
  let (result, _) ← (reading document.root).run document.aliasLimit
  if document.isWhole then return result else Logged.fail .unreadable

end Document
end ApiServices
