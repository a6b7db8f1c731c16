import ApiServices.Document.Value
import ApiServices.Logged
import ApiServices.Spec.Basic

namespace ApiServices

/-!
# The values under `paths`

How a value reads as operations.  Shape is forgiven where it can be: an
operation that is not an object is one without details, a field of the wrong
kind is dropped without taking the other fields with it, and a scalar of any
kind stands for a text.  Only the two outer layers, the map of routes and the
maps of verbs, are required, and whether they are there is decided after
everything has been looked at.
-/

namespace Details

/-- A single text: any scalar. -/
def textField {ε : Type} (value : Value) : Logged ε (Option Text) := do
  if value.scalarText?.isNone then
    Logged.note .warn "ignoring an operation field that is not a scalar".toList
  return value.scalarText?

/-- A list of texts: an item that is no scalar keeps its place as an empty
text. -/
def tagsField {ε : Type} : Value -> Logged ε (List Text)
  | .list items => pure (items.map fun item => item.scalarText?.getD [])
  | _ => do
    Logged.note .warn "ignoring operation `tags` that is not a list".toList
    return []

/-- The fields of an operation that are read. -/
inductive Field
  | tags
  | operationId
  | description
deriving DecidableEq

namespace Field

def name : Field -> Text
  | .tags => "tags".toList
  | .operationId => "operationId".toList
  | .description => "description".toList

/-- The fields in their order, which is also their order in a list. -/
def all : List Field :=
  [.tags, .operationId, .description]

def ofName? (name : Text) : Option Field :=
  all.find? (·.name == name)

/-- The field that a key selects: by name, or by its place in the order.  Keys
of other kinds select nothing and are not allowed; the outer option is for
those. -/
def ofKey? : Value -> Option (Option Field)
  | .text name => some (ofName? name)
  | .unsigned n => some all[n]?
  | _ => none

end Field

/-- Read the value of a field that is there and not null. -/
def setField {ε : Type} (details : Details) (value : Value) : Field -> Logged ε Details
  | .tags => do return { details with tags := ← tagsField value }
  | .operationId => do return { details with operationId := ← textField value }
  | .description => do return { details with description := ← textField value }

/-- Read the entries of an operation object.  It has no details at all if a
field occurs twice or if a key cannot be a field; what was noticed before
that is still reported. -/
def ofEntries (seen : List Field) (details : Details) :
    List (Value × Value) -> Logged Unit Details
  | [] => pure details
  | (key, value) :: rest =>
    match Field.ofKey? key with
    | none => Logged.fail ()
    | some none => ofEntries seen details rest
    | some (some field) =>
      if seen.contains field then Logged.fail ()
      else
        match value with
        | .null => ofEntries (field :: seen) details rest
        | present => do
          ofEntries (field :: seen) (← setField details present field) rest

end Details

/-- What the value of a verb turned out to be. -/
inductive OperationShape
  | details (details : Details)
  | other

/-- What a value that should be a map turned out to be. -/
inductive MapShape (α : Type)
  | entries (map : Keyed Text α)
  | other

namespace OperationShape

def ofValue {ε : Type} : Value -> Logged ε OperationShape
  | .map entries =>
    let read := Details.ofEntries [] .bare entries
    match read.outcome with
    | .ok found => ⟨read.records, .ok (.details found)⟩
    | .error _ => ⟨read.records, .ok .other⟩
  | _ => pure .other

end OperationShape

namespace MapShape

variable {ε α : Type}

/-- Read entries up to the first key that is not a text.  The values before it
are looked at all the same. -/
def readEntries (read : Value -> Logged ε α) (map : Keyed Text α) :
    List (Value × Value) -> Logged ε (MapShape α)
  | [] => pure (.entries map)
  | (.text key, value) :: rest => do
    readEntries read (map.insert key (← read value)) rest
  | _ => pure .other

def ofValue (read : Value -> Logged ε α) : Value -> Logged ε (MapShape α)
  | .map members => readEntries read Keyed.empty members
  | _ => pure .other

end MapShape

/-- What the value of a route turned out to be. -/
abbrev ItemShape := MapShape OperationShape

/-- What the value of `paths` turned out to be. -/
abbrev PathsShape := MapShape ItemShape

namespace PathsShape

def ofValue {ε : Type} (value : Value) : Logged ε PathsShape :=
  MapShape.ofValue (MapShape.ofValue OperationShape.ofValue) value

end PathsShape

/-- What is wrong with `paths`. -/
inductive PathsFault
  | missing
  | notMapping
  | itemNotMapping (route : Text)
deriving DecidableEq

namespace PathsFault

def reason : PathsFault -> Text
  | .missing => "`paths` is missing".toList
  | .notMapping => "`paths` is not a mapping".toList
  | .itemNotMapping route => "path item `".toList ++ route ++ "` is not a mapping".toList

def message (fault : PathsFault) : Text :=
  "malformed spec: ".toList ++ fault.reason

end PathsFault

namespace Spec

/-- The details of an operation, which are bare if there are none. -/
def checkOperation {ε : Type} (route verb : Text) : OperationShape -> Logged ε Details
  | .details details => pure details
  | .other => do
    Logged.note .debug <|
      "`".toList ++ route ++ "` has non-object entry `".toList ++ verb ++
        "`, treating it as a bare operation".toList
    return .bare

def checkMethods {ε : Type} (route : Text) (checked : Keyed Text Details) :
    List (Text × OperationShape) -> Logged ε (Keyed Text Details)
  | [] => pure checked
  | (verb, shape) :: rest => do
    checkMethods route (checked.insert verb (← checkOperation route verb shape)) rest

def checkItems (checked : Keyed Text (Keyed Text Details)) :
    List (Text × ItemShape) -> Logged PathsFault (Keyed Text (Keyed Text Details))
  | [] => pure checked
  | (route, .other) :: _ => Logged.fail (.itemNotMapping route)
  | (route, .entries methods) :: rest => do
    checkItems (checked.insert route (← checkMethods route Keyed.empty methods.entries)) rest

/-- Insist on the two maps. -/
def checkPaths : Option PathsShape -> Logged PathsFault (Keyed Text (Keyed Text Details))
  | none => Logged.fail .missing
  | some .other => Logged.fail .notMapping
  | some (.entries items) => checkItems Keyed.empty items.entries

end Spec
end ApiServices
