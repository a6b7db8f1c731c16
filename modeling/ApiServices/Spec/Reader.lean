import ApiServices.Document.Node
import ApiServices.Json.Printer
import ApiServices.Json.Reader
import ApiServices.Spec.Values
import ApiServices.Text.Blank
import ApiServices.Yaml.Tree

namespace ApiServices

/-!
# Reading API descriptions

A description is a record of which four fields are read: two names for the
version of its format, the heading, and the paths.  Its format is JSON or
YAML; a text whose format is not known is taken for JSON when it begins with
a brace.
-/

inductive SpecFormat
  | json
  | yaml
deriving DecidableEq

/-- Why a description was refused. -/
inductive SpecError
  | unreadable (format : SpecFormat)
  | malformed (fault : PathsFault)
deriving DecidableEq

namespace Value

mutual

/-- A value whose maps have texts for keys, with each key once and with its
last value, and with nothing in place of numbers that are not finite. -/
def settled : Value -> Value
  | .float x => if x.isFinite then .float x else .null
  | .list items => .list (settledItems items)
  | .map entries =>
    .ofFields (Keyed.ofList ((textEntries? (settledEntries entries)).getD [])).entries
  | value => value

def settledItems : List Value -> List Value
  | [] => []
  | item :: rest => settled item :: settledItems rest

def settledEntries : List (Value × Value) -> List (Value × Value)
  | [] => []
  | (key, value) :: rest => (key, settled value) :: settledEntries rest

end

end Value

namespace Info

def fields (document : Document) : Document.Fields Info :=
  [ ("title".toList, fun info node => do
      return { info with title := ← document.textOf node }),
    ("version".toList, fun info node => do
      return { info with version := ← document.textOf node }) ]

end Info

namespace Details

/-- The fields of an operation that is a document of its own. -/
def fields (document : Document) : Document.Fields Details :=
  Field.all.map fun field => (field.name, fun details node => do
    match ← document.optional node with
    | none => return details
    | some found =>
      let value ← document.value (document.depthLimit - 1) found
      Reading.log (setField details value field))

/-- Read the details of an operation from a document of their own. -/
def ofDocument (document : Document) : Logged Unreadable Details :=
  document.read (document.record (fields document) .bare)

end Details

namespace Spec

/-- The fields of a description before its paths are checked. -/
structure Draft where
  swagger : Option Value
  openapi : Option Value
  info : Option Info
  paths : Option PathsShape

namespace Draft

def empty : Draft :=
  ⟨none, none, none, none⟩

/-- A field that may be null, read by `read` if it is not. -/
def optionalField {α : Type} (document : Document) (read : Node -> Reading α)
    (set : Draft -> Option α -> Draft) (draft : Draft) (node : Node) : Reading Draft := do
  match ← document.optional node with
  | none => return set draft none
  | some found => return set draft (some (← read found))

def fields (document : Document) : Document.Fields Draft :=
  let depth := document.depthLimit - 1
  [ ("swagger".toList, optionalField document (document.plainValue depth)
      fun draft value => { draft with swagger := value }),
    ("openapi".toList, optionalField document (document.plainValue depth)
      fun draft value => { draft with openapi := value }),
    ("info".toList, optionalField document (document.record (Info.fields document) .blank)
      fun draft info => { draft with info := info }),
    ("paths".toList, optionalField document
      (fun node => do Reading.log (PathsShape.ofValue (← document.value depth node)))
      fun draft paths => { draft with paths := paths }) ]

/-- The version of the format: a text as it is, and anything else in JSON. -/
def version (draft : Draft) : Option Text :=
  (draft.swagger <|> draft.openapi).map fun
    | .text t => t
    | value => Json.compact value.settled

end Draft

/-- Read a description from a document in a format. -/
def ofDocument (format : SpecFormat) (document : Document) : Logged SpecError Spec := do
  let draft ← (document.read (document.record (Draft.fields document) .empty)).mapError
    fun _ => .unreadable format
  let paths ← (checkPaths draft.paths).mapError .malformed
  return ⟨draft.version, draft.info, paths⟩

def ofJson (text : Text) : Logged SpecError Spec :=
  ofDocument .json (Json.documentOf text)

def ofYaml (text : Text) : Logged SpecError Spec :=
  ofDocument .yaml (Yaml.documentOf text)

/-- Read a description whose format is not known. -/
def parse (text : Text) : Logged SpecError Spec :=
  if (Text.dropBlanks text).head? = some '{' then ofJson text else ofYaml text

end Spec
end ApiServices
