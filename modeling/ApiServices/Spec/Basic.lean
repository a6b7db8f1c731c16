import ApiServices.Groups
import ApiServices.Logged

namespace ApiServices

/-!
# API descriptions

The part of an API description that generation uses: which operations there
are on which routes, how they are tagged and named, and the heading of the
document.  Routes, and the verbs of a route, keep the order of the document.
-/

/-- What an operation says about itself. -/
structure Details where
  tags : List Text
  operationId : Option Text
  description : Option Text
deriving DecidableEq

namespace Details

/-- An operation that says nothing. -/
def bare : Details :=
  ⟨[], none, none⟩

end Details

/-- The heading of a document. -/
structure Info where
  title : Text
  version : Text
deriving DecidableEq

namespace Info

def blank : Info :=
  ⟨[], []⟩

end Info

structure Spec where
  /-- The version of the description format. -/
  version : Option Text
  info : Option Info
  paths : Keyed Text (Keyed Text Details)
deriving DecidableEq

namespace Spec

/-- The operations of one route, in the order of its verbs. -/
def operationsOf (route : Text) (methods : Keyed Text Details) : List Operation :=
  methods.entries.map fun entry =>
    { route
      verb := Text.lower entry.1
      operationId := entry.2.operationId
      tag := primaryTag entry.2.tags
      description := entry.2.description.getD [] }

/-- All operations, route after route. -/
def operations (spec : Spec) : List Operation :=
  spec.paths.entries.flatMap fun entry => operationsOf entry.1 entry.2

def operationCount (spec : Spec) : Nat :=
  (spec.paths.values.flatMap Keyed.entries).length

/-- The operations filed under their tags. -/
def groups (spec : Spec) : Groups :=
  Groups.ofOperations spec.operations

/-- The groups, with a record of their number. -/
def group {ε : Type} (spec : Spec) : Logged ε Groups := do
  let groups := spec.groups
  Logged.note .debug <|
    "grouped ".toList ++ Text.ofNat (Groups.operationCount groups) ++
      " operations into ".toList ++ Text.ofNat groups.size ++ " tags".toList
  return groups

end Spec
end ApiServices
