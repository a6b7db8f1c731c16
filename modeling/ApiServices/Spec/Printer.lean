import ApiServices.Json.Printer
import ApiServices.Spec.Basic

namespace ApiServices

/-!
# Descriptions as values

What is written for a description and for its groups.  The details of an
operation leave out what is not there; the parts of a description and of an
operation are always present, with a null where there is nothing.
-/

namespace Details

/-- The fields that say something. -/
def toFields (details : Details) : List (Text × Value) :=
  (if details.tags.isEmpty then [] else [("tags".toList, .ofTexts details.tags)])
    ++ (details.operationId.map fun t => ("operationId".toList, Value.text t)).toList
    ++ (details.description.map fun t => ("description".toList, Value.text t)).toList

def toValue (details : Details) : Value :=
  .ofFields details.toFields

end Details

namespace Info

def toValue (info : Info) : Value :=
  .ofFields [("title".toList, .text info.title), ("version".toList, .text info.version)]

end Info

namespace Operation

def toValue (operation : Operation) : Value :=
  .ofFields
    [ ("route".toList, .text operation.route),
      ("verb".toList, .text operation.verb),
      ("operation_id".toList, .ofText? operation.operationId),
      ("tag".toList, .text operation.tag),
      ("description".toList, .text operation.description) ]

end Operation

namespace Spec

def pathsValue (paths : Keyed Text (Keyed Text Details)) : Value :=
  .ofFields <| Keyed.entries <| paths.mapValues fun methods =>
    .ofFields (methods.mapValues Details.toValue).entries

def toValue (spec : Spec) : Value :=
  .ofFields
    [ ("spec_version".toList, .ofText? spec.version),
      ("info".toList, (spec.info.map Info.toValue).getD .null),
      ("paths".toList, pathsValue spec.paths) ]

end Spec

namespace Groups

def toValue (groups : Groups) : Value :=
  .ofFields <| Keyed.entries <| groups.mapValues fun operations =>
    .list (operations.map Operation.toValue)

end Groups
end ApiServices
