import ApiServices.Document.Value
import ApiServices.Groups
import ApiServices.Naming

namespace ApiServices

/-!
# Summaries

What generation would make of a description, without the code: the services
and the names and parameters of their methods.
-/

namespace Operation

/-- A method in a summary. -/
def summary (operation : Operation) : Value :=
  .ofFields
    [ ("name".toList, .text operation.methodName),
      ("verb".toList, .text operation.verb),
      ("route".toList, .text operation.route),
      ("path_params".toList, .ofTexts operation.pathParams),
      ("payload".toList, .bool operation.needsPayload) ]

end Operation

namespace Groups

/-- A service in a summary. -/
def serviceSummary (tag : Text) (operations : List Operation) : Value :=
  .ofFields
    [ ("tag".toList, .text tag),
      ("service".toList, .text (serviceName tag)),
      ("methods".toList, .list (operations.map Operation.summary)) ]

/-- The services and their methods, in the order of the tags. -/
def summary (groups : Groups) : Value :=
  .ofFields
    [("services".toList, .list (groups.entries.map fun entry => serviceSummary entry.1 entry.2))]

end Groups
end ApiServices
