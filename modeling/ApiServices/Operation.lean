import ApiServices.Naming
import ApiServices.Route

namespace ApiServices

/-!
# Operations

An operation is what an API does on one route with one verb.
-/

structure Operation where
  route : Text
  verb : Text
  operationId : Option Text
  tag : Text
  description : Text
deriving DecidableEq

namespace Operation

/-- Verbs whose requests carry a body. -/
def payloadVerbs : List Text :=
  ["post".toList, "put".toList, "patch".toList]

/-- Whether the request carries a body; letter case does not matter. -/
def needsPayload (operation : Operation) : Bool :=
  payloadVerbs.contains (operation.verb.map Char.toLower)

def methodName (operation : Operation) : Text :=
  ApiServices.methodName operation.verb operation.route operation.operationId

def pathParams (operation : Operation) : List Text :=
  Route.params operation.route

end Operation

/-- The tag an operation is filed under: its first one, unless that is
missing or empty. -/
def primaryTag : List Text -> Text
  | (c :: rest) :: _ => c :: rest
  | _ => defaultTag

end ApiServices
