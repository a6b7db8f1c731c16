import ApiServices.Fixture.Printer
import ApiServices.Groups
import ApiServices.Logged

namespace ApiServices

/-!
# Service classes

Every tag gives one service class, with one method per operation of the tag
in their order.  Two operations of a tag may come to the same method name.
That is a warning, and both methods are written; when names are required to
be unambiguous it is an error, and nothing is generated.
-/

/-- A generated class: its file and the operations it covers. -/
structure Service where
  name : Text
  path : Text
  content : Text
  operations : List Operation
deriving DecidableEq

/-- A method name that an earlier operation of the same service has taken. -/
structure AmbiguousName where
  service : Text
  method : Text
deriving DecidableEq

namespace AmbiguousName

def message (error : AmbiguousName) : Text :=
  "ambiguous method name `".toList ++ error.method ++ "` in ".toList ++ error.service

end AmbiguousName

namespace Service

/-- The parameters of a method: one per placeholder, and the payload. -/
def parameters (operation : Operation) : List Text :=
  operation.pathParams.map (· ++ ": string | number".toList)
    ++ if operation.needsPayload then ["data?: any".toList] else []

/-- The line that opens a method. -/
def signatureLine (operation : Operation) : Text :=
  "  async ".toList ++ operation.methodName ++ "(".toList
    ++ Text.joinWith ", ".toList (parameters operation) ++ ") \x7b".toList

/-- The line that sends the request. -/
def requestLine (operation : Operation) : Text :=
  "    const res = await this.request.".toList ++ Text.lower operation.verb ++ "(`".toList
    ++ Route.template operation.route ++ "`".toList
    ++ (if operation.needsPayload then ", \x7b data \x7d".toList else []) ++ ");".toList

/-- A method, set off from what precedes it by an empty line. -/
def methodLines (operation : Operation) : List Text :=
  [[], signatureLine operation, requestLine operation, "    return res;".toList, "  \x7d".toList]

/-- The lines of a service file. -/
def fileLines (name : Text) (operations : List Operation) : List Text :=
  [ "import \x7b APIRequestContext \x7d from '".toList ++ frameworkModule ++ "';".toList,
    [],
    "export class ".toList ++ name ++ " \x7b".toList,
    "  constructor(private request: APIRequestContext) \x7b\x7d".toList ]
    ++ operations.flatMap methodLines
    ++ ["\x7d".toList]

/-- The text of a service file; every line is ended by a line feed. -/
def fileText (name : Text) (operations : List Operation) : Text :=
  (fileLines name operations).flatMap (· ++ ['\n'])

/-- The service for a tag. -/
def ofTag (tag : Text) (operations : List Operation) : Service where
  name := serviceName tag
  path := serviceFileName (serviceName tag)
  content := fileText (serviceName tag) operations
  operations := operations

/-- Look for method names that are taken, given those of earlier operations. -/
def checkNames (service : Text) (strict : Bool) (taken : List Text) :
    List Operation -> Logged AmbiguousName Unit
  | [] => pure ()
  | operation :: rest => do
    let name := operation.methodName
    if taken.contains name then
      if strict then
        Logged.fail ⟨service, name⟩
      else
        Logged.note .warn <|
          service ++ ": `".toList ++ operation.verb ++ [' '] ++ operation.route
            ++ "` derives `".toList ++ name ++ "`, which is already taken".toList
    checkNames service strict (name :: taken) rest

/-- Emit the service for a tag. -/
def emit (tag : Text) (operations : List Operation) (strict : Bool) :
    Logged AmbiguousName Service := do
  checkNames (serviceName tag) strict [] operations
  return ofTag tag operations

end Service

namespace Groups

/-- Emit one service per tag, in the order of the tags. -/
def services (groups : Groups) (strict : Bool) : Logged AmbiguousName (List Service) :=
  groups.entries.mapM fun entry => Service.emit entry.1 entry.2 strict

end Groups
end ApiServices
