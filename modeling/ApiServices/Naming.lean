import ApiServices.Text.Alphabetic
import ApiServices.Text.Case
import ApiServices.Text.Numeric

namespace ApiServices

/-!
# Names in the generated code

Three names are derived from an API description.  A service takes its class
name from a tag, a method takes its name from the verb and the route unless
the operation brings its own, and a fixture takes the name of its service
with a lowercase first letter.
-/

/-- The tag of operations that declare none. -/
def defaultTag : Text :=
  "Default".toList

namespace ServiceName

/-- Characters that a tag keeps; all others separate words. -/
def isWordChar (c : Char) : Bool :=
  Text.isAlphabetic c || Text.isNumeric c || c == '_' || c == '$'

/-- The words of a tag. -/
def words (tag : Text) : List Text :=
  Text.runsBetween (!isWordChar ·) tag

/-- Words run together, each but the first with an uppercase first letter. -/
def joined : List Text -> Text
  | [] => []
  | first :: others => first ++ others.flatMap Text.upperFirst

/-- A name may not begin with a digit and may not be empty. -/
def guarded : Text -> Text
  | [] => defaultTag
  | c :: rest => if Text.isNumeric c then '_' :: c :: rest else c :: rest

/-- What the tag contributes to the name of its service. -/
def stem (tag : Text) : Text :=
  guarded (joined (words tag))

end ServiceName

/-- The class name of the service for a tag. -/
def serviceName (tag : Text) : Text :=
  ServiceName.stem tag ++ "Service".toList

/-- The file that holds a service class. -/
def serviceFileName (service : Text) : Text :=
  service ++ ".ts".toList

/-- The name of the fixture that hands out a service. -/
def fixtureField (service : Text) : Text :=
  Text.lowerFirst service

namespace MethodName

/-- The name inside a path segment that is one placeholder and nothing else. -/
def placeholder? : Text -> Option Text
  | '{' :: rest => if rest.getLast? = some '}' then some rest.dropLast else none
  | _ => none

def isNameChar (c : Char) : Bool :=
  c.isAlphanum

/-- What one path segment contributes: `By` and the name of its placeholder,
or its letters and digits with an uppercase first letter. -/
def ofSegment (segment : Text) : Text :=
  match placeholder? segment with
  | some name => 'B' :: 'y' :: Text.upperFirst name
  | none => Text.upperFirst (segment.filter isNameChar)

/-- The path segments of a route, without its query. -/
def segments (route : Text) : List Text :=
  Text.runsBetween (· == '/') (Text.upTo '?' route)

/-- The name derived from a verb and a route. -/
def ofRoute (verb route : Text) : Text :=
  if route.isEmpty then Text.lower verb
  else Text.lowerFirst (Text.lower verb ++ (segments route).flatMap ofSegment)

end MethodName

/-- The method name of an operation: its own identifier unless that is absent
or empty, and otherwise one derived from verb and route. -/
def methodName (verb route : Text) : Option Text -> Text
  | some (c :: rest) => c :: rest
  | _ => MethodName.ofRoute verb route

end ApiServices
