import ApiServices.Keyed
import ApiServices.Operation

namespace ApiServices

/-!
# Operations by tag

Groups keep tags in the order in which they first turn up, and within each
tag the order in which its operations came in.
-/

/-- Operations filed under their tags. -/
abbrev Groups := Keyed Text (List Operation)

namespace Groups

/-- File one more operation under its tag. -/
def push (groups : Groups) (operation : Operation) : Groups :=
  groups.insert operation.tag ((groups.get? operation.tag).getD [] ++ [operation])

def ofOperations (operations : List Operation) : Groups :=
  operations.foldl push Keyed.empty

def operationCount (groups : Groups) : Nat :=
  groups.values.flatten.length

/-- All operations, tag after tag. -/
def operations (groups : Groups) : List Operation :=
  groups.values.flatten

end Groups
end ApiServices
