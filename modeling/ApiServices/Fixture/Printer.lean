import ApiServices.Fixture.Basic
import ApiServices.Naming

namespace ApiServices

/-!
# Writing the fixture file

The file has one line per entry in its import block and in its type block,
and four lines per entry in its fixture block.  The binding of an import is
the service name as it is, so the entries can be read back from the import
block alone.
-/

/-- The module that the generated code imports its test base from. -/
def frameworkModule : Text :=
  "@playwright/test".toList

/-- The name of the fixture file in the tests directory. -/
def fixtureFileName : Text :=
  "base.ts".toList

namespace FixtureSet

/-- A named import with one binding. -/
def importLine (binding path : Text) : Text :=
  "import \x7b ".toList ++ binding ++ " \x7d from '".toList ++ path ++ "';".toList

/-- The line that gives a fixture its type. -/
def typeLine (name : Text) : Text :=
  "  ".toList ++ fixtureField name ++ ": ".toList ++ name ++ [';']

/-- The lines that define a fixture; a comma separates it from the next. -/
def definitionLines (name : Text) (isLast : Bool) : List Text :=
  [ "  ".toList ++ fixtureField name ++ ": async (\x7b request \x7d, use) => \x7b".toList,
    "    const service = new ".toList ++ name ++ "(request);".toList,
    "    await use(service);".toList,
    if isLast then "  \x7d".toList else "  \x7d,".toList ]

def definitions : List Text -> List Text
  | [] => []
  | name :: rest => definitionLines name rest.isEmpty ++ definitions rest

/-- The lines of the fixture file. -/
def fileLines (set : FixtureSet) : List Text :=
  [importLine "test as base".toList frameworkModule]
    ++ set.entries.map (fun entry => importLine entry.1 entry.2)
    ++ [[], "type MyFixtures = \x7b".toList]
    ++ set.keys.map typeLine
    ++ ["\x7d;".toList, [], "export const test = base.extend<MyFixtures>(\x7b".toList]
    ++ definitions set.keys
    ++ ["\x7d);".toList, [],
      "export \x7b expect \x7d from '".toList ++ frameworkModule ++ "';".toList]

/-- The text of the fixture file; every line is ended by a line feed. -/
def render (set : FixtureSet) : Text :=
  set.fileLines.flatMap (· ++ ['\n'])

end FixtureSet
end ApiServices
