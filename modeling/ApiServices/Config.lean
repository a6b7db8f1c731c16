import ApiServices.Disk.Program
import ApiServices.Generation
import ApiServices.Yaml.Tree

namespace ApiServices

/-!
# The configuration file

A project may keep its settings in a file.  It is a YAML record in which every
field may be missing; what is missing has its default.
-/

structure Config where
  /-- Where the description is: a URL or a path. -/
  input : Text
  /-- The directory of the services. -/
  output : Text
  /-- The directory of the fixture file and the starter test. -/
  testsDir : Text
  merge : Bool
  strict : Bool
  skeleton : Bool
  /-- What is put after the names of services where they are imported. -/
  importExtension : Text
deriving DecidableEq

/-- Why a configuration file was refused. -/
inductive ConfigError
  | unreadable (path : Text) (cause : DiskError)
  | malformed (path : Text)
deriving DecidableEq

namespace ConfigError

def message : ConfigError -> Text
  | .unreadable path cause =>
    "failed to read config ".toList ++ path ++ ": ".toList ++ cause.message
  | .malformed path => "failed to parse config ".toList ++ path

end ConfigError

namespace Config

def fileName : Text :=
  ".psg.yaml".toList

def defaultInput : Text :=
  "https://petstore.swagger.io/v2/swagger.json".toList

/-- The settings of a project that says nothing. -/
def standard : Config where
  input := defaultInput
  output := "services".toList
  testsDir := "tests".toList
  merge := true
  strict := false
  skeleton := true
  importExtension := ".js".toList

def standardLines : List Text :=
  [ "# psg configuration".toList,
    "input: ".toList ++ defaultInput ++ "   # URL or local path (JSON or YAML)".toList,
    "output: services        # one <Tag>Service.ts per tag".toList,
    "tests_dir: tests        # base.ts fixture aggregator lives here".toList,
    [],
    "merge: true             # keep services from earlier runs in base.ts".toList,
    "strict: false           # fail when two operations in a tag get the same method name".toList,
    "skeleton: true          # write tests/skeleton-test.ts if missing".toList,
    "import_extension: .js   # suffix for service imports in base.ts".toList ]

/-- The text of a configuration file that says what holds anyway. -/
def standardText : Text :=
  standardLines.flatMap (· ++ ['\n'])

def fields (document : Document) : Document.Fields Config :=
  [ ("input".toList, fun config node => do
      return { config with input := ← document.textOf node }),
    ("output".toList, fun config node => do
      return { config with output := ← document.textOf node }),
    ("tests_dir".toList, fun config node => do
      return { config with testsDir := ← document.textOf node }),
    ("merge".toList, fun config node => do
      return { config with merge := ← document.flagOf node }),
    ("strict".toList, fun config node => do
      return { config with strict := ← document.flagOf node }),
    ("skeleton".toList, fun config node => do
      return { config with skeleton := ← document.flagOf node }),
    ("import_extension".toList, fun config node => do
      return { config with importExtension := ← document.textOf node }) ]

/-- The settings that a text describes. -/
def parse? (text : Text) : Option Config :=
  let document := Yaml.documentOf text
  (document.read (document.record (fields document) standard)).outcome.toOption

/-- Read a configuration file, if there is one. -/
def load (workingDirectory path : Text) : Program ConfigError (Option Config) := do
  let place := Path.seenFrom workingDirectory path
  if ← Program.perform (.isTaken place) then
    match ← Program.perform (.read place) with
    | .error cause => Program.fail (.unreadable path cause)
    | .ok text =>
      match parse? text with
      | none => Program.fail (.malformed path)
      | some config => return some config
  else return none

/-- How a run goes with these settings. -/
def generationOptions (config : Config) : GenerationOptions where
  outputDir := config.output
  testsDir := config.testsDir
  merge := config.merge
  strict := config.strict
  skeleton := config.skeleton
  importExtension := config.importExtension

end Config
end ApiServices
