import ApiServices.Disk.Program
import ApiServices.Fixture.Reader
import ApiServices.Service
import ApiServices.Skeleton
import ApiServices.Spec.Basic

namespace ApiServices

/-!
# A generation run

A run writes one file per service, brings the fixture file up to date and
writes the starter test where there is none.  All services are known before
the disk is touched, so ambiguous names leave it as it was.

The fixture file may hold services of other runs and may be in use by one
right now.  It is opened without being emptied, and locked; it is emptied only
when its new text is known.
-/

/-- Where and how a run writes. -/
structure GenerationOptions where
  outputDir : Text
  testsDir : Text
  /-- Keep the services that the fixture file has from earlier runs. -/
  merge : Bool
  /-- Refuse ambiguous method names. -/
  strict : Bool
  /-- Write the starter test where there is none. -/
  skeleton : Bool
  importExtension : Text
deriving DecidableEq

/-- What a run has done. -/
structure GenerationReport where
  /-- The names of the services, in the order of their tags. -/
  services : List Text
  /-- The files written, in the order of their writing. -/
  written : List Text
deriving DecidableEq

/-- Why a run failed. -/
inductive GenerationError
  | ambiguousName (error : AmbiguousName)
  | malformedFixture (error : FixtureError)
  | disk (path : Text) (cause : DiskError)
deriving DecidableEq

namespace GenerationError

def message : GenerationError -> Text
  | .ambiguousName error => error.message
  | .malformedFixture error => error.message
  | .disk path cause => "i/o error on ".toList ++ path ++ ": ".toList ++ cause.message

end GenerationError

namespace Generation

/-- A step of a run. -/
abbrev Action := Program GenerationError

/-- The result of a request that may fail; a failure is reported with the path. -/
def require {α : Type} (path : Text) (reply : Except DiskError α) : Action α :=
  match reply with
  | .ok a => pure a
  | .error cause => Program.fail (.disk path cause)

/-- Carry out a change on a path. -/
def demand (path : Text) (change : Change) : Action Unit := do
  require path (← Program.perform (.change change))

def info (message : Text) : Action Unit :=
  .note ⟨.info, message⟩ (pure ())

/-! ## Service files -/

/-- Warn of services that have the name of an earlier one: their files will
take the place of the earlier file. -/
def warnOfRepeats (seen : List Text) : List Service -> Action Unit
  | [] => pure ()
  | service :: rest => do
    if seen.contains service.name then
      Program.note ⟨.warn, "two tags map to ".toList ++ service.name
        ++ ", the later one overwrites ".toList ++ service.path⟩ (pure ())
    warnOfRepeats (service.name :: seen) rest

/-- The file that a service is written to. -/
def servicePath (outputDir : Text) (service : Service) : Text :=
  Path.join outputDir service.path

def writeService (outputDir : Text) (service : Service) : Action Unit := do
  let path := servicePath outputDir service
  demand path (.write path service.content)
  info <|
    "generated ".toList ++ service.name ++ " (".toList ++ Text.ofNat service.operations.length
      ++ " methods) in ".toList ++ path

/-! ## The fixture file -/

/-- The text that a fixture file is to have after a run, given its text. -/
def nextFixtureText (path : Text) (entries : List (Text × Text)) (merge : Bool)
    (existing : Text) : Action Text := do
  let hasContent := !(Text.trim existing).isEmpty
  if hasContent && !merge then
    info ("merge disabled, overwriting ".toList ++ path)
  let prior := if merge && hasContent then some existing else none
  Program.ofLogged ((mergeFixtureFile prior entries).mapError .malformedFixture)

/-- Read the fixture file and write it anew.  The file has to be locked. -/
def renewFixtureFile (path : Text) (entries : List (Text × Text)) (merge : Bool) :
    Action Unit := do
  let existing ← require path (← Program.perform (.read path))
  let next ← nextFixtureText path entries merge existing
  demand path (.truncate path)
  demand path (.fill path next)

/-- What becomes of the outcome of the work on the file when its lock is given
up.  An error of the work goes before one of the unlocking. -/
def release (path : Text) (outcome : Except GenerationError Unit)
    (unlocked : Except DiskError Unit) : Action Unit :=
  match outcome, unlocked with
  | outcome, .ok () => .done outcome
  | .ok (), .error cause => Program.fail (.disk path cause)
  | .error error, .error cause =>
    .note ⟨.warn, "failed to unlock ".toList ++ path ++ ": ".toList ++ cause.message⟩
      (Program.fail error)

/-- Bring the fixture file up to date while holding its lock. -/
def updateFixtureFile (path : Text) (entries : List (Text × Text)) (merge : Bool) :
    Action Unit := do
  demand path (.openFile path)
  demand path (.lock path)
  let outcome ← (renewFixtureFile path entries merge).attempt
  release path outcome (← Program.perform (.change (.unlock path)))

/-! ## The run -/

/-- Write the starter test, unless something is in its place, and give the
files written. -/
def writeSkeleton (path : Text) : Action (List Text) := do
  if ← Program.perform (.isTaken path) then
    Program.note ⟨.debug, path ++ " exists, leaving it alone".toList⟩ (pure [])
  else
    demand path (.write path skeletonText)
    return [path]

/-- The absolute form of a path in the options. -/
def absolute (workingDirectory path : Text) : Action Text :=
  match Path.absolute? workingDirectory path with
  | some found => pure found
  | none => Program.fail (.disk path .emptyPath)

/-- The fixture entries of services. -/
def fixtureEntries (testsDir outputDir extension : Text) (services : List Service) :
    List (Text × Text) :=
  services.map fun service =>
    (service.name, Path.importPath testsDir outputDir service.name extension)

/-- Write services and what goes with them to absolute directories. -/
def writeAll (outputDir testsDir : Text) (options : GenerationOptions) (services : List Service) :
    Action GenerationReport := do
  demand outputDir (.makeDirs outputDir)
  services.forM (writeService outputDir)
  demand testsDir (.makeDirs testsDir)
  let fixturePath := Path.join testsDir fixtureFileName
  let entries := fixtureEntries testsDir outputDir options.importExtension services
  updateFixtureFile fixturePath entries options.merge
  info ("updated ".toList ++ fixturePath)
  let started ←
    if options.skeleton then writeSkeleton (Path.join testsDir skeletonFileName) else pure []
  return {
    services := services.map Service.name
    written := services.map (servicePath outputDir) ++ fixturePath :: started }

end Generation

/-- Generate the services of a description. -/
def generate (workingDirectory : Text) (options : GenerationOptions) (spec : Spec) :
    Program GenerationError GenerationReport := do
  let groups ← Program.ofLogged spec.group
  let services ←
    Program.ofLogged ((Groups.services groups options.strict).mapError .ambiguousName)
  Generation.warnOfRepeats [] services
  let outputDir ← Generation.absolute workingDirectory options.outputDir
  let testsDir ← Generation.absolute workingDirectory options.testsDir
  Generation.writeAll outputDir testsDir options services

end ApiServices
