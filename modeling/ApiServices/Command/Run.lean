import ApiServices.Command.Arguments
import ApiServices.Config
import ApiServices.Spec.Reader
import ApiServices.Summary
import ApiServices.Yaml.Printer

namespace ApiServices

/-!
# Carrying out commands

A command reads the configuration file where it needs it, reads the
description, and prints what it has to say at its end.  The command line goes
before the configuration file, and the file before the defaults.
-/

/-- What a command prints. -/
structure Printed where
  out : Text
  err : Text
deriving DecidableEq

/-- Why a command failed. -/
inductive CommandError
  | config (error : ConfigError)
  /-- The description could not be read from the disk. -/
  | unread (location : Text) (cause : DiskError)
  /-- The description is on a server that was not reached. -/
  | unfetched (location : Text)
  | spec (location : Text) (error : SpecError)
  | generation (error : GenerationError)
  | configExists
  | configUnwritten (cause : DiskError)
deriving DecidableEq

namespace CommandError

def message : CommandError -> Text
  | .config error => error.message
  | .unread location _ => "failed to read ".toList ++ location
  | .unfetched location => "failed to fetch ".toList ++ location
  | .spec location _ => "failed to parse spec ".toList ++ location
  | .generation error => error.message
  | .configExists =>
    Config.fileName ++ " already exists. Use --force to overwrite.".toList
  | .configUnwritten cause => cause.message

/-- What lies behind an error whose message does not say it. -/
def cause? : CommandError -> Option Text
  | .unread _ cause => some cause.message
  | .spec _ (.malformed fault) => some fault.message
  | .generation (.disk _ cause) => some cause.message
  | _ => none

end CommandError

namespace Command

/-- The steps of a command. -/
abbrev Action := Program CommandError

def programName : Text :=
  "psg".toList

def version : Text :=
  "0.3.0".toList

/-- The settings of the project in a directory. -/
def configIn (workingDirectory : Text) : Action Config := do
  let found ← (Config.load workingDirectory Config.fileName).mapError .config
  return found.getD .standard

/-- Whether a location is on a server. -/
def isRemote (location : Text) : Bool :=
  "http://".toList.isPrefixOf location || "https://".toList.isPrefixOf location

/-- Read the description at a location. -/
def loadSpec (workingDirectory location : Text) : Action Spec :=
  if isRemote location then Program.fail (.unfetched location)
  else do
    match ← Program.perform (.read (Path.seenFrom workingDirectory location)) with
    | .error cause => Program.fail (.unread location cause)
    | .ok text => Program.ofLogged ((Spec.parse text).mapError (.spec location))

/-- Read the description at the location on the command line, or else at the
one in the configuration file. -/
def chosenSpec (workingDirectory : Text) (location : Option Text) : Action Spec := do
  match location with
  | some location => loadSpec workingDirectory location
  | none => loadSpec workingDirectory (← configIn workingDirectory).input

def printedLines (lines : List Text) : Text :=
  lines.flatMap (· ++ ['\n'])

/-- The settings of the configuration file as the command line changes them. -/
def adjusted (config : Config) (arguments : GenerateArguments) : Config :=
  { config with
    input := arguments.location.getD config.input
    output := arguments.outputDir.getD config.output
    testsDir := arguments.testsDir.getD config.testsDir
    merge := config.merge && !arguments.noMerge
    strict := config.strict || arguments.strict
    skeleton := config.skeleton && !arguments.noSkeleton }

def reportLines (report : GenerationReport) : List Text :=
  report.written.map ("  wrote ".toList ++ ·)
    ++ [ "Generated ".toList ++ Text.ofNat report.services.length ++ " services: ".toList
        ++ Text.joinWith ", ".toList report.services ]

def runGenerate (workingDirectory : Text) (arguments : GenerateArguments) : Action Printed := do
  let config := adjusted (← configIn workingDirectory) arguments
  let spec ← loadSpec workingDirectory config.input
  let report ←
    (ApiServices.generate workingDirectory config.generationOptions spec).mapError .generation
  return ⟨[], printedLines (reportLines report)⟩

/-- What is said about the heading of a description. -/
def validLine (spec : Spec) : Text :=
  match spec.version, spec.info with
  | some version, some info =>
    "Valid spec (".toList ++ version ++ "): ".toList ++ info.title ++ [' '] ++ info.version
  | some version, none => "Valid spec (".toList ++ version ++ [')']
  | none, _ => "Valid spec (no version field)".toList

def validationLines (spec : Spec) (groups : Groups) : List Text :=
  [ validLine spec,
    "  Paths: ".toList ++ Text.ofNat spec.paths.size,
    "  Operations: ".toList ++ Text.ofNat (Groups.operationCount groups),
    "  Services: ".toList ++ Text.ofNat groups.size,
    "Validation successful.".toList ]

def runValidate (workingDirectory : Text) (location : Option Text) : Action Printed := do
  let spec ← chosenSpec workingDirectory location
  let groups ← Program.ofLogged spec.group
  return ⟨[], printedLines (validationLines spec groups)⟩

/-- A value as a document in a format. -/
def documentText (value : Value) : SummaryFormat -> Text
  | .yaml => Yaml.document value
  | .json => Json.indented 0 value ++ ['\n']

def runInspect (workingDirectory : Text) (location : Option Text) (format : SummaryFormat) :
    Action Printed := do
  let spec ← chosenSpec workingDirectory location
  let groups ← Program.ofLogged spec.group
  return ⟨documentText (Groups.summary groups) format, []⟩

def runInit (workingDirectory : Text) (force : Bool) : Action Printed := do
  let place := Path.seenFrom workingDirectory Config.fileName
  let taken ← Program.perform (.isTaken place)
  if taken && !force then Program.fail .configExists
  else
    match ← Program.perform (.change (.write place Config.standardText)) with
    | .error cause => Program.fail (.configUnwritten cause)
    | .ok () => return ⟨[], printedLines ["Created ".toList ++ Config.fileName]⟩

/-- Carry out a command in a directory. -/
def run (workingDirectory : Text) : Command -> Action Printed
  | .showVersion => return ⟨printedLines [programName ++ [' '] ++ version], []⟩
  | .generate arguments => runGenerate workingDirectory arguments
  | .validate location => runValidate workingDirectory location
  | .inspect location format => runInspect workingDirectory location format
  | .init force => runInit workingDirectory force

end Command
end ApiServices
