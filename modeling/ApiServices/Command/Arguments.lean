import ApiServices.Text.Basic

namespace ApiServices

/-!
# The command line

A command is a word and options.  An option has a long name and may have a
letter.  Its value, if it takes one, stands in the same word or in the next
one, where it may not look like an option itself.  No option may be given
twice, and there are no other words.
-/

inductive SummaryFormat
  | yaml
  | json
deriving DecidableEq

/-- The options of a generation that stand on the command line. -/
structure GenerateArguments where
  location : Option Text
  outputDir : Option Text
  testsDir : Option Text
  noMerge : Bool
  strict : Bool
  noSkeleton : Bool
deriving DecidableEq

inductive Command
  | showVersion
  | generate (arguments : GenerateArguments)
  | validate (location : Option Text)
  | inspect (location : Option Text) (format : SummaryFormat)
  | init (force : Bool)
deriving DecidableEq

/-- What an option wants to be given. -/
inductive OptionKind
  | flag
  /-- Any text. -/
  | text
  /-- A text that is not empty. -/
  | path
deriving DecidableEq

/-- An option of a command. -/
structure CommandOption where
  name : Text
  letter : Option Char
  kind : OptionKind
deriving DecidableEq

namespace CommandOption

def flag (name : String) : CommandOption :=
  ⟨name.toList, none, .flag⟩

/-- Where the description is. -/
def location : CommandOption :=
  ⟨"swagger-url".toList, some 's', .text⟩

def outputDir : CommandOption :=
  ⟨"output-dir".toList, some 'o', .path⟩

def testsDir : CommandOption :=
  ⟨"tests-dir".toList, some 't', .path⟩

def noMerge : CommandOption := flag "no-merge"

def strict : CommandOption := flag "strict"

def noSkeleton : CommandOption := flag "no-skeleton"

def format : CommandOption :=
  ⟨"format".toList, none, .text⟩

def force : CommandOption := flag "force"

end CommandOption

/-- The options that were given, by name; flags have empty values. -/
abbrev GivenOptions := List (Text × Text)

namespace Command

/-- The option that a word names, and the value that the word holds. -/
def optionOf? (options : List CommandOption) : Text -> Option (CommandOption × Option Text)
  | '-' :: '-' :: rest => do
    let option ← options.find? (·.name == Text.upTo '=' rest)
    let value := rest.drop option.name.length
    some (option, if value.isEmpty then none else some (value.drop 1))
  | '-' :: letter :: rest => do
    let option ← options.find? (·.letter == some letter)
    match rest with
    | [] => some (option, none)
    | '=' :: value => some (option, some value)
    | value => some (option, some value)
  | _ => none

/-- Whether a word would be taken for an option. -/
def looksLikeOption : Text -> Bool
  | '-' :: _ :: _ => true
  | _ => false

/-- Whether an option may have a value. -/
def admits (option : CommandOption) (value : Text) : Bool :=
  option.kind == .text || (option.kind == .path && !value.isEmpty)

/-- Read words as options.  Two dashes on their own end the options. -/
def given? (options : List CommandOption) : List Text -> Option GivenOptions
  | [] => some []
  | ['-', '-'] :: rest => if rest.isEmpty then some [] else none
  | word :: rest =>
    match optionOf? options word with
    | none => none
    | some (option, some value) =>
      if admits option value then (given? options rest).map ((option.name, value) :: ·) else none
    | some (option, none) =>
      if option.kind = .flag then (given? options rest).map ((option.name, []) :: ·)
      else
        match rest with
        | value :: rest =>
          if admits option value && !looksLikeOption value then
            (given? options rest).map ((option.name, value) :: ·)
          else none
        | [] => none

/-- Read words as options that are given at most once. -/
def options? (options : List CommandOption) (words : List Text) : Option GivenOptions :=
  (given? options words).filter fun given => decide (given.map Prod.fst).Nodup

def valueOf (given : GivenOptions) (option : CommandOption) : Option Text :=
  given.lookup option.name

def isGiven (given : GivenOptions) (option : CommandOption) : Bool :=
  (valueOf given option).isSome

/-- Where the description is; what the environment says holds if the command
line does not say it. -/
def locationOf (environment : Option Text) (given : GivenOptions) : Option Text :=
  valueOf given .location <|> environment

def formatOf? (given : GivenOptions) : Option SummaryFormat :=
  match valueOf given .format with
  | none => some .yaml
  | some name =>
    if name = "yaml".toList then some .yaml
    else if name = "json".toList then some .json
    else none

def generate? (environment : Option Text) (words : List Text) : Option Command := do
  let given ← options?
    [.location, .outputDir, .testsDir, .noMerge, .strict, .noSkeleton] words
  some (.generate {
    location := locationOf environment given
    outputDir := valueOf given .outputDir
    testsDir := valueOf given .testsDir
    noMerge := isGiven given .noMerge
    strict := isGiven given .strict
    noSkeleton := isGiven given .noSkeleton })

def validate? (environment : Option Text) (words : List Text) : Option Command := do
  let given ← options? [.location] words
  some (.validate (locationOf environment given))

def inspect? (environment : Option Text) (words : List Text) : Option Command := do
  let given ← options? [.location, .format] words
  some (.inspect (locationOf environment given) (← formatOf? given))

def init? (words : List Text) : Option Command := do
  let given ← options? [.force] words
  some (.init (isGiven given .force))

/-- The command that the words of a command line make, given where the
environment says that the description is. -/
def ofWords? (environment : Option Text) : List Text -> Option Command
  | [] => none
  | word :: rest =>
    if word = "--version".toList || "-V".toList.isPrefixOf word then some .showVersion
    else if word = "generate".toList then generate? environment rest
    else if word = "validate".toList then validate? environment rest
    else if word = "inspect".toList then inspect? environment rest
    else if word = "init".toList then init? rest
    else none

end Command
end ApiServices
