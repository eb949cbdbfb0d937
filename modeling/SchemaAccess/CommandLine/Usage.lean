import SchemaAccess.CommandLine.Options
import SchemaAccess.Text.Quoted

namespace SchemaAccess.CommandLine

inductive Level where
  | program
  | compile
deriving Repr, DecidableEq

def helpOption : OptionSpec := ⟨"--help", none, false⟩

def verboseOption : OptionSpec := ⟨"--verbose", some 'v', false⟩

namespace Level

def options : Level → List OptionSpec
  | .program => [verboseOption, helpOption]
  | .compile => [⟨"--auth-config", none, true⟩, ⟨"--out-dir", none, true⟩,
      ⟨"--max-resources-per-policy", none, true⟩, helpOption]

def call : Level → String
  | .program => "authsync"
  | .compile => "authsync compile"

def usage : Level → String
  | .program => "Usage: authsync [OPTIONS] COMMAND [ARGS]...\n"
  | .compile => "Usage: authsync compile [OPTIONS] SCHEMA\n"

def help (level : Level) : String := level.usage ++
  match level with
  | .program =>
    "\n" ++
    "Options:\n" ++
    "  -v, --verbose  Increase verbosity. -v for INFO, -vv for DEBUG logs.\n" ++
    "  --help         Show this message and exit.\n" ++
    "\n" ++
    "Commands:\n" ++
    "  compile  Processes @auth directives of SCHEMA and writes the transformed...\n"
  | .compile =>
    "\n" ++
    "  Processes @auth directives of SCHEMA and writes the transformed schema and\n" ++
    "  policies.\n" ++
    "\n" ++
    "Options:\n" ++
    "  --auth-config FILE              JSON file with defaultAuthentication and\n" ++
    "                                  additionalAuthenticationProviders.  [required]\n" ++
    "  --out-dir DIRECTORY             Directory for schema.graphql and stack.json.\n" ++
    "                                  [default: build]\n" ++
    "  --max-resources-per-policy INTEGER RANGE\n" ++
    "                                  Maximum number of resources in one policy\n" ++
    "                                  document.  [default: 25; x>=1]\n" ++
    "  --help                          Show this message and exit.\n"

end Level

def commands : List String := ["compile"]

inductive ValueProblem where
  | noFile (path : String)
  | directoryForFile (path : String)
  | fileForDirectory (path : String)
  | notANumber (text : String)
  | outOfRange (n : Int)
deriving Repr, DecidableEq

def ValueProblem.message : ValueProblem → String
  | .noFile path => s!"File {Text.quoted path} does not exist."
  | .directoryForFile path => s!"File {Text.quoted path} is a directory."
  | .fileForDirectory path => s!"Directory {Text.quoted path} is a file."
  | .notANumber text => s!"{Text.quoted text} is not a valid integer range."
  | .outOfRange n => s!"{n} is not in the range x>=1."

inductive UsageFault where
  | option (fault : OptionFault)
  | commandMissing
  | unknownCommand (name : String) (similar : List String)
  | argumentMissing (name : String)
  | optionMissing (name : String)
  | badValue (parameter : String) (problem : ValueProblem)
  | extraArguments (args : List String)
deriving Repr, DecidableEq

def withSuggestions (message : String) (similar : List String) : String :=
  match similar with
  | [] => message
  | [one] => s!"{message} Did you mean {Text.quoted one}?"
  | several =>
    let names := ", ".intercalate ((several.mergeSort fun a b => !decide (b < a)).map Text.quoted)
    s!"{message} (Did you mean one of: {names}?)"

namespace UsageFault

def message : UsageFault → String
  | .option (.unknown name similar) => withSuggestions s!"No such option {Text.quoted name}." similar
  | .option (.valueMissing name) => s!"Option {Text.quoted name} requires an argument."
  | .option (.valueRefused name) => s!"Option {Text.quoted name} does not take a value."
  | .commandMissing => "Missing command."
  | .unknownCommand name similar => withSuggestions s!"No such command {Text.quoted name}." similar
  | .argumentMissing name => s!"Missing argument '{name}'."
  | .optionMissing name => s!"Missing option '{name}'."
  | .badValue parameter problem => s!"Invalid value for '{parameter}': {problem.message}"
  | .extraArguments args =>
    let noun := if args.length = 1 then "argument" else "arguments"
    let shown := " ".intercalate args
    s!"Got unexpected extra {noun} ({shown})"

/-- A value that is missing, or not wanted, is reported without a word on usage. -/
def showsUsage : UsageFault → Bool
  | .option (.valueMissing _) | .option (.valueRefused _) => false
  | _ => true

def report (level : Level) (f : UsageFault) : String :=
  let usage := if f.showsUsage then level.usage ++ s!"Try '{level.call} --help' for help.\n\n" else ""
  usage ++ s!"Error: {f.message}\n"

end UsageFault

end SchemaAccess.CommandLine
