import SchemaAccess.CommandLine.Arguments
import SchemaAccess.CommandLine.Log
import SchemaAccess.Compile
import SchemaAccess.Json.Reader
import SchemaAccess.Json.Writer
import SchemaAccess.Text.ControlSequence
import SchemaAccess.Text.Markup
import SchemaAccess.Text.Table

namespace SchemaAccess.CommandLine

/-- What a call can end with besides its own messages. -/
inductive Crash where
  | failure (failure : Failure)
  | markup (fault : Text.Markup.Fault)

def Crash.message : Crash → String
  | .failure e => e.message
  | .markup fault => fault.message

/-- A directory that is made if needed, and the files that are written into it, in order. -/
structure Delivery where
  directory : Path
  files : List (String × String)
deriving Repr, DecidableEq

structure Outcome where
  exitCode : Nat
  /-- What is printed, but for lines of the log. -/
  output : String
  /-- Whether the call got as far as opening the log. -/
  logged : Bool
  delivery : Option Delivery
  crash : Option Crash

namespace Outcome

def plain (exitCode : Nat) (logged : Bool) (output : String) : Outcome :=
  ⟨exitCode, Text.withoutSequences output, logged, none, none⟩

/-- Nothing is printed by a call that crashes. -/
def crashed (delivery : Option Delivery) (crash : Crash) : Outcome := ⟨1, "", true, delivery, some crash⟩

/-- A call that says something with style tags in it, after what it delivers. -/
def styled (exitCode : Nat) (delivery : Option Delivery) (line rest : String) : Outcome :=
  match Text.Markup.unstyled line with
  | .ok line => ⟨exitCode, line ++ "\n" ++ rest, true, delivery, none⟩
  | .error fault => crashed delivery (.markup fault)

/-- What comes behind lines of the log. The first of them that is shown and cannot be read ends the call. -/
def after (verbosity : Nat) (lines : List LogLine) (delivery : Option Delivery) (rest : Outcome) : Outcome :=
  match lines.forM (·.display verbosity) with
  | .ok () => rest
  | .error fault => crashed delivery (.markup fault)

/-- What a call comes to that is to show its log if it is verbose. -/
def logging (verbosity : Nat) (logFile : String) (rest : Outcome) : Outcome :=
  if verbosity = 0 then rest
  else match Text.Markup.unstyled (logNotice logFile) with
    | .ok notice => { rest with output := notice ++ "\n" ++ rest.output }
    | .error fault => crashed none (.markup fault)

end Outcome

def policyTable (policies : List Policy.Document) : Text.Table where
  head := ["Policy", "Role", "Resources"]
  rows := policies.map fun d => [d.name, Vocabulary.word d.role, toString d.resources.length]

def policyReport (policies : List Policy.Document) : String :=
  if policies.isEmpty then "No IAM policies needed.\n" else (policyTable policies).drawn

def deliveryOf (directory : Path) (o : Pass.Output) : Delivery where
  directory := directory
  files := [("schema.graphql", o.schema ++ "\n"), ("stack.json", Json.indented 0 o.template.toValue ++ "\n")]

def readConfig (text : String) : Except String Access.Config :=
  match Json.read text with
  | .error fault => .error fault.message
  | .ok v => (Access.Config.ofValue v).mapError Failure.message

def textAt (look : String → FileNode) (path : String) : String := ((look path).text?).getD ""

def compileFiles (look : String → FileNode) (verbosity : Nat) (args : Arguments) : Outcome :=
  let schema := Path.ofText args.schema
  match readConfig (textAt look args.config) with
  | .error message =>
    let path := (Path.ofText args.config).shown
    .plain 1 true s!"Error: Invalid auth config {path}: {message}\n"
  | .ok config =>
    let text := textAt look args.schema
    .after verbosity ((boundFunctions text config args.cap).map .bound) none <|
      match compile text config args.cap with
      | .error e =>
        if e.isRejection then
          .after verbosity [.rejected schema] none
            (.styled 1 none s!"[bold red]✗ {schema.shown}[/bold red]: {e.message}" "")
        else .crashed none (.failure e)
      | .ok o =>
        let directory := Path.ofText args.outDirectory
        let delivery := some (deliveryOf directory o)
        .after verbosity [.written directory] delivery
          (.styled 0 delivery s!"[bold green]✓[/bold green] Compiled {schema.shown}" (policyReport o.policies))

def runCompile (look : String → FileNode) (verbosity : Nat) (args : List String) : Outcome :=
  let misused (f : UsageFault) : Outcome := .plain 2 true (f.report .compile)
  match readOptions Level.compile.options true args with
  | .error fault => misused (.option fault)
  | .ok g =>
    if g.has helpOption.long then .plain 0 true Level.compile.help
    else match Arguments.ofGiven look g with
      | .error (.usage fault) => misused fault
      | .error (.failure e) => .crashed none (.failure e)
      | .ok args => compileFiles look verbosity args

/-- A name that is no command may be an option that stood behind two dashes. -/
def runUnknown (name : String) (args : List String) : Outcome :=
  let misused (f : UsageFault) : Outcome := .plain 2 false (f.report .program)
  match readOptions Level.program.options false (name :: args) with
  | .error fault => misused (.option fault)
  | .ok g =>
    if g.has helpOption.long then .plain 0 false Level.program.help
    else misused (.unknownCommand name (Text.closeMatches name commands))

def logName : String := "authsync.log"

def run (look : String → FileNode) (args : List String) (logFile : String := logName) : Outcome :=
  let misused (f : UsageFault) : Outcome := .plain 2 false (f.report .program)
  if args.isEmpty then .plain 2 false Level.program.help
  else match readOptions Level.program.options false args with
    | .error fault => misused (.option fault)
    | .ok g =>
      if g.has helpOption.long then .plain 0 false Level.program.help
      else match g.others with
        | [] => misused .commandMissing
        | name :: rest =>
          let verbosity := g.count verboseOption.long
          if name ∈ commands then .logging verbosity logFile (runCompile look verbosity rest)
          else runUnknown name rest

/-- Write files into a directory, up to the first that cannot be written. -/
def writeAll (directory : Path) (t : FileTree) : List (String × String) → FileTree × Option FileFault
  | [] => (t, none)
  | (name, text) :: rest =>
    match t.writeFile (directory.child name) text with
    | .ok t => writeAll directory t rest
    | .error fault => (t, some fault)

def Delivery.carryOut (d : Delivery) (t : FileTree) : FileTree × Option FileFault :=
  match t.makeDirectory d.directory with
  | .ok t => writeAll d.directory t d.files
  | .error fault => (t, some fault)

def runIn (t : FileTree) (args : List String) (logFile : String := logName) : Outcome × FileTree :=
  let outcome := run t.look args logFile
  match outcome.delivery with
  | none => (outcome, t)
  | some delivery =>
    match delivery.carryOut t with
    | (t, none) => (outcome, t)
    | (t, some fault) => (.crashed none (.failure (.file fault)), t)

end SchemaAccess.CommandLine
