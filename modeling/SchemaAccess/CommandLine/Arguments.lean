import SchemaAccess.CommandLine.Usage
import SchemaAccess.Failure
import SchemaAccess.Policy.Document
import SchemaAccess.Text.DecimalDigit

namespace SchemaAccess.CommandLine

structure Arguments where
  schema : String
  config : String
  outDirectory : String
  cap : Int
deriving Repr, DecidableEq

inductive Parameter where
  | schema
  | config
  | outDirectory
  | cap
deriving Repr, DecidableEq

namespace Parameter

def all : List Parameter := [.schema, .config, .outDirectory, .cap]

def name : Parameter → String
  | .schema => "SCHEMA"
  | .config => "--auth-config"
  | .outDirectory => "--out-dir"
  | .cap => "--max-resources-per-policy"

def order (g : Given) : List Parameter :=
  let given := g.options.filterMap fun (option, _) => all.find? (·.name = option)
  (given ++ all).eraseDups

end Parameter

/-- Arguments do not do: a report tells so, or a failure breaks off the call. -/
inductive ArgumentFault where
  | usage (fault : UsageFault)
  | failure (failure : Failure)

namespace Arguments

def refuse {α : Type} (p : Parameter) (problem : ValueProblem) : Except ArgumentFault α :=
  throw (.usage (.badValue p.name problem))

/-- What a path leads to. No path has a null character in it. -/
def nodeAt (look : String → FileNode) (path : String) : Except ArgumentFault FileNode :=
  if path.toList.contains '\x00' then throw (.failure (.value .nullInPath)) else return look path

def existingFile (look : String → FileNode) (p : Parameter) (path : String) : Except ArgumentFault String := do
  match ← nodeAt look path with
  | .missing => refuse p (.noFile path)
  | .directory => refuse p (.directoryForFile path)
  | .file _ => return path

def schemaOf (look : String → FileNode) (g : Given) : Except ArgumentFault String :=
  match g.others with
  | [] => throw (.usage (.argumentMissing Parameter.schema.name))
  | path :: _ => existingFile look .schema path

def configOf (look : String → FileNode) (g : Given) : Except ArgumentFault String :=
  match g.value? Parameter.config.name with
  | none => throw (.usage (.optionMissing Parameter.config.name))
  | some path => existingFile look .config path

def defaultOutDirectory : String := "build"

def outDirectoryOf (look : String → FileNode) (g : Given) : Except ArgumentFault String := do
  let path := (g.value? Parameter.outDirectory.name).getD defaultOutDirectory
  match ← nodeAt look path with
  | .file _ => refuse .outDirectory (.fileForDirectory path)
  | _ => return path

def capOf (g : Given) : Except ArgumentFault Int :=
  match g.value? Parameter.cap.name with
  | none => return Policy.defaultCap
  | some text =>
    match Text.integer? text with
    | none => refuse .cap (.notANumber text)
    | some n => if n < 1 then refuse .cap (.outOfRange n) else return n

def check (look : String → FileNode) (g : Given) : Parameter → Except ArgumentFault Unit
  | .schema => discard (schemaOf look g)
  | .config => discard (configOf look g)
  | .outDirectory => discard (outDirectoryOf look g)
  | .cap => discard (capOf g)

/-- One argument may stand beside the options. -/
def checkCount (g : Given) : Except ArgumentFault Unit :=
  match g.others with
  | _ :: extra :: more => throw (.usage (.extraArguments (extra :: more)))
  | _ => return ()

def ofGiven (look : String → FileNode) (g : Given) : Except ArgumentFault Arguments := do
  (Parameter.order g).forM (check look g)
  checkCount g
  return ⟨← schemaOf look g, ← configOf look g, ← outDirectoryOf look g, ← capOf g⟩

end Arguments

end SchemaAccess.CommandLine
