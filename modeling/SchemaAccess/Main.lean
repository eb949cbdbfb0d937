import SchemaAccess.CommandLine.Run

namespace SchemaAccess.CommandLine

def lookOnDisk (path : String) : IO FileNode := do
  match ← (IO.FS.readFile path).toBaseIO with
  | .ok text => return .file text
  | .error (.inappropriateType ..) => return .directory
  | .error _ => return .missing

def mentioned (args : List String) : List String :=
  Arguments.defaultOutDirectory :: args ++ args.filterMap fun arg => (splitValue arg).2

def survey (args : List String) : IO (Entries FileNode) :=
  (mentioned args).mapM fun path => return (path, ← lookOnDisk path)

def deliver (d : Delivery) : IO Unit := do
  IO.FS.createDirAll d.directory.shown
  for (name, text) in d.files do
    IO.FS.writeFile (d.directory.child name).shown text

def logDirectory : IO String := do
  let home := (← IO.getEnv "HOME").getD "."
  let caches := (← IO.getEnv "XDG_CACHE_HOME").getD (home ++ "/.cache")
  return caches ++ "/authsync/log"

def perform (args : List String) : IO UInt32 := do
  let found ← survey args
  let directory ← logDirectory
  let logFile := directory ++ "/" ++ logName
  let outcome := run (fun path => (found.find? path).getD .missing) args logFile
  if outcome.logged then
    IO.FS.createDirAll directory
    discard (IO.FS.Handle.mk logFile .append)
  outcome.delivery.forM deliver
  IO.print outcome.output
  if let some crash := outcome.crash then IO.eprintln crash.message
  return outcome.exitCode.toUInt32

end SchemaAccess.CommandLine

def main (args : List String) : IO UInt32 := SchemaAccess.CommandLine.perform args
