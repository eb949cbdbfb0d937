import SchemaAccess.Pass.Session
import SchemaAccess.Text.Markup

namespace SchemaAccess.CommandLine

/-- A line of the log that quotes something of a caller's own: the name of a function, or a path. All others are of
fixed words, numbers and names that the language of schemas allows, and have no brackets in them. -/
inductive LogLine where
  | bound (binding : Pass.Binding)
  | rejected (schema : Path)
  | written (directory : Path)

namespace LogLine

def message : LogLine → String
  | .bound b => s!"Bound '{GraphQL.location (some b.typeName) b.fieldName}' to function '{b.functionName}'"
  | .rejected schema => s!"Compilation of {schema.shown} failed"
  | .written directory => s!"Wrote transformed schema and stack to {directory.shown}"

def level : LogLine → Nat
  | .written _ => 1
  | .bound _ | .rejected _ => 2

def display (verbosity : Nat) (line : LogLine) : Except Text.Markup.Fault Unit :=
  if line.level ≤ verbosity then discard (Text.Markup.unstyled line.message) else return ()

end LogLine

def logNotice (logFile : String) : String := s!"[italic dim]Logs saved to: {logFile}[/]"

end SchemaAccess.CommandLine
