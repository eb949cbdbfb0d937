import SchemaAccess.Pass.Pipeline

namespace SchemaAccess

open Access (Config)
open Pass (Pipeline Output Enforcement)

def compiler (e : Enforcement) : Pipeline where
  handlers := [.function, .auth e]
  nonempty := by simp
  distinct := by simp [Pass.Handler.directive, Pass.functionDirective, Access.authDirective]

def compileDocument (d : GraphQL.Document) (config : Config) (cap : Int) : Except Failure Output := do
  let e ← Enforcement.ofCap config cap Policy.defaultApiId
  ((compiler e).run d).1

def compile (schema : String) (config : Config) (cap : Int) : Except Failure Output := do
  let e ← Enforcement.ofCap config cap Policy.defaultApiId
  ((compiler e).runText schema).1

/-- The functions that are bound on the way, in order, whether a schema can be compiled in the end or not. -/
def boundFunctions (schema : String) (config : Config) (cap : Int) : List Pass.Binding :=
  match Enforcement.ofCap config cap Policy.defaultApiId with
  | .ok e => (compiler e).boundIn schema
  | .error _ => []

end SchemaAccess
