import SchemaAccess.GraphQL.Printer
import SchemaAccess.GraphQL.Reader
import SchemaAccess.Pass.Handler

namespace SchemaAccess.Pass

open GraphQL (Composite FieldDef Definition Document)

namespace Handler

def visitField (h : Handler) (typeName : String) (f : FieldDef) : Step FieldDef :=
  if GraphQL.carries h.directive f.directives then h.atField typeName f else return f

def visitObject (h : Handler) (node : Composite) : Step Composite := do
  let node ← if GraphQL.carries h.directive node.directives then h.atObject node else pure node
  return { node with fields := ← node.fields.mapM (h.visitField node.name) }

/-- Object types and their extensions are visited, and nothing else. -/
def visit (h : Handler) (d : Definition) : Step Definition :=
  match d with
  | .object extension node => return .object extension (← h.visitObject node)
  | other => return other

def walk (h : Handler) (d : Document) : Step Document := do
  h.before
  d.mapM h.visit

end Handler

structure Output where
  document : Document
  template : Template
  policies : List Policy.Document

def Output.schema (o : Output) : String := o.document.written

structure Pipeline where
  handlers : List Handler
  nonempty : handlers ≠ []
  distinct : (handlers.map (·.directive)).Nodup

namespace Pipeline

def repeated (handlers : List Handler) : List String :=
  let names := handlers.map (·.directive)
  (names.filter fun n => 1 < names.count n).eraseDups.mergeSort fun a b => !decide (b < a)

def ofHandlers (handlers : List Handler) : Except Failure Pipeline :=
  if empty : handlers = [] then .error (.value .noHandlers)
  else if distinct : (handlers.map (·.directive)).Nodup then .ok ⟨handlers, empty, distinct⟩
  else .error (.value (.repeatedHandlers (repeated handlers)))

def walks (p : Pipeline) (d : Document) : Step Document := p.handlers.foldlM (fun d h => h.walk d) d

def ends (p : Pipeline) : Step Unit := p.handlers.reverse.forM Handler.after

def steps (p : Pipeline) (d : Document) : Step Document := do
  let d ← p.walks d
  p.ends
  return d

/-- The outcome of a pass, and the visits made in it whether it failed or not. -/
def run (p : Pipeline) (d : Document) : Except Failure Output × List Visit :=
  match (p.steps d).run (Session.ofDocument d) with
  | .ok d s => (.ok ⟨d, s.template, s.policies⟩, s.log)
  | .error e s => (.error e, s.log)

def runText (p : Pipeline) (schema : String) : Except Failure Output × List Visit :=
  match Document.read schema with
  | .ok d => p.run d
  | .error fault => (.error (.unreadable fault), [])

/-- The functions that are bound in a pass over the text of a schema, in order, whether it fails or not. -/
def boundIn (p : Pipeline) (schema : String) : List Binding :=
  match Document.read schema with
  | .ok d =>
    match (p.steps d).run (Session.ofDocument d) with
    | .ok _ s | .error _ s => s.bindings
  | .error _ => []

end Pipeline

end SchemaAccess.Pass
