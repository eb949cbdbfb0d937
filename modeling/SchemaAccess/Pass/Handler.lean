import SchemaAccess.Access.Marker
import SchemaAccess.Access.RuleReader
import SchemaAccess.Access.Validation
import SchemaAccess.Pass.Session
import SchemaAccess.Policy.Rendering
import SchemaAccess.Text.Blank

namespace SchemaAccess.Pass

open Access (Config Rule)
open GraphQL (Composite FieldDef)
open Policy (Resource)

/-- How access rules are enforced. -/
structure Enforcement where
  config : Config
  cap : Int
  apiId : String
  one_le_cap : 1 ≤ cap

def Enforcement.ofCap (config : Config) (cap : Int) (apiId : String) : Except Failure Enforcement :=
  if h : cap < 1 then .error (.value .capBelowOne) else .ok ⟨config, cap, apiId, by omega⟩

def Enforcement.ofSupply (supply : Access.Supply) (cap : Int) (apiId : String) :
    Except Failure Enforcement := do
  Enforcement.ofCap (← supply.require) cap apiId

inductive Handler where
  | function
  /-- Checks access rules, marks nodes and grants fields. -/
  | auth (enforcement : Enforcement)
  /-- Permits its directive on types or on fields, and does nothing there. -/
  | permit (directive : String) (onTypes onFields : Bool)
  | observe (directive : String)

def Handler.reject (directive : String) : Handler := .permit directive false false

def functionDirective : String := "function"

def Handler.directive : Handler → String
  | .function => functionDirective
  | .auth _ => Access.authDirective
  | .permit d _ _ => d
  | .observe d => d

/-- A step of a pass. A step that fails leaves its session to be looked at. -/
abbrev Step := EStateM Failure Session

namespace Step

variable {α : Type}

def require (x : Except Failure α) : Step α :=
  match x with
  | .ok a => pure a
  | .error e => throw e

def update (f : Session → Except Failure Session) : Step Unit := do set (← require (f (← get)))

end Step

namespace Enforcement

/-- The type as it leaves the pass. Root types get no markers, only their fields do. -/
def object (e : Enforcement) (s : Session) (node : Composite) : Except Failure Composite := do
  Access.checkType (s.isModel node.name)
  let rules ← Access.readRules e.config node.name node.directives
  Access.checkRules e.config rules
  if s.isRoot node.name then return node
  else return { node with directives := ← (Access.mark e.config node.name rules node.directives).complete }

def field (e : Enforcement) (s : Session) (typeName : String) (f : FieldDef) :
    Except Failure (List Rule × FieldDef) := do
  let place := GraphQL.location (some typeName) f.name
  let rules ← Access.readRules e.config place f.directives
  Access.checkField rules (s.isRoot typeName) (s.isModel typeName)
  Access.checkRules e.config rules
  return (rules, { f with directives := ← (Access.mark e.config place rules f.directives).complete })

/-- Root fields whose rules let in some role wait for their function to be known. -/
def await (s : Session) (typeName fieldName : String) (rules : List Rule) : Session :=
  if s.isRoot typeName && rules.any fun r => !r.grants.isEmpty then
    { s with pending := s.pending ++ [(⟨typeName, fieldName⟩, rules)] }
  else s

def grantRules (s : Session) (r : Resource) (rules : List Rule) : Except Failure Session :=
  rules.foldlM (fun s rule => return { s with ledger := (← s.ledger.grant rule r).2 }) s

/-- Of the fields that wait, those with a function are granted. -/
def grantPending (s : Session) : Except Failure Session :=
  s.pending.foldlM (fun s (r, rules) =>
    if (s.binding? r.typeName r.fieldName).isSome then grantRules s r rules else return s) s

def declare (e : Enforcement) (s : Session) (d : Policy.Document) : Except Failure Session :=
  (s.addParameter d.role.parameter (.object [("Type", .string "String")])).addResource d.name
    (d.templateResource e.apiId)

def settle (e : Enforcement) (s : Session) : Except Failure Session := do
  let s ← grantPending s
  let (documents, ledger) ← s.ledger.documents e.cap
  let s ← documents.foldlM e.declare { s with ledger := ledger }
  return { s with policies := s.policies ++ documents }

end Enforcement

/-- The function of a field: the first one that it names. -/
def functionBinding (typeName : String) (f : FieldDef) : Except Failure Binding :=
  let settings := match GraphQL.directivesNamed functionDirective f.directives with
    | d :: _ => d.settings
    | [] => []
  let unnamed := Failure.placement (.functionUnnamed (GraphQL.location (some typeName) f.name))
  match Value.field settings "name" with
  | .string s =>
    if Text.isBlank s then throw unnamed
    else return ⟨typeName, f.name, s, Value.field settings "region"⟩
  | _ => throw unnamed

namespace Handler

def before : Handler → Step Unit
  | .observe d => modify (·.note (.before d))
  | _ => pure ()

def atObject (h : Handler) (node : Composite) : Step Composite :=
  match h with
  | .function => throw (.placement (.unsupportedOnType functionDirective node.name))
  | .auth e => do Step.require (e.object (← get) node)
  | .permit d onTypes _ =>
    if onTypes then return node else throw (.placement (.unsupportedOnType d node.name))
  | .observe d => do
    modify (·.note (.object d node.name))
    return node

def atField (h : Handler) (typeName : String) (f : FieldDef) : Step FieldDef :=
  match h with
  | .function => do
    Step.update fun s => do s.bind (← functionBinding typeName f)
    return f
  | .auth e => do
    let (rules, marked) ← Step.require (e.field (← get) typeName f)
    modify fun s => Enforcement.await s typeName f.name rules
    return marked
  | .permit d _ onFields =>
    if onFields then return f
    else throw (.placement (.unsupportedOnField d (GraphQL.location (some typeName) f.name)))
  | .observe d => do
    modify (·.note (.field d (GraphQL.location (some typeName) f.name)))
    return f

def after : Handler → Step Unit
  | .auth e => Step.update e.settle
  | .observe d => modify (·.note (.after d))
  | _ => pure ()

end Handler

end SchemaAccess.Pass
