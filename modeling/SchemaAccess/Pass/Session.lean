import SchemaAccess.GraphQL.Meaning
import SchemaAccess.Policy.Ledger
import SchemaAccess.Template

namespace SchemaAccess.Pass

open Access (Rule)
open GraphQL (Document)
open Policy (Resource Ledger)

def modelDirective : String := "model"

/-- A field that is resolved by a function. -/
structure Binding where
  typeName : String
  fieldName : String
  functionName : String
  region : Value

/-- A visit that an observer notes down, with its directive. -/
inductive Visit where
  | before (directive : String)
  | object (directive typeName : String)
  | field (directive location : String)
  | after (directive : String)
deriving Repr, DecidableEq

structure Session where
  rootTypes : List String
  modelTypes : List String
  template : Template
  bindings : List Binding
  /-- Root fields whose rules let IAM callers in, to be granted once all functions are known. -/
  pending : List (Resource × List Rule)
  ledger : Ledger
  policies : List Policy.Document
  log : List Visit

namespace Session

def ofDocument (d : Document) : Session where
  rootTypes := d.rootNames
  modelTypes := d.typesCarrying modelDirective
  template := .empty
  bindings := []
  pending := []
  ledger := .empty
  policies := []
  log := []

def isRoot (s : Session) (typeName : String) : Bool := typeName ∈ s.rootTypes

def isModel (s : Session) (typeName : String) : Bool := typeName ∈ s.modelTypes

def binding? (s : Session) (typeName fieldName : String) : Option Binding :=
  s.bindings.find? fun b => b.typeName = typeName ∧ b.fieldName = fieldName

/-- A field keeps its first function. -/
def bind (s : Session) (b : Binding) : Except Failure Session :=
  match s.binding? b.typeName b.fieldName with
  | some first => throw (.placement (.alreadyBound b.typeName b.fieldName first.functionName))
  | none => return { s with bindings := s.bindings ++ [b] }

def addResource (s : Session) (id : String) (v : Value) : Except Failure Session :=
  return { s with template := ← s.template.addResource id v }

def addParameter (s : Session) (name : String) (v : Value) : Session :=
  { s with template := s.template.addParameter name v }

def note (s : Session) (v : Visit) : Session := { s with log := s.log ++ [v] }

end Session

end SchemaAccess.Pass
