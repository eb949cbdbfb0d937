import SchemaAccess.Access.Rule
import SchemaAccess.Policy.Document

namespace SchemaAccess.Policy

open Access (Role Rule)

structure Ledger where
  auth : List Resource
  unauth : List Resource
  closed : Bool
deriving Repr, DecidableEq

namespace Ledger

def empty : Ledger := ⟨[], [], false⟩

def resources (l : Ledger) : Role → List Resource
  | .auth => l.auth
  | .unauth => l.unauth

def setResources (l : Ledger) (role : Role) (resources : List Resource) : Ledger :=
  match role with
  | .auth => { l with auth := resources }
  | .unauth => { l with unauth := resources }

def requireOpen (l : Ledger) : Except Failure Unit :=
  if l.closed then throw (.state .policiesGenerated) else return ()

def add (l : Ledger) (role : Role) (r : Resource) : Except Failure (Bool × Ledger) := do
  l.requireOpen
  if r ∈ l.resources role then return (false, l)
  else return (true, l.setResources role (l.resources role ++ [r]))

/-- Enter a field for several roles, and tell for which of them it was new. -/
def addAll (l : Ledger) (r : Resource) : List Role → Except Failure (List Role × Ledger)
  | [] => return ([], l)
  | role :: rest => do
    let (new, l) ← l.add role r
    let (roles, l) ← l.addAll r rest
    return (if new then role :: roles else roles, l)

def grant (l : Ledger) (rule : Rule) (r : Resource) : Except Failure (List Role × Ledger) :=
  l.addAll r rule.grants

/-- Draw the documents of all roles, which closes the ledger. -/
def documents (l : Ledger) (cap : Int) : Except Failure (List Document × Ledger) := do
  l.requireOpen
  let auth ← partition .auth l.auth cap
  let unauth ← partition .unauth l.unauth cap
  return (auth ++ unauth, { l with closed := true })

@[simp] theorem resources_setResources (l : Ledger) (role role' : Role) (rs : List Resource) :
    (l.setResources role rs).resources role' = if role' = role then rs else l.resources role' := by
  cases role <;> cases role' <;> simp [setResources, resources]

@[simp] theorem closed_setResources (l : Ledger) (role : Role) (rs : List Resource) :
    (l.setResources role rs).closed = l.closed := by
  cases role <;> rfl

end Ledger

end SchemaAccess.Policy
