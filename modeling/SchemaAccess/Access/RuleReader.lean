import SchemaAccess.Access.Config
import SchemaAccess.Access.Rule
import SchemaAccess.GraphQL.Meaning

namespace SchemaAccess.Access

open GraphQL (Directive)

def authDirective : String := "auth"

def ruleWord (α : Type) [Vocabulary α] (argument location : String) (v : Value) : Except Failure α :=
  match Vocabulary.ofValue? v with
  | some a => return a
  | none => throw (.rule (.unknownWord argument location v (Vocabulary.words α)))

def membersOf (v : Value) : Except Failure (List Value) :=
  match v.members? with
  | some members => return members
  | none => throw (.shape (.noMembers v))

/-- A single text stands for the list of it. -/
def listed (v : Value) : Value :=
  match v with
  | .string _ => .list [v]
  | other => other

/-- The provider of a rule that names none is the default one. -/
def readProvider (c : Config) (location : String) (fields : Entries Value) : Except Failure Provider :=
  match Value.field fields "provider" with
  | .null => return c.defaultProvider
  | v => ruleWord Provider "provider" location v

def readOperations (location : String) (fields : Entries Value) :
    Except Failure (Option (List Operation)) :=
  match Value.field fields "operations" with
  | .null => return none
  | v =>
    if (listed v).isPresent then do
      let ops ← (← membersOf (listed v)).mapM (ruleWord Operation "operations" location)
      return some (operationSet ops)
    else throw (.rule (.operationsEmpty location))

def readGroups (fields : Entries Value) : Except Failure (Option (List Value)) :=
  match Value.field fields "groups" with
  | .null => return none
  | v => some <$> membersOf (listed v)

def readRule (c : Config) (location : String) (v : Value) : Except Failure Rule := do
  match v with
  | .object fields =>
    let given := Value.field fields "allow"
    if given.isNull then throw (.rule (.allowMissing location))
    let strategy ← ruleWord Strategy "allow" location given
    let provider ← readProvider c location fields
    let operations ← readOperations location fields
    let groups ← readGroups fields
    return {
      strategy, provider, operations, groups
      ownerField := (Value.field fields "ownerField").orElse defaultOwnerField
      identityClaim := (Value.field fields "identityClaim").orElse
        ((Value.field fields "identityField").orElse defaultIdentityClaim)
      groupClaim := (Value.field fields "groupClaim").orElse defaultGroupClaim
      groupsField := Value.field fields "groupsField" }
  | other => throw (.rule (.notAnObject location other))

/-- The values that are to be rules: a single object stands for the list of it. -/
def ruleValues (v : Value) : Except Failure (List Value) :=
  match v with
  | .object _ => return [v]
  | other => if other.isPresent then membersOf other else throw (.rule .rulesMissing)

/-- The rules of a node by its directives. A node without `@auth` has none. -/
def readRules (c : Config) (location : String) (directives : List Directive) :
    Except Failure (List Rule) :=
  match GraphQL.directivesNamed authDirective directives with
  | [] => return []
  | [d] => do (← ruleValues (Value.field d.settings "rules")).mapM (readRule c location)
  | _ => throw (.rule (.repeatedAuth location))

end SchemaAccess.Access
