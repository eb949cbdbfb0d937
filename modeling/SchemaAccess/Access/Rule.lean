import SchemaAccess.Failure

namespace SchemaAccess.Access

def memberOf (α : Type) [Vocabulary α] (v : Value) : Except Failure α :=
  match Vocabulary.ofValue? v with
  | some a => return a
  | none => throw (.value (.notAMember (Vocabulary.label α) v))

def defaultOwnerField : Value := .string "owner"

def defaultIdentityClaim : Value := .string "cognito:username"

def defaultGroupClaim : Value := .string "cognito:groups"

/-- A rule with its defaults filled in. Names and groups are kept as they were given, whatever kind
of value they are. -/
structure Rule where
  strategy : Strategy
  provider : Provider
  /-- The operations that the rule is restricted to, each once, in the order of their vocabulary. -/
  operations : Option (List Operation)
  ownerField : Value
  identityClaim : Value
  groupClaim : Value
  groups : Option (List Value)
  groupsField : Value
deriving Repr

/-- Operations as a set: each once, in the order of their vocabulary. -/
def operationSet (ops : List Operation) : List Operation := Vocabulary.members.filter (· ∈ ops)

theorem mem_operationSet (op : Operation) (ops : List Operation) : op ∈ operationSet ops ↔ op ∈ ops := by
  simp only [operationSet, List.mem_filter, decide_eq_true_eq, and_iff_right_iff_imp]
  intro
  cases op <;> simp [Vocabulary.members]

namespace Rule

def bare (strategy : Strategy) (provider : Provider) : Rule where
  strategy
  provider
  operations := none
  ownerField := defaultOwnerField
  identityClaim := defaultIdentityClaim
  groupClaim := defaultGroupClaim
  groups := none
  groupsField := .null

def restricted (r : Rule) : Bool := r.operations.isSome

/-- Only IAM callers have a role. Without an identity they are let in by rules for anyone alone. -/
def grants (r : Rule) : List Role :=
  match r.provider, r.strategy with
  | .iam, .signedIn => [.auth]
  | .iam, .anyone => [.auth, .unauth]
  | _, _ => []

/-- A rule that is restricted to something names an operation at least. -/
def checkOperations (r : Rule) : Except Failure Rule :=
  if r.operations = some [] then throw (.value .operationsEmpty) else return r

end Rule

end SchemaAccess.Access
