import SchemaAccess.Access.Config
import SchemaAccess.Access.Rule

namespace SchemaAccess.Access

def checkType (isModel : Bool) : Except Failure Unit :=
  if isModel then return () else throw (.placement .typeWithoutModel)

/-- Operations are generated for model types alone. A root field is an operation already. -/
def checkField (rules : List Rule) (parentIsRoot parentIsModel : Bool) : Except Failure Unit :=
  if rules.any (·.restricted) then
    if parentIsRoot then throw (.placement .operationsOnRootField)
    else if parentIsModel then return ()
    else throw (.placement .operationsOnPlainField)
  else return ()

def Rule.namesGroups (r : Rule) : Bool := (r.groups.getD []).isEmpty.not || r.groupsField.isPresent

/-- Its strategy has to allow the provider of a rule, the configuration has to have it, and a rule for
groups has to name them. -/
def checkRule (c : Config) (r : Rule) : Except Failure Unit :=
  if r.provider ∉ r.strategy.providers then
    throw (.placement (.providerForbidden r.strategy r.provider))
  else if !c.isConfigured r.provider then throw (.rule (.providerNotConfigured r.provider))
  else if r.strategy = .groups ∧ !r.namesGroups then throw (.rule .groupsMissing)
  else return ()

def checkRules (c : Config) (rules : List Rule) : Except Failure Unit := rules.forM (checkRule c)

def Rule.Fits (c : Config) (r : Rule) : Prop :=
  r.provider ∈ r.strategy.providers ∧ c.isConfigured r.provider = true ∧
    (r.strategy = .groups → r.namesGroups = true)

theorem checkRule_eq_ok_iff (c : Config) (r : Rule) : checkRule c r = .ok () ↔ r.Fits c := by
  unfold checkRule Rule.Fits
  split
  · simp_all [throw, throwThe, MonadExceptOf.throw]
  split
  · simp_all [throw, throwThe, MonadExceptOf.throw]
  split
  · simp_all [throw, throwThe, MonadExceptOf.throw]
  · simp_all [pure, Except.pure]

end SchemaAccess.Access
