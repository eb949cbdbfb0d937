import SchemaAccess.Deploy.Api
import SchemaAccess.Deploy.Name
import SchemaAccess.Deploy.Naming
import SchemaAccess.Json.Writer

namespace SchemaAccess.Deploy

open Access (Mode Role)

/-- The settings of a mode as the service takes them. -/
inductive ModeSettings where
  | bare
  | userPool (id region clientPattern : Value) (defaultAction : Option String)
  | openIdConnect (issuer clientId authLifetime issueLifetime : Value)

structure ModeDeclaration where
  type : Access.AuthenticationType
  settings : ModeSettings

def requiredSetting (settings : Entries Value) (name : String) : Except Failure Value :=
  match settings.find? name with
  | some v => return v
  | none => throw (.value (.settingMissing name))

/-- Only the default mode says what happens to callers that no directive mentions. -/
def ModeDeclaration.ofMode (isDefault : Bool) (m : Mode) : Except Failure ModeDeclaration :=
  match m.type with
  | .userPools => do
    let settings := settingsOf m.userPool
    let id ← requiredSetting settings "userPoolId"
    return ⟨.userPools, .userPool id (Value.field settings "awsRegion")
      (Value.field settings "appIdClientRegex") (if isDefault then some "ALLOW" else none)⟩
  | .openIdConnect => do
    let settings := settingsOf m.openIdConnect
    let issuer ← requiredSetting settings "issuerUrl"
    return ⟨.openIdConnect, .openIdConnect issuer (Value.field settings "clientId")
      (Value.field settings "authTTL") (Value.field settings "iatTTL")⟩
  | type => return ⟨type, .bare⟩

structure ApiDeclaration where
  id : String
  name : String
  schema : String
  main : ModeDeclaration
  additional : List ModeDeclaration

/-- A key of the API that is declared under `api`. -/
structure KeyDeclaration where
  id : String
  api : String
  days : Int
deriving Repr, DecidableEq

structure PolicyDeclaration where
  id : String
  document : Policy.Document
deriving Repr, DecidableEq

def PolicyDeclaration.text (p : PolicyDeclaration) (apiArn : String) : String :=
  Json.compact (p.document.forApi apiArn)

/-- Attaches the policy that is declared under `policy`. -/
structure AttachmentDeclaration where
  id : String
  policy : String
  role : RoleRef
deriving Repr, DecidableEq

structure Plan where
  api : ApiDeclaration
  key : Option KeyDeclaration
  policies : List PolicyDeclaration
  attachments : List AttachmentDeclaration

def apiNameLimit : Int := 64

def policyNameLimit : Int := 128

def frame (n : Naming) (after : String) (limit : Int) : NameFrame := ⟨n.stem, after, limit, defaultReserved⟩

def maxDays : Int := 999999999

/-- A day that many days from now can be told if the calendar reaches that far. -/
def checkDays (daysLeft days : Int) : Except Failure Unit :=
  if 0x80000000 ≤ days then throw (.range .beyondWord)
  else if maxDays < days then throw (.range (.tooManyDays days))
  else if daysLeft < days then throw (.range .pastLastYear)
  else return ()

namespace Plan

def policyName (n : Naming) (component : String) (d : Policy.Document) : Except Failure String :=
  (frame n "-p" policyNameLimit).name (component ++ "-" ++ d.name)

def attachmentName (n : Naming) (component : String) (d : Policy.Document) : Except Failure String :=
  (frame n "" policyNameLimit).name (component ++ "-" ++ d.name ++ "-attachment")

def declarePolicy (n : Naming) (r : Request) (d : Policy.Document) :
    Except Failure (PolicyDeclaration × AttachmentDeclaration) := do
  let id ← policyName n r.name d
  let attachment ← attachmentName n r.name d
  match r.role? d.role with
  | some role => return (⟨id, d⟩, ⟨attachment, id, role⟩)
  | none => throw (.value (.roleMissing d.role d.name))

def declareKey (n : Naming) (daysLeft : Int) (a : Api) (api : String) :
    Except Failure (Option KeyDeclaration) := do
  if a.config.isConfigured .apiKey then
    checkDays daysLeft a.request.keyDays
    let id ← (frame n "" apiNameLimit).name (a.request.name ++ "-key")
    return some ⟨id, api, a.request.keyDays⟩
  else return none

/-- The plan of an API, on a day that is `daysLeft` days before the end of the calendar. -/
def ofApi (naming : Option Naming) (daysLeft : Int) (a : Api) : Except Failure Plan := do
  let n ← Naming.require naming
  let name := a.request.name
  let id ← (frame n "" apiNameLimit).name (name ++ "-api")
  let main ← ModeDeclaration.ofMode true a.config.main
  let additional ← a.config.additional.mapM (ModeDeclaration.ofMode false)
  let api : ApiDeclaration := ⟨id, n.stemmed (some name), a.output.schema, main, additional⟩
  let key ← declareKey n daysLeft a id
  let declared ← a.output.policies.mapM (declarePolicy n a.request)
  return ⟨api, key, declared.map Prod.fst, declared.map Prod.snd⟩

end Plan

/-- The names under which a deployed component publishes its address, its ARN and its key. -/
structure Exports where
  url : String
  arn : String
  key : String
deriving Repr, DecidableEq

def Exports.ofName (name : String) : Exports :=
  let stem := "appsync_" ++ name
  ⟨stem ++ "_url", stem ++ "_arn", stem ++ "_api_key"⟩

end SchemaAccess.Deploy
