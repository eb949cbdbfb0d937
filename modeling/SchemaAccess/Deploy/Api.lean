import SchemaAccess.Compile
import SchemaAccess.Deploy.Component
import SchemaAccess.FileTree

namespace SchemaAccess.Deploy

open Access (Config Mode Role)

/-- A role that policies are attached to: given by its name, or one that is deployed along. -/
inductive RoleRef where
  | named (name : String)
  | deployed (id : String)
deriving Repr, DecidableEq

/-- What is asked for. The schema is a text, or the path of a file that holds it. -/
structure Request where
  name : String
  schema : String
  config : Access.Supply
  authRole : Option RoleRef
  unauthRole : Option RoleRef
  cap : Int
  keyDays : Int

def defaultKeyDays : Int := 365

namespace Request

def role? (r : Request) : Role → Option RoleRef
  | .auth => r.authRole
  | .unauth => r.unauthRole

/-- Only a text without braces can be a path. -/
def loadSchema (r : Request) (files : FileTree) : Except Failure String :=
  if r.schema.toList.contains '\x7b' then return r.schema
  else match files.find (Path.ofText r.schema) with
    | .ok node => return node.text?.getD r.schema
    | .error fault => throw (.file fault)

end Request

def settingsOf (settings : Option (Entries Value)) : Entries Value := settings.getD []

def checkMode (m : Mode) : Except Failure Unit :=
  match m.type with
  | .userPools =>
    if (Value.field (settingsOf m.userPool) "userPoolId").isPresent then return ()
    else throw (.value .userPoolMissing)
  | .openIdConnect =>
    if (Value.field (settingsOf m.openIdConnect) "issuerUrl").isPresent then return ()
    else throw (.value .issuerMissing)
  | .apiKey | .iam => return ()

/-- An API with a compiled schema and a role for every policy. -/
structure Api where
  request : Request
  config : Config
  output : Pass.Output

namespace Api

def checkRoles (r : Request) (policies : List Policy.Document) : Except Failure Unit :=
  policies.forM fun d =>
    match r.role? d.role with
    | some _ => return ()
    | none => throw (.value (.roleMissing d.role d.name))

def ofRequest (files : FileTree) (r : Request) : Except Failure Api := do
  if r.schema = "" then throw (.value .schemaEmpty)
  if r.keyDays ≤ 0 then throw (.value .expiryNotPositive)
  let config ← r.config.read
  config.modes.forM checkMode
  let output ← compile (← r.loadSchema files) config r.cap
  checkRoles r output.policies
  return ⟨r, config, output⟩

/-- A component takes its name before anything is checked, and keeps it if a check fails. -/
def build (registry : Registry) (files : FileTree) (r : Request) : Except Failure Api × Registry :=
  match registry.register r.name with
  | .error e => (.error e, registry)
  | .ok registry => (ofRequest files r, registry)

end Api

end SchemaAccess.Deploy
