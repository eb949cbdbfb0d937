import SchemaAccess.Value.Basic

namespace SchemaAccess

/-- A closed set of words, with the name by which messages call it. -/
class Vocabulary (α : Type) where
  label : String
  members : List α
  word : α → String

namespace Vocabulary

variable {α : Type} [Vocabulary α]

def ofWord? (s : String) : Option α := members.find? fun a => word a = s

def ofValue? (v : Value) : Option α := v.text?.bind ofWord?

def words (α : Type) [Vocabulary α] : List String := (members : List α).map word

end Vocabulary

namespace Access

/-- Who a rule lets in. -/
inductive Strategy where
  | owner
  | groups
  | signedIn
  | anyone
deriving Repr, DecidableEq

instance : Vocabulary Strategy where
  label := "AllowStrategy"
  members := [.owner, .groups, .signedIn, .anyone]
  word
    | .owner => "owner"
    | .groups => "groups"
    | .signedIn => "private"
    | .anyone => "public"

inductive AuthenticationType where
  | apiKey
  | iam
  | userPools
  | openIdConnect
deriving Repr, DecidableEq

instance : Vocabulary AuthenticationType where
  label := "AuthenticationType"
  members := [.apiKey, .iam, .userPools, .openIdConnect]
  word
    | .apiKey => "API_KEY"
    | .iam => "AWS_IAM"
    | .userPools => "AMAZON_COGNITO_USER_POOLS"
    | .openIdConnect => "OPENID_CONNECT"

/-- What vouches for a caller. -/
inductive Provider where
  | userPools
  | iam
  | apiKey
  | oidc
deriving Repr, DecidableEq

instance : Vocabulary Provider where
  label := "AuthProvider"
  members := [.userPools, .iam, .apiKey, .oidc]
  word
    | .userPools => "userPools"
    | .iam => "iam"
    | .apiKey => "apiKey"
    | .oidc => "oidc"

def Provider.authenticationType : Provider → AuthenticationType
  | .userPools => .userPools
  | .iam => .iam
  | .apiKey => .apiKey
  | .oidc => .openIdConnect

def AuthenticationType.provider : AuthenticationType → Provider
  | .userPools => .userPools
  | .iam => .iam
  | .apiKey => .apiKey
  | .openIdConnect => .oidc

@[simp] theorem AuthenticationType.provider_authenticationType (p : Provider) :
    p.authenticationType.provider = p := by cases p <;> rfl

@[simp] theorem Provider.authenticationType_provider (t : AuthenticationType) :
    t.provider.authenticationType = t := by cases t <;> rfl

def Provider.marker : Provider → String
  | .userPools => "aws_cognito_user_pools"
  | .iam => "aws_iam"
  | .apiKey => "aws_api_key"
  | .oidc => "aws_oidc"

theorem Provider.marker_injective {p q : Provider} (h : p.marker = q.marker) : p = q := by
  cases p <;> cases q <;> simp_all [Provider.marker]

def Provider.displayName : Provider → String
  | .userPools => "Cognito User Pools"
  | .iam => "IAM"
  | .apiKey => "API Key"
  | .oidc => "OpenID Connect"

def Strategy.providers : Strategy → List Provider
  | .owner => [.userPools, .oidc]
  | .groups => [.userPools, .oidc]
  | .signedIn => [.userPools, .iam]
  | .anyone => [.apiKey, .iam]

inductive Operation where
  | create
  | read
  | update
  | delete
deriving Repr, DecidableEq

instance : Vocabulary Operation where
  label := "ModelOperation"
  members := [.create, .read, .update, .delete]
  word
    | .create => "create"
    | .read => "read"
    | .update => "update"
    | .delete => "delete"

/-- The execution roles of callers with and without an identity. -/
inductive Role where
  | auth
  | unauth
deriving Repr, DecidableEq

instance : Vocabulary Role where
  label := "RoleKind"
  members := [.auth, .unauth]
  word
    | .auth => "auth"
    | .unauth => "unauth"

def Role.policyStem : Role → String
  | .auth => "AuthRolePolicy"
  | .unauth => "UnauthRolePolicy"

def Role.parameter : Role → String
  | .auth => "authRoleName"
  | .unauth => "unauthRoleName"

end Access

end SchemaAccess
