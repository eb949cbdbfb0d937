import SchemaAccess.Failure
import SchemaAccess.Pieces

namespace SchemaAccess.Policy

open Access (Role)

structure Resource where
  typeName : String
  fieldName : String
deriving Repr, DecidableEq

def Resource.path (r : Resource) : String := s!"types/{r.typeName}/fields/{r.fieldName}"

structure Statement where
  actions : List String
  resources : List Resource
deriving Repr, DecidableEq

/-- A policy of a role. Its number counts from one within the role. -/
structure Document where
  role : Role
  number : Int
  statements : List Statement
deriving Repr, DecidableEq

/-- At least two characters, filled up with zeros behind the sign. -/
def twoDigits (n : Int) : String :=
  match n with
  | .ofNat n => if n < 10 then s!"0{n}" else toString n
  | .negSucc n => s!"-{n + 1}"

namespace Document

def name (d : Document) : String := d.role.policyStem ++ twoDigits d.number

def resources (d : Document) : List Resource := d.statements.flatMap (·.resources)

end Document

def callAction : String := "appsync:GraphQL"

def defaultCap : Int := 25

def document (role : Role) (resources : List Resource) (index : Nat) : Document :=
  ⟨role, index + 1, [⟨[callAction], resources⟩]⟩

def documentsOf (role : Role) (resources : List Resource) (size : Nat) : List Document :=
  (pieces size resources).zipIdx.map fun (piece, i) => document role piece i

/-- Documents of at most `cap` fields each, in the order of the fields. -/
def partition (role : Role) (resources : List Resource) (cap : Int) : Except Failure (List Document) :=
  if cap < 1 then throw (.value .capBelowOne) else return documentsOf role resources cap.toNat

end SchemaAccess.Policy
