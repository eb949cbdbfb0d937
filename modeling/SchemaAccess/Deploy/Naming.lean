import SchemaAccess.Failure
import SchemaAccess.Text.LowerCase

namespace SchemaAccess.Deploy

structure Naming where
  app : String
  env : String
deriving Repr, DecidableEq

namespace Naming

def stem (n : Naming) : String := Text.lowerCase n.app ++ "-" ++ Text.lowerCase n.env ++ "-"

def stemmed (n : Naming) (name : Option String) : String := n.stem ++ name.getD ""

def establish (current : Option Naming) (n : Naming) : Except Failure (Option Naming) :=
  match current with
  | some _ => throw (.state .contextPresent)
  | none => return some n

def require (current : Option Naming) : Except Failure Naming :=
  match current with
  | some n => return n
  | none => throw (.state .contextMissing)

end Naming

end SchemaAccess.Deploy
