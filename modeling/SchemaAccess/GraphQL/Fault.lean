import SchemaAccess.GraphQL.Token
import SchemaAccess.Text.Line

namespace SchemaAccess.GraphQL

inductive Wanted where
  | name
  | mark (m : Mark)
  | word (w : String)
deriving Repr, DecidableEq

def Wanted.shown : Wanted → String
  | .name => "Name"
  | .mark m => s!"'{m.text}'"
  | .word w => s!"'{w}'"

inductive Cause where
  | scan (fault : ScanFault)
  | expected (wanted : Wanted) (found : Lexeme)
  | unexpected (found : Lexeme)
  | misplacedDescription
  | variableInConstant (name : String)
  | reservedEnumValue (found : Lexeme)
deriving Repr, DecidableEq

def Cause.message : Cause → String
  | .scan fault => fault.message
  | .expected wanted found => s!"Expected {wanted.shown}, found {found.shown}."
  | .unexpected found => s!"Unexpected {found.shown}."
  | .misplacedDescription => "Unexpected description, descriptions are supported only on type definitions."
  | .variableInConstant name => s!"Unexpected variable '${name}' in constant value."
  | .reservedEnumValue found => s!"{found.shown} is reserved and cannot be used for an enum value."

structure Fault where
  cause : Cause
  place : Text.Place
deriving Repr, DecidableEq

namespace Fault

/-- Whether the text ends before an escape does. No place is told then. -/
def isCutOff (f : Fault) : Bool := f.cause = .scan .escapeCutOff

def message (f : Fault) : String := if f.isCutOff then f.cause.message else "Syntax Error: " ++ f.cause.message

end Fault

end SchemaAccess.GraphQL
