import SchemaAccess.Expression.Token

namespace SchemaAccess

/-- Of operations it is kept only whether a literal can be one: a sum of two, or a sign. -/
inductive Expression where
  | name (s : String)
  | constant (s : String)
  | number (imaginary : Bool)
  | text (form : Expression.TextForm)
  | tuple (items : List Expression)
  | set (members : List Expression)
  | dict (entries : List (Expression × Expression))
  | merged
  | starred (e : Expression)
  | member (e : Expression)
  | call (callee : Expression) (hasArguments : Bool)
  | signed (e : Expression)
  | sum (left right : Expression)
  | operation
  | comparison
  | conditional
  | assignment (e : Expression)

namespace Expression

def noun : Expression → String
  | .name _ => "name"
  | .constant s => if s == "..." then "ellipsis" else s
  | .number _ => "literal"
  | .text .formatted => "f-string expression"
  | .text _ => "literal"
  | .tuple _ => "tuple"
  | .set _ => "set display"
  | .dict _ | .merged => "dict literal"
  | .starred _ => "starred"
  | .member _ => "attribute"
  | .call _ _ => "function call"
  | .signed _ | .sum _ _ | .operation => "expression"
  | .comparison => "comparison"
  | .conditional => "conditional expression"
  | .assignment _ => "named expression"

def imaginary? : Expression → Option Bool
  | .signed (.number imaginary) | .number imaginary => some imaginary
  | _ => none

def isNumber : Expression → Bool
  | .number _ => true
  | _ => false

mutual

def checkLiteral : Expression → Except Fault (Option Unhashable)
  | .constant _ | .number _ | .text .plain | .text .bytes => .ok none
  | .tuple items => checkItems items
  | .set members => checkMembers members
  | .dict entries => checkEntries entries
  | .call (.name "set") false => .ok (some .set)
  | .signed e => if e.isNumber then .ok none else .error .notLiteral
  | .sum left (.number true) => if left.imaginary? = some false then .ok none else .error .notLiteral
  | _ => .error .notLiteral

def checkItems : List Expression → Except Fault (Option Unhashable)
  | [] => .ok none
  | e :: rest => do
    let part ← checkLiteral e
    let later ← checkItems rest
    return part <|> later

def checkMembers : List Expression → Except Fault (Option Unhashable)
  | [] => .ok (some .set)
  | e :: rest => do
    match ← checkLiteral e with
    | some part => throw (.unhashable part)
    | none => checkMembers rest

def checkEntries : List (Expression × Expression) → Except Fault (Option Unhashable)
  | [] => .ok (some .dict)
  | (key, value) :: rest => do
    let part ← checkLiteral key
    let _ ← checkLiteral value
    match part with
    | some part => throw (.unhashable part)
    | none => checkEntries rest

end

end Expression

end SchemaAccess
