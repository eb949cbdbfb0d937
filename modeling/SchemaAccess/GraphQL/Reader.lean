import SchemaAccess.GraphQL.Document
import SchemaAccess.GraphQL.Fault
import SchemaAccess.GraphQL.Scan

namespace SchemaAccess.GraphQL

structure Halt where
  cause : Cause
  left : List Char

abbrev Reader := StateT (List Token) (Except Halt)

namespace Reader

variable {α : Type}

def halt (cause : Cause) (token : Token) : Reader α := throw ⟨cause, token.left⟩

def current : Reader Token := do
  match ← get with
  | token :: _ => return token
  | [] => return ⟨.endOfText, []⟩

def following : Reader Token := do
  match ← get with
  | _ :: token :: _ =>
    match token.lexeme with
    | .unreadable fault => halt (.scan fault) token
    | _ => return token
  | _ => current

def advance : Reader Unit := do
  let _ ← following
  modify fun tokens => match tokens with
    | _ :: token :: rest => token :: rest
    | tokens => tokens

def unexpected : Reader α := do
  let token ← current
  halt (.unexpected token.lexeme) token

def atMark (m : Mark) : Reader Bool := return (← current).lexeme == .mark m

def atWord (w : String) : Reader Bool := return (← current).lexeme == .name w

def expect (m : Mark) : Reader Unit := do
  if ← atMark m then advance
  else
    let token ← current
    halt (.expected (.mark m) token.lexeme) token

def expectWord (w : String) : Reader Unit := do
  if ← atWord w then advance
  else
    let token ← current
    halt (.expected (.word w) token.lexeme) token

def accept (m : Mark) : Reader Bool := do
  if ← atMark m then
    advance
    return true
  else return false

def acceptWord (w : String) : Reader Bool := do
  if ← atWord w then
    advance
    return true
  else return false

def name : Reader String := do
  let token ← current
  match token.lexeme with
  | .name s =>
    advance
    return s
  | found => halt (.expected .name found) token

/-- Items up to the closing mark. Each item takes a token at least. -/
def upTo (close : Mark) (item : Reader α) : Nat → Reader (List α)
  | 0 => unexpected
  | n + 1 => do
    if ← accept close then return []
    else
      let a ← item
      return a :: (← upTo close item n)

def remaining : Reader Nat := return (← get).length + 1

def enclosed (opening close : Mark) (item : Reader α) : Reader (List α) := do
  expect opening
  upTo close item (← remaining)

def enclosedSome (opening close : Mark) (item : Reader α) : Reader (List α) := do
  expect opening
  let first ← item
  return first :: (← upTo close item (← remaining))

def enclosedIfAny (opening close : Mark) (item : Reader α) : Reader (List α) := do
  if ← atMark opening then enclosedSome opening close item else return []

def separatedRest (separator : Mark) (item : Reader α) : Nat → Reader (List α)
  | 0 => unexpected
  | n + 1 => do
    if ← accept separator then
      let a ← item
      return a :: (← separatedRest separator item n)
    else return []

/-- One item at least, with marks between them and, if wanted, before the first. -/
def separated (separator : Mark) (item : Reader α) : Reader (List α) := do
  let _ ← accept separator
  let first ← item
  return first :: (← separatedRest separator item (← remaining))

def whileAt (m : Mark) (item : Reader α) : Nat → Reader (List α)
  | 0 => unexpected
  | n + 1 => do
    if ← atMark m then
      let a ← item
      return a :: (← whileAt m item n)
    else return []

def orNone (present : Bool) (item : Reader α) : Reader (Option α) := do
  if present then return some (← item) else return none

/-! ### Values -/

def variableUse (constant : Bool) : Reader Literal := do
  let dollar ← current
  expect .dollar
  if constant then
    match (← current).lexeme with
    | .name s => halt (.variableInConstant s) dollar
    | _ => halt (.unexpected dollar.lexeme) dollar
  else return .variable (← name)

def word (s : String) : Literal :=
  if s = "true" then .boolean true
  else if s = "false" then .boolean false
  else if s = "null" then .null
  else .enum s

def scalar (literal : Literal) : Reader Literal := do
  advance
  return literal

def objectField (literal : Reader Literal) : Reader (String × Literal) := do
  let key ← name
  expect .colon
  return (key, ← literal)

def literalWithin (constant : Bool) : Nat → Reader Literal
  | 0 => unexpected
  | n + 1 => do
    match (← current).lexeme with
    | .mark .bracketL => return .list (← enclosed .bracketL .bracketR (literalWithin constant n))
    | .mark .braceL =>
      return .object (← enclosed .braceL .braceR (objectField (literalWithin constant n)))
    | .mark .dollar => variableUse constant
    | .int s => scalar (.int s)
    | .float s => scalar (.float s)
    | .text s block => scalar (.string s block)
    | .name s => scalar (word s)
    | _ => unexpected

/-- No value is deeper than there are tokens. -/
def literal (constant : Bool) : Reader Literal := do literalWithin constant (← remaining)

def argument (constant : Bool) : Reader Argument := do
  let key ← name
  expect .colon
  return ⟨key, ← literal constant⟩

def arguments (constant : Bool) : Reader (List Argument) :=
  enclosedIfAny .parenL .parenR (argument constant)

def directive (constant : Bool) : Reader Directive := do
  expect .atSign
  return ⟨← name, ← arguments constant⟩

def directives (constant : Bool) : Reader (List Directive) := do
  whileAt .atSign (directive constant) (← remaining)

def typeRefWithin : Nat → Reader TypeRef
  | 0 => unexpected
  | n + 1 => do
    let inner ←
      if ← accept .bracketL then
        let item ← typeRefWithin n
        expect .bracketR
        pure (.list item)
      else pure (.named (← name))
    if ← accept .bang then return .nonNull inner else return inner

def typeRef : Reader TypeRef := do typeRefWithin (← remaining)

/-! ### Operations -/

def operationKind : Reader OperationKind := do
  let token ← current
  match OperationKind.ofWord? (← name) with
  | some kind => return kind
  | none => halt (.unexpected token.lexeme) token

def fragmentName : Reader String := do
  if (← current).lexeme.content? = some "on" then unexpected else name

def fieldSelection (selections : Reader (List Selection)) : Reader Selection := do
  let first ← name
  let second ← orNone (← accept .colon) name
  let args ← arguments false
  let dirs ← directives false
  let inner ← if ← atMark .braceL then selections else pure []
  match second with
  | some field => return .field (some first) field args dirs inner
  | none => return .field none first args dirs inner

def spreadSelection (selections : Reader (List Selection)) : Reader Selection := do
  expect .spread
  let conditioned ← acceptWord "on"
  match conditioned, (← current).lexeme with
  | false, .name _ => return .spread (← fragmentName) (← directives false)
  | _, _ =>
    let condition ← orNone conditioned name
    return .inline condition (← directives false) (← selections)

def selectionsWithin : Nat → Reader (List Selection)
  | 0 => unexpected
  | n + 1 => enclosedSome .braceL .braceR do
    if ← atMark .spread then spreadSelection (selectionsWithin n)
    else fieldSelection (selectionsWithin n)

def selections : Reader (List Selection) := do selectionsWithin (← remaining)

def fallback : Reader (Option Literal) := do orNone (← accept .equals) (literal true)

def variableDef : Reader VariableDef := do
  expect .dollar
  let name ← name
  expect .colon
  return ⟨name, ← typeRef, ← fallback, ← directives true⟩

/-- Without a keyword, selections alone are a query. -/
def operation : Reader Operation := do
  if ← atMark .braceL then return ⟨.query, none, [], [], ← selections⟩
  else
    let kind ← operationKind
    let name ← orNone ((← current).lexeme matches .name _) name
    let variableDefs ← enclosedIfAny .parenL .parenR variableDef
    return ⟨kind, name, variableDefs, ← directives false, ← selections⟩

def fragment : Reader Fragment := do
  expectWord "fragment"
  let name ← fragmentName
  expectWord "on"
  return ⟨name, ← Reader.name, ← directives false, ← selections⟩

/-! ### Type system -/

def description : Reader (Option Description) := do
  match (← current).lexeme with
  | .text s block =>
    advance
    return some ⟨s, block⟩
  | _ => return none

def inputValue : Reader InputValue := do
  let description ← description
  let name ← name
  expect .colon
  return ⟨description, name, ← typeRef, ← fallback, ← directives true⟩

def argumentDefs : Reader (List InputValue) := enclosedIfAny .parenL .parenR inputValue

def fieldDef : Reader FieldDef := do
  let description ← description
  let name ← name
  let arguments ← argumentDefs
  expect .colon
  return ⟨description, name, arguments, ← typeRef, ← directives true⟩

def interfaces : Reader (List String) := do
  if ← acceptWord "implements" then separated .ampersand name else return []

def composite (description : Option Description) : Reader Composite :=
  return ⟨description, ← name, ← interfaces, ← directives true,
    ← enclosedIfAny .braceL .braceR fieldDef⟩

def rootType : Reader (OperationKind × String) := do
  let kind ← operationKind
  expect .colon
  return (kind, ← name)

def enumValue : Reader EnumValue := do
  let description ← description
  let token ← current
  if token.lexeme.content? ∈ [some "true", some "false", some "null"] then
    halt (.reservedEnumValue token.lexeme) token
  else return ⟨description, ← name, ← directives true⟩

def directiveLocations : List String :=
  ["QUERY", "MUTATION", "SUBSCRIPTION", "FIELD", "FRAGMENT_DEFINITION", "FRAGMENT_SPREAD",
   "INLINE_FRAGMENT", "VARIABLE_DEFINITION", "SCHEMA", "SCALAR", "OBJECT", "FIELD_DEFINITION",
   "ARGUMENT_DEFINITION", "INTERFACE", "UNION", "ENUM", "ENUM_VALUE", "INPUT_OBJECT",
   "INPUT_FIELD_DEFINITION"]

def directiveLocation : Reader String := do
  let token ← current
  let name ← name
  if name ∈ directiveLocations then return name else halt (.unexpected token.lexeme) token

def directiveDef (description : Option Description) : Reader DirectiveDef := do
  expect .atSign
  let name ← name
  let arguments ← argumentDefs
  let repeatable ← acceptWord "repeatable"
  expectWord "on"
  return ⟨description, name, arguments, repeatable, ← separated .pipe directiveLocation⟩

/-- What a word of the type system starts. Directives cannot be extended. -/
inductive TypeSystemWord where
  | schema
  | scalar
  | object
  | interface
  | union
  | enum
  | input
  | directive
deriving BEq

def TypeSystemWord.text : TypeSystemWord → String
  | .schema => "schema"
  | .scalar => "scalar"
  | .object => "type"
  | .interface => "interface"
  | .union => "union"
  | .enum => "enum"
  | .input => "input"
  | .directive => "directive"

def TypeSystemWord.ofText? (s : String) : Option TypeSystemWord :=
  [TypeSystemWord.schema, .scalar, .object, .interface, .union, .enum, .input, .directive].find?
    (·.text == s)

/-- An extension has to add something. -/
def requireIf (extension isEmpty : Bool) : Reader Unit :=
  if extension && isEmpty then unexpected else pure ()

def typeSystemRest (word : TypeSystemWord) (extension : Bool) (description : Option Description) :
    Reader Definition :=
  match word with
  | .schema => do
    let dirs ← directives true
    let roots ←
      if extension then enclosedIfAny .braceL .braceR rootType else enclosedSome .braceL .braceR rootType
    requireIf extension (dirs.isEmpty && roots.isEmpty)
    return .schema extension ⟨description, dirs, roots⟩
  | .scalar => do
    let node : ScalarDef := ⟨description, ← name, ← directives true⟩
    requireIf extension node.directives.isEmpty
    return .scalar extension node
  | .object => do
    let node ← composite description
    requireIf extension (node.interfaces.isEmpty && node.directives.isEmpty && node.fields.isEmpty)
    return .object extension node
  | .interface => do
    let node ← composite description
    requireIf extension (node.interfaces.isEmpty && node.directives.isEmpty && node.fields.isEmpty)
    return .interface extension node
  | .union => do
    let name ← name
    let dirs ← directives true
    let members ← if ← accept .equals then separated .pipe Reader.name else pure []
    requireIf extension (dirs.isEmpty && members.isEmpty)
    return .union extension ⟨description, name, dirs, members⟩
  | .enum => do
    let node : EnumDef := ⟨description, ← name, ← directives true,
      ← enclosedIfAny .braceL .braceR enumValue⟩
    requireIf extension (node.directives.isEmpty && node.values.isEmpty)
    return .enum extension node
  | .input => do
    let node : InputDef := ⟨description, ← name, ← directives true,
      ← enclosedIfAny .braceL .braceR inputValue⟩
    requireIf extension (node.directives.isEmpty && node.fields.isEmpty)
    return .input extension node
  | .directive => return .directive (← directiveDef description)

def typeSystemDef (word : TypeSystemWord) : Reader Definition := do
  let description ← description
  expectWord word.text
  typeSystemRest word false description

def typeSystemExtension : Reader Definition := do
  let token ← following
  match token.lexeme with
  | .name s =>
    match TypeSystemWord.ofText? s with
    | some .directive | none => halt (.unexpected token.lexeme) token
    | some word =>
      advance
      advance
      typeSystemRest word true none
  | found => halt (.unexpected found) token

def executableWords : List String := ["query", "mutation", "subscription"]

/-- The word that tells the kind of a definition stands behind its description. -/
def definition : Reader Definition := do
  let first ← current
  match first.lexeme with
  | .mark .braceL => return .operation (← operation)
  | _ =>
    let described := first.lexeme matches .text _ _
    let token ← if described then following else pure first
    match token.lexeme with
    | .name s =>
      match TypeSystemWord.ofText? s with
      | some word => typeSystemDef word
      | none =>
        if described then halt .misplacedDescription first
        else if s ∈ executableWords then return .operation (← operation)
        else if s = "fragment" then return .fragment (← fragment)
        else if s = "extend" then typeSystemExtension
        else halt (.unexpected token.lexeme) token
    | found => halt (.unexpected found) token

def definitions : Nat → Reader Document
  | 0 => unexpected
  | n + 1 => do
    let d ← definition
    if (← current).lexeme == .endOfText then return [d] else return d :: (← definitions n)

/-- A document has one definition at least. -/
def document : Reader Document := do
  let first ← current
  match first.lexeme with
  | .unreadable fault => halt (.scan fault) first
  | _ => definitions (← remaining)

end Reader

def Document.read (text : String) : Except Fault Document :=
  let cs := text.toList
  match Reader.document.run (Token.ofText cs) with
  | .ok (d, _) => .ok d
  | .error h => .error ⟨h.cause, Text.Place.after (cs.take (cs.length - h.left.length))⟩

end SchemaAccess.GraphQL
