import SchemaAccess.Expression.Basic
import SchemaAccess.Expression.Scan

namespace SchemaAccess.Expression

/-- Why reading stops: the grammar does not fit, or for a cause. -/
inductive Stop where
  | mismatch
  | cause (fault : Fault)

abbrev Reader := StateT (List Token) (Except Stop)

namespace Reader

variable {α : Type}

def mismatch : Reader α := throw .mismatch

def fail (fault : Fault) : Reader α := throw (.cause fault)

def current : Reader (Option Piece) := do
  match ← get with
  | ⟨.halt fault, _⟩ :: _ => fail fault
  | token :: _ => return some token.piece
  | [] => return none

def advance : Reader Unit := modify (·.drop 1)

def goBack (tokens : List Token) : Reader Unit := modify fun _ => tokens

def atMark (m : String) : Reader Bool := return (← current) == some (.mark m)

def atWord (w : String) : Reader Bool := return (← current) == some (.name w)

def accept (m : String) : Reader Bool := do
  if ← atMark m then
    advance
    return true
  else return false

def acceptWord (w : String) : Reader Bool := do
  if ← atWord w then
    advance
    return true
  else return false

def startOf (m : String) : Reader (Option String) := do
  match ← get with
  | ⟨.name s, _⟩ :: ⟨.mark next, _⟩ :: _ => return if next = m then some s else none
  | _ => return none

def expect (m : String) : Reader Unit := do unless ← accept m do mismatch

def expectWord (w : String) : Reader Unit := do unless ← acceptWord w do mismatch

def expectAny (marks : List String) : Reader String := do
  match ← current with
  | some (.mark m) =>
    if m ∈ marks then
      advance
      return m
    else mismatch
  | _ => mismatch

def attempt (r : Reader α) : Reader (Option α) := fun tokens =>
  match r tokens with
  | .ok (a, rest) => .ok (some a, rest)
  | .error .mismatch => .ok (none, tokens)
  | .error (.cause fault) => .error (.cause fault)

end Reader

open Reader

/-! ### Words -/

def constants : List String := ["True", "False", "None"]

def reserved : List String := constants ++ [
  "and", "as", "assert", "async", "await", "break", "class", "continue", "def", "del", "elif", "else",
  "except", "finally", "for", "from", "global", "if", "import", "in", "is", "lambda", "nonlocal", "not",
  "or", "pass", "raise", "return", "try", "while", "with", "yield"]

/-- Words that have a meaning of their own at the start of a statement. -/
def softWords : List String := ["_", "case", "match"]

def formerStatements : List String := ["print", "exec"]

def isName (p : Piece) : Bool :=
  match p with
  | .name s => s ∉ reserved
  | _ => false

/-- Expressions after which no missing comma is suspected: those that start with a name and a text, as if
the name were to be part of the text, and those that start with a word of some meaning. -/
def isTextAfterName : List Token → Bool
  | ⟨.name s, _⟩ :: ⟨.text _ _, _⟩ :: _ => s ∉ reserved
  | ⟨.name s, _⟩ :: _ => s ∈ softWords
  | _ => false

def arithmeticMarks : List String := ["|", "^", "&", "<<", ">>", "+", "-", "*", "/", "//", "%", "@"]

def comparisonMarks : List String := ["==", "!=", "<", ">", "<=", ">="]

/-! ### Expressions

The numbers bound the depth of reading; each call takes one. `hints`: suspect what was meant where the
grammar does not fit.
-/

def comparisonWord : Reader Unit := do
  if ← acceptWord "is" then
    let _ ← acceptWord "not"
  else
    let _ ← acceptWord "not"
    expectWord "in"

def comparisonSign : Reader Unit := do
  if (← attempt (expectAny comparisonMarks)).isNone then comparisonWord

def texts (form : TextForm) : Nat → Reader TextForm
  | 0 => mismatch
  | n + 1 => do
    match ← current with
    | some (.text next ascii) =>
      if next = .bytes && !ascii then fail .wideBytes
      else
        advance
        if (form = .bytes) != (next = .bytes) then
          let _ ← texts next n
          fail .mixedTexts
        else texts (if form = .formatted then form else next) n
    | _ => return form

/-- How the arguments of a call are given so far: by their places, by names, or in a dictionary. -/
inductive ArgumentKind where
  | unnamed
  | named
  | unpacked
deriving Repr, DecidableEq

def isFormerStatement : Expression → Bool
  | .name s => s ∈ formerStatements
  | _ => false

/-- The last token that was read on the way from one list of tokens to another. -/
def lastBetween (tokens rest : List Token) : Option Token :=
  (tokens.take (tokens.length - rest.length)).getLast?

mutual

def expression (hints : Bool) : Nat → Reader Expression
  | 0 => mismatch
  | n + 1 => do
    let start ← get
    let first ← disjunction hints n
    if hints then suspectOmission start first n
    let choice ← attempt do
      expectWord "if"
      let _ ← disjunction hints n
      unless ← acceptWord "else" do
        if hints && !(← atMark ":") then fail .missingElse else mismatch
      let _ ← expression hints n
    return if choice.isSome then .conditional else first

/-- Another expression behind one within brackets, or behind a former statement. The tokens stay as they
are. -/
def suspectOmission (start : List Token) (first : Expression) : Nat → Reader Unit
  | 0 => mismatch
  | n + 1 => do
    let here ← get
    let next ← if isTextAfterName start then pure none else attempt (expression false n)
    let after ← get
    goBack here
    if next.isSome then
      if !first.isFormerStatement && (lastBetween here after).any (·.depth != 0) then fail .missingComma
    match start with
    | ⟨.name s, _⟩ :: rest =>
      goBack rest
      if !(s ∈ reserved || (← atMark "(")) then
        if (← attempt (expression true n)).isSome && s ∈ formerStatements then fail (.missingCallMarks s)
      goBack here
    | _ => pure ()

def disjunction (hints : Bool) : Nat → Reader Expression
  | 0 => mismatch
  | n + 1 => do
    let first ← inversion hints n
    let more ← attempt do
      unless ← acceptWord "or" do expectWord "and"
      let _ ← disjunction hints n
    return if more.isSome then .operation else first

def inversion (hints : Bool) : Nat → Reader Expression
  | 0 => mismatch
  | n + 1 => do
    if ← acceptWord "not" then
      let _ ← inversion hints n
      return .operation
    else
      let first ← arithmetic hints n
      return if ← comparands hints n then .comparison else first

/-- Pass what an operand is compared with; whether there is anything. -/
def comparands (hints : Bool) : Nat → Reader Bool
  | 0 => mismatch
  | n + 1 => do
    let next ← attempt do
      comparisonSign
      let _ ← arithmetic hints n
    if next.isSome then
      let _ ← comparands hints n
      return true
    else return false

def arithmetic (hints : Bool) : Nat → Reader Expression
  | 0 => mismatch
  | n + 1 => do arithmeticRest hints (← factor hints n) n

def arithmeticRest (hints : Bool) (left : Expression) : Nat → Reader Expression
  | 0 => mismatch
  | n + 1 => do
    let next ← attempt do
      let m ← expectAny arithmeticMarks
      return (m, ← factor hints n)
    match next with
    | some (m, right) =>
      arithmeticRest hints (if m == "+" || m == "-" then .sum left right else .operation) n
    | none => return left

def factor (hints : Bool) : Nat → Reader Expression
  | 0 => mismatch
  | n + 1 => do
    match ← attempt (expectAny ["+", "-", "~"]) with
    | some sign =>
      let e ← factor hints n
      return if sign == "~" then .operation else .signed e
    | none =>
      let base ← primary hints (← atom hints n) n
      let power ← attempt do
        expect "**"
        let _ ← factor hints n
      return if power.isSome then .operation else base

def primary (hints : Bool) (e : Expression) : Nat → Reader Expression
  | 0 => mismatch
  | n + 1 => do
    let member ← attempt do
      expect "."
      match ← current with
      | some p => if isName p then advance else mismatch
      | none => mismatch
    if member.isSome then primary hints (.member e) n
    else
      let call ← attempt do
        expect "("
        arguments hints .unnamed n
      match call with
      | some hasArguments => primary hints (.call e hasArguments) n
      | none => return e

/-- Arguments up to the closing bracket; whether there are any. -/
def arguments (hints : Bool) (kind : ArgumentKind) : Nat → Reader Bool
  | 0 => mismatch
  | n + 1 => do
    if ← accept ")" then return false
    else
      let kind ← argument hints kind n
      if ← accept "," then
        let _ ← arguments hints kind n
      else expect ")"
      return true

/-- An argument behind others of a kind; their kind with it. -/
def argument (hints : Bool) (kind : ArgumentKind) : Nat → Reader ArgumentKind
  | 0 => mismatch
  | n + 1 => do
    if ← atMark "*" then
      if hints then suspectStar n
      advance
      let _ ← expression hints n
      if kind = .unpacked then mismatch else return kind
    else if ← accept "**" then
      let _ ← expression hints n
      return .unpacked
    else
      match ← startOf "=" with
      | some s =>
        if s ∉ reserved then
          modify (·.drop 2)
          let _ ← expression hints n
          return if kind = .unpacked then .unpacked else .named
        else if hints && s ∈ constants then fail (.equalsAfterConstant s)
        else mismatch
      | none =>
        if (← startOf ":=").any (· ∉ reserved) then modify (·.drop 2)
        let _ ← expression hints n
        if ← atMark ":=" then mismatch
        if ← atMark "=" then
          if hints then fail .equalsInCall else mismatch
        if kind = .unnamed then return .unnamed
        else if hints then fail (.lateArgument (kind = .unpacked))
        else mismatch

/-- Between brackets: an expression under a name, several that are spread out, or one. -/
def element (hints : Bool) : Nat → Reader Expression
  | 0 => mismatch
  | n + 1 => do
    if ← accept "*" then return .starred (← arithmetic hints n)
    else if (← startOf ":=").any (· ∉ reserved) then
      modify (·.drop 2)
      return .assignment (← expression hints n)
    else
      let start ← get
      elementRest hints start (← expression hints n) n

def elementRest (hints : Bool) (start : List Token) (e : Expression) : Nat → Reader Expression
  | 0 => mismatch
  | n + 1 => do
    if ← accept ":=" then
      let _ ← expression hints n
      if hints then fail (.setInExpression e.noun) else mismatch
    else if ← atMark "=" then
      if hints then suspectComparison start n
      mismatch
    else return e

/-- An equals sign where two are meant: behind an operand that could be compared, if it starts with no
tuple and no constant. -/
def suspectComparison (start : List Token) : Nat → Reader Unit
  | 0 => mismatch
  | n + 1 => do
    goBack start
    let isAfterName := (← startOf "=").any (· ∉ reserved)
    match ← attempt (atom true n) with
    | some (.tuple _) | some (.constant _) => mismatch
    | _ =>
      goBack start
      let left ← arithmetic true n
      expect "="
      let _ ← arithmetic true n
      if ← atMark "=" then mismatch
      if ← atMark ":=" then mismatch
      fail (if isAfterName then .equalsAfterName else .equalsAfter left.noun)

/-- Elements up to a closing bracket, and whether a comma stands behind the first. -/
def elements (hints : Bool) (close : String) : Nat → Reader (List Expression × Bool)
  | 0 => mismatch
  | n + 1 => do elementsFrom hints close (← element hints n) n

def elementsFrom (hints : Bool) (close : String) (first : Expression) :
    Nat → Reader (List Expression × Bool)
  | 0 => mismatch
  | n + 1 => do
    if ← accept "," then
      if ← accept close then return ([first], true)
      else return (first :: (← elements hints close n).1, true)
    else
      expect close
      return ([first], false)

def atom (hints : Bool) : Nat → Reader Expression
  | 0 => mismatch
  | n + 1 => do
    match ← current with
    | some (.name s) =>
      if s ∈ constants then
        advance
        return .constant s
      else if s ∈ reserved then mismatch
      else
        advance
        return .name s
    | some (.number imaginary) =>
      advance
      return .number imaginary
    | some (.text form _) => return .text (← texts form n)
    | some (.mark "...") =>
      advance
      return .constant "..."
    | some (.mark "(") =>
      advance
      bracketed hints n
    | some (.mark "\x7b") =>
      advance
      braced hints n
    | _ => mismatch

/-- A star with no expression behind it. The tokens stay as they are. -/
def suspectStar : Nat → Reader Unit
  | 0 => mismatch
  | n + 1 => do
    let here ← get
    if ← accept "*" then
      if (← attempt (expression true n)).isNone then fail .strayStar
    goBack here

def bracketed (hints : Bool) : Nat → Reader Expression
  | 0 => mismatch
  | n + 1 => do
    if ← accept ")" then return .tuple []
    else if ← accept "**" then
      let _ ← expression hints n
      expect ")"
      if hints then fail (.loneStar true) else mismatch
    else
      match ← attempt (elements hints ")" n) with
      | some ([.starred _], false) => if hints then fail (.loneStar false) else mismatch
      | some ([e], false) => return e
      | some (items, _) => return .tuple items
      | none =>
        if hints then suspectStar n
        mismatch

def braced (hints : Bool) : Nat → Reader Expression
  | 0 => mismatch
  | n + 1 => do
    if ← atMark "\x7d" then entries hints [] n
    else if ← atMark "**" then entries hints [] n
    else if (← atMark "*") || (← startOf ":=").isSome then
      match ← attempt (elements hints "\x7d" n) with
      | some (members, _) => return .set members
      | none =>
        if hints then suspectStar n
        mismatch
    else
      let start ← get
      let first ← expression hints n
      if ← atMark ":" then entry hints [] first n
      else
        let first ← elementRest hints start first n
        return .set (← elementsFrom hints "\x7d" first n).1

/-- Entries up to the closing bracket, after those read, which are given in reverse. -/
def entries (hints : Bool) (read : List (Expression × Expression)) : Nat → Reader Expression
  | 0 => mismatch
  | n + 1 => do
    if ← accept "\x7d" then return .dict read.reverse
    else if ← accept "**" then
      let _ ← arithmetic hints n
      if ← accept "," then
        let _ ← entries hints read n
      else expect "\x7d"
      return .merged
    else entry hints read (← expression hints n) n

def entry (hints : Bool) (read : List (Expression × Expression)) (key : Expression) :
    Nat → Reader Expression
  | 0 => mismatch
  | n + 1 => do
    unless ← accept ":" do fail .missingColon
    if ← accept "*" then
      let _ ← arithmetic hints n
      fail .starredEntry
    else if (← atMark "\x7d") || (← atMark ",") then fail .missingEntry
    else
      let value ← expression hints n
      if ← accept "," then entries hints ((key, value) :: read) n
      else
        expect "\x7d"
        return .dict ((key, value) :: read).reverse

end

/-! ### Whole texts -/

def finish : Nat → Reader Unit
  | 0 => mismatch
  | n + 1 => do
    match ← current with
    | none => pure ()
    | some (.line false) =>
      advance
      finish n
    | some (.line true) => fail .indented
    | some _ => mismatch

def row (hints : Bool) (bound : Nat) : Nat → Reader (List Expression × Bool)
  | 0 => mismatch
  | n + 1 => do
    match ← current with
    | none | some (.line _) => return ([], true)
    | _ =>
      let first ← expression hints bound
      if ← accept "," then return (first :: (← row hints bound n).1, true)
      else return ([first], false)

def callsPerToken : Nat := 12

def whole (hints : Bool) (bound : Nat) : Reader Expression := do
  let items ← row hints bound bound
  finish bound
  match items with
  | ([], _) => mismatch
  | ([e], false) => return e
  | (items, _) => return .tuple items

/-- The expression that the tokens are. If the grammar does not fit, they are read again, with suspicion. -/
def read (tokens : List Token) : Except Fault Expression :=
  let bound := callsPerToken * (tokens.length + 1)
  let told (r : Except Stop (Expression × List Token)) (other : Except Fault Expression) :
      Except Fault Expression :=
    match r with
    | .ok (e, _) => .ok e
    | .error (.cause fault) => .error fault
    | .error .mismatch => other
  told (whole false bound tokens) (told (whole true bound tokens) (.error .invalid))

def check (text : List Char) : Except Fault Unit := do
  if '\x00' ∈ text then throw .nullCharacter
  let _ ← (← read (← scan text)).checkLiteral

def literalFault? (text : List Char) : Option Fault :=
  match check text with
  | .ok _ => none
  | .error fault => some fault

end SchemaAccess.Expression
