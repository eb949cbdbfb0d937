import SchemaAccess.Expression.Token
import SchemaAccess.Text.Word

namespace SchemaAccess.Expression

/-! ### Numbers -/

def NumberForm.hasDigit : NumberForm → Char → Bool
  | .hexadecimal, c => (Text.hexValue? c).isSome
  | .octal, c => '0' ≤ c && c < '8'
  | .binary, c => c == '0' || c == '1'
  | _, c => c.isDigit

/-- What follows digits with single underscores between them. `needed`: a digit has to come first. -/
def afterDigits (form : NumberForm) (needed : Bool) : List Char → Except Fault (List Char)
  | [] => if needed then .error (.badNumber form) else .ok []
  | c :: rest =>
    if form.hasDigit c then afterDigits form false rest
    else if c == '_' && !needed then afterDigits form true rest
    else if c.isDigit then .error (.badDigit c form)
    else if needed then .error (.badNumber form)
    else .ok (c :: rest)

def startsName (c : Char) : Bool := c.isAlpha || c == '_' || 0x80 ≤ c.toNat

def continuesName (c : Char) : Bool := startsName c || c.isDigit

def wordsAfterNumber : List String := ["and", "else", "for", "or", "not"]

/-- No other letter of ASCII may follow a number, but what starts with `if`, `in` or `is`. -/
def numberEnd (form : NumberForm) (cs : List Char) : Except Fault (List Char) :=
  let word := cs.takeWhile continuesName
  if String.ofList word ∈ wordsAfterNumber || String.ofList (word.take 2) ∈ ["if", "in", "is"] then .ok cs
  else if cs.head?.any fun c => continuesName c && c.toNat < 0x80 then .error (.badNumber form)
  else .ok cs

def imaginaryEnd (cs : List Char) : Except Fault (Bool × List Char) :=
  match cs with
  | c :: rest =>
    if c == 'j' || c == 'J' then do return (true, ← numberEnd .imaginary rest)
    else do return (false, ← numberEnd .decimal cs)
  | [] => .ok (false, [])

def exponentEnd (cs : List Char) : Except Fault (Bool × List Char) :=
  match cs with
  | c :: rest =>
    if c == 'e' || c == 'E' then
      match rest with
      | s :: more =>
        if s == '+' || s == '-' then do imaginaryEnd (← afterDigits .decimal true more)
        else if s.isDigit then do imaginaryEnd (← afterDigits .decimal false rest)
        else do return (false, ← numberEnd .decimal cs)
      | [] => .error (.badNumber .decimal)
    else imaginaryEnd cs
  | [] => .ok (false, [])

def fractionEnd (cs : List Char) : Except Fault (Bool × List Char) :=
  match cs with
  | '.' :: rest =>
    if rest.head?.any Char.isDigit then do exponentEnd (← afterDigits .decimal false rest)
    else exponentEnd rest
  | _ => exponentEnd cs

def radix? (c : Char) : Option NumberForm :=
  if c == 'x' || c == 'X' then some .hexadecimal
  else if c == 'o' || c == 'O' then some .octal
  else if c == 'b' || c == 'B' then some .binary
  else none

/-- A decimal number may start with a zero only if it has no whole digits but zeros, or is no whole
number. -/
def decimalEnd (cs : List Char) : Except Fault (Bool × List Char) := do
  let rest ← afterDigits .decimal false cs
  let digits := cs.take (cs.length - rest.length)
  let whole := !(rest.head?.any fun c => c == '.' || c == 'e' || c == 'E' || c == 'j' || c == 'J')
  if whole && cs.head? == some '0' && digits.any (fun c => c != '0' && c != '_') then throw .leadingZeros
  else fractionEnd rest

def afterNumber (cs : List Char) : Except Fault (Bool × List Char) :=
  match cs with
  | '0' :: c :: rest =>
    match radix? c with
    | some form => do
      let start := match rest with
        | '_' :: more => more
        | _ => rest
      return (false, ← numberEnd form (← afterDigits form true start))
    | none => decimalEnd cs
  | _ => decimalEnd cs

/-! ### Texts -/

/-- The line in which a text ends, and what follows it; the line in which it is found not to end. -/
def afterText (mark : List Char) (line : Nat) : List Char → Except Nat (Nat × List Char)
  | '\\' :: c :: rest => afterText mark (if c == '\n' then line + 1 else line) rest
  | c :: rest =>
    if mark.isPrefixOf (c :: rest) then .ok (line, (c :: rest).drop mark.length)
    else if c == '\n' then
      if mark.length == 1 then .error line else afterText mark (line + 1) rest
    else afterText mark line rest
  | [] => .error line

def textForm? (letters : List Char) : Option TextForm :=
  let word := String.ofList (letters.map Char.toLower)
  if word ∈ ["", "u", "r"] then some .plain
  else if word ∈ ["b", "br", "rb"] then some .bytes
  else if word ∈ ["f", "fr", "rf"] then some .formatted
  else none

def isQuote (c : Char) : Bool := c == '\x27' || c == '\x22'

/-- The mark that ends a text which starts with this quote, and the text behind its start. Two quotes
are an empty text. -/
def textStart (quote : Char) (cs : List Char) : List Char × List Char :=
  let three := List.replicate 3 quote
  if three.isPrefixOf cs then (three, cs.drop 3) else ([quote], cs.drop 1)

/-! ### Marks -/

def longMarks : List String := [
  "**=", "//=", ">>=", "<<=", "...", "!=", "%=", "&=", "**", "*=", "+=", "-=", "->", "//", "/=", ":=",
  "<<", "<=", "<>", "==", ">=", ">>", "@=", "^=", "|="]

def markOf (cs : List Char) : List Char :=
  ((longMarks.map String.toList).find? (·.isPrefixOf cs)).getD (cs.take 1)

def closingFor (opening : Char) : Char := if opening == '(' then ')' else '\x7d'

abbrev Opened := List (Char × Nat)

def depthLimit : Nat := 200

def opensAfter (line : Nat) (opened : Opened) (c : Char) : Except Fault Opened :=
  if c == '(' || c == '\x7b' then
    if depthLimit ≤ opened.length then .error .tooDeep else .ok ((c, line) :: opened)
  else if c == ')' || c == '\x7d' then
    match opened with
    | [] => .error (.unmatched c)
    | (opening, at_) :: rest =>
      if closingFor opening == c then .ok rest
      else .error (.mismatched c opening (if at_ = line then none else some at_))
  else if Text.isPrintable c then .ok opened
  else .error (.strangeCharacter c)

/-! ### Whole texts -/

def strange? : List Char → Option Char
  | [] => none
  | c :: rest =>
    let fits (d : Char) : Bool := d == '_' || Text.isLetter d
    if fits c then rest.find? fun d => !(fits d || (Text.digit? d).isSome) else some c

def isGap (c : Char) : Bool := c == ' ' || c == '\t' || c == '\x0c'

def isIndented (cs : List Char) : Bool :=
  cs.head?.any isGap && (cs.dropWhile isGap).head?.any fun c => c != '\n' && c != '#'

def ending (opened : Opened) : Fault :=
  match opened with
  | (c, _) :: _ => .neverClosed c
  | [] => .cutOff

def scanFrom : Nat → Nat → Opened → List Char → Except Fault (List Token)
  | 0, _, _, _ => .ok []
  | n + 1, line, opened, cs =>
    let halt (fault : Fault) : List Token := [⟨.halt fault, opened.length⟩]
    let text (form : TextForm) (cs : List Char) : Except Fault (List Token) := do
      let (mark, start) := textStart (cs.headD ' ') cs
      match afterText mark line start with
      | .error last => throw (.unterminated (mark.length == 3) last)
      | .ok (last, rest) =>
        let content := start.take (start.length - rest.length)
        return ⟨.text form (content.all (·.toNat < 0x80)), opened.length⟩ ::
          (← scanFrom n last opened rest)
    match cs with
    | [] => .ok (if opened.isEmpty then [] else halt (ending opened))
    | '\n' :: rest => do
      let tokens ← scanFrom n (line + 1) opened rest
      return if opened.isEmpty then ⟨.line (isIndented rest), 0⟩ :: tokens else tokens
    | ['\\', '\n'] => .ok (halt (ending opened))
    | '\\' :: '\n' :: rest => scanFrom n (line + 1) opened rest
    | '\\' :: _ => .ok (halt .strayBackslash)
    | '#' :: rest => scanFrom n line opened (rest.dropWhile (· != '\n'))
    | c :: rest =>
      if isGap c then scanFrom n line opened rest
      else if c.isDigit || (c == '.' && rest.head?.any Char.isDigit) then do
        let (imaginary, after) ← afterNumber cs
        return ⟨.number imaginary, opened.length⟩ :: (← scanFrom n line opened after)
      else if isQuote c then text .plain cs
      else if startsName c then
        let name := cs.takeWhile continuesName
        let after := cs.drop name.length
        match if after.head?.any isQuote then textForm? name else none with
        | some form => text form after
        | none =>
          match strange? name with
          | some d => .error (.strangeCharacter d)
          | none => do
            return ⟨.name (String.ofList name), opened.length⟩ :: (← scanFrom n line opened after)
      else do
        let mark := markOf cs
        let opened ← if mark.length = 1 then opensAfter line opened c else pure opened
        return ⟨.mark (String.ofList mark), opened.length⟩ ::
          (← scanFrom n line opened (cs.drop mark.length))

def scan (cs : List Char) : Except Fault (List Token) :=
  scanFrom (cs.length + 1) 1 [] cs

end SchemaAccess.Expression
