import SchemaAccess.GraphQL.BlockText
import SchemaAccess.GraphQL.Token

namespace SchemaAccess.GraphQL

/-- A fault, and the text from where it was noticed. -/
structure ScanHalt where
  fault : ScanFault
  left : List Char

abbrev Read (α : Type) := α × List Char

namespace Scan

def halt {α : Type} (fault : ScanFault) (left : List Char) : Except ScanHalt α := .error ⟨fault, left⟩

def isNameStart (c : Char) : Bool := c.isAlpha || c == '_'

def isNameRest (c : Char) : Bool := c.isAlphanum || c == '_'

def isIgnored (c : Char) : Bool :=
  c == ' ' || c == '\t' || c == ',' || c == '\ufeff' || c == '\n' || c == '\r'

/-- What is left behind white space, commas and comments. A comment goes to the end of its line. -/
def skip (inComment : Bool) : List Char → List Char
  | [] => []
  | c :: rest =>
    if inComment then skip (!(c == '\n' || c == '\r')) rest
    else if isIgnored c then skip false rest
    else if c == '#' then skip true rest
    else c :: rest

def digits (cs : List Char) : Except ScanHalt (Read (List Char)) :=
  match cs.takeWhile Char.isDigit with
  | [] => halt (.digitExpected cs.head?) cs
  | ds => .ok (ds, cs.drop ds.length)

def wholePart (cs : List Char) : Except ScanHalt (Read (List Char)) :=
  match cs with
  | '0' :: d :: rest =>
    if d.isDigit then halt (.digitAfterZero d) (d :: rest) else .ok (['0'], d :: rest)
  | _ => digits cs

def fraction (cs : List Char) : Except ScanHalt (Read (List Char)) :=
  match cs with
  | '.' :: rest => do
    let (ds, rest) ← digits rest
    return ('.' :: ds, rest)
  | _ => .ok ([], cs)

def exponent (cs : List Char) : Except ScanHalt (Read (List Char)) :=
  match cs with
  | e :: rest =>
    if e == 'e' || e == 'E' then do
      let (sign, rest) := match rest with
        | c :: more => if c == '+' || c == '-' then ([c], more) else ([], rest)
        | [] => ([], rest)
      let (ds, rest) ← digits rest
      return (e :: sign ++ ds, rest)
    else .ok ([], cs)
  | [] => .ok ([], cs)

def number (cs : List Char) : Except ScanHalt (Read Lexeme) := do
  let (sign, rest) := match cs with
    | '-' :: rest => (['-'], rest)
    | _ => ([], cs)
  let (whole, rest) ← wholePart rest
  let (fraction, rest) ← fraction rest
  let (exponent, rest) ← exponent rest
  let text := String.ofList (sign ++ whole ++ fraction ++ exponent)
  match rest with
  | c :: _ => if c == '.' || isNameStart c then halt (.digitExpected (some c)) rest
  | [] => pure ()
  return (if fraction.isEmpty && exponent.isEmpty then .int text else .float text, rest)

def escape? (c : Char) : Option Char :=
  if c == '\x22' || c == '\\' || c == '/' then some c
  else if c == 'b' then some '\x08'
  else if c == 'f' then some '\x0c'
  else if c == 'n' then some '\n'
  else if c == 'r' then some '\r'
  else if c == 't' then some '\t'
  else none

def scalar? (n : Nat) : Option Char :=
  if n < 0xD800 ∨ 0xE000 ≤ n ∧ n ≤ 0x10FFFF then some (Char.ofNat n) else none

def longestEscape : Nat := 12

/-- The rest of an escape in braces, of which `size` characters are read. A fault tells how many
characters it concerns. -/
def bracedEscape (point size : Nat) : List Char → Except Nat (Char × List Char)
  | [] => .error size
  | c :: rest =>
    if longestEscape ≤ size then .error size
    else if c == '\x7d' then
      match scalar? point with
      | some s => if size < 4 then .error (size + 1) else .ok (s, rest)
      | none => .error (size + 1)
    else
      match Text.hexValue? c with
      | some d => bracedEscape (16 * point + d) (size + 1) rest
      | none => .error (size + 1)

/-- The number that four characters write, if they are hexadecimal digits. Four have to be there. -/
def unit (left cs : List Char) : Except ScanHalt (Read (Option Nat)) :=
  match cs with
  | a :: b :: c :: d :: rest => .ok (Text.hexNumber? [a, b, c, d], rest)
  | _ => halt .escapeCutOff left

/-- What follows a leading half: the number that a second escape writes, if there is one. -/
def secondUnit (left cs : List Char) : Except ScanHalt (Read (Option Nat)) :=
  match cs with
  | '\\' :: 'u' :: rest => unit left rest
  | [] | ['\\'] => halt .escapeCutOff left
  | rest => .ok (none, rest)

def paired? (high : Nat) (low? : Option Nat) : Option Char :=
  low?.bind fun low =>
    if 0xDC00 ≤ low ∧ low < 0xE000 then some (Char.ofNat (Text.joinSurrogates high low)) else none

def isLeading (n : Nat) : Bool := 0xD800 ≤ n && n < 0xDC00

/-- An escape of four digits behind `\u`, or two of them that make a surrogate pair. -/
def fixedEscape (left cs : List Char) : Except ScanHalt (Read Char) := do
  let bad := halt (.badUnicodeEscape (String.ofList (left.take 6))) left
  let (high?, rest) ← unit left cs
  match high? with
  | none => bad
  | some high =>
    match scalar? high with
    | some c => return (c, rest)
    | none =>
      if isLeading high then
        let (low?, rest) ← secondUnit left rest
        match paired? high low? with
        | some c => return (c, rest)
        | none => bad
      else bad

/-- The character that an escape stands for. The text starts with its backslash. -/
def escape (cs : List Char) : Except ScanHalt (Read Char) :=
  match cs with
  | _ :: 'u' :: '\x7b' :: rest =>
    match bracedEscape 0 3 rest with
    | .ok result => .ok result
    | .error size => halt (.badUnicodeEscape (String.ofList (cs.take size))) cs
  | _ :: 'u' :: rest => fixedEscape cs rest
  | _ :: c :: rest =>
    match escape? c with
    | some c => .ok (c, rest)
    | none => halt (.badEscape (String.ofList (cs.take 2))) cs
  | _ => halt .escapeCutOff cs

/-- The rest of a string behind its opening quote; it ends on its line. Each step takes a character
at least, so that the length of the text is fuel enough. -/
def stringRest : Nat → List Char → List Char → Except ScanHalt (Read String)
  | 0, cs, _ => halt .unterminated cs
  | n + 1, cs, acc =>
    match cs with
    | [] => halt .unterminated cs
    | c :: rest =>
      if c == '\x22' then .ok (String.ofList acc.reverse, rest)
      else if c == '\n' || c == '\r' then halt .unterminated cs
      else if c == '\\' then do
        let (c, rest) ← escape cs
        stringRest n rest (c :: acc)
      else stringRest n rest (c :: acc)

def blockLines : List Char → List Char → Except ScanHalt (Read (List (List Char)))
  | [], _ => halt .unterminated []
  | '\x22' :: '\x22' :: '\x22' :: rest, line => .ok ([line.reverse], rest)
  | '\\' :: '\x22' :: '\x22' :: '\x22' :: rest, line =>
    blockLines rest ('\x22' :: '\x22' :: '\x22' :: line)
  | '\r' :: '\n' :: rest, line => do
    let (lines, rest) ← blockLines rest []
    return (line.reverse :: lines, rest)
  | c :: rest, line =>
    if c == '\n' || c == '\r' then do
      let (lines, rest) ← blockLines rest []
      return (line.reverse :: lines, rest)
    else blockLines rest (c :: line)

/-- The lexeme at the start of a text that starts with nothing to skip. -/
def lexeme (cs : List Char) : Except ScanHalt (Read Lexeme) :=
  match cs with
  | [] => .ok (.endOfText, [])
  | '\x22' :: '\x22' :: '\x22' :: rest => do
    let (lines, rest) ← blockLines rest []
    return (.text (String.ofList (BlockText.meaning lines)) true, rest)
  | '\x22' :: rest => do
    let (s, rest) ← stringRest cs.length rest []
    return (.text s false, rest)
  | '.' :: '.' :: '.' :: rest => .ok (.mark .spread, rest)
  | c :: rest =>
    match Mark.ofChar? c with
    | some m => .ok (.mark m, rest)
    | none =>
      if c.isDigit || c == '-' then number cs
      else if isNameStart c then
        let name := cs.takeWhile isNameRest
        .ok (.name (String.ofList name), cs.drop name.length)
      else if c == '\x27' then halt .singleQuote cs
      else halt (.strangeCharacter c) cs

/-- Each lexeme takes a character at least, so that one step more than there are characters is
enough. -/
def tokens : Nat → List Char → List Token
  | 0, cs => [⟨.endOfText, cs⟩]
  | n + 1, cs =>
    let start := skip false cs
    match lexeme start with
    | .error h => [⟨.unreadable h.fault, h.left⟩]
    | .ok (.endOfText, _) => [⟨.endOfText, start⟩]
    | .ok (l, rest) => ⟨l, start⟩ :: tokens n rest

end Scan

def Token.ofText (text : List Char) : List Token := Scan.tokens (text.length + 1) text

end SchemaAccess.GraphQL
