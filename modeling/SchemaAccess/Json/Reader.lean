import SchemaAccess.Number.Numeral
import SchemaAccess.Text.Line
import SchemaAccess.Value.Basic

namespace SchemaAccess.Json

inductive Cause where
  | byteOrderMark
  | valueExpected
  | keyExpected
  | colonExpected
  | commaExpected
  | unterminatedString
  | controlCharacter
  | badEscape
  | badUnicodeEscape
  | moreData
  | tooManyDigits (count : Nat)
deriving Repr, DecidableEq

/-- A cause, and how much of the text was left where it was noticed. -/
structure Halt where
  cause : Cause
  left : Nat

abbrev Reader (α : Type) := List Char → Except Halt (α × List Char)

def isSpace (c : Char) : Bool := c == ' ' || c == '\t' || c == '\n' || c == '\r'

def skipSpace (cs : List Char) : List Char := cs.dropWhile isSpace

def halt {α : Type} (cause : Cause) (at_ : List Char) : Except Halt α := .error ⟨cause, at_.length⟩

def escape? (c : Char) : Option Char :=
  if c == '\x22' || c == '\\' || c == '/' then some c
  else if c == 'b' then some '\x08'
  else if c == 'f' then some '\x0c'
  else if c == 'n' then some '\n'
  else if c == 'r' then some '\r'
  else if c == 't' then some '\t'
  else none

/-- The four hexadecimal digits behind `\u`. A character has to follow them. -/
def unit? : List Char → Option (Nat × List Char)
  | a :: b :: c :: d :: e :: rest => (Text.hexNumber? [a, b, c, d]).map (·, e :: rest)
  | _ => none

/-- The half that trails a leading one: `\u` and four digits behind it, with a character following. -/
def trailing? : List Char → Option (Option (Nat × List Char))
  | '\\' :: 'u' :: a :: b :: c :: d :: e :: rest => some (unit? (a :: b :: c :: d :: e :: rest))
  | _ => none

/-- The rest of a string behind its opening quote. `whole` is the text from that quote on. -/
def string (whole : List Char) : Nat → List Char → List Text.Glyph → Except Halt (List Text.Glyph × List Char)
  | 0, _, _ => halt .unterminatedString whole
  | _ + 1, [], _ => halt .unterminatedString whole
  | n + 1, '\\' :: 'u' :: rest, acc =>
    match unit? rest with
    | none => halt .badUnicodeEscape ('u' :: rest)
    | some (code, rest) =>
      if 0xD800 ≤ code ∧ code ≤ 0xDBFF then
        match trailing? rest with
        | some none => halt .badUnicodeEscape rest.tail
        | some (some (low, rest')) =>
          if 0xDC00 ≤ low ∧ low ≤ 0xDFFF then
            string whole n rest' (.char (Char.ofNat (Text.joinSurrogates code low)) :: acc)
          else string whole n rest (.half code :: acc)
        | none => string whole n rest (.half code :: acc)
      else if 0xDC00 ≤ code ∧ code ≤ 0xDFFF then string whole n rest (.half code :: acc)
      else string whole n rest (.char (Char.ofNat code) :: acc)
  | _ + 1, ['\\'], _ => halt .unterminatedString whole
  | n + 1, '\\' :: c :: rest, acc =>
    match escape? c with
    | some c => string whole n rest (.char c :: acc)
    | none => halt .badEscape ('\\' :: c :: rest)
  | n + 1, c :: rest, acc =>
    if c == '\x22' then .ok (acc.reverse, rest)
    else if c.toNat < 0x20 then halt .controlCharacter (c :: rest)
    else string whole n rest (.char c :: acc)

def number (start : List Char) : Except Halt (Value × List Char) :=
  match Numeral.read start with
  | none => halt .valueExpected start
  | some (n, rest) =>
    if !n.isWhole then .ok (.float n.toBinary64, rest)
    else if n.isExact then .ok (.integer n.toInt, rest)
    else halt (.tooManyDigits n.whole.length) start

def words : List (String × Value) :=
  [("null", .null), ("true", .boolean true), ("false", .boolean false), ("NaN", .float .undefined),
   ("Infinity", .float (.infinite false)), ("-Infinity", .float (.infinite true))]

def word? (cs : List Char) : Option (Value × List Char) :=
  words.findSome? fun (w, v) => if w.toList.isPrefixOf cs then some (v, cs.drop w.length) else none

mutual

def value : Nat → Reader Value
  | 0, cs => halt .valueExpected cs
  | n + 1, cs =>
    match cs with
    | '\x22' :: rest => do
      let (glyphs, rest) ← string cs cs.length rest []
      return (.ofGlyphs glyphs, rest)
    | '[' :: rest =>
      match skipSpace rest with
      | ']' :: rest => .ok (.list [], rest)
      | rest => do
        let (items, rest) ← items n rest
        return (.list items, rest)
    | '\x7b' :: rest =>
      match skipSpace rest with
      | '\x7d' :: rest => .ok (.object [], rest)
      | rest => do
        let (fields, rest) ← fields n rest
        return (.object (Entries.ofWrites fields), rest)
    | _ => match word? cs with
      | some (v, rest) => .ok (v, rest)
      | none => number cs

def items : Nat → Reader (List Value)
  | 0, cs => halt .valueExpected cs
  | n + 1, cs => do
    let (v, rest) ← value n cs
    match skipSpace rest with
    | ']' :: rest => return ([v], rest)
    | ',' :: rest => do
      let (vs, rest) ← items n (skipSpace rest)
      return (v :: vs, rest)
    | rest => halt .commaExpected rest

/-- The fields of an object up to its end. A key is told without halves that stand alone in it. -/
def fields : Nat → Reader (List (String × Value))
  | 0, cs => halt .keyExpected cs
  | n + 1, cs =>
    match cs with
    | '\x22' :: rest => do
      let (glyphs, rest) ← string cs cs.length rest []
      let key := Text.Glyph.replaced glyphs
      match skipSpace rest with
      | ':' :: rest => do
        let (v, rest) ← value n (skipSpace rest)
        match skipSpace rest with
        | '\x7d' :: rest => return ([(key, v)], rest)
        | ',' :: rest => do
          let (more, rest) ← fields n (skipSpace rest)
          return ((key, v) :: more, rest)
        | rest => halt .commaExpected rest
      | rest => halt .colonExpected rest
    | _ => halt .keyExpected cs

end

def document (cs : List Char) : Except Halt Value :=
  if cs.head? = some '\ufeff' then halt .byteOrderMark cs
  else do
    let (v, rest) ← value (cs.length + 1) (skipSpace cs)
    match skipSpace rest with
    | [] => return v
    | rest => halt .moreData rest

/-- Why a text is no JSON, and the place and the number of characters before it. -/
structure Fault where
  cause : Cause
  place : Text.Place
  offset : Nat
deriving Repr, DecidableEq

def read (text : String) : Except Fault Value :=
  let cs := text.toList
  match document cs with
  | .ok v => .ok v
  | .error h =>
    let offset := cs.length - h.left
    .error ⟨h.cause, Text.Place.afterFeeds (cs.take offset), offset⟩

def Cause.text : Cause → String
  | .byteOrderMark => "Unexpected UTF-8 BOM (decode using utf-8-sig)"
  | .valueExpected => "Expecting value"
  | .keyExpected => "Expecting property name enclosed in double quotes"
  | .colonExpected => "Expecting ':' delimiter"
  | .commaExpected => "Expecting ',' delimiter"
  | .unterminatedString => "Unterminated string starting at"
  | .controlCharacter => "Invalid control character at"
  | .badEscape => "Invalid \\escape"
  | .badUnicodeEscape => "Invalid \\uXXXX escape"
  | .moreData => "Extra data"
  | .tooManyDigits count =>
    s!"Exceeds the limit ({Numeral.digitLimit} digits) for integer string conversion: value has {count} digits; " ++
      "use sys.set_int_max_str_digits() to increase the limit"

def Fault.message (f : Fault) : String :=
  match f.cause with
  | .tooManyDigits _ => f.cause.text
  | cause => cause.text ++ s!": line {f.place.line} column {f.place.column} (char {f.offset})"

end SchemaAccess.Json
