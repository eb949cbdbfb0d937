import SchemaAccess.Text.Hex

namespace SchemaAccess.GraphQL

inductive Mark where
  | bang
  | dollar
  | ampersand
  | parenL
  | parenR
  | spread
  | colon
  | equals
  | atSign
  | bracketL
  | bracketR
  | braceL
  | pipe
  | braceR
deriving Repr, DecidableEq

def Mark.text : Mark → String
  | .bang => "!"
  | .dollar => "$"
  | .ampersand => "&"
  | .parenL => "("
  | .parenR => ")"
  | .spread => "..."
  | .colon => ":"
  | .equals => "="
  | .atSign => "@"
  | .bracketL => "["
  | .bracketR => "]"
  | .braceL => "\x7b"
  | .pipe => "|"
  | .braceR => "\x7d"

def Mark.ofChar? (c : Char) : Option Mark :=
  [Mark.bang, .dollar, .ampersand, .parenL, .parenR, .colon, .equals, .atSign, .bracketL, .bracketR,
    .braceL, .pipe, .braceR].find? (·.text.toList == [c])

inductive ScanFault where
  | strangeCharacter (c : Char)
  | singleQuote
  | digitAfterZero (c : Char)
  | digitExpected (found : Option Char)
  | unterminated
  | badEscape (text : String)
  | badUnicodeEscape (text : String)
  | escapeCutOff
deriving Repr, DecidableEq

/-- Printable ASCII characters stand in quotes, all others as code points. -/
def shownChar (c : Char) : String :=
  if c == '\x22' then "'\x22'"
  else if 0x20 ≤ c.toNat ∧ c.toNat < 0x7F then s!"'{c}'"
  else "U+" ++ Text.hexUpper 4 c.toNat

def ScanFault.message : ScanFault → String
  | .strangeCharacter c => s!"Unexpected character: {shownChar c}."
  | .singleQuote => "Unexpected single quote character ('), did you mean to use a double quote (\x22)?"
  | .digitAfterZero c => s!"Invalid number, unexpected digit after 0: {shownChar c}."
  | .digitExpected none => "Invalid number, expected digit but got: <EOF>."
  | .digitExpected (some c) => s!"Invalid number, expected digit but got: {shownChar c}."
  | .unterminated => "Unterminated string."
  | .badEscape text => s!"Invalid character escape sequence: '{text}'."
  | .badUnicodeEscape text => s!"Invalid Unicode escape sequence: '{text}'."
  | .escapeCutOff => "string index out of range"

inductive Lexeme where
  | mark (m : Mark)
  | name (s : String)
  | int (s : String)
  | float (s : String)
  | text (s : String) (block : Bool)
  | endOfText
  | unreadable (fault : ScanFault)
deriving Repr, DecidableEq

def Lexeme.content? : Lexeme → Option String
  | .name s | .int s | .float s | .text s _ => some s
  | _ => none

def Lexeme.shown : Lexeme → String
  | .mark m => s!"'{m.text}'"
  | .name s => s!"Name '{s}'"
  | .int s => s!"Int '{s}'"
  | .float s => s!"Float '{s}'"
  | .text s false => s!"String '{s}'"
  | .text s true => s!"BlockString '{s}'"
  | .endOfText => "<EOF>"
  | .unreadable fault => fault.message

structure Token where
  lexeme : Lexeme
  left : List Char

end SchemaAccess.GraphQL
