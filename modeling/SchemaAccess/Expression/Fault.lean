import SchemaAccess.Text.Hex
import SchemaAccess.Text.Printable

namespace SchemaAccess.Expression

inductive NumberForm where
  | decimal
  | hexadecimal
  | octal
  | binary
  | imaginary
deriving Repr, DecidableEq

def NumberForm.name : NumberForm → String
  | .decimal => "decimal"
  | .hexadecimal => "hexadecimal"
  | .octal => "octal"
  | .binary => "binary"
  | .imaginary => "imaginary"

/-- Values that are neither keys nor members of a set. -/
inductive Unhashable where
  | dict
  | set
deriving Repr, DecidableEq

def Unhashable.name : Unhashable → String
  | .dict => "dict"
  | .set => "set"

inductive Fault where
  | unmatched (closing : Char)
  /-- The line of the opening bracket is told if it is another one. -/
  | mismatched (closing opening : Char) (line? : Option Nat)
  | tooDeep
  | unterminated (triple : Bool) (line : Nat)
  | strayBackslash
  | cutOff
  | badNumber (form : NumberForm)
  | badDigit (digit : Char) (form : NumberForm)
  | leadingZeros
  | strangeCharacter (c : Char)
  | neverClosed (opening : Char)
  | invalid
  | indented
  | missingComma
  | missingElse
  | missingCallMarks (name : String)
  | mixedTexts
  | wideBytes
  | equalsAfterName
  | equalsAfter (what : String)
  | setInExpression (what : String)
  | equalsAfterConstant (constant : String)
  | equalsInCall
  /-- Behind arguments with names, or behind a dictionary of them. -/
  | lateArgument (unpacked : Bool)
  | loneStar (double : Bool)
  | strayStar
  | missingColon
  | missingEntry
  | starredEntry
  | nullCharacter
  | notLiteral
  | unhashable (value : Unhashable)
deriving Repr, DecidableEq

namespace Fault

/-- Whether the fault is one of form. The others are found in a text of good form. -/
def isOfForm : Fault → Bool
  | .nullCharacter | .notLiteral | .unhashable _ => false
  | _ => true

def message : Fault → String
  | .unmatched c => s!"unmatched '{c}'"
  | .mismatched closing opening line? =>
    s!"closing parenthesis '{closing}' does not match opening parenthesis '{opening}'" ++
      (line?.elim "" fun line => s!" on line {line}")
  | .tooDeep => "too many nested parentheses"
  | .unterminated false line => s!"unterminated string literal (detected at line {line})"
  | .unterminated true line => s!"unterminated triple-quoted string literal (detected at line {line})"
  | .strayBackslash => "unexpected character after line continuation character"
  | .cutOff => "unexpected EOF while parsing"
  | .badNumber form => s!"invalid {form.name} literal"
  | .badDigit c form => s!"invalid digit '{c}' in {form.name} literal"
  | .leadingZeros => "leading zeros in decimal integer literals are not permitted; " ++
      "use an 0o prefix for octal integers"
  | .strangeCharacter c =>
    let code := Text.hexUpper 4 c.toNat
    if Text.isPrintable c then s!"invalid character '{c}' (U+{code})"
    else s!"invalid non-printable character U+{code}"
  | .neverClosed c => s!"'{c}' was never closed"
  | .invalid => "invalid syntax"
  | .indented => "unexpected indent"
  | .missingComma => "invalid syntax. Perhaps you forgot a comma?"
  | .missingElse => "expected 'else' after 'if' expression"
  | .missingCallMarks name => s!"Missing parentheses in call to '{name}'. Did you mean {name}(...)?"
  | .mixedTexts => "cannot mix bytes and nonbytes literals"
  | .wideBytes => "bytes can only contain ASCII literal characters"
  | .equalsAfterName => "invalid syntax. Maybe you meant '==' or ':=' instead of '='?"
  | .equalsAfter what => s!"cannot assign to {what} here. Maybe you meant '==' instead of '='?"
  | .setInExpression what => s!"cannot use assignment expressions with {what}"
  | .equalsAfterConstant constant => s!"cannot assign to {constant}"
  | .equalsInCall => "expression cannot contain assignment, perhaps you meant \x22==\x22?"
  | .lateArgument false => "positional argument follows keyword argument"
  | .lateArgument true => "positional argument follows keyword argument unpacking"
  | .loneStar false => "cannot use starred expression here"
  | .loneStar true => "cannot use double starred expression here"
  | .strayStar => "Invalid star expression"
  | .missingColon => "':' expected after dictionary key"
  | .missingEntry => "expression expected after dictionary key and ':'"
  | .starredEntry => "cannot use a starred expression in a dictionary value"
  | .nullCharacter => "source code string cannot contain null bytes"
  | .notLiteral => "malformed node or string"
  | .unhashable value => s!"unhashable type: '{value.name}'"

end Fault

end SchemaAccess.Expression
