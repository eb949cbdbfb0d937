import SchemaAccess.Text.Quoted

namespace SchemaAccess.Text

/-- A character, or half of a surrogate pair that has no partner. -/
inductive Glyph where
  | char (c : Char)
  | half (unit : Nat)
deriving Repr, DecidableEq

namespace Glyph

def char? : Glyph → Option Char
  | .char c => some c
  | .half _ => none

def text? (gs : List Glyph) : Option String := (gs.mapM char?).map String.ofList

def replaced (gs : List Glyph) : String := String.ofList (gs.map fun g => g.char?.getD '\ufffd')

def escapedHalf (unit : Nat) : String := "\\u" ++ hexLower 4 unit

def escaped (gs : List Glyph) : String :=
  String.join (gs.map fun g => match g with
    | .char c => String.singleton c
    | .half unit => escapedHalf unit)

def quoteMark (gs : List Glyph) : Char := Text.quoteMark (gs.filterMap char?)

def escapeIn (mark : Char) : Glyph → String
  | .char c => Text.escapeIn mark c
  | .half unit => escapedHalf unit

def quoted (gs : List Glyph) : String :=
  let mark := quoteMark gs
  String.singleton mark ++ String.join (gs.map (escapeIn mark)) ++ String.singleton mark

end Glyph

end SchemaAccess.Text
