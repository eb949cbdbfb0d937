import SchemaAccess.Number.Written
import SchemaAccess.Text.Hex
import SchemaAccess.Value.Basic

namespace SchemaAccess.Json

def escapedUnit (n : Nat) : String := "\\u" ++ Text.hexLower 4 n

def escaped (c : Char) : String :=
  if c == '\x22' then "\\\x22"
  else if c == '\\' then "\\\\"
  else if c == '\n' then "\\n"
  else if c == '\r' then "\\r"
  else if c == '\t' then "\\t"
  else if c == '\x0c' then "\\f"
  else if c == '\x08' then "\\b"
  else if 0x20 ≤ c.toNat ∧ c.toNat < 0x7F then String.singleton c
  else if c.toNat < 0x10000 then escapedUnit c.toNat
  else
    let (high, low) := Text.surrogates c.toNat
    escapedUnit high ++ escapedUnit low

def writtenString (s : String) : String :=
  "\x22" ++ String.join (s.toList.map escaped) ++ "\x22"

def writtenGlyph : Text.Glyph → String
  | .char c => escaped c
  | .half unit => escapedUnit unit

def writtenScalar : Value → String
  | .boolean true => "true"
  | .boolean false => "false"
  | .integer n => toString n
  | .float x => x.written .json
  | .string s => writtenString s
  | .broken glyphs => "\x22" ++ String.join (glyphs.map writtenGlyph) ++ "\x22"
  | _ => "null"

mutual

/-- On one line, with a space behind each comma and colon. -/
def compact : Value → String
  | .list items => "[" ++ ", ".intercalate (compactItems items) ++ "]"
  | .object fields => "\x7b" ++ ", ".intercalate (compactFields fields) ++ "\x7d"
  | scalar => writtenScalar scalar

def compactItems : List Value → List String
  | [] => []
  | v :: rest => compact v :: compactItems rest

def compactFields : List (String × Value) → List String
  | [] => []
  | (key, v) :: rest => (writtenString key ++ ": " ++ compact v) :: compactFields rest

end

def lineBreak (depth : Nat) : String := "\n" ++ String.ofList (List.replicate (2 * depth) ' ')

/-- Members on lines of their own between two marks; nothing between them if there are none. -/
def block (depth : Nat) (opening closing : String) (members : List String) : String :=
  if members.isEmpty then opening ++ closing
  else opening ++ lineBreak (depth + 1) ++ ("," ++ lineBreak (depth + 1)).intercalate members ++
    lineBreak depth ++ closing

mutual

def indented (depth : Nat) : Value → String
  | .list items => block depth "[" "]" (indentedItems (depth + 1) items)
  | .object fields => block depth "\x7b" "\x7d" (indentedFields (depth + 1) fields)
  | scalar => writtenScalar scalar

def indentedItems (depth : Nat) : List Value → List String
  | [] => []
  | v :: rest => indented depth v :: indentedItems depth rest

def indentedFields (depth : Nat) : List (String × Value) → List String
  | [] => []
  | (key, v) :: rest => (writtenString key ++ ": " ++ indented depth v) :: indentedFields depth rest

end

end SchemaAccess.Json
