import SchemaAccess.Number.Written
import SchemaAccess.Text.Quoted
import SchemaAccess.Value.Basic

namespace SchemaAccess.Value

mutual

def shown : Value → String
  | .null => "None"
  | .boolean true => "True"
  | .boolean false => "False"
  | .integer n => toString n
  | .float x => x.written .plain
  | .string s => Text.quoted s
  | .broken glyphs => Text.Glyph.quoted glyphs
  | .list items => "[" ++ ", ".intercalate (shownItems items) ++ "]"
  | .object fields => "\x7b" ++ ", ".intercalate (shownFields fields) ++ "\x7d"

def shownItems : List Value → List String
  | [] => []
  | v :: rest => v.shown :: shownItems rest

def shownFields : List (String × Value) → List String
  | [] => []
  | (key, v) :: rest => (Text.quoted key ++ ": " ++ v.shown) :: shownFields rest

end

/-- As `shown`, but a text stands for itself. -/
def plainText : Value → String
  | .string s => s
  | .broken glyphs => Text.Glyph.escaped glyphs
  | v => v.shown

end SchemaAccess.Value
