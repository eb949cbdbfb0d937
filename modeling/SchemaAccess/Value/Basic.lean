import SchemaAccess.Entries
import SchemaAccess.Number.Binary64
import SchemaAccess.Text.Glyph

namespace SchemaAccess

inductive Value where
  | null
  | boolean (b : Bool)
  | integer (n : Int)
  | float (x : Binary64)
  | string (s : String)
  /-- A text in which half of a surrogate pair stands alone. -/
  | broken (glyphs : List Text.Glyph)
  | list (items : List Value)
  | object (fields : List (String × Value))
deriving Repr, Inhabited

namespace Value

/-- Whether a value counts as present: not null, false, zero or empty. -/
def isPresent : Value → Bool
  | .null => false
  | .boolean b => b
  | .integer n => n != 0
  | .float x => !x.isZero
  | .string s => !s.isEmpty
  | .broken glyphs => !glyphs.isEmpty
  | .list items => !items.isEmpty
  | .object fields => !fields.isEmpty

def isNull : Value → Bool
  | .null => true
  | _ => false

def orElse (v other : Value) : Value := if v.isPresent then v else other

/-- The value under `key`, null if there is none. -/
def field (fields : Entries Value) (key : String) : Value := (fields.find? key).getD .null

def kindName : Value → String
  | .null => "NoneType"
  | .boolean _ => "bool"
  | .integer _ => "int"
  | .float _ => "float"
  | .string _ | .broken _ => "str"
  | .list _ => "list"
  | .object _ => "dict"

def ofGlyphs (glyphs : List Text.Glyph) : Value :=
  match Text.Glyph.text? glyphs with
  | some s => .string s
  | none => .broken glyphs

/-- The members that a value runs through: of a list its items, of a text its characters, of an
object its keys. -/
def members? : Value → Option (List Value)
  | .list items => some items
  | .string s => some (s.toList.map fun c => .string (String.singleton c))
  | .broken glyphs => some (glyphs.map fun g => ofGlyphs [g])
  | .object fields => some (fields.map fun f => .string f.1)
  | _ => none

def text? : Value → Option String
  | .string s => some s
  | _ => none

def object? : Value → Option (Entries Value)
  | .object fields => some fields
  | _ => none

@[simp] theorem orElse_of_isPresent {v : Value} (h : v.isPresent = true) (other : Value) :
    v.orElse other = v := by simp [orElse, h]

theorem isPresent_orElse {v other : Value} (h : other.isPresent = true) :
    (v.orElse other).isPresent = true := by
  unfold orElse
  split <;> assumption

end Value

end SchemaAccess
