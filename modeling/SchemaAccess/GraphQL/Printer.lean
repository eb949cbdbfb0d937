import SchemaAccess.GraphQL.BlockText
import SchemaAccess.GraphQL.Document
import SchemaAccess.Text.Hex

namespace SchemaAccess.GraphQL

namespace Layout

def join (separator : String) (parts : List String) : String :=
  separator.intercalate (parts.filter (!·.isEmpty))

def wrap (before text after : String) : String :=
  if text.isEmpty then "" else before ++ text ++ after

def indentChars : List Char → List Char
  | [] => []
  | '\n' :: rest => '\n' :: ' ' :: ' ' :: indentChars rest
  | c :: rest => c :: indentChars rest

def indent (text : String) : String := wrap "  " (String.ofList (indentChars text.toList)) ""

def block (items : List String) : String := wrap "\x7b\n" (indent (join "\n" items)) "\n\x7d"

end Layout

open Layout

def escapedChar (c : Char) : String :=
  if c == '\x22' then "\\\x22"
  else if c == '\\' then "\\\\"
  else if c == '\x08' then "\\b"
  else if c == '\t' then "\\t"
  else if c == '\n' then "\\n"
  else if c == '\x0c' then "\\f"
  else if c == '\r' then "\\r"
  else if c.toNat < 0x20 ∨ 0x7F ≤ c.toNat ∧ c.toNat < 0xA0 then "\\u" ++ Text.hexUpper 4 c.toNat
  else String.singleton c

def writtenText (text : String) (block : Bool) : String :=
  if block then BlockText.written text
  else "\x22" ++ String.join (text.toList.map escapedChar) ++ "\x22"

def Description.written (d : Description) : String := writtenText d.text d.block

def describe (d : Option Description) (text : String) : String :=
  match d with
  | some d => d.written ++ "\n" ++ text
  | none => text

mutual

def Literal.written : Literal → String
  | .variable name => "$" ++ name
  | .int text => text
  | .float text => text
  | .string text block => writtenText text block
  | .boolean true => "true"
  | .boolean false => "false"
  | .null => "null"
  | .enum name => name
  | .list items => "[" ++ join ", " (writtenLiterals items) ++ "]"
  | .object fields => "\x7b" ++ join ", " (writtenFields fields) ++ "\x7d"

def writtenLiterals : List Literal → List String
  | [] => []
  | v :: rest => v.written :: writtenLiterals rest

def writtenFields : List (String × Literal) → List String
  | [] => []
  | (key, v) :: rest => (key ++ ": " ++ v.written) :: writtenFields rest

end

def Argument.written (a : Argument) : String := a.name ++ ": " ++ a.value.written

def Directive.written (d : Directive) : String :=
  "@" ++ d.name ++ wrap "(" (join ", " (d.arguments.map Argument.written)) ")"

def writtenDirectives (ds : List Directive) : String := join " " (ds.map Directive.written)

def TypeRef.written : TypeRef → String
  | .named name => name
  | .list item => "[" ++ item.written ++ "]"
  | .nonNull inner => inner.written ++ "!"

/-- Lines of selected fields are kept at most this long by setting each argument on its own line. -/
def lineLimit : Nat := 80

def selectedField (label : Option String) (name : String) (arguments : List Argument) : String :=
  let head := wrap "" (label.getD "") ": " ++ name
  let line := head ++ wrap "(" (join ", " (arguments.map Argument.written)) ")"
  if lineLimit < line.length then
    head ++ wrap "(\n" (indent (join "\n" (arguments.map Argument.written))) "\n)"
  else line

mutual

def Selection.written : Selection → String
  | .field label name arguments directives selections =>
    join " " [selectedField label name arguments, writtenDirectives directives,
      block (writtenSelections selections)]
  | .spread fragment directives => "..." ++ fragment ++ wrap " " (writtenDirectives directives) ""
  | .inline condition directives selections =>
    join " " ["...", wrap "on " (condition.getD "") "", writtenDirectives directives,
      block (writtenSelections selections)]

def writtenSelections : List Selection → List String
  | [] => []
  | s :: rest => s.written :: writtenSelections rest

end

def VariableDef.written (v : VariableDef) : String :=
  "$" ++ v.name ++ ": " ++ v.type.written ++
    wrap " = " ((v.fallback.map Literal.written).getD "") "" ++
    wrap " " (writtenDirectives v.directives) ""

/-- A query with nothing to say before its selections leaves out its keyword. -/
def Operation.written (o : Operation) : String :=
  let head := join " " [o.kind.word,
    o.name.getD "" ++ wrap "(" (join ", " (o.variableDefs.map VariableDef.written)) ")",
    writtenDirectives o.directives]
  (if head = "query" then "" else head ++ " ") ++ block (writtenSelections o.selections)

def Fragment.written (f : Fragment) : String :=
  "fragment " ++ f.name ++ " on " ++ f.condition ++ " " ++
    wrap "" (writtenDirectives f.directives) " " ++ block (writtenSelections f.selections)

def InputValue.written (v : InputValue) : String :=
  describe v.description <| join " " [v.name ++ ": " ++ v.type.written,
    wrap "= " ((v.fallback.map Literal.written).getD "") "", writtenDirectives v.directives]

def writtenArgumentDefs (args : List InputValue) : String :=
  let texts := args.map InputValue.written
  if texts.any (·.toList.contains '\n') then wrap "(\n" (indent (join "\n" texts)) "\n)"
  else wrap "(" (join ", " texts) ")"

def FieldDef.written (f : FieldDef) : String :=
  describe f.description <| f.name ++ writtenArgumentDefs f.arguments ++ ": " ++ f.type.written ++
    wrap " " (writtenDirectives f.directives) ""

def EnumValue.written (v : EnumValue) : String :=
  describe v.description <| join " " [v.name, writtenDirectives v.directives]

def writtenRoot (root : OperationKind × String) : String := root.1.word ++ ": " ++ root.2

/-- The word that starts a definition, or the two that start its extension. -/
def headWord (extension : Bool) (word : String) : String := if extension then "extend " ++ word else word

def Composite.written (head : String) (node : Composite) : String :=
  describe node.description <| join " " [head, node.name,
    wrap "implements " (join " & " node.interfaces) "", writtenDirectives node.directives,
    block (node.fields.map FieldDef.written)]

def DirectiveDef.written (d : DirectiveDef) : String :=
  describe d.description <| "directive @" ++ d.name ++ writtenArgumentDefs d.arguments ++
    (if d.repeatable then " repeatable" else "") ++ " on " ++ join " | " d.locations

def Definition.written : Definition → String
  | .operation node => node.written
  | .fragment node => node.written
  | .schema extension node =>
    describe node.description <| join " " [headWord extension "schema",
      writtenDirectives node.directives, block (node.roots.map writtenRoot)]
  | .scalar extension node =>
    describe node.description <| join " " [headWord extension "scalar", node.name,
      writtenDirectives node.directives]
  | .object extension node => node.written (headWord extension "type")
  | .interface extension node => node.written (headWord extension "interface")
  | .union extension node =>
    describe node.description <| join " " [headWord extension "union", node.name,
      writtenDirectives node.directives, wrap "= " (join " | " node.members) ""]
  | .enum extension node =>
    describe node.description <| join " " [headWord extension "enum", node.name,
      writtenDirectives node.directives, block (node.values.map EnumValue.written)]
  | .input extension node =>
    describe node.description <| join " " [headWord extension "input", node.name,
      writtenDirectives node.directives, block (node.fields.map InputValue.written)]
  | .directive node => node.written

def Document.written (d : Document) : String := join "\n\n" (d.map Definition.written)

end SchemaAccess.GraphQL
