import SchemaAccess.Text.Line

namespace SchemaAccess.GraphQL.BlockText

def isIndent (c : Char) : Bool := c == ' ' || c == '\t'

def indent (line : List Char) : Nat := (line.takeWhile isIndent).length

def isEmptyLine (line : List Char) : Bool := line.all isIndent

/-- The least indent of the lines behind the first one, blank ones not counted. -/
def commonIndent (lines : List (List Char)) : Option Nat :=
  (((lines.drop 1).filter fun line => !isEmptyLine line).map indent).min?

/-- The first line stands behind the quotes and has no indent to lose. -/
def unindent (lines : List (List Char)) : List (List Char) :=
  let common := commonIndent lines
  match lines with
  | [] => []
  | first :: rest => first :: rest.map fun line => line.drop (common.getD line.length)

def trimLines (lines : List (List Char)) : List (List Char) :=
  ((lines.dropWhile isEmptyLine).reverse.dropWhile isEmptyLine).reverse

/-- The text of the lines between the quotes: without common indent, and without blank lines at
either end. -/
def meaning (lines : List (List Char)) : List Char :=
  ['\n'].intercalate (trimLines (unindent lines))

def escape : List Char → List Char
  | '\x22' :: '\x22' :: '\x22' :: rest => '\\' :: '\x22' :: '\x22' :: '\x22' :: escape rest
  | c :: rest => c :: escape rest
  | [] => []

def quotes : List Char := ['\x22', '\x22', '\x22']

def longText : Nat := 70

/-- How the quotes are set: a line break behind the opening and before the closing ones. -/
structure Layout where
  breakBefore : Bool
  breakAfter : Bool

/-- Line breaks are set where the text would be read back differently without them, and where it is
easier to read with them. A single line that starts with an indent would lose it behind a break. -/
def layout (text : List Char) : Layout :=
  let escaped := escape text
  let lines := Text.lines escaped
  let several := 1 < lines.length
  let hanging := several && (lines.drop 1).all fun line => (line.head?.map isIndent).getD true
  let closesWithQuotes := ('\\' :: quotes).isSuffixOf escaped
  let closesOpen := (['\x22'].isSuffixOf text && !closesWithQuotes) || ['\\'].isSuffixOf text
  let spread := several || longText < text.length || closesOpen || hanging || closesWithQuotes
  let indented := !several && (text.head?.map isIndent).getD false
  ⟨(spread && !indented) || hanging, spread⟩

def written (text : String) : String :=
  let cs := text.toList
  let l := layout cs
  let gap (b : Bool) := if b then ['\n'] else []
  String.ofList (quotes ++ gap l.breakBefore ++ escape cs ++ gap l.breakAfter ++ quotes)

end SchemaAccess.GraphQL.BlockText
