import SchemaAccess.Text.CodePoints
import SchemaAccess.Text.Line

namespace SchemaAccess.Text

def blankRanges : CodePoints :=
  [(0x9, 0xD), (0x1C, 0x20), (0x85, 0x85), (0xA0, 0xA0), (0x1680, 0x1680), (0x2000, 0x200A),
   (0x2028, 0x2029), (0x202F, 0x202F), (0x205F, 0x205F), (0x3000, 0x3000)]

def isBlankChar (c : Char) : Bool := blankRanges.contains c

def isBlank (text : String) : Bool := text.toList.all isBlankChar

def trimBlank (cs : List Char) : List Char :=
  ((cs.dropWhile isBlankChar).reverse.dropWhile isBlankChar).reverse

def wordsOf (cs : List Char) : List (List Char) :=
  (partsAt ' ' (cs.map fun c => if isBlankChar c then ' ' else c)).filter (!·.isEmpty)

end SchemaAccess.Text
