import SchemaAccess.Text.Blank
import SchemaAccess.Text.CellWidth
import SchemaAccess.Text.Line

namespace SchemaAccess.Text

def screenWidth : Nat := 10000

def tabStop : Nat := 8

/-- What stands between tabs becomes one text: each tab goes on to the next stop, by one cell at least. -/
def joinAtStops (column : Nat) : List (List Char) → List Char
  | [] => []
  | [part] => part
  | part :: rest =>
    let column := column + cells part
    let gap := tabStop - column % tabStop
    part ++ List.replicate gap ' ' ++ joinAtStops (column + gap) rest

def expandTabs (line : List Char) : List Char := joinAtStops 0 (partsAt '\t' line)

def trimEnd (cs : List Char) : List Char := (cs.reverse.dropWhile isBlankChar).reverse

/-- The words of a line, each with the white space behind it, the first also with that before it. -/
def screenWords : Nat → List Char → List (List Char)
  | 0, _ => []
  | n + 1, cs =>
    let before := cs.takeWhile isBlankChar
    let word := (cs.drop before.length).takeWhile (!isBlankChar ·)
    let left := cs.drop (before.length + word.length)
    let after := left.takeWhile isBlankChar
    if word.isEmpty then [] else (before ++ word ++ after) :: screenWords n (left.drop after.length)

/-- A text in pieces that are not too wide. `piece` is the one begun, backwards, and `used` its width. -/
def chop (width : Nat) (piece : List Char) (used : Nat) : List Char → List (List Char)
  | [] => [piece.reverse]
  | c :: rest =>
    if width < used + charCells c then piece.reverse :: chop width [c] (charCells c) rest
    else chop width (c :: piece) (used + charCells c) rest

/-- Lines that are finished, latest first, the line begun, and its width. -/
structure Wrapping where
  finished : List (List Char)
  line : List Char
  used : Nat

namespace Wrapping

def empty : Wrapping := ⟨[], [], 0⟩

def breakLine (w : Wrapping) : Wrapping :=
  if w.line.isEmpty then w else ⟨w.line :: w.finished, [], 0⟩

/-- A word goes on the line if it fits there, otherwise on a new one, or on several if it is too wide
for any. White space behind it may stand out. -/
def add (width : Nat) (w : Wrapping) (word : List Char) : Wrapping :=
  let size := cells (trimEnd word)
  if w.used + size ≤ width then { w with line := w.line ++ word, used := w.used + cells word }
  else
    let w := w.breakLine
    match (chop width [] 0 word).reverse with
    | last :: before => if width < size then ⟨before ++ w.finished, last, cells last⟩ else ⟨w.finished, word, cells word⟩
    | [] => w

def lines (w : Wrapping) : List (List Char) := (w.line :: w.finished).reverse

end Wrapping

def cropBlanks (width : Nat) (line : List Char) : List Char :=
  let blanks := line.length - (trimEnd line).length
  line.take (line.length - min blanks (line.length - width))

/-- As much of a text as has room. A space takes the cell that may be left over. -/
def fill (room : Nat) : List Char → List Char
  | [] => []
  | c :: rest =>
    if charCells c ≤ room then c :: fill (room - charCells c) rest else List.replicate room ' '

def crop (width : Nat) (line : List Char) : List Char :=
  let line := cropBlanks width line
  if width < cells line then fill width line else line

def wrapped (width : Nat) (line : List Char) : List (List Char) :=
  match screenWords line.length line with
  | [] => [crop width line]
  | words => ((words.foldl (Wrapping.add width) .empty).lines).map (crop width)

def laidOut (cs : List Char) : List Char :=
  ['\n'].intercalate ((partsAt '\n' cs).flatMap fun line => wrapped screenWidth (expandTabs line))

end SchemaAccess.Text
