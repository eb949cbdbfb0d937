namespace SchemaAccess.Text

/-- The characters that end a line. A carriage return with a line feed behind it ends one line. -/
def isLineEnd (c : Char) : Bool :=
  c == '\n' || c == '\r' || c == '\x0b' || c == '\x0c' || c == '\x1c' || c == '\x1d' || c == '\x1e' ||
    c == '\u0085' || c == '\u2028' || c == '\u2029'

/-- The lines of a text without their ends. A line end at the end of the text starts no further line. -/
def lines (cs : List Char) : List (List Char) := go cs []
where
  go : List Char → List Char → List (List Char)
    | [], [] => []
    | [], line => [line.reverse]
    | '\r' :: '\n' :: rest, line => line.reverse :: go rest []
    | c :: rest, line => if isLineEnd c then line.reverse :: go rest [] else go rest (c :: line)

/-- The texts between occurrences of `mark`, one more than there are occurrences. -/
def partsAt (mark : Char) (cs : List Char) : List (List Char) := go cs []
where
  go : List Char → List Char → List (List Char)
    | [], part => [part.reverse]
    | c :: rest, part => if c == mark then part.reverse :: go rest [] else go rest (c :: part)

def unifyLineEnds : List Char → List Char
  | [] => []
  | '\r' :: '\n' :: rest => '\n' :: unifyLineEnds rest
  | '\r' :: rest => '\n' :: unifyLineEnds rest
  | c :: rest => c :: unifyLineEnds rest

/-- A place in a text, both numbers counted from one. -/
structure Place where
  line : Nat
  column : Nat
deriving Repr, DecidableEq

/-- The place right behind `before`: behind the last of its lines, even if that line is ended. -/
def Place.after (before : List Char) : Place :=
  match (lines before).getLast? with
  | none => ⟨1, 1⟩
  | some last => ⟨(lines before).length, last.length + 1⟩

/-- The place right behind `before` if only line feeds separate lines. -/
def Place.afterFeeds (before : List Char) : Place :=
  ⟨before.count '\n' + 1, (before.reverse.takeWhile (· != '\n')).length + 1⟩

end SchemaAccess.Text
