namespace SchemaAccess.Text

/-- A row of cells for every entry, as wide as the head. -/
structure Table where
  head : List String
  rows : List (List String)
deriving Repr, DecidableEq

namespace Table

def widths (t : Table) : List Nat :=
  t.rows.foldl (fun ws row => ws.zipWith (fun w cell => max w cell.length) row) (t.head.map (·.length))

def padRight (width : Nat) (text : String) : String :=
  text ++ String.ofList (List.replicate (width - text.length) ' ')

def row (mark : String) (widths : List Nat) (cells : List String) : String :=
  mark ++ mark.intercalate ((widths.zip cells).map fun (w, cell) => " " ++ padRight w cell ++ " ") ++ mark ++ "\n"

def rule (left line cross right : String) (widths : List Nat) : String :=
  left ++ cross.intercalate (widths.map fun w => String.join (List.replicate (w + 2) line)) ++ right ++ "\n"

def drawn (t : Table) : String :=
  let ws := t.widths
  rule "┏" "━" "┳" "┓" ws ++ row "┃" ws t.head ++ rule "┡" "━" "╇" "┩" ws ++
    String.join (t.rows.map (row "│" ws)) ++ rule "└" "─" "┴" "┘" ws

end Table

end SchemaAccess.Text
