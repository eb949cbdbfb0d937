namespace SchemaAccess.Text

/-- A block that two texts have in common: where it starts in each of them, and how long it is. -/
structure CommonBlock where
  left : Nat
  right : Nat
  length : Nat
deriving Repr, DecidableEq

def commonStart : List Char → List Char → Nat
  | a :: as, b :: bs => if a = b then commonStart as bs + 1 else 0
  | _, _ => 0

def commonBlocks (as bs : List Char) : List CommonBlock :=
  (List.range as.length).flatMap fun i => (List.range bs.length).map fun j =>
    ⟨i, j, commonStart (as.drop i) (bs.drop j)⟩

/-- The longest common block; of several, the first in the left text, then the first in the right. -/
def longestBlock (as bs : List Char) : CommonBlock :=
  (commonBlocks as bs).foldl (fun best block => if best.length < block.length then block else best) ⟨0, 0, 0⟩

/-- How many characters match: those of the longest block, and those that match on either side of it.
Blocks are looked for to a depth of `n`. -/
def matching : Nat → List Char → List Char → Nat
  | 0, _, _ => 0
  | n + 1, as, bs =>
    let block := longestBlock as bs
    if block.length = 0 then 0
    else block.length + matching n (as.take block.left) (bs.take block.right) +
      matching n (as.drop (block.left + block.length)) (bs.drop (block.right + block.length))

/-- A text, how many of its characters match, and how many there are in it and the one it is held
against. -/
structure Likeness where
  text : String
  matched : Nat
  total : Nat
deriving Repr, DecidableEq

namespace Likeness

def of (word text : String) : Likeness :=
  ⟨text, matching (text.length + 1) text.toList word.toList, text.length + word.length⟩

def isClose (l : Likeness) : Bool := 3 * l.total ≤ 10 * l.matched

/-- The one with the greater share first; of equal ones the later in the alphabet. -/
def precedes (l m : Likeness) : Bool :=
  m.matched * l.total < l.matched * m.total ||
    (m.matched * l.total == l.matched * m.total && !decide (l.text < m.text))

end Likeness

def closeMatches (word : String) (texts : List String) : List String :=
  ((((texts.map (Likeness.of word)).filter (·.isClose)).mergeSort Likeness.precedes).take 3).map (·.text)

end SchemaAccess.Text
