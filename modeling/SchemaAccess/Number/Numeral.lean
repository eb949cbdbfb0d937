import SchemaAccess.Number.Binary64

namespace SchemaAccess

structure Numeral where
  negative : Bool
  whole : List Char
  fraction : List Char
  exponent? : Option Int
deriving Repr, DecidableEq

namespace Numeral

/-- Whole numbers of more digits than this are not read exactly. -/
def digitLimit : Nat := 4300

def decimalValue (cs : List Char) : Nat := cs.foldl (fun n c => 10 * n + (c.toNat - 48)) 0

def digits (cs : List Char) : List Char := cs.takeWhile Char.isDigit

def wholeDigits : List Char → List Char
  | '0' :: _ => ['0']
  | cs => digits cs

def readFraction (cs : List Char) : List Char × List Char :=
  match cs with
  | '.' :: rest => if (digits rest).isEmpty then ([], cs) else (digits rest, rest.drop (digits rest).length)
  | _ => ([], cs)

def readSign : List Char → Bool × List Char
  | '-' :: rest => (true, rest)
  | '+' :: rest => (false, rest)
  | rest => (false, rest)

def readExponent (cs : List Char) : Option Int × List Char :=
  match cs with
  | e :: rest =>
    let (negative, rest) := readSign rest
    let ds := digits rest
    if (e == 'e' || e == 'E') && !ds.isEmpty then
      (some (if negative then -(decimalValue ds : Int) else decimalValue ds), rest.drop ds.length)
    else (none, cs)
  | [] => (none, cs)

/-- The longest number at the start of a text, and what follows it. A dot or an `e` without a digit
belongs to what follows. -/
def read (cs : List Char) : Option (Numeral × List Char) :=
  let (negative, rest) := match cs with
    | '-' :: rest => (true, rest)
    | _ => (false, cs)
  let whole := wholeDigits rest
  if whole.isEmpty then none
  else
    let (fraction, rest) := readFraction (rest.drop whole.length)
    let (exponent?, rest) := readExponent rest
    some (⟨negative, whole, fraction, exponent?⟩, rest)

def isWhole (n : Numeral) : Bool := n.fraction.isEmpty && n.exponent?.isNone

def isExact (n : Numeral) : Bool := n.whole.length ≤ digitLimit

def toInt (n : Numeral) : Int :=
  if n.negative then -(decimalValue n.whole : Int) else decimalValue n.whole

def toBinary64 (n : Numeral) : Binary64 :=
  .ofDecimal n.negative (decimalValue (n.whole ++ n.fraction))
    (n.exponent?.getD 0 - n.fraction.length)

end Numeral

end SchemaAccess
