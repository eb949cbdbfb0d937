import SchemaAccess.Number.Shortest

namespace SchemaAccess

/-- How a decimal is laid out: the first powers of ten that are no longer written positionally,
the least number of exponent digits, and the words for what is no decimal. -/
structure DecimalLayout where
  positionalFrom : Int
  positionalBelow : Int
  exponentDigits : Nat
  infinite : String
  undefined : String

/-- Positional from 10⁻⁴ up to below 10¹⁶, exponents with a sign and at least two digits. -/
def DecimalLayout.plain : DecimalLayout := ⟨-4, 16, 2, "inf", "nan"⟩

def DecimalLayout.json : DecimalLayout := { DecimalLayout.plain with infinite := "Infinity", undefined := "NaN" }

namespace Decimal

def positional (d : Decimal) : List Char :=
  if d.exponent < 0 then '0' :: '.' :: (List.replicate (-d.exponent - 1).toNat '0' ++ d.digits)
  else
    let whole := d.exponent.toNat + 1
    let padded := d.digits ++ List.replicate (whole - d.digits.length) '0'
    padded.take whole ++ '.' :: (if padded.length = whole then ['0'] else padded.drop whole)

def exponential (layout : DecimalLayout) (d : Decimal) : List Char :=
  let size := Nat.toDigits 10 d.exponent.natAbs
  let fraction := match d.digits with
    | first :: second :: rest => first :: '.' :: second :: rest
    | short => short
  fraction ++ 'e' :: (if d.exponent < 0 then '-' else '+') ::
    (List.replicate (layout.exponentDigits - size.length) '0' ++ size)

def written (layout : DecimalLayout) (d : Decimal) : List Char :=
  if layout.positionalFrom ≤ d.exponent ∧ d.exponent < layout.positionalBelow then d.positional
  else d.exponential layout

end Decimal

/-- Zero keeps its sign and is written `0.0`. -/
def Binary64.written (layout : DecimalLayout) : Binary64 → String
  | .undefined => layout.undefined
  | .infinite negative => (if negative then "-" else "") ++ layout.infinite
  | .finite negative m q =>
    let size := if m = 0 then ['0', '.', '0'] else (Decimal.shortest m q).written layout
    (if negative then "-" else "") ++ String.ofList size

end SchemaAccess
