import SchemaAccess.Number.Binary64

namespace SchemaAccess

/-- A positive decimal: its digits without trailing zeros, and the power of ten of the first one. -/
structure Decimal where
  digits : List Char
  exponent : Int
deriving Repr, DecidableEq

namespace Decimal

def ofScaled (coefficient : Nat) (power : Int) : Decimal :=
  let digits := Nat.toDigits 10 coefficient
  ⟨(digits.reverse.dropWhile (· == '0')).reverse, power + digits.length - 1⟩

/-- The interval of reals that round to a number, counted in quarters of its last place. -/
structure Interval where
  low : Nat
  middle : Nat
  high : Nat
  closed : Bool

/-- Below a power of two the numbers lie twice as dense. -/
def Interval.around (m : Nat) (q : Int) : Interval :=
  ⟨4 * m - (if m = Nat.pow 2 52 ∧ Binary64.leastExponent < q then 1 else 2), 4 * m, 4 * m + 2, m % 2 == 0⟩

/-- Whether `c · step` lies in the interval if a quarter place is `unit`. -/
def Interval.holds (i : Interval) (c step unit : Nat) : Bool :=
  if i.closed then i.low * unit ≤ c * step && c * step ≤ i.high * unit
  else i.low * unit < c * step && c * step < i.high * unit

def leading (num den : Nat) : Int :=
  if den ≤ num then (Nat.toDigits 10 (num / den)).length - 1
  else -((Nat.toDigits 10 ((den + num - 1) / num - 1)).length : Int)

/-- Of the two neighbours on the grid of `10^power`, the nearer one that lies in the interval, of
two equally near ones the even one. A quarter place is `unit / den`. -/
def onGrid (i : Interval) (unit den : Nat) (power : Int) : Option Nat :=
  let step := den * Nat.pow 10 power.toNat
  let unit := unit * Nat.pow 10 (-power).toNat
  let below := i.middle * unit / step
  let rest := 2 * (i.middle * unit % step)
  let near := if step < rest ∨ rest = step ∧ below % 2 = 1 then below + 1 else below
  let far := if near = below then below + 1 else below
  if 0 < near && i.holds near step unit then some near
  else if 0 < far && i.holds far step unit then some far
  else none

/-- Grids of one, two and more digits in turn. The last one is taken as it is. -/
def search (i : Interval) (unit den : Nat) (lead : Int) : Nat → Nat → Decimal
  | 0, count => ofScaled (i.middle * unit / den) (lead + 1 - count)
  | left + 1, count =>
    match onGrid i unit den (lead + 1 - count) with
    | some c => ofScaled c (lead + 1 - count)
    | none => search i unit den lead left (count + 1)

/-- The shortest decimal that reads back as `m · 2^q`, the nearest one if there are several.
Seventeen digits always read back. -/
def shortest (m : Nat) (q : Int) : Decimal :=
  let i := Interval.around m q
  let unit := Nat.pow 2 q.toNat
  let den := 4 * Nat.pow 2 (-q).toNat
  search i unit den (leading (i.middle * unit) den) 17 1

example : shortest (3 * Nat.pow 2 51) (-52) = ⟨['1', '5'], 0⟩ := by decide +kernel

end Decimal

end SchemaAccess
