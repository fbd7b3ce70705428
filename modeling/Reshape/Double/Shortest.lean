import Reshape.Double.Basic

namespace Reshape.Double

structure Interval where
  value : Nat
  low : Nat
  high : Nat
  den : Nat
  closed : Bool

/-- Below a power of two the neighbours lie closer, so the interval reaches only half as far
down. Its ends round to the even significand. -/
def interval (d : Double) : Interval :=
  let m := d.significand
  let down := if m = hiddenBit ∧ 1 < d.exponentField then 1 else 2
  let q := d.exponent - 2
  let up (n : Nat) : Nat := if 0 ≤ q then n * Nat.pow 2 q.toNat else n
  let den := if 0 ≤ q then 1 else Nat.pow 2 (-q).toNat
  ⟨up (4 * m), up (4 * m - down), up (4 * m + 2), den, m % 2 == 0⟩

def Interval.inUnits (i : Interval) (t : Int) : Interval :=
  if 0 ≤ t then { i with den := i.den * Nat.pow 10 t.toNat }
  else
    let p := Nat.pow 10 (-t).toNat
    { i with value := i.value * p, low := i.low * p, high := i.high * p }

def Interval.holds (i : Interval) (n : Nat) : Bool :=
  let v := n * i.den
  if i.closed then decide (i.low ≤ v ∧ v ≤ i.high) else decide (i.low < v ∧ v < i.high)

/-- Of the two neighbours of the value on the grid of integers, the nearer one that lies in the
interval; of two equally near ones the even one. -/
def Interval.point? (i : Interval) : Option Nat :=
  let below := i.value / i.den
  let r := i.value % i.den
  let above := below + 1
  match i.holds below, i.holds above with
  | false, false => none
  | true, false => some below
  | false, true => some above
  | true, true =>
    if 2 * r < i.den then some below
    else if i.den < 2 * r then some above
    else if below % 2 = 0 then some below else some above

/-- The exponent of the leading decimal digit. No positive double is below `10 ^ (-340)`. -/
def decimalExponent (i : Interval) : Int :=
  ((Nat.toDigits 10 (i.value * Nat.pow 10 340 / i.den)).length : Int) - 341

/-- The first grid of `count` digits, or more, that has a point in the interval. Seventeen
digits are always enough. -/
def searchGrid (i : Interval) (x : Int) : Nat → Nat → Nat × Int
  | _, 0 => ((i.inUnits (x - 16)).value / (i.inUnits (x - 16)).den, x - 16)
  | count, left + 1 =>
    let t := x - count + 1
    match (i.inUnits t).point? with
    | some n => (n, t)
    | none => searchGrid i x (count + 1) left

/-- The fewest digits that read back as the finite positive number, and the power of ten of the
last of them. -/
def shortest (d : Double) : Nat × Int :=
  let i := d.interval
  searchGrid i (decimalExponent i) 1 17

def stripZeros (digits : List Char) : List Char :=
  (digits.reverse.dropWhile (· == '0')).reverse

def shortestDigits (d : Double) : List Char × Int :=
  let shortest := d.shortest
  let digits := Nat.toDigits 10 shortest.1
  (stripZeros digits, shortest.2 + digits.length - 1)

end Reshape.Double
