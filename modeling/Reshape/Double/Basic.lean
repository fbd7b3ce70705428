namespace Reshape

/-- A binary64 number by its bits: sign, eleven bits of exponent, 52 bits of fraction. -/
structure Double where
  bits : UInt64
  deriving DecidableEq

namespace Double

def signBit : Nat := 0x8000000000000000

/-- The leading bit of a significand, which is not written, and the unit of the exponent field. -/
def hiddenBit : Nat := 0x10000000000000

def magnitudeBits (d : Double) : Nat := d.bits.toNat % signBit

def isNegative (d : Double) : Bool := decide (signBit ≤ d.bits.toNat)

def infinityBits : Nat := 0x7FF * hiddenBit

def isFinite (d : Double) : Bool := decide (d.magnitudeBits < infinityBits)

def isNaN (d : Double) : Bool := decide (infinityBits < d.magnitudeBits)

def isZero (d : Double) : Bool := d.magnitudeBits == 0

def exponentField (d : Double) : Nat := d.magnitudeBits / hiddenBit

/-- A finite number is `significand * 2 ^ exponent` up to its sign. -/
def significand (d : Double) : Nat :=
  let fraction := d.magnitudeBits % hiddenBit
  if d.exponentField = 0 then fraction else hiddenBit + fraction

def exponent (d : Double) : Int :=
  if d.exponentField = 0 then -1074 else (d.exponentField : Int) - 1075

def ofMagnitude (negative : Bool) (magnitude : Nat) : Double :=
  ⟨UInt64.ofNat (if negative then signBit + magnitude else magnitude)⟩

def nan : Double := ofMagnitude false 0x7FF8000000000000

def infinity (negative : Bool) : Double := ofMagnitude negative infinityBits

def zero (negative : Bool) : Double := ofMagnitude negative 0

/-- Numeric equality: the two zeros agree and what is no number differs from itself. -/
def same (a b : Double) : Bool :=
  !a.isNaN && !b.isNaN && (a == b || a.isZero && b.isZero)

/-- The quotient rounded to the nearest integer, a half to the even one. -/
def roundDiv (num den : Nat) : Nat :=
  let q := num / den
  let r := num % den
  if 2 * r < den then q
  else if den < 2 * r then q + 1
  else if q % 2 = 0 then q else q + 1

def scaleBy (num den : Nat) (q : Int) : Nat × Nat :=
  if 0 ≤ q then (num, den * Nat.pow 2 q.toNat) else (num * Nat.pow 2 (-q).toNat, den)

def unitExponent (num den : Nat) : Int :=
  let guess := (num.log2 : Int) - (den.log2 : Int) - 52
  let (n, d) := scaleBy num den guess
  max (-1074) (if n / d < hiddenBit then guess - 1 else guess)

/-- The double nearest to `num / den`, of two the one with an even significand; infinity when
the rounded value has no finite form. A significand that rounds up to `2 ^ 53` carries into the
exponent by itself. -/
def nearest (negative : Bool) (num den : Nat) : Double :=
  if num = 0 then zero negative
  else
    let q := unitExponent num den
    let (n, d) := scaleBy num den q
    let magnitude := (q + 1074).toNat * hiddenBit + roundDiv n d
    if magnitude < infinityBits then ofMagnitude negative magnitude else infinity negative

def nearestScaled (negative : Bool) (num den : Nat) (q : Int) : Double :=
  let (n, d) := scaleBy num den (-q)
  nearest negative n d

def mul (a b : Double) : Double :=
  nearestScaled (a.isNegative != b.isNegative) (a.significand * b.significand) 1
    (a.exponent + b.exponent)

def div (a b : Double) : Double :=
  nearestScaled (a.isNegative != b.isNegative) a.significand b.significand
    (a.exponent - b.exponent)

def neg (d : Double) : Double := ofMagnitude (!d.isNegative) d.magnitudeBits

def ofNat (n : Nat) : Double := nearest false n 1

def pow10 (n : Nat) : Double := nearest false (Nat.pow 10 n) 1

/-- The double nearest to `digits * 10 ^ exponent`. Where the exponent alone decides, the power
is not computed. -/
def ofDecimal (negative : Bool) (digits : Nat) (exponent : Int) : Double :=
  if digits = 0 then zero negative
  else
    let size : Int := (Nat.toDigits 10 digits).length
    if 310 < size + exponent then infinity negative
    else if size + exponent < -400 then zero negative
    else if 0 ≤ exponent then nearest negative (digits * Nat.pow 10 exponent.toNat) 1
    else nearest negative digits (Nat.pow 10 (-exponent).toNat)

end Double

end Reshape
