import Reshape.Double.Literal
import Reshape.Json.Basic

namespace Reshape

inductive Fault where
  | truncated
  | malformed
  deriving DecidableEq

/-- The parts of a number as they are written. An exponent is a sign, true for minus, and its
digits. -/
structure NumberText where
  negative : Bool
  whole : List Char
  fraction : Option (List Char)
  exponent : Option (Bool × List Char)

namespace NumberText

/-- A leading zero stands alone. -/
def scanWhole : List Char → Except Fault (List Char × List Char)
  | [] => .error .truncated
  | '0' :: rest =>
    match rest with
    | c :: _ => if c.isDigit then .error .malformed else .ok (['0'], rest)
    | [] => .ok (['0'], [])
  | c :: rest =>
    if c.isDigit then .ok (c :: rest.takeWhile Char.isDigit, rest.dropWhile Char.isDigit)
    else .error .malformed

def scanDigits : List Char → Except Fault (List Char × List Char)
  | [] => .error .truncated
  | c :: rest =>
    if c.isDigit then .ok (c :: rest.takeWhile Char.isDigit, rest.dropWhile Char.isDigit)
    else .error .malformed

def scanFraction : List Char → Except Fault (Option (List Char) × List Char)
  | '.' :: rest =>
    match scanDigits rest with
    | .ok (digits, rest) => .ok (some digits, rest)
    | .error f => .error f
  | rest => .ok (none, rest)

def scanExponent : List Char → Except Fault (Option (Bool × List Char) × List Char)
  | [] => .ok (none, [])
  | c :: rest =>
    if c = 'e' ∨ c = 'E' then
      match scanDigits (Double.splitSign rest).2 with
      | .ok (digits, after) => .ok (some ((Double.splitSign rest).1, digits), after)
      | .error f => .error f
    else .ok (none, c :: rest)

def scanUnsigned (negative : Bool) (s : List Char) : Except Fault (NumberText × List Char) :=
  match scanWhole s with
  | .error f => .error f
  | .ok (whole, s) =>
    match scanFraction s with
    | .error f => .error f
    | .ok (fraction, s) =>
      match scanExponent s with
      | .error f => .error f
      | .ok (exponent, s) => .ok (⟨negative, whole, fraction, exponent⟩, s)

def scan : List Char → Except Fault (NumberText × List Char)
  | '-' :: rest => scanUnsigned true rest
  | s => scanUnsigned false s

variable {s r w : List Char}

theorem length_dropDigits (s : List Char) : (s.dropWhile Char.isDigit).length ≤ s.length :=
  (List.dropWhile_sublist _).length_le

theorem length_splitSign (s : List Char) : (Double.splitSign s).2.length ≤ s.length := by
  unfold Double.splitSign
  split <;> simp

theorem length_scanWhole (h : scanWhole s = .ok (w, r)) : r.length < s.length := by
  unfold scanWhole at h
  split at h
  · cases h
  · split at h
    · split at h <;> cases h
      simp
    · cases h
      simp
  · split at h
    · cases h
      simpa using Nat.lt_succ_of_le (length_dropDigits _)
    · cases h

theorem length_scanDigits (h : scanDigits s = .ok (w, r)) : r.length < s.length := by
  unfold scanDigits at h
  split at h
  · cases h
  · split at h
    · cases h
      simpa using Nat.lt_succ_of_le (length_dropDigits _)
    · cases h

theorem length_scanFraction {f : Option (List Char)} (h : scanFraction s = .ok (f, r)) :
    r.length ≤ s.length := by
  unfold scanFraction at h
  split at h
  · split at h
    · rename_i hd
      cases h
      have := length_scanDigits hd
      simp only [List.length_cons]
      omega
    · cases h
  · cases h
    exact Nat.le_refl _

theorem length_scanExponent {e : Option (Bool × List Char)} (h : scanExponent s = .ok (e, r)) :
    r.length ≤ s.length := by
  unfold scanExponent at h
  split at h
  · cases h
    exact Nat.le_refl _
  · rename_i c rest
    split at h
    · split at h
      · rename_i hd
        cases h
        have := length_scanDigits hd
        have := length_splitSign rest
        simp only [List.length_cons]
        omega
      · cases h
    · cases h
      exact Nat.le_refl _

theorem length_scanUnsigned {b : Bool} {t : NumberText} (h : scanUnsigned b s = .ok (t, r)) :
    r.length < s.length := by
  unfold scanUnsigned at h
  split at h
  · cases h
  · rename_i hw
    split at h
    · cases h
    · rename_i hf
      split at h
      · cases h
      · rename_i he
        cases h
        have := length_scanWhole hw
        have := length_scanFraction hf
        have := length_scanExponent he
        omega

/-- A number takes at least one character, so scanning gets on. -/
theorem length_scan {t : NumberText} (h : scan s = .ok (t, r)) : r.length < s.length := by
  unfold scan at h
  split at h
  · have := length_scanUnsigned h
    simp only [List.length_cons]
    omega
  · exact length_scanUnsigned h

/-- The digits that fit 64 bits together with those before them, and how many are left. -/
def take64 (n : Nat) : List Char → Nat × Nat
  | [] => (n, 0)
  | c :: rest =>
    let next := 10 * n + Double.digitsValue [c]
    if next < UInt64.size then take64 next rest else (n, rest.length + 1)

/-- A power of ten is applied by one product or quotient, and one beyond the range of doubles by
two quotients. No significand that is not zero survives a larger exponent. -/
def scaled (f : Double) (e : Int) : Option Double :=
  if f.isZero then some f
  else if 308 < e then none
  else if 0 ≤ e then
    let product := f.mul (.pow10 e.toNat)
    if product.isFinite then some product else none
  else if -308 ≤ e then some (f.div (.pow10 (-e).toNat))
  else if -616 ≤ e then some ((f.div (.pow10 308)).div (.pow10 (-e - 308).toNat))
  else some (.zero f.isNegative)

/-- A decimal is read from the digits that fit 64 bits; those left of the point that do not fit
raise the exponent and the others are dropped. -/
def decimal? (t : NumberText) : Option Double :=
  let (n, left) := take64 0 t.whole
  let fraction := t.fraction.getD []
  let (m, cut) := take64 n fraction
  let e := match t.exponent with
    | none => 0
    | some (negative, digits) =>
      if negative then -(Double.digitsValue digits : Int) else Double.digitsValue digits
  let value := scaled (.ofNat m) (left - (fraction.length - cut : Nat) + e)
  value.map fun d ↦ if t.negative then d.neg else d

/-- Whole numbers in the range of 64 bits stay whole, but for a negative zero; a decimal that is
too large is no number. -/
def value? (t : NumberText) : Option JsonNumber :=
  if t.fraction.isNone && t.exponent.isNone then
    let n := Double.digitsValue t.whole
    if t.negative then
      if 0 < n ∧ n ≤ 0x8000000000000000 then some (.negative (Int64.ofInt (-(n : Int))))
      else t.decimal?.map .decimal
    else if n < UInt64.size then some (.natural (UInt64.ofNat n))
    else t.decimal?.map .decimal
  else t.decimal?.map .decimal

end NumberText

end Reshape
