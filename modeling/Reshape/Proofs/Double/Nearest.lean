import Mathlib.Algebra.Order.Field.Power
import Mathlib.Tactic.FieldSimp
import Mathlib.Tactic.Linarith
import Mathlib.Tactic.NormNum
import Mathlib.Tactic.Positivity
import Mathlib.Tactic.Ring
import Reshape.Double.Shortest

namespace Reshape.Double

variable {d : Double} {num den k : Nat} {q : Int} {x : ℚ}

theorem ofMagnitude_magnitudeBits (d : Double) : ofMagnitude d.isNegative d.magnitudeBits = d := by
  have hbits := d.bits.toNat_lt
  have hnat : (if d.isNegative then signBit + d.magnitudeBits else d.magnitudeBits) =
      d.bits.toNat := by
    unfold isNegative magnitudeBits signBit
    split <;> rename_i h <;> simp only [decide_eq_true_eq] at h <;> omega
  rw [ofMagnitude, hnat, UInt64.ofNat_toNat]

/-- The bits below the sign count the doubles from zero on. -/
theorem magnitudeBits_eq (d : Double) :
    (d.magnitudeBits : Int) = (d.exponent + 1074) * hiddenBit + d.significand := by
  have hdiv := Nat.div_add_mod d.magnitudeBits hiddenBit
  unfold exponent significand exponentField
  by_cases hfield : d.magnitudeBits / hiddenBit = 0
  · rw [hfield] at hdiv
    simp only [hfield, if_true]
    omega
  · simp only [hfield, if_false]
    unfold hiddenBit at *
    omega

theorem significand_lt (d : Double) : d.significand < 2 ^ 53 := by
  have hmod := Nat.mod_lt d.magnitudeBits (show 0 < hiddenBit by decide)
  unfold significand hiddenBit at *
  dsimp only
  split <;> omega

theorem le_exponent (d : Double) : -1074 ≤ d.exponent := by
  unfold exponent
  split <;> omega

theorem exponent_le (h : d.isFinite) : d.exponent ≤ 971 := by
  have hbits := of_decide_eq_true h
  have hfield : d.exponentField < 0x7FF :=
    Nat.div_lt_of_lt_mul (by rwa [infinityBits, Nat.mul_comm] at hbits)
  unfold exponent
  split <;> omega

/-- Above the least exponent the leading bit is set. -/
theorem le_significand (h : -1074 < d.exponent) : 2 ^ 52 ≤ d.significand := by
  unfold exponent at h
  unfold significand
  split at h
  · omega
  · rw [if_neg ‹_›]
    exact Nat.le_add_right _ _

theorem isZero_iff : d.isZero ↔ d.significand = 0 := by
  have heq := d.magnitudeBits_eq
  have hexponent := d.le_exponent
  have hlarge := le_significand (d := d)
  unfold hiddenBit at heq
  rw [isZero, beq_iff_eq]
  constructor
  · intro h
    rw [h] at heq
    omega
  · intro h
    have : ¬ -1074 < d.exponent := fun hlt ↦ by have := hlarge hlt; omega
    omega

/-- Ninety-three bits are less than twenty-eight digits. -/
theorem two_pow_le_ten_pow {a b : Nat} (h : 28 * a ≤ 93 * b) : (2 : ℚ) ^ a ≤ 10 ^ b := by
  refine le_of_pow_le_pow_left₀ (n := 28) (by decide) (by positivity) ?_
  calc ((2 : ℚ) ^ a) ^ 28 = 2 ^ (28 * a) := by rw [← pow_mul, Nat.mul_comm]
    _ ≤ 2 ^ (93 * b) := pow_le_pow_right₀ one_le_two h
    _ = (2 ^ 93) ^ b := pow_mul 2 93 b
    _ ≤ (10 ^ 28) ^ b := pow_le_pow_left₀ (by positivity) (by norm_num) b
    _ = (10 ^ b) ^ 28 := by rw [← pow_mul, ← pow_mul, Nat.mul_comm]

section Scaling

theorem scaleBy_eq (num : Nat) (hden : 0 < den) (q : Int) : 0 < (scaleBy num den q).2 ∧
    ((scaleBy num den q).1 : ℚ) = num / den / 2 ^ q * (scaleBy num den q).2 := by
  have hden' : (den : ℚ) ≠ 0 := by positivity
  unfold scaleBy
  split
  · obtain ⟨n, rfl⟩ := Int.eq_ofNat_of_zero_le ‹0 ≤ q›
    have hpow : 0 < Nat.pow 2 n := Nat.two_pow_pos n
    refine ⟨Nat.mul_pos hden hpow, ?_⟩
    simp only [Int.toNat_natCast, Nat.pow_eq, zpow_natCast, Nat.cast_mul,
      Nat.cast_pow, Nat.cast_ofNat]
    field_simp
  · obtain ⟨n, rfl⟩ : ∃ n : Nat, q = -n := ⟨(-q).toNat, by omega⟩
    refine ⟨hden, ?_⟩
    simp only [neg_neg, Int.toNat_natCast, Nat.pow_eq, zpow_neg, zpow_natCast, Nat.cast_mul,
      Nat.cast_pow, Nat.cast_ofNat]
    field_simp

theorem log2_bounds (hnum : 0 < num) (hden : 0 < den) :
    let guess := (num.log2 : Int) - (den.log2 : Int) - 52
    2 ^ 51 * (2 : ℚ) ^ guess < num / den ∧ (num / den : ℚ) < 2 ^ 53 * 2 ^ guess := by
  intro guess
  have hden' : (0 : ℚ) < den := by exact_mod_cast hden
  have hnumLow : (2 : ℚ) ^ num.log2 ≤ num := by
    exact_mod_cast Nat.log2_self_le (Nat.ne_of_gt hnum)
  have hnumHigh : (num : ℚ) < 2 ^ (num.log2 + 1) := by exact_mod_cast Nat.lt_log2_self
  have hdenLow : (2 : ℚ) ^ den.log2 ≤ den := by
    exact_mod_cast Nat.log2_self_le (Nat.ne_of_gt hden)
  have hdenHigh : (den : ℚ) < 2 ^ (den.log2 + 1) := by exact_mod_cast Nat.lt_log2_self
  have hguess : (2 : ℚ) ^ guess * 2 ^ 52 * 2 ^ den.log2 = 2 ^ num.log2 := by
    rw [← zpow_natCast, ← zpow_natCast, ← zpow_natCast, ← zpow_add₀ two_ne_zero,
      ← zpow_add₀ two_ne_zero]
    congr 1
    omega
  rw [pow_succ] at hnumHigh hdenHigh
  have hpos : (0 : ℚ) < 2 ^ guess := by positivity
  constructor
  · rw [lt_div_iff₀ hden']
    calc 2 ^ 51 * (2 : ℚ) ^ guess * den < 2 ^ 51 * 2 ^ guess * (2 ^ den.log2 * 2) := by gcongr
      _ = 2 ^ guess * 2 ^ 52 * 2 ^ den.log2 := by ring
      _ ≤ num := by rw [hguess]; exact hnumLow
  · rw [div_lt_iff₀ hden']
    calc (num : ℚ) < 2 ^ num.log2 * 2 := hnumHigh
      _ = 2 ^ 53 * 2 ^ guess * 2 ^ den.log2 := by rw [← hguess]; ring
      _ ≤ 2 ^ 53 * 2 ^ guess * den := by gcongr

/-- In units of the chosen power there are at most 53 bits before the point, and not less but at
the least exponent. -/
theorem unitExponent_bounds (hnum : 0 < num) (hden : 0 < den) (hq : unitExponent num den = q) :
    -1074 ≤ q ∧ (num / den : ℚ) < 2 ^ 53 * 2 ^ q ∧
      (q = -1074 ∨ 2 ^ 52 * (2 : ℚ) ^ q ≤ num / den) := by
  obtain ⟨hlow, hhigh⟩ := log2_bounds hnum hden
  let guess := (num.log2 : Int) - (den.log2 : Int) - 52
  obtain ⟨hden', hscaled⟩ := scaleBy_eq num hden guess
  have hpos : (0 : ℚ) < 2 ^ guess := by positivity
  -- The guess from the lengths alone is at most one too large.
  obtain ⟨best, hbest, hlow', hhigh'⟩ : ∃ best, q = max (-1074) best ∧
      2 ^ 52 * (2 : ℚ) ^ best ≤ num / den ∧ (num / den : ℚ) < 2 ^ 53 * 2 ^ best := by
    have hsmall : (scaleBy num den guess).1 / (scaleBy num den guess).2 < hiddenBit ↔
        (num / den : ℚ) < 2 ^ 52 * 2 ^ guess := by
      have hcast : (0 : ℚ) < (scaleBy num den guess).2 := by exact_mod_cast hden'
      rw [Nat.div_lt_iff_lt_mul hden', ← Nat.cast_lt (α := ℚ), hscaled, Nat.cast_mul,
        mul_lt_mul_iff_left₀ hcast, div_lt_iff₀ hpos]
      norm_num [hiddenBit]
    by_cases htest : (scaleBy num den guess).1 / (scaleBy num den guess).2 < hiddenBit
    · have hpred : (2 : ℚ) ^ (guess - 1) = 2 ^ guess / 2 := zpow_sub_one₀ two_ne_zero guess
      refine ⟨guess - 1, ?_, ?_, ?_⟩
      · rw [← hq, unitExponent]
        dsimp only
        rw [if_pos htest]
      · rw [hpred]
        linarith
      · rw [hpred]
        linarith [hsmall.1 htest]
    · refine ⟨guess, ?_, not_lt.1 fun hlt ↦ htest (hsmall.2 hlt), hhigh⟩
      rw [← hq, unitExponent]
      dsimp only
      rw [if_neg htest]
  have hmono : (2 : ℚ) ^ best ≤ 2 ^ q :=
    zpow_le_zpow_right₀ one_le_two (hbest ▸ le_max_right (-1074) best)
  refine ⟨hbest ▸ le_max_left _ _, hhigh'.trans_le (by gcongr), ?_⟩
  by_cases hleast : best ≤ -1074
  · exact .inl (hbest.trans (max_eq_left hleast))
  · rw [hbest.trans (max_eq_right (by omega))]
    exact .inr hlow'

end Scaling

/-- Rounding finds the integer that is at most one half away, and of two of them the even one. -/
theorem roundDiv_eq (hden : 0 < den) (hx : (num : ℚ) = x * den) (hlow : k - 1 / 2 ≤ x)
    (hhigh : x ≤ k + 1 / 2) (hodd : k % 2 = 1 → k - 1 / 2 < x ∧ x < k + 1 / 2) :
    roundDiv num den = k := by
  have hpos : (0 : ℚ) < den := by exact_mod_cast hden
  have hlow' : 2 * (k * den) ≤ 2 * num + den := by
    have : (2 * (k * den) : ℚ) ≤ 2 * num + den := by
      rw [hx]
      linarith [mul_le_mul_of_nonneg_right hlow hpos.le]
    exact_mod_cast this
  have hhigh' : 2 * num ≤ 2 * (k * den) + den := by
    have : (2 * num : ℚ) ≤ 2 * (k * den) + den := by
      rw [hx]
      linarith [mul_le_mul_of_nonneg_right hhigh hpos.le]
    exact_mod_cast this
  have hodd' : k % 2 = 1 → 2 * (k * den) ≠ 2 * num + den ∧ 2 * num ≠ 2 * (k * den) + den := by
    intro hk
    obtain ⟨hleft, hright⟩ := hodd hk
    constructor <;> intro heq
    · have : (2 * (k * den) : ℚ) = 2 * num + den := by exact_mod_cast heq
      linarith [mul_lt_mul_of_pos_right hleft hpos]
    · have : (2 * num : ℚ) = 2 * (k * den) + den := by exact_mod_cast heq
      linarith [mul_lt_mul_of_pos_right hright hpos]
  have hdiv := Nat.div_add_mod num den
  have hmod := Nat.mod_lt num hden
  rw [Nat.mul_comm] at hdiv
  unfold roundDiv
  generalize num / den = below at *
  generalize num % den = r at *
  obtain hk | rfl | rfl | hk : k + 1 ≤ below ∨ k = below ∨ k = below + 1 ∨ below + 2 ≤ k := by
    omega
  · have hle := Nat.mul_le_mul_right den hk
    rw [Nat.add_one_mul] at hle
    omega
  · dsimp only
    split <;> [rfl; split <;> [omega; split <;> omega]]
  · rw [Nat.add_one_mul below den] at hlow' hhigh' hodd'
    dsimp only
    split <;> [omega; split <;> [rfl; split <;> omega]]
  · have hle := Nat.mul_le_mul_right den hk
    rw [Nat.add_mul] at hle
    omega

/-- How far the interval reaches below the value, in quarters of the last place. -/
def reach (d : Double) : Nat := if d.significand = hiddenBit ∧ 1 < d.exponentField then 1 else 2

theorem reach_le (d : Double) : (d.reach : ℚ) ≤ 2 := by
  unfold reach
  split <;> norm_num

theorem one_le_significand (hd : d.isZero = false) : (1 : ℚ) ≤ d.significand := by
  have hne : d.significand ≠ 0 := fun h ↦ by simp [isZero_iff.2 h] at hd
  exact_mod_cast Nat.one_le_iff_ne_zero.2 hne

def Interval.Holds (i : Interval) (x : ℚ) : Prop :=
  if i.closed then i.low ≤ x * i.den ∧ x * i.den ≤ i.high
  else i.low < x * i.den ∧ x * i.den < i.high

theorem interval_eq (hd : d.isZero = false) : 0 < d.interval.den ∧
    (d.interval.value : ℚ) = 4 * d.significand * 2 ^ (d.exponent - 2) * d.interval.den ∧
    (d.interval.low : ℚ) =
      (4 * d.significand - d.reach) * 2 ^ (d.exponent - 2) * d.interval.den ∧
    (d.interval.high : ℚ) = (4 * d.significand + 2) * 2 ^ (d.exponent - 2) * d.interval.den := by
  have hpos : d.significand ≠ 0 := fun h ↦ by simp [isZero_iff.2 h] at hd
  have hreach : d.reach ≤ 4 * d.significand := by
    unfold reach
    split <;> omega
  have hlow : ((4 * d.significand - d.reach : Nat) : ℚ) = 4 * d.significand - d.reach := by
    push_cast [hreach]
    rfl
  have hinterval : d.interval =
      ⟨if 0 ≤ d.exponent - 2 then 4 * d.significand * Nat.pow 2 (d.exponent - 2).toNat
          else 4 * d.significand,
        if 0 ≤ d.exponent - 2 then (4 * d.significand - d.reach) * Nat.pow 2 (d.exponent - 2).toNat
          else 4 * d.significand - d.reach,
        if 0 ≤ d.exponent - 2 then (4 * d.significand + 2) * Nat.pow 2 (d.exponent - 2).toNat
          else 4 * d.significand + 2,
        if 0 ≤ d.exponent - 2 then 1 else Nat.pow 2 (-(d.exponent - 2)).toNat,
        d.significand % 2 == 0⟩ := rfl
  rw [hinterval]
  by_cases hq : 0 ≤ d.exponent - 2
  · obtain ⟨n, hn⟩ := Int.eq_ofNat_of_zero_le hq
    simp only [hn, Int.toNat_natCast, Nat.pow_eq, zpow_natCast, Int.natCast_nonneg, if_true,
      Nat.cast_mul, Nat.cast_pow, Nat.cast_ofNat, Nat.cast_one, Nat.cast_add, hlow, mul_one,
      zero_lt_one, and_self]
  · obtain ⟨n, hn⟩ : ∃ n : Nat, d.exponent - 2 = -n := ⟨(-(d.exponent - 2)).toNat, by omega⟩
    have htwo : (2 : ℚ) ^ n ≠ 0 := by positivity
    simp only [hn, hn ▸ hq, if_false, neg_neg, Int.toNat_natCast, Nat.pow_eq, zpow_neg, zpow_natCast,
      Nat.cast_mul, Nat.cast_pow, Nat.cast_ofNat, Nat.cast_add, hlow, Nat.two_pow_pos, true_and]
    field_simp
    simp

theorem bounds_of_holds (hd : d.isZero = false) (h : d.interval.Holds x) :
    (4 * d.significand - d.reach) * 2 ^ (d.exponent - 2) ≤ x ∧
    x ≤ (4 * d.significand + 2) * 2 ^ (d.exponent - 2) ∧
    (d.significand % 2 = 1 →
      (4 * d.significand - d.reach) * 2 ^ (d.exponent - 2) < x ∧
      x < (4 * d.significand + 2) * 2 ^ (d.exponent - 2)) := by
  obtain ⟨hden, -, hlow, hhigh⟩ := interval_eq hd
  have hpos : (0 : ℚ) < d.interval.den := by exact_mod_cast hden
  have hclosed : d.interval.closed = (d.significand % 2 == 0) := rfl
  unfold Interval.Holds at h
  rw [hlow, hhigh] at h
  by_cases heven : d.significand % 2 = 0
  · rw [if_pos (hclosed ▸ by simpa using heven)] at h
    exact ⟨le_of_mul_le_mul_right h.1 hpos, le_of_mul_le_mul_right h.2 hpos,
      fun hodd ↦ by omega⟩
  · rw [if_neg (hclosed ▸ by simpa using heven)] at h
    have hleft := lt_of_mul_lt_mul_right h.1 hpos.le
    have hright := lt_of_mul_lt_mul_right h.2 hpos.le
    exact ⟨hleft.le, hright.le, fun _ ↦ ⟨hleft, hright⟩⟩

theorem pos_of_holds (hd : d.isZero = false) (h : d.interval.Holds x) : 0 < x := by
  obtain ⟨hleft, -, -⟩ := bounds_of_holds hd h
  have hreach : (0 : ℚ) < 4 * d.significand - d.reach := by
    linarith [d.reach_le, one_le_significand hd]
  exact lt_of_lt_of_le (by positivity) hleft

/-- The interval of a finite double ends below the power of two that would be infinity. -/
theorem lt_two_pow_of_holds (hfinite : d.isFinite) (hd : d.isZero = false)
    (h : d.interval.Holds x) {a : Nat} (ha : 1024 ≤ a) : x < 2 ^ a := by
  obtain ⟨-, hright, -⟩ := bounds_of_holds hd h
  have hsignificand : (d.significand : ℚ) + 1 ≤ 2 ^ 53 := by exact_mod_cast d.significand_lt
  have hunit : (2 : ℚ) ^ (d.exponent - 2) * 2 ^ 55 ≤ 2 ^ a := by
    rw [← zpow_natCast, ← zpow_natCast, ← zpow_add₀ two_ne_zero]
    refine zpow_le_zpow_right₀ one_le_two ?_
    have := exponent_le hfinite
    omega
  have hpos : (0 : ℚ) < 2 ^ (d.exponent - 2) := by positivity
  calc x ≤ (4 * d.significand + 2) * 2 ^ (d.exponent - 2) := hright
    _ < 2 ^ 55 * 2 ^ (d.exponent - 2) := by
      refine mul_lt_mul_of_pos_right ?_ hpos
      linarith
    _ ≤ 2 ^ a := by rwa [mul_comm]

theorem one_le_mul_two_pow_of_holds (hd : d.isZero = false) (h : d.interval.Holds x) {a : Nat}
    (ha : 1075 ≤ a) : 1 ≤ x * 2 ^ a := by
  obtain ⟨hleft, -, -⟩ := bounds_of_holds hd h
  have hunit : (1 : ℚ) ≤ 2 ^ (d.exponent - 2) * 2 * 2 ^ a := by
    rw [← zpow_natCast, ← zpow_add_one₀ two_ne_zero, ← zpow_add₀ two_ne_zero]
    refine one_le_zpow₀ one_le_two ?_
    have := d.le_exponent
    omega
  have htwo : (2 : ℚ) ≤ 4 * d.significand - d.reach := by
    linarith [d.reach_le, one_le_significand hd]
  calc (1 : ℚ) ≤ 2 * 2 ^ (d.exponent - 2) * 2 ^ a := by rwa [mul_comm 2]
    _ ≤ (4 * d.significand - d.reach) * 2 ^ (d.exponent - 2) * 2 ^ a := by gcongr
    _ ≤ x * 2 ^ a := by gcongr

/-- The unit of a number in the interval is that of the value; but right below a power of two the
next smaller one is chosen. -/
theorem unitExponent_of_holds (hd : d.isZero = false) (hnum : 0 < num) (hden : 0 < den)
    (h : d.interval.Holds (num / den)) : unitExponent num den = d.exponent ∨
      unitExponent num den = d.exponent - 1 ∧ d.significand = 2 ^ 52 ∧ d.reach = 1 := by
  obtain ⟨hleast, hhigh, hlow⟩ := unitExponent_bounds hnum hden rfl
  obtain ⟨hleft, hright, -⟩ := bounds_of_holds hd h
  have hexponent := d.le_exponent
  have hsignificand : (d.significand : ℚ) ≤ 2 ^ 53 - 1 := by
    have hnat : d.significand + 1 ≤ 2 ^ 53 := d.significand_lt
    have hcast : (d.significand + 1 : ℚ) ≤ 2 ^ 53 := by exact_mod_cast hnat
    linarith
  have hreach : (d.reach : ℚ) ≤ 2 := d.reach_le
  have hunit : (0 : ℚ) < 2 ^ (d.exponent - 2) := by positivity
  have hpow (i : Int) {n : Nat} (hi : i = d.exponent - 2 + n) :
      (2 : ℚ) ^ i = 2 ^ (d.exponent - 2) * 2 ^ n := by
    rw [hi, zpow_add₀ two_ne_zero, zpow_natCast]
  generalize unitExponent num den = q at *
  obtain hq | hq | hq | hq : d.exponent + 1 ≤ q ∨ q = d.exponent ∨ q = d.exponent - 1 ∨
      q ≤ d.exponent - 2 := by omega
  · have hle : (2 : ℚ) ^ (d.exponent + 1) ≤ 2 ^ q := zpow_le_zpow_right₀ one_le_two hq
    rw [hpow (d.exponent + 1) (n := 3) (by omega)] at hle
    have hlow := hlow.resolve_left (by omega)
    nlinarith
  · exact .inl hq
  · have hnormal := le_significand (d := d) (by omega)
    rw [hpow q (n := 1) (by omega)] at hhigh
    have hsmall : d.significand = 2 ^ 52 := by
      refine le_antisymm (not_lt.1 fun hlt ↦ ?_) hnormal
      have hcast : (2 ^ 52 + 1 : ℚ) ≤ d.significand := by exact_mod_cast hlt
      nlinarith
    refine .inr ⟨hq, hsmall, if_pos ⟨hsmall, ?_⟩⟩
    by_contra hfield
    unfold exponent at hq
    split at hq <;> omega
  · have hnormal : (2 ^ 52 : ℚ) ≤ d.significand := by
      exact_mod_cast le_significand (d := d) (by omega)
    have hle : (2 : ℚ) ^ q ≤ 2 ^ (d.exponent - 2) := zpow_le_zpow_right₀ one_le_two hq
    nlinarith

theorem num_pos_of_holds (hd : d.isZero = false) (h : d.interval.Holds (num / den)) : 0 < num := by
  rw [Nat.pos_iff_ne_zero]
  rintro rfl
  rw [Nat.cast_zero, zero_div] at h
  exact lt_irrefl _ (pos_of_holds hd h)

/-- The magnitude that is put together from the rounded number and its unit. Where the unit is the
next smaller one, the number is rounded up to a power of two and carries. -/
theorem magnitude_of_holds (hd : d.isZero = false) (hden : 0 < den)
    (h : d.interval.Holds (num / den)) (hq : unitExponent num den = q) :
    (q + 1074).toNat * hiddenBit + roundDiv (scaleBy num den q).1 (scaleBy num den q).2 =
      d.magnitudeBits := by
  have hnum := num_pos_of_holds hd h
  have hbits := d.magnitudeBits_eq
  have hexponent := d.le_exponent
  have hunit : (0 : ℚ) < 2 ^ (d.exponent - 2) := by positivity
  obtain ⟨hscale, hscaled⟩ := scaleBy_eq num hden q
  obtain ⟨hleft, hright, hodd⟩ := bounds_of_holds hd h
  obtain ⟨hleast, hhigh, -⟩ := unitExponent_bounds hnum hden hq
  rcases unitExponent_of_holds hd hnum hden h with hsame | ⟨hless, hm, hr⟩
  · obtain rfl := hq.symm.trans hsame
    have hfour : (2 : ℚ) ^ d.exponent = 2 ^ (d.exponent - 2) * 4 := by
      rw [zpow_sub₀ two_ne_zero]
      norm_num
    have hreach := mul_le_mul_of_nonneg_right (show (d.reach : ℚ) ≤ 2 from d.reach_le) hunit.le
    rw [hfour] at hscaled
    rw [roundDiv_eq (k := d.significand) hscale hscaled]
    · unfold hiddenBit at *
      omega
    · rw [le_div_iff₀ (by positivity)]
      linarith
    · rw [div_le_iff₀ (by positivity)]
      linarith
    · intro hk
      obtain ⟨hleft, hright⟩ := hodd hk
      rw [lt_div_iff₀ (by positivity), div_lt_iff₀ (by positivity)]
      constructor <;> linarith
  · obtain rfl := hq.symm.trans hless
    have htwo : (2 : ℚ) ^ (d.exponent - 1) = 2 ^ (d.exponent - 2) * 2 := by
      rw [zpow_sub₀ two_ne_zero, zpow_sub₀ two_ne_zero]
      ring
    have hone : (d.reach : ℚ) = 1 := by rw [hr, Nat.cast_one]
    have hvalue : (d.significand : ℚ) = 2 ^ 52 := by rw [hm, Nat.cast_pow, Nat.cast_ofNat]
    rw [hvalue, hone] at hleft
    rw [htwo] at hscaled hhigh
    rw [roundDiv_eq (k := 2 ^ 53) hscale hscaled]
    · unfold hiddenBit at *
      omega
    · rw [le_div_iff₀ (by positivity)]
      push_cast
      linarith
    · rw [div_le_iff₀ (by positivity)]
      push_cast
      linarith
    · intro hk
      exact absurd hk (by decide)

/-- Every number in the interval of a double is rounded to it. -/
theorem nearest_of_holds (hfinite : d.isFinite) (hd : d.isZero = false) (hden : 0 < den)
    (h : d.interval.Holds (num / den)) (negative : Bool) :
    nearest negative num den = ofMagnitude negative d.magnitudeBits := by
  rw [nearest, if_neg (Nat.ne_of_gt (num_pos_of_holds hd h))]
  dsimp only
  rw [magnitude_of_holds hd hden h rfl, if_pos (of_decide_eq_true hfinite)]

end Reshape.Double
