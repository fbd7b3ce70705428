import Reshape.Proofs.Double.Digits
import Reshape.Proofs.Double.Nearest

namespace Reshape.Double

variable {d : Double} {i : Interval} {n : Nat} {t x : Int}

namespace Interval

theorem holds_iff : i.holds n ↔ i.Holds n := by
  unfold holds Holds
  cases i.closed <;>
    simp only [Bool.false_eq_true, if_true, if_false, decide_eq_true_eq] <;> norm_cast

theorem ratio_inUnits (i : Interval) (t : Int) :
    ∃ c : ℚ, 0 < c ∧ ((i.inUnits t).value : ℚ) = i.value * c ∧ ((i.inUnits t).low : ℚ) = i.low * c ∧
      ((i.inUnits t).high : ℚ) = i.high * c ∧ ((i.inUnits t).den : ℚ) = i.den * (c * 10 ^ t) := by
  unfold inUnits
  split
  · obtain ⟨n, rfl⟩ := Int.eq_ofNat_of_zero_le ‹0 ≤ t›
    exact ⟨1, one_pos, by simp⟩
  · obtain ⟨n, rfl⟩ : ∃ n : Nat, t = -n := ⟨(-t).toNat, by omega⟩
    refine ⟨10 ^ n, by positivity, ?_⟩
    simp

theorem closed_inUnits (i : Interval) (t : Int) : (i.inUnits t).closed = i.closed := by
  unfold inUnits
  split <;> rfl

theorem holds_inUnits_iff {y : ℚ} : (i.inUnits t).Holds y ↔ i.Holds (y * 10 ^ t) := by
  obtain ⟨c, hc, -, hlow, hhigh, hden⟩ := i.ratio_inUnits t
  have hmul : y * (i.den * (c * 10 ^ t)) = y * 10 ^ t * i.den * c := by ring
  unfold Holds
  rw [hlow, hhigh, hden, hmul, closed_inUnits, mul_le_mul_iff_left₀ hc, mul_le_mul_iff_left₀ hc,
    mul_lt_mul_iff_left₀ hc, mul_lt_mul_iff_left₀ hc]

/-- The interval reaches so far to both sides of the value that it holds one of the two neighbours
of the value on a grid of seventeen digits. -/
structure Wide (i : Interval) : Prop where
  below : i.low < i.value * (1 - 1 / (2 * 10 ^ 16) : ℚ)
  above : i.value * (1 + 1 / (2 * 10 ^ 16) : ℚ) < i.high

theorem Wide.inUnits (h : i.Wide) (t : Int) : (i.inUnits t).Wide := by
  obtain ⟨c, hc, hvalue, hlow, hhigh, -⟩ := i.ratio_inUnits t
  constructor
  · rw [hvalue, hlow]
    linarith [mul_lt_mul_of_pos_right h.below hc]
  · rw [hvalue, hhigh]
    linarith [mul_lt_mul_of_pos_right h.above hc]

theorem holds_of_point? (h : i.point? = some n) : i.holds n := by
  unfold point? at h
  dsimp only at h
  split at h
  · cases h
  · rwa [← Option.some.inj h]
  · rwa [← Option.some.inj h]
  · split at h
    · rwa [← Option.some.inj h]
    · split at h
      · rwa [← Option.some.inj h]
      · split at h <;> rwa [← Option.some.inj h]

theorem exists_point?_iff :
    (∃ n, i.point? = some n) ↔ i.holds (i.value / i.den) ∨ i.holds (i.value / i.den + 1) := by
  unfold point?
  dsimp only
  cases i.holds (i.value / i.den) <;> cases i.holds (i.value / i.den + 1) <;> simp
  split
  · simp
  · split
    · simp
    · split <;> simp

theorem holds_of_lt (hlow : (i.low : ℚ) < n * i.den) (hhigh : (n * i.den : ℚ) < i.high) :
    i.holds n := by
  rw [holds_iff, Holds]
  split
  · exact ⟨hlow.le, hhigh.le⟩
  · exact ⟨hlow, hhigh⟩

theorem exists_point? (h : i.Wide) (hden : 0 < i.den) (hlarge : 10 ^ 16 * i.den ≤ i.value) :
    ∃ n, i.point? = some n := by
  have hmod := Nat.mod_lt i.value hden
  have hdiv : ((i.value / i.den : Nat) : ℚ) * i.den = i.value - (i.value % i.den : Nat) := by
    have hnat := Nat.div_add_mod i.value i.den
    rw [eq_sub_iff_add_eq, mul_comm]
    exact_mod_cast hnat
  have hlarge' : (10 ^ 16 * i.den : ℚ) ≤ i.value := by exact_mod_cast hlarge
  obtain ⟨hbelow, habove⟩ := h
  have hvalue : (0 : ℚ) ≤ i.value := Nat.cast_nonneg _
  rw [exists_point?_iff]
  by_cases hhalf : 2 * (i.value % i.den) ≤ i.den
  · have hhalf' : (2 * (i.value % i.den : Nat) : ℚ) ≤ i.den := by exact_mod_cast hhalf
    have hr : (0 : ℚ) ≤ (i.value % i.den : Nat) := Nat.cast_nonneg _
    refine .inl (holds_of_lt ?_ ?_) <;> rw [hdiv] <;> linarith
  · have hhalf' : (i.den : ℚ) < 2 * (i.value % i.den : Nat) := by exact_mod_cast not_le.1 hhalf
    have hr : ((i.value % i.den : Nat) : ℚ) < i.den := by exact_mod_cast hmod
    refine .inr (holds_of_lt ?_ ?_) <;>
      rw [Nat.cast_add, Nat.cast_one, add_mul, one_mul, hdiv] <;> linarith

end Interval

theorem wide_interval (hd : d.isZero = false) : d.interval.Wide := by
  obtain ⟨hden, hvalue, hlow, hhigh⟩ := interval_eq hd
  have hunit : (0 : ℚ) < 2 ^ (d.exponent - 2) * d.interval.den := by positivity
  have hsignificand : (d.significand : ℚ) < 2 ^ 53 := by exact_mod_cast d.significand_lt
  have hreach : (d.significand : ℚ) < 10 ^ 16 / 2 * d.reach := by
    unfold reach
    split
    · rename_i h
      rw [h.1]
      norm_num [hiddenBit]
    · push_cast
      linarith
  constructor
  · rw [hvalue, hlow]
    linarith [mul_lt_mul_of_pos_right hreach hunit]
  · rw [hvalue, hhigh]
    linarith [mul_lt_mul_of_pos_right hsignificand hunit]

theorem holds_of_searchGrid {count left : Nat}
    (h : ∃ k < left, ∃ n, (i.inUnits (x - (count + k : Nat) + 1)).point? = some n) :
    i.Holds ((searchGrid i x count left).1 * 10 ^ (searchGrid i x count left).2) := by
  induction left generalizing count with
  | zero =>
    obtain ⟨k, hk, -⟩ := h
    exact absurd hk (Nat.not_lt_zero k)
  | succ left ih =>
    rw [searchGrid]
    cases hpoint : (i.inUnits (x - count + 1)).point? with
    | some n =>
      exact Interval.holds_inUnits_iff.1 (Interval.holds_iff.1 (Interval.holds_of_point? hpoint))
    | none =>
      obtain ⟨k, hk, n, hn⟩ := h
      cases k with
      | zero => simp [hpoint] at hn
      | succ k => exact ih ⟨k, by omega, n, by rwa [← Nat.add_assoc, Nat.add_right_comm] at hn⟩

theorem pow_decimalExponent_le (hden : 0 < i.den) (hlarge : i.den ≤ i.value * Nat.pow 10 340) :
    (10 : ℚ) ^ decimalExponent i * i.den ≤ i.value := by
  have hexponent : decimalExponent i =
      (Nat.toDigits 10 (i.value * Nat.pow 10 340 / i.den)).length - 341 := by
    rw [decimalExponent]
  -- The exponent becomes a variable so that nothing computes the power.
  generalize hk : 340 = k at hexponent hlarge
  rw [Nat.pow_eq] at hexponent hlarge
  have hscaled : 0 < i.value * 10 ^ k / i.den := Nat.div_pos hlarge hden
  have hdiv : i.value * 10 ^ k / i.den * i.den ≤ i.value * 10 ^ k := Nat.div_mul_le_self _ _
  generalize i.value * 10 ^ k / i.den = scaled at *
  have hlength := Nat.length_toDigits_pos (b := 10) (n := scaled)
  have hpow : (10 ^ ((Nat.toDigits 10 scaled).length - 1) * i.den : ℚ) ≤ i.value * 10 ^ k := by
    exact_mod_cast (Nat.mul_le_mul_right _ (pow_length_le hscaled)).trans hdiv
  have hsplit : (10 : ℚ) ^ ((Nat.toDigits 10 scaled).length - 1) =
      10 ^ decimalExponent i * 10 ^ k := by
    rw [← zpow_natCast, ← zpow_natCast, ← zpow_add₀ (by norm_num)]
    congr 1
    omega
  have hpos : (0 : ℚ) < 10 ^ k := by positivity
  rw [hsplit] at hpow
  exact le_of_mul_le_mul_right (by linarith) hpos

/-- Seventeen digits are always enough. -/
theorem exists_point?_seventeen (hwide : i.Wide) (hden : 0 < i.den)
    (hlarge : i.den ≤ i.value * Nat.pow 10 340) :
    ∃ n, (i.inUnits (decimalExponent i - 17 + 1)).point? = some n := by
  let t := decimalExponent i - 17 + 1
  obtain ⟨c, hc, hvalue, -, -, hden'⟩ := i.ratio_inUnits t
  have hexponent : (10 : ℚ) ^ decimalExponent i = 10 ^ 16 * 10 ^ t := by
    rw [← zpow_natCast, ← zpow_add₀ (by norm_num)]
    congr 1
    simp only [t]
    omega
  have hpow := pow_decimalExponent_le hden hlarge
  have hpos : (0 : ℚ) < i.den := by exact_mod_cast hden
  have hden'' : 0 < (i.inUnits t).den := by
    have : (0 : ℚ) < (i.inUnits t).den := by
      rw [hden']
      positivity
    exact_mod_cast this
  refine Interval.exists_point? (hwide.inUnits t) hden'' ?_
  have hcast : (10 ^ 16 * (i.inUnits t).den : ℚ) ≤ (i.inUnits t).value := by
    rw [hden', hvalue]
    rw [hexponent] at hpow
    linarith [mul_le_mul_of_nonneg_right hpow hc.le]
  exact_mod_cast hcast

theorem den_interval_le (hd : d.isZero = false) :
    d.interval.den ≤ d.interval.value * Nat.pow 10 340 := by
  obtain ⟨hden, hvalue, -⟩ := interval_eq hd
  generalize hk : 340 = k
  rw [Nat.pow_eq]
  have hpos : (0 : ℚ) < d.interval.den := by exact_mod_cast hden
  have hone : 1 ≤ (2 : ℚ) ^ (d.exponent - 2) * 10 ^ k := by
    let a := (2 - d.exponent).toNat
    have hleast := d.le_exponent
    calc (1 : ℚ) ≤ 2 ^ (d.exponent - 2) * 2 ^ a := by
          rw [← zpow_natCast, ← zpow_add₀ two_ne_zero]
          exact one_le_zpow₀ one_le_two (by omega)
      _ ≤ 2 ^ (d.exponent - 2) * 10 ^ k := by
          gcongr
          exact two_pow_le_ten_pow (by omega)
  have hsignificand := one_le_significand hd
  have hcast : (d.interval.den : ℚ) ≤ d.interval.value * 10 ^ k := by
    calc (d.interval.den : ℚ) = 1 * 1 * d.interval.den := by ring
      _ ≤ 4 * d.significand * (2 ^ (d.exponent - 2) * 10 ^ k) * d.interval.den := by
        gcongr
        linarith
      _ = d.interval.value * 10 ^ k := by
        rw [hvalue]
        ring
  exact_mod_cast hcast

/-- The shortest digits lie in the interval, and so they read back. -/
theorem holds_shortest (hd : d.isZero = false) :
    d.interval.Holds (d.shortest.1 * 10 ^ d.shortest.2) :=
  holds_of_searchGrid ⟨16, by decide,
    exists_point?_seventeen (wide_interval hd) (interval_eq hd).1 (den_interval_le hd)⟩

end Reshape.Double
