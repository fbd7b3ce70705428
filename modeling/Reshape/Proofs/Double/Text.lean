import Reshape.Double.Text
import Reshape.Proofs.Double.Shortest

namespace Reshape.Double

variable {d : Double} {n : Nat} {e x : Int}

/-- A decimal in the interval of a double is neither so large nor so small that its exponent alone
would decide. -/
theorem length_add_bounds (hfinite : d.isFinite) (hd : d.isZero = false)
    (h : d.interval.Holds (n * 10 ^ e)) :
    (Nat.toDigits 10 n).length + e ≤ 310 ∧ -400 ≤ (Nat.toDigits 10 n).length + e := by
  have hten : (10 : ℚ) ≠ 0 := by norm_num
  have hpos : 0 < n := by
    rw [Nat.pos_iff_ne_zero]
    rintro rfl
    simpa using pos_of_holds hd h
  have hlength := Nat.length_toDigits_pos (b := 10) (n := n)
  have hlow : (10 : ℚ) ^ ((Nat.toDigits 10 n).length - 1) ≤ n := by
    exact_mod_cast pow_length_le hpos
  have hhigh : (n : ℚ) < 10 ^ (Nat.toDigits 10 n).length := by exact_mod_cast lt_pow_length n
  constructor <;> by_contra hfar
  · let k := ((Nat.toDigits 10 n).length - 1 + e).toNat
    have hlt := lt_two_pow_of_holds hfinite hd h (a := 93 * k / 28) (by omega)
    have hle : (10 : ℚ) ^ k ≤ n * 10 ^ e := by
      calc (10 : ℚ) ^ k = 10 ^ ((Nat.toDigits 10 n).length - 1) * 10 ^ e := by
            rw [← zpow_natCast, ← zpow_natCast, ← zpow_add₀ hten]
            congr 1
            omega
        _ ≤ n * 10 ^ e := by gcongr
    exact absurd (hle.trans_lt hlt) (not_lt.2 (two_pow_le_ten_pow (by omega)))
  · let k := (-((Nat.toDigits 10 n).length + e)).toNat
    have hle := one_le_mul_two_pow_of_holds hd h (a := 93 * k / 28) (by omega)
    have hlt : (n : ℚ) * 10 ^ e * 10 ^ k < 1 := by
      calc (n : ℚ) * 10 ^ e * 10 ^ k < 10 ^ (Nat.toDigits 10 n).length * 10 ^ e * 10 ^ k := by
            gcongr
        _ = 1 := by
            rw [← zpow_natCast, ← zpow_natCast, ← zpow_add₀ hten, ← zpow_add₀ hten,
              ← zpow_zero (10 : ℚ)]
            congr 1
            omega
    have hpow : (2 : ℚ) ^ (93 * k / 28) ≤ 10 ^ k := two_pow_le_ten_pow (by omega)
    have hmul := mul_le_mul_of_nonneg_left hpow (pos_of_holds hd h).le
    linarith

/-- A decimal in the interval of a double is read as the double. -/
theorem ofDecimal_of_holds (hfinite : d.isFinite) (hd : d.isZero = false)
    (h : d.interval.Holds (n * 10 ^ e)) (negative : Bool) :
    ofDecimal negative n e = ofMagnitude negative d.magnitudeBits := by
  have hne : n ≠ 0 := by
    rintro rfl
    simpa using pos_of_holds hd h
  obtain ⟨hlarge, hsmall⟩ := length_add_bounds hfinite hd h
  rw [ofDecimal, if_neg hne]
  dsimp only
  rw [if_neg (by omega), if_neg (by omega)]
  split
  · obtain ⟨k, rfl⟩ := Int.eq_ofNat_of_zero_le ‹0 ≤ e›
    refine nearest_of_holds hfinite hd Nat.one_pos ?_ negative
    simpa using h
  · obtain ⟨k, rfl⟩ : ∃ k : Nat, e = -k := ⟨(-e).toNat, by omega⟩
    refine nearest_of_holds hfinite hd (Nat.pow_pos (by decide)) ?_ negative
    simpa [div_eq_mul_inv] using h

/-- Without its trailing zeros a number of a grid stands for the same value. -/
theorem holds_stripZeros (hd : d.isZero = false) {t : Int} (h : d.interval.Holds (n * 10 ^ t))
    {s : List Char} (hs : stripZeros (Nat.toDigits 10 n) = s)
    (hx : t + (Nat.toDigits 10 n).length - 1 = x) :
    d.interval.Holds (digitsValue s * 10 ^ (x + 1 - s.length)) ∧ IsDigits s ∧
      s.head? ≠ some '0' := by
  have hpos : 0 < n := by
    rw [Nat.pos_iff_ne_zero]
    rintro rfl
    rw [Nat.cast_zero, zero_mul] at h
    exact lt_irrefl _ (pos_of_holds hd h)
  obtain ⟨z, hz⟩ := exists_stripZeros (Nat.toDigits 10 n)
  have hvalue := digitsValue_toDigits n
  have hhead := head?_toDigits hpos
  have hdigits := (isDigits_toDigits n).2
  rw [hs] at hz
  rw [hz, List.length_append, List.length_replicate] at hx
  rw [hz] at hvalue hhead hdigits
  rw [digitsValue_append_zeros] at hvalue
  have hne : s ≠ [] := by
    rintro rfl
    rw [← hvalue] at hpos
    simp [digitsValue] at hpos
  refine ⟨?_, ⟨hne, fun c hc ↦ hdigits c (List.mem_append_left _ hc)⟩, ?_⟩
  · have hten : (10 : ℚ) ≠ 0 := by norm_num
    rw [← hvalue, Nat.cast_mul, Nat.cast_pow, Nat.cast_ofNat, mul_assoc, ← zpow_natCast,
      ← zpow_add₀ hten] at h
    convert h using 3
    omega
  · rwa [List.head?_append_of_ne_nil _ hne] at hhead

theorem holds_shortestDigits (hd : d.isZero = false) :
    d.interval.Holds (digitsValue d.shortestDigits.1 *
      10 ^ (d.shortestDigits.2 + 1 - d.shortestDigits.1.length)) ∧
      IsDigits d.shortestDigits.1 ∧ d.shortestDigits.1.head? ≠ some '0' :=
  holds_stripZeros hd (holds_shortest hd) rfl rfl

/-- A text with a point stands for the digits that it was made of. -/
theorem exists_positional {s : List Char} (hs : IsDigits s) (hhead : s.head? ≠ some '0')
    (x : Int) : ∃ whole fraction, positional s x = whole ++ '.' :: fraction ∧
      IsDigits whole ∧ (whole = ['0'] ∨ whole.head? ≠ some '0') ∧ IsDigits fraction ∧
      ∃ k : Nat, digitsValue (whole ++ fraction) = digitsValue s * 10 ^ k ∧
        (k : Int) - fraction.length = x + 1 - s.length := by
  unfold positional
  by_cases hx : 0 ≤ x
  · obtain ⟨n, rfl⟩ := Int.eq_ofNat_of_zero_le hx
    rw [if_pos hx]
    dsimp only [Int.toNat_natCast]
    by_cases hshort : s.length ≤ n + 1
    · let zeros := List.replicate (n + 1 - s.length) '0'
      refine ⟨s ++ zeros, ['0'], ?_, hs.append (isDigit_zeros _), .inr ?_, isDigits_zero,
        n + 1 - s.length + 1, ?_, ?_⟩
      · rw [List.drop_eq_nil_of_le hshort, List.take_of_length_le hshort]
        rfl
      · rwa [List.head?_append_of_ne_nil _ hs.1]
      · rw [List.append_assoc, ← List.replicate_succ', digitsValue_append_zeros]
      · rw [List.length_singleton]
        omega
    · have hdrop : s.drop (n + 1) ≠ [] := by
        rw [ne_eq, List.drop_eq_nil_iff]
        exact hshort
      refine ⟨s.take (n + 1), s.drop (n + 1), ?_, ⟨?_, fun c hc ↦ hs.2 c (List.mem_of_mem_take hc)⟩,
        .inr ?_, ⟨hdrop, fun c hc ↦ hs.2 c (List.mem_of_mem_drop hc)⟩, 0, ?_, ?_⟩
      · rw [Nat.sub_eq_zero_of_le (by omega), List.replicate_zero, List.append_nil,
          if_neg (by rwa [List.isEmpty_iff])]
      · simp [hs.1]
      · rwa [List.head?_take, if_neg (Nat.succ_ne_zero n)]
      · rw [List.take_append_drop, Nat.pow_zero, Nat.mul_one]
      · rw [List.length_drop]
        omega
  · rw [if_neg hx]
    let zeros := List.replicate ((-x).toNat - 1) '0'
    refine ⟨['0'], zeros ++ s, rfl, isDigits_zero, .inl rfl,
      hs.append_left (isDigit_zeros _), 0, ?_, ?_⟩
    · rw [← List.append_assoc, List.singleton_append, ← List.replicate_succ,
        digitsValue_zeros_append, Nat.pow_zero, Nat.mul_one]
    · rw [List.length_append, List.length_replicate]
      omega

end Reshape.Double
