import Reshape.Json.Printer
import Reshape.Proofs.Double.Text
import Reshape.Proofs.Record.Json

namespace Reshape

open Double

namespace NumberText

def digits (t : NumberText) : List Char := t.whole ++ t.fraction.getD []

def scale (t : NumberText) : Int :=
  (match t.exponent with
    | none => 0
    | some (negative, digits) =>
      if negative then -(digitsValue digits : Int) else digitsValue digits) -
    (t.fraction.getD []).length

/-- The double nearest to the number, of which no digit is dropped. -/
def nearest (t : NumberText) : Double :=
  .ofDecimal t.negative (digitsValue t.digits) t.scale

/-- The number that a text stands for. What has no whole form is the nearest decimal. -/
def exact (t : NumberText) : JsonNumber :=
  let n := digitsValue t.whole
  if t.fraction.isSome || t.exponent.isSome then .decimal t.nearest
  else if !t.negative && n < UInt64.size then .natural (UInt64.ofNat n)
  else if t.negative && 0 < n && n ≤ 0x8000000000000000 then .negative (Int64.ofInt (-(n : Int)))
  else .decimal t.nearest

def fractionChars : Option (List Char) → List Char
  | none => []
  | some digits => '.' :: digits

def exponentChars : Option (Bool × List Char) → List Char
  | none => []
  | some (negative, digits) => 'e' :: (if negative then '-' else '+') :: digits

def chars (t : NumberText) : List Char :=
  (if t.negative then ['-'] else []) ++
    (t.whole ++ (fractionChars t.fraction ++ exponentChars t.exponent))

structure WellFormed (t : NumberText) : Prop where
  whole : IsDigits t.whole
  noLeadingZero : t.whole = ['0'] ∨ t.whole.head? ≠ some '0'
  fraction : ∀ digits ∈ t.fraction, IsDigits digits
  exponent : ∀ e ∈ t.exponent, IsDigits e.2

def endsNumber (c : Char) : Bool := !c.isDigit && c != '.' && c != 'e' && c != 'E'

variable {s rest : List Char} {fraction : Option (List Char)} {exponent : Option (Bool × List Char)}
  {t : NumberText}

theorem endsNumber_iff {c : Char} :
    endsNumber c ↔ ¬ c.isDigit ∧ c ≠ '.' ∧ c ≠ 'e' ∧ c ≠ 'E' := by
  simp [endsNumber, and_assoc]

theorem WellFormed.exists_chars_eq_cons (h : t.WellFormed) :
    ∃ c cs, t.chars = c :: cs ∧ (c = '-' ∨ c.isDigit) := by
  obtain ⟨hne, hdigits⟩ := h.whole
  cases hwhole : t.whole with
  | nil => exact absurd hwhole hne
  | cons c whole =>
    rw [hwhole] at hdigits
    cases hsign : t.negative with
    | true => exact ⟨'-', _, by rw [chars, hsign]; rfl, .inl rfl⟩
    | false =>
      exact ⟨c, _, by rw [chars, hsign, hwhole]; rfl, .inr (hdigits c List.mem_cons_self)⟩

theorem takeWhile_digits (hs : ∀ c ∈ s, c.isDigit) (hrest : ∀ c ∈ rest.head?, ¬ c.isDigit) :
    (s ++ rest).takeWhile Char.isDigit = s ∧ (s ++ rest).dropWhile Char.isDigit = rest := by
  rw [List.takeWhile_append_of_pos hs, List.dropWhile_append_of_pos hs]
  cases rest with
  | nil => simp
  | cons c rest => simp [hrest c rfl]

theorem scanDigits_append (hs : IsDigits s) (hrest : ∀ c ∈ rest.head?, ¬ c.isDigit) :
    scanDigits (s ++ rest) = .ok (s, rest) := by
  obtain ⟨hne, hs⟩ := hs
  cases s with
  | nil => exact absurd rfl hne
  | cons c s =>
    obtain ⟨hc, hs⟩ := List.forall_mem_cons.1 hs
    obtain ⟨htake, hdrop⟩ := takeWhile_digits hs hrest
    rw [List.cons_append, scanDigits, if_pos hc, htake, hdrop]

theorem scanWhole_append (hs : IsDigits s) (hzero : s = ['0'] ∨ s.head? ≠ some '0')
    (hrest : ∀ c ∈ rest.head?, ¬ c.isDigit) : scanWhole (s ++ rest) = .ok (s, rest) := by
  rcases hzero with rfl | hzero
  · cases rest with
    | nil => rfl
    | cons c rest => simp [scanWhole, hrest c rfl]
  · obtain ⟨hne, hs⟩ := hs
    cases s with
    | nil => exact absurd rfl hne
    | cons c s =>
      obtain ⟨hc, hs⟩ := List.forall_mem_cons.1 hs
      obtain ⟨htake, hdrop⟩ := takeWhile_digits hs hrest
      rw [List.cons_append, scanWhole]
      · rw [if_pos hc, htake, hdrop]
      · rintro rfl
        exact hzero rfl

theorem scanFraction_append (hs : ∀ digits ∈ fraction, IsDigits digits)
    (hrest : ∀ c ∈ rest.head?, ¬ c.isDigit ∧ c ≠ '.') :
    scanFraction (fractionChars fraction ++ rest) = .ok (fraction, rest) := by
  cases fraction with
  | none =>
    rw [fractionChars, List.nil_append, scanFraction]
    rintro rest' rfl
    exact (hrest '.' rfl).2 rfl
  | some digits =>
    rw [fractionChars, List.cons_append, scanFraction,
      scanDigits_append (hs digits rfl) fun c hc ↦ (hrest c hc).1]

theorem scanExponent_append (hs : ∀ e ∈ exponent, IsDigits e.2)
    (hrest : ∀ c ∈ rest.head?, endsNumber c) :
    scanExponent (exponentChars exponent ++ rest) = .ok (exponent, rest) := by
  cases exponent with
  | none =>
    cases rest with
    | nil => rfl
    | cons c rest =>
      obtain ⟨-, -, hlower, hupper⟩ := endsNumber_iff.1 (hrest c rfl)
      rw [exponentChars, List.nil_append, scanExponent, if_neg (not_or.2 ⟨hlower, hupper⟩)]
  | some e =>
    obtain ⟨negative, digits⟩ := e
    have hscan := scanDigits_append (hs _ rfl) fun c hc ↦ (endsNumber_iff.1 (hrest c hc)).1
    have hsign : splitSign ((if negative then '-' else '+') :: (digits ++ rest)) =
        (negative, digits ++ rest) := by
      cases negative <;> rfl
    rw [exponentChars, List.cons_append, List.cons_append, scanExponent, if_pos (.inl rfl), hsign]
    dsimp only
    rw [hscan]

theorem head?_exponentChars (exponent : Option (Bool × List Char))
    (hrest : ∀ c ∈ rest.head?, endsNumber c) :
    ∀ c ∈ (exponentChars exponent ++ rest).head?, ¬ c.isDigit ∧ c ≠ '.' := by
  cases exponent with
  | none =>
    intro c hc
    obtain ⟨hdigit, hpoint, -⟩ := endsNumber_iff.1 (hrest c hc)
    exact ⟨hdigit, hpoint⟩
  | some e =>
    rintro c hc
    obtain rfl : 'e' = c := Option.some.inj hc
    decide

theorem scanUnsigned_append (h : t.WellFormed) (hrest : ∀ c ∈ rest.head?, endsNumber c) :
    scanUnsigned t.negative
      (t.whole ++ (fractionChars t.fraction ++ (exponentChars t.exponent ++ rest))) =
        .ok (t, rest) := by
  have hexponent := head?_exponentChars t.exponent hrest
  have hfraction : ∀ c ∈ (fractionChars t.fraction ++ (exponentChars t.exponent ++ rest)).head?,
      ¬ c.isDigit := by
    cases t.fraction with
    | none => exact fun c hc ↦ (hexponent c hc).1
    | some digits =>
      intro c hc
      obtain rfl : '.' = c := Option.some.inj hc
      decide
  rw [scanUnsigned, scanWhole_append h.whole h.noLeadingZero hfraction]
  dsimp only
  rw [scanFraction_append h.fraction hexponent]
  dsimp only
  rw [scanExponent_append h.exponent hrest]

/-- A number is read from its text, up to what ends it. -/
theorem scan_append (h : t.WellFormed) (hrest : ∀ c ∈ rest.head?, endsNumber c) :
    scan (t.chars ++ rest) = .ok (t, rest) := by
  have hscan := scanUnsigned_append h hrest
  have hchars : t.chars ++ rest = (if t.negative then ['-'] else []) ++
      (t.whole ++ (fractionChars t.fraction ++ (exponentChars t.exponent ++ rest))) := by
    simp [chars]
  rw [hchars]
  cases hsign : t.negative with
  | true => rwa [hsign] at hscan
  | false =>
    rw [hsign] at hscan
    obtain ⟨hne, hdigits⟩ := h.whole
    cases hwhole : t.whole with
    | nil => exact absurd hwhole hne
    | cons c whole =>
      rw [hwhole] at hdigits hscan
      rw [if_neg (by decide), List.nil_append, scan]
      · exact hscan
      · rintro rest' heq
        obtain rfl : c = '-' := (List.cons.inj heq).1
        exact absurd (hdigits '-' List.mem_cons_self) (by decide)

end NumberText

open NumberText

namespace Double

variable {d : Double} {s : List Char}

/-- What a text without a whole form needs to stand for the digits with the first of them at the
exponent. -/
structure LaysOut (t : NumberText) (s : List Char) (x : Int) : Prop where
  wellFormed : t.WellFormed
  notWhole : t.fraction.isSome || t.exponent.isSome
  value : ∃ k : Nat, digitsValue t.digits = digitsValue s * 10 ^ k ∧ k + t.scale = x + 1 - s.length

theorem exists_laysOut_scientific (negative : Bool) (hs : IsDigits s) (x : Int) :
    ∃ t, t.negative = negative ∧
      t.chars = (if negative then ['-'] else []) ++ scientific s x ∧ LaysOut t s x := by
  have hx : (if x < 0 then -|x| else |x|) = x := by
    split
    · rw [abs_of_neg ‹_›, neg_neg]
    · exact abs_of_nonneg (not_lt.1 ‹_›)
  have hsign : (if x < 0 then '-' else '+') = if 0 ≤ x then '+' else '-' := by
    by_cases h : x < 0
    · rw [if_pos h, if_neg (not_le.2 h)]
    · rw [if_neg h, if_pos (not_lt.1 h)]
  have hexponent : ∀ e ∈ some (decide (x < 0), Nat.toDigits 10 x.natAbs), IsDigits e.2 := by
    rintro _ ⟨⟩
    exact isDigits_toDigits _
  obtain ⟨hne, hall⟩ := hs
  have hzero (c : Char) : [c] = ['0'] ∨ [c].head? ≠ some '0' := by
    by_cases h : c = '0' <;> simp [h]
  match s with
  | [] => exact absurd rfl hne
  | [c] =>
    refine ⟨⟨negative, [c], none, some (decide (x < 0), Nat.toDigits 10 x.natAbs)⟩, rfl, ?_,
      ⟨⟨by simp, hall⟩, hzero c, by simp, hexponent⟩, rfl, 0, by simp [digits], ?_⟩
    · simp [chars, fractionChars, exponentChars, scientific, hsign]
    · simp [scale, digitsValue_toDigits, hx]
  | c :: c' :: cs =>
    refine ⟨⟨negative, [c], some (c' :: cs), some (decide (x < 0), Nat.toDigits 10 x.natAbs)⟩, rfl,
      ?_, ⟨⟨by simp, by simpa using hall c⟩, hzero c, ?_, hexponent⟩, rfl, 0, by simp [digits], ?_⟩
    · simp [chars, fractionChars, exponentChars, scientific, hsign]
    · rintro _ ⟨⟩
      exact ⟨by simp, fun c hc ↦ hall c (List.mem_cons_of_mem _ hc)⟩
    · simp [scale, digitsValue_toDigits, hx]

theorem exists_laysOut (negative : Bool) (hs : IsDigits s) (hhead : s.head? ≠ some '0')
    (x : Int) : ∃ t, t.negative = negative ∧
      t.chars = (if negative then ['-'] else []) ++ layout s x ∧ LaysOut t s x := by
  rw [layout]
  by_cases hx : -5 ≤ x ∧ x ≤ 15
  · rw [if_pos hx]
    obtain ⟨whole, fraction, htext, hwhole, hzero, hfraction, k, hvalue, hscale⟩ :=
      exists_positional hs hhead x
    refine ⟨⟨negative, whole, some fraction, none⟩, rfl, ?_, ⟨hwhole, hzero, ?_, by simp⟩, rfl,
      k, hvalue, ?_⟩
    · simp [chars, fractionChars, exponentChars, htext]
    · rintro _ ⟨⟩
      exact hfraction
    · simpa [scale, ← sub_eq_add_neg] using hscale
  · rw [if_neg hx]
    exact exists_laysOut_scientific negative hs x

theorem exists_numberText_layout {x : Int} (hfinite : d.isFinite) (hd : d.isZero = false)
    (hholds : d.interval.Holds (digitsValue s * 10 ^ (x + 1 - s.length))) (hs : IsDigits s)
    (hhead : s.head? ≠ some '0') : ∃ t : NumberText, t.WellFormed ∧
      t.chars = (if d.isNegative then ['-'] else []) ++ layout s x ∧
      (t.fraction.isSome || t.exponent.isSome) ∧ t.nearest = d := by
  obtain ⟨t, hnegative, hchars, hwell, hnotWhole, k, hvalue, hscale⟩ :=
    exists_laysOut d.isNegative hs hhead x
  refine ⟨t, hwell, hchars, hnotWhole, ?_⟩
  have hten : (10 : ℚ) ≠ 0 := by norm_num
  rw [← hscale, zpow_add₀ hten, zpow_natCast, ← mul_assoc] at hholds
  have hsame : d.interval.Holds (digitsValue t.digits * 10 ^ t.scale) := by
    rw [hvalue]
    exact_mod_cast hholds
  rw [NumberText.nearest, hnegative, ofDecimal_of_holds hfinite hd hsame, ofMagnitude_magnitudeBits]

theorem exists_numberText_zero (hd : d.isZero) : ∃ t : NumberText, t.WellFormed ∧
    t.chars = (if d.isNegative then ['-'] else []) ++ ['0', '.', '0'] ∧
    (t.fraction.isSome || t.exponent.isSome) ∧ t.nearest = d := by
  have hfraction : ∀ digits ∈ some ['0'], IsDigits digits := by
    rintro _ ⟨⟩
    exact isDigits_zero
  refine ⟨⟨d.isNegative, ['0'], some ['0'], none⟩, ⟨isDigits_zero, .inl rfl, hfraction, by simp⟩,
    rfl, rfl, ?_⟩
  have hself := ofMagnitude_magnitudeBits d
  rwa [show d.magnitudeBits = 0 by simpa [isZero] using hd] at hself

theorem toList_text (d : Double) : d.text.toList = (if d.isNegative then ['-'] else []) ++
    (if d.isZero then ['0', '.', '0'] else layout d.shortestDigits.1 d.shortestDigits.2) := by
  rw [text, String.toList_ofList]
  cases d.isNegative <;> rfl

/-- The text of a finite double is read back as the double when no digit is dropped. -/
theorem exists_numberText (h : d.isFinite) : ∃ t : NumberText, t.WellFormed ∧
    t.chars = d.text.toList ∧ (t.fraction.isSome || t.exponent.isSome) ∧ t.nearest = d := by
  rw [toList_text]
  by_cases hd : d.isZero
  · rw [if_pos hd]
    exact exists_numberText_zero hd
  · rw [if_neg hd]
    have hzero : d.isZero = false := by simpa using hd
    obtain ⟨hholds, hs, hhead⟩ := holds_shortestDigits hzero
    exact exists_numberText_layout h hzero hholds hs hhead

end Double

namespace JsonNumber

theorem exists_numberText_natural (n : UInt64) : ∃ t : NumberText, t.WellFormed ∧
    t.chars = (natural n).text.toList ∧ t.exact = .natural n := by
  have hzero : Nat.toDigits 10 n.toNat = ['0'] ∨ (Nat.toDigits 10 n.toNat).head? ≠ some '0' := by
    rcases Nat.eq_zero_or_pos n.toNat with h | h
    · exact .inl (by rw [h]; rfl)
    · exact .inr (head?_toDigits h)
  refine ⟨⟨false, Nat.toDigits 10 n.toNat, none, none⟩,
    ⟨isDigits_toDigits _, hzero, by simp, by simp⟩, ?_, ?_⟩
  · rw [text, Nat.toString_eq_ofList_toDigits]
    simp [chars, fractionChars, exponentChars]
  · have hlt : n.toNat < UInt64.size := n.toNat_lt
    simp [exact, digitsValue_toDigits, hlt]

theorem exists_numberText_negative {i : Int64} (h : i < 0) : ∃ t : NumberText, t.WellFormed ∧
    t.chars = (negative i).text.toList ∧ t.exact = .negative i := by
  have hneg : i.toInt < 0 := Int64.lt_iff_toInt_lt.1 h
  have hleast : -0x8000000000000000 ≤ i.toInt := i.le_toInt
  obtain ⟨m, hm⟩ := Int.eq_negSucc_of_lt_zero hneg
  refine ⟨⟨true, Nat.toDigits 10 (m + 1), none, none⟩,
    ⟨isDigits_toDigits _, .inr (head?_toDigits (Nat.succ_pos m)), by simp, by simp⟩, ?_, ?_⟩
  · have htext : (negative i).text = "-" ++ Nat.repr (m + 1) := by
      rw [text, hm]
      rfl
    rw [htext, Nat.repr_eq_ofList_toDigits]
    simp [chars, fractionChars, exponentChars]
  · have hle : m + 1 ≤ 0x8000000000000000 := by omega
    have hself : Int64.ofInt (-(m + 1 : Nat)) = i := by
      rw [← Int64.ofInt_toInt i, hm]
      rfl
    have hpos : 0 < m + 1 := Nat.succ_pos m
    simp only [exact, digitsValue_toDigits, hle, hpos, hself, Option.isSome_none, Bool.or_self,
      Bool.not_true, Bool.false_and, Bool.true_and, decide_true, Bool.false_eq_true, if_false,
      if_true]

/-- The text of a number is read back as the number. -/
theorem exists_numberText {n : JsonNumber} (h : n.isProper) : ∃ t : NumberText, t.WellFormed ∧
    t.chars = n.text.toList ∧ t.exact = n := by
  cases n with
  | natural n => exact exists_numberText_natural n
  | negative i => exact exists_numberText_negative (of_decide_eq_true h)
  | decimal d =>
    have hfinite : d.isFinite := h
    obtain ⟨t, hwell, hchars, hnotWhole, hnearest⟩ := Double.exists_numberText hfinite
    refine ⟨t, hwell, ?_, ?_⟩
    · rw [hchars, text, if_pos hfinite]
    · rw [exact, if_pos hnotWhole, hnearest]

end JsonNumber

end Reshape
