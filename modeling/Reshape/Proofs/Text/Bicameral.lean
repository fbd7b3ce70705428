import Mathlib.Data.List.Basic
import Reshape.Text.Alphanumeric
import Reshape.Text.Case
import Reshape.Text.Cluster

namespace Reshape.Text

/-- Whether the character makes up a cluster with none that stands beside it. -/
def Alone (c : Char) : Prop := isAttached c = false ∧ isPrepended c = false

/-- A capital and its small letter, which turn into one another wherever they stand. -/
structure Bicameral (capital small : Char) : Prop where
  ne : capital ≠ small
  ne_sigma : capital ≠ 'Σ'
  upper_capital : upper capital = [capital]
  upper_small : upper small = [capital]
  lower_capital : lower capital = [small]
  lower_small : lower small = [small]
  alphanumeric : isAlphanumeric capital ∧ isAlphanumeric small
  alone : Alone capital ∧ Alone small

def Capital (c : Char) : Prop := ∃ small, Bicameral c small

def Small (c : Char) : Prop := ∃ capital, Bicameral capital c

def Plain (c : Char) : Prop := c.isDigit ∨ Capital c ∨ Small c

instance (c : Char) : Decidable (Alone c) :=
  inferInstanceAs (Decidable (isAttached c = false ∧ isPrepended c = false))

variable {capital small c : Char} {s t : List Char}

instance : Decidable (Bicameral capital small) :=
  decidable_of_iff (capital ≠ small ∧ capital ≠ 'Σ' ∧ upper capital = [capital] ∧
      upper small = [capital] ∧ lower capital = [small] ∧ lower small = [small] ∧
      (isAlphanumeric capital ∧ isAlphanumeric small) ∧ Alone capital ∧ Alone small)
    ⟨fun ⟨h₁, h₂, h₃, h₄, h₅, h₆, h₇, h₈⟩ ↦ ⟨h₁, h₂, h₃, h₄, h₅, h₆, h₇, h₈⟩,
      fun ⟨h₁, h₂, h₃, h₄, h₅, h₆, h₇, h₈⟩ ↦ ⟨h₁, h₂, h₃, h₄, h₅, h₆, h₇, h₈⟩⟩

theorem capital_iff : Capital c ↔ Bicameral c ((lower c).headD c) := by
  refine ⟨fun ⟨small, h⟩ ↦ ?_, fun h ↦ ⟨_, h⟩⟩
  rwa [h.lower_capital]

theorem small_iff : Small c ↔ Bicameral ((upper c).headD c) c := by
  refine ⟨fun ⟨capital, h⟩ ↦ ?_, fun h ↦ ⟨_, h⟩⟩
  rwa [h.upper_small]

instance : Decidable (Capital c) := decidable_of_iff _ capital_iff.symm

instance : Decidable (Small c) := decidable_of_iff _ small_iff.symm

instance : Decidable (Plain c) := inferInstanceAs (Decidable (_ ∨ _ ∨ _))

theorem of_isDigit {P : Char → Prop} [DecidablePred P] (h : "0123456789".toList.all (P ·))
    (hc : c.isDigit) : P c := by
  have hbounds : 48 ≤ c.toNat ∧ c.toNat ≤ 57 := by
    simpa [Char.isDigit, UInt32.le_iff_toNat_le] using hc
  have hcodes : ∀ n ∈ List.range' 48 10, Char.ofNat n ∈ "0123456789".toList := by decide
  have hdigit := hcodes c.toNat (List.mem_range'_1.2 (by omega))
  rw [Char.ofNat_toNat] at hdigit
  exact of_decide_eq_true (List.all_eq_true.1 h c hdigit)

theorem upper_of_isDigit (h : c.isDigit) : upper c = [c] :=
  of_isDigit (P := fun c ↦ upper c = [c]) (by decide +kernel) h

theorem lower_of_isDigit (h : c.isDigit) : lower c = [c] :=
  of_isDigit (P := fun c ↦ lower c = [c]) (by decide +kernel) h

namespace Bicameral

variable (h : Bicameral capital small)
include h

theorem not_isDigit_capital : ¬ capital.isDigit := by
  intro hdigit
  have hlower := lower_of_isDigit hdigit
  rw [h.lower_capital] at hlower
  exact h.ne (List.singleton_inj.1 hlower).symm

theorem not_isDigit_small : ¬ small.isDigit := by
  intro hdigit
  have hupper := upper_of_isDigit hdigit
  rw [h.upper_small] at hupper
  exact h.ne (List.singleton_inj.1 hupper)

theorem small_ne_sigma : small ≠ 'Σ' := by
  rintro rfl
  have hsigma : lower 'Σ' ≠ ['Σ'] := by decide +kernel
  exact hsigma h.lower_small

end Bicameral

namespace Plain

theorem ne_sigma (h : Plain c) : c ≠ 'Σ' := by
  rcases h with h | ⟨small, h⟩ | ⟨capital, h⟩
  · rintro rfl
    exact absurd h (by decide)
  · exact h.ne_sigma
  · exact h.small_ne_sigma

theorem alphanumeric (h : Plain c) : isAlphanumeric c := by
  rcases h with h | ⟨small, h⟩ | ⟨capital, h⟩
  · exact of_isDigit (P := fun c ↦ isAlphanumeric c) (by decide) h
  · exact h.alphanumeric.1
  · exact h.alphanumeric.2

theorem alone (h : Plain c) : Alone c := by
  rcases h with h | ⟨small, h⟩ | ⟨capital, h⟩
  · exact of_isDigit (P := Alone) (by decide +kernel) h
  · exact h.alone.1
  · exact h.alone.2

theorem ne_space (h : Plain c) : c ≠ ' ' := by
  rintro rfl
  exact absurd h.alphanumeric (by decide)

end Plain

/-- Characters that stand alone are clusters. -/
theorem clusters_of_alone (h : ∀ c ∈ s, Alone c) : clusters s = s.map ([·]) := by
  induction s with
  | nil => rfl
  | cons c rest ih =>
    obtain ⟨hc, hrest⟩ := List.forall_mem_cons.1 h
    cases rest with
    | nil => rfl
    | cons next rest =>
      have hnext := (List.forall_mem_cons.1 hrest).1
      rw [clusters, ih hrest]
      simp [hnext.1, hc.2]

def AllPlain (s : List Char) : Prop := ∀ c ∈ s, Plain c

theorem allPlain_append : AllPlain (s ++ t) ↔ AllPlain s ∧ AllPlain t := List.forall_mem_append

theorem lowerCase_of_plain (h : AllPlain s) : lowerCase s = s.flatMap lower := by
  have hafter (before : List Char) : lowerAfter before s = s.flatMap lower := by
    induction s generalizing before with
    | nil => rfl
    | cons c rest ih =>
      obtain ⟨hc, hrest⟩ := List.forall_mem_cons.1 h
      rw [lowerAfter, if_neg hc.ne_sigma, ih hrest, List.flatMap_cons]
  exact hafter []

theorem lowerCase_append (hs : AllPlain s) (ht : AllPlain t) :
    lowerCase (s ++ t) = lowerCase s ++ lowerCase t := by
  rw [lowerCase_of_plain (allPlain_append.2 ⟨hs, ht⟩), lowerCase_of_plain hs,
    lowerCase_of_plain ht, List.flatMap_append]

theorem upperCase_singleton (c : Char) : upperCase [c] = upper c := List.append_nil _

theorem Plain.lowerCase_singleton (h : Plain c) : lowerCase [c] = lower c := by
  rw [lowerCase_of_plain (List.forall_mem_singleton.2 h)]
  exact List.append_nil _

namespace Capital

theorem plain (h : Capital c) : Plain c := .inr (.inl h)

theorem not_isDigit (h : Capital c) : c.isDigit = false := by
  obtain ⟨small, h⟩ := h
  simpa using h.not_isDigit_capital

theorem isUpper (h : Capital c) : isUpper [c] = true := by
  have hlower := h.plain.lowerCase_singleton
  obtain ⟨small, h⟩ := h
  simp [Text.isUpper, hlower, upperCase_singleton, h.upper_capital, h.lower_capital, h.ne]

theorem isLower (h : Capital c) : isLower [c] = false := by
  have hlower := h.plain.lowerCase_singleton
  obtain ⟨small, h⟩ := h
  simp [Text.isLower, hlower, h.lower_capital, h.ne.symm]

end Capital

namespace Small

theorem plain (h : Small c) : Plain c := .inr (.inr h)

theorem not_isDigit (h : Small c) : c.isDigit = false := by
  obtain ⟨capital, h⟩ := h
  simpa using h.not_isDigit_small

theorem isUpper (h : Small c) : isUpper [c] = false := by
  obtain ⟨capital, h⟩ := h
  simp [Text.isUpper, upperCase_singleton, h.upper_small, h.ne]

theorem isLower (h : Small c) : isLower [c] = true := by
  have hlower := h.plain.lowerCase_singleton
  obtain ⟨capital, h⟩ := h
  simp [Text.isLower, hlower, upperCase_singleton, h.upper_small, h.lower_small, h.ne]

end Small

theorem isUpper_of_isDigit (h : c.isDigit) : isUpper [c] = false := by
  have hlower := (show Plain c from .inl h).lowerCase_singleton
  simp [isUpper, hlower, upperCase_singleton, upper_of_isDigit h, lower_of_isDigit h]

theorem isLower_of_isDigit (h : c.isDigit) : isLower [c] = false := by
  have hlower := (show Plain c from .inl h).lowerCase_singleton
  simp [isLower, hlower, upperCase_singleton, upper_of_isDigit h, lower_of_isDigit h]

/-- Raising a letter does not change what it is lowered to. -/
theorem Plain.exists_upper (h : Plain c) : ∃ d, upper c = [d] ∧ Plain d ∧ lower d = lower c := by
  rcases h with h | ⟨small, h⟩ | ⟨capital, h⟩
  · exact ⟨c, upper_of_isDigit h, .inl h, rfl⟩
  · exact ⟨c, h.upper_capital, .inr (.inl ⟨small, h⟩), rfl⟩
  · exact ⟨capital, h.upper_small, .inr (.inl ⟨c, h⟩), h.lower_capital.trans h.lower_small.symm⟩

theorem Plain.exists_lower (h : Plain c) :
    ∃ d, lower c = [d] ∧ Plain d ∧ lower d = [d] ∧ d.isDigit = c.isDigit := by
  rcases h with h | h | h
  · exact ⟨c, lower_of_isDigit h, .inl h, lower_of_isDigit h, rfl⟩
  · have hdigit := h.not_isDigit
    obtain ⟨small, h⟩ := h
    have hsmall : Small small := ⟨c, h⟩
    exact ⟨small, h.lower_capital, hsmall.plain, h.lower_small,
      hsmall.not_isDigit.trans hdigit.symm⟩
  · have hplain := h.plain
    obtain ⟨capital, h⟩ := h
    exact ⟨c, h.lower_small, hplain, h.lower_small, rfl⟩

theorem lowerCase_cons (h : AllPlain (c :: s)) : ∃ d, lower c = [d] ∧ lower d = [d] ∧
    lowerCase (c :: s) = d :: lowerCase s ∧ d.isDigit = c.isDigit ∧ Plain d := by
  obtain ⟨hc, hw⟩ := List.forall_mem_cons.1 h
  obtain ⟨d, hd, hplain, hlower, hdigit⟩ := hc.exists_lower
  refine ⟨d, hd, hlower, ?_, hdigit, hplain⟩
  rw [lowerCase_of_plain h, lowerCase_of_plain hw, List.flatMap_cons, hd]
  rfl

theorem allPlain_lowerCase (h : AllPlain s) : AllPlain (lowerCase s) := by
  induction s with
  | nil => exact h
  | cons c s ih =>
    obtain ⟨d, -, -, hcons, -, hplain⟩ := lowerCase_cons h
    rw [hcons]
    exact List.forall_mem_cons.2 ⟨hplain, ih (List.forall_mem_cons.1 h).2⟩

theorem lowerCase_lowerCase (h : AllPlain s) : lowerCase (lowerCase s) = lowerCase s := by
  induction s with
  | nil => rfl
  | cons c s ih =>
    obtain ⟨d, -, hlower, hcons, -, hplain⟩ := lowerCase_cons h
    have hw := (List.forall_mem_cons.1 h).2
    obtain ⟨e, he, -, hagain, -⟩ :=
      lowerCase_cons (List.forall_mem_cons.2 ⟨hplain, allPlain_lowerCase hw⟩)
    rw [hlower, List.singleton_inj] at he
    rw [hcons, hagain, ih hw, he]

theorem length_lowerCase (h : AllPlain s) : (lowerCase s).length = s.length := by
  induction s with
  | nil => rfl
  | cons c s ih =>
    obtain ⟨d, -, -, hcons, -⟩ := lowerCase_cons h
    rw [hcons, List.length_cons, ih (List.forall_mem_cons.1 h).2, List.length_cons]

end Reshape.Text
