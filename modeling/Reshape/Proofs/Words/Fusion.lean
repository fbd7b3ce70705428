import Mathlib.Data.List.Chain
import Reshape.Proofs.Text.Bicameral
import Reshape.Words

namespace Reshape.Words

open Text

/-- Words between which no boundary is left once they are raised and put together: two numbers, or
two single letters. -/
def Fuses (a b : List Char) : Prop :=
  isDigits a ∧ isDigits b ∨ (a.length = 1 ∧ ¬ isDigits a) ∧ b.length = 1 ∧ ¬ isDigits b

instance (a b : List Char) : Decidable (Fuses a b) := inferInstanceAs (Decidable (_ ∨ _))

def putBefore (word : List Char) : List (List Char) → List (List Char)
  | [] => [word]
  | first :: others => (word ++ first) :: others

def fused : List (List Char) → List (List Char)
  | [] => []
  | [word] => [word]
  | word :: next :: rest =>
    if Fuses word next then putBefore word (fused (next :: rest)) else word :: fused (next :: rest)

def Kept (ws : List (List Char)) : Prop := [] ∉ ws ∧ ws.IsChain fun a b ↦ ¬ Fuses a b

instance (ws : List (List Char)) : Decidable (Kept ws) := inferInstanceAs (Decidable (_ ∧ _))

variable {a b v w : List Char} {vs ws : List (List Char)} {c : Char} {s t : List Char}

theorem putBefore_ne_nil (word : List Char) (ws : List (List Char)) : putBefore word ws ≠ [] := by
  cases ws <;> simp [putBefore]

theorem length_putBefore (hne : ws ≠ []) : (putBefore w ws).length = ws.length := by
  cases ws with
  | nil => exact absurd rfl hne
  | cons first others => rfl

theorem fused_ne_nil (w : List Char) (ws : List (List Char)) : fused (w :: ws) ≠ [] := by
  cases ws with
  | nil => simp [fused]
  | cons next rest =>
    rw [fused]
    split
    · exact putBefore_ne_nil w _
    · simp

theorem flatten_putBefore (w : List Char) (ws : List (List Char)) :
    (putBefore w ws).flatten = w ++ ws.flatten := by
  cases ws <;> simp [putBefore]

theorem flatten_fused (ws : List (List Char)) : (fused ws).flatten = ws.flatten := by
  induction ws using fused.induct with
  | case1 => rfl
  | case2 word => rfl
  | case3 word next rest h ih =>
    rw [fused, if_pos h, flatten_putBefore, ih]
    rfl
  | case4 word next rest h ih =>
    rw [fused, if_neg h, List.flatten_cons, ih]
    rfl

theorem length_fused_le (ws : List (List Char)) : (fused ws).length ≤ ws.length := by
  induction ws using fused.induct with
  | case1 => simp [fused]
  | case2 word => simp [fused]
  | case3 word next rest h ih =>
    rw [fused, if_pos h, length_putBefore (fused_ne_nil next rest)]
    exact ih.trans (Nat.le_succ _)
  | case4 word next rest h ih =>
    rw [fused, if_neg h]
    exact Nat.succ_le_succ ih

theorem fused_of_isChain (h : ws.IsChain fun a b ↦ ¬ Fuses a b) : fused ws = ws := by
  induction ws using fused.induct with
  | case1 => rfl
  | case2 word => rfl
  | case3 word next rest hfuses ih => exact absurd hfuses (List.isChain_cons_cons.1 h).1
  | case4 word next rest hfuses ih =>
    rw [fused, if_neg hfuses, ih (List.isChain_cons_cons.1 h).2]

/-- Putting words together leaves fewer of them. -/
theorem isChain_of_length_fused (h : (fused ws).length = ws.length) :
    ws.IsChain fun a b ↦ ¬ Fuses a b := by
  induction ws using fused.induct with
  | case1 => simp
  | case2 word => simp
  | case3 word next rest hfuses ih =>
    have hle := length_fused_le (next :: rest)
    rw [fused, if_pos hfuses, length_putBefore (fused_ne_nil next rest), List.length_cons] at h
    omega
  | case4 word next rest hfuses ih =>
    rw [fused, if_neg hfuses, List.length_cons, List.length_cons, Nat.add_right_cancel_iff] at h
    exact List.isChain_cons_cons.2 ⟨hfuses, ih h⟩

theorem kept_of_length (h : (fused (ws.filter (· ≠ []))).length = ws.length) : Kept ws := by
  have hfused := length_fused_le (ws.filter (· ≠ []))
  have hfilter := List.length_filter_le (· ≠ []) ws
  have hne : ∀ w ∈ ws, decide (w ≠ []) = true :=
    List.length_filter_eq_length_iff.1 (by omega)
  rw [List.filter_eq_self.2 hne] at h
  refine ⟨fun hnil ↦ ?_, isChain_of_length_fused h⟩
  simpa using hne [] hnil

theorem allPlain_fused (h : ∀ w ∈ ws, AllPlain w) : ∀ w ∈ fused ws, AllPlain w := by
  intro w hw c hc
  have hmem : c ∈ ws.flatten := flatten_fused ws ▸ List.mem_flatten_of_mem hw hc
  obtain ⟨word, hword, hc⟩ := List.mem_flatten.1 hmem
  exact h word hword c hc

theorem isDigits_lowerCase (h : AllPlain w) : isDigits (lowerCase w) = isDigits w := by
  induction w with
  | nil => rfl
  | cons c w ih =>
    obtain ⟨d, -, -, hcons, hdigit, -⟩ := lowerCase_cons h
    have hrest := ih (List.forall_mem_cons.1 h).2
    simp only [isDigits] at hrest
    rw [hcons, isDigits, isDigits, List.all_cons, List.all_cons, hrest, hdigit]

theorem fuses_lowerCase_iff (ha : AllPlain a) (hb : AllPlain b) :
    Fuses (lowerCase a) (lowerCase b) ↔ Fuses a b := by
  rw [Fuses, Fuses, isDigits_lowerCase ha, isDigits_lowerCase hb, length_lowerCase ha,
    length_lowerCase hb]

/-- Words can be put together before or after they are lowered. -/
theorem fused_map_lowerCase (h : ∀ w ∈ ws, AllPlain w) :
    fused (ws.map lowerCase) = (fused ws).map lowerCase := by
  induction ws using fused.induct with
  | case1 => rfl
  | case2 word => rfl
  | case3 word next rest hfuses ih =>
    obtain ⟨hword, hrest⟩ := List.forall_mem_cons.1 h
    have hnext := (List.forall_mem_cons.1 hrest).1
    have hfused := ih hrest
    rw [List.map_cons] at hfused
    rw [List.map_cons, List.map_cons, fused, if_pos ((fuses_lowerCase_iff hword hnext).2 hfuses),
      hfused, fused, if_pos hfuses]
    have hplain := allPlain_fused hrest
    cases hcases : fused (next :: rest) with
    | nil => rfl
    | cons first others =>
      rw [hcases] at hplain
      have hfirst := (List.forall_mem_cons.1 hplain).1
      simp only [putBefore, List.map_cons, lowerCase_append hword hfirst]
  | case4 word next rest hfuses ih =>
    obtain ⟨hword, hrest⟩ := List.forall_mem_cons.1 h
    have hnext := (List.forall_mem_cons.1 hrest).1
    have hfused := ih hrest
    rw [List.map_cons] at hfused
    rw [List.map_cons, List.map_cons, fused,
      if_neg fun hlower ↦ hfuses ((fuses_lowerCase_iff hword hnext).1 hlower), hfused, fused,
      if_neg hfuses, List.map_cons]

end Reshape.Words
