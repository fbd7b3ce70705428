import Mathlib.Data.List.DropRight
import Mathlib.Data.List.Infix
import Reshape.Text.Blank

namespace Reshape.Text

variable {s t before after : List Char}

def Blanks (s : List Char) : Prop := ∀ c ∈ s, isBlank c

instance (s : List Char) : Decidable (Blanks s) := List.decidableBAll _ s

@[simp] theorem blanks_nil : Blanks [] := by simp [Blanks]

@[simp] theorem blanks_append : Blanks (s ++ t) ↔ Blanks s ∧ Blanks t := by
  simp [Blanks, or_imp, forall_and]

@[simp] theorem blanks_reverse : Blanks s.reverse ↔ Blanks s := by simp [Blanks]

def Tight (s : List Char) : Prop :=
  (∀ c ∈ s.head?, ¬ isBlank c) ∧ ∀ c ∈ s.getLast?, ¬ isBlank c

instance (s : List Char) : Decidable (Tight s) :=
  decidable_of_iff (s.head?.all (!isBlank ·) ∧ s.getLast?.all (!isBlank ·))
    (by simp [Tight, Option.all_eq_true])

theorem Tight.before_eq_nil (h : Tight (before ++ s)) (hb : Blanks before) : before = [] := by
  cases before with
  | nil => rfl
  | cons c cs => exact absurd (hb c (by simp)) (h.1 c rfl)

theorem Tight.after_eq_nil (h : Tight (s ++ after)) (ha : Blanks after) : after = [] := by
  cases hlast : after.getLast? with
  | none => exact List.getLast?_eq_none_iff.1 hlast
  | some c => exact absurd (ha c (List.mem_of_getLast? hlast)) (h.2 c (by simp [hlast]))

theorem Tight.append (hs : Tight s) (hne : s ≠ []) (ht : Tight t) (hne' : t ≠ [])
    (mid : List Char) : Tight (s ++ mid ++ t) := by
  constructor
  · rw [List.append_assoc, List.head?_append_of_ne_nil _ hne]
    exact hs.1
  · rw [List.getLast?_append_of_ne_nil _ hne']
    exact ht.2

theorem trimStart_append (h : Blanks before) : trimStart (before ++ s) = trimStart s :=
  List.dropWhile_append_of_pos h

theorem trimStart_of_head (h : ∀ c ∈ s.head?, ¬ isBlank c) : trimStart s = s := by
  cases s with
  | nil => rfl
  | cons c cs => exact List.dropWhile_cons_of_neg (h c rfl)

theorem not_isBlank_head_trimStart : ∀ c ∈ (trimStart s).head?, ¬ isBlank c := by
  intro c hc
  have h := List.head?_dropWhile_not isBlank s
  rw [show (s.dropWhile isBlank).head? = some c from hc] at h
  simpa using h

theorem exists_trimStart (s : List Char) :
    ∃ before, Blanks before ∧ s = before ++ trimStart s :=
  ⟨s.takeWhile isBlank, fun _ ↦ List.mem_takeWhile_imp, List.takeWhile_append_dropWhile.symm⟩

theorem trimEnd_eq (s : List Char) : trimEnd s = (trimStart s.reverse).reverse := rfl

theorem trimEnd_append (h : Blanks after) : trimEnd (s ++ after) = trimEnd s := by
  rw [trimEnd_eq, List.reverse_append, trimStart_append (by simpa using h), trimEnd_eq]

theorem trimEnd_of_getLast (h : ∀ c ∈ s.getLast?, ¬ isBlank c) : trimEnd s = s := by
  rw [trimEnd_eq, trimStart_of_head (by simpa using h), List.reverse_reverse]

theorem not_isBlank_getLast_trimEnd : ∀ c ∈ (trimEnd s).getLast?, ¬ isBlank c := by
  rw [trimEnd_eq, List.getLast?_reverse]
  exact not_isBlank_head_trimStart

theorem exists_trimEnd (s : List Char) :
    ∃ after, Blanks after ∧ s = trimEnd s ++ after := by
  obtain ⟨before, hblank, h⟩ := exists_trimStart s.reverse
  refine ⟨before.reverse, by simpa using hblank, ?_⟩
  calc s = s.reverse.reverse := s.reverse_reverse.symm
    _ = (before ++ trimStart s.reverse).reverse := by rw [← h]
    _ = trimEnd s ++ before.reverse := List.reverse_append

/-- Trimming takes away the blanks around a text and nothing else. -/
theorem trim_eq (hb : Blanks before) (ha : Blanks after) (h : Tight s) :
    trim (before ++ s ++ after) = s := by
  rw [trim, trimEnd_append ha]
  by_cases hs : s = []
  · have hall : trimEnd before = [] := trimEnd_append (s := []) hb
    simp [hs, hall, trimStart]
  · have hlast : ∀ c ∈ (before ++ s).getLast?, ¬ isBlank c := by
      rw [List.getLast?_append_of_ne_nil _ hs]
      exact h.2
    rw [trimEnd_of_getLast hlast, trimStart_append hb, trimStart_of_head h.1]

theorem trim_blanks_append (hb : Blanks before) (h : Tight s) : trim (before ++ s) = s := by
  simpa using trim_eq hb blanks_nil h

theorem trim_append_blanks (h : Tight s) (ha : Blanks after) : trim (s ++ after) = s := by
  simpa using trim_eq blanks_nil ha h

theorem exists_trim (s : List Char) :
    ∃ before after, Blanks before ∧ Blanks after ∧
      s = before ++ trim s ++ after := by
  obtain ⟨after, ha, hafter⟩ := exists_trimEnd s
  obtain ⟨before, hb, hbefore⟩ := exists_trimStart (trimEnd s)
  exact ⟨before, after, hb, ha, hafter.trans (congrArg (· ++ after) hbefore)⟩

theorem tight_trim (s : List Char) : Tight (trim s) := by
  refine ⟨not_isBlank_head_trimStart, ?_⟩
  obtain ⟨before, -, hbefore⟩ := exists_trimStart (trimEnd s)
  intro c hc
  have hne : trimStart (trimEnd s) ≠ [] := by
    rintro h
    simp [trim, h] at hc
  apply not_isBlank_getLast_trimEnd (s := s) c
  rwa [hbefore, List.getLast?_append_of_ne_nil _ hne]

theorem trim_append_of_blanks (hb : Blanks before) (s : List Char) :
    trim (before ++ s) = trim s := by
  obtain ⟨before', after, hb', ha, hs⟩ := exists_trim s
  have hall : before ++ s = before ++ before' ++ trim s ++ after := by
    conv_lhs => rw [hs]
    simp
  rw [hall, trim_eq (blanks_append.2 ⟨hb, hb'⟩) ha (tight_trim s)]

theorem trim_eq_nil_iff : trim s = [] ↔ Blanks s := by
  constructor
  · intro h
    obtain ⟨before, after, hb, ha, hs⟩ := exists_trim s
    rw [hs, h]
    simpa using ⟨hb, ha⟩
  · intro h
    simpa using trim_eq h blanks_nil (by simp [Tight] : Tight [])

theorem trim_append_tight (hne : t ≠ []) (ht : Tight t) (a b : List Char) :
    trim (a ++ t ++ b) = trimStart a ++ t ++ trimEnd b := by
  obtain ⟨before, hb, ha⟩ := exists_trimStart a
  obtain ⟨after, haf, hbt⟩ := exists_trimEnd b
  have hall : a ++ t ++ b = before ++ (trimStart a ++ t ++ trimEnd b) ++ after := by
    conv_lhs => rw [ha, hbt]
    simp
  rw [hall]
  refine trim_eq hb haf ⟨?_, ?_⟩
  · by_cases h : trimStart a = []
    · simpa [h, List.head?_append_of_ne_nil _ hne] using ht.1
    · rw [List.append_assoc, List.head?_append_of_ne_nil _ h]
      exact not_isBlank_head_trimStart
  · by_cases h : trimEnd b = []
    · simpa [h, List.getLast?_append_of_ne_nil _ hne] using ht.2
    · rw [List.getLast?_append_of_ne_nil _ h]
      exact not_isBlank_getLast_trimEnd

theorem trim_isInfix (s : List Char) : trim s <:+: s := by
  obtain ⟨before, after, -, -, hs⟩ := exists_trim s
  exact ⟨before, after, hs.symm⟩

theorem isInfix_trim (hne : t ≠ []) (ht : Tight t) (h : t <:+: s) : t <:+: trim s := by
  obtain ⟨a, b, rfl⟩ := h
  exact ⟨trimStart a, trimEnd b, (trim_append_tight hne ht a b).symm⟩

end Reshape.Text
