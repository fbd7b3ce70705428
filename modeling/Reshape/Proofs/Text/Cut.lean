import Mathlib.Data.List.Infix
import Reshape.Text.Split

namespace Reshape.Text

variable {sep s t l r : List Char}

/-- What does not hold a character stands on one side of it. -/
theorem isInfix_or_isInfix {c : Char} (hc : c ∉ t) (h : t <:+: l ++ c :: r) :
    t <:+: l ∨ t <:+: r := by
  obtain ⟨a, b, h⟩ := h
  rw [List.append_assoc, List.append_eq_append_iff] at h
  rcases h with ⟨u, rfl, hu⟩ | ⟨u, rfl, hu⟩
  · rcases List.append_eq_append_iff.1 hu with ⟨v, rfl, -⟩ | ⟨v, rfl, hv⟩
    · exact .inl ⟨a, v, by simp⟩
    · cases v with
      | nil => exact .inl ⟨a, [], by simp⟩
      | cons d v => exact absurd (by simp [(List.cons.inj hv).1]) hc
  · cases u with
    | nil =>
      cases t with
      | nil => exact .inl List.nil_infix
      | cons d t => exact absurd (by simp [(List.cons.inj hu).1]) hc
    | cons d u => exact .inr ⟨u, b, by simpa using (List.cons.inj hu).2.symm⟩

theorem splitOnce_eq_none_iff (hsep : sep ≠ []) : splitOnce sep s = none ↔ ¬ sep <:+: s := by
  induction s with
  | nil => simp [splitOnce, hsep]
  | cons c cs ih =>
    by_cases h : sep <+: c :: cs
    · simp [splitOnce, h, h.isInfix]
    · simp [splitOnce, h, ih, List.infix_cons_iff]

theorem contains_iff (hsep : sep ≠ []) : contains sep s ↔ sep <:+: s := by
  rw [contains, Option.isSome_iff_ne_none, ne_eq, splitOnce_eq_none_iff hsep, not_not]

/-- A text is cut at an occurrence of the separator, before which there is no other. -/
theorem eq_of_splitOnce (hsep : sep ≠ []) (h : splitOnce sep s = some (l, r)) :
    s = l ++ sep ++ r ∧ ¬ sep <:+: l := by
  induction s generalizing l r with
  | nil => simp [splitOnce, hsep] at h
  | cons c cs ih =>
    by_cases hp : sep <+: c :: cs
    · simp only [splitOnce, List.isPrefixOf_iff_prefix.2 hp, if_true, Option.some.injEq,
        Prod.mk.injEq] at h
      obtain ⟨rfl, rfl⟩ := h
      exact ⟨by simpa using (List.prefix_append_drop hp), by simpa using hsep⟩
    · simp only [splitOnce, List.isPrefixOf_iff_prefix, hp, if_false, Option.map_eq_some_iff] at h
      obtain ⟨⟨l', r'⟩, hcut, heq⟩ := h
      obtain ⟨rfl, rfl⟩ := Prod.mk.inj heq
      obtain ⟨rfl, hfirst⟩ := ih hcut
      refine ⟨by simp, fun hin ↦ ?_⟩
      rcases List.infix_cons_iff.1 hin with hin | hin
      · exact hp (hin.trans (by simp))
      · exact hfirst hin

/-- Where the first character of the separator does not come again in it, the first occurrence is
the one that nothing before contains. -/
theorem splitOnce_append {a : Char} {sep : List Char} (ha : a ∉ sep) (hl : ¬ a :: sep <:+: l) :
    splitOnce (a :: sep) (l ++ (a :: sep) ++ r) = some (l, r) := by
  induction l with
  | nil => simp [splitOnce]
  | cons c cs ih =>
    have hcs : ¬ a :: sep <:+: cs := fun h ↦ hl (List.infix_cons h)
    have hp : ¬ a :: sep <+: c :: (cs ++ (a :: sep) ++ r) := by
      intro h
      have hc : c :: cs <+: c :: (cs ++ (a :: sep) ++ r) := ⟨(a :: sep) ++ r, by simp⟩
      rcases List.prefix_or_prefix_of_prefix h hc with h | ⟨u, hu⟩
      · exact hl h.isInfix
      · obtain ⟨rest, hrest⟩ := h
        cases u with
        | nil => exact hl ⟨[], [], by simpa using hu.symm⟩
        | cons b u =>
          have hb : b :: (u ++ rest) = a :: (sep ++ r) := by
            refine (List.append_right_inj (c :: cs)).1 ?_
            calc c :: cs ++ b :: (u ++ rest) = (c :: cs ++ b :: u) ++ rest := by simp
              _ = c :: (cs ++ (a :: sep) ++ r) := by rw [hu, hrest]
              _ = c :: cs ++ a :: (sep ++ r) := by simp
          obtain ⟨rfl, -⟩ := List.cons.inj hb
          obtain ⟨-, hsep⟩ := List.cons.inj hu
          exact ha (hsep ▸ by simp)
    rw [List.cons_append, List.cons_append, splitOnce,
      if_neg (by rwa [List.isPrefixOf_iff_prefix]), ih hcs]
    rfl

/-- What cannot hold the beginning of the separator moves no cut. -/
theorem splitOnce_append_left {a : Char} {sep : List Char} (ha : a ∉ l) :
    splitOnce (a :: sep) (l ++ s) = (splitOnce (a :: sep) s).map (Prod.map (l ++ ·) id) := by
  induction l with
  | nil =>
    rw [List.nil_append]
    cases splitOnce (a :: sep) s <;> rfl
  | cons c cs ih =>
    obtain ⟨hc, hcs⟩ := not_or.1 (mt List.mem_cons.2 ha)
    have hp : ¬ a :: sep <+: c :: (cs ++ s) := fun h ↦ hc (List.cons_prefix_cons.1 h).1
    rw [List.cons_append, splitOnce, if_neg (by rwa [List.isPrefixOf_iff_prefix]), ih hcs,
      Option.map_map]
    rfl

theorem splitOnce_char {c : Char} (h : c ∉ l) : splitOnce [c] (l ++ c :: r) = some (l, r) := by
  have hnot : ¬ [c] <:+: l := by simpa [List.singleton_infix_iff] using h
  simpa using splitOnce_append (r := r) (List.not_mem_nil (a := c)) hnot

end Reshape.Text
