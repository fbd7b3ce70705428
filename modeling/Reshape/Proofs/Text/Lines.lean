import Mathlib.Data.List.Chain
import Reshape.Proofs.Text.Trim
import Reshape.Text.Split

namespace Reshape.Text

variable {sep : Char} {s t raw text piece : List Char} {pieces : List (List Char)}

theorem splitOn_of_not_mem (h : sep ∉ s) : splitOn sep s = (s, []) := by
  induction s with
  | nil => rfl
  | cons c cs ih =>
    have hc : c ≠ sep := fun he ↦ h (he ▸ List.mem_cons_self)
    have hcs : sep ∉ cs := fun hmem ↦ h (List.mem_cons_of_mem c hmem)
    simp [splitOn, hc, ih hcs]

theorem splitOn_append (h : sep ∉ s) (t : List Char) :
    splitOn sep (s ++ sep :: t) = (s, (splitOn sep t).1 :: (splitOn sep t).2) := by
  induction s with
  | nil => simp [splitOn]
  | cons c cs ih =>
    have hc : c ≠ sep := fun he ↦ h (he ▸ List.mem_cons_self)
    have hcs : sep ∉ cs := fun hmem ↦ h (List.mem_cons_of_mem c hmem)
    simp [splitOn, hc, ih hcs]

theorem splitOn_joinWith (h : ∀ p ∈ piece :: pieces, sep ∉ p) :
    splitOn sep (joinWith sep piece pieces) = (piece, pieces) := by
  induction pieces generalizing piece with
  | nil => exact splitOn_of_not_mem (h piece List.mem_cons_self)
  | cons next rest ih =>
    obtain ⟨hpiece, hrest⟩ := List.forall_mem_cons.1 h
    rw [joinWith, splitOn_append hpiece, ih hrest]

theorem not_mem_of_mem_splitOn (h : piece ∈ (splitOn sep s).1 :: (splitOn sep s).2) :
    sep ∉ piece := by
  induction s generalizing piece with
  | nil =>
    obtain rfl : piece = [] := by simpa [splitOn] using h
    exact List.not_mem_nil
  | cons c cs ih =>
    by_cases hc : c = sep
    · simp only [splitOn, hc, if_true, List.mem_cons] at h
      rcases h with rfl | h
      · exact List.not_mem_nil
      · exact ih (List.mem_cons.2 h)
    · simp only [splitOn, hc, if_false, List.mem_cons] at h
      rcases h with rfl | h
      · have hfirst := ih List.mem_cons_self
        simp [Ne.symm hc, hfirst]
      · exact ih (List.mem_cons_of_mem _ h)

theorem dropReturn_prefix_line (line : List Char) : dropReturn line <+: line := by
  unfold dropReturn
  split
  · exact List.dropLast_prefix line
  · exact List.prefix_rfl

theorem dropReturn_concat (line : List Char) : dropReturn (line ++ ['\r']) = line := by
  simp [dropReturn]

/-- A carriage return is a blank, so it makes no difference whether the ending of a line has one. -/
theorem trim_dropReturn (line : List Char) : trim (dropReturn line) = trim line := by
  by_cases h : line.getLast? = some '\r'
  · obtain ⟨init, rfl⟩ := List.getLast?_eq_some_iff.1 h
    have hblank : Blanks ['\r'] := by simp [Blanks, isBlank]
    rw [dropReturn_concat, trim, trim, trimEnd_append hblank]
  · rw [dropReturn, if_neg h]

theorem exists_piece_of_mem_endedLines (h : raw ∈ endedLines piece pieces) :
    ∃ p ∈ piece :: pieces, raw <+: p := by
  induction pieces generalizing piece with
  | nil =>
    have hraw : piece ≠ [] ∧ raw = piece := by simpa [endedLines] using h
    exact ⟨piece, List.mem_cons_self, hraw.2 ▸ List.prefix_rfl⟩
  | cons next rest ih =>
    rcases List.mem_cons.1 h with rfl | h
    · exact ⟨piece, List.mem_cons_self, dropReturn_prefix_line piece⟩
    · obtain ⟨p, hp, hpre⟩ := ih h
      exact ⟨p, List.mem_cons_of_mem piece hp, hpre⟩

theorem lineFeed_not_mem_of_mem_lines (h : raw ∈ lines text) : '\n' ∉ raw := by
  obtain ⟨piece, hpiece, hpre⟩ := exists_piece_of_mem_endedLines h
  intro hmem
  exact not_mem_of_mem_splitOn hpiece (hpre.subset hmem)

@[simp] theorem lines_nil : lines [] = [] := rfl

theorem lines_of_not_mem (hne : raw ≠ []) (h : '\n' ∉ raw) : lines raw = [raw] := by
  simp [lines, splitOn_of_not_mem h, endedLines, hne]

theorem lines_append (h : '\n' ∉ raw) (text : List Char) :
    lines (raw ++ '\n' :: text) = dropReturn raw :: lines text := by
  rw [lines, splitOn_append h]
  rfl

def parts (sep : Char) (s : List Char) : List (List Char) :=
  (splitOn sep s).1 :: (splitOn sep s).2

theorem parts_of_not_mem (h : sep ∉ s) : parts sep s = [s] := by rw [parts, splitOn_of_not_mem h]

theorem length_parts (sep : Char) (s : List Char) : (parts sep s).length = s.count sep + 1 := by
  induction s with
  | nil => rfl
  | cons c cs ih => by_cases hc : c = sep <;> simpa [parts, splitOn, hc] using ih

theorem parts_append (sep : Char) (s t : List Char) :
    parts sep (s ++ sep :: t) = parts sep s ++ parts sep t := by
  induction s with
  | nil => simp [parts, splitOn]
  | cons c cs ih =>
    by_cases hc : c = sep
    · simpa [parts, splitOn, hc] using ih
    · simp only [parts, List.cons_append, List.cons.injEq] at ih
      simp [parts, splitOn, hc, ih.1, ih.2]

theorem parts_flatMap_append {ls : List (List Char)} (h : ∀ l ∈ ls, sep ∉ l) (t : List Char) :
    parts sep (ls.flatMap (· ++ [sep]) ++ t) = ls ++ parts sep t := by
  induction ls with
  | nil => rfl
  | cons l ls ih =>
    obtain ⟨hl, hls⟩ := List.forall_mem_cons.1 h
    have hcut := parts_append sep l (ls.flatMap (· ++ [sep]) ++ t)
    rw [parts_of_not_mem hl, ih hls] at hcut
    simpa using hcut

theorem parts_append_of_not_mem (h : sep ∉ t) (s : List Char) :
    ∃ init last, parts sep (s ++ t) = init ++ [last ++ t] := by
  induction s with
  | nil => exact ⟨[], [], by simp [parts_of_not_mem h]⟩
  | cons c s ih =>
    obtain ⟨init, last, hparts⟩ := ih
    by_cases hc : c = sep
    · subst hc
      have hcut := parts_append c [] (s ++ t)
      rw [hparts] at hcut
      exact ⟨[] :: init, last, by simpa [parts_of_not_mem] using hcut⟩
    · rw [parts] at hparts
      cases init with
      | nil =>
        obtain ⟨hfirst, hnone⟩ := List.cons.inj hparts
        exact ⟨[], c :: last, by simp [parts, splitOn, hc, hfirst, hnone]⟩
      | cons piece init =>
        obtain ⟨hfirst, hmore⟩ := List.cons.inj hparts
        exact ⟨(c :: piece) :: init, last, by simp [parts, splitOn, hc, hfirst, hmore]⟩

theorem subset_of_mem_parts (h : piece ∈ parts sep s) : piece ⊆ s := by
  induction s generalizing piece with
  | nil => simp_all [parts, splitOn]
  | cons c cs ih =>
    by_cases hc : c = sep
    · simp only [parts, splitOn, hc, if_true, List.mem_cons] at h
      rcases h with rfl | h
      · exact List.nil_subset _
      · exact fun d hd ↦ List.mem_cons_of_mem _ (ih (List.mem_cons.2 h) hd)
    · simp only [parts, splitOn, hc, if_false, List.mem_cons] at h
      rcases h with rfl | h
      · exact List.cons_subset_cons _ (ih List.mem_cons_self)
      · exact fun d hd ↦ List.mem_cons_of_mem _ (ih (List.mem_cons_of_mem _ h) hd)

def ReturnsEndLines (text : List Char) : Prop :=
  text.IsChain (fun c next ↦ c = '\r' → next = '\n') ∧ text.getLast? ≠ some '\r'

instance (text : List Char) : Decidable (ReturnsEndLines text) :=
  inferInstanceAs (Decidable (_ ∧ _))

theorem carriageReturn_not_mem_dropReturn (hn : '\n' ∉ s)
    (h : s.IsChain fun c next ↦ c = '\r' → next = '\n') : '\r' ∉ dropReturn s := by
  induction s with
  | nil => simp [dropReturn]
  | cons c cs ih =>
    cases cs with
    | nil => by_cases hc : c = '\r' <;> simp [dropReturn, hc, eq_comm (b := c)]
    | cons d cs =>
      have hcut : dropReturn (c :: d :: cs) = c :: dropReturn (d :: cs) := by
        by_cases hlast : (d :: cs).getLast? = some '\r' <;> simp [dropReturn, hlast]
      obtain ⟨hcd, hrest⟩ := List.isChain_cons_cons.1 h
      have hc : c ≠ '\r' := by
        intro hc
        exact hn (by simp [hcd hc])
      rw [hcut, List.mem_cons, not_or]
      exact ⟨hc.symm, ih (fun hmem ↦ hn (List.mem_cons_of_mem c hmem)) hrest⟩

theorem carriageReturn_not_mem_of_mem_endedLines
    (h : ReturnsEndLines (joinWith '\n' piece pieces)) (hp : ∀ p ∈ piece :: pieces, '\n' ∉ p)
    (hraw : raw ∈ endedLines piece pieces) : '\r' ∉ raw := by
  induction pieces generalizing piece with
  | nil =>
    have hpiece : piece ≠ [] ∧ raw = piece := by simpa [endedLines] using hraw
    have hkeep : dropReturn piece = piece := if_neg h.2
    rw [hpiece.2, ← hkeep]
    exact carriageReturn_not_mem_dropReturn (hp piece List.mem_cons_self) h.1
  | cons next rest ih =>
    obtain ⟨hchain, hlast⟩ := h
    rw [joinWith] at hchain hlast
    rcases List.mem_cons.1 hraw with rfl | hraw
    · exact carriageReturn_not_mem_dropReturn (hp piece List.mem_cons_self) hchain.left_of_append
    · refine ih ⟨hchain.right_of_append.tail, ?_⟩
        (fun p hmem ↦ hp p (List.mem_cons_of_mem piece hmem)) hraw
      intro hreturn
      refine hlast ?_
      rw [List.getLast?_append, List.getLast?_cons, hreturn]
      rfl

theorem carriageReturn_not_mem_of_mem_lines (h : ReturnsEndLines text) (hraw : raw ∈ lines text) :
    '\r' ∉ raw := by
  rw [← joinWith_splitOn '\n' text] at h
  exact carriageReturn_not_mem_of_mem_endedLines h (fun _ ↦ not_mem_of_mem_splitOn) hraw

end Reshape.Text
