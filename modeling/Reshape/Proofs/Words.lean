import Mathlib.Data.List.Basic
import Reshape.Words

namespace Reshape

namespace Text

def WordCode (n : Nat) : Prop :=
  (0x30 ≤ n ∧ n ≤ 0x39) ∨ (0x41 ≤ n ∧ n ≤ 0x5A) ∨ (0x61 ≤ n ∧ n ≤ 0x7A) ∨ 0x80 ≤ n

instance (n : Nat) : Decidable (WordCode n) := inferInstanceAs (Decidable (_ ∨ _))

/-- A space, a digit or letter of ASCII, or a character beyond. Line breaks, quotes, dots and
slashes are none, nor is anything else that has a meaning in code. -/
def Wordlike (c : Char) : Prop := c = ' ' ∨ WordCode c.toNat

instance (c : Char) : Decidable (Wordlike c) := inferInstanceAs (Decidable (_ ∨ _))

/-- The run leads to letters of ASCII only, or beyond, and every code that it leads to is one of a
character. -/
def CaseRun.Rises (run : CaseRun) : Prop :=
  (0x41 ≤ run.first + run.shift ∧ run.last + run.shift ≤ 0x5A ∨
      0x61 ≤ run.first + run.shift ∧ run.last + run.shift ≤ 0x7A ∨
      0x80 ≤ run.first + run.shift) ∧
    (run.last + run.shift < 0xD800 ∨
      0xE000 ≤ run.first + run.shift ∧ run.last + run.shift < 0x110000)

instance (run : CaseRun) : Decidable run.Rises := inferInstanceAs (Decidable (_ ∧ _))

variable {runs : List CaseRun} {expansions : List (Nat × List Nat)} {c d : Char} {s : List Char}

theorem toNat_ofNat {n : Nat} (hvalid : n.isValidChar) : (Char.ofNat n).toNat = n := by
  rw [Char.ofNat, dif_pos hvalid]
  rfl

theorem wordlike_ofNat {n : Nat} (h : WordCode n) (hvalid : n.isValidChar) :
    Wordlike (Char.ofNat n) := .inr ((toNat_ofNat hvalid).symm ▸ h)

theorem CaseRun.Rises.bounds {run : CaseRun} (h : run.Rises) {n : Nat} (hn : run.covers n) :
    WordCode (n + run.shift).toNat ∧ (n + run.shift).toNat.isValidChar := by
  simp only [CaseRun.covers, Bool.and_eq_true, decide_eq_true_eq] at hn
  obtain ⟨⟨hfirst, hlast⟩, -⟩ := hn
  obtain ⟨hletter, hhigh⟩ := h
  rw [Nat.isValidChar, WordCode]
  omega

/-- The tables are asked in their order. -/
theorem mapCase_cases (runs : List CaseRun) (expansions : List (Nat × List Nat)) (c : Char) :
    (∃ codes, (c.toNat, codes) ∈ expansions ∧
      mapCase runs expansions c = codes.map Char.ofNat) ∨
    (∃ run ∈ runs, run.covers c.toNat ∧
      mapCase runs expansions c = [Char.ofNat (c.toNat + run.shift).toNat]) ∨
    mapCase runs expansions c = [c] := by
  unfold mapCase
  split
  · rename_i codes hcodes
    obtain ⟨before, after, hmem, -⟩ := List.lookup_eq_some_iff.1 hcodes
    exact .inl ⟨codes, by simp [hmem], rfl⟩
  · split
    · rename_i run hrun
      have hcovers : run.covers c.toNat :=
        List.find?_some (p := fun run : CaseRun ↦ run.covers c.toNat) hrun
      exact .inr (.inl ⟨run, List.mem_of_find?_eq_some hrun, hcovers, rfl⟩)
    · exact .inr (.inr rfl)

theorem wordlike_mapCase (hruns : ∀ run ∈ runs, run.Rises)
    (hexpansions : ∀ e ∈ expansions, ∀ n ∈ e.2, WordCode n ∧ n < 0xD800) (hc : Wordlike c)
    (h : d ∈ mapCase runs expansions c) : Wordlike d := by
  obtain ⟨codes, hcodes, hmap⟩ | ⟨run, hrun, hcovers, hmap⟩ | hmap :=
    mapCase_cases runs expansions c <;> rw [hmap] at h
  · obtain ⟨n, hn, rfl⟩ := List.mem_map.1 h
    obtain ⟨hcode, hhigh⟩ := hexpansions _ hcodes n hn
    exact wordlike_ofNat hcode (.inl hhigh)
  · obtain ⟨hcode, hvalid⟩ := (hruns run hrun).bounds hcovers
    rw [List.mem_singleton.1 h]
    exact wordlike_ofNat hcode hvalid
  · rwa [List.mem_singleton.1 h]

theorem rises_of_mem_upperRuns : ∀ run ∈ upperRuns, run.Rises := by decide +kernel

theorem rises_of_mem_lowerRuns : ∀ run ∈ lowerRuns, run.Rises := by decide +kernel

theorem wordlike_upper (hc : Wordlike c) (h : d ∈ upper c) : Wordlike d :=
  wordlike_mapCase rises_of_mem_upperRuns (by decide +kernel) hc h

theorem wordlike_lower (hc : Wordlike c) (h : d ∈ lower c) : Wordlike d :=
  wordlike_mapCase rises_of_mem_lowerRuns (by decide +kernel) hc h

theorem wordlike_lowerAfter {before : List Char} (hs : ∀ c ∈ s, Wordlike c)
    (h : d ∈ lowerAfter before s) : Wordlike d := by
  induction s generalizing before with
  | nil => cases h
  | cons c rest ih =>
    obtain ⟨hc, hrest⟩ := List.forall_mem_cons.1 hs
    rcases List.mem_append.1 h with h | h
    · split at h
      · rw [List.mem_singleton.1 h, lowerSigma]
        split <;> decide
      · exact wordlike_lower hc h
    · exact ih hrest h

theorem wordlike_lowerCase (hs : ∀ c ∈ s, Wordlike c) (h : d ∈ lowerCase s) : Wordlike d :=
  wordlike_lowerAfter hs h

theorem wordlike_of_isAlphanumeric (h : isAlphanumeric c) : Wordlike c := by
  have hascii : ∀ n < 0x80, inRanges alphanumericRanges n → WordCode n := by decide +kernel
  rcases Nat.lt_or_ge c.toNat 0x80 with hc | hc
  · exact .inr (hascii _ hc h)
  · exact .inr (.inr (.inr (.inr hc)))

end Text

namespace Words

open Text

variable {c : Char} {w : List Char}

theorem wordlike_spaced {s : String} (h : c ∈ spaced s) : Wordlike c := by
  obtain ⟨d, -, rfl⟩ := List.mem_map.1 h
  split
  · exact wordlike_of_isAlphanumeric ‹_›
  · exact .inl rfl

theorem flatten_splitWords (pieces : List (List Char)) :
    (splitWords pieces).1 ++ (splitWords pieces).2.flatten =
      (pieces.filter (· ≠ [' '])).flatten := by
  induction pieces with
  | nil => rfl
  | cons piece rest ih =>
    simp only [splitWords]
    split
    · rename_i hspace
      rw [List.filter_cons_of_neg (by simpa using hspace), ← ih]
      rfl
    · rename_i hspace
      rw [List.filter_cons_of_pos (by simpa using hspace), List.flatten_cons, ← ih]
      split
      · rfl
      · exact List.append_assoc _ _ _

/-- Words hold all clusters but the spaces that separate them. -/
theorem flatten_words (s : String) :
    (words s).flatten = ((clusters (spaced s)).filter (· ≠ [' '])).flatten := by
  unfold words
  split
  · rename_i hempty
    rw [String.isEmpty_iff.1 hempty]
    rfl
  · exact flatten_splitWords _

theorem wordlike_words {s : String} (hw : w ∈ words s) (hc : c ∈ w) : Wordlike c := by
  have hmem : c ∈ (words s).flatten := List.mem_flatten.2 ⟨w, hw, hc⟩
  rw [flatten_words] at hmem
  obtain ⟨cluster, hcluster, hc⟩ := List.mem_flatten.1 hmem
  have hspaced : c ∈ (clusters (spaced s)).flatten :=
    List.mem_flatten.2 ⟨cluster, List.mem_of_mem_filter hcluster, hc⟩
  rw [flatten_clusters] at hspaced
  exact wordlike_spaced hspaced

theorem wordlike_capitalize (hw : ∀ d ∈ w, Wordlike d) (h : c ∈ capitalize w) : Wordlike c := by
  cases w with
  | nil => cases h
  | cons d rest =>
    obtain ⟨hd, hrest⟩ := List.forall_mem_cons.1 hw
    rcases List.mem_append.1 h with h | h
    · exact wordlike_upper hd h
    · exact wordlike_lowerCase hrest h

theorem wordlike_pascal {s : String} (h : c ∈ (pascal s).toList) : Wordlike c := by
  rw [pascal, String.toList_ofList] at h
  obtain ⟨w, hw, hc⟩ := List.mem_flatMap.1 h
  exact wordlike_capitalize (fun d ↦ wordlike_words hw) hc

theorem lineFeed_not_mem_pascal (s : String) : '\n' ∉ (pascal s).toList := by
  intro h
  exact absurd (wordlike_pascal h) (by decide)

theorem mem_intercalate {sep : List Char} {pieces : List (List Char)}
    (h : c ∈ sep.intercalate pieces) : c ∈ sep ∨ ∃ piece ∈ pieces, c ∈ piece := by
  induction pieces with
  | nil => cases h
  | cons piece rest ih =>
    cases rest with
    | nil => exact .inr ⟨piece, List.mem_singleton_self _, by simpa using h⟩
    | cons next rest =>
      rw [List.intercalate_cons_cons, List.append_assoc, List.mem_append, List.mem_append] at h
      rcases h with h | h | h
      · exact .inr ⟨piece, List.mem_cons_self, h⟩
      · exact .inl h
      · exact (ih h).imp_right fun ⟨other, hother, hc⟩ ↦
          ⟨other, List.mem_cons_of_mem _ hother, hc⟩

theorem wordlike_kebab {s : String} (h : c ∈ (kebab s).toList) : c = '-' ∨ Wordlike c := by
  rw [kebab, String.toList_intercalate] at h
  rcases mem_intercalate h with h | ⟨piece, hpiece, h⟩
  · exact .inl (by simpa using h)
  · simp only [List.map_map, List.mem_map, Function.comp_apply, String.toList_ofList] at hpiece
    obtain ⟨w, hw, rfl⟩ := hpiece
    exact .inr (wordlike_lowerCase (fun d ↦ wordlike_words hw) h)

end Words

end Reshape
