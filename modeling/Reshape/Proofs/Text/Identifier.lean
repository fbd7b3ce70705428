import Reshape.Proofs.Words
import Reshape.Text.Identifier

namespace Reshape.Text

/-- Whether the ranges hold the codes from `first` to `last`, if they hold all or none of them. -/
def uniformly : List (Nat × Nat) → Nat → Nat → Option Bool
  | [], _, _ => some false
  | (low, high) :: rest, first, last =>
    -- The kernel asks this of every case run, so the comparisons are those that it computes.
    bif low.ble first then
      bif high.blt first then uniformly rest first last
      else bif last.ble high then some true else none
    else bif last.blt low then some false else none

/-- Whether the codes of the run are in the ranges just as those that it leads to are. Where the
ranges change along the run, its codes are looked at one by one. -/
def CaseRun.keeps (run : CaseRun) (ranges : List (Nat × Nat)) : Bool :=
  let image (n : Nat) := (n + run.shift).toNat
  match uniformly ranges run.first run.last,
    uniformly ranges (image run.first) (image run.last) with
  | some before, some after => before == after
  | _, _ => (List.range' run.first (run.last + 1 - run.first)).all fun n ↦
      !run.covers n || inRanges ranges n == inRanges ranges (image n)

def IsIdentifier (name : String) : Prop :=
  name.toList.head?.any startsIdentifier ∧ ∀ c ∈ name.toList, continuesIdentifier c

-- The characters of the name are gone through, and not all that there are.
instance (name : String) : Decidable (IsIdentifier name) :=
  @instDecidableAnd _ _ _ (List.decidableBAll _ _)

example : IsIdentifier "_\xe9$2" ∧ ∀ name ∈ ["", "2a", "a b", "a-b", "\u0301a"],
    ¬ IsIdentifier name := by decide +kernel

variable {runs : List CaseRun} {expansions : List (Nat × List Nat)} {ranges : List (Nat × Nat)}
  {first last n : Nat} {c d : Char} {s : List Char}

theorem inRanges_of_uniformly {b : Bool} (h : uniformly ranges first last = some b)
    (hfirst : first ≤ n) (hlast : n ≤ last) : inRanges ranges n = b := by
  induction ranges with
  | nil => exact Option.some_inj.1 h
  | cons range rest ih =>
    obtain ⟨low, high⟩ := range
    simp only [uniformly, Bool.cond_eq_ite, Nat.blt_eq, Nat.ble_eq] at h
    rw [inRanges]
    split at h
    · rw [if_neg (by omega)]
      split at h
      · rw [decide_eq_false (by omega), Bool.false_or, ih h]
      · split at h
        · rw [decide_eq_true (by omega), Bool.true_or, Option.some_inj.1 h]
        · cases h
    · split at h
      · rw [if_pos (by omega), Option.some_inj.1 h]
      · cases h

theorem CaseRun.inRanges_of_keeps {run : CaseRun} (h : run.keeps ranges) (hn : run.covers n) :
    inRanges ranges (n + run.shift).toNat = inRanges ranges n := by
  obtain ⟨hfirst, hlast⟩ : run.first ≤ n ∧ n ≤ run.last := by
    simp only [CaseRun.covers, Bool.and_eq_true, decide_eq_true_eq] at hn
    exact hn.1
  simp only [keeps] at h
  split at h
  · rename_i before after hbefore hafter
    rw [inRanges_of_uniformly hbefore hfirst hlast,
      inRanges_of_uniformly hafter (by omega) (by omega)]
    exact (eq_of_beq h).symm
  · have hmem : n ∈ List.range' run.first (run.last + 1 - run.first) :=
      List.mem_range'_1.2 (by omega)
    have hsame := List.all_eq_true.1 h n hmem
    rw [hn, Bool.not_true, Bool.false_or] at hsame
    exact (eq_of_beq hsame).symm

theorem forall_mapCase_iff (hrises : ∀ run ∈ runs, run.Rises)
    (hkeeps : ∀ run ∈ runs, run.keeps identifierRanges)
    (hexpansions : ∀ e ∈ expansions, ∀ n ∈ e.1 :: e.2,
      n.isValidChar ∧ uniformly identifierRanges n n = some true) :
    (∀ d ∈ mapCase runs expansions c, continuesIdentifier d) ↔ continuesIdentifier c := by
  obtain ⟨codes, hcodes, hmap⟩ | ⟨run, hrun, hcovers, hmap⟩ | hmap :=
    mapCase_cases runs expansions c <;> rw [hmap]
  · obtain ⟨⟨-, hcode⟩, himages⟩ := List.forall_mem_cons.1 (hexpansions _ hcodes)
    refine iff_of_true (List.forall_mem_map.2 fun n hn ↦ ?_)
      (inRanges_of_uniformly hcode c.toNat.le_refl c.toNat.le_refl)
    obtain ⟨hvalid, himage⟩ := himages n hn
    rw [continuesIdentifier, toNat_ofNat hvalid]
    exact inRanges_of_uniformly himage n.le_refl n.le_refl
  · have hvalid := ((hrises run hrun).bounds hcovers).2
    rw [List.forall_mem_singleton, continuesIdentifier, continuesIdentifier, toNat_ofNat hvalid,
      CaseRun.inRanges_of_keeps (hkeeps run hrun) hcovers]
  · exact List.forall_mem_singleton

/-- Raising a letter neither makes it fit for a name nor unfit. -/
theorem forall_upper_iff : (∀ d ∈ upper c, continuesIdentifier d) ↔ continuesIdentifier c :=
  forall_mapCase_iff rises_of_mem_upperRuns (by decide +kernel) (by decide +kernel)

theorem forall_lower_iff : (∀ d ∈ lower c, continuesIdentifier d) ↔ continuesIdentifier c :=
  forall_mapCase_iff rises_of_mem_lowerRuns (by decide +kernel) (by decide +kernel)

theorem forall_lowerAfter_iff (before s : List Char) :
    (∀ d ∈ lowerAfter before s, continuesIdentifier d) ↔ ∀ c ∈ s, continuesIdentifier c := by
  induction s generalizing before with
  | nil => simp [lowerAfter]
  | cons c rest ih =>
    rw [lowerAfter, List.forall_mem_append, List.forall_mem_cons, ih]
    refine and_congr_left fun _ ↦ ?_
    split
    · rename_i hsigma
      rw [List.forall_mem_singleton, lowerSigma, hsigma]
      split <;> decide +kernel
    · exact forall_lower_iff

theorem forall_lowerCase_iff :
    (∀ d ∈ lowerCase s, continuesIdentifier d) ↔ ∀ c ∈ s, continuesIdentifier c :=
  forall_lowerAfter_iff [] s

theorem upper_ne_nil (c : Char) : upper c ≠ [] := by
  have hexpansions : ∀ e ∈ upperExpansions, e.2 ≠ [] := by decide
  obtain ⟨codes, hcodes, hmap⟩ | ⟨run, -, -, hmap⟩ | hmap :=
    mapCase_cases upperRuns upperExpansions c
  · rw [upper, hmap, Ne, List.map_eq_nil_iff]
    exact hexpansions _ hcodes
  · simp [upper, hmap]
  · simp [upper, hmap]

end Reshape.Text
