import Mathlib.Data.List.Sort
import Mathlib.Data.String.Basic
import Mathlib.Tactic.TFAE
import Reshape.Proofs.Conversion.PairOrder

namespace Reshape.PathMap

theorem isChain_ne_mergeSort_iff {texts : List String} :
    (texts.mergeSort (· ≤ ·)).IsChain (· ≠ ·) ↔ texts.Nodup := by
  have hperm := List.mergeSort_perm texts (· ≤ ·)
  have hsorted : (texts.mergeSort (· ≤ ·)).IsChain (· ≤ ·) :=
    (List.pairwise_mergeSort' (· ≤ ·) texts).isChain
  rw [← hperm.nodup_iff]
  constructor
  · intro h
    have hlt : (texts.mergeSort (· ≤ ·)).IsChain (· < ·) := by
      rw [List.isChain_iff_getElem] at h hsorted ⊢
      exact fun i hi ↦ lt_of_le_of_ne (hsorted i hi) (h i hi)
    exact (List.isChain_iff_pairwise.1 hlt).imp ne_of_lt
  · intro h
    exact List.Pairwise.isChain h

/-- The inverse has every input once, in the order of their first occurrence, and leads it to the
last output that reads it. The inverse of the inverse is the map again exactly where no two outputs
read one input, so that no two neighbours among the sorted inputs are equal. -/
theorem inverse_laws (m : PathMap) (hm : m.Distinct) :
    m.inverse.outputs = m.inputs.eraseDups ∧
    (∀ input, m.inverse.get? input = ((m.filter (·.2 = input)).map (·.1)).getLast?) ∧
    m.inverse.inputsDistinct ∧
    [(m.inverse.inverse.same m : Prop), (m.inputsDistinct : Prop),
      m.inverse.length = m.length, (m.inputs.mergeSort (· ≤ ·)).IsChain (· ≠ ·)].TFAE ∧
    (m.inputsDistinct → m.inverse.inverse = m) ∧
    m.inverse.inverse.inverse = m.inverse := by
  have hinverse : m.inverse.inputsDistinct := inputsDistinct_inverse hm
  have hsame : m.inverse.inverse.same m → m.inverse.length = m.length := by
    intro h
    have hperm : m.inverse.inverse.Perm m := (same_iff_perm (distinct_inverse _) hm).1 h
    rw [← length_inverse_inverse hm, hperm.length_eq]
  have hself : m.inputsDistinct → m.inverse.inverse.same m := by
    intro h
    rw [inverse_inverse hm h]
    exact (same_iff_perm hm hm).2 (.refl m)
  have hsorted : m.inputsDistinct ↔ (m.inputs.mergeSort (· ≤ ·)).IsChain (· ≠ ·) := by
    rw [isChain_ne_mergeSort_iff, inputsDistinct, decide_eq_true_iff]
  refine ⟨outputs_inverse m, get?_inverse m, hinverse, ?_, inverse_inverse hm,
    inverse_inverse (distinct_inverse m) hinverse⟩
  tfae_have 1 → 3 := hsame
  tfae_have 3 → 2 := length_inverse_eq_iff.1
  tfae_have 2 → 1 := hself
  tfae_have 2 ↔ 4 := hsorted
  tfae_finish

/-- Two of three outputs read one input, and the later of them is what its place in the inverse
leads to; a map that reads every input once comes back as it was. -/
theorem inverse_laws_shared :
    let shared : PathMap := [("a", "x"), ("b", "y"), ("c", "x")]
    let single : PathMap := [("b", "y"), ("a", "x")]
    shared.Distinct ∧ shared.inverse.outputs = ["x", "y"] ∧ shared.inverse.get? "x" = some "c" ∧
      ¬ shared.inverse.inverse.same shared ∧ single.Distinct ∧ single.inputsDistinct ∧
      single.inverse.inverse = single := by
  intro shared single
  have hshared : shared.Distinct := by decide
  have hsingle : single.Distinct ∧ single.inputsDistinct := by decide
  have hlost : ¬ shared.inputsDistinct := by decide
  obtain ⟨houtputs, hget, -, htfae, -⟩ := inverse_laws shared hshared
  obtain ⟨-, -, -, -, hback, -⟩ := inverse_laws single hsingle.1
  exact ⟨hshared, houtputs, hget "x", fun h ↦ hlost ((htfae.out 0 1).1 h), hsingle.1, hsingle.2,
    hback hsingle.2⟩

end Reshape.PathMap
