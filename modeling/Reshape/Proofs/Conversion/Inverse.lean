import Reshape.Conversion.PathMap
import Reshape.Proofs.Latest

namespace Reshape.PathMap

variable {m : PathMap} {output input : String}

theorem mem_of_mem_inverse (h : (input, output) ∈ m.inverse) : (output, input) ∈ m := by
  obtain ⟨e, he, hswap⟩ := List.mem_map.1 (Keyed.mem_of_mem_ofList h)
  obtain ⟨rfl, rfl⟩ := Prod.mk.inj hswap
  exact he

theorem keys_swap (m : PathMap) : Keyed.keys (m.map fun e ↦ (e.2, e.1)) = m.inputs :=
  List.map_map

theorem outputs_inverse (m : PathMap) : m.inverse.outputs = m.inputs.eraseDups := by
  rw [← keys_swap]
  exact Keyed.keys_ofList _

theorem get?_inverse (m : PathMap) (input : String) :
    m.inverse.get? input = ((m.filter (·.2 = input)).map (·.1)).getLast? := by
  rw [inverse, Keyed.get?_ofList, List.filter_map, List.map_map]
  rfl

theorem mem_outputs_inverse : input ∈ m.inverse.outputs ↔ input ∈ m.inputs := by
  rw [← keys_swap]
  exact Keyed.mem_keys_ofList

theorem distinct_inverse (m : PathMap) : m.inverse.Distinct := Keyed.distinct_ofList _

/-- What is swapped back has its outputs once, so no two of its pairs lead to one output. -/
theorem inputsDistinct_inverse (hm : m.Distinct) : m.inverse.inputsDistinct := by
  have hnodup : m.inverse.Nodup := .of_map Prod.fst (distinct_inverse m)
  refine decide_eq_true (List.Nodup.map_on ?_ hnodup)
  rintro ⟨input, output⟩ h ⟨input', output'⟩ h' (rfl : output = output')
  have hget : m.get? output = some input := hm.get?_of_mem (mem_of_mem_inverse h)
  have hget' : m.get? output = some input' := hm.get?_of_mem (mem_of_mem_inverse h')
  rw [Option.some.inj (hget.symm.trans hget')]

theorem inverse_of_inputsDistinct (h : m.inputsDistinct) :
    m.inverse = m.map fun e ↦ (e.2, e.1) := by
  refine Keyed.ofList_of_distinct ?_
  rw [Keyed.Distinct, keys_swap]
  simpa [inputsDistinct] using h

theorem inverse_inverse (hm : m.Distinct) (h : m.inputsDistinct) : m.inverse.inverse = m := by
  rw [inverse_of_inputsDistinct (inputsDistinct_inverse hm), inverse_of_inputsDistinct h,
    List.map_map]
  exact List.map_id m

theorem length_inverse_inverse (hm : m.Distinct) :
    m.inverse.inverse.length = m.inverse.length := by
  rw [inverse_of_inputsDistinct (inputsDistinct_inverse hm), List.length_map]

theorem length_inverse_eq_iff : m.inverse.length = m.length ↔ m.inputsDistinct := by
  have hinverse : m.inverse.length = m.inputs.eraseDups.length := by
    rw [← outputs_inverse, outputs, Keyed.keys, List.length_map]
  have hlength : m.length = m.inputs.length := by rw [inputs, List.length_map]
  rw [hinverse, hlength, length_eraseDups_eq_iff, inputsDistinct, decide_eq_true_iff]

theorem inputs_inverse (h : m.inputsDistinct) : m.inverse.inputs = m.outputs := by
  rw [inverse_of_inputsDistinct h]
  simp [inputs, outputs, Keyed.keys]

theorem mem_inverse_of_mem (h : m.inputsDistinct) (hmem : (output, input) ∈ m) :
    (input, output) ∈ m.inverse := by
  rw [inverse_of_inputsDistinct h]
  exact List.mem_map.2 ⟨_, hmem, rfl⟩

end Reshape.PathMap
