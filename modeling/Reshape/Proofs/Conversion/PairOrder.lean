import Reshape.Proofs.Conversion.Inverse
import Reshape.Proofs.Conversion.Outputs
import Reshape.Proofs.Record.Same

namespace Reshape

open DottedPath Record

namespace PathMap

variable {a b m : PathMap} {source : Record}

theorem same_iff_perm (ha : a.Distinct) (hb : b.Distinct) : a.same b ↔ a.Perm b := by
  simp only [same, Bool.and_eq_true, beq_iff_eq, List.all_eq_true]
  constructor
  · rintro ⟨hlength, hall⟩
    have hsub : a ⊆ b := fun e he ↦ Keyed.mem_of_get? (hall e he)
    have hnodup : a.Nodup := .of_map Prod.fst ha
    exact (List.subperm_of_subset hnodup hsub).perm_of_length_le (Nat.le_of_eq hlength.symm)
  · intro h
    exact ⟨h.length_eq, fun e he ↦ hb.get?_of_mem (h.mem_iff.1 he)⟩

/-- The leaves of a conversion by its pairs, whatever their order: those of the value of a pair,
below its output. -/
theorem at?_convert_eq_leaf_iff (hm : m.Distinct) (hsep : Separate m.outputs) {q : List String}
    {x : Value} (hq : q ≠ []) (hx : x.isLeaf) : (m.convert source).at? q = some x ↔
      ∃ e ∈ m, ∃ rest, segmentsOf e.1 ++ rest = q ∧ (valueOf source e.2).at? rest = some x := by
  have hat : ∀ e ∈ m, ∀ rest, (m.convert source).at? (segmentsOf e.1 ++ rest) =
      (valueOf source e.2).at? rest := by
    intro e he rest
    rw [Record.at?_append, at?_convert_of_mem source hm hsep he, Option.bind_some]
  constructor
  · intro h
    obtain ⟨output, houtput, rest, rfl⟩ := exists_output_of_leafAt source ⟨hq, x, h, hx⟩
    obtain ⟨e, he, rfl⟩ := List.mem_map.1 houtput
    exact ⟨e, he, rest, rfl, by rw [← hat e he rest, h]⟩
  · rintro ⟨e, he, rest, rfl, h⟩
    rw [hat e he rest, h]

theorem sameLeaves_convert (ha : a.Distinct) (hb : b.Distinct) (hperm : a.Perm b)
    (hsep : Separate a.outputs) (source : Record) :
    SameLeaves (a.convert source) (b.convert source) := by
  have hsep' : Separate b.outputs :=
    hsep.of_subset fun output h ↦ (hperm.map Prod.fst).mem_iff.2 h
  intro q x hq hx
  -- The right side speaks of the pairs by membership only, which the order does not change.
  simp only [at?_convert_eq_leaf_iff ha hsep hq hx, at?_convert_eq_leaf_iff hb hsep' hq hx,
    hperm.mem_iff]

theorem same_convert (ha : a.Distinct) (hb : b.Distinct) (hperm : a.Perm b)
    (hsep : Separate a.outputs) (hs : source.KeysOnce) (hnum : source.NaNFree) :
    (a.convert source).same (b.convert source) :=
  same_of_leaves (keysOnce_convert hs a) (keysOnce_convert hs b) (nanFree_convert hnum b)
    (sameLeaves_convert ha hb hperm hsep source)

theorem inverse_perm (hperm : a.Perm b) (hd : a.inputsDistinct) : a.inverse.Perm b.inverse := by
  have hd' : b.inputsDistinct := by
    simp only [inputsDistinct, decide_eq_true_eq] at hd ⊢
    exact (hperm.map Prod.snd).nodup hd
  rw [inverse_of_inputsDistinct hd, inverse_of_inputsDistinct hd']
  exact hperm.map _

end PathMap

namespace Converter

open PathMap

/-- The order of the pairs does not count where no two outputs lead through one another; nor does
it for the way back where the same holds of the inputs and none is read twice. A decimal that is no
number differs from itself, so a model with one has its entities compared leaf by leaf. -/
theorem pairOrder_irrelevant (a b : PathMap) (ha : a.Distinct) (hb : b.Distinct)
    (hsame : a.same b) (houtputs : Separate a.outputs) :
    (∀ source : Record, source.KeysOnce → source.NaNFree →
      (a.convert source).same (b.convert source)) ∧
    (a.inputsDistinct → Separate a.inputs →
      a.inverse.same b.inverse ∧ (ofMap a).same (ofMap b) ∧
      ∀ model : Record, SameLeaves ((ofMap a).entityOf model) ((ofMap b).entityOf model) ∧
        (model.KeysOnce → model.NaNFree →
          ((ofMap a).entityOf model).same ((ofMap b).entityOf model))) := by
  have hperm : a.Perm b := (same_iff_perm ha hb).1 hsame
  refine ⟨fun source ↦ same_convert ha hb hperm houtputs, fun hd hinputs ↦ ?_⟩
  have hinverse : a.inverse.Perm b.inverse := inverse_perm hperm hd
  have ha' : a.inverse.Distinct := distinct_inverse a
  have hb' : b.inverse.Distinct := distinct_inverse b
  have hsep : Separate a.inverse.outputs := hinputs.of_subset fun _ ↦ mem_outputs_inverse.1
  have hsame' : a.inverse.same b.inverse := (same_iff_perm ha' hb').2 hinverse
  have hconverter : (ofMap a).same (ofMap b) := by
    rw [Converter.same, Bool.and_eq_true]
    exact ⟨hsame, hsame'⟩
  refine ⟨hsame', hconverter, fun model ↦ ⟨?_, ?_⟩⟩
  · exact sameLeaves_convert ha' hb' hinverse hsep model
  · exact same_convert ha' hb' hinverse hsep

theorem pairOrder_irrelevant_nested :
    let a : PathMap := [("at.street", "road"), ("name", "full.name"), ("at.no", "number")]
    let b : PathMap := [("at.no", "number"), ("at.street", "road"), ("name", "full.name")]
    let source : Record := [("road", .record [("x", .null)]), ("full", .string "F")]
    let model : Record := [("name", .decimal .nan), ("at", .record [("no", .unsigned 7)])]
    let model' : Record := [("name", .decimal (.zero true)), ("at", .record [])]
    (a.convert source).same (b.convert source) ∧ a.inverse.same b.inverse ∧
      (ofMap a).same (ofMap b) ∧
      SameLeaves ((ofMap a).entityOf model) ((ofMap b).entityOf model) ∧
      ((ofMap a).entityOf model').same ((ofMap b).entityOf model') := by
  intro a b source model model'
  have hab : a.Distinct ∧ b.Distinct ∧ a.same b ∧ Separate a.outputs := by decide
  have hinputs : a.inputsDistinct ∧ Separate a.inputs := by decide
  have hsource : source.KeysOnce ∧ source.NaNFree := by decide
  have hmodel : model'.KeysOnce ∧ model'.NaNFree := by decide
  obtain ⟨hthere, hback⟩ := pairOrder_irrelevant a b hab.1 hab.2.1 hab.2.2.1 hab.2.2.2
  obtain ⟨hinverse, hconverter, hentity⟩ := hback hinputs.1 hinputs.2
  exact ⟨hthere source hsource.1 hsource.2, hinverse, hconverter, (hentity model).1,
    (hentity model').2 hmodel.1 hmodel.2⟩

end Converter

end Reshape
