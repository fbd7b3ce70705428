import Reshape.Proofs.Conversion.PairOrder

namespace Reshape

open DottedPath Record

def Record.NestsAt (r : Record) (path : List String) : Prop :=
  path ≠ [] ∧ ∃ v, r.at? path = some v ∧ ¬ v.isLeaf

/-- Whether none of the paths leads to a record with fields. -/
def Record.FlatAt (r : Record) (paths : List String) : Prop :=
  ∀ path ∈ paths, (r.at? (segmentsOf path)).all Value.isLeaf

instance (r : Record) (paths : List String) : Decidable (r.FlatAt paths) :=
  inferInstanceAs (Decidable (∀ path ∈ paths, _ = true))

namespace PathMap

variable {m : PathMap} {source : Record} {q : List String}

theorem isLeaf_valueOf (h : source.FlatAt m.inputs) : ∀ input ∈ m.inputs,
    (valueOf source input).isLeaf := by
  intro input hinput
  have hall := h input hinput
  rw [valueOf, ← segmentsOf]
  cases hv : source.at? (segmentsOf input) with
  | none => rfl
  | some v => simpa [hv] using hall

/-- Leaves are put at the outputs, and nowhere else. -/
theorem leafAt_convert_iff (hm : m.Distinct) (hsep : Separate m.outputs)
    (hflat : source.FlatAt m.inputs) :
    (m.convert source).LeafAt q ↔ ∃ output ∈ m.outputs, segmentsOf output = q := by
  constructor
  · rintro ⟨hq, x, hx, hleaf⟩
    obtain ⟨e, he, rest, rfl, hrest⟩ := (at?_convert_eq_leaf_iff hm hsep hq hleaf).1 hx
    have hvalue : (valueOf source e.2).isLeaf :=
      isLeaf_valueOf hflat e.2 (List.mem_map_of_mem he)
    have hnil : rest = [] := by
      by_contra hne
      simp [Value.at?_of_isLeaf hvalue hne] at hrest
    exact ⟨e.1, List.mem_map_of_mem he, by simp [hnil]⟩
  · rintro ⟨output, houtput, rfl⟩
    obtain ⟨e, he, rfl⟩ := List.mem_map.1 houtput
    exact ⟨by simp [segmentsOf, segments], _, at?_convert_of_mem source hm hsep he,
      isLeaf_valueOf hflat e.2 (List.mem_map_of_mem he)⟩

/-- Records are nested at the paths that outputs lead through, and nowhere else. -/
theorem nestsAt_convert_iff (hm : m.Distinct) (hsep : Separate m.outputs)
    (hflat : source.FlatAt m.inputs) :
    (m.convert source).NestsAt q ↔ q ≠ [] ∧ ∃ output ∈ m.outputs, Below (segmentsOf output) q := by
  refine and_congr_right fun hq ↦ ⟨?_, ?_⟩
  · rintro ⟨v, hv, hnest⟩
    -- Somewhere below a record with fields there is a leaf, and every leaf is put at an output.
    obtain ⟨rest, w, hw, hleaf⟩ := v.exists_leaf
    have hrest : rest ≠ [] := by
      rintro rfl
      obtain rfl : v = w := Option.some.inj hw
      exact hnest hleaf
    have hat : (m.convert source).at? (q ++ rest) = some w := by
      rw [Record.at?_append, hv, Option.bind_some, hw]
    obtain ⟨output, houtput, hsegments⟩ :=
      (leafAt_convert_iff hm hsep hflat).1 ⟨by simp [hq], w, hat, hleaf⟩
    exact ⟨output, houtput, hsegments ▸ ⟨List.prefix_append q rest, by simpa using hrest⟩⟩
  · rintro ⟨output, houtput, ⟨rest, hsegments⟩, hne⟩
    have hrest : rest ≠ [] := by
      rintro rfl
      exact hne (by simpa using hsegments)
    obtain ⟨e, he, rfl⟩ := List.mem_map.1 houtput
    have hat := at?_convert_of_mem source hm hsep he
    rw [← hsegments, Record.at?_append] at hat
    obtain ⟨v, hv, hbelow⟩ := Option.bind_eq_some_iff.1 hat
    refine ⟨v, hv, fun hleaf ↦ ?_⟩
    simp [Value.at?_of_isLeaf hleaf hrest] at hbelow

end PathMap

end Reshape
