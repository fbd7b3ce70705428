import Reshape.Proofs.Schema.WellFormed

namespace Reshape

namespace Line

variable {raw core : List Char} {f : Mapping}

theorem Core.paths_subset (h : Core core (.mapping f)) :
    f.modelPath.toList ⊆ core ∧ f.entityPath.toList ⊆ core := by
  cases h with
  | plain hside hcolon => simpa using hside.path_subset
  | pointless hside hgap =>
    have hpath := hside.path_subset
    simp only [String.toList_ofList, and_self]
    exact fun c hc ↦ by simp [hpath hc]
  | placed hside hgap hgap' htarget =>
    have hpath := hside.path_subset
    simp only [String.toList_ofList]
    exact ⟨fun c hc ↦ by simp [hpath hc], fun c hc ↦ by simp [hc]⟩

theorem Written.paths_subset (h : Written raw (.mapping f)) :
    f.modelPath.toList ⊆ raw ∧ f.entityPath.toList ⊆ raw := by
  cases h with
  | core hgap hcore hgap' =>
    obtain ⟨hmodel, hentity⟩ := hcore.paths_subset
    exact ⟨fun c hc ↦ by simp [hmodel hc], fun c hc ↦ by simp [hentity hc]⟩

end Line

namespace Schema

open Line

variable {ls : List Line} {repeats : Repeats} {text : String} {d : Schema} {g : FieldGroup}
  {f : Mapping}

theorem mapping_mem_of_mem_ofLines (hg : g ∈ (ofLines ls).groups) (hf : f ∈ g.mappings) :
    .mapping f ∈ ls := by
  obtain ⟨g', hmem, rfl⟩ := List.mem_map.1 hg
  exact mapping_mem_of_mem_sections (mem_of_mem_latest hmem) (mem_of_mem_latest hf)

/-- Every mapping of a schema was written on a line of its text. -/
theorem exists_line_of_parse (h : parse repeats text = .ok d) (hg : g ∈ d.groups)
    (hf : f ∈ g.mappings) : ∃ raw ∈ Text.lines text.toList, Line.Written raw (.mapping f) := by
  obtain ⟨ls, hls, -, rfl⟩ := exists_lines_of_parse h
  have hmem : .mapping f ∈ ls := mapping_mem_of_mem_ofLines hg hf
  obtain ⟨i, hi, hget⟩ := List.getElem_of_mem hmem
  have hlen := hls.length_eq
  refine ⟨(Text.lines text.toList)[i], List.getElem_mem _, ?_⟩
  have hwritten := List.Forall₂.get hls (i := i) (by omega) hi
  simpa [hget] using hwritten

theorem schemaWellFormed_of_parse (h : parse repeats text = .ok d) : d.WellFormed := by
  obtain ⟨ls, hls, -, rfl⟩ := exists_lines_of_parse h
  exact wellFormed_ofLines (wellFormed_of_forall₂ hls fun raw ↦ Text.lineFeed_not_mem_of_mem_lines)

end Schema

end Reshape
