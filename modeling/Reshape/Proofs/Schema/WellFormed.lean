import Mathlib.Tactic.MkIffOfInductiveProp
import Reshape.Proofs.Schema.Reading
import Reshape.Proofs.Text.Lines

namespace Reshape

open Line

/-- A mapping whose parts can stand on one line and be told apart there. -/
@[mk_iff]
structure Mapping.WellFormed (f : Mapping) : Prop where
  path : IsPath f.modelPath.toList
  type : IsType f.type.toList
  target : IsTarget f.entityPath.toList
  path_oneLine : '\n' ∉ f.modelPath.toList
  type_oneLine : '\n' ∉ f.type.toList
  target_oneLine : '\n' ∉ f.entityPath.toList

@[mk_iff]
structure FieldGroup.WellFormed (g : FieldGroup) : Prop where
  name : IsName g.name.toList
  paths : (g.mappings.map (·.modelPath)).Nodup
  mappings : ∀ f ∈ g.mappings, f.WellFormed

@[mk_iff]
structure Schema.WellFormed (d : Schema) : Prop where
  names : d.names.Nodup
  groups : ∀ g ∈ d.groups, g.WellFormed

attribute [mk_iff] Line.IsPath Line.IsType Line.IsTarget

instance (name : List Char) : Decidable (IsName name) := decidable_of_iff _ isName_iff

instance (path : List Char) : Decidable (IsPath path) := decidable_of_iff _ (isPath_iff _).symm

instance (type : List Char) : Decidable (IsType type) := decidable_of_iff _ (isType_iff _).symm

instance (target : List Char) : Decidable (IsTarget target) :=
  decidable_of_iff _ (isTarget_iff _).symm

instance (f : Mapping) : Decidable f.WellFormed := decidable_of_iff _ f.wellFormed_iff.symm

instance (g : FieldGroup) : Decidable g.WellFormed := decidable_of_iff _ g.wellFormed_iff.symm

instance (d : Schema) : Decidable d.WellFormed := decidable_of_iff _ d.wellFormed_iff.symm

def Line.WellFormed : Line → Prop
  | .blank => True
  | .header name => IsName name.toList
  | .mapping f => f.WellFormed

namespace Line

variable {raw side path type target : List Char} {raws : List (List Char)} {l : Line}
  {ls : List Line}

theorem IsPath.isTarget (h : IsPath path) : IsTarget path where
  ne_nil := h.ne_nil
  tight := h.tight
  noArrow := h.noArrow
  noColon := fun hlast ↦ h.noColon (List.mem_of_getLast? hlast)

theorem ModelSide.path_subset (h : ModelSide side path type) : path ⊆ side := by
  obtain ⟨-, -, -, -⟩ := h
  intro c hc
  simp [hc]

theorem ModelSide.type_subset (h : ModelSide side path type) : type ⊆ side := by
  obtain ⟨-, -, -, -⟩ := h
  intro c hc
  simp [hc]

theorem ModelSide.wellFormed (h : ModelSide side path type) (hside : '\n' ∉ side)
    (htarget : IsTarget target) (hline : '\n' ∉ target) :
    Mapping.WellFormed ⟨.ofList path, .ofList type, .ofList target⟩ := by
  have hpath : '\n' ∉ path := fun hmem ↦ hside (h.path_subset hmem)
  have htype : '\n' ∉ type := fun hmem ↦ hside (h.type_subset hmem)
  constructor <;> simp only [String.toList_ofList]
  · exact h.isPath
  · exact h.isType
  · exact htarget
  · exact hpath
  · exact htype
  · exact hline

theorem Core.wellFormed (h : Core raw l) (hraw : '\n' ∉ raw) : l.WellFormed := by
  cases h with
  | header hname hgap => simpa only [WellFormed, String.toList_ofList] using hname
  | plain hside hcolon =>
    exact hside.wellFormed hraw hside.isPath.isTarget fun hmem ↦ hraw (hside.path_subset hmem)
  | pointless hside hgap =>
    simp only [List.mem_append, not_or] at hraw
    exact hside.wellFormed hraw.1.1 hside.isPath.isTarget
      fun hmem ↦ hraw.1.1 (hside.path_subset hmem)
  | placed hside hgap hgap' htarget =>
    simp only [List.mem_append, not_or] at hraw
    exact hside.wellFormed hraw.1.1.1 htarget hraw.2.2

theorem Written.wellFormed (h : Written raw l) (hraw : '\n' ∉ raw) : l.WellFormed := by
  cases h with
  | blank h => trivial
  | core hgap hcore hgap' =>
    simp only [List.mem_append, not_or] at hraw
    exact hcore.wellFormed hraw.1.2

theorem wellFormed_of_forall₂ (h : List.Forall₂ Written raws ls)
    (hraws : ∀ raw ∈ raws, '\n' ∉ raw) : ∀ l ∈ ls, l.WellFormed := by
  induction h with
  | nil => simp
  | @cons raw l raws ls hl hls ih =>
    simp only [List.forall_mem_cons] at hraws ⊢
    exact ⟨hl.wellFormed hraws.1, ih hraws.2⟩

end Line

namespace Schema

variable {ls : List Line} {d : Schema}

/-- Well-formed lines make up a well-formed schema, whatever they repeat. -/
theorem wellFormed_ofLines (h : ∀ l ∈ ls, l.WellFormed) : (ofLines ls).WellFormed := by
  have hnames : (ofLines ls).names = (latest (·.name) (sections ls)).map (·.name) := by
    simp [names, ofLines, FieldGroup.condensed]
  refine ⟨hnames ▸ nodup_map_key_latest _, fun g hg ↦ ?_⟩
  obtain ⟨g', hmem, rfl⟩ := List.mem_map.1 hg
  have hsection : g' ∈ sections ls := mem_of_mem_latest hmem
  refine ⟨h _ (header_mem_of_mem_sections hsection), nodup_map_key_latest _, fun f hf ↦ ?_⟩
  exact h _ (mapping_mem_of_mem_sections hsection (mem_of_mem_latest hf))

theorem WellFormed.group?_eq_some_iff (h : d.WellFormed) {name : String} {g : FieldGroup} :
    d.group? name = some g ↔ g ∈ d.groups ∧ g.name = name := by
  constructor
  · intro hfind
    exact ⟨List.mem_of_find?_eq_some hfind, by simpa using List.find?_some hfind⟩
  · rintro ⟨hg, rfl⟩
    cases hfind : d.group? g.name with
    | none => simpa using List.find?_eq_none.1 hfind g hg
    | some g' =>
      have hg' := List.mem_of_find?_eq_some hfind
      have hname : g'.name = g.name := by simpa using List.find?_some hfind
      rw [List.inj_on_of_nodup_map h.names hg' hg hname]

/-- Whatever a schema is read from, it is well-formed, and looking for a name finds the one group
that has it. -/
theorem wellFormed_of_parse (repeats : Repeats) (text : String) (d : Schema)
    (h : parse repeats text = .ok d) :
    d.WellFormed ∧ ∀ name g, d.group? name = some g ↔ g ∈ d.groups ∧ g.name = name := by
  obtain ⟨ls, hls, -, rfl⟩ := exists_lines_of_parse h
  have hlines := wellFormed_of_forall₂ hls fun raw ↦ Text.lineFeed_not_mem_of_mem_lines
  have hwell := wellFormed_ofLines hlines
  exact ⟨hwell, fun name g ↦ hwell.group?_eq_some_iff⟩

/-- A group that is declared again, a type with colons and a piece of an arrow, and a target that
is left out. -/
theorem wellFormed_of_parse_repeated :
    let text := "a<=>b:\n x: t\nc :\n\n y.z: u<=:v: <=>\r\na<=>b:\n x:=> <=> w>\n x: s"
    let d : Schema := ⟨[⟨"a<=>b", [⟨"x", "s", "x"⟩]⟩, ⟨"c", [⟨"y.z", "u<=:v:", "y.z"⟩]⟩]⟩
    parse .replace text = .ok d ∧ d.WellFormed ∧
      ∀ name g, d.group? name = some g ↔ g ∈ d.groups ∧ g.name = name := by
  intro text d
  have h : parse .replace text = .ok d := by
    dsimp only [text, d]
    rfl
  exact ⟨h, wellFormed_of_parse .replace text d h⟩

end Schema

end Reshape
