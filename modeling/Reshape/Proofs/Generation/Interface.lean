import Reshape.Conversion.Converter
import Reshape.Proofs.Conversion.Shape
import Reshape.Proofs.Generation.Binding
import Reshape.Proofs.TypeScript.Declarations

namespace Reshape

open DottedPath Schema TypeScript

/-- Whether an interface declares a member for every leaf of a record, a block for every record
nested in it, and nothing else. -/
def Describes (text : String) (r : Record) : Prop :=
  ∃ ds, readInterface text = some ds ∧
    (∀ q, (∃ type, .member q type ∈ ds) ↔ r.LeafAt q) ∧ ∀ q, .block q ∈ ds ↔ r.NestsAt q

namespace Project

variable (p : Project) (g : FieldGroup)

def modelInterface : String :=
  interfaceText (Words.pascal g.name ++ Words.pascal p.options.modelSuffix) g.modelSide

def entityInterface : String :=
  interfaceText (Words.pascal g.name ++ Words.pascal p.options.entitySuffix) g.entitySide

theorem contentsOf_model : (p.filesOf g).contentsOf .model = [p.modelInterface g] := by
  simp [GroupFiles.contentsOf, filesOf, modelInterface]

theorem contentsOf_entity : (p.filesOf g).contentsOf .entity = [p.entityInterface g] := by
  simp [GroupFiles.contentsOf, filesOf, entityInterface]

end Project

variable {m : PathMap} {source : Record} {fields : List TypedPath} {name text : String}
  {repeats : Repeats} {d : Schema} {g : FieldGroup}

/-- An interface of fields describes what a conversion to their paths makes. -/
theorem describes_convert (hm : m.Distinct) (hsep : Separate m.outputs)
    (hflat : source.FlatAt m.inputs) (hpaths : fields.map (·.path) = m.outputs)
    (hname : '\n' ∉ name.toList)
    (hfields : ∀ f ∈ fields, '\n' ∉ f.path.toList ∧ '\n' ∉ f.type.toList) :
    Describes (interfaceText name fields) (m.convert source) := by
  have hmem (P : String → Prop) : (∃ output ∈ m.outputs, P output) ↔ ∃ f ∈ fields, P f.path := by
    simp [← hpaths]
  refine ⟨_, readInterface_interfaceText hname hfields, fun q ↦ ?_, fun q ↦ ?_⟩
  · rw [Block.member_mem_ofFields, PathMap.leafAt_convert_iff hm hsep hflat, hmem]
  · rw [Block.block_mem_ofFields, PathMap.nestsAt_convert_iff hm hsep hflat, hmem]

namespace Project

theorem outputs_pairs (g : FieldGroup) :
    PathMap.outputs g.pairs = g.mappings.map (·.modelPath) := by
  simp [PathMap.outputs, Keyed.keys, FieldGroup.pairs]

theorem inputs_pairs (g : FieldGroup) :
    PathMap.inputs g.pairs = g.mappings.map (·.entityPath) := by
  simp [PathMap.inputs, FieldGroup.pairs]

theorem oneLine_modelSide (h : parse repeats text = .ok d) (hg : g ∈ d.groups) :
    ∀ f ∈ g.modelSide, '\n' ∉ f.path.toList ∧ '\n' ∉ f.type.toList := by
  intro f hf
  obtain ⟨mapping, hmem, rfl⟩ := List.mem_map.1 hf
  have hwell := ((schemaWellFormed_of_parse h).groups g hg).mappings mapping hmem
  exact ⟨hwell.path_oneLine, hwell.type_oneLine⟩

theorem oneLine_entitySide (h : parse repeats text = .ok d) (hg : g ∈ d.groups) :
    ∀ f ∈ g.entitySide, '\n' ∉ f.path.toList ∧ '\n' ∉ f.type.toList := by
  intro f hf
  obtain ⟨mapping, hmem, rfl⟩ := List.mem_map.1 hf
  have hwell := ((schemaWellFormed_of_parse h).groups g hg).mappings mapping hmem
  exact ⟨hwell.target_oneLine, hwell.type_oneLine⟩

theorem describes_modelOf (h : parse repeats text = .ok d) (hg : g ∈ d.groups) (p : Project)
    (hsep : Separate (g.mappings.map (·.modelPath))) {entity : Record}
    (hflat : entity.FlatAt (g.mappings.map (·.entityPath))) :
    Describes (p.modelInterface g) ((Converter.ofGroup g).modelOf entity) := by
  have hmodel : (Converter.ofGroup g).modelOf entity = PathMap.convert g.pairs entity :=
    congrArg (PathMap.convert · entity) (PathMap.ofGroup_of_parse h hg)
  have hdistinct : Keyed.Distinct g.pairs := PathMap.ofGroup_of_parse h hg ▸ Keyed.distinct_ofList _
  rw [← outputs_pairs] at hsep
  rw [← inputs_pairs] at hflat
  rw [hmodel]
  refine describes_convert hdistinct hsep hflat ?_ (lineFeed_not_mem_type _ _) (oneLine_modelSide h hg)
  rw [outputs_pairs]
  simp [FieldGroup.modelSide]

theorem describes_entityOf (h : parse repeats text = .ok d) (hg : g ∈ d.groups) (p : Project)
    (hnodup : (g.mappings.map (·.entityPath)).Nodup)
    (hsep : Separate (g.mappings.map (·.entityPath))) {model : Record}
    (hflat : model.FlatAt (g.mappings.map (·.modelPath))) :
    Describes (p.entityInterface g) ((Converter.ofGroup g).entityOf model) := by
  have hentity : (Converter.ofGroup g).entityOf model =
      (PathMap.inverse g.pairs).convert model :=
    congrArg (fun m ↦ (PathMap.inverse m).convert model) (PathMap.ofGroup_of_parse h hg)
  rw [← inputs_pairs] at hnodup hsep
  rw [← outputs_pairs] at hflat
  have hread : PathMap.inputsDistinct g.pairs := by simpa [PathMap.inputsDistinct] using hnodup
  have houtputs : (PathMap.inverse g.pairs).outputs = PathMap.inputs g.pairs := by
    rw [PathMap.inverse_of_inputsDistinct hread]
    exact PathMap.keys_swap _
  rw [← houtputs] at hsep
  rw [← PathMap.inputs_inverse hread] at hflat
  rw [hentity]
  refine describes_convert (PathMap.distinct_inverse _) hsep hflat ?_
    (lineFeed_not_mem_type _ _) (oneLine_entitySide h hg)
  rw [houtputs, inputs_pairs]
  simp [FieldGroup.entitySide]

/-- Each generated interface describes what conversions to its side make. Where a path that is
read led to a record with fields, those would be missing in the interface; and of two fields with
one entity path, entities hold but one. The blocks of an interface are the ones that texts cut at
their first dots, level by level, are put into (`Block.ofFields_eq_node`). -/
theorem interfaces_describe_of_parse (repeats : Repeats) (text : String) (d : Schema)
    (h : parse repeats text = .ok d) (p : Project) (g : FieldGroup) (hg : g ∈ d.groups) :
    (Separate (g.mappings.map (·.modelPath)) →
      ∀ entity : Record, entity.FlatAt (g.mappings.map (·.entityPath)) →
        ∃ contents, (p.filesOf g).contentsOf .model = [contents] ∧
          Describes contents ((Converter.ofGroup g).modelOf entity)) ∧
    ((g.mappings.map (·.entityPath)).Nodup → Separate (g.mappings.map (·.entityPath)) →
      ∀ model : Record, model.FlatAt (g.mappings.map (·.modelPath)) →
        ∃ contents, (p.filesOf g).contentsOf .entity = [contents] ∧
          Describes contents ((Converter.ofGroup g).entityOf model)) :=
  ⟨fun hsep _ hflat ↦ ⟨_, p.contentsOf_model g, describes_modelOf h hg p hsep hflat⟩,
    fun hnodup hsep _ hflat ↦
      ⟨_, p.contentsOf_entity g, describes_entityOf h hg p hnodup hsep hflat⟩⟩

/-- Blocks that are reopened, empty and quoted keys, and types that look like braces. -/
theorem interfaces_describe_of_parse_nested :
    let text := "a_b:\n at.no: \x7b <=> \x7d\n id: t\n at..x: \x7b\n" ++
      " it's: u <=> .at.id\n at.zip: \x7d <=> .at."
    let g : FieldGroup := ⟨"a_b", [⟨"at.no", "\x7b", "\x7d"⟩, ⟨"id", "t", "id"⟩,
      ⟨"at..x", "\x7b", "at..x"⟩, ⟨"it's", "u", ".at.id"⟩, ⟨"at.zip", "\x7d", ".at."⟩]⟩
    let p : Project := ⟨⟨"."⟩, {}⟩
    let entity : Record := [("id", .record []), ("", .record [("at", .record [("", .null)])])]
    let model : Record := [("id", .string "\n"), ("at", .record [("zip", .unsigned 7)])]
    parse .replace text = .ok ⟨[g]⟩ ∧
      (∃ contents, (p.filesOf g).contentsOf .model = [contents] ∧
        Describes contents ((Converter.ofGroup g).modelOf entity)) ∧
      ∃ contents, (p.filesOf g).contentsOf .entity = [contents] ∧
        Describes contents ((Converter.ofGroup g).entityOf model) := by
  intro text g p entity model
  have hparse : parse .replace text = .ok ⟨[g]⟩ := by
    dsimp only [text, g]
    rfl
  obtain ⟨hmodel, hentity⟩ :=
    interfaces_describe_of_parse .replace text ⟨[g]⟩ hparse p g List.mem_cons_self
  exact ⟨hparse, hmodel (by decide) entity (by decide),
    hentity (by decide) (by decide) model (by decide)⟩

end Project

end Reshape
