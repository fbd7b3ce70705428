import Reshape.Proofs.Generation.Interface
import Reshape.Proofs.TypeScript.Levels

namespace Reshape

open DottedPath Schema TypeScript

theorem stepAfter?_eq_some_iff {p q : List String} {key : String} :
    stepAfter? p q = some key ↔ p ++ [key] <+: q := by
  constructor
  · intro h
    by_cases hprefix : p <+: q
    · obtain ⟨rest, rfl⟩ := hprefix
      cases rest with
      | nil => simp [stepAfter?] at h
      | cons next rest =>
        rw [stepAfter?_append, Option.some_inj] at h
        rw [← h]
        simp
    · simp [stepAfter?, hprefix] at h
  · rintro ⟨rest, rfl⟩
    rw [List.append_assoc, List.singleton_append, stepAfter?_append]

theorem below_segmentsOf_iff {path : String} {q : List String} :
    Below (segmentsOf path) q ↔ q <+: (segmentsOf path).dropLast := by
  have hlast : (segmentsOf path).dropLast ++ [(ofText path).last] = segmentsOf path :=
    (ofText path).dropLast_append_last
  rw [← below_concat_iff, hlast]

/-- Where the items are told apart by a part of their values, that these are distinct can be seen
for each part on its own. -/
theorem nodup_map_iff_forall_filter {α β γ : Type*} [DecidableEq γ] {items : List α} {f : α → β}
    {part : α → γ} (hpart : ∀ a b, f a = f b → part a = part b) :
    (items.map f).Nodup ↔ ∀ c, ((items.filter (part · = c)).map f).Nodup := by
  simp only [List.Nodup, List.pairwise_map, List.pairwise_filter, decide_eq_true_eq]
  constructor
  · exact fun h c ↦ h.imp fun hne _ _ ↦ hne
  · intro h
    refine List.pairwise_iff_forall_sublist.2 fun {a b} hsublist heq ↦ ?_
    exact List.pairwise_iff_forall_sublist.1 (h (part a)) hsublist rfl (hpart a b heq).symm heq

/-- Whether no block of an interface, at whatever level, declares two things by one key: two
members, two blocks, or a member and a block. -/
def DeclaresOnce (text : String) : Prop :=
  ∃ ds, readInterface text = some ds ∧
    ∀ level, ((ds.filter (·.path.dropLast = level)).map (·.path)).Nodup

variable {fields : List TypedPath} {level : List String} {name : String}

def blockKeys (level : List String) (fields : List TypedPath) : List String :=
  (fields.filterMap fun f ↦ stepAfter? level (segmentsOf f.path).dropLast).eraseDups

theorem map_path_declaredAt (level : List String) (fields : List TypedPath) :
    (declaredAt level fields).map (·.path) =
      (fields.filter fun f ↦ (segmentsOf f.path).dropLast = level).map (segmentsOf ·.path) ++
        (blockKeys level fields).map (level ++ [·]) := by
  simp [declaredAt, blockKeys, Function.comp_def]

theorem nodup_blocks (level : List String) (fields : List TypedPath) :
    ((blockKeys level fields).map (level ++ [·])).Nodup := by
  refine (nodup_eraseDups _).map fun key key' h ↦ ?_
  simpa using h

theorem mem_blockKeys_iff {key : String} : key ∈ blockKeys level fields ↔
    ∃ f ∈ fields, Below (segmentsOf f.path) (level ++ [key]) := by
  simp only [blockKeys, List.mem_eraseDups, List.mem_filterMap, stepAfter?_eq_some_iff,
    below_segmentsOf_iff]

theorem mem_blocks_iff {q : List String} :
    q ∈ (blockKeys level fields).map (level ++ [·]) ↔
      q ≠ [] ∧ q.dropLast = level ∧ ∃ f ∈ fields, Below (segmentsOf f.path) q := by
  rw [List.mem_map]
  constructor
  · rintro ⟨key, hkey, rfl⟩
    exact ⟨by simp, List.dropLast_concat, mem_blockKeys_iff.1 hkey⟩
  · rintro ⟨hne, rfl, hbelow⟩
    have hlast := List.dropLast_append_getLast hne
    rw [← hlast] at hbelow
    exact ⟨q.getLast hne, mem_blockKeys_iff.2 hbelow, hlast⟩

theorem nodup_declaredAt_iff : ((declaredAt level fields).map (·.path)).Nodup ↔
    ((fields.filter fun f ↦ (segmentsOf f.path).dropLast = level).map (segmentsOf ·.path)).Nodup ∧
    ∀ f ∈ fields, (segmentsOf f.path).dropLast = level →
      ∀ f' ∈ fields, ¬ Below (segmentsOf f'.path) (segmentsOf f.path) := by
  have hne (f : TypedPath) : segmentsOf f.path ≠ [] := List.cons_ne_nil _ _
  rw [map_path_declaredAt, List.nodup_append', and_iff_right (nodup_blocks level fields)]
  refine and_congr_right fun _ ↦ ?_
  simp only [List.disjoint_left, List.forall_mem_map, List.mem_filter, decide_eq_true_eq,
    mem_blocks_iff, and_imp]
  refine forall₃_congr fun f _ hlevel ↦ ?_
  simp [hne, hlevel]

/-- An interface declares everything once exactly if its fields have different paths of which none
leads through another. -/
theorem declaresOnce_interfaceText_iff (hname : '\n' ∉ name.toList)
    (h : ∀ f ∈ fields, '\n' ∉ f.path.toList ∧ '\n' ∉ f.type.toList) :
    DeclaresOnce (interfaceText name fields) ↔
      (fields.map (·.path)).Nodup ∧ Separate (fields.map (·.path)) := by
  have hlevels : DeclaresOnce (interfaceText name fields) ↔
      ∀ level, ((declaredAt level fields).map (·.path)).Nodup := by
    simp [DeclaresOnce, readInterface_interfaceText hname h, filter_declarations_ofFields]
  have hmembers : (fields.map (·.path)).Nodup ↔ ∀ level, ((fields.filter fun f ↦
      (segmentsOf f.path).dropLast = level).map (segmentsOf ·.path)).Nodup := by
    rw [← nodup_map_iff_forall_filter fun f f' hpath ↦ congrArg List.dropLast hpath,
      ← List.nodup_map_iff segmentsOf_injective, List.map_map]
    rfl
  rw [hlevels, hmembers]
  simp only [nodup_declaredAt_iff, forall_and]
  refine and_congr_right fun _ ↦ ?_
  constructor
  · intro hbelow
    have hnot {f f' : TypedPath} (hf : f ∈ fields) (hf' : f' ∈ fields) :
        ¬ Below (segmentsOf f'.path) (segmentsOf f.path) := hbelow _ f hf rfl f' hf'
    simp only [Separate, List.forall_mem_map]
    intro f hf f' hf' hne
    exact apart_of_not_below (segmentsOf_injective.ne hne) (hnot hf' hf) (hnot hf hf')
  · intro hseparate level f hf hlevel f' hf' hbelow
    have hne : f.path ≠ f'.path := fun hpath ↦ hbelow.2 (congrArg segmentsOf hpath)
    have hapart := hseparate f.path (List.mem_map_of_mem hf) f'.path (List.mem_map_of_mem hf') hne
    exact hapart.1 hbelow.1

namespace Project

/-- The interface of the models declares everything once exactly if no model path leads through
another. That of the entities takes every field as well, and fields may share an entity path: there
these have to differ, too. -/
theorem interfaces_declareOnce_iff_of_parse (repeats : Repeats) (text : String) (d : Schema)
    (h : parse repeats text = .ok d) (p : Project) (g : FieldGroup) (hg : g ∈ d.groups) :
    (∃ contents, (p.filesOf g).contentsOf .model = [contents] ∧
      (DeclaresOnce contents ↔ Separate (g.mappings.map (·.modelPath)))) ∧
    ∃ contents, (p.filesOf g).contentsOf .entity = [contents] ∧
      (DeclaresOnce contents ↔
        (g.mappings.map (·.entityPath)).Nodup ∧ Separate (g.mappings.map (·.entityPath))) := by
  constructor
  · have hpaths : g.modelSide.map (·.path) = g.mappings.map (·.modelPath) := by
      simp [FieldGroup.modelSide]
    have hnodup := ((schemaWellFormed_of_parse h).groups g hg).paths
    have hdeclares := declaresOnce_interfaceText_iff
      (lineFeed_not_mem_type g.name p.options.modelSuffix) (oneLine_modelSide h hg)
    rw [hpaths, and_iff_right hnodup] at hdeclares
    exact ⟨_, p.contentsOf_model g, hdeclares⟩
  · have hpaths : g.entitySide.map (·.path) = g.mappings.map (·.entityPath) := by
      simp [FieldGroup.entitySide]
    have hdeclares := declaresOnce_interfaceText_iff
      (lineFeed_not_mem_type g.name p.options.entitySuffix) (oneLine_entitySide h hg)
    rw [hpaths] at hdeclares
    exact ⟨_, p.contentsOf_entity g, hdeclares⟩

/-- Blocks that are reopened, and on the entity side a member beside a block of its key. -/
theorem interfaces_declareOnce_iff_of_parse_reopened :
    let text := "a:\n x.y: t <=> e.f\n z: t\n x.w.y: u <=> e.f.g\n x.w.z: v"
    let g : FieldGroup := ⟨"a", [⟨"x.y", "t", "e.f"⟩, ⟨"z", "t", "z"⟩, ⟨"x.w.y", "u", "e.f.g"⟩,
      ⟨"x.w.z", "v", "x.w.z"⟩]⟩
    let p : Project := ⟨⟨"."⟩, {}⟩
    parse .refuse text = .ok ⟨[g]⟩ ∧
      (∃ contents, (p.filesOf g).contentsOf .model = [contents] ∧ DeclaresOnce contents) ∧
      ∃ contents, (p.filesOf g).contentsOf .entity = [contents] ∧ ¬ DeclaresOnce contents := by
  intro text g p
  have hparse : parse .refuse text = .ok ⟨[g]⟩ := by
    dsimp only [text, g]
    rfl
  obtain ⟨⟨model, hmodel, hmodelOnce⟩, entity, hentity, hentityOnce⟩ :=
    interfaces_declareOnce_iff_of_parse .refuse text ⟨[g]⟩ hparse p g List.mem_cons_self
  exact ⟨hparse, ⟨model, hmodel, hmodelOnce.2 (by decide)⟩, entity, hentity,
    fun honce ↦ absurd (hentityOnce.1 honce).2 (by decide)⟩

/-- Fields that share an entity path are declared each by itself. -/
theorem entityInterface_repeats_shared_path :
    let text := "a:\n  x: t <=> e\n  y: t <=> e\n"
    let g : FieldGroup := ⟨"a", [⟨"x", "t", "e"⟩, ⟨"y", "t", "e"⟩]⟩
    let p : Project := ⟨⟨"."⟩, {}⟩
    let contents := "export interface AEntity \x7b\n  e: t\n  e: t\n\x7d\n"
    parse .refuse text = .ok ⟨[g]⟩ ∧ (p.filesOf g).contentsOf .entity = [contents] ∧
      ¬ DeclaresOnce contents := by
  intro text g p contents
  have hparse : parse .refuse text = .ok ⟨[g]⟩ := by
    dsimp only [text, g]
    rfl
  have hcontents : contents = interfaceText "AEntity" [⟨"e", "t"⟩, ⟨"e", "t"⟩] := by decide +kernel
  have hname : Words.pascal "a" ++ Words.pascal ".entity" = "AEntity" := by decide +kernel
  refine ⟨hparse, ?_, fun honce ↦ ?_⟩
  · rw [p.contentsOf_entity g, hcontents, ← hname]
    rfl
  · rw [hcontents, declaresOnce_interfaceText_iff (by decide) (by decide)] at honce
    exact absurd honce.1 (by decide)

end Project

end Reshape
