import Reshape.Proofs.Generation.Binding
import Reshape.Proofs.Generation.Naming
import Reshape.Proofs.TypeScript.BoundNames
import Reshape.Proofs.Words.Letters

namespace Reshape

open Text Words TypeScript MapperModule

structure TypeScript.MapperModule.WellNamed (m : MapperModule) : Prop where
  nodup : m.boundNames.Nodup
  identifiers : ∀ name ∈ m.boundNames, IsIdentifier name

theorem Words.pascal_mapper : pascal "Mapper" = "Mapper" := by decide +kernel

theorem append_not_mem {s ending : String} {names : List String} (hne : ending.toList ≠ [])
    (hlast : ∀ name ∈ names, ending.toList.getLast? ≠ name.toList.getLast?) :
    s ++ ending ∉ names := by
  intro hmem
  refine hlast _ hmem ?_
  rw [String.toList_append, List.getLast?_append_of_ne_nil _ hne]

theorem Words.bare_pascal_append (s : String) {t : String} (h : Bare t) :
    Bare (pascal s ++ t) := by
  intro c hc hmark
  rw [String.toList_append, List.mem_append] at hc
  rcases hc with hc | hc
  · have hword := wordlike_pascal hc
    simp only [List.mem_cons, List.not_mem_nil, or_false] at hmark
    rcases hmark with rfl | rfl | rfl | rfl | rfl <;> exact absurd hword (by decide)
  · exact h c hc hmark

namespace Project

variable {p : Project} {g : FieldGroup}

/-- The names that a mapper binds stand in its text, and no path or folder adds one to them. -/
theorem readNames_mapperOf (p : Project) (g : FieldGroup) (pairs : List (String × String)) :
    readNames ((p.mapperOf g).render pairs) = (p.mapperOf g).boundNames := by
  have hpascal (s : String) : Bare (pascal s) := by
    simpa using bare_pascal_append s (t := "") (fun _ hc ↦ nomatch hc)
  have hmapper : Bare "Mapper" := by simp [Bare]
  have hentity : Bare (p.mapperOf g).entity.type :=
    bare_pascal_append g.name (hpascal p.options.entitySuffix)
  have hmodel : Bare (p.mapperOf g).model.type :=
    bare_pascal_append g.name (hpascal p.options.modelSuffix)
  exact readNames_render hentity hmodel (bare_pascal_append g.name hmapper) pairs

theorem boundNames_mapperOf (p : Project) (g : FieldGroup) : (p.mapperOf g).boundNames =
    ["Mapper", "TransformationMap", pascal g.name ++ pascal p.options.entitySuffix,
      pascal g.name ++ pascal p.options.modelSuffix, pascal g.name ++ "Mapper"] := rfl

theorem boundNames_nodup_iff : (p.mapperOf g).boundNames.Nodup ↔
    (∃ c ∈ g.name.toList, isAlphanumeric c) ∧
    [pascal p.options.entitySuffix, pascal p.options.modelSuffix, "Mapper"].Nodup ∧
    ∀ name ∈ [(p.mapperOf g).entity.type, (p.mapperOf g).model.type],
      name ∉ ["Mapper", "TransformationMap"] := by
  let runtime := ["Mapper", "TransformationMap"]
  let endings := [pascal p.options.entitySuffix, pascal p.options.modelSuffix, "Mapper"]
  let own := endings.map (pascal g.name ++ ·)
  have hendings : own.Nodup ↔ endings.Nodup :=
    List.nodup_map_iff fun a b h ↦ (String.append_right_inj (pascal g.name)).1 h
  have hmapper : pascal g.name ++ "Mapper" ∉ runtime ↔ pascal g.name ≠ "" := by
    have hother : pascal g.name ++ "Mapper" ∉ ["TransformationMap"] :=
      append_not_mem (by decide) (by decide)
    rw [List.mem_cons, not_or, and_iff_left hother, String.append_eq_right_iff]
  have hown : own = [(p.mapperOf g).entity.type, (p.mapperOf g).model.type] ++
      [pascal g.name ++ "Mapper"] := rfl
  have hruntime : runtime.Nodup := by decide
  calc (runtime ++ own).Nodup
    _ ↔ own.Nodup ∧ ∀ name ∈ own, name ∉ runtime := by
      rw [List.nodup_append', and_iff_right hruntime, List.disjoint_right]
    _ ↔ _ := by
      rw [hendings, hown, List.forall_mem_append, List.forall_mem_singleton, hmapper,
        pascal_ne_empty_iff]
      exact ⟨fun ⟨h, hnames, hne⟩ ↦ ⟨hne, h, hnames⟩, fun ⟨hne, h, hnames⟩ ↦ ⟨h, hnames, hne⟩⟩

theorem forall_isIdentifier_iff : (∀ name ∈ (p.mapperOf g).boundNames, IsIdentifier name) ↔
    ∀ suffix ∈ [p.options.entitySuffix, p.options.modelSuffix, "Mapper"],
      Nameable ((words g.name).flatten ++ (words suffix).flatten) := by
  have hruntime : IsIdentifier "Mapper" ∧ IsIdentifier "TransformationMap" := by decide +kernel
  have hmapper := isIdentifier_pascal_append g.name "Mapper"
  rw [pascal_mapper] at hmapper
  rw [boundNames_mapperOf]
  simp only [List.forall_mem_cons, List.not_mem_nil, false_implies, implies_true, hruntime,
    true_and, isIdentifier_pascal_append, hmapper]

/-- Where the suffixes are the default ones, all depends on the name of the group. -/
theorem wellNamed_iff_of_default (hentity : p.options.entitySuffix = ".entity")
    (hmodel : p.options.modelSuffix = ".model") :
    (p.mapperOf g).WellNamed ↔ Nameable (words g.name).flatten := by
  have hpascal : pascal ".entity" = "Entity" ∧ pascal ".model" = "Model" := by decide +kernel
  have hsuffixes : ∀ suffix ∈ [".entity", ".model", "Mapper"],
      (words suffix).flatten.all continuesIdentifier := by decide +kernel
  constructor
  · rintro ⟨hnodup, hidentifiers⟩
    have hne := flatten_words_ne_nil_iff.2 (boundNames_nodup_iff.1 hnodup).1
    have hmapper := forall_isIdentifier_iff.1 hidentifiers "Mapper" (by simp)
    exact ((nameable_append hne).1 hmapper).1
  · intro hname
    refine ⟨boundNames_nodup_iff.2 ⟨flatten_words_ne_nil_iff.1 hname.ne_nil, ?_, ?_⟩,
      forall_isIdentifier_iff.2 fun suffix hsuffix ↦ ?_⟩
    · rw [hentity, hmodel, hpascal.1, hpascal.2]
      decide
    · simp only [mapperOf, hentity, hmodel, hpascal, List.forall_mem_cons]
      exact ⟨append_not_mem (by decide) (by decide), append_not_mem (by decide) (by decide),
        by simp⟩
    · rw [hentity, hmodel] at hsuffix
      have hletters := List.all_eq_true.1 (hsuffixes suffix hsuffix)
      exact (nameable_append hname.ne_nil).2 ⟨hname, hletters⟩

/-- The names that a generated mapper binds, as its text has them, are the name of the group before
each ending, all in Pascal case, and nothing looks at them. They differ exactly if something is
left of the group's name, the endings differ, and no interface is named as what the runtime
exports. They are identifiers exactly if the letters that are put together make names, so with the
default suffixes only the name of the group matters. Separators leave no trace unless a mark
belongs to one. -/
theorem mapper_names (p : Project) :
    (∀ d all, p.plan d = .ok all → all.map (·.contentsOf .mapper) =
      d.groups.map fun g ↦ [(p.mapperOf g).render g.pairs]) ∧
    (∀ g, readNames ((p.mapperOf g).render g.pairs) = (p.mapperOf g).boundNames ∧
      (p.mapperOf g).boundNames =
        ["Mapper", "TransformationMap", pascal g.name ++ pascal p.options.entitySuffix,
          pascal g.name ++ pascal p.options.modelSuffix, pascal g.name ++ "Mapper"] ∧
      ((p.mapperOf g).boundNames.Nodup ↔ (∃ c ∈ g.name.toList, isAlphanumeric c) ∧
        [pascal p.options.entitySuffix, pascal p.options.modelSuffix, "Mapper"].Nodup ∧
        ∀ name ∈ [(p.mapperOf g).entity.type, (p.mapperOf g).model.type],
          name ∉ ["Mapper", "TransformationMap"]) ∧
      ((∀ name ∈ (p.mapperOf g).boundNames, IsIdentifier name) ↔
        ∀ suffix ∈ [p.options.entitySuffix, p.options.modelSuffix, "Mapper"],
          Nameable ((words g.name).flatten ++ (words suffix).flatten))) ∧
    (p.options.entitySuffix = ".entity" → p.options.modelSuffix = ".model" →
      ∀ g, (p.mapperOf g).WellNamed ↔ Nameable (words g.name).flatten) ∧
    ∀ s, Separated s → (words s).flatten = s.toList.filter isAlphanumeric := by
  refine ⟨fun d all hplan ↦ ?_, fun g ↦
      ⟨readNames_mapperOf p g g.pairs, rfl, boundNames_nodup_iff, forall_isIdentifier_iff⟩,
    fun hentity hmodel g ↦ wellNamed_iff_of_default hentity hmodel,
    fun s ↦ flatten_words_of_separated⟩
  rw [(plan_eq_ok_iff.1 hplan).2, List.map_map]
  exact List.map_congr_left fun g _ ↦ p.contentsOf_mapper g

/-- A name with separators, a number and a letter that is not ASCII. -/
theorem mapper_names_separated :
    let text := "\xdcber_2:\n  id: t\n"
    let p : Project := ⟨⟨"/project"⟩, {}⟩
    let g : FieldGroup := ⟨"\xdcber_2", [⟨"id", "t", "id"⟩]⟩
    Schema.parse .refuse text = .ok ⟨[g]⟩ ∧ Separated g.name ∧ (p.mapperOf g).WellNamed ∧
      (p.mapperOf g).name = "\xdcber2Mapper" ∧
      ∃ all, p.plan ⟨[g]⟩ = .ok all ∧
        all.map (·.contentsOf .mapper) = [[(p.mapperOf g).render g.pairs]] := by
  intro text p g
  have hparse : Schema.parse .refuse text = .ok ⟨[g]⟩ := by
    dsimp only [text, g]
    rfl
  have hseparated : Separated g.name := by decide +kernel
  have hletters : Nameable (g.name.toList.filter isAlphanumeric) := by decide +kernel
  obtain ⟨hcontents, -, hdefault, hwords⟩ := mapper_names p
  rw [← hwords g.name hseparated] at hletters
  obtain ⟨all, hplan⟩ : ∃ all, p.plan ⟨[g]⟩ = .ok all :=
    (exists_plan_iff (by decide) (by decide)).2 (List.nodup_singleton _)
  exact ⟨hparse, hseparated, (hdefault rfl rfl g).2 hletters, by decide +kernel, all, hplan,
    hcontents ⟨[g]⟩ all hplan⟩

/-- A name that begins with a digit, and one of which nothing is left. -/
theorem mapper_names_unfit :
    let text := "1:\n  id: t\n-:\n  id: t\n"
    let p : Project := ⟨⟨"/project"⟩, {}⟩
    let d : Schema := ⟨[⟨"1", [⟨"id", "t", "id"⟩]⟩, ⟨"-", [⟨"id", "t", "id"⟩]⟩]⟩
    Schema.parse .refuse text = .ok d ∧ (∃ all, p.plan d = .ok all) ∧
      d.groups.map (fun g ↦ readNames ((p.mapperOf g).render g.pairs)) =
        [["Mapper", "TransformationMap", "1Entity", "1Model", "1Mapper"],
          ["Mapper", "TransformationMap", "Entity", "Model", "Mapper"]] ∧
      ¬ IsIdentifier "1Entity" ∧
      ¬ ["Mapper", "TransformationMap", "Entity", "Model", "Mapper"].Nodup := by
  intro text p d
  have hparse : Schema.parse .refuse text = .ok d := by
    dsimp only [text, d]
    rfl
  have hstems : d.groups.map (·.stem) = ["1", ""] := by decide +kernel
  have hplan : ∃ all, p.plan d = .ok all :=
    (exists_plan_iff (by decide) (by decide)).2 (hstems ▸ by decide)
  refine ⟨hparse, hplan, ?_, by decide +kernel, by decide⟩
  simp only [readNames_mapperOf]
  decide +kernel

end Project

end Reshape
