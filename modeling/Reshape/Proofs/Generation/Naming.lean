import Reshape.Proofs.Generation.Collision
import Reshape.Proofs.Words.Boundaries

namespace Reshape

open Words

/-- Two files have one path if their groups have one stem and they have one ending. -/
theorem Project.same_join_iff (folder : DiskPath) (g g' : FieldGroup) {suffix suffix' : String}
    (hsuffix : '/' ∉ suffix.toList) (hsuffix' : '/' ∉ suffix'.toList) :
    ((folder.join g.stem).join (g.stem ++ suffix ++ ".ts")).same
      ((folder.join g'.stem).join (g'.stem ++ suffix' ++ ".ts")) ↔
        g.stem = g'.stem ∧ suffix = suffix' := by
  constructor
  · intro hsame
    obtain ⟨habsolute, hown⟩ := folder.join_join g.slash_not_mem_stem
      (g.slash_not_mem_fileName hsuffix) (g.fileName_ne_empty suffix)
    obtain ⟨habsolute', hown'⟩ := folder.join_join g'.slash_not_mem_stem
      (g'.slash_not_mem_fileName hsuffix') (g'.fileName_ne_empty suffix')
    have hdot (g : FieldGroup) (suffix : String) :
        "." ∉ (DiskPath.mk g.stem).steps ++ [g.stem ++ suffix ++ ".ts"] :=
      g.not_mem_own (by decide) (by decide) (g.two_lt_length_fileName suffix)
    rw [DiskPath.same_iff, DiskPath.components_of_steps hown (hdot g suffix),
      DiskPath.components_of_steps hown' (hdot g' suffix'), habsolute, habsolute'] at hsame
    obtain ⟨hstems, hnames⟩ := List.append_inj' (List.append_cancel_left hsame) (by simp)
    have hstem :=
      DiskPath.steps_injective_of_not_mem g.slash_not_mem_stem g'.slash_not_mem_stem hstems
    refine ⟨hstem, ?_⟩
    rw [hstem] at hnames
    have hlist := congrArg String.toList (List.singleton_inj.1 hnames)
    simp only [String.toList_append, List.append_assoc] at hlist
    exact String.toList_injective (List.append_cancel_right (List.append_cancel_left hlist))
  · rintro ⟨hstem, rfl⟩
    rw [hstem, DiskPath.same_iff]

namespace Project
variable {p : Project} {d : Schema}

def pathOf (p : Project) (g : FieldGroup) (suffix : String) : DiskPath :=
  (p.outputFolder.join g.stem).join (g.stem ++ suffix ++ ".ts")

theorem map_path_filesOf (p : Project) (g : FieldGroup) :
    (p.filesOf g).files.map (·.path) = p.suffixes.map (p.pathOf g) := by
  simp only [filesOf, suffixes, pathOf, FieldGroup.stem, List.map_cons, List.map_nil]

theorem allOutputs_eq (p : Project) (d : Schema) : p.allOutputs d =
    d.groups.flatMap fun g ↦ p.suffixes.map fun suffix ↦ (g.name, p.pathOf g suffix) := by
  rw [allOutputs, GroupFiles.outputs, List.flatMap_map]
  refine List.flatMap_congr fun g _ ↦ ?_
  have hpaths := congrArg (List.map (g.name, ·)) (p.map_path_filesOf g)
  rw [List.map_map, List.map_map] at hpaths
  exact hpaths

theorem exists_plan_iff (hslash : ∀ suffix ∈ p.suffixes, '/' ∉ suffix.toList)
    (hnodup : p.suffixes.Nodup) :
    (∃ all, p.plan d = .ok all) ↔ (d.groups.map (·.stem)).Nodup := by
  have hplan : (∃ all, p.plan d = .ok all) ↔ PathsDiffer (p.allOutputs d) := by
    simp [plan_eq_ok_iff]
  have hsame (g g' : FieldGroup) {suffix suffix' : String} (hsuffix : suffix ∈ p.suffixes)
      (hsuffix' : suffix' ∈ p.suffixes) : (p.pathOf g suffix).same (p.pathOf g' suffix') ↔
        g.stem = g'.stem ∧ suffix = suffix' :=
    same_join_iff p.outputFolder g g' (hslash suffix hsuffix) (hslash suffix' hsuffix')
  rw [hplan, allOutputs_eq, PathsDiffer, List.pairwise_flatMap, List.Nodup, List.pairwise_map]
  simp only [List.pairwise_map, List.forall_mem_map]
  constructor
  · rintro ⟨-, hgroups⟩
    have hmem : p.options.modelSuffix ∈ p.suffixes := List.mem_cons_self
    refine hgroups.imp fun {g g'} hdiffer hstem ↦ ?_
    exact hdiffer _ hmem _ hmem ((hsame g g' hmem hmem).2 ⟨hstem, rfl⟩)
  · intro hgroups
    refine ⟨fun g _ ↦ ?_, hgroups.imp fun {g g'} hstem suffix hsuffix suffix' hsuffix' hpaths ↦ ?_⟩
    · refine hnodup.imp_of_mem fun {suffix suffix'} hsuffix hsuffix' hne hpaths ↦ ?_
      exact hne ((hsame g g hsuffix hsuffix').1 hpaths).2
    · exact hstem ((hsame g g' hsuffix hsuffix').1 hpaths).1

/-- The three files of a group are named after its stem, in a folder of that name. The stem is made
of the words of the group, in lower case with hyphens between them, as long as the words stay apart
when the type is named; numbers that follow one another do not, nor do single letters, and what is
left out between two separators leaves no trace. A plan fails only for stems that are equal. -/
theorem plan_naming (p : Project) :
    (∀ g, (p.filesOf g).files.map (·.path) = p.suffixes.map (p.pathOf g)) ∧
    (∀ g : FieldGroup, PlainName g.name →
      g.stem = hyphenated (fused ((words g.name).filter (· ≠ []))) ∧
        (g.stem = kebab g.name ↔ Kept (words g.name))) ∧
    ((∀ suffix ∈ p.suffixes, '/' ∉ suffix.toList) → p.suffixes.Nodup → ∀ d : Schema,
      ((∃ all, p.plan d = .ok all) ↔ (d.groups.map (·.stem)).Nodup) ∧
      ((∀ g ∈ d.groups, PlainName g.name ∧ Kept (words g.name)) →
        ((∃ all, p.plan d = .ok all) ↔ (d.groups.map (kebab ·.name)).Nodup))) := by
  refine ⟨p.map_path_filesOf, fun g hplain ↦ ⟨kebab_pascal hplain, kebab_pascal_eq_iff hplain⟩, ?_⟩
  intro hslash hnodup d
  have hstems := exists_plan_iff (d := d) hslash hnodup
  refine ⟨hstems, fun hkept ↦ ?_⟩
  have hnames : d.groups.map (·.stem) = d.groups.map (kebab ·.name) := by
    refine List.map_congr_left fun g hg ↦ ?_
    obtain ⟨hplain, hwords⟩ := hkept g hg
    have hstem : g.stem = kebab g.name := (kebab_pascal_eq_iff hplain).2 hwords
    exact hstem
  rw [hstems, hnames]

/-- Acronyms, letters beside numbers and a letter that is not ASCII. -/
theorem plan_naming_words :
    let p : Project := ⟨⟨"/project"⟩, {}⟩
    let d : Schema := ⟨[⟨"HTMLPage2", []⟩, ⟨"x_yz", []⟩, ⟨"h\xfcteB", []⟩]⟩
    (∀ g ∈ d.groups, PlainName g.name ∧ Kept (words g.name)) ∧
      d.groups.map (·.stem) = ["html-page-2", "x-yz", "h\xfcte-b"] ∧ ∃ all, p.plan d = .ok all := by
  intro p d
  obtain ⟨-, hstem, hplan⟩ := plan_naming p
  have hkept : ∀ g ∈ d.groups, PlainName g.name ∧ Kept (words g.name) := by decide +kernel
  have hnames : d.groups.map (kebab ·.name) = ["html-page-2", "x-yz", "h\xfcte-b"] := by
    decide +kernel
  have hstems : d.groups.map (·.stem) = d.groups.map (kebab ·.name) :=
    List.map_congr_left fun g hg ↦ (hstem g (hkept g hg).1).2.2 (hkept g hg).2
  refine ⟨hkept, hstems.trans hnames, ?_⟩
  refine ((hplan (by decide) (by decide) d).2 hkept).2 ?_
  rw [hnames]
  decide

/-- Single letters run into one another, so a group is taken for one that has another name. -/
theorem plan_refuses_single_letters :
    let text := "a_b_c:\n  id: t\nabc:\n  id: t\n"
    let p : Project := ⟨⟨"/project"⟩, {}⟩
    let d : Schema := ⟨[⟨"a_b_c", [⟨"id", "t", "id"⟩]⟩, ⟨"abc", [⟨"id", "t", "id"⟩]⟩]⟩
    Schema.parse .refuse text = .ok d ∧ p.suffixes.Nodup ∧
      d.groups.map (kebab ·.name) = ["a-b-c", "abc"] ∧ d.groups.map (·.stem) = ["abc", "abc"] ∧
      p.plan d = .error ⟨⟨"/project/app/abc/abc.model.ts"⟩, "a_b_c", "abc"⟩ := by
  intro text p d
  have hparse : Schema.parse .refuse text = .ok d := by
    dsimp only [text, d]
    rfl
  have hfirst : firstCollision [] (p.allOutputs d) =
      some ⟨⟨"/project/app/abc/abc.model.ts"⟩, "a_b_c", "abc"⟩ := by decide +kernel
  rw [allOutputs] at hfirst
  refine ⟨hparse, by decide, by decide +kernel, by decide +kernel, ?_⟩
  rw [plan, hfirst]

end Project

end Reshape
