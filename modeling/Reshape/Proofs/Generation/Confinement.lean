import Reshape.Proofs.Generation.Naming

namespace Reshape

/-- What leads one folder down wherever it stands in a path: one name, and none of the dots. -/
structure DiskPath.IsName (name : String) : Prop where
  ne_empty : name ≠ ""
  slash_not_mem : '/' ∉ name.toList
  ne_dot : name ≠ "."
  ne_dots : name ≠ ".."

open DiskPath

theorem FieldGroup.isName_stem (g : FieldGroup) (hne : g.stem ≠ "") : IsName g.stem where
  ne_empty := hne
  slash_not_mem := g.slash_not_mem_stem
  ne_dot := fun hdot ↦ g.dot_not_mem_stem (hdot ▸ List.mem_cons_self)
  ne_dots := fun hdots ↦ g.dot_not_mem_stem (hdots ▸ List.mem_cons_self)

theorem FieldGroup.isName_fileName (g : FieldGroup) {suffix : String} (h : '/' ∉ suffix.toList) :
    IsName (g.stem ++ suffix ++ ".ts") := by
  have hlong := g.two_lt_length_fileName suffix
  refine ⟨g.fileName_ne_empty suffix, g.slash_not_mem_fileName h, ?_, ?_⟩
  · intro hdot
    rw [hdot] at hlong
    exact absurd hlong (by decide)
  · intro hdots
    rw [hdots] at hlong
    exact absurd hlong (by decide)

namespace Project

variable {p : Project} {d : Schema} {g : FieldGroup} {file : OutputFile}

/-- The path of a planned file goes on where the folder for the output ends, by its components as
well as by the place that it leads to. -/
theorem below_outputFolder_of_mem_files (hslashes : ∀ suffix ∈ p.suffixes, '/' ∉ suffix.toList)
    (h : file ∈ (p.filesOf g).files) :
    Below file.path.components p.outputFolder.components ∧
      Below file.path.place p.outputFolder.place := by
  obtain ⟨suffix, habsolute, hsteps⟩ := beyond_outputFolder hslashes h
  obtain ⟨suffix', hplace⟩ := place_of_mem_files hslashes h
  have hdot : "." ∉ (DiskPath.mk g.stem).steps ++ [g.stem ++ suffix ++ ".ts"] :=
    g.not_mem_own (by decide) (by decide) (g.two_lt_length_fileName suffix)
  have hown := components_of_steps hsteps hdot
  have hfolder := components_of_steps (p := p.outputFolder) (List.append_nil _).symm
    (List.not_mem_nil (a := "."))
  rw [List.append_nil, ← habsolute] at hfolder
  rw [hown, ← hfolder, hplace]
  exact ⟨⟨List.prefix_append _ _, by simp⟩, ⟨List.prefix_append _ _, by simp⟩⟩

/-- The folder for the output is always named from the root on, and every planned file lies below
it, in a folder with the name of its group if that makes a name. Whatever the groups are called,
their names do not lead anywhere else; only a suffix with a slash could. -/
theorem planned_below_outputFolder (p : Project) :
    (∃ folder, p.outputFolder = p.root.join folder ∧ ¬ (DiskPath.mk folder).isAbsolute) ∧
    (∀ d all, p.plan d = .ok all → all = d.groups.map p.filesOf) ∧
    ((∀ suffix ∈ p.suffixes, '/' ∉ suffix.toList) → ∀ g, ∀ file ∈ (p.filesOf g).files,
      (∃ folder name, file.path = (p.outputFolder.join folder).join name ∧
        (folder = "" ∨ IsName folder) ∧ IsName name ∧ ".ts".toList <:+ name.toList) ∧
      Below file.path.components p.outputFolder.components ∧
      Below file.path.place p.outputFolder.place) := by
  refine ⟨?_, fun d all hplan ↦ (plan_eq_ok_iff.1 hplan).2, fun hslashes g file hfile ↦
    ⟨?_, below_outputFolder_of_mem_files hslashes hfile⟩⟩
  · obtain ⟨folder, hfolder, hrelative, -⟩ := outputFolder_eq p
    exact ⟨folder, hfolder, hrelative⟩
  · obtain ⟨suffix, hsuffix, hpath⟩ := path_of_mem_files hfile
    refine ⟨g.stem, g.stem ++ suffix ++ ".ts", hpath, ?_,
      g.isName_fileName (hslashes suffix hsuffix), ?_⟩
    · by_cases hempty : g.stem = ""
      · exact .inl hempty
      · exact .inr (g.isName_stem hempty)
    · exact ⟨(g.stem ++ suffix).toList, by simp⟩

/-- Names that would lead out of a folder if they were taken as they are, and one of which nothing
is left, below a folder that leads out of the root. -/
theorem planned_below_outputFolder_hostile :
    let p : Project := ⟨⟨"/a"⟩, { folder := "/\\../b", modelSuffix := "..\\m" }⟩
    let d : Schema := ⟨[⟨"../Etc", []⟩, ⟨"..", []⟩, ⟨"/xs/.y", []⟩]⟩
    p.outputFolder = ⟨"/a/../b"⟩ ∧ (∀ suffix ∈ p.suffixes, '/' ∉ suffix.toList) ∧
      ∃ all, p.plan d = .ok all ∧
        all.map (·.files.head?.map (·.path)) = [some ⟨"/a/../b/etc/etc..\\m.ts"⟩,
          some ⟨"/a/../b/..\\m.ts"⟩, some ⟨"/a/../b/xs-y/xs-y..\\m.ts"⟩] ∧
        ∀ files ∈ all, ∀ file ∈ files.files, Below file.path.place ["b"] := by
  intro p d
  obtain ⟨-, hgroups, hbelow⟩ := planned_below_outputFolder p
  have hslashes : ∀ suffix ∈ p.suffixes, '/' ∉ suffix.toList := by decide
  have hstems : d.groups.map (·.stem) = ["etc", "", "xs-y"] := by decide +kernel
  have hplace : p.outputFolder.place = ["b"] := by decide +kernel
  obtain ⟨all, hplan⟩ : ∃ all, p.plan d = .ok all :=
    (exists_plan_iff hslashes (by decide)).2 (hstems ▸ by decide)
  obtain rfl := hgroups d all hplan
  refine ⟨by decide, hslashes, _, hplan, by decide +kernel, fun files hfiles file hfile ↦ ?_⟩
  obtain ⟨g, -, rfl⟩ := List.mem_map.1 hfiles
  rw [← hplace]
  exact (hbelow hslashes g file hfile).2.2

end Project

end Reshape
