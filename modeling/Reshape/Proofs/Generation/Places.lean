import Reshape.Proofs.Disk.Parent
import Reshape.Proofs.Generation.Clearing
import Reshape.Proofs.Words

namespace Reshape

open FileTree

variable {g : FieldGroup} {file : OutputFile}

theorem FieldGroup.slash_not_mem_stem (g : FieldGroup) : '/' ∉ g.stem.toList := by
  intro h
  exact absurd (Words.wordlike_kebab h) (by decide)

theorem FieldGroup.dot_not_mem_stem (g : FieldGroup) : '.' ∉ g.stem.toList := by
  intro h
  exact absurd (Words.wordlike_kebab h) (by decide)

theorem FieldGroup.slash_not_mem_fileName (g : FieldGroup) {suffix : String}
    (h : '/' ∉ suffix.toList) : '/' ∉ (g.stem ++ suffix ++ ".ts").toList := by
  simp [g.slash_not_mem_stem, h]

theorem FieldGroup.two_lt_length_fileName (g : FieldGroup) (suffix : String) :
    2 < (g.stem ++ suffix ++ ".ts").toList.length := by
  have hts : ".ts".toList.length = 3 := rfl
  simp only [String.toList_append, List.length_append]
  omega

theorem FieldGroup.fileName_ne_empty (g : FieldGroup) (suffix : String) :
    g.stem ++ suffix ++ ".ts" ≠ "" := by
  intro hempty
  have hlong := g.two_lt_length_fileName suffix
  rw [hempty] at hlong
  exact absurd hlong (by decide)

/-- A name is none of the dots if it is longer than these, and a stem because it has none. -/
theorem FieldGroup.not_mem_own (g : FieldGroup) {dots name : String} (hdot : '.' ∈ dots.toList)
    (hshort : dots.toList.length ≤ 2) (hlong : 2 < name.toList.length) :
    dots ∉ (DiskPath.mk g.stem).steps ++ [name] := by
  rw [DiskPath.steps_of_not_mem g.slash_not_mem_stem]
  intro hmem
  rcases List.mem_append.1 hmem with hstem | hname
  · split at hstem
    · cases hstem
    · rw [List.mem_singleton.1 hstem] at hdot
      exact g.dot_not_mem_stem hdot
  · rw [List.mem_singleton.1 hname] at hshort
    omega

theorem pairwise_of_firstCollision {seen outputs : List (String × DiskPath)}
    (h : firstCollision seen outputs = none) :
    (∀ o ∈ seen, ∀ o' ∈ outputs, ¬ o.2.same o'.2) ∧
      outputs.Pairwise fun o o' ↦ ¬ o.2.same o'.2 := by
  induction outputs generalizing seen with
  | nil => simp
  | cons o rest ih =>
    rw [firstCollision] at h
    split at h
    · cases h
    · rename_i hfind
      obtain ⟨hseen, hrest⟩ := ih h
      refine ⟨fun earlier hearlier ↦ ?_, List.pairwise_cons.2 ⟨?_, hrest⟩⟩
      · refine List.forall_mem_cons.2 ⟨List.find?_eq_none.1 hfind earlier hearlier, ?_⟩
        exact hseen earlier (List.mem_cons_of_mem _ hearlier)
      · exact hseen o List.mem_cons_self

namespace Project

variable {p : Project} {d : Schema} {all : List GroupFiles}

/-- The options keep to the project: neither the folder nor an ending leads away from it. -/
structure Confined (p : Project) : Prop where
  suffixes : ∀ suffix ∈ p.suffixes, '/' ∉ suffix.toList
  folder : ".." ∉ p.folderSteps

instance (p : Project) : Decidable p.Confined :=
  decidable_of_iff ((∀ suffix ∈ p.suffixes, '/' ∉ suffix.toList) ∧ ".." ∉ p.folderSteps)
    ⟨fun ⟨hsuffixes, hfolder⟩ ↦ ⟨hsuffixes, hfolder⟩, fun h ↦ ⟨h.suffixes, h.folder⟩⟩

/-- The options neither remove nor replace anything, and keep to the project. -/
structure Careful (p : Project) : Prop where
  overwrite : p.options.overwrite = false
  clearFirst : p.options.clearFirst = false
  suffixes : ∀ suffix ∈ p.suffixes, '/' ∉ suffix.toList
  folder : ".." ∉ p.folderSteps

instance (p : Project) : Decidable p.Careful :=
  decidable_of_iff (p.options.overwrite = false ∧ p.options.clearFirst = false ∧
    (∀ suffix ∈ p.suffixes, '/' ∉ suffix.toList) ∧ ".." ∉ p.folderSteps)
    ⟨fun ⟨h, h', hsuffixes, hfolder⟩ ↦ ⟨h, h', hsuffixes, hfolder⟩,
      fun h ↦ ⟨h.overwrite, h.clearFirst, h.suffixes, h.folder⟩⟩

theorem Careful.confined (hp : p.Careful) : p.Confined := ⟨hp.suffixes, hp.folder⟩

theorem filter_ne_dot {steps : List String} (h : "." ∉ steps) : steps.filter (· ≠ ".") = steps := by
  refine List.filter_eq_self.2 fun step hstep ↦ decide_eq_true ?_
  rintro rfl
  exact h hstep

theorem exists_file_of_mem_outputs (hall : all = d.groups.map p.filesOf) {o : String × DiskPath}
    (ho : o ∈ GroupFiles.outputs all) :
    ∃ g, ∃ file ∈ (p.filesOf g).files, o = (g.name, file.path) := by
  subst hall
  obtain ⟨files, hfiles, ho⟩ := List.mem_flatMap.1 ho
  obtain ⟨g, -, rfl⟩ := List.mem_map.1 hfiles
  obtain ⟨file, hfile, rfl⟩ := List.mem_map.1 ho
  exact ⟨g, file, hfile, rfl⟩

/-- Beyond the folder for the output lead the stem of the group, if it makes a name, and the name of
the file. -/
theorem beyond_outputFolder (hslashes : ∀ suffix ∈ p.suffixes, '/' ∉ suffix.toList)
    (h : file ∈ (p.filesOf g).files) :
    ∃ suffix, file.path.isAbsolute = p.outputFolder.isAbsolute ∧ file.path.steps =
      p.outputFolder.steps ++ ((DiskPath.mk g.stem).steps ++ [g.stem ++ suffix ++ ".ts"]) := by
  obtain ⟨suffix, hsuffix, hpath⟩ := path_of_mem_files h
  have hslash := g.slash_not_mem_fileName (hslashes suffix hsuffix)
  rw [hpath]
  exact ⟨suffix, p.outputFolder.join_join g.slash_not_mem_stem hslash (g.fileName_ne_empty suffix)⟩

/-- A planned file has one or two steps of its own, and dots are none of them. -/
theorem steps_of_mem_files (hp : p.Confined) (h : file ∈ (p.filesOf g).files) :
    file.path.isAbsolute = p.root.isAbsolute ∧
    ∃ own, file.path.steps = p.root.steps ++ p.folderSteps ++ own ∧ own ≠ [] ∧
      "." ∉ own ∧ ".." ∉ own := by
  obtain ⟨suffix, habsolute, hbeyond⟩ := beyond_outputFolder hp.suffixes h
  obtain ⟨folder, hfolder, hrelative, hsteps⟩ := outputFolder_eq p
  have hlong := g.two_lt_length_fileName suffix
  refine ⟨?_, (DiskPath.mk g.stem).steps ++ [g.stem ++ suffix ++ ".ts"], ?_, by simp, ?_, ?_⟩
  · rw [habsolute, hfolder, DiskPath.isAbsolute_join _ hrelative]
  · rw [hbeyond, hfolder, DiskPath.steps_join _ hrelative, hsteps]
  · exact g.not_mem_own (by decide) (by decide) hlong
  · exact g.not_mem_own (by decide) (by decide) hlong

/-- The files of a group lie in a folder of its own, if its stem makes a name for one. -/
theorem place_of_mem_files (hslashes : ∀ suffix ∈ p.suffixes, '/' ∉ suffix.toList)
    (h : file ∈ (p.filesOf g).files) : ∃ suffix, file.path.place =
      p.outputFolder.place ++ ((DiskPath.mk g.stem).steps ++ [g.stem ++ suffix ++ ".ts"]) := by
  obtain ⟨suffix, hbeyond⟩ := beyond_outputFolder hslashes h
  have hlong := g.two_lt_length_fileName suffix
  refine ⟨suffix, ?_⟩
  rw [p.outputFolder.place_of_steps hbeyond, foldl_lead_of_not_mem
    (g.not_mem_own (by decide) (by decide) hlong), filter_ne_dot
    (g.not_mem_own (by decide) (by decide) hlong)]

theorem back_not_mem_steps (hp : p.Confined) (hroot : ".." ∉ p.root.steps)
    (h : file ∈ (p.filesOf g).files) : ".." ∉ file.path.steps := by
  obtain ⟨-, own, hsteps, -, -, hback⟩ := steps_of_mem_files hp h
  rw [hsteps]
  simp [hroot, hp.folder, hback]

theorem back_not_mem_outputFolder (hp : p.Confined) (hroot : ".." ∉ p.root.steps) :
    ".." ∉ p.outputFolder.steps := by
  obtain ⟨folder, hfolder, hrelative, hsteps⟩ := outputFolder_eq p
  rw [hfolder, DiskPath.steps_join _ hrelative, hsteps, List.mem_append, not_or]
  exact ⟨hroot, hp.folder⟩

/-- The path of a planned file begins with the one of the folder for the output. -/
theorem text_outputFolder_isPrefix (hp : p.Confined) (h : file ∈ (p.filesOf g).files) :
    p.outputFolder.text.toList <+: file.path.text.toList := by
  obtain ⟨suffix, hsuffix, hpath⟩ := path_of_mem_files h
  have hslash := g.slash_not_mem_fileName (hp.suffixes suffix hsuffix)
  have hstem := DiskPath.text_prefix_join p.outputFolder
    (DiskPath.not_isAbsolute_of_not_mem g.slash_not_mem_stem)
  rw [hpath]
  exact hstem.trans (DiskPath.text_prefix_join _ (DiskPath.not_isAbsolute_of_not_mem hslash))

theorem namesFile_of_mem_files (hp : p.Confined) (hroot : ".." ∉ p.root.steps)
    (h : file ∈ (p.filesOf g).files) : file.path.NamesFile := by
  have hback := back_not_mem_steps hp hroot h
  obtain ⟨suffix, hsuffix, hpath⟩ := path_of_mem_files h
  have hslash := g.slash_not_mem_fileName (hp.suffixes suffix hsuffix)
  have hsteps := DiskPath.steps_join (p.outputFolder.join g.stem)
    (DiskPath.not_isAbsolute_of_not_mem hslash)
  rw [← hpath] at hsteps
  rw [hsteps, List.mem_append, not_or] at hback
  rw [hpath]
  refine DiskPath.namesFile_join _ (fun c hc ↦ ?_) (g.fileName_ne_empty suffix) hslash hback.1
  rw [String.toList_append, List.getLast?_append_of_ne_nil _ (by decide)] at hc
  rintro rfl
  exact absurd hc (by decide)

theorem getLast?_steps_ne_dot (hp : p.Confined) (h : file ∈ (p.filesOf g).files) :
    file.path.steps.getLast? ≠ some "." := by
  obtain ⟨-, own, hsteps, hne, hdot, -⟩ := steps_of_mem_files hp h
  intro hlast
  rw [hsteps, List.getLast?_append_of_ne_nil _ hne] at hlast
  exact hdot (List.mem_of_getLast? hlast)

/-- Planned files with one place have one path: beyond the folder for the output, their paths lead
through names only. -/
theorem same_of_place_eq (hp : p.Confined) (hroot : ".." ∉ p.root.steps) {g' : FieldGroup}
    {file' : OutputFile} (h : file ∈ (p.filesOf g).files) (h' : file' ∈ (p.filesOf g').files)
    (hplace : file.path.place = file'.path.place) : file.path.same file'.path := by
  have hback := back_not_mem_steps hp hroot h
  have hback' := back_not_mem_steps hp hroot h'
  obtain ⟨habsolute, own, hsteps, -, hdot, -⟩ := steps_of_mem_files hp h
  obtain ⟨habsolute', own', hsteps', -, hdot', -⟩ := steps_of_mem_files hp h'
  have hstart : start file.path = start file'.path := by rw [start, start, habsolute, habsolute']
  have hown : own = own' := by
    rw [DiskPath.place, DiskPath.place, foldl_lead_of_not_mem hback, foldl_lead_of_not_mem hback',
      hstart, hsteps, hsteps', List.filter_append (p.root.steps ++ p.folderSteps),
      List.filter_append (p.root.steps ++ p.folderSteps)] at hplace
    have hnames := List.append_cancel_left (List.append_cancel_left hplace)
    rwa [filter_ne_dot hdot, filter_ne_dot hdot'] at hnames
  have hcomponents : file.path.components = file'.path.components := by
    rw [DiskPath.components, DiskPath.components, habsolute, habsolute', hsteps, hsteps', hown]
  simp [DiskPath.same, hcomponents]

/-- No two planned files have one place. -/
theorem pairwise_place_of_plan (hp : p.Confined) (hroot : ".." ∉ p.root.steps)
    (hplan : p.plan d = .ok all) :
    (GroupFiles.outputs all).Pairwise fun o o' ↦ o.2.place ≠ o'.2.place := by
  obtain ⟨hall, hnone⟩ := plan_eq_ok hplan
  refine (pairwise_of_firstCollision hnone).2.imp_of_mem fun {o o'} ho ho' hne hplace ↦ hne ?_
  obtain ⟨g, file, hfile, rfl⟩ := exists_file_of_mem_outputs hall ho
  obtain ⟨g', file', hfile', rfl⟩ := exists_file_of_mem_outputs hall ho'
  exact same_of_place_eq hp hroot hfile hfile' hplace

/-- No file is named as a folder for files is, because stems have no dots. -/
theorem own_eq_of_prefix_own {g' : FieldGroup} {suffix suffix' : String}
    (h : (DiskPath.mk g.stem).steps ++ [g.stem ++ suffix ++ ".ts"] <+:
      (DiskPath.mk g'.stem).steps ++ [g'.stem ++ suffix' ++ ".ts"]) :
    (DiskPath.mk g.stem).steps ++ [g.stem ++ suffix ++ ".ts"] =
      (DiskPath.mk g'.stem).steps ++ [g'.stem ++ suffix' ++ ".ts"] := by
  rw [DiskPath.steps_of_not_mem g.slash_not_mem_stem,
    DiskPath.steps_of_not_mem g'.slash_not_mem_stem] at h ⊢
  by_cases hstem : g.stem = "" <;> by_cases hstem' : g'.stem = ""
  · rw [if_pos hstem, if_pos hstem'] at h ⊢
    exact h.eq_of_length (by simp)
  · rw [if_pos hstem, if_neg hstem'] at h
    have hname : g.stem ++ suffix ++ ".ts" = g'.stem := (List.cons_prefix_cons.1 h).1
    refine absurd ?_ g'.dot_not_mem_stem
    rw [← hname]
    simp
  · rw [if_neg hstem, if_pos hstem'] at h
    simpa using h.length_le
  · rw [if_neg hstem, if_neg hstem'] at h ⊢
    exact h.eq_of_length (by simp)

theorem pairwise_apart_of_plan (hp : p.Confined) (hroot : ".." ∉ p.root.steps)
    (hplan : p.plan d = .ok all) :
    (GroupFiles.outputs all).Pairwise fun o o' ↦ Apart o.2.place o'.2.place := by
  have hnot {o o' : String × DiskPath} (ho : o ∈ GroupFiles.outputs all)
      (ho' : o' ∈ GroupFiles.outputs all) (hne : o.2.place ≠ o'.2.place) :
      ¬ o.2.place <+: o'.2.place := by
    obtain ⟨g, file, hfile, rfl⟩ := exists_file_of_mem_outputs (plan_eq_ok hplan).1 ho
    obtain ⟨g', file', hfile', rfl⟩ := exists_file_of_mem_outputs (plan_eq_ok hplan).1 ho'
    obtain ⟨suffix, hplace⟩ := place_of_mem_files hp.suffixes hfile
    obtain ⟨suffix', hplace'⟩ := place_of_mem_files hp.suffixes hfile'
    dsimp only at hne ⊢
    rw [hplace, hplace'] at hne ⊢
    intro hpre
    exact hne (congrArg _ (own_eq_of_prefix_own ((List.prefix_append_right_inj _).1 hpre)))
  refine (pairwise_place_of_plan hp hroot hplan).imp_of_mem fun {o o'} ho ho' hne ↦ ?_
  exact ⟨hnot ho ho' hne, hnot ho' ho (Ne.symm hne)⟩

end Project

end Reshape
