import Reshape.Proofs.DottedPath
import Reshape.Proofs.Generation.Frame

namespace Reshape

open FileTree

variable {q : List String}

theorem Options.steps_path (root : DiskPath) : (path root).isAbsolute = root.isAbsolute ∧
    (path root).steps = root.steps ++ ["tw-config.json"] := by
  have hname : '/' ∉ "tw-config.json".toList := by decide
  have hrelative := DiskPath.not_isAbsolute_of_not_mem hname
  rw [path, DiskPath.steps_join root hrelative, DiskPath.steps_of_not_mem hname]
  exact ⟨DiskPath.isAbsolute_join root hrelative, rfl⟩

theorem Schema.steps_path (root : DiskPath) : (path root).isAbsolute = root.isAbsolute ∧
    (path root).steps = root.steps ++ ["schema", "schema.tws"] := by
  have hfolder : '/' ∉ "schema".toList := by decide
  have hjoin := root.join_join hfolder (by decide : '/' ∉ "schema.tws".toList) (by decide)
  rwa [DiskPath.steps_of_not_mem hfolder] at hjoin

def FieldGroup.stem (g : FieldGroup) : String := Words.kebab (Words.pascal g.name)

namespace Project

variable {p : Project} {d : Schema} {t : FileTree}

def suffixes (p : Project) : List String :=
  [p.options.modelSuffix, p.options.entitySuffix, p.options.mapperSuffix]

theorem path_of_mem_files {g : FieldGroup} {file : OutputFile} (h : file ∈ (p.filesOf g).files) :
    ∃ suffix ∈ p.suffixes,
      file.path = (p.outputFolder.join g.stem).join (g.stem ++ suffix ++ ".ts") := by
  simp only [filesOf, List.mem_cons, List.not_mem_nil, or_false] at h
  rcases h with rfl | rfl | rfl <;> dsimp only
  · exact ⟨p.options.modelSuffix, by simp [suffixes], rfl⟩
  · exact ⟨p.options.entitySuffix, by simp [suffixes], rfl⟩
  · exact ⟨p.options.mapperSuffix, by simp [suffixes], rfl⟩

/-- Every generated file has the ending of its language, whatever its group and suffix are. -/
theorem Planned.exists_name (h : p.Planned d q) :
    ∃ above name, q = above ++ [name] ∧ ".ts".toList <:+ name.toList := by
  obtain ⟨g, -, file, hfile, rfl⟩ := h
  obtain ⟨suffix, -, hpath⟩ := path_of_mem_files hfile
  obtain ⟨s, hs⟩ := DiskPath.exists_text_join _ _
  have htext : file.path.text = _ := (congrArg DiskPath.text hpath).trans hs
  rw [← String.append_assoc] at htext
  exact file.path.exists_place_of_text htext (by decide) (by decide)

theorem below_of_cleared (hbelow : Below p.outputFolder.place p.root.place)
    (h : p.Cleared t q) : Below q p.root.place := by
  refine ⟨hbelow.1.trans h.2.2, ?_⟩
  rintro rfl
  exact hbelow.not_prefix h.2.2

def folderSteps (p : Project) : List String :=
  stepsOf (p.options.folder.toList.dropWhile fun c ↦ c == '/' || c == '\\')

theorem outputFolder_eq (p : Project) : ∃ folder, p.outputFolder = p.root.join folder ∧
    ¬ (DiskPath.mk folder).isAbsolute ∧ (DiskPath.mk folder).steps = p.folderSteps := by
  refine ⟨_, rfl, fun habsolute ↦ ?_, ?_⟩
  · have hhead := List.head?_dropWhile_not (fun c ↦ c == '/' || c == '\\') p.options.folder.toList
    simp only [DiskPath.isAbsolute, String.toList_ofList, beq_iff_eq] at habsolute
    simp [habsolute] at hhead
  · rw [DiskPath.steps_eq, String.toList_ofList]
    rfl

theorem place_outputFolder (p : Project) :
    p.outputFolder.place = p.folderSteps.foldl lead p.root.place := by
  obtain ⟨folder, hfolder, hrelative, hsteps⟩ := outputFolder_eq p
  rw [hfolder, DiskPath.place_join _ hrelative, hsteps]

/-- The folder lies strictly below the root when it is named without steps back, and by more than
dots. -/
theorem below_outputFolder (hback : ".." ∉ p.folderSteps)
    (hname : ∃ step ∈ p.folderSteps, step ≠ ".") :
    Below p.outputFolder.place p.root.place := by
  obtain ⟨step, hstep, hdot⟩ := hname
  rw [place_outputFolder, foldl_lead_of_not_mem hback]
  refine ⟨List.prefix_append _ _, fun heq ↦ ?_⟩
  have hnil : p.folderSteps.filter (· ≠ ".") = [] := by simpa using heq
  exact List.filter_eq_nil_iff.1 hnil step hstep (by simpa using hdot)

theorem place_schema (root : DiskPath) :
    (Schema.path root).place = root.place ++ ["schema", "schema.tws"] := by
  rw [DiskPath.place_of_steps root (Schema.steps_path root)]
  simp [lead]

theorem place_options (root : DiskPath) :
    (Options.path root).place = root.place ++ ["tw-config.json"] := by
  rw [DiskPath.place_of_steps root (Options.steps_path root)]
  simp [lead]

theorem file_kept {bytes : ByteArray} {above : List String} {name : String}
    (hfile : t.node? (above ++ [name]) = some (.file bytes)) (hend : ¬ ".ts".toList <:+ name.toList)
    (hcleared : ¬ p.Cleared t (above ++ [name])) :
    (t.run (p.generate d)).2.node? (above ++ [name]) = some (.file bytes) := by
  rcases frame_generate.files _ _ hfile with hkept | hlost | ⟨hplanned, -⟩
  · exact hkept
  · exact absurd hlost hcleared
  · obtain ⟨above', name', heq, hsuffix⟩ := Planned.exists_name hplanned
    obtain rfl : name = name' := by simpa using (List.append_inj' heq rfl).2
    exact absurd hsuffix hend

theorem outputFolder_prefix_of_cleared {bytes : ByteArray} {above : List String} {name : String}
    (hfile : t.node? (above ++ [name]) = some (.file bytes))
    (h : p.Cleared t (above ++ [name])) : p.outputFolder.place <+: above := by
  obtain ⟨-, hfolder, hpre⟩ := h
  refine below_concat_iff.1 ⟨hpre, fun heq ↦ ?_⟩
  rw [heq, hfile] at hfolder
  cases hfolder

/-- Where the folder for the output lies strictly below the root, nothing is removed but strictly
below the root, and the root, the schema and the options of the project are kept. -/
theorem generate_keeps_root (p : Project) (d : Schema) (t : FileTree)
    (hbelow : Below p.outputFolder.place p.root.place) :
    let t' := (t.run (p.generate d)).2
    (∀ q, (t.node? q).isSome → t'.node? q = none → Below q p.root.place) ∧
    (t.node? p.root.place = some .folder → t'.node? p.root.place = some .folder) ∧
    (p.outputFolder.place ≠ p.root.place ++ ["schema"] →
      ∀ bytes, t.node? (Schema.path p.root).place = some (.file bytes) →
        t'.node? (Schema.path p.root).place = some (.file bytes)) ∧
    ∀ bytes, t.node? (Options.path p.root).place = some (.file bytes) →
      t'.node? (Options.path p.root).place = some (.file bytes) := by
  intro t'
  have hframe : Frame (p.Cleared t) (p.Planned d) t t' := frame_generate
  refine ⟨fun q hq hgone ↦ below_of_cleared hbelow (hframe.lost_of_gone hq hgone), ?_, ?_, ?_⟩
  · intro hroot
    rcases hframe.folders _ hroot with hkept | hcleared
    · exact hkept
    · exact absurd rfl (below_of_cleared hbelow hcleared).2
  · intro hother bytes hfile
    have hsplit : (Schema.path p.root).place = (p.root.place ++ ["schema"]) ++ ["schema.tws"] := by
      rw [place_schema, List.append_assoc]
      rfl
    rw [hsplit] at hfile ⊢
    -- A file is cleared with a folder above it: the root or the one of the schema.
    refine file_kept hfile (by decide) fun hcleared ↦ ?_
    rcases List.prefix_concat_iff.1 (outputFolder_prefix_of_cleared hfile hcleared) with heq | hroot
    · exact hother heq
    · exact hbelow.not_prefix hroot
  · intro bytes hfile
    rw [place_options] at hfile ⊢
    refine file_kept hfile (by decide) fun hcleared ↦ ?_
    exact hbelow.not_prefix (outputFolder_prefix_of_cleared hfile hcleared)

/-- A folder whose name takes it on below the root, beside the schema. -/
theorem generate_keeps_root_nested :
    let root : List String := workingFolder ++ ["proj"]
    let schema : Node := .file "a:\n id: t".toUTF8
    let t : FileTree := [(workingFolder, .folder), (root, .folder), (root ++ ["schema"], .folder),
      (root ++ ["schema", "schema.tws"], schema), (root ++ ["gen"], .folder),
      (root ++ ["gen", "out"], .folder), (root ++ ["gen", "out", "old.ts"], .file "".toUTF8)]
    let p : Project := ⟨⟨"proj"⟩, { folder := "//gen/./out/", clearFirst := true }⟩
    let d : Schema := ⟨[⟨"a", [⟨"id", "t", "id"⟩]⟩]⟩
    Below p.outputFolder.place p.root.place ∧
      (t.run (p.generate d)).2.node? (Schema.path p.root).place = some schema := by
  intro root schema t p d
  have hbelow : Below p.outputFolder.place p.root.place :=
    below_outputFolder (by decide) ⟨"gen", by decide, by decide⟩
  have hother : p.outputFolder.place ≠ p.root.place ++ ["schema"] := by decide
  have hroot : p.root.place = root := by decide
  have hfile : t.node? (Schema.path p.root).place = some schema := by
    rw [place_schema, hroot]
    rfl
  exact ⟨hbelow, (generate_keeps_root p d t hbelow).2.2.1 hother _ hfile⟩

/-- The folder for the output may be the root itself, and then the schema goes with it. -/
theorem generate_removes_schema :
    let root : List String := workingFolder ++ ["proj"]
    let t : FileTree := [(workingFolder, .folder), (root, .folder), (root ++ ["schema"], .folder),
      (root ++ ["schema", "schema.tws"], .file "".toUTF8)]
    let p : Project := ⟨⟨"proj"⟩, { folder := "/", clearFirst := true }⟩
    (t.run (p.generate ⟨[]⟩)).1.isOk ∧ (t.node? (Schema.path p.root).place).isSome ∧
      (t.run (p.generate ⟨[]⟩)).2.node? (Schema.path p.root).place = none := by
  intro root t p
  have hrun : (t.run (p.generate ⟨[]⟩)).1.isOk ∧ (t.node? (Schema.path p.root).place).isSome ∧
      ((t.run (p.generate ⟨[]⟩)).2.node? (Schema.path p.root).place).isNone := by decide +kernel
  exact ⟨hrun.1, hrun.2.1, Option.isNone_iff_eq_none.1 hrun.2.2⟩

end Project

end Reshape
