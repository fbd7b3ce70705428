import Reshape.Proofs.Disk.Removal
import Reshape.Proofs.Generation.Places
import Reshape.Proofs.Generation.Saving

namespace Reshape

open FileTree

def planned (all : List GroupFiles) : List OutputFile := all.flatMap (·.files)

def present (all : List GroupFiles) (t : FileTree) : List Conflict :=
  ((GroupFiles.outputs all).filter fun o ↦ t.occupied o.2).map fun o ↦ ⟨o.1, o.2⟩

theorem map_path_planned (all : List GroupFiles) :
    (planned all).map (·.path) = (GroupFiles.outputs all).map (·.2) := by
  rw [planned, GroupFiles.outputs, List.map_flatMap, List.map_flatMap]
  refine List.flatMap_congr fun g _ ↦ ?_
  rw [List.map_map]
  rfl

theorem exists_planned_of_mem_outputs {all : List GroupFiles} {o : String × DiskPath}
    (h : o ∈ GroupFiles.outputs all) : ∃ file ∈ planned all, o.2 = file.path := by
  have hpath : o.2 ∈ (planned all).map (·.path) := by
    rw [map_path_planned]
    exact List.mem_map_of_mem h
  obtain ⟨file, hfile, heq⟩ := List.mem_map.1 hpath
  exact ⟨file, hfile, heq.symm⟩

namespace Project

variable {p : Project} {d : Schema} {all : List GroupFiles} {t t' t'' : FileTree}
  {file : OutputFile} {q : List String}

theorem exists_group_of_planned (hplan : p.plan d = .ok all) (h : file ∈ planned all) :
    ∃ g, file ∈ (p.filesOf g).files := by
  obtain ⟨files, hfiles, hfile⟩ := List.mem_flatMap.1 h
  rw [(plan_eq_ok hplan).1] at hfiles
  obtain ⟨g, -, rfl⟩ := List.mem_map.1 hfiles
  exact ⟨g, hfile⟩

theorem below_of_planned (hp : p.Confined) (hplan : p.plan d = .ok all)
    (h : file ∈ planned all) : Below file.path.place p.outputFolder.place := by
  obtain ⟨g, hfile⟩ := exists_group_of_planned hplan h
  obtain ⟨suffix, hplace⟩ := place_of_mem_files hp.suffixes hfile
  rw [hplace]
  exact ⟨List.prefix_append _ _, by simp⟩

theorem namesFile_of_plan (hp : p.Confined) (hback : ".." ∉ p.root.steps)
    (hplan : p.plan d = .ok all) : ∀ file ∈ planned all, file.path.NamesFile := by
  intro file hfile
  obtain ⟨g, hfile⟩ := exists_group_of_planned hplan hfile
  exact namesFile_of_mem_files hp hback hfile

theorem scattered_of_plan (hp : p.Confined) (hback : ".." ∉ p.root.steps)
    (hplan : p.plan d = .ok all) : Scattered (planned all) := by
  have hpaths : ((planned all).map (·.path)).Pairwise fun q q' ↦ Apart q.place q'.place := by
    rw [map_path_planned, List.pairwise_map]
    exact pairwise_apart_of_plan hp hback hplan
  rw [List.pairwise_map] at hpaths
  exact hpaths

def Clears (p : Project) (t : FileTree) : Prop :=
  p.options.clearFirst = true ∧ t.occupied p.outputFolder = true

instance (p : Project) (t : FileTree) : Decidable (p.Clears t) :=
  inferInstanceAs (Decidable (_ ∧ _))

theorem below_start_of_endsInName {r : DiskPath} (hback : ".." ∉ r.steps) (h : endsInName r) :
    Below r.place (start r) := by
  unfold endsInName at h
  split at h
  · cases h
  · rename_i step hlast
    refine below_foldl_lead hback ?_ ?_
    · rw [hlast]
      rintro hdot
      rw [Option.some_inj.1 hdot] at h
      exact absurd h (by decide)
    · intro hnil
      rw [hnil] at hlast
      cases hlast

theorem place_ne_nil_of_endsInName {r : DiskPath} (hback : ".." ∉ r.steps) (h : endsInName r) :
    r.place ≠ [] := by
  intro hnil
  have hbelow := below_start_of_endsInName hback h
  rw [hnil] at hbelow
  exact not_below_nil _ hbelow

structure ClearedTo (p : Project) (t t' : FileTree) : Prop where
  node?_eq : ∀ q, t'.node? q = if p.Clears t ∧ p.outputFolder.place <+: q then none else t.node? q
  rooted : t'.Rooted

theorem run_clear_of_clears (h : p.Clears t) : t.run p.clear =
    (((t.removeFolder p.outputFolder).1.mapError GenerationError.disk).map fun _ ↦ true,
      (t.removeFolder p.outputFolder).2) := by
  rw [run_clear]
  exact if_pos h

theorem run_clear_of_not_clears (h : ¬ p.Clears t) : t.run p.clear = (.ok false, t) := by
  rw [run_clear]
  exact if_neg h

theorem clearedTo_of_clear (hback : ".." ∉ p.outputFolder.steps) (hroot : t.Rooted) {b : Bool}
    (h : t.run p.clear = (.ok b, t')) : p.ClearedTo t t' := by
  by_cases hclears : p.Clears t
  · rw [run_clear_of_clears hclears] at h
    obtain ⟨hresult, rfl⟩ := Prod.mk.inj h
    have hok : (t.removeFolder p.outputFolder).1 = .ok () := by
      cases hremove : (t.removeFolder p.outputFolder).1 with
      | ok _ => rfl
      | error e => simp [hremove, Except.mapError, Except.map] at hresult
    obtain ⟨hnamed, htree⟩ := removeFolder_eq_ok hback hok
    have hne := place_ne_nil_of_endsInName hback hnamed
    rw [htree]
    refine ⟨fun q ↦ ?_, hroot.removed hne⟩
    rw [node?_removed hne]
    simp only [hclears, true_and]
  · rw [run_clear_of_not_clears hclears] at h
    obtain ⟨-, rfl⟩ := Prod.mk.inj h
    exact ⟨fun q ↦ (if_neg fun h ↦ hclears h.1).symm, hroot⟩

/-- A folder that is named can be removed. -/
theorem exists_cleared (hback : ".." ∉ p.outputFolder.steps)
    (h : p.Clears t → endsInName p.outputFolder ∧ t.node? p.outputFolder.place = some .folder) :
    ∃ b t', t.run p.clear = (.ok b, t') := by
  by_cases hclears : p.Clears t
  · obtain ⟨hnamed, hfolder⟩ := h hclears
    rw [run_clear_of_clears hclears, removeFolder_of_occupied hback hclears.2 hfolder,
      if_pos hnamed]
    exact ⟨true, _, rfl⟩
  · exact ⟨false, t, run_clear_of_not_clears hclears⟩

/-- Where the folder for the output is cleared, no planned file is left: if the folder is not there,
neither is any file in it. -/
theorem present_eq_nil (hp : p.Confined) (hback : ".." ∉ p.root.steps)
    (hplan : p.plan d = .ok all) (hclear : p.options.clearFirst = true)
    (htext : p.outputFolder.text ≠ "") (hcleared : p.ClearedTo t t') : present all t' = [] := by
  refine List.map_eq_nil_iff.2 (List.filter_eq_nil_iff.2 fun o ho htaken ↦ ?_)
  obtain ⟨file, hfile, hpath⟩ := exists_planned_of_mem_outputs ho
  rw [hpath] at htaken
  obtain ⟨hchecked, hwalk, hsome⟩ := walk_of_occupied htaken
  by_cases hclears : p.Clears t
  · rw [hcleared.node?_eq, if_pos ⟨hclears, (below_of_planned hp hplan hfile).1⟩] at hsome
    cases hsome
  · obtain ⟨g, hfile⟩ := exists_group_of_planned hplan hfile
    obtain ⟨suffix, hsteps⟩ := beyond_outputFolder hp.suffixes hfile
    have hpath := (checked_of_text (text_outputFolder_isPrefix hp hfile) hchecked).resolve_left htext
    have htaken := occupied_of_steps (by simp) hsteps hpath hwalk
    have hsame : t'.occupied p.outputFolder = t.occupied p.outputFolder :=
      occupied_congr (back_not_mem_outputFolder hp hback) fun q _ ↦ by
        rw [hcleared.node?_eq, if_neg fun h ↦ hclears h.1]
    exact hclears ⟨hclear, by rw [← hsame, htaken]⟩

end Project

/-- Clearing the folder for the output closes no way to a file, if it is not the folder where
paths start. -/
theorem Open.of_cleared {p : Project} {file : OutputFile} {t t' : FileTree} (h : Open file t)
    (hcleared : p.ClearedTo t t')
    (hstart : p.Clears t → Below p.outputFolder.place (FileTree.start file.path)) :
    Open file t' := by
  have hnode (q : List String) : t'.node? q = none ∨ t'.node? q = t.node? q := by
    rw [hcleared.node?_eq]
    split
    · exact .inl rfl
    · exact .inr rfl
  refine ⟨h.usable, ?_, fun q bytes hbelow ↦ ?_, ?_⟩
  · rw [hcleared.node?_eq, if_neg fun hgone ↦ Below.not_prefix (hstart hgone.1) hgone.2, h.start]
  · rcases hnode q with hnone | hsame
    · simp [hnone]
    · rw [hsame]
      exact h.way q bytes hbelow
  · rcases hnode file.path.place with hnone | hsame
    · simp [hnone]
    · rw [hsame]
      exact h.free

namespace Project

variable {p : Project} {d : Schema} {all : List GroupFiles} {t t' t'' : FileTree}
  {file : OutputFile} {q : List String}

/-- What a generation makes of a tree: the planned files are there with what they hold and with
the folders above them, and nothing else is changed but for the folder that is cleared. -/
structure Generated (p : Project) (all : List GroupFiles) (t t' : FileTree) : Prop where
  contents : ∀ file ∈ planned all, t'.node? file.path.place = some (.file file.bytes)
  folders : ∀ file ∈ planned all, ∀ q, Below file.path.place q → t'.node? q = some .folder
  others : ∀ q, (∀ file ∈ planned all, ¬ q <+: file.path.place) →
    t'.node? q = if p.Clears t ∧ p.outputFolder.place <+: q then none else t.node? q

theorem run_generate_of_clear (hplan : p.plan d = .ok all) {b : Bool}
    (hclear : t.run p.clear = (.ok b, t')) : t.run (p.generate d) =
      if p.options.overwrite = false ∧ present all t' ≠ [] then
        (.error (.outputPresent (present all t')), t')
      else ((t'.run (saveAll (planned all))).1.map fun _ ↦ all.map (·.written),
        (t'.run (saveAll (planned all))).2) := by
  have hpresent : (conflicts all : StateM FileTree (List Conflict)) t' = (present all t', t') :=
    run_conflicts all t'
  rw [run_generate, hplan]
  dsimp only
  rw [hclear]
  dsimp only
  rw [hpresent, run_saveGroups]
  simp [planned]

/-- A generation succeeds in what it has to clear and in what it has to save. -/
theorem cleared_of_run (hplan : p.plan d = .ok all) {written : List Written}
    (h : t.run (p.generate d) = (.ok written, t')) : written = all.map (·.written) ∧
      ∃ b t₁, t.run p.clear = (.ok b, t₁) ∧ t₁.run (saveAll (planned all)) = (.ok (), t') := by
  rcases hclear : t.run p.clear with ⟨e | b, t₁⟩
  · rw [run_generate, hplan] at h
    dsimp only at h
    rw [hclear] at h
    cases h
  · rw [run_generate_of_clear hplan hclear] at h
    split at h
    · cases h
    · rcases hsave : t₁.run (saveAll (planned all)) with ⟨e | _, t₂⟩
      · rw [hsave] at h
        cases h
      · rw [hsave] at h
        obtain ⟨hwritten, rfl⟩ := Prod.mk.inj h
        exact ⟨(Except.ok.inj hwritten).symm, b, t₁, rfl, hsave⟩

theorem generated_of_run (hp : p.Confined) (hback : ".." ∉ p.root.steps) (hroot : t.Rooted)
    (hplan : p.plan d = .ok all) {written : List Written}
    (h : t.run (p.generate d) = (.ok written, t')) :
    written = all.map (·.written) ∧ p.Generated all t t' ∧ t'.Rooted ∧
      ∀ file ∈ planned all, Usable file.path := by
  obtain ⟨hwritten, b, t₁, hclear, hsave⟩ := cleared_of_run hplan h
  have hcleared := clearedTo_of_clear (back_not_mem_outputFolder hp hback) hroot hclear
  have hsaved := saved_of_saveAll (t := t₁) (namesFile_of_plan hp hback hplan)
    (scattered_of_plan hp hback hplan) (by rw [hsave])
  have hroot' := rooted_saveAll hcleared.rooted (planned all)
  rw [hsave] at hsaved hroot'
  refine ⟨hwritten, ⟨hsaved.contents, fun file hfile q hbelow ↦ ?_, fun q hq ↦ ?_⟩, hroot',
    hsaved.usable⟩
  · exact hroot'.of_below (by simp [hsaved.contents file hfile]) hbelow
  · rw [hsaved.others q hq, hcleared.node?_eq]

namespace Generated

variable (h : p.Generated all t t')
include h

/-- Where files have been generated they can be generated again. -/
theorem open_of_mem (hnames : ∀ file ∈ planned all, file.path.NamesFile)
    (husable : ∀ file ∈ planned all, Usable file.path) : ∀ file ∈ planned all, Open file t' := by
  intro file hfile
  have hfolder := h.folders file hfile
  have hnonempty : file.path.steps ≠ [] := by
    obtain ⟨n, name, hsteps⟩ := (hnames file hfile).steps
    simp [hsteps]
  refine ⟨husable file hfile, ?_, fun q bytes hbelow ↦ ?_, ?_⟩
  · exact hfolder _ (below_foldl_lead (hnames file hfile).back (hnames file hfile).last hnonempty)
  · simp [hfolder q hbelow]
  · simp [h.contents file hfile]

/-- If the folder for the output is cleared after a generation, then it was cleared before or there
was none. -/
theorem node?_eq_none (hroot : t.Rooted) (hback : ".." ∉ p.outputFolder.steps)
    (hbelow : ∀ file ∈ planned all, Below file.path.place p.outputFolder.place)
    (hclears : p.Clears t') (hpre : p.outputFolder.place <+: q)
    (hq : ∀ file ∈ planned all, ¬ q <+: file.path.place) : t'.node? q = none := by
  rw [h.others q hq]
  split
  · rfl
  · rename_i hkept
    have hnot : ¬ p.Clears t := fun hclears ↦ hkept ⟨hclears, hpre⟩
    by_contra hsome
    -- Both trees have the same on the way to the folder, so it was found in the first one too.
    have hsame : t'.occupied p.outputFolder = t.occupied p.outputFolder := by
      refine occupied_congr hback fun above habove ↦ ?_
      by_cases hplanned : ∃ file ∈ planned all, above <+: file.path.place
      · obtain ⟨file, hfile, hway⟩ := hplanned
        have hfolder := h.folders file hfile above ⟨hway, fun heq ↦ ?_⟩
        · have hlower : Below q above := by
            refine ⟨habove.trans hpre, ?_⟩
            rintro rfl
            exact hq file hfile hway
          rw [hfolder, hroot.of_below (Option.isSome_iff_ne_none.2 hsome) hlower]
        · rw [heq] at habove
          exact Below.not_prefix (hbelow file hfile) habove
      · rw [h.others above fun file hfile hway ↦ hplanned ⟨file, hfile, hway⟩,
          if_neg fun h ↦ hnot h.1]
    exact hnot ⟨hclears.1, by rw [← hsame, hclears.2]⟩

/-- The folder that is cleared after a generation is one. -/
theorem node?_outputFolder (hroot : t.Rooted) (hback : ".." ∉ p.outputFolder.steps)
    (hbelow : ∀ file ∈ planned all, Below file.path.place p.outputFolder.place)
    (hclears : p.Clears t') : t'.node? p.outputFolder.place = some .folder := by
  by_cases hplanned : ∃ file ∈ planned all, p.outputFolder.place <+: file.path.place
  · obtain ⟨file, hfile, -⟩ := hplanned
    exact h.folders file hfile _ (hbelow file hfile)
  · obtain ⟨-, -, hsome⟩ := walk_of_occupied hclears.2
    rw [h.node?_eq_none hroot hback hbelow hclears List.prefix_rfl
      fun file hfile hway ↦ hplanned ⟨file, hfile, hway⟩] at hsome
    cases hsome

/-- A generation that follows another one changes nothing. -/
theorem again (h' : p.Generated all t' t'') (hroot : t.Rooted) (hback : ".." ∉ p.outputFolder.steps)
    (hbelow : ∀ file ∈ planned all, Below file.path.place p.outputFolder.place) (q : List String) :
    t''.node? q = t'.node? q := by
  by_cases hplanned : ∃ file ∈ planned all, q <+: file.path.place
  · obtain ⟨file, hfile, hway⟩ := hplanned
    by_cases heq : q = file.path.place
    · rw [heq, h'.contents file hfile, h.contents file hfile]
    · have hlower : Below file.path.place q := ⟨hway, heq⟩
      rw [h'.folders file hfile q hlower, h.folders file hfile q hlower]
  · have hq : ∀ file ∈ planned all, ¬ q <+: file.path.place :=
      fun file hfile hway ↦ hplanned ⟨file, hfile, hway⟩
    rw [h'.others q hq]
    split
    · rename_i hcleared
      rw [h.node?_eq_none hroot hback hbelow hcleared.1 hcleared.2 hq]
    · rfl

end Generated

/-- A generation succeeds where the folder to be cleared can be removed, no file is in the way of a
planned one, and those that are there may be replaced or are cleared. -/
theorem run_generate_of_open (hp : p.Confined) (hback : ".." ∉ p.root.steps) (hroot : t.Rooted)
    (hplan : p.plan d = .ok all)
    (hclears : p.Clears t → endsInName p.outputFolder ∧ t.node? p.outputFolder.place = some .folder)
    (hfree : p.options.overwrite = true ∨ p.Clears t ∨ present all t = [])
    (hopen : ∀ file ∈ planned all, Open file t) :
    ∃ t', t.run (p.generate d) = (.ok (all.map (·.written)), t') := by
  have hfolder := back_not_mem_outputFolder hp hback
  obtain ⟨b, t₁, hclear⟩ := exists_cleared hfolder hclears
  have hcleared := clearedTo_of_clear hfolder hroot hclear
  have hpresent : ¬ (p.options.overwrite = false ∧ present all t₁ ≠ []) := by
    rintro ⟨hkeep, hpresent⟩
    by_cases h : p.Clears t
    · obtain ⟨hchecked, -, -⟩ := walk_of_occupied h.2
      have htext : p.outputFolder.text ≠ "" := by simpa using text_ne_nil_of_checked hchecked
      exact hpresent (present_eq_nil hp hback hplan h.1 htext hcleared)
    · rw [run_clear_of_not_clears h] at hclear
      obtain ⟨-, rfl⟩ := Prod.mk.inj hclear
      rcases hfree with hover | hclears | hnil
      · rw [hkeep] at hover
        cases hover
      · exact h hclears
      · exact hpresent hnil
  have hsave : (t₁.run (saveAll (planned all))).1 = .ok () := by
    refine saveAll_of_open hcleared.rooted (namesFile_of_plan hp hback hplan)
      (scattered_of_plan hp hback hplan) fun file hfile ↦ (hopen file hfile).of_cleared hcleared ?_
    intro h
    obtain ⟨g, hfile⟩ := exists_group_of_planned hplan hfile
    obtain ⟨-, habsolute, -⟩ := beyond_outputFolder hp.suffixes hfile
    have hstart : start file.path = start p.outputFolder := by rw [start, start, habsolute]
    rw [hstart]
    exact below_start_of_endsInName hfolder (hclears h).1
  rw [run_generate_of_clear hplan hclear, if_neg hpresent, hsave]
  exact ⟨_, rfl⟩

theorem run_generate_ne_outputPresent (hp : p.Confined) (hback : ".." ∉ p.root.steps)
    (hroot : t.Rooted) (hplan : p.plan d = .ok all) (hfirst : p.options.clearFirst = true)
    (htext : p.outputFolder.text ≠ "") {conflicts : List Conflict} :
    (t.run (p.generate d)).1 ≠ .error (.outputPresent conflicts) := by
  intro h
  rcases hclear : t.run p.clear with ⟨e | b, t₁⟩
  · rw [run_generate, hplan] at h
    dsimp only at h
    rw [hclear] at h
    obtain ⟨e', he⟩ := error_clear (by rw [hclear])
    rw [he] at h
    cases h
  · have hcleared := clearedTo_of_clear (back_not_mem_outputFolder hp hback) hroot hclear
    have hnil := present_eq_nil hp hback hplan hfirst htext hcleared
    rw [run_generate_of_clear hplan hclear, if_neg fun h ↦ h.2 hnil] at h
    cases hsave : (t₁.run (saveAll (planned all))).1 with
    | ok _ =>
      rw [hsave] at h
      cases h
    | error e =>
      obtain ⟨e', he⟩ := (saves_saveAll (planned all) t₁).2 e hsave
      rw [hsave, he] at h
      cases h

/-- Every planned file is found where a generation has put it. -/
theorem present_of_generated (h : p.Generated all t t') (hroot : t'.Rooted)
    (hnames : ∀ file ∈ planned all, file.path.NamesFile)
    (husable : ∀ file ∈ planned all, Usable file.path) :
    present all t' = (GroupFiles.outputs all).map fun o ↦ ⟨o.1, o.2⟩ := by
  rw [present, List.filter_eq_self.2 fun o ho ↦ ?_]
  obtain ⟨file, hfile, hpath⟩ := exists_planned_of_mem_outputs ho
  have hnamed := hnames file hfile
  rw [hpath]
  exact occupied_of_usable hroot (husable file hfile) hnamed.back hnamed.last
    (by simp [h.contents file hfile])

theorem outputs_ne_nil (hplan : p.plan d = .ok all) (h : d.groups ≠ []) :
    GroupFiles.outputs all ≠ [] := by
  obtain ⟨g, rest, hgroups⟩ := List.exists_cons_of_ne_nil h
  rw [(plan_eq_ok hplan).1, hgroups, GroupFiles.outputs]
  simp [filesOf]

/-- What a generation comes to whose files are planned, on any tree. Files that are there are told
of, in order, and left alone if none may be replaced and the folder is not cleared; where it is
cleared none is ever told of. Otherwise all files can be written if nothing is in the way. A
generation that succeeds leaves the planned files, and nothing else that is new but the folders
above them. After it, one that replaces files does the same again, unless it has to clear a folder
that is named by dots; one that neither replaces nor clears finds every planned file there. -/
theorem generate_outcome (p : Project) (d : Schema) (all : List GroupFiles) (t : FileTree)
    (hp : p.Confined) (hback : ".." ∉ p.root.steps) (hroot : t.Rooted)
    (hplan : p.plan d = .ok all) :
    (p.options.overwrite = false → p.options.clearFirst = false → present all t ≠ [] →
      t.run (p.generate d) = (.error (.outputPresent (present all t)), t)) ∧
    (p.options.clearFirst = true → p.outputFolder.text ≠ "" → ∀ conflicts,
      (t.run (p.generate d)).1 ≠ .error (.outputPresent conflicts)) ∧
    ((p.Clears t → endsInName p.outputFolder ∧ t.node? p.outputFolder.place = some .folder) →
      p.options.overwrite = true ∨ p.Clears t ∨ present all t = [] →
      (∀ file ∈ planned all, Open file t) →
        ∃ t', t.run (p.generate d) = (.ok (all.map (·.written)), t')) ∧
    ∀ written t', t.run (p.generate d) = (.ok written, t') →
      written = all.map (·.written) ∧ p.Generated all t t' ∧
      (p.options.overwrite = true → (p.options.clearFirst = true → endsInName p.outputFolder) →
        ∃ t'', t'.run (p.generate d) = (.ok written, t'') ∧ ∀ q, t''.node? q = t'.node? q) ∧
      (p.options.overwrite = false → p.options.clearFirst = false → d.groups ≠ [] →
        t'.run (p.generate d) =
          (.error (.outputPresent ((GroupFiles.outputs all).map fun o ↦ ⟨o.1, o.2⟩)), t')) := by
  have hfolder := back_not_mem_outputFolder hp hback
  have hnames := namesFile_of_plan hp hback hplan
  have hbelow : ∀ file ∈ planned all, Below file.path.place p.outputFolder.place :=
    fun file hfile ↦ below_of_planned hp hplan hfile
  have hnoclear (t : FileTree) (hkeep : p.options.clearFirst = false) :
      t.run p.clear = (.ok false, t) :=
    run_clear_of_not_clears fun h ↦ absurd h.1 (by simp [hkeep])
  refine ⟨fun hover hkeep hpresent ↦ ?_, fun hclear htext conflicts h ↦ ?_,
    run_generate_of_open hp hback hroot hplan, fun written t' hrun ↦ ?_⟩
  · rw [run_generate_of_clear hplan (hnoclear t hkeep), if_pos ⟨hover, hpresent⟩]
  · exact run_generate_ne_outputPresent hp hback hroot hplan hclear htext h
  · obtain ⟨hwritten, hgenerated, hroot', husable⟩ := generated_of_run hp hback hroot hplan hrun
    refine ⟨hwritten, hgenerated, fun hover hnamed ↦ ?_, fun hover hkeep hgroups ↦ ?_⟩
    · obtain ⟨t'', hagain⟩ := run_generate_of_open hp hback hroot' hplan
        (fun hclears ↦ ⟨hnamed hclears.1,
          hgenerated.node?_outputFolder hroot hfolder hbelow hclears⟩)
        (.inl hover) (hgenerated.open_of_mem hnames husable)
      obtain ⟨-, hgenerated', -⟩ := generated_of_run hp hback hroot' hplan hagain
      exact ⟨t'', by rw [hwritten, hagain], hgenerated.again hgenerated' hroot hfolder hbelow⟩
    · have hpresent := present_of_generated hgenerated hroot' hnames husable
      have hne := outputs_ne_nil hplan hgroups
      rw [run_generate_of_clear hplan (hnoclear t' hkeep), hpresent,
        if_pos ⟨hover, by simpa using hne⟩]

/-- A folder that is named is cleared, and a second generation comes to what the first one did. -/
theorem generate_twice_named :
    let old := workingFolder ++ ["proj", "gen", "old.ts"]
    let p : Project := ⟨⟨"proj"⟩, { folder := "/gen/", overwrite := true, clearFirst := true }⟩
    let d : Schema := ⟨[⟨"user", [⟨"id", "number", "id"⟩]⟩]⟩
    let t : FileTree := [(workingFolder.dropLast, .folder), (workingFolder, .folder),
      (workingFolder ++ ["proj"], .folder), (workingFolder ++ ["proj", "gen"], .folder),
      (old, .file "".toUTF8)]
    p.Confined ∧ ".." ∉ p.root.steps ∧ t.Rooted ∧ p.plan d = .ok (d.groups.map p.filesOf) ∧
    ∃ written t' t'', t.run (p.generate d) = (.ok written, t') ∧ t'.node? old = none ∧
      t'.run (p.generate d) = (.ok written, t'') ∧ ∀ q, t''.node? q = t'.node? q := by
  intro old p d t
  have hroot : t.Rooted := by
    apply rooted_of_mem
    simp only [t, List.forall_mem_cons]
    exact ⟨rfl, rfl, rfl, rfl, rfl, fun _ h ↦ nomatch h⟩
  have hplan : p.plan d = .ok (d.groups.map p.filesOf) := by
    have hfirst : firstCollision [] (GroupFiles.outputs (d.groups.map p.filesOf)) = none := by
      decide +kernel
    rw [plan, hfirst]
  have hok : (t.run (p.generate d)).1.isOk := by decide +kernel
  have hclears : p.Clears t ∧ p.outputFolder.place <+: old := by decide +kernel
  have hother : ∀ file ∈ planned (d.groups.map p.filesOf), ¬ old <+: file.path.place := by
    decide +kernel
  obtain ⟨-, -, -, hruns⟩ := generate_outcome p d _ t (by decide) (by decide) hroot hplan
  rcases hrun : t.run (p.generate d) with ⟨e | written, t'⟩
  · rw [hrun] at hok
    cases hok
  · obtain ⟨-, hgenerated, hagain, -⟩ := hruns written t' hrun
    obtain ⟨t'', hrun', hsame⟩ := hagain rfl fun _ ↦ by decide
    have hgone : t'.node? old = none := by rw [hgenerated.others old hother, if_pos hclears]
    exact ⟨by decide, by decide, hroot, hplan, written, t', t'', rfl, hgone, hrun', hsame⟩

/-- A folder that is named by a dot is emptied, and then it cannot be removed. -/
theorem generate_fails_again :
    let p : Project := ⟨⟨"proj"⟩, { folder := ".", overwrite := true, clearFirst := true }⟩
    let d : Schema := ⟨[⟨"a", [⟨"id", "number", "id"⟩]⟩]⟩
    let first := fresh.run (p.generate d)
    Schema.parse .refuse "a:\n  id: number\n" = .ok d ∧ p.Confined ∧ ".." ∉ p.root.steps ∧
      first.1 = .ok [⟨"a", "A", [⟨"proj/./a/a.model.ts"⟩, ⟨"proj/./a/a.entity.ts"⟩,
        ⟨"proj/./a/a.mapper.ts"⟩]⟩] ∧
      (first.2.run (p.generate d)).1 = .error (.disk .notRemovable) := by
  intro p d first
  have hparse : Schema.parse .refuse "a:\n  id: number\n" = .ok d := by
    dsimp only [d]
    rfl
  exact ⟨hparse, by decide, by decide, by decide +kernel, by decide +kernel⟩

end Project

end Reshape
