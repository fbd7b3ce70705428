import Reshape.Proofs.Disk.Parent
import Reshape.Proofs.Disk.Walk
import Reshape.Proofs.Generation.Frame

namespace Reshape

open FileTree

variable {t t' t'' : FileTree} {file : OutputFile} {files more : List OutputFile}
  {all : List GroupFiles}

def OutputFile.bytes (file : OutputFile) : ByteArray := file.contents.toUTF8

/-- What saving files makes of a tree: they stand where their paths lead, and nothing else is
changed but on the way there. -/
structure Saved (files : List OutputFile) (t t' : FileTree) : Prop where
  usable : ∀ file ∈ files, Usable file.path
  contents : ∀ file ∈ files, t'.node? file.path.place = some (.file file.bytes)
  others : ∀ q, (∀ file ∈ files, ¬ q <+: file.path.place) → t'.node? q = t.node? q

/-- Whether no file stands where another one is saved, or in the way there. -/
def Scattered (files : List OutputFile) : Prop :=
  files.Pairwise fun file file' ↦ Apart file.path.place file'.path.place

namespace Saved

theorem nil (t : FileTree) : Saved [] t t :=
  ⟨fun _ h ↦ (nomatch h), fun _ h ↦ (nomatch h), fun _ _ ↦ rfl⟩

theorem cons (hapart : ∀ other ∈ files, Apart file.path.place other.path.place)
    (h : Saved [file] t t') (h' : Saved files t' t'') : Saved (file :: files) t t'' where
  usable := List.forall_mem_cons.2 ⟨h.usable file (List.mem_singleton_self file), h'.usable⟩
  contents := by
    refine List.forall_mem_cons.2 ⟨?_, h'.contents⟩
    rw [h'.others _ fun other hother ↦ (hapart other hother).1]
    exact h.contents file (List.mem_singleton_self file)
  others q hq := by
    obtain ⟨hfile, hfiles⟩ := List.forall_mem_cons.1 hq
    rw [h'.others q hfiles, h.others q (List.forall_mem_singleton.2 hfile)]

end Saved

namespace Project

theorem run_save (file : OutputFile) (t : FileTree) : t.run (save file) =
    match t.makeFolders file.path.parent with
    | (.ok (), t') => ((t'.write file.path file.bytes).1.mapError .disk,
        (t'.write file.path file.bytes).2)
    | (.error e, t') => (.error (.disk e), t') := by
  have hmake : (DiskStore.makeFolders file.path.parent : StateM FileTree _) t =
      t.makeFolders file.path.parent := rfl
  rw [save, run_bind, run_orFail, hmake]
  rcases t.makeFolders file.path.parent with ⟨e | _, t'⟩
  · rfl
  · dsimp only [Except.mapError]
    rw [run_orFail]
    rfl

theorem saved_of_save (hnames : file.path.NamesFile) (h : (t.run (save file)).1 = .ok ()) :
    Saved [file] t (t.run (save file)).2 := by
  have hfolders (q : List String) (hq : ¬ q <+: file.path.place) :
      (t.makeFolders file.path.parent).2.node? q = t.node? q := by
    obtain ⟨name, hplace⟩ := hnames.exists_place
    refine node?_makeFolders_of_not_prefix (fun hback ↦ hnames.back (hnames.parent_subset hback)) ?_
    rw [hplace] at hq
    exact fun hpre ↦ hq (hpre.trans (List.prefix_append _ _))
  rw [run_save] at h ⊢
  rcases hmake : t.makeFolders file.path.parent with ⟨e | _, t'⟩
  · simp [hmake] at h
  · rw [hmake] at h hfolders
    dsimp only at h hfolders ⊢
    have hwrite : (t'.write file.path file.bytes).1 = .ok () := by
      cases hresult : (t'.write file.path file.bytes).1 with
      | error e => simp [hresult, Except.mapError] at h
      | ok _ => rfl
    obtain ⟨husable, -, hfree, htree⟩ := write_eq_ok hwrite
    have hne : file.path.place ≠ [] := by
      intro hnil
      exact hfree (by rw [hnil, node?_nil])
    refine ⟨List.forall_mem_singleton.2 husable, List.forall_mem_singleton.2 ?_, fun q hq ↦ ?_⟩
    · rw [htree, node?_insert_self t' hne]
    · have hq' := List.forall_mem_singleton.1 hq
      have hplace : q ≠ file.path.place := by
        rintro rfl
        exact hq' List.prefix_rfl
      rw [htree, node?_insert_of_ne t' hplace, hfolders q hq']

theorem run_saveAll_cons (file : OutputFile) (files : List OutputFile) (t : FileTree) :
    t.run (saveAll (file :: files)) = match t.run (save file) with
      | (.ok (), t') => t'.run (saveAll files)
      | (.error e, t') => (.error e, t') := by
  rw [saveAll, run_bind]
  rcases t.run (save file) with ⟨_ | _, _⟩ <;> rfl

theorem saved_of_saveAll (hnames : ∀ file ∈ files, file.path.NamesFile)
    (hscattered : Scattered files) (h : (t.run (saveAll files)).1 = .ok ()) :
    Saved files t (t.run (saveAll files)).2 := by
  induction files generalizing t with
  | nil => exact .nil t
  | cons file files ih =>
    obtain ⟨hfile, hfiles⟩ := List.forall_mem_cons.1 hnames
    obtain ⟨hapart, hrest⟩ := List.pairwise_cons.1 hscattered
    rw [run_saveAll_cons] at h ⊢
    rcases hsave : t.run (save file) with ⟨e | _, t'⟩
    · simp [hsave] at h
    · have hsaved := saved_of_save (t := t) hfile (by rw [hsave])
      rw [hsave] at h hsaved
      exact hsaved.cons hapart (ih hfiles hrest h)

theorem rooted_save (h : t.Rooted) (file : OutputFile) : (t.run (save file)).2.Rooted := by
  have hfolders := h.makeFolders file.path.parent
  rw [run_save]
  rcases hmake : t.makeFolders file.path.parent with ⟨e | _, t'⟩
  · rwa [hmake] at hfolders
  · rw [hmake] at hfolders
    exact hfolders.write file.path file.bytes

theorem rooted_saveAll (h : t.Rooted) (files : List OutputFile) :
    (t.run (saveAll files)).2.Rooted := by
  induction files generalizing t with
  | nil => exact h
  | cons file files ih =>
    have hsave := rooted_save h file
    rw [run_saveAll_cons]
    rcases hrun : t.run (save file) with ⟨e | _, t'⟩
    · rwa [hrun] at hsave
    · rw [hrun] at hsave
      exact ih hsave

end Project

/-- Whether a file can be saved: its path is usable, and neither is there a folder where it leads
nor a file on the way. -/
structure Open (file : OutputFile) (t : FileTree) : Prop where
  usable : Usable file.path
  start : t.node? (start file.path) = some .folder
  way : ∀ q bytes, Below file.path.place q → t.node? q ≠ some (.file bytes)
  free : t.node? file.path.place ≠ some .folder

namespace Project

theorem save_of_open (hroot : t.Rooted) (hnames : file.path.NamesFile) (h : Open file t) :
    (t.run (save file)).1 = .ok () := by
  obtain ⟨name, hplace⟩ := hnames.exists_place
  have hshort : Short file.path.parent.steps :=
    fun step hstep ↦ h.usable.short step (hnames.parent_subset hstep)
  have hway (q : List String) (bytes : ByteArray) (hq : q <+: file.path.parent.place) :
      t.node? q ≠ some (.file bytes) :=
    h.way q bytes (by rw [hplace]; exact below_concat_iff.2 hq)
  obtain ⟨t', hmake, hfolder⟩ := makeFolders_of_short
    (fun hback ↦ hnames.back (hnames.parent_subset hback)) hshort
    (checked_of_text hnames.text h.usable.checked) hnames.dot
    (by rw [hnames.start_parent, h.start]) hway
  have hroot' : t'.Rooted := by
    have hmade := hroot.makeFolders file.path.parent
    rwa [hmake] at hmade
  have hwalk : t'.walk (start file.path) file.path.steps = .ok file.path.place := by
    refine walk_of_folders hnames.back h.usable.short hnames.last fun q _ hbelow ↦ ?_
    rw [← DiskPath.place, hplace] at hbelow
    by_cases hq : q = file.path.parent.place
    · rw [hq, hfolder]
    · exact hroot'.of_below (by simp [hfolder]) ⟨below_concat_iff.1 hbelow, hq⟩
  have hfree : t'.node? file.path.place ≠ some .folder := by
    have hsame := node?_makeFolders_of_not_prefix (t := t) (q := file.path.place)
      (fun hback ↦ hnames.back (hnames.parent_subset hback)) (by
        rw [hplace]
        exact Below.not_prefix (below_concat_iff.2 List.prefix_rfl))
    rw [hmake] at hsame
    rw [hsame]
    exact h.free
  rw [run_save, hmake]
  dsimp only
  rw [write_of_usable h.usable hwalk hfree]
  rfl

end Project

/-- A file that is saved is in no way of another one that lies apart. -/
theorem Open.of_saved {other : OutputFile} (h : Open other t) (hback : ".." ∉ other.path.steps)
    (hroot : t'.Rooted) (hsaved : Saved [file] t t')
    (hapart : Apart file.path.place other.path.place) : Open other t' := by
  have hfile := hsaved.contents file (List.mem_singleton_self file)
  have hway (q : List String) (hq : q <+: other.path.place) :
      t'.node? q = some .folder ∨ t'.node? q = t.node? q := by
    by_cases hpre : q <+: file.path.place
    · refine .inl (hroot.of_below (by simp [hfile]) ⟨hpre, ?_⟩)
      rintro rfl
      exact hapart.1 hq
    · exact .inr (hsaved.others q (List.forall_mem_singleton.2 hpre))
  refine ⟨h.usable, ?_, fun q bytes hbelow ↦ ?_, ?_⟩
  · rcases hway _ (prefix_foldl_lead hback _) with hfolder | hsame
    · exact hfolder
    · rw [hsame, h.start]
  · rcases hway q hbelow.1 with hfolder | hsame
    · simp [hfolder]
    · rw [hsame]
      exact h.way q bytes hbelow
  · rw [hsaved.others _ (List.forall_mem_singleton.2 hapart.2)]
    exact h.free

namespace Project

theorem saveAll_of_open (hroot : t.Rooted) (hnames : ∀ file ∈ files, file.path.NamesFile)
    (hscattered : Scattered files) (h : ∀ file ∈ files, Open file t) :
    (t.run (saveAll files)).1 = .ok () := by
  induction files generalizing t with
  | nil => rfl
  | cons file files ih =>
    obtain ⟨hfile, hfiles⟩ := List.forall_mem_cons.1 hnames
    obtain ⟨hapart, hrest⟩ := List.pairwise_cons.1 hscattered
    obtain ⟨hopen, hothers⟩ := List.forall_mem_cons.1 h
    have hsave := save_of_open hroot hfile hopen
    have hsaved := saved_of_save hfile hsave
    have hroot' := rooted_save hroot file
    rw [run_saveAll_cons]
    rcases hrun : t.run (save file) with ⟨e | _, t'⟩
    · simp [hrun] at hsave
    · rw [hrun] at hsaved hroot'
      refine ih hroot' hfiles hrest fun other hother ↦ ?_
      exact (hothers other hother).of_saved (hfiles other hother).back hroot' hsaved
        (hapart other hother)

theorem run_saveAll_append (files more : List OutputFile) (t : FileTree) :
    t.run (saveAll (files ++ more)) = match t.run (saveAll files) with
      | (.ok (), t') => t'.run (saveAll more)
      | (.error e, t') => (.error e, t') := by
  induction files generalizing t with
  | nil => rfl
  | cons file files ih =>
    rw [List.cons_append, run_saveAll_cons, run_saveAll_cons]
    rcases t.run (save file) with ⟨e | _, t'⟩
    · rfl
    · exact ih t'

end Project

def GroupFiles.written (g : GroupFiles) : Written := ⟨g.group, g.typeName, g.files.map (·.path)⟩

namespace Project

/-- Groups are saved as their files are, one after another. -/
theorem run_saveGroups (all : List GroupFiles) (t : FileTree) : t.run (saveGroups all) =
    ((t.run (saveAll (all.flatMap (·.files)))).1.map fun _ ↦ all.map (·.written),
      (t.run (saveAll (all.flatMap (·.files)))).2) := by
  induction all generalizing t with
  | nil => rfl
  | cons g rest ih =>
    rw [saveGroups, run_bind, List.flatMap_cons, run_saveAll_append]
    rcases t.run (saveAll g.files) with ⟨e | _, t'⟩
    · rfl
    · dsimp only
      rw [run_bind, ih t']
      generalize t'.run (saveAll (rest.flatMap (·.files))) = saved
      rcases saved with ⟨e | _, t''⟩ <;> rfl

end Project

end Reshape
