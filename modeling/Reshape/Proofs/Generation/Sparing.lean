import Reshape.Proofs.Disk.History
import Reshape.Proofs.Generation.Places

namespace Reshape

open FileTree

def AllVacant (paths : List DiskPath) (t : FileTree) : Prop := ∀ p ∈ paths, t.Vacant p

variable {α ε : Type} {before : FileTree → Prop} {rest : List DiskPath}

/-- Where a path is not taken, there is no file in the way. -/
theorem Spares.isTaken_bind {p : DiskPath} (hback : ".." ∉ p.steps)
    (hlast : p.steps.getLast? ≠ some ".") {f : Bool → ExceptT ε (StateM History) α}
    {after : α → FileTree → Prop} (htaken : Spares before (f true) after)
    (hfree : Spares (·.Vacant p) (f false) after) :
    Spares before (DiskStore.isTaken p >>= f) after := by
  refine .bind (.isTaken p) fun taken ↦ ?_
  cases taken with
  | true => exact htaken.mono (fun _ _ ht ↦ ht.1) fun _ _ ↦ id
  | false =>
    refine hfree.mono (fun t hroot ht ↦ ?_) fun _ _ ↦ id
    exact vacant_of_not_occupied hroot hback hlast ht.2

theorem Options.spares_create {root : DiskPath} (hroot : ".." ∉ root.steps) :
    Spares before (create root) fun _ _ ↦ True := by
  have hsteps := (steps_path root).2
  refine .isTaken_bind (by simp [hsteps, hroot]) (by simp [hsteps]) (.throw_bind _ _) ?_
  exact .bind (.writeText (fun _ ↦ id) fun _ _ _ _ ↦ trivial) fun _ ↦ .pure _ fun _ ↦ id

theorem Schema.spares_create {root : DiskPath} (hroot : ".." ∉ root.steps) :
    Spares before (create root) fun _ _ ↦ True := by
  have hsteps := (steps_path root).2
  refine .isTaken_bind (by simp [hsteps, hroot]) (by simp [hsteps]) (.throw_bind _ _) ?_
  refine .bind (.makeFolders fun t t' ht hframe ↦ ht.of_frame hframe id) fun _ ↦ ?_
  exact .bind (.writeText (fun _ ↦ id) fun _ _ _ _ ↦ trivial) fun _ ↦ .pure _ fun _ ↦ id

namespace Project

variable {p : Project} {d : Schema} {all : List GroupFiles}

theorem spares_save {file : OutputFile} (h : ∀ q ∈ rest, q.place ≠ file.path.place) :
    Spares (AllVacant (file.path :: rest)) (save file) fun _ ↦ AllVacant rest := by
  -- Folders leave every path vacant; the write takes its own only, as the places differ.
  have hfolders (t t' : FileTree) (ht : AllVacant (file.path :: rest) t)
      (hframe : Frame (fun _ ↦ False) (fun _ ↦ False) t t') : AllVacant (file.path :: rest) t' :=
    fun q hq ↦ (ht q hq).of_frame hframe id
  refine .bind (.makeFolders hfolders) fun _ ↦ .writeText ?_ fun t t' ht hframe q hq ↦ ?_
  · exact fun t ht ↦ ht file.path List.mem_cons_self
  · exact (ht q (List.mem_cons_of_mem _ hq)).of_frame hframe (h q hq)

theorem spares_saveAll {files : List OutputFile}
    (h : (files.map (·.path) ++ rest).Pairwise fun q q' ↦ q'.place ≠ q.place) :
    Spares (AllVacant (files.map (·.path) ++ rest)) (saveAll files) fun _ ↦ AllVacant rest := by
  induction files with
  | nil => exact .pure _ fun _ ↦ id
  | cons file files ih =>
    obtain ⟨hfile, hfiles⟩ := List.pairwise_cons.1 h
    exact .bind (spares_save hfile) fun _ ↦ ih hfiles

theorem spares_saveGroups
    (h : ((GroupFiles.outputs all).map (·.2)).Pairwise fun q q' ↦ q'.place ≠ q.place) :
    Spares (AllVacant ((GroupFiles.outputs all).map (·.2))) (saveGroups all) fun _ _ ↦ True := by
  induction all with
  | nil => exact .pure _ fun _ _ ↦ trivial
  | cons g groups ih =>
    have houtputs : (GroupFiles.outputs (g :: groups)).map (·.2) =
        g.files.map (·.path) ++ (GroupFiles.outputs groups).map (·.2) := by
      simp [GroupFiles.outputs]
    rw [houtputs] at h ⊢
    refine .bind (spares_saveAll h) fun _ ↦ .bind (ih (List.pairwise_append.1 h).2.1) fun _ ↦ ?_
    exact .pure _ fun _ ↦ id

theorem spares_conflicts :
    Spares before (ExceptT.lift (conflicts all) : ExceptT GenerationError (StateM History) _)
      fun found t ↦ before t ∧ (found = [] → ∀ o ∈ GroupFiles.outputs all, ¬ t.occupied o.2) := by
  intro h _ hbefore
  have hrun : (conflicts all : StateM History (List Conflict)) h =
      (((GroupFiles.outputs all).filter fun o ↦ h.now.occupied o.2).map fun o ↦ ⟨o.1, o.2⟩, h) :=
    conflictsAmong_apply _ h
  have hlift : (ExceptT.lift (conflicts all) : ExceptT GenerationError (StateM History) _).run h =
      (.ok ((conflicts all : StateM History (List Conflict)) h).1,
        ((conflicts all : StateM History (List Conflict)) h).2) := rfl
  rw [hlift, hrun]
  refine ⟨.refl h, fun found hfound ↦ ⟨hbefore, fun hnil ↦ ?_⟩⟩
  obtain rfl := Except.ok.inj hfound
  exact List.filter_eq_nil_iff.1 (List.map_eq_nil_iff.1 hnil)

theorem spares_generate (hp : p.Careful) (hroot : ".." ∉ p.root.steps) :
    Spares before (p.generate d) fun _ _ ↦ True := by
  unfold generate
  cases hplan : p.plan d with
  | error collision => exact .throw _
  | ok all =>
    -- Nothing is cleared, and so the files are looked for in the tree that they are written to.
    have hclear : (p.clear : ExceptT GenerationError (StateM History) Bool) = pure false := by
      unfold clear
      rw [hp.clearFirst]
      rfl
    have hfree (t : FileTree) (ht : t.Rooted)
        (hfound : ∀ o ∈ GroupFiles.outputs all, ¬ t.occupied o.2) :
        AllVacant ((GroupFiles.outputs all).map (·.2)) t := by
      intro q hq
      obtain ⟨o, ho, rfl⟩ := List.mem_map.1 hq
      obtain ⟨g, file, hfile, rfl⟩ := exists_file_of_mem_outputs (plan_eq_ok hplan).1 ho
      exact vacant_of_not_occupied ht (back_not_mem_steps hp.confined hroot hfile)
        (getLast?_steps_ne_dot hp.confined hfile) (by simpa using hfound _ ho)
    dsimp only
    rw [hclear, hp.overwrite, pure_bind]
    refine .bind spares_conflicts fun found ↦ ?_
    cases found with
    | cons => exact .throw_bind _ _
    | nil =>
      refine Spares.mono (spares_saveGroups ?_) (fun t ht hfound ↦ hfree t ht (hfound.2 rfl))
        fun _ _ ↦ id
      rw [List.pairwise_map]
      exact (pairwise_place_of_plan hp.confined hroot hplan).imp Ne.symm

end Project

end Reshape
