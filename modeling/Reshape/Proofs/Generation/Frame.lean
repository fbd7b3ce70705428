import Reshape.Generation.Run
import Reshape.Proofs.Disk.Command

namespace Reshape

open FileTree

/-- A command that removes nothing, writes files at the given places only, and fails only where a
file operation does. -/
def Saves {α : Type} (written : List String → Prop)
    (x : ExceptT GenerationError (StateM FileTree) α) : Prop :=
  ∀ t : FileTree, Frame (fun _ ↦ False) written t (t.run x).2 ∧
    ∀ e, (t.run x).1 = .error e → ∃ e', e = .disk e'

namespace Saves

variable {α β : Type} {written written' : List String → Prop}
  {x : ExceptT GenerationError (StateM FileTree) α}
  {f : α → ExceptT GenerationError (StateM FileTree) β}

theorem pure (a : α) : Saves written (pure a) :=
  fun t ↦ ⟨.refl _ _ t, fun _ h ↦ nomatch h⟩

theorem bind (hx : Saves written x) (hf : ∀ a, Saves written (f a)) : Saves written (x >>= f) := by
  intro t
  obtain ⟨hframe, hfail⟩ := hx t
  rw [run_bind]
  rcases hrun : t.run x with ⟨e | a, t'⟩
  · rw [hrun] at hframe hfail
    exact ⟨hframe, fun e' he ↦ hfail e' (by simpa using he)⟩
  · rw [hrun] at hframe
    exact ⟨hframe.trans (hf a t').1, (hf a t').2⟩

theorem mono (h : Saves written x) (hsub : ∀ q, written q → written' q) : Saves written' x :=
  fun t ↦ ⟨(h t).1.mono (fun _ ↦ id) hsub, (h t).2⟩

theorem orFail {op : StateM FileTree (Except DiskError α)}
    (h : ∀ t : FileTree, Frame (fun _ ↦ False) written t (op t).2) :
    Saves written (DiskStore.orFail .disk op) := by
  intro t
  rw [run_orFail]
  refine ⟨h t, fun e he ↦ ?_⟩
  cases hop : (op t).1 with
  | ok a => simp [hop, Except.mapError] at he
  | error e' => exact ⟨e', by simpa [hop, Except.mapError] using he.symm⟩

end Saves

namespace Project

variable (p : Project) (d : Schema)

theorem saves_save (file : OutputFile) : Saves (· = file.path.place) (save file) :=
  .bind (.orFail fun t ↦ frame_makeFolders t _) fun _ ↦ .orFail fun t ↦ frame_write t _ _

theorem saves_saveAll (files : List OutputFile) :
    Saves (fun q ↦ ∃ file ∈ files, q = file.path.place) (saveAll files) := by
  induction files with
  | nil => exact .pure ()
  | cons file rest ih =>
    refine .bind ((saves_save file).mono fun q hq ↦ ⟨file, List.mem_cons_self, hq⟩) fun _ ↦ ?_
    exact ih.mono fun q ⟨other, hother, hq⟩ ↦ ⟨other, List.mem_cons_of_mem file hother, hq⟩

theorem saves_saveGroups (all : List GroupFiles) :
    Saves (fun q ↦ ∃ g ∈ all, ∃ file ∈ g.files, q = file.path.place) (saveGroups all) := by
  induction all with
  | nil => exact .pure []
  | cons g rest ih =>
    refine .bind ((saves_saveAll g.files).mono fun q hq ↦ ⟨g, List.mem_cons_self, hq⟩) fun _ ↦ ?_
    refine .bind (ih.mono ?_) fun _ ↦ .pure _
    exact fun q ⟨other, hother, hq⟩ ↦ ⟨other, List.mem_cons_of_mem g hother, hq⟩

def Cleared (t : FileTree) (q : List String) : Prop :=
  p.options.clearFirst ∧ t.node? p.outputFolder.place = some .folder ∧ p.outputFolder.place <+: q

def Planned (q : List String) : Prop :=
  ∃ g ∈ d.groups, ∃ file ∈ (p.filesOf g).files, q = file.path.place

theorem conflictsAmong_apply {σ : Type} [DiskStore (StateM σ)] [StillDisk σ]
    (outputs : List (String × DiskPath)) (s : σ) :
    (conflictsAmong outputs : StateM σ (List Conflict)) s =
      ((outputs.filter fun o ↦ ((DiskStore.occupied o.2 : StateM σ Bool) s).1).map
        fun o ↦ ⟨o.1, o.2⟩, s) := by
  induction outputs with
  | nil => rfl
  | cons o rest ih =>
    let taken := (DiskStore.occupied o.2 : StateM σ Bool) s
    let found := (conflictsAmong rest : StateM σ (List Conflict)) taken.2
    have hstep : (conflictsAmong (o :: rest) : StateM σ (List Conflict)) s =
        (if taken.1 then ⟨o.1, o.2⟩ :: found.1 else found.1, found.2) := rfl
    have hstill : taken.2 = s := StillDisk.occupied o.2 s
    have hfound : found = _ := (congrArg _ hstill).trans ih
    rw [hstep, hfound]
    by_cases ho : ((DiskStore.occupied o.2 : StateM σ Bool) s).1 <;> simp [taken, ho]

theorem run_conflicts (all : List GroupFiles) (t : FileTree) :
    (conflicts all : StateM FileTree (List Conflict)) t =
      (((GroupFiles.outputs all).filter fun o ↦ t.occupied o.2).map fun o ↦ ⟨o.1, o.2⟩, t) :=
  conflictsAmong_apply _ t

theorem run_clear (t : FileTree) : t.run p.clear =
    if p.options.clearFirst ∧ t.occupied p.outputFolder then
      (((t.removeFolder p.outputFolder).1.mapError GenerationError.disk).map fun _ ↦ true,
        (t.removeFolder p.outputFolder).2)
    else (.ok false, t) := by
  unfold clear
  by_cases hclear : p.options.clearFirst
  · rw [if_pos hclear, run_bind, run_isTaken]
    by_cases htaken : t.occupied p.outputFolder
    · simp only [htaken, hclear, if_true, and_self]
      have hremove : (DiskStore.removeFolder p.outputFolder : StateM FileTree _) t =
          t.removeFolder p.outputFolder := rfl
      rw [run_bind, run_orFail, hremove]
      rcases t.removeFolder p.outputFolder with ⟨_ | _, _⟩ <;> rfl
    · simp [htaken]
  · simp [hclear]

/-- What a generation comes to, from one step to the next. -/
theorem run_generate (t : FileTree) : t.run (p.generate d) =
    match p.plan d with
    | .error collision => (.error (.collision collision), t)
    | .ok all =>
      match t.run p.clear with
      | (.error e, t') => (.error e, t')
      | (.ok _, t') =>
        let present := ((conflicts all : StateM FileTree (List Conflict)) t').1
        if !p.options.overwrite && !present.isEmpty then (.error (.outputPresent present), t')
        else t'.run (saveGroups all) := by
  unfold generate
  cases p.plan d with
  | error collision => rfl
  | ok all =>
    dsimp only
    rw [run_bind]
    rcases t.run p.clear with ⟨e | b, t'⟩
    · rfl
    · dsimp only
      by_cases hover : p.options.overwrite
      · simp [hover]
      · -- To look for files that are there changes nothing.
        have hsame : ((conflicts all : StateM FileTree (List Conflict)) t').2 = t' :=
          congrArg Prod.snd (run_conflicts all t')
        simp only [hover, Bool.not_false, if_true, Bool.true_and]
        rw [run_bind, run_lift, hsame]
        dsimp only
        split <;> rfl

variable {p d} {t : FileTree} {written : List String → Prop}

theorem frame_clear : Frame (p.Cleared t) written t (t.run p.clear).2 := by
  rw [run_clear]
  split
  · rename_i h
    have hremove : Frame _ written t (t.removeFolder p.outputFolder).2 := frame_removeFolder t _
    dsimp only
    exact hremove.mono (fun q hq ↦ ⟨h.1, hq⟩) fun _ ↦ id
  · exact .refl _ _ t

theorem node?_of_clear {q : List String} {n : Node} (h : (t.run p.clear).2.node? q = some n) :
    t.node? q = some n := by
  rw [run_clear] at h
  split at h
  · exact node?_of_removeFolder h
  · exact h

theorem error_clear {e : GenerationError} (h : (t.run p.clear).1 = .error e) :
    ∃ e', e = .disk e' := by
  rw [run_clear] at h
  split at h
  · cases hremove : (t.removeFolder p.outputFolder).1 with
    | ok _ => simp [hremove, Except.mapError, Except.map] at h
    | error e' => exact ⟨e', by simpa [hremove, Except.mapError, Except.map] using h.symm⟩
  · cases h

theorem plan_eq_ok {all : List GroupFiles} (hplan : p.plan d = .ok all) :
    all = d.groups.map p.filesOf ∧ firstCollision [] (GroupFiles.outputs all) = none := by
  unfold plan at hplan
  dsimp only at hplan
  split at hplan
  · cases hplan
  · obtain rfl := Except.ok.inj hplan
    exact ⟨rfl, ‹_›⟩

theorem saves_planned {all : List GroupFiles} (hplan : p.plan d = .ok all) :
    Saves (p.Planned d) (saveGroups all) := by
  refine (saves_saveGroups all).mono ?_
  rintro q ⟨files, hfiles, file, hfile, hq⟩
  obtain ⟨g, hg, rfl⟩ := List.mem_map.1 ((plan_eq_ok hplan).1 ▸ hfiles)
  exact ⟨g, hg, file, hfile, hq⟩

/-- Whatever becomes of a generation, nothing goes but what is cleared or written anew. -/
theorem frame_generate : Frame (p.Cleared t) (p.Planned d) t (t.run (p.generate d)).2 := by
  rw [run_generate]
  split
  · exact .refl _ _ t
  · rename_i all hplan
    have hclear : Frame (p.Cleared t) (p.Planned d) t (t.run p.clear).2 := frame_clear
    split
    · rename_i hrun
      rwa [hrun] at hclear
    · rename_i t' hrun
      rw [hrun] at hclear
      dsimp only
      split
      · exact hclear
      · exact hclear.trans (((saves_planned hplan) t').1.mono (fun _ ↦ False.elim) fun _ ↦ id)

/-- A generation fails for a file operation, or for a collision when nothing has been done yet, or
for files that are there when the folder has been cleared. -/
theorem error_generate {e : GenerationError} (h : (t.run (p.generate d)).1 = .error e) :
    (∃ e', e = .disk e') ∨
    (∃ collision, e = .collision collision) ∧ (t.run (p.generate d)).2 = t ∨
    (∃ conflicts, e = .outputPresent conflicts) ∧
      (t.run (p.generate d)).2 = (t.run p.clear).2 := by
  rw [run_generate] at h ⊢
  cases hplan : p.plan d with
  | error collision =>
    simp only [hplan] at h
    exact .inr (.inl ⟨⟨collision, (Except.error.inj h).symm⟩, rfl⟩)
  | ok all =>
    simp only [hplan] at h ⊢
    rcases hrun : t.run p.clear with ⟨e' | cleared, t'⟩
    · simp only [hrun, Except.error.injEq] at h
      exact .inl (error_clear (by rw [hrun, h]))
    · simp only [hrun] at h ⊢
      split at h
      · rename_i hpresent
        rw [if_pos hpresent]
        exact .inr (.inr ⟨⟨_, (Except.error.inj h).symm⟩, rfl⟩)
      · exact .inl ((saves_planned hplan t').2 e h)

end Project

end Reshape
