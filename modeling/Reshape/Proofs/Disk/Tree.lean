import Reshape.Proofs.Disk.Path
import Reshape.Proofs.DottedPath
import Reshape.Proofs.Keyed

namespace Reshape

namespace FileTree

variable {t t' : FileTree} {place place' q : List String} {step : String} {steps : List String}
  {n : Node} {p : DiskPath}

theorem advance_eq_ok (h : advance place step = .ok place') : place' = lead place step := by
  by_cases hdot : step = "."
  · simpa [advance, lead, hdot] using h.symm
  · by_cases hdots : step = ".."
    · simpa [advance, lead, hdots] using h.symm
    · rw [advance, if_neg hdot, if_neg hdots] at h
      rw [lead, if_neg hdot, if_neg hdots]
      split at h
      · cases h
      · exact (Except.ok.inj h).symm

theorem walk_eq_ok (h : t.walk place steps = .ok place') : place' = steps.foldl lead place := by
  induction steps generalizing place with
  | nil => simpa [walk] using h.symm
  | cons step rest ih =>
    rw [walk] at h
    split at h
    · cases h
    · cases h
    · split at h
      · rename_i hnext
        rw [List.foldl_cons, ← advance_eq_ok hnext]
        exact ih h
      · cases h

theorem checked_eq_ok {p' : DiskPath} (h : checked p = .ok p') : p' = p := by
  unfold checked at h
  split at h
  · cases h
  · split at h
    · cases h
    · split at h
      · cases h
      · exact (Except.ok.inj h).symm

theorem locate_eq_ok (h : t.locate p = .ok place) : place = p.place := by
  unfold locate at h
  split at h
  · rename_i hchecked
    obtain rfl := checked_eq_ok hchecked
    rw [walk_eq_ok h, List.foldl_append, DiskPath.place]
    split <;> simp [lead]
  · cases h

@[simp] theorem node?_nil (t : FileTree) : t.node? [] = some .folder := rfl

theorem node?_insert_self (t : FileTree) (hne : place ≠ []) (n : Node) :
    FileTree.node? (t.insert place n) place = some n := by
  simp [node?, hne]

theorem node?_insert_of_ne (t : FileTree) (h : q ≠ place) (n : Node) :
    FileTree.node? (t.insert place n) q = t.node? q := by
  unfold node?
  split
  · rfl
  · exact Keyed.get?_insert_of_ne h _ _

theorem isBelow_iff : isBelow place q ↔ Below q place := by
  simp [isBelow, Below, ne_comm]

/-- What a change leaves as it is. All that may not be lost keeps its place, and a file keeps what
it holds unless it may be written; nothing comes up but folders, and files where those may be
written. -/
structure Frame (lost written : List String → Prop) (t t' : FileTree) : Prop where
  folders : ∀ q, t.node? q = some .folder → t'.node? q = some .folder ∨ lost q
  files : ∀ q bytes, t.node? q = some (.file bytes) → t'.node? q = some (.file bytes) ∨ lost q ∨
    written q ∧ ∃ bytes', t'.node? q = some (.file bytes')
  adds : ∀ q n, t'.node? q = some n → t.node? q = some n ∨ n = .folder ∨ written q

variable {lost written lost' written' : List String → Prop} {t'' : FileTree}

namespace Frame

theorem refl (lost written : List String → Prop) (t : FileTree) : Frame lost written t t :=
  ⟨fun _ ↦ .inl, fun _ _ ↦ .inl, fun _ _ ↦ .inl⟩

theorem trans (h : Frame lost written t t') (h' : Frame lost written t' t'') :
    Frame lost written t t'' where
  folders q hq := (h.folders q hq).elim (h'.folders q) .inr
  files q bytes hq := by
    rcases h.files q bytes hq with hq' | hlost | ⟨hwritten, bytes', hq'⟩
    · exact h'.files q bytes hq'
    · exact .inr (.inl hlost)
    · rcases h'.files q bytes' hq' with hq'' | hlost | hwritten'
      · exact .inr (.inr ⟨hwritten, bytes', hq''⟩)
      · exact .inr (.inl hlost)
      · exact .inr (.inr hwritten')
  adds q n hq := (h'.adds q n hq).elim (h.adds q n) .inr

theorem mono (h : Frame lost written t t') (hlost : ∀ q, lost q → lost' q)
    (hwritten : ∀ q, written q → written' q) : Frame lost' written' t t' where
  folders q hq := (h.folders q hq).imp_right (hlost q)
  files q bytes hq := (h.files q bytes hq).imp_right (.imp (hlost q) (.imp_left (hwritten q)))
  adds q n hq := (h.adds q n hq).imp_right (.imp_right (hwritten q))

theorem lost_of_gone {q : List String} (h : Frame lost written t t') (hq : (t.node? q).isSome)
    (hgone : t'.node? q = none) : lost q := by
  obtain ⟨n, hn⟩ := Option.isSome_iff_exists.1 hq
  cases n with
  | folder => exact (h.folders q hn).resolve_left (by simp [hgone])
  | file bytes =>
    rcases h.files q bytes hn with hkept | hlost | ⟨-, bytes', hwritten⟩
    · simp [hgone] at hkept
    · exact hlost
    · simp [hgone] at hwritten

theorem of_keeps (hkeeps : ∀ q n, t.node? q = some n → t'.node? q = some n ∨ lost q)
    (hadds : ∀ q n, t'.node? q = some n → t.node? q = some n ∨ n = .folder) :
    Frame lost written t t' where
  folders q := hkeeps q .folder
  files q _ hq := (hkeeps q _ hq).imp_right .inl
  adds q n hq := (hadds q n hq).imp_right .inl

end Frame

theorem frame_insert_folder (h : t.node? place = none) :
    Frame lost written t (t.insert place .folder) := by
  have hne : place ≠ [] := by
    rintro rfl
    simp at h
  apply Frame.of_keeps <;> intro q n hq <;> by_cases hplace : q = place
  · simp [hplace, h] at hq
  · exact .inl (by rw [node?_insert_of_ne t hplace, hq])
  · rw [hplace, node?_insert_self t hne] at hq
    exact .inr (Option.some.inj hq).symm
  · exact .inl (by rw [← node?_insert_of_ne t hplace, hq])

theorem frame_insert_file (h : t.node? place ≠ some .folder) (bytes : ByteArray) :
    Frame lost (· = place) t (t.insert place (.file bytes)) where
  folders q hq := by
    have hplace : q ≠ place := by
      rintro rfl
      exact h hq
    exact .inl (by rw [node?_insert_of_ne t hplace, hq])
  files q bytes' hq := by
    by_cases hplace : q = place
    · have hne : place ≠ [] := by
        rintro rfl
        exact h rfl
      exact .inr (.inr ⟨hplace, bytes, by rw [hplace, node?_insert_self t hne]⟩)
    · exact .inl (by rw [node?_insert_of_ne t hplace, hq])
  adds q n hq := by
    by_cases hplace : q = place
    · exact .inr (.inr hplace)
    · exact .inl (by rw [← node?_insert_of_ne t hplace, hq])

theorem node?_of_filter (keep : List String → Bool)
    (h : FileTree.node? (t.filter fun e ↦ keep e.1) q = some n) : t.node? q = some n := by
  by_cases hroot : q.isEmpty
  · simpa [node?, hroot] using h
  · rw [node?, if_neg hroot] at h ⊢
    by_cases hkeep : keep q
    · rwa [Keyed.get?_filter_of_pos hkeep] at h
    · simp [Keyed.get?_filter_of_neg hkeep] at h

theorem frame_filter (keep : List String → Bool) (h : ∀ q, ¬ lost q → keep q) (t : FileTree) :
    Frame lost written t (t.filter fun e ↦ keep e.1) := by
  refine Frame.of_keeps (fun q n hq ↦ ?_) fun q n hq ↦ .inl (node?_of_filter keep hq)
  by_cases hlost : lost q
  · exact .inr hlost
  · refine .inl ?_
    by_cases hroot : q.isEmpty
    · simpa [node?, hroot] using hq
    · rw [node?, if_neg hroot] at hq ⊢
      rwa [Keyed.get?_filter_of_pos (h q hlost)]

theorem frame_makeAlong (t : FileTree) (place : List String) (steps : List String) :
    Frame lost written t (t.makeAlong place steps).2 := by
  induction steps generalizing t place with
  | nil => exact .refl _ _ t
  | cons step rest ih =>
    rw [makeAlong]
    split
    · exact .refl _ _ t
    · split
      · exact ih t _
      · exact .refl _ _ t
      · rename_i hnone
        exact (frame_insert_folder hnone).trans (ih _ _)

theorem frame_makeFolders (t : FileTree) (p : DiskPath) :
    Frame lost written t (t.makeFolders p).2 := by
  unfold makeFolders
  split
  · exact .refl _ _ t
  · split
    · exact .refl _ _ t
    · dsimp only
      split
      · split <;> exact frame_makeAlong _ _ _
      · exact frame_makeAlong _ _ _

theorem frame_write (t : FileTree) (p : DiskPath) (bytes : ByteArray) :
    Frame lost (· = p.place) t (t.write p bytes).2 := by
  unfold write
  split
  · exact .refl _ _ t
  · rename_i hchecked
    obtain rfl := checked_eq_ok hchecked
    split
    · exact .refl _ _ t
    · split
      · exact .refl _ _ t
      · rename_i hwalk
        split
        · exact .refl _ _ t
        · rename_i hfolder
          rw [walk_eq_ok hwalk] at hfolder ⊢
          exact frame_insert_file hfolder _

theorem removeFolder_eq_self (h : t.node? p.place ≠ some .folder) : (t.removeFolder p).2 = t := by
  unfold removeFolder
  split
  · rfl
  · rename_i hlocate
    obtain rfl := locate_eq_ok hlocate
    split
    · rfl
    · rfl
    · contradiction

theorem node?_of_removeFolder (h : (t.removeFolder p).2.node? q = some n) :
    t.node? q = some n := by
  unfold removeFolder at h
  split at h
  · exact h
  · rename_i place _
    split at h
    · exact h
    · exact h
    · have hemptied (hq : (t.emptied place).node? q = some n) : t.node? q = some n :=
        node?_of_filter (fun q ↦ !isBelow place q) hq
      dsimp only at h
      split at h
      · exact hemptied h
      · rename_i place' _
        split at h
        · exact hemptied (node?_of_filter (fun q ↦ q ≠ place') h)
        · exact hemptied h

/-- Nothing is removed but what lies in a folder, and this folder itself. -/
theorem frame_removeFolder (t : FileTree) (p : DiskPath) :
    Frame (fun q ↦ t.node? p.place = some .folder ∧ p.place <+: q) written t
      (t.removeFolder p).2 := by
  unfold removeFolder
  split
  · exact .refl _ _ t
  · rename_i place hlocate
    obtain rfl := locate_eq_ok hlocate
    split
    · exact .refl _ _ t
    · exact .refl _ _ t
    · rename_i hfolder
      have hemptied : Frame (fun q ↦ t.node? p.place = some .folder ∧ p.place <+: q) written t
          (t.emptied p.place) := by
        refine frame_filter (fun q ↦ !isBelow p.place q) (fun q hq ↦ ?_) t
        have hbelow : ¬ Below q p.place := fun h ↦ hq ⟨hfolder, h.1⟩
        simpa [← isBelow_iff] using hbelow
      -- The folder itself goes only if the way to it does not lead through what is gone by now.
      dsimp only
      split
      · exact hemptied
      · rename_i hwalk
        split
        · refine hemptied.trans ?_
          rw [walk_eq_ok hwalk]
          refine frame_filter (fun q ↦ q ≠ p.place) (fun q hq ↦ ?_) _
          exact decide_eq_true fun h ↦ hq ⟨hfolder, h ▸ List.prefix_rfl⟩
        · exact hemptied

end FileTree

end Reshape
