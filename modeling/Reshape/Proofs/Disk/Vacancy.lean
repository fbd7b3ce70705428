import Reshape.Proofs.Disk.Walk

namespace Reshape.FileTree

variable {t t' t'' : FileTree} {p : DiskPath}
  {written : List String → Prop}

def Keeps (t t' : FileTree) : Prop :=
  ∀ q bytes, t.node? q = some (.file bytes) → t'.node? q = some (.file bytes)

namespace Keeps

theorem refl (t : FileTree) : t.Keeps t := fun _ _ ↦ id

theorem trans (h : t.Keeps t') (h' : t'.Keeps t'') : t.Keeps t'' :=
  fun q bytes hq ↦ h' q bytes (h q bytes hq)

theorem of_frame (h : Frame (fun _ ↦ False) written t t')
    (hfree : ∀ q bytes, written q → t.node? q ≠ some (.file bytes)) : t.Keeps t' := by
  intro q bytes hq
  rcases h.files q bytes hq with hkept | hlost | ⟨hwritten, -⟩
  · exact hkept
  · exact hlost.elim
  · exact absurd hq (hfree q bytes hwritten)

end Keeps

/-- There is no file where the path leads, or none that could ever be written over, because a name
on the way is too long for any walk. -/
def Vacant (t : FileTree) (p : DiskPath) : Prop :=
  ∀ bytes, t.node? p.place = some (.file bytes) →
    ∀ (t' : FileTree) bytes', (t'.write p bytes').2 = t'

theorem vacant_of_not_occupied (hroot : t.Rooted) (hback : ".." ∉ p.steps)
    (hlast : p.steps.getLast? ≠ some ".") (h : t.occupied p = false) : t.Vacant p := by
  intro bytes hfile t' bytes'
  rcases write_cases t' p bytes' with hsame | ⟨hchecked, hslash, hwalk, -, -⟩
  · exact hsame
  · -- The path can be walked in `t` as well, so the file would have been found there.
    have husable : Usable p := ⟨hchecked, hslash, short_of_walk hwalk⟩
    have htaken := occupied_of_usable hroot husable hback hlast (by simp [hfile])
    rw [h] at htaken
    cases htaken

theorem Vacant.of_frame (h : t.Vacant p) (hframe : Frame (fun _ ↦ False) written t t')
    (hplace : ¬ written p.place) : t'.Vacant p := by
  intro bytes hfile
  rcases hframe.adds _ _ hfile with hold | hfolder | hwritten
  · exact h bytes hold
  · cases hfolder
  · exact absurd hwritten hplace

theorem keeps_makeFolders (t : FileTree) (p : DiskPath) : t.Keeps (t.makeFolders p).2 := by
  have hframe : Frame (fun _ ↦ False) (fun _ ↦ False) t (t.makeFolders p).2 :=
    frame_makeFolders t p
  exact .of_frame hframe fun _ _ h ↦ h.elim

theorem Vacant.keeps_write (h : t.Vacant p) (bytes : ByteArray) :
    t.Keeps (t.write p bytes).2 := by
  by_cases hfile : ∃ bytes', t.node? p.place = some (.file bytes')
  · obtain ⟨bytes', hbytes'⟩ := hfile
    rw [h bytes' hbytes']
    exact .refl t
  · refine .of_frame (frame_write t p bytes) fun q bytes' hq hbytes' ↦ hfile ⟨bytes', ?_⟩
    rw [← hq, hbytes']

end Reshape.FileTree
