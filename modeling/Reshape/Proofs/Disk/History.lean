import Reshape.Proofs.Disk.Map
import Reshape.Proofs.Disk.Vacancy

namespace Reshape

open FileTree

variable {α β ε ε' : Type}

structure History where
  now : FileTree
  past : List FileTree

namespace History

def trees (h : History) : List FileTree := h.now :: h.past

def record (op : StateM FileTree α) : StateM History α :=
  fun h ↦ ((op h.now).1, ⟨(op h.now).2, h.trees⟩)

instance : DiskStore (StateM History) where
  occupied p := fun h ↦ (h.now.occupied p, h)
  readText p := fun h ↦ (h.now.readText p, h)
  makeFolders p := record (DiskStore.makeFolders p)
  writeText p text := record (DiskStore.writeText p text)
  removeFolder p := record (DiskStore.removeFolder p)

instance : StillDisk History := ⟨fun _ _ ↦ rfl, fun _ _ ↦ rfl⟩

/-- Nothing that is done depends on what is recorded. -/
def latest : DiskMap History FileTree where
  toFun := now
  occupied _ _ := rfl
  readText _ _ := rfl
  makeFolders _ _ := rfl
  writeText _ _ _ := rfl
  removeFolder _ _ := rfl

/-- The tree is well formed, and the files of every tree are in all later ones with what they
hold. -/
structure Sound (h : History) : Prop where
  rooted : h.now.Rooted
  preserving : h.trees.Pairwise fun later earlier ↦ earlier.Keeps later

theorem Sound.push {h : History} (hsound : h.Sound) {t : FileTree} (hroot : t.Rooted)
    (hkeeps : h.now.Keeps t) : Sound ⟨t, h.trees⟩ := by
  refine ⟨hroot, List.pairwise_cons.2 ⟨fun earlier hmem ↦ ?_, hsound.preserving⟩⟩
  rcases List.mem_cons.1 hmem with rfl | hpast
  · exact hkeeps
  · exact Keeps.trans ((List.pairwise_cons.1 hsound.preserving).1 earlier hpast) hkeeps

structure Leads (h h' : History) : Prop where
  sound : h.Sound → h'.Sound
  suffix : h.trees <:+ h'.trees

namespace Leads

variable {h h' h'' : History}

theorem refl (h : History) : h.Leads h := ⟨id, List.suffix_rfl⟩

theorem trans (hleads : h.Leads h') (hleads' : h'.Leads h'') : h.Leads h'' :=
  ⟨hleads'.sound ∘ hleads.sound, hleads.suffix.trans hleads'.suffix⟩

end Leads

end History

/-- Where the tree of a history is as told before, the command does no harm to any file on the way,
and leaves the tree as told after if it succeeds. -/
def Spares (before : FileTree → Prop) (x : ExceptT ε (StateM History) α)
    (after : α → FileTree → Prop) : Prop :=
  ∀ h : History, h.Sound → before h.now →
    h.Leads (x.run h).2 ∧ ∀ a, (x.run h).1 = .ok a → after a (x.run h).2.now

namespace Spares

variable {before : FileTree → Prop} {after : α → FileTree → Prop}
  {x : ExceptT ε (StateM History) α}

theorem pure (a : α) (hafter : ∀ t, before t → after a t) :
    Spares before (pure a : ExceptT ε (StateM History) α) after := by
  intro h _ hbefore
  refine ⟨.refl h, fun a' ha' ↦ ?_⟩
  obtain rfl : a = a' := Except.ok.inj ha'
  exact hafter h.now hbefore

theorem throw (e : ε) : Spares before (throw e : ExceptT ε (StateM History) α) after :=
  fun h _ _ ↦ ⟨.refl h, fun _ ha ↦ nomatch ha⟩

theorem throw_bind (e : ε) (f : α → ExceptT ε (StateM History) β) {after : β → FileTree → Prop} :
    Spares before (MonadExcept.throw e >>= f) after :=
  fun h _ _ ↦ ⟨.refl h, fun _ ha ↦ nomatch ha⟩

theorem bind {mid : α → FileTree → Prop} {after : β → FileTree → Prop}
    {f : α → ExceptT ε (StateM History) β} (hx : Spares before x mid)
    (hf : ∀ a, Spares (mid a) (f a) after) : Spares before (x >>= f) after := by
  intro h hsound hbefore
  obtain ⟨hleads, hmid⟩ := hx h hsound hbefore
  rw [run_bind_apply]
  rcases hrun : x.run h with ⟨e | a, h'⟩
  · rw [hrun] at hleads
    exact ⟨hleads, fun _ ha ↦ nomatch ha⟩
  · rw [hrun] at hleads hmid
    obtain ⟨hleads', hafter⟩ := hf a h' (hleads.sound hsound) (hmid a rfl)
    exact ⟨hleads.trans hleads', hafter⟩

theorem adapt (hx : Spares before x after) (f : ε → ε') : Spares before (x.adapt f) after := by
  intro h hsound hbefore
  obtain ⟨hleads, hafter⟩ := hx h hsound hbefore
  refine ⟨hleads, fun a ha ↦ hafter a ?_⟩
  change (x.run h).1.mapError f = .ok a at ha
  cases hrun : (x.run h).1 with
  | error e => simp [hrun, Except.mapError] at ha
  | ok a' => simpa [hrun, Except.mapError] using ha

theorem mono {before' : FileTree → Prop} {after' : α → FileTree → Prop}
    (hx : Spares before x after) (hbefore : ∀ t, t.Rooted → before' t → before t)
    (hafter : ∀ a t, after a t → after' a t) : Spares before' x after' := by
  intro h hsound hb
  obtain ⟨hleads, ha⟩ := hx h hsound (hbefore h.now hsound.rooted hb)
  exact ⟨hleads, fun a hrun ↦ hafter a _ (ha a hrun)⟩

theorem of_forall (hx : ∀ t, before t → Spares before x after) : Spares before x after :=
  fun h hsound hbefore ↦ hx h.now hbefore h hsound hbefore

theorem of_still (hx : Still x) (hafter : ∀ a t, before t → after a t) :
    Spares before x after := by
  intro h _ hbefore
  have hsame : (x.run h).2 = h := hx h
  rw [hsame]
  exact ⟨.refl h, fun a _ ↦ hafter a h.now hbefore⟩

/-- What is read is what would be read from the latest tree. -/
theorem of_reading (hx : Still x) {y : ExceptT ε (StateM FileTree) α}
    (hxy : History.latest.Relates x y) :
    Spares before x fun a t ↦ before t ∧ (t.run y).1 = .ok a := by
  intro h _ hbefore
  have hsame : (x.run h).2 = h := hx h
  have hread : h.now.run y = ((x.run h).1, (x.run h).2.now) := hxy h
  rw [hsame] at hread ⊢
  exact ⟨.refl h, fun a ha ↦ ⟨hbefore, by rw [hread, ha]⟩⟩

theorem isTaken (p : DiskPath) :
    Spares before (DiskStore.isTaken p : ExceptT ε (StateM History) Bool)
      fun taken t ↦ before t ∧ t.occupied p = taken := by
  intro h _ hbefore
  refine ⟨.refl h, fun taken htaken ↦ ⟨hbefore, ?_⟩⟩
  exact Except.ok.inj htaken

theorem record {wrap : DiskError → ε} {op : StateM FileTree (Except DiskError α)}
    {after : FileTree → Prop} (hroot : ∀ t : FileTree, t.Rooted → (op t).2.Rooted)
    (hkeeps : ∀ t : FileTree, before t → t.Keeps (op t).2)
    (hafter : ∀ t, before t → after (op t).2) :
    Spares before (DiskStore.orFail wrap (History.record op)) fun _ ↦ after := by
  intro h hsound hbefore
  rw [run_orFail_apply]
  refine ⟨⟨fun hsound ↦ ?_, List.suffix_cons _ _⟩, fun _ _ ↦ hafter _ hbefore⟩
  exact hsound.push (hroot _ hsound.rooted) (hkeeps _ hbefore)

theorem makeFolders {wrap : DiskError → ε} {p : DiskPath}
    (hstable : ∀ t t', before t → Frame (fun _ ↦ False) (fun _ ↦ False) t t' → before t') :
    Spares before (DiskStore.orFail wrap (DiskStore.makeFolders p)) fun _ ↦ before :=
  record (fun _ ht ↦ ht.makeFolders p) (fun t _ ↦ keeps_makeFolders t p)
    fun t ht ↦ hstable t _ ht (frame_makeFolders t p)

theorem writeText {wrap : DiskError → ε} {p : DiskPath} {text : String} {after : FileTree → Prop}
    (hvacant : ∀ t, before t → t.Vacant p)
    (hafter : ∀ t t', before t → Frame (fun _ ↦ False) (· = p.place) t t' → after t') :
    Spares before (DiskStore.orFail wrap (DiskStore.writeText p text)) fun _ ↦ after :=
  record (fun _ ht ↦ ht.write p _) (fun t ht ↦ (hvacant t ht).keeps_write _)
    fun t ht ↦ hafter t _ ht (frame_write t p _)

end Spares

end Reshape
