import Reshape.Proofs.Disk.Command

namespace Reshape

variable {σ τ ε ε' α β : Type}

def Agree (f : σ → τ) (x : StateM σ α) (y : StateM τ α) : Prop :=
  ∀ s, y (f s) = ((x s).1, f (x s).2)

theorem Agree.bind {f : σ → τ} {x : StateM σ α} {y : StateM τ α} {g : α → StateM σ β}
    {k : α → StateM τ β} (hxy : Agree f x y) (hgk : ∀ a, Agree f (g a) (k a)) :
    Agree f (x >>= g) (y >>= k) := by
  intro s
  change k (y (f s)).1 (y (f s)).2 = _
  rw [hxy s]
  exact hgk (x s).1 (x s).2

/-- A way to see a disk as another one, under which all operations agree. -/
structure DiskMap (σ τ : Type) [DiskStore (StateM σ)] [DiskStore (StateM τ)] where
  toFun : σ → τ
  occupied (p : DiskPath) : Agree toFun (DiskStore.occupied p) (DiskStore.occupied p)
  readText (p : DiskPath) : Agree toFun (DiskStore.readText p) (DiskStore.readText p)
  makeFolders (p : DiskPath) : Agree toFun (DiskStore.makeFolders p) (DiskStore.makeFolders p)
  writeText (p : DiskPath) (text : String) :
    Agree toFun (DiskStore.writeText p text) (DiskStore.writeText p text)
  removeFolder (p : DiskPath) : Agree toFun (DiskStore.removeFolder p) (DiskStore.removeFolder p)

namespace DiskMap

variable [DiskStore (StateM σ)] [DiskStore (StateM τ)]

def Relates (f : DiskMap σ τ) (x : ExceptT ε (StateM σ) α) (y : ExceptT ε (StateM τ) α) : Prop :=
  Agree f.toFun x.run y.run

variable {f : DiskMap σ τ} {x : ExceptT ε (StateM σ) α} {y : ExceptT ε (StateM τ) α}

namespace Relates

theorem pure (a : α) : f.Relates (pure a : ExceptT ε (StateM σ) α) (pure a) := fun _ ↦ rfl

theorem throw (e : ε) : f.Relates (throw e : ExceptT ε (StateM σ) α) (throw e) := fun _ ↦ rfl

theorem throw_bind (e : ε) (g : α → ExceptT ε (StateM σ) β) (k : α → ExceptT ε (StateM τ) β) :
    f.Relates (MonadExcept.throw e >>= g) (MonadExcept.throw e >>= k) := fun _ ↦ rfl

theorem bind {g : α → ExceptT ε (StateM σ) β} {k : α → ExceptT ε (StateM τ) β}
    (hxy : f.Relates x y) (hgk : ∀ a, f.Relates (g a) (k a)) :
    f.Relates (x >>= g) (y >>= k) := by
  intro s
  rw [run_bind_apply, run_bind_apply, hxy s]
  rcases x.run s with ⟨e | a, s'⟩
  · rfl
  · exact hgk a s'

theorem adapt (hxy : f.Relates x y) (g : ε → ε') : f.Relates (x.adapt g) (y.adapt g) := by
  intro s
  change ((y.run (f.toFun s)).1.mapError g, (y.run (f.toFun s)).2) = _
  rw [hxy s]
  rfl

theorem lift {op : StateM σ α} {op' : StateM τ α} (h : Agree f.toFun op op') :
    f.Relates (ExceptT.lift op : ExceptT ε (StateM σ) α) (ExceptT.lift op') := by
  intro s
  change (Except.ok (op' (f.toFun s)).1, (op' (f.toFun s)).2) = _
  rw [h s]
  rfl

theorem orFail {op : StateM σ (Except DiskError α)} {op' : StateM τ (Except DiskError α)}
    (h : Agree f.toFun op op') (wrap : DiskError → ε) :
    f.Relates (DiskStore.orFail wrap op) (DiskStore.orFail wrap op') := by
  intro s
  rw [run_orFail_apply, run_orFail_apply, h s]

theorem isTaken (p : DiskPath) :
    f.Relates (DiskStore.isTaken p : ExceptT ε (StateM σ) Bool) (DiskStore.isTaken p) :=
  lift (f.occupied p)

end Relates

end DiskMap

end Reshape
