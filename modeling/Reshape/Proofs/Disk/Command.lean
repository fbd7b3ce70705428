import Reshape.Proofs.Disk.Tree

namespace Reshape

open DiskStore

section

variable {σ ε ε' α β : Type}

theorem run_bind_apply (x : ExceptT ε (StateM σ) α) (f : α → ExceptT ε (StateM σ) β) (s : σ) :
    (x >>= f).run s = match x.run s with
      | (.ok a, s') => (f a).run s'
      | (.error e, s') => (.error e, s') := by
  simp only [bind, ExceptT.bind, ExceptT.mk, ExceptT.run, StateT.bind, ExceptT.bindCont]
  rcases x s with ⟨_ | _, _⟩ <;> rfl

theorem snd_bind_apply (x : StateM σ α) {f : α → StateM σ β} (hf : ∀ a s, (f a s).2 = s) (s : σ) :
    ((x >>= f) s).2 = (x s).2 := hf (x s).1 (x s).2

theorem run_orFail_apply (wrap : DiskError → ε) (x : StateM σ (Except DiskError α)) (s : σ) :
    (orFail wrap x).run s = ((x s).1.mapError wrap, (x s).2) := by
  unfold orFail
  rcases h : x s with ⟨_ | _, _⟩ <;> simp [ExceptT.run, ExceptT.mk, bind, StateT.bind, h] <;> rfl

end

namespace FileTree

variable {ε ε' α β : Type}

def run (t : FileTree) (x : ExceptT ε (StateM FileTree) α) : Except ε α × FileTree :=
  ExceptT.run x t

variable (t : FileTree)

@[simp] theorem run_pure (a : α) :
    t.run (pure a : ExceptT ε (StateM FileTree) α) = (.ok a, t) := rfl

theorem run_bind (x : ExceptT ε (StateM FileTree) α) (f : α → ExceptT ε (StateM FileTree) β) :
    t.run (x >>= f) = match t.run x with
      | (.ok a, t') => t'.run (f a)
      | (.error e, t') => (.error e, t') := by
  unfold run
  rw [run_bind_apply]
  rcases x.run t with ⟨_ | _, _⟩ <;> rfl

theorem run_lift (x : StateM FileTree α) :
    t.run (ExceptT.lift x : ExceptT ε (StateM FileTree) α) = (.ok (x t).1, (x t).2) := rfl

theorem run_isTaken (p : DiskPath) :
    t.run (isTaken p : ExceptT ε (StateM FileTree) Bool) = (.ok (t.occupied p), t) := rfl

theorem run_orFail (wrap : DiskError → ε) (x : StateM FileTree (Except DiskError α)) :
    t.run (orFail wrap x) = ((x t).1.mapError wrap, (x t).2) := run_orFail_apply wrap x t

theorem run_adapt (f : ε → ε') (x : ExceptT ε (StateM FileTree) α) :
    t.run (x.adapt f) = ((t.run x).1.mapError f, (t.run x).2) := rfl

end FileTree

class StillDisk (σ : Type) [DiskStore (StateM σ)] : Prop where
  occupied (p : DiskPath) (s : σ) : ((occupied p : StateM σ Bool) s).2 = s
  readText (p : DiskPath) (s : σ) : ((readText p : StateM σ (Except DiskError String)) s).2 = s

instance : StillDisk FileTree := ⟨fun _ _ ↦ rfl, fun _ _ ↦ rfl⟩

/-- A command that leaves its disk as it is, wherever the disk is kept. -/
def Still {σ ε α : Type} (x : ExceptT ε (StateM σ) α) : Prop := ∀ s : σ, (x.run s).2 = s

namespace Still

variable {σ ε ε' α β : Type} {x : ExceptT ε (StateM σ) α} {f : α → ExceptT ε (StateM σ) β}

theorem pure (a : α) : Still (pure a : ExceptT ε (StateM σ) α) := fun _ ↦ rfl

theorem throw (e : ε) : Still (throw e : ExceptT ε (StateM σ) α) := fun _ ↦ rfl

theorem throw_bind (e : ε) (f : α → ExceptT ε (StateM σ) β) :
    Still (MonadExcept.throw e >>= f) := fun _ ↦ rfl

theorem bind (hx : Still x) (hf : ∀ a, Still (f a)) : Still (x >>= f) := by
  intro s
  have hs := hx s
  rw [run_bind_apply]
  rcases hrun : x.run s with ⟨e | a, s'⟩
  · rwa [hrun] at hs
  · rw [hrun] at hs
    exact (hf a s').trans hs

theorem orFail {op : StateM σ (Except DiskError α)} (h : ∀ s, (op s).2 = s)
    (wrap : DiskError → ε) : Still (orFail wrap op) := by
  intro s
  rw [run_orFail_apply]
  exact h s

theorem adapt (hx : Still x) (f : ε → ε') : Still (x.adapt f) := hx

variable [DiskStore (StateM σ)] [StillDisk σ]

theorem isTaken (p : DiskPath) : Still (isTaken p : ExceptT ε (StateM σ) Bool) :=
  StillDisk.occupied p

theorem readText (wrap : DiskError → ε) (p : DiskPath) :
    Still (DiskStore.orFail wrap (DiskStore.readText p) : ExceptT ε (StateM σ) String) :=
  orFail (StillDisk.readText p) wrap

end Still

end Reshape
