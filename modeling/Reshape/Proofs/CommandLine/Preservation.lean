import Reshape.Proofs.CommandLine.Agreement
import Reshape.Proofs.CommandLine.Reading
import Reshape.Proofs.Generation.Sparing

namespace Reshape

open FileTree

structure Call where
  args : List String
  input : Except DiskError String

section

variable {m : Type → Type} [Monad m] [DiskStore m]

def Call.run (w : Wording) (c : Call) : m Outcome := runProgram w c.args (pure c.input)

def runAll (w : Wording) : List Call → m (List Outcome)
  | [] => return []
  | c :: rest => do
    let outcome ← c.run w
    let outcomes ← runAll w rest
    return outcome :: outcomes

end

/-- The options that a tree holds for the call, if there are any, are careful. -/
def Invocation.CarefulOn (i : Invocation) (t : FileTree) : Prop :=
  ∀ o, (t.run i.options).1 = .ok o → Project.Careful ⟨i.root, o⟩

/-- The call names its project without steps back, and if it generates, then by careful options. -/
def Call.Gentle (c : Call) (t : FileTree) : Prop :=
  ∀ i, Invocation.parse c.args = .ok i → ".." ∉ i.root.steps ∧
    (i.command = .generate → i.CarefulOn t)

/-- Every call is gentle on the tree that the calls before it leave. -/
def AllGentle (w : Wording) : FileTree → List Call → Prop
  | _, [] => True
  | t, c :: rest => c.Gentle t ∧ AllGentle w ((c.run w : StateM FileTree Outcome) t).2 rest

instance decidableOfOk {ε α : Type} {P : α → Prop} [DecidablePred P] (result : Except ε α) :
    Decidable (∀ a, result = .ok a → P a) :=
  match result with
  | .ok a => decidable_of_iff (P a) (by simp)
  | .error _ => isTrue fun _ h ↦ nomatch h

instance (i : Invocation) (t : FileTree) : Decidable (i.CarefulOn t) :=
  inferInstanceAs (Decidable (∀ o, _ → Project.Careful ⟨i.root, o⟩))

instance (c : Call) (t : FileTree) : Decidable (c.Gentle t) :=
  inferInstanceAs (Decidable (∀ _, _ → _ ∧ _))

instance AllGentle.decidable (w : Wording) : ∀ t calls, Decidable (AllGentle w t calls)
  | _, [] => .isTrue trivial
  | t, c :: rest =>
    have := AllGentle.decidable w ((c.run w : StateM FileTree Outcome) t).2 rest
    inferInstanceAs (Decidable (_ ∧ _))

theorem agree_runAll {σ τ : Type} [DiskStore (StateM σ)] [DiskStore (StateM τ)] (f : DiskMap σ τ)
    (w : Wording) (calls : List Call) : Agree f.toFun (runAll w calls) (runAll w calls) := by
  induction calls with
  | nil => exact fun _ ↦ rfl
  | cons c rest ih =>
    exact .bind (agree_runProgram f w c.args c.input) fun _ ↦ .bind ih fun _ ↦ fun _ ↦ rfl

namespace Invocation

variable {i : Invocation}

theorem spares_generate (hroot : ".." ∉ i.root.steps) :
    Spares i.CarefulOn i.generate fun _ _ ↦ True := by
  refine .bind (.of_still i.still_schema fun _ _ ↦ id) fun d ↦ ?_
  refine .bind (.adapt (.of_reading i.still_options (relates_options History.latest i)) _)
    fun o ↦ .of_forall fun t ht ↦ ?_
  have hp : Project.Careful ⟨i.root, o⟩ := ht.1 o ht.2
  exact .bind (.adapt (Project.spares_generate hp hroot) _) fun _ ↦ .pure _ fun _ ↦ id

theorem spares_execute (hroot : ".." ∉ i.root.steps) (input : Except DiskError String) :
    Spares (fun t ↦ i.command = .generate → i.CarefulOn t) (i.execute (pure input))
      fun _ _ ↦ True := by
  unfold execute
  cases i.command with
  | writeOptions => exact .bind (.adapt (Options.spares_create hroot) _) fun _ ↦ .pure _ fun _ ↦ id
  | writeSchema => exact .bind (.adapt (Schema.spares_create hroot) _) fun _ ↦ .pure _ fun _ ↦ id
  | generate => exact (spares_generate hroot).mono (fun _ _ ht ↦ ht rfl) fun _ _ ↦ id
  | inspect format => exact .of_still (i.still_inspect format) fun _ _ _ ↦ trivial
  | convert path group shape =>
    exact .of_still (i.still_convert (fun _ ↦ rfl) path group shape) fun _ _ _ ↦ trivial

end Invocation

theorem Call.leads {c : Call} {h : History} (hsound : h.Sound) (hgentle : c.Gentle h.now)
    (w : Wording) : h.Leads ((c.run w : StateM History Outcome) h).2 := by
  unfold Call.run runProgram
  cases hparse : Invocation.parse c.args with
  | error stop => cases stop <;> exact .refl h
  | ok i =>
    obtain ⟨hroot, hcareful⟩ := hgentle i hparse
    have hleads := (i.spares_execute hroot c.input h hsound hcareful).1
    dsimp only
    rw [snd_bind_apply]
    · exact hleads
    · intro result h'
      cases result <;> rfl

/-- Whatever a run of gentle calls does, it goes on without harm to any file. -/
theorem leads_runAll {w : Wording} {calls : List Call} {h : History} (hsound : h.Sound)
    (hgentle : AllGentle w h.now calls) :
    h.Leads ((runAll w calls : StateM History (List Outcome)) h).2 := by
  induction calls generalizing h with
  | nil => exact .refl h
  | cons c rest ih =>
    obtain ⟨hfirst, hrest⟩ := hgentle
    have hleads := c.leads hsound hfirst w
    -- The next call is known to be gentle on the tree that the plain run leaves.
    have hagree := agree_runProgram History.latest w c.args c.input h
    have htree : ((c.run w : StateM FileTree Outcome) h.now).2 =
        ((c.run w : StateM History Outcome) h).2.now := congrArg Prod.snd hagree
    rw [htree] at hrest
    exact hleads.trans (ih (hleads.sound hsound) hrest)

/-- Over any run of gentle calls, whether they succeed or fail, every file that there is at some
point is kept with what it holds at all later ones, those within a call among them. -/
theorem runAll_preserving (w : Wording) (t : FileTree) (calls : List Call) (hroot : t.Rooted)
    (hgentle : AllGentle w t calls) :
    let recorded := (runAll w calls : StateM History (List Outcome)) ⟨t, []⟩
    (runAll w calls : StateM FileTree (List Outcome)) t = (recorded.1, recorded.2.now) ∧
      [t] <:+ recorded.2.trees ∧
      recorded.2.trees.Pairwise fun later earlier ↦ earlier.Keeps later := by
  intro recorded
  have hsound : History.Sound ⟨t, []⟩ := ⟨hroot, List.pairwise_singleton _ _⟩
  have hleads : History.Leads ⟨t, []⟩ recorded.2 := leads_runAll hsound hgentle
  refine ⟨agree_runAll History.latest w calls ⟨t, []⟩, hleads.suffix, ?_⟩
  exact (hleads.sound hsound).preserving

/-- The code of a project is generated twice, and then its schema and its options are to be set
up: the second and the third call fail. -/
theorem runAll_preserving_project :
    let w : Wording := ⟨DiskError.message, fun _ ↦ ""⟩
    let folder : List String := workingFolder ++ ["schema"]
    let t : FileTree := [(workingFolder.dropLast, .folder), (workingFolder, .folder),
      (folder, .folder), (folder ++ ["schema.tws"], .file "a:\n id: t".toUTF8)]
    let calls : List Call := [⟨["schema", "generate"], .ok ""⟩,
      ⟨["--dir", "./", "schema", "generate"], .ok ""⟩, ⟨["schema", "init"], .ok ""⟩,
      ⟨["init"], .ok ""⟩]
    let recorded := (runAll w calls : StateM History (List Outcome)) ⟨t, []⟩
    t.Rooted ∧ AllGentle w t calls ∧ recorded.1.map (·.code) = [0, 1, 1, 0] ∧
      recorded.2.trees.length = 8 ∧
      recorded.2.trees.Pairwise fun later earlier ↦ earlier.Keeps later := by
  intro w folder t calls recorded
  have hroot : t.Rooted := by
    apply rooted_of_mem
    simp only [t, List.forall_mem_cons]
    exact ⟨rfl, rfl, rfl, rfl, fun _ h ↦ nomatch h⟩
  have hgentle : AllGentle w t calls := by decide +kernel
  have hrun : recorded.1.map (·.code) = [0, 1, 1, 0] ∧ recorded.2.trees.length = 8 := by
    decide +kernel
  exact ⟨hroot, hgentle, hrun.1, hrun.2, (runAll_preserving w t calls hroot hgentle).2.2⟩

end Reshape
