import Reshape.Proofs.CommandLine.Reading
import Reshape.Proofs.Generation.Frame

namespace Reshape

open FileTree

namespace Project

variable {p : Project} {d : Schema} {e : GenerationError} {t t' : FileTree}

/-- What a failed generation may have done. Only one that fails for a file operation has written
anything, and one that fails for a collision has not even cleared the folder. -/
structure Failed (p : Project) (d : Schema) (e : GenerationError) (t t' : FileTree) : Prop where
  frame : Frame (p.Cleared t) (p.Planned d) t t'
  of_not_disk : (∀ e', e ≠ .disk e') → ∀ q n, t'.node? q = some n → t.node? q = some n
  of_collision : ∀ collision, e = .collision collision → t' = t
  of_not_cleared : (∀ e', e ≠ .disk e') → (∀ q, ¬ p.Cleared t q) → t' = t

theorem tree_clear (h : ∀ q, ¬ p.Cleared t q) : (t.run p.clear).2 = t := by
  rw [run_clear]
  split
  · rename_i hclear
    dsimp only
    refine removeFolder_eq_self fun hfolder ↦ ?_
    exact h p.outputFolder.place ⟨hclear.1, hfolder, List.prefix_rfl⟩
  · rfl

theorem failed_of_generate (h : t.run (p.generate d) = (.error e, t')) : p.Failed d e t t' := by
  have hframe : Frame (p.Cleared t) (p.Planned d) t (t.run (p.generate d)).2 := frame_generate
  have herror := error_generate (p := p) (d := d) (t := t) (congrArg Prod.fst h)
  rw [h] at hframe herror
  rcases herror with ⟨e', rfl⟩ | ⟨⟨collision, rfl⟩, rfl⟩ | ⟨⟨conflicts, rfl⟩, htree⟩
  · exact ⟨hframe, fun hother ↦ absurd rfl (hother e'), fun _ he ↦ (nomatch he),
      fun hother _ ↦ absurd rfl (hother e')⟩
  · exact ⟨hframe, fun _ _ _ ↦ id, fun _ _ ↦ rfl, fun _ _ ↦ rfl⟩
  · dsimp only at htree
    refine ⟨hframe, fun _ q n hq ↦ ?_, fun _ he ↦ (nomatch he), fun _ hcleared ↦ ?_⟩
    · rw [htree] at hq
      exact node?_of_clear hq
    · rw [htree, tree_clear hcleared]

theorem failed_of_generateOwn {repeats : Repeats}
    (h : t.run (p.generateOwn repeats) = (.error e, t')) :
    (∃ e', e = .schema e') ∧ t' = t ∨
      ∃ d, (t.run (Schema.ofProject repeats p.root)).1 = .ok d ∧ p.Failed d e t t' := by
  have htree : (t.run (Schema.ofProject repeats p.root)).2 = t :=
    Schema.still_ofProject repeats p.root t
  rw [generateOwn, run_bind, run_adapt, htree] at h
  cases hread : (t.run (Schema.ofProject repeats p.root)).1 with
  | error e' =>
    rw [hread] at h
    obtain ⟨he, rfl⟩ := Prod.mk.inj h
    exact .inl ⟨⟨e', (Except.error.inj he).symm⟩, rfl⟩
  | ok d =>
    rw [hread] at h
    exact .inr ⟨d, rfl, failed_of_generate h⟩

theorem failed_of_command {i : Invocation} {e : CommandError}
    (h : t.run i.generate = (.error e, t')) :
    ((∀ d, (t.run i.schema).1 ≠ .ok d) ∨ ∀ o, (t.run i.options).1 ≠ .ok o) ∧ t' = t ∨
      ∃ d o e', (t.run i.schema).1 = .ok d ∧ (t.run i.options).1 = .ok o ∧ e = .generation e' ∧
        Project.Failed ⟨i.root, o⟩ d e' t t' := by
  have hschema : (t.run i.schema).2 = t := i.still_schema t
  have hoptions : (t.run i.options).2 = t := i.still_options t
  rw [Invocation.generate, run_bind] at h
  rcases hd : t.run i.schema with ⟨e' | d, schemaTree⟩
  · rw [hd] at h hschema
    obtain rfl : schemaTree = t := hschema
    exact .inl ⟨.inl fun _ hok ↦ (nomatch hok), (congrArg Prod.snd h).symm⟩
  · rw [hd] at h hschema
    obtain rfl : schemaTree = t := hschema
    dsimp only at h
    rw [run_bind, run_adapt, hoptions] at h
    cases ho : (schemaTree.run i.options).1 with
    | error e' =>
      rw [ho] at h
      exact .inl ⟨.inr fun _ hok ↦ (nomatch hok), (congrArg Prod.snd h).symm⟩
    | ok o =>
      rw [ho] at h
      dsimp only [Except.mapError] at h
      rw [run_bind, run_adapt] at h
      rcases hrun : schemaTree.run (generate ⟨i.root, o⟩ d) with ⟨e' | written, t''⟩
      · rw [hrun] at h
        obtain ⟨he, rfl⟩ := Prod.mk.inj h
        exact .inr ⟨d, o, e', rfl, rfl, (Except.error.inj he).symm, failed_of_generate hrun⟩
      · rw [hrun] at h
        cases h

/-- However a generation fails, what it leaves is confined: nothing has happened where there was
no schema or no options to begin with, and otherwise only what is told of a failed one. -/
theorem failed_of_error (t t' : FileTree) :
    (∀ (p : Project) d e, t.run (p.generate d) = (.error e, t') → p.Failed d e t t') ∧
    (∀ (p : Project) repeats e, t.run (p.generateOwn repeats) = (.error e, t') →
      (∃ e', e = .schema e') ∧ t' = t ∨
        ∃ d, (t.run (Schema.ofProject repeats p.root)).1 = .ok d ∧ p.Failed d e t t') ∧
    ∀ (i : Invocation) e, t.run i.generate = (.error e, t') →
      ((∀ d, (t.run i.schema).1 ≠ .ok d) ∨ ∀ o, (t.run i.options).1 ≠ .ok o) ∧ t' = t ∨
        ∃ d o e', (t.run i.schema).1 = .ok d ∧ (t.run i.options).1 = .ok o ∧ e = .generation e' ∧
          Project.Failed ⟨i.root, o⟩ d e' t t' :=
  ⟨fun _ _ _ ↦ failed_of_generate, fun _ _ _ ↦ failed_of_generateOwn, fun _ _ ↦ failed_of_command⟩

/-- A file stands where the folder of the group should be. -/
theorem failed_of_error_obstructed :
    let t : FileTree := (fresh.insert (workingFolder ++ ["app"]) .folder).insert
      (workingFolder ++ ["app", "user"]) (.file "kept\n".toUTF8)
    let p : Project := ⟨⟨"."⟩, {}⟩
    let d : Schema := ⟨[⟨"user", [⟨"id", "number", "id"⟩]⟩]⟩
    ∃ e t', t.run (p.generate d) = (.error e, t') ∧ p.Failed d e t t' := by
  intro t p d
  have herror : (t.run (p.generate d)).1.isOk = false := by decide +kernel
  rcases hrun : t.run (p.generate d) with ⟨e | written, t'⟩
  · exact ⟨e, t', rfl, (failed_of_error t t').1 p d e hrun⟩
  · simp [hrun, Except.isOk, Except.toBool] at herror

/-- A failed generation is not undone: here the second group fails, and the files of the first one
stay. -/
theorem generate_leaves_files :
    let t : FileTree := (fresh.insert (workingFolder ++ ["app"]) .folder).insert
      (workingFolder ++ ["app", "b"]) (.file "kept\n".toUTF8)
    let p : Project := ⟨⟨"."⟩, {}⟩
    let d : Schema := ⟨[⟨"a", [⟨"id", "number", "id"⟩]⟩, ⟨"b", [⟨"id", "number", "id"⟩]⟩]⟩
    (t.run (p.generate d)).1.isOk = false ∧ (t.run (p.generate d)).2 ≠ t := by
  intro t p d
  let place := workingFolder ++ ["app", "a", "a.model.ts"]
  have hnone : t.node? place = none := by decide +kernel
  have hrun : (t.run (p.generate d)).1.isOk = false ∧
      ((t.run (p.generate d)).2.node? place).isSome := by decide +kernel
  refine ⟨hrun.1, fun heq ↦ ?_⟩
  rw [heq, hnone] at hrun
  exact absurd hrun.2 (by decide)

end Project

end Reshape
