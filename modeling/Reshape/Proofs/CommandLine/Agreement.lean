import Reshape.CommandLine.Program
import Reshape.Proofs.Disk.Map

namespace Reshape

variable {σ τ : Type} [DiskStore (StateM σ)] [DiskStore (StateM τ)] (f : DiskMap σ τ)

theorem Schema.relates_ofProject (repeats : Repeats) (root : DiskPath) :
    f.Relates (ofProject repeats root) (ofProject repeats root) := by
  refine .bind (.isTaken _) fun taken ↦ ?_
  cases taken with
  | false => exact .throw_bind _ _ _
  | true =>
    refine .bind (.orFail (f.readText _) _) fun text ↦ ?_
    cases parse repeats text with
    | ok d => exact .pure d
    | error e => exact .throw _

theorem Schema.relates_create (root : DiskPath) : f.Relates (create root) (create root) := by
  refine .bind (.isTaken _) fun taken ↦ ?_
  cases taken with
  | true => exact .throw_bind _ _ _
  | false =>
    refine .bind (.orFail (f.makeFolders _) _) fun _ ↦ ?_
    exact .bind (.orFail (f.writeText _ _) _) fun _ ↦ .pure _

theorem Options.relates_readFrom (path : DiskPath) :
    f.Relates (readFrom path) (readFrom path) := by
  unfold readFrom
  refine .bind (.orFail (f.readText _) _) fun text ↦ ?_
  cases ofText text with
  | ok o => exact .pure o
  | error e => exact .throw _

theorem Options.relates_ofProject (root : DiskPath) :
    f.Relates (ofProject root) (ofProject root) := by
  unfold ofProject
  refine .bind (.isTaken _) fun taken ↦ ?_
  cases taken with
  | false => exact .pure _
  | true => exact relates_readFrom f _

theorem Options.relates_create (root : DiskPath) : f.Relates (create root) (create root) := by
  refine .bind (.isTaken _) fun taken ↦ ?_
  cases taken with
  | true => exact .throw_bind _ _ _
  | false => exact .bind (.orFail (f.writeText _ _) _) fun _ ↦ .pure _

namespace Project

variable (p : Project)

theorem agree_conflictsAmong (outputs : List (String × DiskPath)) :
    Agree f.toFun (conflictsAmong outputs) (conflictsAmong outputs) := by
  induction outputs with
  | nil => exact fun _ ↦ rfl
  | cons o rest ih =>
    refine .bind (f.occupied o.2) fun taken ↦ .bind ih fun conflicts ↦ fun _ ↦ rfl

theorem relates_clear : f.Relates p.clear p.clear := by
  unfold clear
  split
  · refine .bind (.isTaken _) fun taken ↦ ?_
    cases taken with
    | false => exact .pure _
    | true => exact .bind (.orFail (f.removeFolder _) _) fun _ ↦ .pure _
  · exact .pure _

theorem relates_save (file : OutputFile) : f.Relates (save file) (save file) :=
  .bind (.orFail (f.makeFolders _) _) fun _ ↦ .orFail (f.writeText _ _) _

theorem relates_saveAll (files : List OutputFile) : f.Relates (saveAll files) (saveAll files) := by
  induction files with
  | nil => exact .pure _
  | cons file rest ih => exact .bind (relates_save f file) fun _ ↦ ih

theorem relates_saveGroups (all : List GroupFiles) :
    f.Relates (saveGroups all) (saveGroups all) := by
  induction all with
  | nil => exact .pure _
  | cons g rest ih => exact .bind (relates_saveAll f g.files) fun _ ↦ .bind ih fun _ ↦ .pure _

theorem relates_generate (d : Schema) : f.Relates (p.generate d) (p.generate d) := by
  unfold generate
  cases p.plan d with
  | error collision => exact .throw _
  | ok all =>
    refine .bind (relates_clear f p) fun _ ↦ ?_
    split
    · refine .bind (.lift (agree_conflictsAmong f _)) fun conflicts ↦ ?_
      split
      · exact .throw_bind _ _ _
      · exact relates_saveGroups f all
    · exact relates_saveGroups f all

end Project

namespace Invocation

variable (i : Invocation)

theorem relates_schema : f.Relates i.schema i.schema := (Schema.relates_ofProject f _ _).adapt _

theorem relates_options : f.Relates i.options i.options := by
  unfold options
  split
  · exact Options.relates_readFrom f _
  · exact Options.relates_ofProject f _

theorem relates_generate : f.Relates i.generate i.generate := by
  refine .bind (relates_schema f i) fun d ↦ .bind ((relates_options f i).adapt _) fun o ↦ ?_
  exact .bind ((Project.relates_generate f _ d).adapt _) fun _ ↦ .pure _

variable {stdin : StateM σ (Except DiskError String)} {stdin' : StateM τ (Except DiskError String)}

theorem relates_readInput (hstdin : Agree f.toFun stdin stdin') (input : DiskPath) :
    f.Relates (readInput stdin input) (readInput stdin' input) := by
  unfold readInput
  split
  · exact .orFail hstdin _
  · exact .orFail (f.readText _) _

theorem relates_convert (hstdin : Agree f.toFun stdin stdin') (input : DiskPath) (group : String)
    (shape : Shape) :
    f.Relates (i.convert stdin input group shape) (i.convert stdin' input group shape) := by
  refine .bind (relates_schema f i) fun d ↦ ?_
  cases d.group? group with
  | none => exact .throw _
  | some g =>
    refine .bind (relates_readInput f hstdin input) fun text ↦ ?_
    cases Json.ofText? text with
    | error e => exact .throw _
    | ok v =>
      dsimp only
      cases convertJson (.ofGroup g) shape v with
      | error e => exact .throw _
      | ok converted => exact .pure _

theorem relates_execute (hstdin : Agree f.toFun stdin stdin') :
    f.Relates (i.execute stdin) (i.execute stdin') := by
  unfold execute
  split
  · exact .bind ((Options.relates_create f _).adapt _) fun _ ↦ .pure _
  · exact .bind ((Schema.relates_create f _).adapt _) fun _ ↦ .pure _
  · exact relates_generate f i
  · exact .bind (relates_schema f i) fun _ ↦ .pure _
  · exact relates_convert f i hstdin _ _ _

end Invocation

theorem agree_runProgram (w : Wording) (args : List String) (input : Except DiskError String) :
    Agree f.toFun (runProgram w args (pure input)) (runProgram w args (pure input)) := by
  unfold runProgram
  split
  · exact fun _ ↦ rfl
  · exact fun _ ↦ rfl
  · exact fun _ ↦ rfl
  · rename_i i _
    refine .bind (Invocation.relates_execute f i fun _ ↦ rfl) fun result ↦ ?_
    cases result <;> exact fun _ ↦ rfl

end Reshape
