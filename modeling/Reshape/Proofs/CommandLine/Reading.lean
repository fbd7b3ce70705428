import Reshape.CommandLine.Program
import Reshape.Proofs.Disk.Command

namespace Reshape

variable {σ : Type} [DiskStore (StateM σ)] [StillDisk σ]

theorem Schema.still_ofProject (repeats : Repeats) (root : DiskPath) :
    Still (ofProject repeats root : ExceptT SchemaFileError (StateM σ) Schema) := by
  refine .bind (.isTaken _) fun taken ↦ ?_
  cases taken with
  | false => exact .throw_bind _ _
  | true =>
    refine .bind (.readText _ _) fun text ↦ ?_
    cases parse repeats text with
    | ok d => exact .pure d
    | error e => exact .throw _

theorem Options.still_readFrom (path : DiskPath) :
    Still (readFrom path : ExceptT GenerationError (StateM σ) Options) := by
  unfold readFrom
  refine .bind (.readText _ _) fun text ↦ ?_
  cases ofText text with
  | ok o => exact .pure o
  | error e => exact .throw _

theorem Options.still_ofProject (root : DiskPath) :
    Still (ofProject root : ExceptT GenerationError (StateM σ) Options) := by
  unfold ofProject
  refine .bind (.isTaken _) fun taken ↦ ?_
  cases taken with
  | false => exact .pure _
  | true => exact still_readFrom _

namespace Invocation

variable (i : Invocation)

theorem still_schema : Still (i.schema : ExceptT CommandError (StateM σ) Schema) :=
  (Schema.still_ofProject _ _).adapt _

theorem still_options : Still (i.options : ExceptT GenerationError (StateM σ) Options) := by
  unfold options
  split
  · exact Options.still_readFrom _
  · exact Options.still_ofProject _

theorem still_inspect (format : Format) :
    Still (i.inspect format : ExceptT CommandError (StateM σ) String) :=
  .bind i.still_schema fun _ ↦ .pure _

variable {stdin : StateM σ (Except DiskError String)}

theorem still_readInput (hstdin : ∀ s, (stdin s).2 = s) (input : DiskPath) :
    Still (readInput stdin input) := by
  unfold readInput
  split
  · exact .orFail hstdin _
  · exact .readText _ _

theorem still_convert (hstdin : ∀ s, (stdin s).2 = s) (input : DiskPath) (group : String)
    (shape : Shape) : Still (i.convert stdin input group shape) := by
  refine .bind i.still_schema fun d ↦ ?_
  cases d.group? group with
  | none => exact .throw _
  | some g =>
    refine .bind (still_readInput hstdin input) fun text ↦ ?_
    cases Json.ofText? text with
    | error f => exact .throw _
    | ok v =>
      dsimp only
      cases convertJson (.ofGroup g) shape v with
      | error e => exact .throw _
      | ok converted => exact .pure _

end Invocation

end Reshape
