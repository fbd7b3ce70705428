import Reshape.Conversion.Converter
import Reshape.Proofs.Record.Draft
import Reshape.Proofs.Record.Everywhere

namespace Reshape.PathMap

open DottedPath

def writes (source : Record) (pairs : List (String × String)) : List (DottedPath × Value) :=
  pairs.map fun (output, input) ↦ (ofText output, valueOf source input)

variable (source : Record)

theorem fill_eq_foldl (d : Draft) (pairs : List (String × String)) :
    fill source d pairs = (writes source pairs).foldl (fun d e ↦ d.put e.1 e.2) d := by
  induction pairs generalizing d with
  | nil => rfl
  | cons e rest ih => exact ih _

theorem convert_eq_assignAll (m : PathMap) :
    m.convert source = Record.assignAll [] (writes source m) := by
  rw [convert, fill_eq_foldl]
  exact Draft.finish_putAll [] _

/-- The value of a pair stays in force when the outputs of the pairs after it lie apart from its
own. -/
theorem at?_convert (before after : List (String × String)) (output input : String)
    (h : ∀ e ∈ after, Apart (segmentsOf e.1) (segmentsOf output)) :
    (convert (before ++ (output, input) :: after) source).at? (segmentsOf output) =
      some (valueOf source input) := by
  rw [convert_eq_assignAll]
  simp only [writes, List.map_append, List.map_cons]
  apply Record.at?_assignAll
  intro e he
  obtain ⟨e', he', rfl⟩ := List.mem_map.1 he
  exact h e' he'

theorem at?_convert_of_mem {m : PathMap} (hm : m.Distinct) (hsep : Separate m.outputs)
    {output input : String} (h : (output, input) ∈ m) :
    (m.convert source).at? (segmentsOf output) = some (valueOf source input) := by
  obtain ⟨before, after, rfl⟩ := List.append_of_mem h
  refine at?_convert source before after output input fun e he ↦ ?_
  exact hsep e.1 (List.mem_map_of_mem (by simp [he])) output (List.mem_map_of_mem h)
    (hm.ne_of_mem_after he)

theorem exists_output_of_leafAt {m : PathMap} {q : List String}
    (h : (m.convert source).LeafAt q) : ∃ output ∈ m.outputs, segmentsOf output <+: q := by
  rw [convert_eq_assignAll] at h
  rcases Record.leafAt_assignAll _ h with h | ⟨e, he, hq⟩
  · exact absurd h (Record.not_leafAt_nil q)
  · obtain ⟨pair, hpair, rfl⟩ := List.mem_map.1 he
    exact ⟨pair.1, List.mem_map_of_mem hpair, hq⟩

theorem convert_congr {m : PathMap} {source source' : Record}
    (h : ∀ input ∈ m.inputs, valueOf source input = valueOf source' input) :
    m.convert source = m.convert source' := by
  have hwrites : writes source m = writes source' m := by
    refine List.map_congr_left fun e he ↦ ?_
    exact congrArg (ofText e.1, ·) (h e.2 (List.mem_map_of_mem he))
  rw [convert_eq_assignAll, convert_eq_assignAll, hwrites]

theorem everywhere_convert {test : Value → Bool} (h : Value.Kept test)
    (htext : test (.string absentText)) (hs : (Value.record source).everywhere test)
    (m : PathMap) : (Value.record (m.convert source)).everywhere test := by
  rw [convert_eq_assignAll]
  refine h.everywhere_assignAll h.everywhere_empty fun e he ↦ ?_
  obtain ⟨pair, -, rfl⟩ := List.mem_map.1 he
  dsimp only [valueOf]
  cases hv : source.at? (ofText pair.2).segments with
  | none => exact htext
  | some v => exact Value.everywhere_of_at? hs (by simpa using hv)

theorem keysOnce_convert {source : Record} (h : source.KeysOnce) (m : PathMap) :
    (m.convert source).KeysOnce := everywhere_convert source Value.kept_keysOnce rfl h m

theorem nanFree_convert {source : Record} (h : source.NaNFree) (m : PathMap) :
    (m.convert source).NaNFree := everywhere_convert source Value.kept_isNumeric rfl h m

/-- A conversion puts at every output what its input leads to, or the empty text, unless a later
output lies above or below it; and every leaf of the result is at or below an output. -/
theorem convert_at_outputs (m : PathMap) (hm : m.Distinct) :
    (∀ before output input after, m = before ++ (output, input) :: after →
      (∀ e ∈ after, ¬ Below (segmentsOf e.1) (segmentsOf output) ∧
        ¬ Below (segmentsOf output) (segmentsOf e.1)) →
      (m.convert source).at? (segmentsOf output) =
        some ((source.at? (segmentsOf input)).getD (.string ""))) ∧
    ∀ q, (m.convert source).LeafAt q → ∃ output ∈ m.outputs, segmentsOf output <+: q := by
  refine ⟨?_, fun q ↦ exists_output_of_leafAt source⟩
  rintro before output input after rfl hafter
  refine at?_convert source before after output input fun e he ↦ ?_
  have hne : e.1 ≠ output := hm.ne_of_mem_after he
  exact apart_of_not_below (fun h ↦ hne (segmentsOf_injective h)) (hafter e he).1 (hafter e he).2

/-- A later pair reopens the record that an earlier one has put at `a`. -/
theorem convert_at_outputs_reopened :
    let m : PathMap := [("b", "x.y"), ("a", "x"), ("a.c", "z"), ("d", "w")]
    let source : Record := [("x", .record [("y", .null)]), ("z", .boolean true)]
    m.Distinct ∧ (m.convert source).at? (segmentsOf "a.c") = some (.boolean true) := by
  intro m source
  have hm : m.Distinct := by decide
  refine ⟨hm, (convert_at_outputs source m hm).1 [("b", "x.y"), ("a", "x")] "a.c" "z"
    [("d", "w")] rfl ?_⟩
  intro e he
  obtain rfl := List.mem_singleton.1 he
  decide

end Reshape.PathMap
