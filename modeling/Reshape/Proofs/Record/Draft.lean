import Reshape.Proofs.Record.Assign

namespace Reshape

namespace DraftPart

theorem finishAll_eq_map (parts : List (String × DraftPart)) :
    finishAll parts = parts.map fun e ↦ (e.1, finish e.2) := by
  induction parts with
  | nil => rfl
  | cons e rest ih => simp [finishAll, ih]

end DraftPart

namespace Draft

open Record

theorem get?_finish (d : Draft) (key : String) :
    d.finish.get? key = (d.get? key).map DraftPart.finish := by
  rw [finish, DraftPart.finishAll_eq_map]
  exact Keyed.get?_map _ _ _

theorem finish_insert (d : Draft) (key : String) (part : DraftPart) :
    finish (d.insert key part) = d.finish.insert key part.finish := by
  simp only [finish, DraftPart.finishAll_eq_map]
  exact Keyed.insert_map _ _ _ _

theorem finish_ofRecord (r : Record) : (ofRecord r).finish = r := by
  induction r with
  | nil => rfl
  | cons e rest ih => exact congrArg (e :: ·) ih

theorem finish_below (part : Option DraftPart) :
    (below part).finish = nested (part.map DraftPart.finish) := by
  cases part with
  | none => rfl
  | some part =>
    cases part with
    | growing parts => rfl
    | settled v =>
      cases v with
      | record fields => exact finish_ofRecord fields
      | _ => rfl

theorem finish_putAt (d : Draft) (key : String) (v : Value) (rest : List String) :
    (d.putAt key v rest).finish = d.finish.assign key v rest := by
  induction rest generalizing d key with
  | nil => exact finish_insert d key (.settled v)
  | cons next rest ih =>
    calc (d.putAt key v (next :: rest)).finish
        = d.finish.insert key (.record ((below (d.get? key)).putAt next v rest).finish) :=
          finish_insert d key _
      _ = d.finish.insert key (.record ((below (d.get? key)).finish.assign next v rest)) := by
          rw [ih]
      _ = d.finish.insert key (.record (assign (nested (d.finish.get? key)) next v rest)) := by
          rw [finish_below, get?_finish]

theorem finish_put (d : Draft) (p : DottedPath) (v : Value) :
    (d.put p v).finish = d.finish.assign p.head v p.rest := finish_putAt d p.head v p.rest

theorem finish_putAll (d : Draft) (puts : List (DottedPath × Value)) :
    finish (puts.foldl (fun d e ↦ d.put e.1 e.2) d) = d.finish.assignAll puts := by
  induction puts generalizing d with
  | nil => rfl
  | cons e rest ih =>
    rw [List.foldl_cons, ih, finish_put]
    rfl

theorem isEmpty_finish (d : Draft) : d.finish.isEmpty = d.isEmpty := by
  simp [finish, DraftPart.finishAll_eq_map]

/-- A draft stands for the record that it is finished to: putting a value is assigning it there,
a draft of a record is finished to that record, and a draft is empty as its record is. -/
theorem put_refines_assign :
    (∀ (d : Draft) (p : DottedPath) (v : Value),
      (d.put p v).finish = d.finish.assign p.head v p.rest) ∧
    (∀ r : Record, (ofRecord r).finish = r) ∧
    ∀ d : Draft, d.isEmpty ↔ d.finish.isEmpty := by
  refine ⟨finish_put, finish_ofRecord, fun d ↦ ?_⟩
  rw [isEmpty_finish]

/-- What paths lead to once a value is put into a draft: below its path to what is in the value,
above its path to records, and away from it to what was there before. -/
theorem at?_put (d : Draft) (p : DottedPath) (v : Value) :
    (d.put p v).finish.at? p.segments = some v ∧
    ∀ q, (Below q p.segments →
        (d.put p v).finish.at? q = v.record?.bind (·.at? (q.drop p.length))) ∧
      (Below p.segments q → ∃ fields, (d.put p v).finish.at? q = some (.record fields)) ∧
      (Apart p.segments q → (d.put p v).finish.at? q = d.finish.at? q) := by
  rw [finish_put]
  refine ⟨?_, fun q ↦ ⟨?_, ?_, ?_⟩⟩
  · simpa [DottedPath.segments] using at?_assign_append d.finish p.head v p.rest []
  · intro h
    obtain ⟨rest, rfl⟩ := h.1
    have hrest : rest ≠ [] := by simpa using h.2
    obtain ⟨key, rest, rfl⟩ := List.exists_cons_of_ne_nil hrest
    have hdrop : (p.segments ++ key :: rest).drop p.length = key :: rest := List.drop_left
    rw [hdrop]
    exact at?_assign_append d.finish p.head v p.rest (key :: rest)
  · intro h
    obtain ⟨e, fields, he⟩ := at?_assign_above d.finish p.head v p.rest h
    exact ⟨e :: fields, he⟩
  · intro h
    exact at?_assign_of_apart d.finish p.head v p.rest h

/-- A path that opens the record `a` and goes on through the scalar `b` in it. -/
theorem at?_put_through_scalar :
    let r : Record := [("a", .record [("b", .integer 1), ("c", .null)]), ("d", .boolean true)]
    let p : DottedPath := ⟨"a", ["b", "x"]⟩
    let v : Value := .record [("y", .string "z")]
    let r' : Record := ((Draft.ofRecord r).put p v).finish
    r'.at? ["a", "b", "x"] = some v ∧ r'.at? ["a", "b", "x", "y"] = some (.string "z") ∧
      r'.at? ["a", "b", "x", "w"] = none ∧ (∃ fields, r'.at? ["a", "b"] = some (.record fields)) ∧
      r'.at? ["a", "c"] = some .null ∧ r'.at? ["a", "b", "w"] = none := by
  intro r p v r'
  obtain ⟨hself, hat⟩ := at?_put (Draft.ofRecord r) p v
  exact ⟨hself, (hat ["a", "b", "x", "y"]).1 (by decide), (hat ["a", "b", "x", "w"]).1 (by decide),
    (hat ["a", "b"]).2.1 (by decide), (hat ["a", "c"]).2.2 (by decide),
    (hat ["a", "b", "w"]).2.2 (by decide)⟩

end Draft

end Reshape
