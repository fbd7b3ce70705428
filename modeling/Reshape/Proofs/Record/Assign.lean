import Reshape.Proofs.DottedPath
import Reshape.Proofs.Record.Lookup
import Reshape.Record.Draft

namespace Reshape.Record

variable (r : Record) (key : String) (v : Value) (rest : List String)

theorem get?_assign_self :
    (r.assign key v rest).get? key = some (match rest with
      | [] => v
      | next :: rest => .record (assign (nested (r.get? key)) next v rest)) := by
  cases rest <;> simp [assign]

theorem get?_assign_of_ne {other : String} (h : other ≠ key) :
    (r.assign key v rest).get? other = r.get? other := by
  cases rest <;> exact Keyed.get?_insert_of_ne h _ _

/-- At an assigned path and below it stands the value. -/
theorem at?_assign_append (q : List String) :
    (r.assign key v rest).at? (key :: rest ++ q) = v.at? q := by
  induction rest generalizing r key with
  | nil => simp [at?_cons, get?_assign_self]
  | cons next rest ih =>
    rw [List.cons_append, at?_cons, get?_assign_self]
    simpa using ih (nested (r.get? key)) next

theorem at?_nested (o : Option Value) {q : List String} (hq : q ≠ []) :
    (nested o).at? q = o.bind (·.at? q) := by
  cases o with
  | none => exact at?_empty hq
  | some v =>
    cases v with
    | record fields => simp [nested]
    | _ => exact (at?_empty hq).trans (Value.at?_of_isLeaf rfl hq).symm

/-- Above an assigned path stand records with fields. -/
theorem at?_assign_above {q : List String} (h : Below (key :: rest) q) :
    ∃ e fields, (r.assign key v rest).at? q = some (.record (e :: fields)) := by
  induction q generalizing r key rest with
  | nil =>
    have hcons : ∃ e fields, r.assign key v rest = e :: fields := by
      cases rest <;> exact Keyed.exists_insert_eq_cons _ _ _
    obtain ⟨e, fields, he⟩ := hcons
    exact ⟨e, fields, by rw [at?_nil, he]⟩
  | cons k q ih =>
    obtain rfl : k = key := (List.cons_prefix_cons.1 h.1).1
    have hq := below_cons.1 h
    cases rest with
    | nil => exact absurd (List.prefix_nil.1 hq.1) hq.2
    | cons next rest =>
      obtain ⟨e, fields, he⟩ := ih (nested (r.get? k)) next rest hq
      exact ⟨e, fields, by simpa [at?_cons, get?_assign_self] using he⟩

/-- Away from an assigned path nothing changes. -/
theorem at?_assign_of_apart {q : List String} (h : Apart (key :: rest) q) :
    (r.assign key v rest).at? q = r.at? q := by
  induction rest generalizing r key q with
  | nil =>
    cases q with
    | nil => exact absurd (List.nil_prefix) h.2
    | cons k q =>
      have hk : k ≠ key := by
        rintro rfl
        exact h.1 (by simp)
      rw [at?_cons, at?_cons, get?_assign_of_ne _ _ _ _ hk]
  | cons next rest ih =>
    cases q with
    | nil => exact absurd (List.nil_prefix) h.2
    | cons k q =>
      by_cases hk : k = key
      · subst hk
        have hq := apart_cons.1 h
        have hne : q ≠ [] := by
          rintro rfl
          exact hq.2 List.nil_prefix
        rw [at?_cons, at?_cons, get?_assign_self]
        calc (Value.record (assign (nested (r.get? k)) next v rest)).at? q
            = (assign (nested (r.get? k)) next v rest).at? q := Value.at?_record _ _
          _ = (nested (r.get? k)).at? q := ih _ _ hq
          _ = (r.get? k).bind (·.at? q) := at?_nested _ hne
      · rw [at?_cons, at?_cons, get?_assign_of_ne _ _ _ _ hk]

theorem leafAt_assign {q : List String} (h : (r.assign key v rest).LeafAt q) :
    key :: rest <+: q ∨ r.LeafAt q := by
  obtain ⟨hne, w, hw, hleaf⟩ := h
  by_cases hpq : key :: rest <+: q
  · exact .inl hpq
  · refine .inr ⟨hne, w, ?_, hleaf⟩
    have hqp : ¬ q <+: key :: rest := by
      intro hqp
      have hbelow : Below (key :: rest) q := ⟨hqp, fun he ↦ hpq (he ▸ List.prefix_rfl)⟩
      obtain ⟨e, fields, he⟩ := at?_assign_above r key v rest hbelow
      obtain rfl : w = .record (e :: fields) := Option.some.inj (hw.symm.trans he)
      simp [Value.isLeaf] at hleaf
    rw [← at?_assign_of_apart r key v rest ⟨hpq, hqp⟩, hw]

def assignAll (r : Record) (puts : List (DottedPath × Value)) : Record :=
  puts.foldl (fun r e ↦ r.assign e.1.head e.2 e.1.rest) r

theorem assignAll_append (puts more : List (DottedPath × Value)) :
    r.assignAll (puts ++ more) = (r.assignAll puts).assignAll more := List.foldl_append

theorem at?_assignAll_of_apart {puts : List (DottedPath × Value)} {q : List String}
    (h : ∀ e ∈ puts, Apart e.1.segments q) : (r.assignAll puts).at? q = r.at? q := by
  induction puts generalizing r with
  | nil => rfl
  | cons e rest ih =>
    calc (r.assignAll (e :: rest)).at? q
        = (r.assign e.1.head e.2 e.1.rest).at? q :=
          ih _ fun e' he' ↦ h e' (List.mem_cons_of_mem _ he')
      _ = r.at? q := at?_assign_of_apart r _ _ _ (h e List.mem_cons_self)

/-- The last assignment to a path stays in force when those after it lie apart from it. -/
theorem at?_assignAll (before after : List (DottedPath × Value)) (p : DottedPath)
    (h : ∀ e ∈ after, Apart e.1.segments p.segments) :
    (r.assignAll (before ++ (p, v) :: after)).at? p.segments = some v := by
  rw [assignAll_append]
  calc ((r.assignAll before).assignAll ((p, v) :: after)).at? p.segments
      = ((r.assignAll before).assign p.head v p.rest).at? p.segments :=
        at?_assignAll_of_apart _ h
    _ = some v := by
        simpa [DottedPath.segments] using at?_assign_append (r.assignAll before) p.head v p.rest []

theorem leafAt_assignAll {puts : List (DottedPath × Value)} {q : List String}
    (h : (r.assignAll puts).LeafAt q) : r.LeafAt q ∨ ∃ e ∈ puts, e.1.segments <+: q := by
  induction puts generalizing r with
  | nil => exact .inl h
  | cons e rest ih =>
    rcases ih _ h with h | ⟨e', he', hq⟩
    · rcases leafAt_assign r _ _ _ h with hq | h
      · exact .inr ⟨e, List.mem_cons_self, hq⟩
      · exact .inl h
    · exact .inr ⟨e', List.mem_cons_of_mem _ he', hq⟩

end Reshape.Record
