import Reshape.Proofs.Keyed
import Reshape.Record.At

namespace Reshape

namespace Value

/-- What holds of every value without fields, and of a record whenever it holds of the values of
its fields, holds of every value. -/
@[elab_as_elim]
theorem fieldwise {motive : Value → Prop} (scalar : ∀ v, v.record? = none → motive v)
    (record : ∀ fields, (∀ e ∈ fields, motive e.2) → motive (.record fields)) (v : Value) :
    motive v :=
  @Value.rec motive (fun fields ↦ ∀ e ∈ fields, motive e.2) (fun e ↦ motive e.2)
    (scalar _ rfl) (fun _ ↦ scalar _ rfl)
    (fun _ ↦ scalar _ rfl) (fun _ ↦ scalar _ rfl) (fun _ ↦ scalar _ rfl) (fun _ ↦ scalar _ rfl)
    record (fun _ h ↦ nomatch h)
    (fun _ _ hhead htail _ h ↦ (List.mem_cons.1 h).elim (fun he ↦ he ▸ hhead) (htail _))
    (fun _ _ h ↦ h) v

def at? (v : Value) : List String → Option Value
  | [] => some v
  | key :: rest => v.record?.bind (Record.at? · (key :: rest))

/-- Whether no path goes on below the value: it is anything but a record with fields. -/
def isLeaf : Value → Bool
  | .record fields => fields.isEmpty
  | _ => true

@[simp] theorem at?_nil (v : Value) : v.at? [] = some v := rfl

end Value

namespace Record

@[simp] theorem at?_nil (r : Record) : r.at? [] = some (.record r) := rfl

theorem at?_cons (r : Record) (key : String) (rest : List String) :
    r.at? (key :: rest) = (r.get? key).bind (·.at? rest) := by
  cases rest with
  | nil => cases h : r.get? key <;> simp [at?, h]
  | cons next rest =>
    cases h : r.get? key with
    | none => simp [at?, h]
    | some v => cases v <;> simp [at?, h, Value.at?, Value.record?]

theorem at?_empty {path : List String} (h : path ≠ []) : at? [] path = none := by
  obtain ⟨key, rest, rfl⟩ := List.exists_cons_of_ne_nil h
  rw [at?_cons]
  rfl

end Record

namespace Value

@[simp] theorem at?_record (r : Record) (path : List String) :
    (Value.record r).at? path = r.at? path := by cases path <;> rfl

theorem at?_append (v : Value) (p q : List String) :
    v.at? (p ++ q) = (v.at? p).bind (·.at? q) := by
  induction p generalizing v with
  | nil => rfl
  | cons key rest ih =>
    cases hv : v.record? with
    | none => simp [at?, hv]
    | some r =>
      have hr : v = .record r := by cases v <;> simp_all [record?]
      subst hr
      rw [at?_record, at?_record, List.cons_append, Record.at?_cons, Record.at?_cons]
      cases r.get? key with
      | none => rfl
      | some w => exact ih w

end Value

namespace Record

theorem at?_append (r : Record) (p q : List String) :
    r.at? (p ++ q) = (r.at? p).bind (·.at? q) := by
  simpa using Value.at?_append (.record r) p q

def LeafAt (r : Record) (path : List String) : Prop :=
  path ≠ [] ∧ ∃ v, r.at? path = some v ∧ v.isLeaf

theorem not_leafAt_nil (path : List String) : ¬ LeafAt [] path := by
  rintro ⟨hne, v, hv, -⟩
  simp [at?_empty hne] at hv

end Record

namespace Value

theorem at?_of_isLeaf {v : Value} {path : List String} (hv : v.isLeaf) (hp : path ≠ []) :
    v.at? path = none := by
  cases v with
  | record fields =>
    obtain rfl : fields = [] := by simpa [isLeaf] using hv
    rw [at?_record, Record.at?_empty hp]
  | _ =>
    obtain ⟨key, rest, rfl⟩ := List.exists_cons_of_ne_nil hp
    rfl

theorem exists_leaf (v : Value) : ∃ path w, v.at? path = some w ∧ w.isLeaf := by
  induction v using Value.fieldwise with
  | scalar v h => exact ⟨[], v, rfl, by cases v <;> simp_all [isLeaf, record?]⟩
  | record fields ih =>
    cases fields with
    | nil => exact ⟨[], .record [], rfl, rfl⟩
    | cons e rest =>
      obtain ⟨key, v⟩ := e
      obtain ⟨path, w, hw, hleaf⟩ := ih (key, v) List.mem_cons_self
      exact ⟨key :: path, w, by simpa [Record.at?_cons] using hw, hleaf⟩

end Value

end Reshape
