import Reshape.Proofs.Record.Assign

namespace Reshape

namespace Value

mutual

def everywhere (test : Value → Bool) : Value → Bool
  | .record fields => test (.record fields) && everywhereBelow test fields
  | v => test v

def everywhereBelow (test : Value → Bool) : List (String × Value) → Bool
  | [] => true
  | (_, v) :: rest => everywhere test v && everywhereBelow test rest

end

variable {test : Value → Bool}

theorem everywhereBelow_iff {fields : List (String × Value)} :
    everywhereBelow test fields ↔ ∀ e ∈ fields, e.2.everywhere test := by
  induction fields with
  | nil => simp [everywhereBelow]
  | cons e rest ih => simp [everywhereBelow, ih]

theorem everywhere_record {fields : List (String × Value)} :
    (Value.record fields).everywhere test ↔
      test (.record fields) ∧ ∀ e ∈ fields, e.2.everywhere test := by
  rw [everywhere, Bool.and_eq_true, everywhereBelow_iff]

theorem test_of_everywhere {v : Value} (h : v.everywhere test) : test v := by
  cases v with
  | record fields => exact (everywhere_record.1 h).1
  | _ => exact h

theorem everywhere_of_at? {v w : Value} {path : List String} (hv : v.everywhere test)
    (h : v.at? path = some w) : w.everywhere test := by
  induction path generalizing v with
  | nil => exact Option.some.inj h ▸ hv
  | cons key rest ih =>
    cases v with
    | record fields =>
      rw [at?_record, Record.at?_cons] at h
      obtain ⟨x, hx, hw⟩ := Option.bind_eq_some_iff.1 h
      exact ih ((everywhere_record.1 hv).2 _ (Keyed.mem_of_get? hx)) hw
    | _ => cases h

structure Kept (test : Value → Bool) : Prop where
  empty : test (.record [])
  insert : ∀ (r : Record) (key : String) (v : Value),
    test (.record r) → test (.record (r.insert key v))

def keysOnce : Value → Bool
  | .record fields => decide (Keyed.Distinct fields)
  | _ => true

def isNumeric : Value → Bool
  | .decimal d => !d.isNaN
  | _ => true

theorem keysOnce_of_isLeaf {v : Value} (h : v.isLeaf) : v.everywhere keysOnce := by
  cases v with
  | record fields =>
    obtain rfl : fields = [] := by simpa [isLeaf] using h
    rfl
  | _ => rfl

theorem kept_keysOnce : Kept keysOnce := by
  refine ⟨rfl, fun r key v h ↦ ?_⟩
  have hd : Keyed.Distinct r := of_decide_eq_true h
  exact decide_eq_true (hd.insert key v)

theorem kept_isNumeric : Kept isNumeric := ⟨rfl, fun _ _ _ _ ↦ rfl⟩

namespace Kept

variable {r : Record} {v : Value}

theorem everywhere_empty (h : Kept test) : (record []).everywhere test :=
  everywhere_record.2 ⟨h.empty, by simp⟩

theorem everywhere_insert (h : Kept test) (hr : (record r).everywhere test)
    (hv : v.everywhere test) (key : String) : (record (r.insert key v)).everywhere test := by
  obtain ⟨htest, hall⟩ := everywhere_record.1 hr
  refine everywhere_record.2 ⟨h.insert r key v htest, fun e he ↦ ?_⟩
  rcases Keyed.mem_insert he with rfl | he
  · exact hv
  · exact hall e he

theorem everywhere_nested (h : Kept test) (hr : (record r).everywhere test) (key : String) :
    (record (Record.nested (r.get? key))).everywhere test := by
  cases hget : r.get? key with
  | none => exact h.everywhere_empty
  | some v =>
    have hv : v.everywhere test := (everywhere_record.1 hr).2 _ (Keyed.mem_of_get? hget)
    cases v with
    | record fields => exact hv
    | _ => exact h.everywhere_empty

theorem everywhere_assign (h : Kept test) (hr : (record r).everywhere test)
    (hv : v.everywhere test) (key : String) (rest : List String) :
    (record (r.assign key v rest)).everywhere test := by
  induction rest generalizing r key with
  | nil => exact h.everywhere_insert hr hv key
  | cons next rest ih => exact h.everywhere_insert hr (ih (h.everywhere_nested hr key) next) key

theorem everywhere_assignAll {puts : List (DottedPath × Value)} (h : Kept test)
    (hr : (record r).everywhere test) (hv : ∀ e ∈ puts, e.2.everywhere test) :
    (record (r.assignAll puts)).everywhere test := by
  induction puts generalizing r with
  | nil => exact hr
  | cons e rest ih =>
    exact ih (h.everywhere_assign hr (hv e List.mem_cons_self) e.1.head e.1.rest)
      fun e' he' ↦ hv e' (List.mem_cons_of_mem _ he')

end Kept

end Value

namespace Record

/-- Every key stands once in its record, at any depth. No record comes about otherwise. -/
def KeysOnce (r : Record) : Prop := (Value.record r).everywhere Value.keysOnce

def NaNFree (r : Record) : Prop := (Value.record r).everywhere Value.isNumeric

instance (r : Record) : Decidable r.KeysOnce :=
  inferInstanceAs (Decidable ((Value.record r).everywhere Value.keysOnce = true))

instance (r : Record) : Decidable r.NaNFree :=
  inferInstanceAs (Decidable ((Value.record r).everywhere Value.isNumeric = true))

theorem keysOnce_iff {r : Record} :
    r.KeysOnce ↔ Keyed.Distinct r ∧ ∀ e ∈ r, e.2.everywhere Value.keysOnce := by
  rw [KeysOnce, Value.everywhere_record, Value.keysOnce, decide_eq_true_iff]

end Record

end Reshape
