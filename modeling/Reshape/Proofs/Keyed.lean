import Mathlib.Data.List.Nodup
import Reshape.Keyed

namespace Reshape.Keyed

variable {κ : Type u} {α : Type v} {β : Type w}
variable {key : κ} {value : α} {entries : Keyed κ α}

theorem mem_keys_of_mem (h : (key, value) ∈ entries) : key ∈ keys entries :=
  List.mem_map.2 ⟨_, h, rfl⟩

theorem distinct_cons {e : κ × α} {rest : Keyed κ α} :
    Distinct (e :: rest) ↔ e.1 ∉ keys rest ∧ Distinct rest := List.nodup_cons

/-- A key stands for one entry, so it does not come again after it. -/
theorem Distinct.ne_of_mem_after {before after : Keyed κ α} {e e' : κ × α}
    (hd : Distinct (before ++ e :: after)) (h : e' ∈ after) : e'.1 ≠ e.1 := by
  have hnodup : (keys before ++ e.1 :: keys after).Nodup := by simpa [Distinct, keys] using hd
  have hnot : e.1 ∉ keys after := (List.nodup_cons.1 (List.nodup_append.1 hnodup).2.1).1
  exact fun he ↦ hnot (he ▸ mem_keys_of_mem h)

variable [DecidableEq κ]

instance (entries : Keyed κ α) : Decidable (Distinct entries) :=
  inferInstanceAs (Decidable (keys entries).Nodup)

@[simp] theorem get?_cons_self (key : κ) (value : α) (rest : Keyed κ α) :
    get? key ((key, value) :: rest) = some value := by simp [get?]

theorem mem_of_get? (h : get? key entries = some value) : (key, value) ∈ entries := by
  induction entries with
  | nil => simp [get?] at h
  | cons e rest ih =>
    by_cases hk : e.1 = key
    · simp only [get?, hk, if_true, Option.some.injEq] at h
      simp [← hk, ← h]
    · simp only [get?, hk, if_false] at h
      exact List.mem_cons_of_mem _ (ih h)

theorem get?_eq_none_iff : get? key entries = none ↔ key ∉ keys entries := by
  induction entries with
  | nil => simp [get?, keys]
  | cons e rest ih =>
    by_cases hk : e.1 = key
    · simp [get?, keys, hk]
    · simpa [get?, keys, hk, Ne.symm hk] using ih

theorem exists_get?_of_mem_keys (h : key ∈ keys entries) :
    ∃ value, get? key entries = some value :=
  Option.ne_none_iff_exists'.1 fun hn ↦ get?_eq_none_iff.1 hn h

theorem Distinct.get?_of_mem (hd : Distinct entries) (h : (key, value) ∈ entries) :
    get? key entries = some value := by
  induction entries with
  | nil => simp at h
  | cons e rest ih =>
    obtain ⟨hnot, hrest⟩ := distinct_cons.1 hd
    rcases List.mem_cons.1 h with rfl | h
    · exact get?_cons_self _ _ _
    · have hk : e.1 ≠ key := by
        rintro rfl
        exact hnot (mem_keys_of_mem h)
      simpa [get?, hk] using ih hrest h

/-- The values are those that stand at the keys. -/
theorem Distinct.eq_map_keys (hd : Distinct entries) (value : α) :
    entries = (keys entries).map fun key ↦ (key, (get? key entries).getD value) := by
  rw [keys, List.map_map]
  refine (List.map_id' entries).symm.trans (List.map_congr_left fun e he ↦ ?_)
  simp [hd.get?_of_mem he]

theorem get?_map (f : α → β) (key : κ) (entries : Keyed κ α) :
    get? key (entries.map fun e ↦ (e.1, f e.2)) = (get? key entries).map f := by
  induction entries with
  | nil => rfl
  | cons e rest ih => by_cases hk : e.1 = key <;> simp [get?, hk, ih]

theorem insert_map (f : α → β) (key : κ) (value : α) (entries : Keyed κ α) :
    (insert key value entries).map (fun e ↦ (e.1, f e.2)) =
      insert key (f value) (entries.map fun e ↦ (e.1, f e.2)) := by
  induction entries with
  | nil => rfl
  | cons e rest ih => by_cases hk : e.1 = key <;> simp [insert, hk, ih]

theorem insert_of_not_mem (h : key ∉ keys entries) (value : α) :
    insert key value entries = entries ++ [(key, value)] := by
  induction entries with
  | nil => rfl
  | cons e rest ih =>
    simp only [keys, List.map_cons, List.mem_cons, not_or] at h
    rw [insert, if_neg (Ne.symm h.1), ih h.2, List.cons_append]

theorem insert_insert (key : κ) (value value' : α) (entries : Keyed κ α) :
    insert key value' (insert key value entries) = insert key value' entries := by
  induction entries with
  | nil => simp [insert]
  | cons e rest ih => by_cases hk : e.1 = key <;> simp [insert, hk, ih]

theorem exists_insert_eq_cons (key : κ) (value : α) (entries : Keyed κ α) :
    ∃ e rest, insert key value entries = e :: rest := by
  cases entries with
  | nil => exact ⟨_, _, rfl⟩
  | cons e rest =>
    rw [insert]
    split <;> exact ⟨_, _, rfl⟩

theorem mem_insert {e : κ × α} (h : e ∈ insert key value entries) :
    e = (key, value) ∨ e ∈ entries := by
  induction entries with
  | nil => exact .inl (List.mem_singleton.1 h)
  | cons e' rest ih =>
    by_cases hk : e'.1 = key
    · simp only [insert, hk, if_true, List.mem_cons] at h
      exact h.imp_right (List.mem_cons_of_mem _)
    · simp only [insert, hk, if_false, List.mem_cons] at h
      rcases h with rfl | h
      · exact .inr List.mem_cons_self
      · exact (ih h).imp_right (List.mem_cons_of_mem _)

/-- Inserting replaces the entry of the key where it stands, or adds one at the end. -/
theorem Distinct.insert_eq (hd : Distinct entries) (key : κ) (value : α) :
    Keyed.insert key value entries =
      if key ∈ keys entries then
        entries.map fun e ↦ if e.1 = key then (key, value) else e
      else entries ++ [(key, value)] := by
  induction entries with
  | nil => simp [Keyed.insert, keys]
  | cons e rest ih =>
    obtain ⟨hnot, hrest⟩ := distinct_cons.1 hd
    by_cases hk : e.1 = key
    · have hother : ∀ e' ∈ rest, (if e'.1 = key then (key, value) else e') = e' := by
        intro e' he'
        refine if_neg fun h ↦ hnot ?_
        rw [hk, ← h]
        exact mem_keys_of_mem he'
      have hsame : (rest.map fun e' ↦ if e'.1 = key then (key, value) else e') = rest := by
        rw [List.map_congr_left hother, List.map_id']
      simp [Keyed.insert, keys, hk, hsame]
    · rw [Keyed.insert, if_neg hk, ih hrest]
      by_cases hm : key ∈ keys rest
      · simp [keys] at hm
        simp [keys, hk, hm]
      · simp [keys] at hm
        simp [keys, hm, Ne.symm hk]

theorem get?_filter_of_pos {keep : κ → Bool} (h : keep key) (entries : Keyed κ α) :
    get? key (entries.filter fun e ↦ keep e.1) = get? key entries := by
  induction entries with
  | nil => rfl
  | cons e rest ih =>
    by_cases hk : e.1 = key
    · simp [get?, hk, h]
    · by_cases hkeep : keep e.1 <;> simp [get?, hk, hkeep, ih]

theorem get?_filter_of_neg {keep : κ → Bool} (h : ¬ keep key) (entries : Keyed κ α) :
    get? key (entries.filter fun e ↦ keep e.1) = none := by
  rw [get?_eq_none_iff]
  intro hmem
  obtain ⟨e, he, rfl⟩ := List.mem_map.1 hmem
  exact h (List.mem_filter.1 he).2

theorem ofList_concat (entries : List (κ × α)) (key : κ) (value : α) :
    ofList (entries ++ [(key, value)]) = insert key value (ofList entries) := by
  simp [ofList, insertAll]

end Reshape.Keyed
