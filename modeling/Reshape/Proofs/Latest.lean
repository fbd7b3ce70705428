import Mathlib.Data.List.Induction
import Mathlib.Data.List.Nodup
import Mathlib.Data.List.Perm.Subperm
import Reshape.Proofs.Keyed

namespace Reshape

variable {κ : Type u} {α : Type v} {β : Type w} [DecidableEq κ] {key : α → κ} {key' : β → κ}

/-- The item takes the place of the one with its key, or comes last. -/
def upsert (key : α → κ) (x : α) (items : List α) : List α :=
  if key x ∈ items.map key then items.map fun y ↦ if key y = key x then x else y
  else items ++ [x]

theorem map_key_upsert (x : α) (items : List α) : (upsert key x items).map key =
    if key x ∈ items.map key then items.map key else items.map key ++ [key x] := by
  unfold upsert
  split
  · rw [List.map_map]
    refine List.map_congr_left fun y _ ↦ ?_
    by_cases h : key y = key x <;> simp [h]
  · simp

theorem upsert_upsert {x y : α} (h : key y = key x) (items : List α) :
    upsert key y (upsert key x items) = upsert key y items := by
  have hmem : key y ∈ (upsert key x items).map key := by
    rw [map_key_upsert, h]
    split
    · assumption
    · simp
  rw [upsert, if_pos hmem, upsert, upsert, h]
  split
  · rw [List.map_map]
    refine List.map_congr_left fun z _ ↦ ?_
    by_cases hz : key z = key x <;> simp [hz]
  · rename_i hnew
    have hkeep : ∀ z ∈ items, (if key z = key x then y else z) = z := by
      intro z hz
      refine if_neg fun hk ↦ hnew ?_
      rw [← hk]
      exact List.mem_map_of_mem hz
    simp [List.map_congr_left hkeep]

theorem map_upsert {f : α → β} (hf : ∀ y, key' (f y) = key y) (x : α) (items : List α) :
    (upsert key x items).map f = upsert key' (f x) (items.map f) := by
  have hmap : (items.map f).map key' = items.map key := by simp [hf]
  unfold upsert
  rw [hmap, hf]
  split
  · rw [List.map_map, List.map_map]
    refine List.map_congr_left fun y _ ↦ ?_
    by_cases h : key y = key x <;> simp [h, hf]
  · simp

/-- Where keys are distinct, writing at the place of a key is writing at the key. -/
theorem set_eq_upsert {x : α} {items : List α} {i : Nat} (hd : (items.map key).Nodup)
    (hi : (items.map key)[i]? = some (key x)) : items.set i x = upsert key x items := by
  rw [upsert, if_pos (List.mem_of_getElem? hi)]
  refine List.ext_getElem? fun j ↦ ?_
  have hlt : i < items.length := by simpa using (List.getElem?_eq_some_iff.1 hi).1
  rw [List.getElem?_set, List.getElem?_map]
  by_cases hij : i = j
  · subst j
    rw [List.getElem?_map] at hi
    obtain ⟨y, hy, hk⟩ := Option.map_eq_some_iff.1 hi
    rw [if_pos rfl, if_pos hlt, hy, Option.map_some, if_pos hk]
  · rw [if_neg hij]
    cases hj : items[j]? with
    | none => rfl
    | some y =>
      have hne : key y ≠ key x := by
        intro hk
        refine hij ((List.getElem?_inj (by simpa using hlt) hd).1 ?_)
        rw [hi, List.getElem?_map, hj, Option.map_some, hk]
      simp [hne]

/-- For every key that occurs, in the order of first occurrence, the last item that has it. -/
def latest (key : α → κ) (items : List α) : List α :=
  (items.map key).eraseDups.filterMap fun k ↦ (items.filter (key · = k)).getLast?

theorem eraseDups_concat (ks : List κ) (k : κ) :
    (ks ++ [k]).eraseDups = if k ∈ ks then ks.eraseDups else ks.eraseDups ++ [k] := by
  rw [List.eraseDups_append]
  by_cases h : k ∈ ks <;> simp [List.removeAll, h, List.eraseDups_cons]

def addKey (ks : List κ) : Option κ → List κ
  | none => ks
  | some k => if k ∈ ks then ks else ks ++ [k]

theorem eraseDups_filterMap_concat (f : α → Option κ) (xs : List α) (x : α) :
    ((xs ++ [x]).filterMap f).eraseDups = addKey (xs.filterMap f).eraseDups (f x) := by
  cases hx : f x with
  | none => simp [addKey, hx]
  | some k => simp only [addKey, List.filterMap_append, List.filterMap_cons, hx,
      List.filterMap_nil, eraseDups_concat, List.mem_eraseDups]

theorem nodup_eraseDups (ks : List κ) : ks.eraseDups.Nodup := by
  induction ks using List.reverseRecOn with
  | nil => simp
  | append_singleton ks k ih =>
    rw [eraseDups_concat]
    split
    · exact ih
    · rename_i hnew
      have hnot : k ∉ ks.eraseDups := fun h ↦ hnew (List.mem_eraseDups.1 h)
      rw [← List.concat_eq_append, List.nodup_concat]
      exact ⟨hnot, ih⟩

theorem eraseDups_of_nodup {ks : List κ} (h : ks.Nodup) : ks.eraseDups = ks := by
  induction ks using List.reverseRecOn with
  | nil => rfl
  | append_singleton ks k ih =>
    rw [← List.concat_eq_append, List.nodup_concat] at h
    rw [eraseDups_concat, if_neg h.1, ih h.2]

theorem length_eraseDups_eq_iff {ks : List κ} : ks.eraseDups.length = ks.length ↔ ks.Nodup := by
  constructor
  · intro h
    have hsub : ks.eraseDups ⊆ ks := fun k hk ↦ List.mem_eraseDups.1 hk
    have hperm : ks.eraseDups.Perm ks :=
      (List.subperm_of_subset (nodup_eraseDups ks) hsub).perm_of_length_le (Nat.le_of_eq h.symm)
    exact hperm.nodup_iff.1 (nodup_eraseDups ks)
  · intro h
    rw [eraseDups_of_nodup h]

theorem key_of_getLast?_filter {items : List α} {k : κ} {x : α}
    (h : (items.filter (key · = k)).getLast? = some x) : key x = k := by
  simpa using List.of_mem_filter (List.mem_of_getLast? h)

theorem exists_getLast?_filter {items : List α} {k : κ} (h : k ∈ items.map key) :
    ∃ x, (items.filter (key · = k)).getLast? = some x := by
  obtain ⟨x, hx, hk⟩ := List.mem_map.1 h
  have hmem : x ∈ items.filter (key · = k) := List.mem_filter.2 ⟨hx, by simpa using hk⟩
  exact Option.ne_none_iff_exists'.1 (mt List.getLast?_eq_none_iff.1 (List.ne_nil_of_mem hmem))

theorem getLast?_filter_concat (items : List α) (x : α) (k : κ) :
    ((items ++ [x]).filter (key · = k)).getLast? =
      if key x = k then some x else (items.filter (key · = k)).getLast? := by
  by_cases h : key x = k <;> simp [h]

theorem mem_of_mem_latest {x : α} {items : List α} (h : x ∈ latest key items) : x ∈ items := by
  obtain ⟨k, _, hlast⟩ := List.mem_filterMap.1 h
  exact List.mem_of_mem_filter (List.mem_of_getLast? hlast)

theorem map_key_latest (items : List α) :
    (latest key items).map key = (items.map key).eraseDups := by
  rw [latest, List.map_filterMap]
  refine (List.filterMap_congr ?_).trans List.filterMap_some
  intro k hk
  obtain ⟨x, hx⟩ := exists_getLast?_filter (List.mem_eraseDups.1 hk)
  rw [hx, Option.map_some, key_of_getLast?_filter hx]

theorem nodup_map_key_latest (items : List α) : ((latest key items).map key).Nodup := by
  rw [map_key_latest]
  exact nodup_eraseDups _

theorem mem_map_key_latest {k : κ} {items : List α} :
    k ∈ (latest key items).map key ↔ k ∈ items.map key := by
  rw [map_key_latest, List.mem_eraseDups]

/-- One more item only changes what is kept for its key. -/
theorem latest_concat (items : List α) (x : α) :
    latest key (items ++ [x]) = upsert key x (latest key items) := by
  have hmem : key x ∈ (latest key items).map key ↔ key x ∈ items.map key := mem_map_key_latest
  rw [upsert, if_congr hmem rfl rfl]
  simp only [latest, List.map_append, List.map_singleton, eraseDups_concat, getLast?_filter_concat]
  split
  · rw [List.map_filterMap]
    refine List.filterMap_congr fun k hk ↦ ?_
    obtain ⟨y, hlast⟩ := exists_getLast?_filter (List.mem_eraseDups.1 hk)
    have hy : key y = k := key_of_getLast?_filter hlast
    by_cases h : key x = k
    · simp [hlast, h, hy]
    · simp [hlast, h, hy, Ne.symm h]
  · rename_i hnew
    rw [List.filterMap_append]
    congr 1
    · refine List.filterMap_congr fun k hk ↦ if_neg ?_
      rintro rfl
      exact hnew (List.mem_eraseDups.1 hk)
    · simp

theorem latest_of_nodup {items : List α} (h : (items.map key).Nodup) :
    latest key items = items := by
  induction items using List.reverseRecOn with
  | nil => rfl
  | append_singleton items x ih =>
    rw [List.map_append, List.map_singleton, ← List.concat_eq_append, List.nodup_concat] at h
    rw [latest_concat, ih h.2, upsert, if_neg h.1]

theorem latest_concat_of_key (items : List α) {x y : α} (h : key y = key x) :
    latest key (items ++ [y]) = upsert key y (latest key (items ++ [x])) := by
  rw [latest_concat, latest_concat, upsert_upsert h]

namespace Keyed

theorem ofList_eq_latest (entries : List (κ × β)) : ofList entries = latest (·.1) entries := by
  induction entries using List.reverseRecOn with
  | nil => rfl
  | append_singleton entries e ih =>
    obtain ⟨k, v⟩ := e
    rw [ofList_concat, (distinct_ofList entries).insert_eq, latest_concat, ih]
    rfl

/-- A key stands for the last value that it is given. -/
theorem get?_ofList (entries : List (κ × β)) (k : κ) :
    get? k (ofList entries) = ((entries.filter (·.1 = k)).map (·.2)).getLast? := by
  induction entries using List.reverseRecOn with
  | nil => rfl
  | append_singleton entries e ih =>
    obtain ⟨k', v⟩ := e
    rw [ofList_concat]
    by_cases h : k' = k
    · subst h
      simp
    · rw [get?_insert_of_ne (Ne.symm h), ih]
      simp [h]

theorem mem_of_mem_ofList {e : κ × β} {entries : List (κ × β)} (h : e ∈ ofList entries) :
    e ∈ entries :=
  mem_of_mem_latest (ofList_eq_latest entries ▸ h)

theorem keys_ofList (entries : List (κ × β)) :
    keys (ofList entries) = (keys entries).eraseDups := by
  rw [ofList_eq_latest]
  exact map_key_latest entries

theorem mem_keys_ofList {k : κ} {entries : List (κ × β)} :
    k ∈ keys (ofList entries) ↔ k ∈ keys entries := by
  rw [ofList_eq_latest]
  exact mem_map_key_latest

theorem ofList_of_distinct {entries : List (κ × β)} (h : Distinct entries) :
    ofList entries = entries :=
  (ofList_eq_latest entries).trans (latest_of_nodup h)

end Keyed

end Reshape
