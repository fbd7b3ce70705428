namespace Reshape

abbrev Keyed (κ : Type u) (α : Type v) := List (κ × α)

namespace Keyed

variable {κ : Type u} {α : Type v} [DecidableEq κ]

def get? (key : κ) : Keyed κ α → Option α
  | [] => none
  | (k, v) :: rest => if k = key then some v else get? key rest

def contains (key : κ) (entries : Keyed κ α) : Bool := (get? key entries).isSome

/-- A key that is present keeps its place and takes the new value; a new one goes to the end. -/
def insert (key : κ) (value : α) : Keyed κ α → Keyed κ α
  | [] => [(key, value)]
  | (k, v) :: rest => if k = key then (k, value) :: rest else (k, v) :: insert key value rest

def insertAll (entries : Keyed κ α) (more : List (κ × α)) : Keyed κ α :=
  more.foldl (fun acc (k, v) ↦ insert k v acc) entries

def ofList (entries : List (κ × α)) : Keyed κ α := insertAll [] entries

def erase (key : κ) (entries : Keyed κ α) : Keyed κ α := entries.filter fun e ↦ e.1 ≠ key

def keys (entries : Keyed κ α) : List κ := entries.map (·.1)

def Distinct (entries : Keyed κ α) : Prop := (keys entries).Nodup

@[simp] theorem get?_insert_self (key : κ) (value : α) (entries : Keyed κ α) :
    get? key (insert key value entries) = some value := by
  induction entries with
  | nil => simp [insert, get?]
  | cons e rest ih => by_cases h : e.1 = key <;> simp [insert, get?, h, ih]

theorem get?_insert_of_ne {key other : κ} (h : other ≠ key) (value : α) (entries : Keyed κ α) :
    get? other (insert key value entries) = get? other entries := by
  induction entries with
  | nil => simp [insert, get?, Ne.symm h]
  | cons e rest ih =>
    by_cases hk : e.1 = key
    · simp [insert, get?, hk, Ne.symm h]
    · simp [insert, get?, hk, ih]

theorem keys_insert (key : κ) (value : α) (entries : Keyed κ α) :
    keys (insert key value entries) =
      if key ∈ keys entries then keys entries else keys entries ++ [key] := by
  induction entries with
  | nil => simp [insert, keys]
  | cons e rest ih =>
    by_cases h : e.1 = key
    · simp [insert, keys, h]
    · simp only [keys, insert, h, if_false, List.map_cons] at ih ⊢
      rw [ih]
      by_cases hm : key ∈ rest.map (·.1) <;> simp [hm, Ne.symm h]

theorem Distinct.insert {entries : Keyed κ α} (h : Distinct entries) (key : κ) (value : α) :
    Distinct (Keyed.insert key value entries) := by
  unfold Distinct at h ⊢
  rw [keys_insert]
  split
  · exact h
  · rename_i hm
    exact List.nodup_append.2 ⟨h, by simp, by
      intro a ha b hb
      simp only [List.mem_singleton] at hb
      exact fun he ↦ hm (hb ▸ he ▸ ha)⟩

theorem Distinct.insertAll {entries : Keyed κ α} (h : Distinct entries)
    (more : List (κ × α)) : Distinct (Keyed.insertAll entries more) := by
  induction more generalizing entries with
  | nil => exact h
  | cons e rest ih => exact ih (h.insert e.1 e.2)

theorem distinct_ofList (entries : List (κ × α)) : Distinct (ofList entries) :=
  Distinct.insertAll (by simp [Distinct, keys]) entries

end Keyed

end Reshape
