import Mathlib.Data.List.Perm.Subperm
import Reshape.Proofs.Record.Everywhere

namespace Reshape

namespace Value

theorem allFound_iff {a b : List (String × Value)} :
    allFound a b ↔ ∀ e ∈ a, ∃ w, Keyed.get? e.1 b = some w ∧ same e.2 w := by
  induction a with
  | nil => simp [allFound]
  | cons e rest ih => cases h : Keyed.get? e.1 b <;> simp [allFound, h, ih]

theorem same_record {a b : Record} :
    same (.record a) (.record b) ↔
      a.length = b.length ∧ ∀ e ∈ a, ∃ w, b.get? e.1 = some w ∧ same e.2 w := by
  simp [same, allFound_iff]

theorem isLeaf_eq_of_same {v w : Value} (h : same v w) : v.isLeaf = w.isLeaf := by
  cases v with
  | record a =>
    cases w with
    | record b =>
      have hlen := (same_record.1 h).1
      cases a <;> cases b <;> simp_all [isLeaf]
    | _ => simp [same] at h
  | _ =>
    cases w with
    | record b => simp [same] at h
    | _ => rfl

theorem same_self_of_isLeaf {v : Value} (h : v.isLeaf) (hv : v.isNumeric) : same v v := by
  cases v with
  | decimal d =>
    have hd : d.isNaN = false := by simpa [isNumeric] using hv
    simp [same, Double.same, hd]
  | record fields =>
    obtain rfl : fields = [] := by simpa [isLeaf] using h
    rfl
  | _ => simp [same]

theorem keys_perm_of_same {a b : Record} (ha : Keyed.Distinct a)
    (h : same (.record a) (.record b)) : (Keyed.keys a).Perm (Keyed.keys b) := by
  obtain ⟨hlen, hall⟩ := same_record.1 h
  have hsub : Keyed.keys a ⊆ Keyed.keys b := by
    intro key hkey
    obtain ⟨e, he, rfl⟩ := List.mem_map.1 hkey
    obtain ⟨w, hw, -⟩ := hall e he
    exact Keyed.mem_keys_of_mem (Keyed.mem_of_get? hw)
  refine (List.subperm_of_subset ha hsub).perm_of_length_le ?_
  simp [Keyed.keys, hlen]

theorem at?_of_same {v w x : Value} {path : List String} (h : same v w)
    (hx : v.at? path = some x) : ∃ y, w.at? path = some y ∧ same x y := by
  induction path generalizing v w with
  | nil => exact ⟨w, rfl, Option.some.inj hx ▸ h⟩
  | cons key rest ih =>
    cases v with
    | record a =>
      cases w with
      | record b =>
        rw [at?_record, Record.at?_cons] at hx
        obtain ⟨v', hv', hx⟩ := Option.bind_eq_some_iff.1 hx
        obtain ⟨w', hw', hsame⟩ := (same_record.1 h).2 _ (Keyed.mem_of_get? hv')
        obtain ⟨y, hy, hxy⟩ := ih hsame hx
        exact ⟨y, by simpa [Record.at?_cons, hw'] using hy, hxy⟩
      | _ => simp [same] at h
    | _ => cases hx

theorem at?_of_same_right {v w y : Value} {path : List String} (hv : v.everywhere keysOnce)
    (h : same v w) (hy : w.at? path = some y) : ∃ x, v.at? path = some x ∧ same x y := by
  induction path generalizing v w with
  | nil => exact ⟨v, rfl, Option.some.inj hy ▸ h⟩
  | cons key rest ih =>
    cases w with
    | record b =>
      cases v with
      | record a =>
        rw [at?_record, Record.at?_cons] at hy
        obtain ⟨w', hw', hy⟩ := Option.bind_eq_some_iff.1 hy
        obtain ⟨ha, hall⟩ := Record.keysOnce_iff.1 hv
        have hkey : key ∈ Keyed.keys a :=
          (keys_perm_of_same ha h).mem_iff.2 (Keyed.mem_keys_of_mem (Keyed.mem_of_get? hw'))
        obtain ⟨v', hv'⟩ := Keyed.exists_get?_of_mem_keys hkey
        obtain ⟨w'', hw'', hsame⟩ := (same_record.1 h).2 _ (Keyed.mem_of_get? hv')
        obtain rfl : w'' = w' := Option.some.inj (hw''.symm.trans hw')
        obtain ⟨x, hx, hxy⟩ := ih (hall _ (Keyed.mem_of_get? hv')) hsame hy
        exact ⟨x, by simpa [Record.at?_cons, hv'] using hx, hxy⟩
      | _ => simp [same] at h
    | _ => cases hy

theorem keys_subset_of_leaves {a b : Record}
    (h : ∀ path x, x.isLeaf → a.at? path = some x → b.at? path = some x) :
    Keyed.keys a ⊆ Keyed.keys b := by
  intro key hkey
  obtain ⟨v, hv⟩ := Keyed.exists_get?_of_mem_keys hkey
  obtain ⟨path, x, hx, hleaf⟩ := exists_leaf v
  have hb : b.at? (key :: path) = some x := h _ x hleaf (by simpa [Record.at?_cons, hv] using hx)
  rw [Record.at?_cons] at hb
  obtain ⟨w, hw, -⟩ := Option.bind_eq_some_iff.1 hb
  exact Keyed.mem_keys_of_mem (Keyed.mem_of_get? hw)

/-- Values with the same leaves are equal: nothing but leaves and the keys on the way to them makes
up a value, and every key leads to a leaf. -/
theorem same_of_leaves {v w : Value} (hv : v.everywhere keysOnce) (hw : w.everywhere keysOnce)
    (hnum : w.everywhere isNumeric)
    (h : ∀ path x, x.isLeaf → (v.at? path = some x ↔ w.at? path = some x)) : same v w := by
  induction v using Value.fieldwise generalizing w with
  | scalar v hscalar =>
    have hleaf : v.isLeaf := by cases v <;> simp_all [isLeaf, record?]
    obtain rfl : w = v := Option.some.inj ((h [] v hleaf).1 rfl)
    exact same_self_of_isLeaf hleaf (test_of_everywhere hnum)
  | record a ih =>
    cases w with
    | record b =>
      simp only [at?_record] at h
      obtain ⟨ha, haall⟩ := Record.keysOnce_iff.1 hv
      obtain ⟨hb, hball⟩ := Record.keysOnce_iff.1 hw
      have hperm : (Keyed.keys a).Perm (Keyed.keys b) := by
        rw [List.perm_ext_iff_of_nodup ha hb]
        exact fun key ↦ ⟨fun hk ↦ keys_subset_of_leaves (fun path x hx ↦ (h path x hx).1) hk,
          fun hk ↦ keys_subset_of_leaves (fun path x hx ↦ (h path x hx).2) hk⟩
      refine same_record.2 ⟨by simpa [Keyed.keys] using hperm.length_eq, ?_⟩
      rintro ⟨key, v⟩ he
      have hget : Keyed.get? key a = some v := ha.get?_of_mem he
      obtain ⟨w, hgetw⟩ := Keyed.exists_get?_of_mem_keys
        (hperm.mem_iff.1 (Keyed.mem_keys_of_mem he))
      refine ⟨w, hgetw, ih _ he (haall _ he) (hball _ (Keyed.mem_of_get? hgetw))
        ((everywhere_record.1 hnum).2 _ (Keyed.mem_of_get? hgetw)) fun path x hx ↦ ?_⟩
      simpa [Record.at?_cons, hget, hgetw] using h (key :: path) x hx
    | _ =>
      have hx := (h [] _ rfl).2 rfl
      cases hx

end Value

namespace Record

variable {a b : Record}

theorem eq_nil_iff {r : Record} : r = [] ↔ ∀ path, ¬ r.LeafAt path := by
  constructor
  · rintro rfl
    exact not_leafAt_nil
  · intro h
    cases r with
    | nil => rfl
    | cons e rest =>
      obtain ⟨path, x, hx, hleaf⟩ := Value.exists_leaf (.record (e :: rest))
      have hne : path ≠ [] := by
        rintro rfl
        obtain rfl := Option.some.inj hx
        simp [Value.isLeaf] at hleaf
      exact absurd ⟨hne, x, by simpa using hx, hleaf⟩ (h path)

/-- The records have the same leaves at the same paths, so they differ in nothing but the order of
their fields. -/
def SameLeaves (a b : Record) : Prop :=
  ∀ path x, path ≠ [] → x.isLeaf → (a.at? path = some x ↔ b.at? path = some x)

theorem same_of_leaves (ha : a.KeysOnce) (hb : b.KeysOnce) (hnum : b.NaNFree)
    (h : SameLeaves a b) : a.same b := by
  have hleaf : ∀ path, a.LeafAt path ↔ b.LeafAt path := fun path ↦
    and_congr_right fun hne ↦ exists_congr fun x ↦ and_congr_left (h path x hne)
  have hempty : a = [] ↔ b = [] := by simp only [eq_nil_iff, hleaf]
  refine Value.same_of_leaves ha hb hnum fun path x hx ↦ ?_
  by_cases hpath : path = []
  · subst hpath
    simp only [Value.at?_nil, Option.some.injEq]
    constructor
    · rintro rfl
      have ha : a = [] := by simpa [Value.isLeaf] using hx
      rw [ha, hempty.1 ha]
    · rintro rfl
      have hb : b = [] := by simpa [Value.isLeaf] using hx
      rw [hb, hempty.2 hb]
  · simpa using h path x hpath hx

theorem leafAt_iff_of_same (ha : a.KeysOnce) (h : a.same b) (path : List String) :
    a.LeafAt path ↔ b.LeafAt path := by
  constructor
  · rintro ⟨hne, x, hx, hleaf⟩
    obtain ⟨y, hy, hsame⟩ := Value.at?_of_same h (by simpa using hx)
    exact ⟨hne, y, by simpa using hy, Value.isLeaf_eq_of_same hsame ▸ hleaf⟩
  · rintro ⟨hne, y, hy, hleaf⟩
    obtain ⟨x, hx, hsame⟩ := Value.at?_of_same_right ha h (by simpa using hy)
    exact ⟨hne, x, by simpa using hx, (Value.isLeaf_eq_of_same hsame).symm ▸ hleaf⟩

end Record

end Reshape
