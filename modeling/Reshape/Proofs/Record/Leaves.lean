import Reshape.Proofs.Record.Everywhere

namespace Reshape

open DottedPath

namespace Value

mutual

def leaves : Value → List (List String × Value)
  | .record [] => [([], .record [])]
  | .record fields => (leavesBelow fields).map fun l ↦ (l.1.segments, l.2)
  | v => [([], v)]

def leavesBelow : List (String × Value) → List (DottedPath × Value)
  | [] => []
  | (key, v) :: rest => (leaves v).map (fun l ↦ (⟨key, l.1⟩, l.2)) ++ leavesBelow rest

end

variable {v x : Value} {fields : List (String × Value)} {p : DottedPath} {path : List String}

theorem leaves_of_isLeaf (h : v.isLeaf) : v.leaves = [([], v)] := by
  cases v with
  | record fields =>
    obtain rfl : fields = [] := by simpa [isLeaf] using h
    rfl
  | _ => rfl

theorem leaves_record (h : fields ≠ []) :
    (record fields).leaves = (leavesBelow fields).map fun l ↦ (l.1.segments, l.2) := by
  obtain ⟨e, rest, rfl⟩ := List.exists_cons_of_ne_nil h
  rfl

theorem leavesBelow_eq_flatMap (fields : List (String × Value)) : leavesBelow fields =
    fields.flatMap fun e ↦ e.2.leaves.map fun l ↦ (⟨e.1, l.1⟩, l.2) := by
  induction fields with
  | nil => rfl
  | cons e rest ih => rw [leavesBelow, ih, List.flatMap_cons]

theorem isLeaf_of_record?_eq_none (h : v.record? = none) : v.isLeaf := by
  cases v <;> simp_all [isLeaf, record?]

/-- What holds of every leaf, and of a record with fields whenever it holds of the values of its
fields, holds of every value. -/
@[elab_as_elim]
theorem leafwise {motive : Value → Prop} (leaf : ∀ v, v.isLeaf → motive v)
    (record : ∀ fields, fields ≠ [] → (∀ e ∈ fields, motive e.2) → motive (.record fields))
    (v : Value) : motive v := by
  induction v using Value.fieldwise with
  | scalar v h => exact leaf v (isLeaf_of_record?_eq_none h)
  | record fields ih =>
    by_cases hne : fields = []
    · exact leaf _ (by simp [hne, isLeaf])
    · exact record fields hne ih

theorem mem_leavesBelow : (p, x) ∈ leavesBelow fields ↔
    ∃ e ∈ fields, e.1 = p.head ∧ (p.rest, x) ∈ e.2.leaves := by
  rw [leavesBelow_eq_flatMap, List.mem_flatMap]
  refine exists_congr fun e ↦ and_congr_right fun _ ↦ ?_
  rw [List.mem_map]
  constructor
  · rintro ⟨l, hl, heq⟩
    obtain ⟨rfl, rfl⟩ := Prod.mk.inj heq
    exact ⟨rfl, hl⟩
  · rintro ⟨hkey, hl⟩
    exact ⟨_, hl, by rw [hkey]⟩

theorem mem_leavesBelow_iff (hd : Keyed.Distinct fields)
    (h : ∀ e ∈ fields, ∀ path, (path, x) ∈ e.2.leaves ↔ e.2.at? path = some x ∧ x.isLeaf) :
    (p, x) ∈ leavesBelow fields ↔ Record.at? fields p.segments = some x ∧ x.isLeaf := by
  rw [mem_leavesBelow, segments, Record.at?_cons]
  constructor
  · rintro ⟨e, he, hkey, hl⟩
    obtain ⟨hat, hleaf⟩ := (h e he _).1 hl
    have hget : Keyed.get? p.head fields = some e.2 := hkey ▸ hd.get?_of_mem he
    exact ⟨by rw [hget, Option.bind_some, hat], hleaf⟩
  · rintro ⟨hat, hleaf⟩
    obtain ⟨v, hget, hat⟩ := Option.bind_eq_some_iff.1 hat
    have he : (p.head, v) ∈ fields := Keyed.mem_of_get? hget
    exact ⟨_, he, rfl, (h _ he _).2 ⟨hat, hleaf⟩⟩

theorem mem_leaves_iff (hv : v.everywhere keysOnce) :
    (path, x) ∈ v.leaves ↔ v.at? path = some x ∧ x.isLeaf := by
  induction v using Value.leafwise generalizing path with
  | leaf v hleaf =>
    rw [leaves_of_isLeaf hleaf, List.mem_singleton, Prod.mk.injEq]
    constructor
    · rintro ⟨rfl, rfl⟩
      exact ⟨rfl, hleaf⟩
    · rintro ⟨hat, -⟩
      by_cases hpath : path = []
      · subst hpath
        exact ⟨rfl, (Option.some.inj hat).symm⟩
      · simp [at?_of_isLeaf hleaf hpath] at hat
  | record fields hne ih =>
    obtain ⟨hd, hall⟩ := Record.keysOnce_iff.1 hv
    have hbelow {p : DottedPath} := mem_leavesBelow_iff (p := p) hd fun e he _ ↦ ih e he (hall e he)
    rw [leaves_record hne, at?_record, List.mem_map]
    constructor
    · rintro ⟨l, hl, heq⟩
      obtain ⟨rfl, rfl⟩ := Prod.mk.inj heq
      exact hbelow.1 hl
    · rintro ⟨hat, hleaf⟩
      cases path with
      | nil =>
        obtain rfl : record fields = x := Option.some.inj hat
        exact absurd (by simpa [isLeaf] using hleaf) hne
      | cons key rest => exact ⟨(⟨key, rest⟩, x), hbelow.2 ⟨hat, hleaf⟩, rfl⟩

theorem nodup_leavesBelow (hd : Keyed.Distinct fields)
    (h : ∀ e ∈ fields, (e.2.leaves.map (·.1)).Nodup) : ((leavesBelow fields).map (·.1)).Nodup := by
  induction fields with
  | nil => simp [leavesBelow]
  | cons e rest ih =>
    obtain ⟨hnot, hrest⟩ := Keyed.distinct_cons.1 hd
    obtain ⟨he, hothers⟩ := List.forall_mem_cons.1 h
    have hfirst : ((e.2.leaves.map fun l ↦ ((⟨e.1, l.1⟩ : DottedPath), l.2)).map (·.1)).Nodup := by
      have hmap := he.map (f := DottedPath.mk e.1) fun a b hab ↦ by simpa using hab
      simpa [Function.comp_def] using hmap
    rw [leavesBelow, List.map_append, List.nodup_append]
    refine ⟨hfirst, ih hrest hothers, ?_⟩
    rintro a ha b hb rfl
    simp only [List.mem_map] at ha hb
    obtain ⟨_, ⟨l, -, rfl⟩, rfl⟩ := ha
    obtain ⟨⟨p, x⟩, hp, rfl⟩ := hb
    obtain ⟨e', he', hkey, -⟩ := mem_leavesBelow.1 hp
    have hmem : e'.1 ∈ Keyed.keys rest := Keyed.mem_keys_of_mem he'
    rw [hkey] at hmem
    exact hnot hmem

theorem nodup_leaves (hv : v.everywhere keysOnce) : (v.leaves.map (·.1)).Nodup := by
  induction v using Value.leafwise with
  | leaf v hleaf => simp [leaves_of_isLeaf hleaf]
  | record fields hne ih =>
    obtain ⟨hd, hall⟩ := Record.keysOnce_iff.1 hv
    have hbelow := nodup_leavesBelow hd fun e he ↦ ih e he (hall e he)
    rw [leaves_record hne, List.map_map]
    have hmap := hbelow.map segments_injective
    simpa [Function.comp_def] using hmap

end Value

namespace Record

variable {r : Record} {p : DottedPath} {x : Value}

def leaves (r : Record) : List (DottedPath × Value) := Value.leavesBelow r

theorem mem_leaves_iff (hr : r.KeysOnce) :
    (p, x) ∈ r.leaves ↔ r.at? p.segments = some x ∧ x.isLeaf := by
  obtain ⟨hd, hall⟩ := keysOnce_iff.1 hr
  exact Value.mem_leavesBelow_iff hd fun e he _ ↦ Value.mem_leaves_iff (hall e he)

theorem nodup_leaves (hr : r.KeysOnce) : (r.leaves.map (·.1)).Nodup := by
  obtain ⟨hd, hall⟩ := keysOnce_iff.1 hr
  exact Value.nodup_leavesBelow hd fun e he ↦ Value.nodup_leaves (hall e he)

theorem mem_paths_leaves_iff (hr : r.KeysOnce) :
    p ∈ r.leaves.map (·.1) ↔ r.LeafAt p.segments := by
  rw [List.mem_map]
  constructor
  · rintro ⟨⟨p, x⟩, hl, rfl⟩
    exact ⟨by simp [segments], x, (mem_leaves_iff hr).1 hl⟩
  · rintro ⟨-, x, hx⟩
    exact ⟨(p, x), (mem_leaves_iff hr).2 hx, rfl⟩

theorem head_mem_keys_of_mem_leaves (h : (p, x) ∈ r.leaves) : p.head ∈ Keyed.keys r := by
  obtain ⟨⟨key, v⟩, he, rfl, -⟩ := Value.mem_leavesBelow.1 h
  exact Keyed.mem_keys_of_mem he

/-- Assignments below a key come to one of the record that they make there. -/
theorem assignAll_under (r : Record) (key : String) {puts : List (DottedPath × Value)}
    (h : puts ≠ []) : r.assignAll (puts.map fun e ↦ (⟨key, e.1.segments⟩, e.2)) =
      r.insert key (.record (assignAll (nested (r.get? key)) puts)) := by
  induction puts generalizing r with
  | nil => exact absurd rfl h
  | cons e rest ih =>
    let inner := assign (nested (r.get? key)) e.1.head e.2 e.1.rest
    have hstep : r.assignAll ((e :: rest).map fun e ↦ (⟨key, e.1.segments⟩, e.2)) =
        assignAll (r.insert key (.record inner))
          (rest.map fun e ↦ (⟨key, e.1.segments⟩, e.2)) := rfl
    rw [hstep]
    by_cases hrest : rest = []
    · rw [hrest]
      rfl
    · rw [ih _ hrest, Keyed.insert_insert, Keyed.get?_insert_self]
      rfl

def Rebuilt (v : Value) : Prop := ∀ (r : Record) (key : String), key ∉ Keyed.keys r →
  r.assignAll (v.leaves.map fun l ↦ (⟨key, l.1⟩, l.2)) = r ++ [(key, v)]

theorem assignAll_leavesBelow {fields : Record} (hd : Keyed.Distinct (r ++ fields))
    (h : ∀ e ∈ fields, Rebuilt e.2) : r.assignAll (Value.leavesBelow fields) = r ++ fields := by
  induction fields generalizing r with
  | nil => simp [Value.leavesBelow, assignAll]
  | cons e rest ih =>
    obtain ⟨he, hothers⟩ := List.forall_mem_cons.1 h
    have hsplit : r ++ e :: rest = r ++ [e] ++ rest := by simp
    have hnot : e.1 ∉ Keyed.keys r := by
      have hnodup : (Keyed.keys r ++ e.1 :: Keyed.keys rest).Nodup := by
        simpa [Keyed.Distinct, Keyed.keys] using hd
      exact fun hmem ↦ (List.nodup_append.1 hnodup).2.2 _ hmem _ List.mem_cons_self rfl
    rw [Value.leavesBelow, assignAll_append, he r e.1 hnot, ih (hsplit ▸ hd) hothers, hsplit]

theorem rebuilt {v : Value} (hv : v.everywhere Value.keysOnce) : Rebuilt v := by
  induction v using Value.leafwise with
  | leaf v hleaf =>
    intro r key hkey
    rw [Value.leaves_of_isLeaf hleaf]
    exact Keyed.insert_of_not_mem hkey v
  | record fields hne ih =>
    obtain ⟨hd, hall⟩ := keysOnce_iff.1 hv
    intro r key hkey
    have hfields : assignAll [] (Value.leavesBelow fields) = fields :=
      assignAll_leavesBelow hd fun e he ↦ ih e he (hall e he)
    have hputs : Value.leavesBelow fields ≠ [] := by
      intro hnil
      rw [hnil] at hfields
      exact hne hfields.symm
    have hnested : nested (r.get? key) = [] := by
      rw [Keyed.get?_eq_none_iff.2 hkey]
      rfl
    have hunder := assignAll_under r key hputs
    rw [hnested, hfields, Keyed.insert_of_not_mem hkey] at hunder
    rw [Value.leaves_record hne, List.map_map]
    exact hunder

/-- A record is what its leaves, assigned in their order, come to. -/
theorem assignAll_leaves (hr : r.KeysOnce) : assignAll [] r.leaves = r := by
  obtain ⟨hd, hall⟩ := keysOnce_iff.1 hr
  exact assignAll_leavesBelow hd fun e he ↦ rebuilt (hall e he)

end Record

end Reshape
