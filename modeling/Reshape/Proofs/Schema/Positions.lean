import Reshape.Proofs.Latest
import Reshape.Schema.Reader

namespace Reshape.Schema

def Indexes (table : Keyed String Declared) (names : List String) : Prop :=
  ∀ name i, (∃ line, table.get? name = some ⟨i, line⟩) ↔ names[i]? = some name

namespace Indexes

variable {table : Keyed String Declared} {names : List String} {name : String} {d : Declared}

theorem getElem?_concat_eq_some_iff {i : Nat} {other : String} :
    (names ++ [name])[i]? = some other ↔
      names[i]? = some other ∨ i = names.length ∧ name = other := by
  rcases Nat.lt_trichotomy i names.length with hlt | rfl | hlt
  · simp [List.getElem?_append_left hlt, Nat.ne_of_lt hlt]
  · simp
  · have hend : (names ++ [name])[i]? = none := by
      refine List.getElem?_eq_none ?_
      rw [List.length_append]
      exact hlt
    have hnone : names[i]? = none := List.getElem?_eq_none (Nat.le_of_lt hlt)
    simp [hend, hnone, Nat.ne_of_gt hlt]

theorem nil : Indexes [] [] := by simp [Indexes, Keyed.get?]

theorem getElem? (h : Indexes table names) (hget : table.get? name = some d) :
    names[d.position]? = some name :=
  (h name d.position).1 ⟨d.line, hget⟩

theorem get?_eq_none_iff (h : Indexes table names) : table.get? name = none ↔ name ∉ names := by
  constructor
  · intro hnone hmem
    obtain ⟨i, hi⟩ := List.mem_iff_getElem?.1 hmem
    obtain ⟨line, hget⟩ := (h name i).2 hi
    simp [hnone] at hget
  · intro hnot
    cases hget : table.get? name with
    | none => rfl
    | some d => exact absurd (List.mem_of_getElem? (h.getElem? hget)) hnot

theorem nodup (h : Indexes table names) : names.Nodup := by
  refine List.nodup_iff_getElem?_ne_getElem?.2 fun i j hij hj heq ↦ ?_
  obtain ⟨line, hget⟩ := (h names[j] j).2 (List.getElem?_eq_getElem hj)
  rw [List.getElem?_eq_getElem hj] at heq
  obtain ⟨line', hget'⟩ := (h names[j] i).2 heq
  simp only [hget, Option.some.injEq, Declared.mk.injEq] at hget'
  omega

theorem concat (h : Indexes table names) (hnew : table.get? name = none) (line : Nat) :
    Indexes (table.insert name ⟨names.length, line⟩) (names ++ [name]) := by
  have hnot := h.get?_eq_none_iff.1 hnew
  intro other i
  rw [getElem?_concat_eq_some_iff]
  by_cases hother : other = name
  · subst hother
    have hold : names[i]? ≠ some other := fun hi ↦ hnot (List.mem_of_getElem? hi)
    simp [hold, eq_comm]
  · rw [Keyed.get?_insert_of_ne hother, h other i]
    simp [Ne.symm hother]

end Indexes

namespace ReaderState

variable {s s' : ReaderState} {c : Current} {g : FieldGroup} {f : Mapping} {name : String}
  {line : Nat} {repeats : Repeats}

structure Consistent (s : ReaderState) : Prop where
  headers : Indexes s.headers (s.groups.map (·.name))
  current : ∀ c, s.current = some c → ∃ g, s.groups[c.position]? = some g ∧
    Indexes c.seen (g.mappings.map (·.modelPath))

def open? (s : ReaderState) : Option FieldGroup := s.current?.map (·.2)

/-- The second state has the group in the place of its namesake, or at the end, and open. -/
structure Writes (s : ReaderState) (g : FieldGroup) (s' : ReaderState) : Prop where
  consistent : s'.Consistent
  groups : s'.groups = upsert (·.name) g s.groups
  opened : s'.open? = some g

theorem consistent_start : start.Consistent :=
  ⟨.nil, by simp [start]⟩

theorem current?_eq_some_iff : s.current? = some (c, g) ↔
    s.current = some c ∧ s.groups[c.position]? = some g := by
  simp only [current?, Option.bind_eq_some_iff, Option.map_eq_some_iff, Prod.mk.injEq]
  constructor
  · rintro ⟨_, hc, _, hg, rfl, rfl⟩
    exact ⟨hc, hg⟩
  · rintro ⟨hc, hg⟩
    exact ⟨c, hc, g, hg, rfl, rfl⟩

theorem exists_enter (h : repeats = .refuse → s.headers.get? name = none) (line : Nat) :
    ∃ s', s.enter repeats name line = .ok s' := by
  cases hget : s.headers.get? name with
  | none => simp [enter, hget]
  | some first =>
    cases repeats with
    | replace => simp [enter, hget]
    | refuse => simp [hget] at h

theorem exists_declare (h : repeats = .refuse → c.seen.get? f.modelPath = none) (s : ReaderState)
    (g : FieldGroup) (line : Nat) : ∃ s', s.declare repeats c g f line = .ok s' := by
  cases hget : c.seen.get? f.modelPath with
  | none => simp [declare, hget]
  | some first =>
    cases repeats with
    | replace => simp [declare, hget]
    | refuse => simp [hget] at h

namespace Consistent

theorem write (h : s.Consistent) (hg : s.groups[c.position]? = some g) {fs : List Mapping}
    (hseen : Indexes c.seen (fs.map (·.modelPath))) :
    Writes s ⟨g.name, fs⟩
      { s with
        groups := s.groups.modify c.position fun g ↦ { g with mappings := fs }
        current := some c } := by
  have hname : (s.groups.map (·.name))[c.position]? = some g.name := by simp [hg]
  have hset : s.groups.modify c.position (fun g ↦ { g with mappings := fs }) =
      s.groups.set c.position ⟨g.name, fs⟩ := by
    simp [List.modify_eq_set_getElem?, hg]
  have hmem : g.name ∈ s.groups.map (·.name) := List.mem_of_getElem? hname
  have hgroups : s.groups.modify c.position (fun g ↦ { g with mappings := fs }) =
      upsert (·.name) ⟨g.name, fs⟩ s.groups := by
    rw [hset]
    exact set_eq_upsert h.headers.nodup hname
  have hnew : (s.groups.set c.position ⟨g.name, fs⟩)[c.position]? = some ⟨g.name, fs⟩ :=
    List.getElem?_set_self (List.getElem?_eq_some_iff.1 hg).1
  refine ⟨⟨?_, ?_⟩, hgroups, ?_⟩
  · simp only [hgroups, map_key_upsert, if_pos hmem]
    exact h.headers
  · rintro _ ⟨⟩
    exact ⟨_, hset ▸ hnew, hseen⟩
  · simp only [open?, current?, Option.bind_some, hset, hnew, Option.map_some]

theorem enter (h : s.Consistent) (he : s.enter repeats name line = .ok s') :
    Writes s ⟨name, []⟩ s' := by
  cases hget : s.headers.get? name with
  | none =>
    simp only [ReaderState.enter, hget, Except.ok.injEq] at he
    subst he
    have hnew : name ∉ s.groups.map (·.name) := h.headers.get?_eq_none_iff.1 hget
    refine ⟨⟨?_, ?_⟩, ?_, ?_⟩
    · simpa using h.headers.concat hget line
    · rintro _ ⟨⟩
      exact ⟨⟨name, []⟩, by simp, .nil⟩
    · rw [upsert, if_neg hnew]
    · simp [open?, current?]
  | some first =>
    cases repeats with
    | refuse => simp [ReaderState.enter, hget] at he
    | replace =>
      simp only [ReaderState.enter, hget, Except.ok.injEq] at he
      subst he
      have hname := h.headers.getElem? hget
      rw [List.getElem?_map] at hname
      obtain ⟨g, hg, rfl⟩ := Option.map_eq_some_iff.1 hname
      exact h.write (c := ⟨first.position, []⟩) hg .nil

theorem seen (h : s.Consistent) (hopen : s.current? = some (c, g)) :
    Indexes c.seen (g.mappings.map (·.modelPath)) := by
  obtain ⟨hc, hg⟩ := current?_eq_some_iff.1 hopen
  obtain ⟨g', hg', hseen⟩ := h.current c hc
  rw [hg] at hg'
  obtain rfl := Option.some.inj hg'
  exact hseen

/-- A mapping goes to the open group, in the place of the one with its model path. -/
theorem declare (h : s.Consistent) (hopen : s.current? = some (c, g))
    (hd : s.declare repeats c g f line = .ok s') :
    Writes s ⟨g.name, upsert (·.modelPath) f g.mappings⟩ s' := by
  obtain ⟨hc, hg⟩ := current?_eq_some_iff.1 hopen
  have hseen := h.seen hopen
  cases hget : c.seen.get? f.modelPath with
  | none =>
    simp only [ReaderState.declare, hget, Except.ok.injEq] at hd
    subst hd
    have hnew : f.modelPath ∉ g.mappings.map (·.modelPath) := hseen.get?_eq_none_iff.1 hget
    let seen := c.seen.insert f.modelPath ⟨g.mappings.length, line⟩
    have hmore : Indexes seen ((g.mappings ++ [f]).map (·.modelPath)) := by
      simpa using hseen.concat hget line
    rw [upsert, if_neg hnew]
    exact h.write (c := ⟨c.position, seen⟩) hg hmore
  | some first =>
    cases repeats with
    | refuse => simp [ReaderState.declare, hget] at hd
    | replace =>
      simp only [ReaderState.declare, hget, Except.ok.injEq] at hd
      subst hd
      have hpath := hseen.getElem? hget
      have hset : g.mappings.set first.position f = upsert (·.modelPath) f g.mappings :=
        set_eq_upsert hseen.nodup hpath
      rw [hset]
      have hpaths : Indexes c.seen ((upsert (·.modelPath) f g.mappings).map (·.modelPath)) := by
        rwa [map_key_upsert, if_pos (List.mem_of_getElem? hpath)]
      have hwrite := h.write hg hpaths
      rwa [← hc] at hwrite

end Consistent

end ReaderState

end Reshape.Schema
