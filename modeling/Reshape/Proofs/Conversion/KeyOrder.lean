import Reshape.Proofs.Conversion.Outputs
import Reshape.Proofs.Latest

namespace Reshape

open DottedPath

namespace Record

def keysAt (r : Record) (path : List String) : List String := Keyed.keys (nested (r.at? path))

variable {r : Record} {path : List String}

theorem nested_at?_nested (o : Option Value) (path : List String) :
    nested ((nested o).at? path) = nested (o.bind (·.at? path)) := by
  by_cases hpath : path = []
  · subst hpath
    cases o <;> rfl
  · rw [at?_nested o hpath]

theorem exists_record_of_mem_keysAt {key : String} (h : key ∈ r.keysAt path) :
    ∃ fields, r.at? path = some (.record fields) := by
  unfold keysAt at h
  cases hat : r.at? path with
  | none => simp [hat, nested, Keyed.keys] at h
  | some v =>
    cases v with
    | record fields => exact ⟨fields, rfl⟩
    | _ => simp [hat, nested, Keyed.keys] at h

/-- An assignment adds one key at most to a record that its path leads through, at the end. -/
theorem keysAt_assign (r : Record) (key : String) (v : Value) (rest : List String)
    (h : ¬ key :: rest <+: path) :
    (r.assign key v rest).keysAt path = addKey (r.keysAt path) (stepAfter? path (key :: rest)) := by
  induction path generalizing r key rest with
  | nil =>
    have hkeys : ∀ value, Keyed.keys (r.insert key value) = addKey (Keyed.keys r) (some key) :=
      fun value ↦ Keyed.keys_insert key value r
    rw [stepAfter?_nil]
    cases rest with
    | nil => exact hkeys _
    | cons next rest => exact hkeys _
  | cons k path ih =>
    by_cases hk : k = key
    · subst hk
      cases rest with
      | nil => exact absurd (by simp) h
      | cons next rest =>
        have hnext : ¬ next :: rest <+: path := by simpa using h
        have hinner := ih (nested (r.get? k)) next rest hnext
        have hold : keysAt (nested (r.get? k)) path = r.keysAt (k :: path) := by
          rw [keysAt, keysAt, at?_cons, nested_at?_nested]
        have hnew : (r.assign k v (next :: rest)).keysAt (k :: path) =
            (assign (nested (r.get? k)) next v rest).keysAt path := by
          rw [keysAt, keysAt, at?_cons, get?_assign_self, Option.bind_some, Value.at?_record]
        rw [hnew, hinner, hold, stepAfter?_cons_self]
    · rw [keysAt, keysAt, at?_cons, at?_cons, get?_assign_of_ne _ _ _ _ hk,
        stepAfter?_cons_of_ne hk]
      rfl

theorem keysAt_assignAll {puts : List (DottedPath × Value)}
    (h : ∀ e ∈ puts, ¬ e.1.segments <+: path) : (assignAll [] puts).keysAt path =
      (puts.filterMap fun e ↦ stepAfter? path e.1.segments).eraseDups := by
  induction puts using List.reverseRecOn with
  | nil =>
    by_cases hpath : path = []
    · rw [hpath]
      rfl
    · simp [keysAt, assignAll, at?_empty hpath, nested, Keyed.keys]
  | append_singleton puts e ih =>
    simp only [List.forall_mem_append, List.forall_mem_singleton] at h
    have hstep : assignAll [] (puts ++ [e]) =
        (assignAll [] puts).assign e.1.head e.2 e.1.rest := assignAll_append _ _ _
    rw [hstep, keysAt_assign _ _ _ _ h.2, ih h.1, eraseDups_filterMap_concat]
    rfl

end Record

namespace PathMap

variable {m : PathMap} {path : List String}

theorem not_prefix_of_below (hsep : Separate m.outputs)
    (hpath : path = [] ∨ ∃ output ∈ m.outputs, Below (segmentsOf output) path) :
    ∀ output ∈ m.outputs, ¬ segmentsOf output <+: path := by
  intro output houtput hprefix
  rcases hpath with rfl | ⟨other, hother, hbelow⟩
  · simp [segmentsOf, segments] at hprefix
  · have hthrough : segmentsOf output <+: segmentsOf other := hprefix.trans hbelow.1
    by_cases hsame : output = other
    · exact hbelow.not_prefix (hsame ▸ hprefix)
    · exact (hsep output houtput other hother hsame).1 hthrough

theorem keysAt_convert (source : Record) (h : ∀ output ∈ m.outputs, ¬ segmentsOf output <+: path) :
    (m.convert source).keysAt path =
      (m.outputs.filterMap (stepAfter? path <| segmentsOf ·)).eraseDups := by
  have hputs : ∀ e ∈ writes source m, ¬ e.1.segments <+: path := by
    intro e he
    obtain ⟨pair, hpair, rfl⟩ := List.mem_map.1 he
    exact h pair.1 (List.mem_map_of_mem hpair)
  rw [convert_eq_assignAll, Record.keysAt_assignAll hputs, writes, List.filterMap_map, outputs,
    Keyed.keys, List.filterMap_map]
  rfl

/-- The keys of a record that a conversion makes are the steps that the outputs take there, in the
order of their first appearance in the map. -/
theorem keys_convert_eq_steps (m : PathMap) (hsep : Separate m.outputs) (source : Record)
    (path : List String)
    (hpath : path = [] ∨ ∃ output ∈ m.outputs, Below (segmentsOf output) path) :
    ∃ fields, (m.convert source).at? path = some (.record fields) ∧
      Keyed.keys fields = (m.outputs.filterMap (stepAfter? path <| segmentsOf ·)).eraseDups := by
  have hkeys := keysAt_convert source (not_prefix_of_below hsep hpath)
  have hrecord : ∃ fields, (m.convert source).at? path = some (.record fields) := by
    rcases hpath with rfl | ⟨output, houtput, hbelow⟩
    · exact ⟨_, rfl⟩
    · obtain ⟨step, rest, happend⟩ := hbelow.exists_eq_append
      have hmem : step ∈ m.outputs.filterMap (stepAfter? path <| segmentsOf ·) := by
        refine List.mem_filterMap.2 ⟨output, houtput, ?_⟩
        rw [happend, stepAfter?_append]
      rw [← List.mem_eraseDups, ← hkeys] at hmem
      exact Record.exists_record_of_mem_keysAt hmem
  obtain ⟨fields, hat⟩ := hrecord
  refine ⟨fields, hat, ?_⟩
  rw [← hkeys, Record.keysAt, hat, Record.nested]

/-- Outputs into one record with others between them, and a value that is itself a record. -/
theorem keys_convert_eq_steps_scattered :
    let m : PathMap := [("n.y", "b"), ("a", "x"), ("n.x.k", "c"), ("n.", "b"), ("n.x.j", "x")]
    let source : Record := [("b", .record [("z", .null)]), ("c", .boolean true)]
    Separate m.outputs ∧ Below (segmentsOf "n.x.k") ["n"] ∧
      (∃ fields, (m.convert source).at? [] = some (.record fields) ∧
        Keyed.keys fields = ["n", "a"]) ∧
      ∃ fields, (m.convert source).at? ["n"] = some (.record fields) ∧
        Keyed.keys fields = ["y", "x", ""] := by
  intro m source
  have hsep : Separate m.outputs := by decide
  have hbelow : Below (segmentsOf "n.x.k") ["n"] := by decide
  exact ⟨hsep, hbelow, keys_convert_eq_steps m hsep source [] (.inl rfl),
    keys_convert_eq_steps m hsep source ["n"] (.inr ⟨"n.x.k", by decide, hbelow⟩)⟩

end PathMap

end Reshape
