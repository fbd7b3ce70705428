import Reshape.Proofs.Conversion.PairOrder

namespace Reshape.PathMap

/-- A way from one map to the next. The last three build it anew. -/
inductive Edit where
  | put (output input : String)
  | extend (pairs : List (String × String))
  | collect (pairs : List (String × String))
  | ofGroup (g : FieldGroup)
  | invert

/-- A map with the pairs that it was given since it was last built, in their order. -/
structure Ledger where
  map : PathMap
  given : List (String × String)

namespace Ledger

def empty : Ledger := ⟨[], []⟩

def edit (l : Ledger) : Edit → Ledger
  | .put output input => ⟨(l.map.put output input).2, l.given ++ [(output, input)]⟩
  | .extend pairs => ⟨l.map.insertAll pairs, l.given ++ pairs⟩
  | .collect pairs => ⟨Keyed.ofList pairs, pairs⟩
  | .ofGroup g => ⟨.ofGroup g, g.pairs⟩
  | .invert => ⟨l.map.inverse, l.map.map fun (output, input) ↦ (input, output)⟩

def edited (edits : List Edit) : Ledger := edits.foldl edit empty

def lastGiven (l : Ledger) (output : String) : Option String :=
  ((l.given.filter (·.1 = output)).map (·.2)).getLast?

variable {l : Ledger}

/-- Whatever an edit does, the map could as well be built from what it was given. -/
theorem map_edit (h : l.map = Keyed.ofList l.given) (e : Edit) :
    (l.edit e).map = Keyed.ofList (l.edit e).given := by
  cases e with
  | put output input =>
    simp only [edit, PathMap.put]
    rw [Keyed.ofList_concat, h]
  | extend pairs =>
    simp only [edit]
    rw [h, Keyed.ofList, Keyed.ofList, Keyed.insertAll, Keyed.insertAll, Keyed.insertAll,
      List.foldl_append]
  | collect pairs => rfl
  | ofGroup g => rfl
  | invert => rfl

theorem map_edited (edits : List Edit) :
    (edited edits).map = Keyed.ofList (edited edits).given := by
  induction edits using List.reverseRecOn with
  | nil => rfl
  | append_singleton edits e ih =>
    rw [edited, List.foldl_concat]
    exact map_edit ih e

theorem distinct_edited (edits : List Edit) : (edited edits).map.Distinct := by
  rw [map_edited]
  exact Keyed.distinct_ofList _

theorem outputs_edited (edits : List Edit) :
    (edited edits).map.outputs = ((edited edits).given.map (·.1)).eraseDups := by
  rw [map_edited]
  exact Keyed.keys_ofList _

theorem get?_edited (edits : List Edit) (output : String) :
    (edited edits).map.get? output = (edited edits).lastGiven output := by
  rw [map_edited]
  exact Keyed.get?_ofList _ _

end Ledger

theorem same_iff_mem {a b : PathMap} (ha : a.Distinct) (hb : b.Distinct) :
    a.same b ↔ ∀ pair, pair ∈ a ↔ pair ∈ b := by
  rw [same_iff_perm ha hb]
  exact List.perm_ext_iff_of_nodup (.of_map Prod.fst ha) (.of_map Prod.fst hb)

/-- However a map is made, it has every output that it was given since it was last built once, where
it was given first and with the input that was given last, which is also what the next one replaces.
So equality, which looks for the pairs of one map in the other, is that of the sets of pairs. -/
theorem edited_laws :
    (∀ edits : List Edit,
      let l := Ledger.edited edits
      l.map.Distinct ∧ l.map.outputs = (l.given.map (·.1)).eraseDups ∧
        (∀ output, l.map.get? output = l.lastGiven output) ∧
        ∀ output input, (l.map.put output input).1 = l.lastGiven output) ∧
    (∀ edits edits' : List Edit,
      let a := (Ledger.edited edits).map
      let b := (Ledger.edited edits').map
      a.same b ↔ ∀ pair, pair ∈ a ↔ pair ∈ b) ∧
    Equivalence fun a b : {m : PathMap // ∃ edits, m = (Ledger.edited edits).map} ↦
      (a.1.same b.1 : Prop) := by
  have hdistinct : ∀ a : {m : PathMap // ∃ edits, m = (Ledger.edited edits).map},
      a.1.Distinct := by
    rintro ⟨_, edits, rfl⟩
    exact Ledger.distinct_edited edits
  refine ⟨fun edits ↦ ⟨Ledger.distinct_edited edits, Ledger.outputs_edited edits,
    Ledger.get?_edited edits, fun output _ ↦ Ledger.get?_edited edits output⟩, ?_, ?_⟩
  · intro edits edits'
    exact same_iff_mem (Ledger.distinct_edited edits) (Ledger.distinct_edited edits')
  · simp only [same_iff_perm (hdistinct _) (hdistinct _)]
    exact ⟨fun a ↦ .refl a.1, fun h ↦ h.symm, fun h h' ↦ h.trans h'⟩

/-- Among lists that no edits make, the same test is not even symmetric. -/
example : same [("a", "x"), ("a", "x")] [("a", "x"), ("b", "y")] ∧
    ¬ same [("a", "x"), ("b", "y")] [("a", "x"), ("a", "x")] := by decide

end Reshape.PathMap
