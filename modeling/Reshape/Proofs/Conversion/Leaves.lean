import Reshape.Proofs.Conversion.Shape
import Reshape.Proofs.Record.LeafTexts

namespace Reshape

open DottedPath Record

namespace PathMap

variable {m : PathMap} {source : Record}

theorem keysOnce_convert_of_flat (hflat : source.FlatAt m.inputs) :
    (m.convert source).KeysOnce := by
  rw [convert_eq_assignAll]
  refine Value.kept_keysOnce.everywhere_assignAll Value.kept_keysOnce.everywhere_empty ?_
  intro e he
  obtain ⟨pair, hpair, rfl⟩ := List.mem_map.1 he
  have hleaf : (valueOf source pair.2).isLeaf :=
    isLeaf_valueOf hflat pair.2 (List.mem_map_of_mem hpair)
  exact Value.keysOnce_of_isLeaf hleaf

theorem paths_leaves_convert_perm (hm : m.Distinct) (hsep : Separate m.outputs)
    (hflat : source.FlatAt m.inputs) :
    ((m.convert source).leaves.map (·.1)).Perm (m.outputs.map DottedPath.ofText) := by
  have hkeys := keysOnce_convert_of_flat hflat
  have houtputs : (m.outputs.map DottedPath.ofText).Nodup := List.Nodup.map ofText_injective hm
  rw [List.perm_ext_iff_of_nodup (nodup_leaves hkeys) houtputs]
  intro p
  rw [mem_paths_leaves_iff hkeys, leafAt_convert_iff hm hsep hflat, List.mem_map]
  exact exists_congr fun output ↦ and_congr_right fun _ ↦ segments_injective.eq_iff

theorem leafTexts_convert_perm (hm : m.Distinct) (hsep : Separate m.outputs)
    (hflat : source.FlatAt m.inputs) :
    (m.convert source).leafTexts.Perm (m.outputs.map afterDots) := by
  have hperm := (paths_leaves_convert_perm hm hsep hflat).map (lengthen "" ·.segments)
  have houtput : ∀ output, lengthen "" (DottedPath.ofText output).segments = afterDots output := by
    intro output
    rw [lengthen_segments (undotted_segmentsOf output), text_ofText]
  rw [List.map_map, List.map_map] at hperm
  rw [leafTexts_eq_map_lengthen]
  simpa [Function.comp_def, houtput] using hperm

/-- The texts of the leaves of a conversion are its outputs without the dots that they begin with.
So they are the outputs exactly if none begins with a dot. -/
theorem leafTexts_convert_perm_iff (m : PathMap) (hm : m.Distinct) (hsep : Separate m.outputs)
    (source : Record) (hflat : source.FlatAt m.inputs) :
    (m.convert source).leafTexts.Perm (m.outputs.map afterDots) ∧
    ((m.convert source).leafTexts.Perm m.outputs ↔
      ∀ output ∈ m.outputs, output.toList.head? ≠ some '.') := by
  have hperm := leafTexts_convert_perm hm hsep hflat
  refine ⟨hperm, fun h output houtput ↦ ?_, fun h ↦ ?_⟩
  · have hmem : output ∈ m.outputs.map afterDots := (hperm.symm.trans h).mem_iff.2 houtput
    obtain ⟨other, -, rfl⟩ := List.mem_map.1 hmem
    exact head?_afterDots other
  · have hsame : m.outputs.map afterDots = m.outputs := by
      rw [List.map_congr_left fun output houtput ↦ afterDots_of_head (h output houtput),
        List.map_id']
    rwa [hsame] at hperm

/-- Empty segments further on in a path are kept, and so is the empty text alone. -/
theorem leafTexts_convert_perm_iff_inner :
    let m : PathMap := [("a..b", "x"), ("", "y.z"), ("a...", "w"), ("c", "y.v")]
    let source : Record := [("x", .null), ("y", .record [("z", .record []), ("v", .boolean true)])]
    m.Distinct ∧ Separate m.outputs ∧ source.FlatAt m.inputs ∧
      (m.convert source).leafTexts.Perm m.outputs := by
  intro m source
  have hm : m.Distinct ∧ Separate m.outputs ∧ source.FlatAt m.inputs := by decide
  have hiff := (leafTexts_convert_perm_iff m hm.1 hm.2.1 source hm.2.2).2
  exact ⟨hm.1, hm.2.1, hm.2.2, hiff.2 (by decide)⟩

/-- The empty segment that `.a` begins with is lost, so that two leaves go by one text. -/
theorem leafTexts_convert_leading_dot :
    let m : PathMap := [("a", "x"), (".a", "x")]
    let source : Record := [("x", .null)]
    m.Distinct ∧ Separate m.outputs ∧ source.FlatAt m.inputs ∧
      (m.convert source).leafTexts = ["a", "a"] ∧
      ¬ (m.convert source).leafTexts.Perm m.outputs := by
  intro m source
  have htexts : (m.convert source).leafTexts = ["a", "a"] := by decide
  refine ⟨by decide, by decide, by decide, htexts, ?_⟩
  rw [htexts]
  decide

end PathMap

def Value.undotted : Value → Bool
  | .record fields => fields.all fun e ↦ '.' ∉ e.1.toList
  | _ => true

theorem Value.undotted_of_at? {v x : Value} {path : List String} (hv : v.everywhere undotted)
    (h : v.at? path = some x) : DottedPath.Undotted path := by
  induction path generalizing v with
  | nil => simp [DottedPath.Undotted]
  | cons key rest ih =>
    cases v with
    | record fields =>
      obtain ⟨hkeys, hall⟩ := everywhere_record.1 hv
      rw [at?_record, Record.at?_cons] at h
      obtain ⟨w, hget, hw⟩ := Option.bind_eq_some_iff.1 h
      have hmem : (key, w) ∈ fields := Keyed.mem_of_get? hget
      have hkey : '.' ∉ key.toList := by
        have hkeys := List.all_eq_true.1 hkeys _ hmem
        simpa using hkeys
      exact List.forall_mem_cons.2 ⟨hkey, ih (hall _ hmem) hw⟩
    | _ => cases h

namespace Record

variable {r : Record}

def Undotted (r : Record) : Prop := (Value.record r).everywhere Value.undotted

instance (r : Record) : Decidable r.Undotted :=
  inferInstanceAs (Decidable ((Value.record r).everywhere Value.undotted = true))

def entriesAt (r : Record) (texts : List String) : List (DottedPath × Value) :=
  texts.filterMap fun text ↦ (r.at? (segmentsOf text)).map (DottedPath.ofText text, ·)

section

variable (hr : r.KeysOnce) (hdots : r.Undotted) (htop : "" ∉ Keyed.keys r)

include hr hdots

theorem ofText_text_of_mem_leaves : ∀ l ∈ r.leaves, DottedPath.ofText l.1.text = l.1 := by
  intro l hl
  have hat : (Value.record r).at? l.1.segments = some l.2 := by
    rw [Value.at?_record]
    exact ((mem_leaves_iff hr).1 hl).1
  exact ofText_text (Value.undotted_of_at? hdots hat)

include htop

theorem leafTexts_map_ofText : r.leafTexts.map DottedPath.ofText = r.leaves.map (·.1) := by
  rw [leafTexts_eq_map_text htop, List.map_map]
  exact List.map_congr_left (ofText_text_of_mem_leaves hr hdots)

theorem nodup_leafTexts : r.leafTexts.Nodup := by
  have hnodup := nodup_leaves hr
  rw [← leafTexts_map_ofText hr hdots htop] at hnodup
  exact hnodup.of_map DottedPath.ofText

theorem at?_of_mem_leafTexts {text : String} (h : text ∈ r.leafTexts) :
    ∃ v, r.at? (segmentsOf text) = some v ∧ v.isLeaf := by
  have hmem : DottedPath.ofText text ∈ r.leaves.map (·.1) := by
    rw [← leafTexts_map_ofText hr hdots htop]
    exact List.mem_map_of_mem h
  exact ((mem_paths_leaves_iff hr).1 hmem).2

theorem entriesAt_leafTexts : r.entriesAt r.leafTexts = r.leaves := by
  rw [entriesAt, leafTexts_eq_map_text htop, List.filterMap_map]
  refine (List.filterMap_congr fun l hl ↦ ?_).trans List.filterMap_some
  have hl' : DottedPath.ofText l.1.text = l.1 := ofText_text_of_mem_leaves hr hdots l hl
  simp [segmentsOf, hl', ((mem_leaves_iff hr).1 hl).1]

theorem writes_leafTexts :
    PathMap.writes r (r.leafTexts.map fun text ↦ (text, text)) = r.leaves := by
  rw [PathMap.writes, leafTexts_eq_map_text htop, List.map_map, List.map_map]
  refine (List.map_congr_left fun l hl ↦ ?_).trans (List.map_id r.leaves)
  have hl' : DottedPath.ofText l.1.text = l.1 := ofText_text_of_mem_leaves hr hdots l hl
  simp [PathMap.valueOf, hl', ((mem_leaves_iff hr).1 hl).1]

end

/-- The texts of its leaves take a record apart without loss: each leads to one leaf, and what they
lead to, put into an empty draft in their order, makes up the record again. -/
theorem leafTexts_complete (r : Record) (hr : r.KeysOnce) (hdots : r.Undotted)
    (htop : "" ∉ Keyed.keys r) :
    r.leafTexts.Nodup ∧
    (∀ text ∈ r.leafTexts, ∃ v, r.at? (segmentsOf text) = some v ∧ v.isLeaf) ∧
    Draft.finish ((r.entriesAt r.leafTexts).foldl (fun d e ↦ d.put e.1 e.2) []) = r ∧
    PathMap.convert (Keyed.ofList (r.leafTexts.map fun text ↦ (text, text))) r = r := by
  have hnodup := nodup_leafTexts hr hdots htop
  have hdistinct : Keyed.Distinct (r.leafTexts.map fun text ↦ (text, text)) := by
    simpa [Keyed.Distinct, Keyed.keys, Function.comp_def] using hnodup
  refine ⟨hnodup, fun text ↦ at?_of_mem_leafTexts hr hdots htop, ?_, ?_⟩
  · rw [Draft.finish_putAll, entriesAt_leafTexts hr hdots htop]
    exact assignAll_leaves hr
  · rw [Keyed.ofList_of_distinct hdistinct, PathMap.convert_eq_assignAll,
      writes_leafTexts hr hdots htop]
    exact assignAll_leaves hr

/-- Keys of which one begins another, an empty key further down, and an empty record. -/
theorem leafTexts_complete_nested :
    let r : Record := [("ab", .null), ("a", .record [("", .record []), ("b", .record
      [("", .integer 1), ("a", .string "a.b")])]), ("a ", .boolean false)]
    r.KeysOnce ∧ r.Undotted ∧ "" ∉ Keyed.keys r ∧
      r.leafTexts = ["ab", "a.", "a.b.", "a.b.a", "a "] ∧
      PathMap.convert (Keyed.ofList (r.leafTexts.map fun text ↦ (text, text))) r = r := by
  intro r
  have hr : r.KeysOnce ∧ r.Undotted ∧ "" ∉ Keyed.keys r := by decide
  exact ⟨hr.1, hr.2.1, hr.2.2, by decide, (leafTexts_complete r hr.1 hr.2.1 hr.2.2).2.2.2⟩

end Record

end Reshape
