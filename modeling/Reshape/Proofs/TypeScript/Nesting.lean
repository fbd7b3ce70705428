import Reshape.Proofs.TypeScript.Levels

namespace Reshape

open DottedPath

namespace TypeScript

/-- The block that the first dot of a path leads into, and the field from there on. -/
def stepIn? (f : TypedPath) : Option (String × TypedPath) :=
  (cut? f.path).map fun (left, right) ↦ (left, ⟨right, f.type⟩)

def fieldsIn (key : String) (fields : List TypedPath) : List TypedPath :=
  ((fields.filterMap stepIn?).filter (·.1 = key)).map (·.2)

namespace Block

@[simp] theorem members_node (members : List (String × String)) (blocks : List (String × Block)) :
    (node members blocks).members = members := rfl

theorem node_members_blocks (b : Block) : .node b.members b.blocks = b := by cases b; rfl

theorem members_ofFields (fields : List TypedPath) : (ofFields fields).members =
    (fields.filter fun f ↦ (cut? f.path).isNone).map fun f ↦ (f.path, f.type) := by
  induction fields using List.reverseRecOn with
  | nil => rfl
  | append_singleton fields f ih =>
    rw [ofFields_concat]
    rcases cut?_cases f.path with ⟨hnone, hp⟩ | ⟨head, next, rest, hsome, hp⟩
    · simp [hp, hnone, declare, ih]
    · simp [hp, hsome, declare, ih]

theorem keys_ofFields (fields : List TypedPath) : Keyed.keys (ofFields fields).blocks =
    ((fields.filterMap stepIn?).map (·.1)).eraseDups := by
  refine (keys_inside_ofFields fields []).trans ?_
  rw [List.map_filterMap]
  congr 2
  funext f
  rcases cut?_cases f.path with ⟨hnone, hp⟩ | ⟨head, next, rest, hsome, hp⟩
  · simp [segmentsOf, segments, stepIn?, hp, hnone, stepAfter?]
  · simp [segmentsOf, segments, stepIn?, hp, hsome]

/-- What is declared in a block is what the fields that lie in it declare from there on. -/
theorem inside_ofFields (key : String) (fields : List TypedPath) :
    (ofFields fields).inside [key] = ofFields (fieldsIn key fields) := by
  induction fields using List.reverseRecOn with
  | nil => exact inside_empty [key]
  | append_singleton fields f ih =>
    rw [ofFields_concat]
    rcases cut?_cases f.path with ⟨hnone, hp⟩ | ⟨head, next, rest, hsome, hp⟩
    · have hflat : ¬ Below [f.path] [key] := fun h ↦ absurd h.1 (by simpa using h.2)
      simp only [hp]
      rw [inside_declare_of_not_below _ f.path f.type [] hflat, ih]
      simp [fieldsIn, stepIn?, hnone]
    · -- The block takes the other steps as they are, and in the text they are cut once more.
      have htail : ofText (text ⟨next, rest⟩) = ⟨next, rest⟩ :=
        ofText_text_of_mem_tails (s := f.path) (by rw [hp]; exact List.mem_cons_self)
      simp only [hp]
      by_cases hk : head = key
      · subst hk
        have hnested := inside_declare_append (ofFields fields) [head] f.type
          (rfl : head :: next :: rest = [head] ++ next :: rest)
        rw [hnested, ih]
        simp [fieldsIn, stepIn?, hsome, ofFields_concat, htail]
      · have hother : ¬ Below (head :: next :: rest) [key] :=
          fun h ↦ hk (List.cons_prefix_cons.1 h.1).1.symm
        rw [inside_declare_of_not_below _ head f.type _ hother, ih]
        simp [fieldsIn, stepIn?, hsome, hk]

/-- An interface could as well be put together from texts, each of them cut at its first dot. -/
theorem ofFields_eq_node (fields : List TypedPath) : ofFields fields =
    .node ((fields.filter fun f ↦ (cut? f.path).isNone).map fun f ↦ (f.path, f.type))
      (((fields.filterMap stepIn?).map (·.1)).eraseDups.map fun key ↦
        (key, ofFields (fieldsIn key fields))) := by
  have hinner (key : String) : ((ofFields fields).blocks.get? key).getD empty =
      ofFields (fieldsIn key fields) := inside_ofFields key fields
  have hblocks := (merged_ofFields fields).distinct.eq_map_keys empty
  simp only [hinner, keys_ofFields] at hblocks
  rw [← members_ofFields, ← hblocks, node_members_blocks]

end Block

end TypeScript

namespace DottedPath

open TypeScript

/-- Texts and lists of steps stand for one another: every text is cut at all of its dots, and any
steps but none, as long as no dot is in them, are those of the text that they are joined to. The
head of a path and the text of its tail are what the first dot of its text stands between, so the
blocks of an interface come out alike from paths and from texts that are cut there. -/
theorem ofText_bijection :
    Set.BijOn segmentsOf Set.univ {steps | steps ≠ [] ∧ Undotted steps} ∧
    (∀ p : DottedPath, ofText p.text = p ↔ Undotted p.segments) ∧
    (∀ s, (ofText s).text = s ∧ (ofText s).length = s.toList.count '.' + 1 ∧
      ∀ tail ∈ (ofText s).tails, ofText tail.text = tail) ∧
    (∀ p : DottedPath, p.isDotted → ∃ tail, p.tails.head? = some tail ∧
      p.segments = p.head :: tail.segments ∧ p.text = p.head ++ "." ++ tail.text) ∧
    (∀ s, cut? s = (ofText s).tails.head?.map fun tail ↦ ((ofText s).head, tail.text)) ∧
    ∀ fields, Block.ofFields fields =
      .node ((fields.filter fun f ↦ (cut? f.path).isNone).map fun f ↦ (f.path, f.type))
        (((fields.filterMap stepIn?).map (·.1)).eraseDups.map fun key ↦
          (key, Block.ofFields (fieldsIn key fields))) :=
  ⟨bijOn_segmentsOf, fun _ ↦ ofText_text_iff,
    fun s ↦ ⟨text_ofText s, length_ofText s, fun _ ↦ ofText_text_of_mem_tails⟩,
    fun _ ↦ exists_tail, cut?_eq, Block.ofFields_eq_node⟩

/-- Dots at both ends and next to one another. -/
theorem ofText_bijection_outer_dots :
    let p : DottedPath := ⟨"", ["a", "", "b", ""]⟩
    (p.segments ≠ [] ∧ Undotted p.segments ∧ ∃ s, segmentsOf s = p.segments) ∧
      (p.isDotted ∧ ∃ tail, p.tails.head? = some tail ∧ p.segments = p.head :: tail.segments ∧
        p.text = p.head ++ "." ++ tail.text) ∧
      ⟨"b", [""]⟩ ∈ (ofText ".a..b.").tails ∧ ofText (text ⟨"b", [""]⟩) = ⟨"b", [""]⟩ := by
  intro p
  obtain ⟨⟨-, -, hsurj⟩, -, htexts, hdotted, -⟩ := ofText_bijection
  have hsteps : p.segments ≠ [] ∧ Undotted p.segments := by decide
  obtain ⟨s, -, hs⟩ := hsurj hsteps
  have hmem : ⟨"b", [""]⟩ ∈ (ofText ".a..b.").tails := by decide
  exact ⟨⟨hsteps.1, hsteps.2, s, hs⟩, ⟨rfl, hdotted p rfl⟩, hmem, (htexts ".a..b.").2.2 _ hmem⟩

end DottedPath

end Reshape
