import Mathlib.Data.List.Induction
import Reshape.Proofs.TypeScript.Interface

namespace Reshape.TypeScript

open DottedPath

def Declaration.typed? : Declaration → Option (List String × String)
  | .member path type => some (path, type)
  | .block _ => none

@[simp] theorem Declaration.typed?_member (path : List String) (type : String) :
    (member path type).typed? = some (path, type) := rfl

@[simp] theorem Declaration.typed?_block (path : List String) : (block path).typed? = none := rfl

theorem mem_typed_iff {ds : List Declaration} {path : List String} {type : String} :
    (path, type) ∈ ds.filterMap Declaration.typed? ↔ .member path type ∈ ds := by
  rw [List.mem_filterMap]
  constructor
  · rintro ⟨d, hd, htyped⟩
    cases d with
    | member path' type' =>
      obtain ⟨rfl, rfl⟩ : path' = path ∧ type' = type := by simpa using htyped
      exact hd
    | block path' => simp at htyped
  · exact fun h ↦ ⟨_, h, rfl⟩

namespace Block

variable {inner : Block} {blocks : List (String × Block)} {path q : List String}
  {key type : String}

theorem declare_nil (members : List (String × String)) (blocks : List (String × Block))
    (key type : String) : (node members blocks).declare key type [] =
      .node (members ++ [(key, type)]) blocks := rfl

theorem declare_cons (members : List (String × String)) (blocks : List (String × Block))
    (key type next : String) (rest : List String) :
    (node members blocks).declare key type (next :: rest) = .node members (Keyed.insert key
      (((Keyed.get? key blocks).getD empty).declare next type rest) blocks) := rfl

def typed (path : List String) (b : Block) : List (List String × String) :=
  (b.declarations path).filterMap Declaration.typed?

theorem typed_node (path : List String) (members : List (String × String))
    (blocks : List (String × Block)) : typed path (.node members blocks) =
      members.map (fun (key, type) ↦ (path ++ [key], type)) ++
        (blockDeclarations path blocks).filterMap Declaration.typed? := by
  simp [typed, declarations, List.filterMap_map, Function.comp_def]

theorem typed_blocks_cons (path : List String) (key : String) (b : Block)
    (blocks : List (String × Block)) :
    (blockDeclarations path ((key, b) :: blocks)).filterMap Declaration.typed? =
      typed (path ++ [key]) b ++ (blockDeclarations path blocks).filterMap Declaration.typed? := by
  simp [typed, blockDeclarations, List.filterMap_cons]

/-- A block with one member more, put in at its key, makes for one member more. -/
theorem typed_insert_perm {member : List String × String}
    (h : (typed (path ++ [key]) inner).Perm
      (typed (path ++ [key]) ((Keyed.get? key blocks).getD empty) ++ [member])) :
    ((blockDeclarations path (Keyed.insert key inner blocks)).filterMap Declaration.typed?).Perm
      ((blockDeclarations path blocks).filterMap Declaration.typed? ++ [member]) := by
  induction blocks with
  | nil =>
    rw [Keyed.insert, typed_blocks_cons]
    simpa [Keyed.get?, blockDeclarations, typed, empty, declarations] using h
  | cons e blocks ih =>
    obtain ⟨k, b⟩ := e
    by_cases hk : k = key
    · subst hk
      simp only [Keyed.get?, if_true, Option.getD_some] at h
      rw [Keyed.insert, if_pos rfl, typed_blocks_cons, typed_blocks_cons]
      refine (h.append_right _).trans ?_
      rw [List.append_assoc, List.append_assoc]
      exact List.perm_append_comm.append_left _
    · simp only [Keyed.get?, if_neg hk] at h
      rw [Keyed.insert, if_neg hk, typed_blocks_cons, typed_blocks_cons, List.append_assoc]
      exact (ih h).append_left _

theorem typed_declare_perm (b : Block) (path : List String) (key type : String)
    (rest : List String) : (typed path (b.declare key type rest)).Perm
      (typed path b ++ [(path ++ key :: rest, type)]) := by
  induction rest generalizing b path key with
  | nil =>
    cases b with
    | node members blocks =>
      rw [declare_nil, typed_node, typed_node, List.map_append, List.append_assoc,
        List.append_assoc]
      exact List.perm_append_comm.append_left _
  | cons next rest ih =>
    cases b with
    | node members blocks =>
      have hinner := ih ((Keyed.get? key blocks).getD empty) (path ++ [key]) next
      rw [List.append_assoc, List.singleton_append] at hinner
      rw [declare_cons, typed_node, typed_node, List.append_assoc]
      exact (typed_insert_perm hinner).append_left _

/-- The members of an interface are its fields, whatever order the blocks bring them into. -/
theorem typed_ofFields_perm (fields : List TypedPath) :
    (typed [] (ofFields fields)).Perm (fields.map fun f ↦ (segmentsOf f.path, f.type)) := by
  induction fields using List.reverseRecOn with
  | nil => simp [ofFields, typed, empty, declarations, blockDeclarations]
  | append_singleton fields f ih =>
    rw [ofFields_concat, List.map_append]
    exact (typed_declare_perm _ _ _ _ _).trans (ih.append_right _)

theorem member_mem_ofFields {fields : List TypedPath} :
    (∃ type, .member q type ∈ (ofFields fields).declarations []) ↔
      ∃ f ∈ fields, segmentsOf f.path = q := by
  have hmem (type : String) : .member q type ∈ (ofFields fields).declarations [] ↔
      ∃ f ∈ fields, segmentsOf f.path = q ∧ f.type = type := by
    rw [← mem_typed_iff, ← typed, (typed_ofFields_perm fields).mem_iff]
    simp
  simp only [hmem]
  exact ⟨fun ⟨_, f, hf, hq, _⟩ ↦ ⟨f, hf, hq⟩, fun ⟨f, hf, hq⟩ ↦ ⟨f.type, f, hf, hq, rfl⟩⟩

theorem block_mem_node {members : List (String × String)} :
    .block q ∈ declarations path (.node members blocks) ↔
      .block q ∈ blockDeclarations path blocks := by
  simp [declarations]

theorem block_mem_blocks_cons {b : Block} :
    .block q ∈ blockDeclarations path ((key, b) :: blocks) ↔
      q = path ++ [key] ∨ .block q ∈ declarations (path ++ [key]) b ∨
        .block q ∈ blockDeclarations path blocks := by
  simp [blockDeclarations]

theorem block_mem_insert
    (h : .block q ∈ declarations (path ++ [key]) ((Keyed.get? key blocks).getD empty) →
      .block q ∈ declarations (path ++ [key]) inner) :
    .block q ∈ blockDeclarations path (Keyed.insert key inner blocks) ↔
      .block q ∈ blockDeclarations path blocks ∨ q = path ++ [key] ∨
        .block q ∈ declarations (path ++ [key]) inner := by
  induction blocks with
  | nil => simp [Keyed.insert, blockDeclarations]
  | cons e blocks ih =>
    obtain ⟨k, b⟩ := e
    by_cases hk : k = key
    · subst hk
      simp only [Keyed.get?, if_true, Option.getD_some] at h
      rw [Keyed.insert, if_pos rfl, block_mem_blocks_cons, block_mem_blocks_cons]
      grind
    · simp only [Keyed.get?, if_neg hk] at h
      rw [Keyed.insert, if_neg hk, block_mem_blocks_cons, block_mem_blocks_cons, ih h]
      grind

theorem block_mem_blocks_of_get? {b : Block} (hget : Keyed.get? key blocks = some b)
    (h : .block q ∈ b.declarations (path ++ [key])) : .block q ∈ blockDeclarations path blocks := by
  induction blocks with
  | nil => simp [Keyed.get?] at hget
  | cons e blocks ih =>
    obtain ⟨k, b'⟩ := e
    rw [block_mem_blocks_cons]
    by_cases hk : k = key
    · subst hk
      obtain rfl : b' = b := by simpa [Keyed.get?] using hget
      exact .inr (.inl h)
    · rw [Keyed.get?, if_neg hk] at hget
      exact .inr (.inr (ih hget))

/-- A nested path needs a block at each of the paths that it leads through. -/
theorem block_mem_declare (b : Block) (path : List String) (key type : String)
    (rest : List String) : .block q ∈ (b.declare key type rest).declarations path ↔
      .block q ∈ b.declarations path ∨ ∃ s ≠ [], Below (key :: rest) s ∧ q = path ++ s := by
  induction rest generalizing b path key with
  | nil =>
    have hnone : ¬ ∃ s ≠ [], Below [key] s ∧ q = path ++ s := by
      rintro ⟨s, hs, hbelow, -⟩
      obtain ⟨k, s, rfl⟩ := List.exists_cons_of_ne_nil hs
      obtain rfl : k = key := (List.cons_prefix_cons.1 hbelow.1).1
      exact not_below_nil s (below_cons.1 hbelow)
    cases b with
    | node members blocks => rw [declare_nil, block_mem_node, block_mem_node, or_iff_left hnone]
  | cons next rest ih =>
    cases b with
    | node members blocks =>
      have hinner := ih ((Keyed.get? key blocks).getD empty) (path ++ [key]) next
      -- What is put in stands for a block that was there already, if there was one.
      have hold : .block q ∈ declarations (path ++ [key]) ((Keyed.get? key blocks).getD empty) →
          .block q ∈ blockDeclarations path blocks := by
        cases hget : Keyed.get? key blocks with
        | none => simp [empty, declarations, blockDeclarations]
        | some b => exact block_mem_blocks_of_get? hget
      have habove : (∃ s ≠ [], Below (key :: next :: rest) s ∧ q = path ++ s) ↔
          q = path ++ [key] ∨
            ∃ s ≠ [], Below (next :: rest) s ∧ q = path ++ [key] ++ s := by
        constructor
        · rintro ⟨s, hs, hbelow, rfl⟩
          obtain ⟨k, s, rfl⟩ := List.exists_cons_of_ne_nil hs
          obtain rfl : k = key := (List.cons_prefix_cons.1 hbelow.1).1
          by_cases hs' : s = []
          · exact .inl (by rw [hs'])
          · exact .inr ⟨s, hs', below_cons.1 hbelow, by simp⟩
        · rintro (rfl | ⟨s, -, hbelow, rfl⟩)
          · exact ⟨[key], by simp, ⟨by simp, by simp⟩, rfl⟩
          · exact ⟨key :: s, by simp, below_cons.2 hbelow, by simp⟩
      rw [declare_cons, block_mem_node, block_mem_node, block_mem_insert, hinner, habove]
      · grind
      · rw [hinner]
        exact .inl

/-- The blocks of an interface stand at the paths that its fields lead through. -/
theorem block_mem_ofFields {fields : List TypedPath} :
    .block q ∈ (ofFields fields).declarations [] ↔
      q ≠ [] ∧ ∃ f ∈ fields, Below (segmentsOf f.path) q := by
  induction fields using List.reverseRecOn with
  | nil => simp [ofFields, empty, declarations, blockDeclarations]
  | append_singleton fields f ih =>
    have hf : (ofText f.path).head :: (ofText f.path).rest = segmentsOf f.path := rfl
    rw [ofFields_concat, block_mem_declare, ih, hf]
    simp only [List.nil_append, List.mem_append, List.mem_singleton]
    constructor
    · rintro (⟨hq, f', hf', hbelow⟩ | ⟨s, hs, hbelow, rfl⟩)
      · exact ⟨hq, f', .inl hf', hbelow⟩
      · exact ⟨hs, f, .inr rfl, hbelow⟩
    · rintro ⟨hq, f', hf' | rfl, hbelow⟩
      · exact .inl ⟨hq, f', hf', hbelow⟩
      · exact .inr ⟨q, hq, hbelow, rfl⟩

end Block

end Reshape.TypeScript
