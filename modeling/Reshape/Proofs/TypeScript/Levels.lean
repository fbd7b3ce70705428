import Reshape.Proofs.Latest
import Reshape.Proofs.TypeScript.Declarations

namespace Reshape.TypeScript

open DottedPath

def Declaration.path : Declaration → List String
  | .member path _ => path
  | .block path => path

@[simp] theorem Declaration.path_member (path : List String) (type : String) :
    (member path type).path = path := rfl

@[simp] theorem Declaration.path_block (path : List String) : (block path).path = path := rfl

namespace Block

def inside : Block → List String → Block
  | b, [] => b
  | b, key :: rest => inside ((b.blocks.get? key).getD empty) rest

def own (path : List String) (b : Block) : List Declaration :=
  b.members.map (fun e ↦ .member (path ++ [e.1]) e.2) ++
    (Keyed.keys b.blocks).map fun key ↦ .block (path ++ [key])

inductive Merged : Block → Prop where
  | node {members : List (String × String)} {blocks : List (String × Block)}
      (hkeys : Keyed.Distinct blocks) (hblocks : ∀ e ∈ blocks, Merged e.2) :
      Merged (.node members blocks)

variable {b : Block} {blocks : List (String × Block)} {path : List String}

/-- What holds of a block whenever it holds of the blocks inside holds of every block. -/
@[elab_as_elim]
theorem blockwise {motive : Block → Prop}
    (node : ∀ members blocks, (∀ e ∈ blocks, motive e.2) → motive (.node members blocks))
    (b : Block) : motive b :=
  @Block.rec motive (fun blocks ↦ ∀ e ∈ blocks, motive e.2) (fun e ↦ motive e.2)
    node (fun _ h ↦ nomatch h)
    (fun _ _ hhead htail _ h ↦ (List.mem_cons.1 h).elim (fun he ↦ he ▸ hhead) (htail _))
    (fun _ _ h ↦ h) b

theorem mem_blockDeclarations {d : Declaration} : d ∈ blockDeclarations path blocks ↔
    ∃ e ∈ blocks, d = .block (path ++ [e.1]) ∨ d ∈ e.2.declarations (path ++ [e.1]) := by
  induction blocks with
  | nil => simp [blockDeclarations]
  | cons e blocks ih => simp [blockDeclarations, ih, or_assoc]

theorem prefix_dropLast (b : Block) (path : List String) :
    ∀ d ∈ b.declarations path, path <+: d.path.dropLast := by
  induction b using blockwise generalizing path with
  | node members blocks ih =>
    intro d hd
    rw [declarations, List.mem_append, List.mem_map, mem_blockDeclarations] at hd
    rcases hd with ⟨e, -, rfl⟩ | ⟨e, he, rfl | hd⟩
    · simp
    · simp
    · exact (List.prefix_append path [e.1]).trans (ih e he _ d hd)

theorem merged_empty : Merged empty :=
  .node (by simp [Keyed.Distinct, Keyed.keys]) (by simp)

theorem Merged.nested (h : Merged b) (key : String) : Merged ((b.blocks.get? key).getD empty) := by
  obtain ⟨-, hblocks⟩ := h
  exact nested_of merged_empty hblocks key

theorem Merged.distinct (h : Merged b) : Keyed.Distinct b.blocks := by
  obtain ⟨hkeys, -⟩ := h
  exact hkeys

theorem Merged.declare (h : Merged b) (key type : String) (rest : List String) :
    Merged (b.declare key type rest) := by
  induction rest generalizing b key with
  | nil =>
    obtain ⟨hkeys, hblocks⟩ := h
    exact .node hkeys hblocks
  | cons next rest ih =>
    have hinner := ih (h.nested key) next
    obtain ⟨hkeys, hblocks⟩ := h
    refine .node (hkeys.insert _ _) fun e he ↦ ?_
    rcases Keyed.mem_insert he with rfl | he
    · exact hinner
    · exact hblocks e he

theorem merged_ofFields (fields : List TypedPath) : Merged (ofFields fields) := by
  induction fields using List.reverseRecOn with
  | nil => exact merged_empty
  | append_singleton fields f ih =>
    rw [ofFields_concat]
    exact ih.declare _ _ _

theorem dropLast_of_mem_members {members : List (String × String)} {d : Declaration}
    (h : d ∈ members.map fun (key, type) ↦ .member (path ++ [key]) type) :
    d.path.dropLast = path := by
  obtain ⟨e, -, rfl⟩ := List.mem_map.1 h
  exact List.dropLast_concat

theorem filter_eq_nil {q : List String} (hq : ¬ path <+: q) :
    (b.declarations path).filter (·.path.dropLast = q) = [] := by
  refine List.filter_eq_nil_iff.2 fun d hd heq ↦ hq ?_
  rw [← of_decide_eq_true heq]
  exact b.prefix_dropLast path d hd

theorem not_concat_prefix_self (path : List String) (key : String) : ¬ path ++ [key] <+: path := by
  intro hprefix
  have hlength := hprefix.length_le
  rw [List.length_append, List.length_singleton] at hlength
  omega

theorem filter_blockDeclarations (blocks : List (String × Block)) :
    (blockDeclarations path blocks).filter (·.path.dropLast = path) =
      (Keyed.keys blocks).map fun key ↦ .block (path ++ [key]) := by
  induction blocks with
  | nil => rfl
  | cons e blocks ih =>
    have hbelow := filter_eq_nil (b := e.2) (not_concat_prefix_self path e.1)
    rw [blockDeclarations, List.filter_cons_of_pos (by simp), List.filter_append, hbelow, ih]
    rfl

theorem filter_blockDeclarations_below (hd : Keyed.Distinct blocks) (key : String)
    (rest : List String) :
    (blockDeclarations path blocks).filter (·.path.dropLast = path ++ key :: rest) =
      (((Keyed.get? key blocks).getD empty).declarations (path ++ [key])).filter
        (·.path.dropLast = path ++ key :: rest) := by
  induction blocks with
  | nil => rfl
  | cons e blocks ih =>
    obtain ⟨k, inner⟩ := e
    obtain ⟨hnew, hdistinct⟩ := Keyed.distinct_cons.1 hd
    rw [blockDeclarations, List.filter_cons_of_neg (by simp), List.filter_append, ih hdistinct]
    by_cases hk : k = key
    · -- No later block has the key again, so nothing else is declared below it.
      subst hk
      rw [Keyed.get?_eq_none_iff.2 hnew, Keyed.get?_cons_self]
      simp [empty, declarations, blockDeclarations]
    · have hkey : ¬ path ++ [k] <+: path ++ key :: rest := by simp [hk]
      rw [filter_eq_nil hkey, Keyed.get?, if_neg hk, List.nil_append]

theorem Merged.filter_declarations (h : Merged b) (path rest : List String) :
    (b.declarations path).filter (·.path.dropLast = path ++ rest) =
      (b.inside rest).own (path ++ rest) := by
  induction rest generalizing b path with
  | nil =>
    obtain ⟨members, blocks⟩ := b
    rw [List.append_nil, declarations, List.filter_append, filter_blockDeclarations,
      List.filter_eq_self.2 fun d hd ↦ decide_eq_true (dropLast_of_mem_members hd)]
    rfl
  | cons key rest ih =>
    have hinner := ih (h.nested key) (path ++ [key])
    rw [List.append_assoc, List.singleton_append] at hinner
    obtain ⟨hkeys, -⟩ := h
    rw [declarations, List.filter_append, filter_blockDeclarations_below hkeys,
      List.filter_eq_nil_iff.2 fun d hd ↦ by simp [dropLast_of_mem_members hd], List.nil_append]
    exact hinner

theorem inside_empty (path : List String) : empty.inside path = empty := by
  induction path with
  | nil => rfl
  | cons key path ih => exact ih

theorem inside_declare_of_not_below (b : Block) (key type : String) (rest : List String)
    (h : ¬ Below (key :: rest) path) : (b.declare key type rest).inside path = b.inside path := by
  induction path generalizing b key rest with
  | nil => exact absurd ⟨List.nil_prefix, by simp⟩ h
  | cons k path ih =>
    obtain ⟨members, blocks⟩ := b
    cases rest with
    | nil => rfl
    | cons next rest =>
      by_cases hk : k = key
      · subst hk
        have hbelow : ¬ Below (next :: rest) path := fun hnext ↦ h (below_cons.2 hnext)
        simpa [declare_cons, inside, Block.blocks] using ih _ next rest hbelow
      · simp [declare_cons, inside, Block.blocks, Keyed.get?_insert_of_ne hk]

theorem inside_declare_append (b : Block) (path : List String) {key key' : String}
    {rest rest' : List String} (type : String) (h : key :: rest = path ++ key' :: rest') :
    (b.declare key type rest).inside path = (b.inside path).declare key' type rest' := by
  induction path generalizing b key rest with
  | nil =>
    obtain ⟨rfl, rfl⟩ := List.cons.inj h
    rfl
  | cons k path ih =>
    obtain ⟨members, blocks⟩ := b
    obtain ⟨rfl, rfl⟩ := List.cons.inj h
    cases path with
    | nil => simp [declare_cons, inside, Block.blocks]
    | cons next path => simpa [declare_cons, inside, Block.blocks] using ih _ rfl

theorem members_inside_declare (b : Block) (p : DottedPath) (type : String) (path : List String) :
    ((b.declare p.head type p.rest).inside path).members = (b.inside path).members ++
      if p.segments.dropLast = path then [(p.last, type)] else [] := by
  by_cases hbelow : Below p.segments path
  · obtain ⟨key, rest, h⟩ := hbelow.exists_eq_append
    rw [inside_declare_append b path type h]
    cases rest with
    | nil =>
      -- The path ends in this block, so its last key is the one that the member goes by.
      have hlast := p.dropLast_append_last
      rw [h, List.dropLast_concat] at hlast
      obtain rfl : p.last = key := by simpa using hlast
      rw [h, List.dropLast_concat, if_pos rfl]
      rfl
    | cons next rest =>
      have hdeeper : p.segments.dropLast ≠ path := by simp [h]
      rw [if_neg hdeeper, List.append_nil]
      rfl
  · have hother : p.segments.dropLast ≠ path := by
      rintro rfl
      apply hbelow
      exact ⟨List.dropLast_prefix _, fun heq ↦ by simpa [segments] using congrArg List.length heq⟩
    rw [inside_declare_of_not_below b _ type _ hbelow, if_neg hother, List.append_nil]

theorem keys_inside_declare (b : Block) (p : DottedPath) (type : String) (path : List String) :
    Keyed.keys ((b.declare p.head type p.rest).inside path).blocks =
      addKey (Keyed.keys (b.inside path).blocks) (stepAfter? path p.segments.dropLast) := by
  by_cases hbelow : Below p.segments path
  · obtain ⟨key, rest, h⟩ := hbelow.exists_eq_append
    rw [inside_declare_append b path type h, h]
    cases rest with
    | nil =>
      rw [List.dropLast_concat, stepAfter?_of_not_below (fun hself ↦ hself.2 rfl)]
      rfl
    | cons next rest =>
      rw [List.dropLast_append_cons, List.dropLast_cons_cons, stepAfter?_append]
      exact Keyed.keys_insert ..
  · have hother : ¬ Below p.segments.dropLast path := by
      intro hinit
      apply hbelow
      refine ⟨hinit.1.trans (List.dropLast_prefix _), fun heq ↦ ?_⟩
      exact hinit.not_prefix (heq ▸ List.dropLast_prefix _)
    rw [inside_declare_of_not_below b _ type _ hbelow, stepAfter?_of_not_below hother]
    rfl

theorem members_inside_ofFields (fields : List TypedPath) (path : List String) :
    ((ofFields fields).inside path).members =
      (fields.filter fun f ↦ (segmentsOf f.path).dropLast = path).map
        fun f ↦ ((ofText f.path).last, f.type) := by
  induction fields using List.reverseRecOn with
  | nil =>
    rw [ofFields, List.foldl_nil, inside_empty]
    rfl
  | append_singleton fields f ih =>
    have hsegments : (ofText f.path).segments = segmentsOf f.path := rfl
    rw [ofFields_concat, members_inside_declare, ih, List.filter_append, List.map_append, hsegments]
    by_cases h : (segmentsOf f.path).dropLast = path <;> simp [h]

theorem keys_inside_ofFields (fields : List TypedPath) (path : List String) :
    Keyed.keys ((ofFields fields).inside path).blocks =
      (fields.filterMap fun f ↦ stepAfter? path (segmentsOf f.path).dropLast).eraseDups := by
  induction fields using List.reverseRecOn with
  | nil =>
    rw [ofFields, List.foldl_nil, inside_empty]
    rfl
  | append_singleton fields f ih =>
    rw [ofFields_concat, keys_inside_declare, ih, eraseDups_filterMap_concat]
    rfl

end Block

/-- The fields right at a path, in order, and then a block for every step that other fields take
from there, in the order of first appearance. -/
def declaredAt (path : List String) (fields : List TypedPath) : List Declaration :=
  (fields.filter fun f ↦ (segmentsOf f.path).dropLast = path).map
      (fun f ↦ .member (segmentsOf f.path) f.type) ++
    (fields.filterMap fun f ↦ stepAfter? path (segmentsOf f.path).dropLast).eraseDups.map
      fun key ↦ .block (path ++ [key])

theorem filter_declarations_ofFields (fields : List TypedPath) (path : List String) :
    ((Block.ofFields fields).declarations []).filter (·.path.dropLast = path) =
      declaredAt path fields := by
  have hown := (Block.merged_ofFields fields).filter_declarations [] path
  rw [List.nil_append] at hown
  rw [hown, Block.own, Block.members_inside_ofFields, Block.keys_inside_ofFields, List.map_map,
    declaredAt]
  congr 1
  refine List.map_congr_left fun f hf ↦ ?_
  have hpath : (segmentsOf f.path).dropLast = path := by simpa using (List.mem_filter.1 hf).2
  have hlast := (ofText f.path).dropLast_append_last
  rw [Function.comp_apply, ← hpath]
  exact congrArg (Declaration.member · f.type) hlast

def fieldOf? : List String × String → Option TypedPath
  | ([], _) => none
  | (head :: rest, type) => some ⟨text ⟨head, rest⟩, type⟩

theorem fieldOf?_segmentsOf (f : TypedPath) : fieldOf? (segmentsOf f.path, f.type) = some f := by
  have htext : text ⟨(ofText f.path).head, (ofText f.path).rest⟩ = f.path := text_ofText f.path
  rw [segmentsOf, segments, fieldOf?, htext]

def Declaration.field? (d : Declaration) : Option TypedPath := d.typed?.bind fieldOf?

theorem field_ofFields_perm (fields : List TypedPath) :
    (((Block.ofFields fields).declarations []).filterMap Declaration.field?).Perm fields := by
  have htyped := (Block.typed_ofFields_perm fields).filterMap fieldOf?
  rw [Block.typed, List.filterMap_filterMap, List.filterMap_map] at htyped
  have hfields : fields.filterMap (fieldOf? ∘ fun f ↦ (segmentsOf f.path, f.type)) = fields :=
    (List.filterMap_congr fun f _ ↦ fieldOf?_segmentsOf f).trans List.filterMap_some
  rw [hfields] at htyped
  exact htyped

/-- The body of an interface is read back by its indentation. Reading goes on past a block only at
the brace that closes it where it stands, and what is read has every field once and at every path
the members before the blocks. -/
theorem interfaceText_lossless (name : String) {fields : List TypedPath}
    (h : ∀ f ∈ fields, '\n' ∉ f.path.toList ∧ '\n' ∉ f.type.toList) :
    ∃ body declarations,
      interfaceText name fields = "export interface " ++ name ++ " \x7b\n" ++ body ∧
        readBody [] (Text.parts '\n' body.toList) = some declarations ∧
        (declarations.filterMap Declaration.field?).Perm fields ∧
        ∀ path, declarations.filter (·.path.dropLast = path) = declaredAt path fields :=
  ⟨bodyText fields, (Block.ofFields fields).declarations [], interfaceText_eq_append name fields,
    readBody_bodyText h, field_ofFields_perm fields, filter_declarations_ofFields fields⟩

/-- A name over two lines, paths that are there twice or lead on from a member, and braces and
colons in types and keys. -/
theorem interfaceText_lossless_conflicting :
    let fields : List TypedPath :=
      [⟨"n.b", "\x7b"⟩, ⟨"n", "A"⟩, ⟨"n.k: v.c", "\x7d"⟩, ⟨"m", "B"⟩, ⟨"n.b", "\x7b"⟩, ⟨"n", "C"⟩]
    (∀ f ∈ fields, '\n' ∉ f.path.toList ∧ '\n' ∉ f.type.toList) ∧
      ∃ body declarations,
        interfaceText "A\nB" fields = "export interface " ++ "A\nB" ++ " \x7b\n" ++ body ∧
          readBody [] (Text.parts '\n' body.toList) = some declarations ∧
          (declarations.filterMap Declaration.field?).Perm fields ∧
          declarations.filter (·.path.dropLast = []) =
            [.member ["n"] "A", .member ["m"] "B", .member ["n"] "C", .block ["n"]] ∧
          declarations.filter (·.path.dropLast = ["n"]) =
            [.member ["n", "b"] "\x7b", .member ["n", "b"] "\x7b", .block ["n", "k: v"]] := by
  intro fields
  have hfields : ∀ f ∈ fields, '\n' ∉ f.path.toList ∧ '\n' ∉ f.type.toList := by decide
  obtain ⟨body, declarations, htext, hread, hperm, hlevels⟩ :=
    interfaceText_lossless "A\nB" hfields
  exact ⟨hfields, body, declarations, htext, hread, hperm, (hlevels []).trans (by decide),
    (hlevels ["n"]).trans (by decide)⟩

end Reshape.TypeScript
