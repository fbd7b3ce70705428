import Mathlib.Data.List.Perm.Basic
import Reshape.Proofs.DottedPath
import Reshape.Proofs.Keyed
import Reshape.Proofs.Text.Lines
import Reshape.Proofs.TypeScript.Literal
import Reshape.Proofs.TypeScript.MapperModule
import Reshape.TypeScript.Interface

namespace Reshape.TypeScript

open Text

/-- What a line of an interface declares, by the path that leads to it: a member with its type, or
a block of further declarations. -/
inductive Declaration where
  | member (path : List String) (type : String)
  | block (path : List String)
  deriving DecidableEq

def depth (line : List Char) : Nat := (line.takeWhile (· = ' ')).length

def closing (path : List String) : List Char := List.replicate (2 * path.length) ' ' ++ ['}']

/-- Reads the lines of the block that a path leads to, and of those that it lies in. A line opens
a block when the next one is indented further; the brace that closes a block stands below the key
that opens it. -/
def readBody (path : List String) : List (List Char) → Option (List Declaration)
  | [] => none
  | line :: rest =>
    if line = closing path then
      if path = [] then (if rest = [[]] then some [] else none) else readBody path.dropLast rest
    else if depth line = 2 * path.length + 2 then
      match readMemberName (line.dropWhile (· = ' ')) with
      | some (key, ':' :: ' ' :: type) =>
        let inner := path ++ [String.ofList key]
        if rest.head?.any (depth line < depth ·) then
          if type = ['{'] then (readBody inner rest).map (.block inner :: ·) else none
        else (readBody path rest).map (.member inner (.ofList type) :: ·)
      | _ => none
    else none

def readInterface (text : String) : Option (List Declaration) :=
  match parts '\n' text.toList with
  | [] => none
  | line :: rest => if "export interface ".toList.isPrefixOf line then readBody [] rest else none

namespace Block

mutual

def declarations (path : List String) : Block → List Declaration
  | .node members blocks =>
    members.map (fun (key, type) ↦ .member (path ++ [key]) type) ++ blockDeclarations path blocks

def blockDeclarations (path : List String) : List (String × Block) → List Declaration
  | [] => []
  | (key, b) :: rest =>
    .block (path ++ [key]) ::
      (declarations (path ++ [key]) b ++ blockDeclarations path rest)

end

/-- Every block inside declares something, and no key or type holds a line feed. -/
inductive Readable : Block → Prop where
  | node {members : List (String × String)} {blocks : List (String × Block)}
      (hmembers : ∀ e ∈ members, '\n' ∉ e.1.toList ∧ '\n' ∉ e.2.toList)
      (hkeys : ∀ e ∈ blocks, '\n' ∉ e.1.toList) (hlines : ∀ e ∈ blocks, e.2.lines ≠ [])
      (hblocks : ∀ e ∈ blocks, Readable e.2) : Readable (.node members blocks)

end Block

def indented (n : Nat) (line : String) : List Char := List.replicate (2 * n) ' ' ++ line.toList

theorem indented_indent (n : Nat) (line : String) :
    indented n (indent line) = indented (n + 1) line := by
  have htwo : 2 * (n + 1) = 2 * n + 2 := by omega
  rw [indented, indented, indent, htwo, List.replicate_add]
  simp

theorem spaces (n : Nat) : ∀ c ∈ List.replicate n ' ', decide (c = ' ') = true := by
  intro c hc
  simp [List.eq_of_mem_replicate hc]

theorem depth_indented (n : Nat) (line : String) (h : ∀ c ∈ line.toList.head?, c ≠ ' ') :
    depth (indented n line) = 2 * n := by
  rw [depth, indented, List.takeWhile_append_of_pos (spaces _)]
  cases hline : line.toList with
  | nil => simp
  | cons c rest => simp [h c (by simp [hline])]

theorem dropWhile_indented (n : Nat) {line : String} (h : ∀ c ∈ line.toList.head?, c ≠ ' ') :
    (indented n line).dropWhile (· = ' ') = line.toList := by
  rw [indented, List.dropWhile_append_of_pos (spaces _)]
  cases hline : line.toList with
  | nil => rfl
  | cons c rest => simp [h c (by simp [hline])]

theorem memberName_append_ne_space (key : String) (s : String) :
    ∀ c ∈ (memberName key ++ s).toList.head?, c ≠ ' ' := by
  rw [String.toList_append, List.head?_append_of_ne_nil _ (memberName_ne_nil key)]
  exact memberName_ne_space key

theorem indented_ne_closing (path : List String) {line : String}
    (h : ∀ c ∈ line.toList.head?, c ≠ ' ') : indented (path.length + 1) line ≠ closing path := by
  intro heq
  have hdepth : depth (closing path) = 2 * path.length :=
    depth_indented path.length "\x7d" (by simp)
  rw [← heq, depth_indented _ _ h] at hdepth
  omega

theorem le_depth_indented (n : Nat) (line : String) : 2 * n ≤ depth (indented n line) := by
  rw [depth, indented, List.takeWhile_append_of_pos (spaces _)]
  simp

/-- What follows in the block at a depth, or after it: lines of which the first is not indented
any further. -/
def Level (n : Nat) (rest : List (List Char)) : Prop := ∀ l ∈ rest.head?, depth l ≤ 2 * n

variable {path : List String} {rest : List (List Char)}

theorem level_cons (n : Nat) (line : String) (h : ∀ c ∈ line.toList.head?, c ≠ ' ') :
    Level n (indented n line :: rest) := by
  intro l hl
  obtain rfl : indented n line = l := by simpa using hl
  exact Nat.le_of_eq (depth_indented n line h)

theorem Level.mono {n m : Nat} (h : Level n rest) (hnm : n ≤ m) : Level m rest :=
  fun l hl ↦ (h l hl).trans (by omega)

theorem readBody_member (key type : String) (hrest : Level (path.length + 1) rest) :
    readBody path (indented (path.length + 1) (memberName key ++ ": " ++ type) :: rest) =
      (readBody path rest).map (.member (path ++ [key]) type :: ·) := by
  rw [String.append_assoc]
  have hspace := memberName_append_ne_space key (": " ++ type)
  have hdepth : depth (indented (path.length + 1) (memberName key ++ (": " ++ type))) =
      2 * path.length + 2 := depth_indented _ _ hspace
  have hflat : rest.head?.any (2 * path.length + 2 < depth ·) = false := by
    cases hhead : rest.head? with
    | none => rfl
    | some l =>
      have hl : depth l ≤ 2 * path.length + 2 := hrest l hhead
      simpa using hl
  have hread := readMemberName_memberName key (':' :: ' ' :: type.toList)
    (by simp [isIdentifierPart, isIdentifierStart])
  rw [readBody, if_neg (indented_ne_closing path hspace), if_pos hdepth,
    dropWhile_indented _ hspace, hdepth, hflat]
  simp [hread]

theorem readBody_block (key : String) (hrest : ∃ l ∈ rest.head?, 2 * path.length + 2 < depth l) :
    readBody path (indented (path.length + 1) (memberName key ++ ": \x7b") :: rest) =
      (readBody (path ++ [key]) rest).map (.block (path ++ [key]) :: ·) := by
  have hspace := memberName_append_ne_space key ": \x7b"
  have hdepth : depth (indented (path.length + 1) (memberName key ++ ": \x7b")) =
      2 * path.length + 2 := depth_indented _ _ hspace
  have hdeeper : rest.head?.any (2 * path.length + 2 < depth ·) = true := by
    obtain ⟨l, hl, hlt⟩ := hrest
    rw [Option.mem_def.1 hl]
    simpa using hlt
  have hread := readMemberName_memberName key [':', ' ', '{']
    (by simp [isIdentifierPart, isIdentifierStart])
  rw [readBody, if_neg (indented_ne_closing path hspace), if_pos hdepth,
    dropWhile_indented _ hspace, hdepth, hdeeper]
  simp [hread]

theorem readBody_closing (path : List String) (key : String) (rest : List (List Char)) :
    readBody (path ++ [key]) (indented (path.length + 1) "\x7d" :: rest) = readBody path rest := by
  have hclosing : indented (path.length + 1) "\x7d" = closing (path ++ [key]) := by
    simp [indented, closing]
  rw [readBody, if_pos hclosing, if_neg (by simp), List.dropLast_concat]

namespace Block

variable {b : Block} {members : List (String × String)} {blocks : List (String × Block)}

theorem level_blockLines {n : Nat} (hrest : Level n rest) (blocks : List (String × Block)) :
    Level n ((blockLines blocks).map (indented n) ++ rest) := by
  cases blocks with
  | nil => simpa [blockLines] using hrest
  | cons e blocks => exact level_cons n _ (memberName_append_ne_space _ _)

theorem level_members {n : Nat} (hrest : Level n rest) (members : List (String × String)) :
    Level n ((members.map fun (key, type) ↦ memberName key ++ ": " ++ type).map (indented n) ++
      rest) := by
  cases members with
  | nil => exact hrest
  | cons e members =>
    refine level_cons n (memberName e.1 ++ ": " ++ e.2) ?_
    rw [String.append_assoc]
    exact memberName_append_ne_space _ _

theorem readBody_members (hrest : Level (path.length + 1) rest) :
    readBody path ((members.map fun (key, type) ↦ memberName key ++ ": " ++ type).map
      (indented (path.length + 1)) ++ rest) = (readBody path rest).map
        (members.map (fun (key, type) ↦ .member (path ++ [key]) type) ++ ·) := by
  induction members with
  | nil => simp
  | cons e members ih =>
    have hstep := readBody_member e.1 e.2 (level_members hrest members)
    rw [ih, Option.map_map] at hstep
    exact hstep

def Reads (b : Block) : Prop :=
  ∀ path rest, Level (path.length + 1) rest →
    readBody path (b.lines.map (indented (path.length + 1)) ++ rest) =
      (readBody path rest).map (b.declarations path ++ ·)

theorem readBody_blockLines (hlines : ∀ e ∈ blocks, e.2.lines ≠ [])
    (h : ∀ e ∈ blocks, e.2.Reads) :
    readBody path ((blockLines blocks).map (indented (path.length + 1)) ++ rest) =
      (readBody path rest).map (blockDeclarations path blocks ++ ·) := by
  induction blocks with
  | nil => simp [blockLines, blockDeclarations]
  | cons e blocks ih =>
    obtain ⟨key, b⟩ := e
    obtain ⟨hb, hblocks⟩ := List.forall_mem_cons.1 hlines
    obtain ⟨hread, hreads⟩ := List.forall_mem_cons.1 h
    let inner := path ++ [key]
    let after := (blockLines blocks).map (indented (path.length + 1)) ++ rest
    let closed := indented (path.length + 1) "\x7d" :: after
    have hclosed : readBody inner closed =
        (readBody path rest).map (blockDeclarations path blocks ++ ·) :=
      (readBody_closing path key after).trans (ih hblocks hreads)
    -- The brace that closes the nested block is not indented like what it declares.
    have hlevel : Level (inner.length + 1) closed :=
      (level_cons (path.length + 1) _ (by simp)).mono (by simp [inner])
    have hbody := hread inner closed hlevel
    have hdeeper : ∃ l ∈ (b.lines.map (indented (inner.length + 1)) ++ closed).head?,
        2 * path.length + 2 < depth l := by
      obtain ⟨first, more, hfirst⟩ := List.exists_cons_of_ne_nil hb
      refine ⟨indented (inner.length + 1) first, by simp [hfirst], ?_⟩
      have hdepth := le_depth_indented (inner.length + 1) first
      simp only [inner, List.length_append, List.length_singleton] at hdepth ⊢
      omega
    have hopen := readBody_block key hdeeper
    rw [show path ++ [key] = inner from rfl, hbody, hclosed] at hopen
    have hnested : (b.lines.map indent).map (indented (path.length + 1)) =
        b.lines.map (indented (inner.length + 1)) := by
      simp [inner, Function.comp_def, indented_indent]
    simp only [blockLines, blockDeclarations, List.map_cons, List.map_append, hnested,
      List.cons_append, List.append_assoc]
    rw [hopen]
    simp [Function.comp_def, inner]

theorem Readable.reads (h : Readable b) : b.Reads := by
  induction h with
  | node _ _ hlines _ ih =>
    intro path rest hrest
    rw [lines, List.map_append, List.append_assoc, readBody_members (level_blockLines hrest _),
      readBody_blockLines hlines ih, Option.map_map]
    simp [declarations, Function.comp_def]

theorem mem_blockLines {line : String} (h : line ∈ blockLines blocks) : line = "\x7d" ∨
    ∃ e ∈ blocks, line = memberName e.1 ++ ": \x7b" ∨ ∃ inner ∈ e.2.lines, line = indent inner := by
  induction blocks with
  | nil => simp [blockLines] at h
  | cons e blocks ih =>
    simp only [blockLines, List.mem_cons, List.mem_append, List.mem_map] at h
    rcases h with rfl | ⟨inner, hinner, rfl⟩ | rfl | h
    · exact .inr ⟨e, List.mem_cons_self, .inl rfl⟩
    · exact .inr ⟨e, List.mem_cons_self, .inr ⟨inner, hinner, rfl⟩⟩
    · exact .inl rfl
    · exact (ih h).imp_right fun ⟨e', he', hline⟩ ↦ ⟨e', List.mem_cons_of_mem e he', hline⟩

theorem Readable.lineFeed_not_mem (h : Readable b) : ∀ line ∈ b.lines, '\n' ∉ line.toList := by
  have hname {key : String} (hkey : '\n' ∉ key.toList) : '\n' ∉ (memberName key).toList :=
    fun hmem ↦ hkey (mem_of_mem_memberName hmem (by decide) (by decide))
  induction h with
  | node hmembers hkeys hlines hblocks ih =>
    intro line hline
    rw [lines, List.mem_append, List.mem_map] at hline
    rcases hline with ⟨e, he, rfl⟩ | hline
    · obtain ⟨hkey, htype⟩ := hmembers e he
      simp [hname hkey, htype]
    · rcases mem_blockLines hline with rfl | ⟨e, he, rfl | ⟨inner, hinner, rfl⟩⟩
      · decide
      · simp [hname (hkeys e he)]
      · simpa [indent] using ih e he inner hinner

theorem readable_empty : Readable empty :=
  .node (by simp) (by simp) (by simp) (by simp)

theorem lines_declare_ne_nil (b : Block) (key type : String) (rest : List String) :
    (b.declare key type rest).lines ≠ [] := by
  cases rest with
  | nil => simp [declare, lines]
  | cons next rest =>
    obtain ⟨e, more, he⟩ := Keyed.exists_insert_eq_cons key
      (((b.blocks.get? key).getD empty).declare next type rest) b.blocks
    rw [declare, he, lines, blockLines]
    simp

theorem nested_of {P : Block → Prop} (hempty : P empty) (hblocks : ∀ e ∈ blocks, P e.2)
    (key : String) : P ((Keyed.get? key blocks).getD empty) := by
  cases hget : Keyed.get? key blocks with
  | none => exact hempty
  | some inner => exact hblocks (key, inner) (Keyed.mem_of_get? hget)

theorem Readable.nested (h : Readable b) (key : String) :
    Readable ((b.blocks.get? key).getD empty) := by
  obtain ⟨-, -, -, hblocks⟩ := h
  exact nested_of readable_empty hblocks key

theorem Readable.declare (h : Readable b) (htype : '\n' ∉ type.toList) {rest : List String}
    (hpath : ∀ step ∈ key :: rest, '\n' ∉ step.toList) : Readable (b.declare key type rest) := by
  induction rest generalizing b key with
  | nil =>
    obtain ⟨hmembers, hkeys, hlines, hblocks⟩ := h
    refine .node ?_ hkeys hlines hblocks
    simpa [members, or_imp, forall_and, htype, hpath] using hmembers
  | cons next rest ih =>
    obtain ⟨hkey, hrest⟩ := List.forall_mem_cons.1 hpath
    have hinner := ih (h.nested key) hrest
    obtain ⟨hmembers, hkeys, hlines, hblocks⟩ := h
    refine .node hmembers (fun e he ↦ ?_) (fun e he ↦ ?_) (fun e he ↦ ?_)
    all_goals rcases Keyed.mem_insert he with rfl | he
    · exact hkey
    · exact hkeys e he
    · exact lines_declare_ne_nil _ _ _ _
    · exact hlines e he
    · exact hinner
    · exact hblocks e he

theorem ofFields_concat (fields : List TypedPath) (f : TypedPath) :
    ofFields (fields ++ [f]) =
      let p := DottedPath.ofText f.path
      (ofFields fields).declare p.head f.type p.rest := by
  simp [ofFields]

theorem readable_ofFields {fields : List TypedPath}
    (h : ∀ f ∈ fields, '\n' ∉ f.path.toList ∧ '\n' ∉ f.type.toList) :
    Readable (ofFields fields) := by
  induction fields using List.reverseRecOn with
  | nil => exact readable_empty
  | append_singleton fields f ih =>
    simp only [List.forall_mem_append, List.forall_mem_singleton] at h
    rw [ofFields_concat]
    refine (ih h.1).declare h.2.2 fun step hstep hfeed ↦ h.2.1 ?_
    exact DottedPath.subset_of_mem_segmentsOf hstep hfeed

end Block

def bodyText (fields : List TypedPath) : String :=
  unlines ((Block.ofFields fields).lines.map indent ++ ["\x7d"])

theorem interfaceText_eq_append (name : String) (fields : List TypedPath) :
    interfaceText name fields =
      "export interface " ++ name ++ " \x7b\n" ++ bodyText fields := by
  apply String.toList_injective
  simp [interfaceText, bodyText, toList_unlines]

theorem readBody_bodyText {fields : List TypedPath}
    (h : ∀ f ∈ fields, '\n' ∉ f.path.toList ∧ '\n' ∉ f.type.toList) :
    readBody [] (parts '\n' (bodyText fields).toList) =
      some ((Block.ofFields fields).declarations []) := by
  have hreadable := Block.readable_ofFields h
  let body := (Block.ofFields fields).lines.map indent
  have hfeed : ∀ line ∈ body ++ ["\x7d"], '\n' ∉ line.toList := by
    have hbody : ∀ line ∈ body, '\n' ∉ line.toList := by
      intro line hline
      obtain ⟨inner, hinner, rfl⟩ := List.mem_map.1 hline
      simpa [indent] using hreadable.lineFeed_not_mem inner hinner
    simpa [or_imp, forall_and] using hbody
  have hlines : body.map String.toList =
      (Block.ofFields fields).lines.map (indented (([] : List String).length + 1)) := by
    simp [body, Function.comp_def, indent, indented]
  have hread := hreadable.reads [] [['\x7d'], []] (by simp [Level, depth])
  have hclose : readBody [] [['\x7d'], []] = some [] := rfl
  rw [bodyText, parts_unlines hfeed, List.map_append, hlines]
  simpa [hclose] using hread

/-- An interface is read back from its text as its declarations. -/
theorem readInterface_interfaceText {name : String} {fields : List TypedPath}
    (hname : '\n' ∉ name.toList)
    (h : ∀ f ∈ fields, '\n' ∉ f.path.toList ∧ '\n' ∉ f.type.toList) :
    readInterface (interfaceText name fields) = some ((Block.ofFields fields).declarations []) := by
  let opening := "export interface " ++ name ++ " \x7b"
  have hopening : '\n' ∉ opening.toList := by simp [opening, hname]
  have htext : (interfaceText name fields).toList =
      opening.toList ++ '\n' :: (bodyText fields).toList := by
    simp [interfaceText_eq_append, opening]
  rw [readInterface, htext, parts_append, parts_of_not_mem hopening, List.singleton_append]
  simp only
  rw [if_pos (by simp [opening]), readBody_bodyText h]

end Reshape.TypeScript
