import Reshape.Proofs.TypeScript.Levels
import Reshape.Proofs.TypeScript.StringLiteral

namespace Reshape.TypeScript

open DottedPath

/-- A part of a generated line: text as it stands, the key of a member, or a string literal. -/
inductive Fragment where
  | plain (text : String)
  | key (name : String)
  | quoted (text : String)

namespace Fragment

def text : Fragment → String
  | plain text => text
  | key name => memberName name
  | quoted text => literal text

/-- The text that a fragment quotes. Keys that are identifiers stand bare. -/
def quotes? : Fragment → Option String
  | plain _ => none
  | key name => if isIdentifier name.toList then none else some name
  | quoted text => some text

theorem text_of_quotes? {f : Fragment} {s : String} (h : f.quotes? = some s) :
    f.text = literal s := by
  cases f with
  | plain _ => cases h
  | key name =>
    by_cases hname : isIdentifier name.toList
    · simp [quotes?, hname] at h
    · obtain rfl : name = s := by simpa [quotes?, hname] using h
      exact if_neg hname
  | quoted text =>
    obtain rfl := Option.some.inj h
    rfl

theorem key_ne_plain (name : String) : ∀ text, key name ≠ plain text := by simp

theorem quoted_ne_plain (text : String) : ∀ text', quoted text ≠ plain text' := by simp

end Fragment

def lineOf (fragments : List Fragment) : String := String.join (fragments.map Fragment.text)

@[simp] theorem lineOf_nil : lineOf [] = "" := rfl

@[simp] theorem lineOf_cons (f : Fragment) (fragments : List Fragment) :
    lineOf (f :: fragments) = f.text ++ lineOf fragments := by simp [lineOf]

namespace MapperModule

def pairFragments (pair : String × String) : List Fragment :=
  [.plain "  ", .key pair.1, .plain ": ", .quoted pair.2, .plain ","]

/-- The lines of the module by their fragments. What is imported does not come from a schema. -/
def fragments (m : MapperModule) (pairs : List (String × String)) : List (List Fragment) :=
  [[.plain ("import \x7b Mapper, type TransformationMap \x7d from " ++ literal m.runtime)],
    [.plain m.entity.line],
    [.plain m.model.line],
    [],
    [.plain ("const transformationMap: TransformationMap<" ++ m.model.type ++ ", " ++
      m.entity.type ++ "> = \x7b")]] ++
  pairs.map pairFragments ++
  [[.plain "\x7d"],
    [],
    [.plain ("export const " ++ m.name ++ " = new Mapper<" ++ m.entity.type ++ ", " ++
      m.model.type ++ ">(transformationMap)")]]

theorem lineOf_pairFragments (pair : String × String) :
    lineOf (pairFragments pair) = pairLine pair := by
  simp [pairFragments, Fragment.text, pairLine, indent, String.append_assoc]

theorem render_eq_unlines (m : MapperModule) (pairs : List (String × String)) :
    m.render pairs = unlines ((m.fragments pairs).map lineOf) := by
  simp [render, fragments, Function.comp_def, lineOf_pairFragments, Fragment.text]

theorem key_mem_fragments {m : MapperModule} {pairs : List (String × String)} {name : String} :
    .key name ∈ (m.fragments pairs).flatten ↔ name ∈ pairs.map (·.1) := by
  simp [fragments, pairFragments, eq_comm]

theorem quoted_mem_fragments {m : MapperModule} {pairs : List (String × String)} {text : String} :
    .quoted text ∈ (m.fragments pairs).flatten ↔ text ∈ pairs.map (·.2) := by
  simp [fragments, pairFragments, eq_comm]

end MapperModule

namespace Block

mutual

def fragments : Block → List (List Fragment)
  | .node members blocks =>
    members.map (fun (key, type) ↦ [.key key, .plain (": " ++ type)]) ++ blockFragments blocks

def blockFragments : List (String × Block) → List (List Fragment)
  | [] => []
  | (key, b) :: rest =>
    [.key key, .plain ": \x7b"] ::
      ((fragments b).map (.plain "  " :: ·) ++ [.plain "\x7d"] :: blockFragments rest)

end

theorem lineOf_map_indent (lines : List (List Fragment)) :
    (lines.map (.plain "  " :: ·)).map lineOf = (lines.map lineOf).map indent := by
  simp [indent, Fragment.text]

theorem lines_eq_map_lineOf (b : Block) : b.lines = b.fragments.map lineOf := by
  induction b using blockwise with
  | node members blocks ih =>
    have hblocks : blockLines blocks = (blockFragments blocks).map lineOf := by
      clear members
      induction blocks with
      | nil => rfl
      | cons e blocks ihRest =>
        obtain ⟨hb, hrest⟩ := List.forall_mem_cons.1 ih
        rw [blockLines, blockFragments, List.map_cons, List.map_append, lineOf_map_indent, ← hb,
          List.map_cons, ← ihRest hrest]
        simp [Fragment.text]
    rw [lines, fragments, List.map_append, ← hblocks]
    simp [Fragment.text, String.append_assoc]

section Membership

variable {f : Fragment} (hf : ∀ text, f ≠ .plain text)

include hf

theorem mem_flatten_indented {lines : List (List Fragment)} :
    f ∈ (lines.map (.plain "  " :: ·)).flatten ↔ f ∈ lines.flatten := by
  simp [List.mem_flatten, hf]

theorem mem_blockFragments {blocks : List (String × Block)} :
    f ∈ (blockFragments blocks).flatten ↔
      ∃ e ∈ blocks, f = .key e.1 ∨ f ∈ e.2.fragments.flatten := by
  induction blocks with
  | nil => simp [blockFragments]
  | cons e blocks ih =>
    obtain ⟨key, b⟩ := e
    rw [blockFragments, List.flatten_cons, List.flatten_append, List.flatten_cons]
    simp only [List.mem_append, mem_flatten_indented hf, ih]
    simp [hf, or_assoc]

end Membership

theorem quoted_not_mem_fragments {text : String} (b : Block) :
    .quoted text ∉ b.fragments.flatten := by
  induction b using blockwise with
  | node members blocks ih =>
    have hblocks : .quoted text ∉ (blockFragments blocks).flatten := by
      rw [mem_blockFragments (Fragment.quoted_ne_plain text)]
      simpa using ih
    rw [fragments, List.flatten_append, List.mem_append]
    simp [hblocks]

/-- The keys in a block are the last steps of the paths that it declares. -/
theorem key_mem_fragments {name : String} (b : Block) (path : List String) :
    .key name ∈ b.fragments.flatten ↔ ∃ d ∈ b.declarations path, d.path.getLast? = some name := by
  induction b using blockwise generalizing path with
  | node members blocks ih =>
    have hmembers : .key name ∈ (members.map fun (key, type) ↦
          [Fragment.key key, .plain (": " ++ type)]).flatten ↔
        ∃ e ∈ members, e.1 = name := by
      simp [List.mem_flatten, eq_comm]
    have hblocks : .key name ∈ (blockFragments blocks).flatten ↔
        ∃ d ∈ blockDeclarations path blocks, d.path.getLast? = some name := by
      rw [mem_blockFragments (Fragment.key_ne_plain name)]
      simp only [mem_blockDeclarations, Fragment.key.injEq]
      constructor
      · rintro ⟨e, he, rfl | hkey⟩
        · exact ⟨_, ⟨e, he, .inl rfl⟩, by simp⟩
        · obtain ⟨d, hd, hlast⟩ := (ih e he _).1 hkey
          exact ⟨d, ⟨e, he, .inr hd⟩, hlast⟩
      · rintro ⟨d, ⟨e, he, rfl | hd⟩, hlast⟩
        · exact ⟨e, he, .inl (by simpa [eq_comm] using hlast)⟩
        · exact ⟨e, he, .inr ((ih e he _).2 ⟨d, hd, hlast⟩)⟩
    rw [fragments, declarations, List.flatten_append, List.mem_append, hmembers, hblocks]
    simp [or_and_right, exists_or]

end Block

def interfaceFragments (name : String) (fields : List TypedPath) : List (List Fragment) :=
  [.plain ("export interface " ++ name ++ " \x7b")] ::
    ((Block.ofFields fields).fragments.map (.plain "  " :: ·) ++ [[.plain "\x7d"]])

theorem interfaceText_eq_unlines (name : String) (fields : List TypedPath) :
    interfaceText name fields = unlines ((interfaceFragments name fields).map lineOf) := by
  rw [interfaceText, interfaceFragments, List.map_cons, List.map_append, Block.lineOf_map_indent,
    ← Block.lines_eq_map_lineOf]
  simp [Fragment.text]

variable {name : String} {fields : List TypedPath}

theorem mem_interfaceFragments {f : Fragment} (hf : ∀ text, f ≠ .plain text) :
    f ∈ (interfaceFragments name fields).flatten ↔
      f ∈ (Block.ofFields fields).fragments.flatten := by
  rw [interfaceFragments, List.flatten_cons, List.flatten_append, List.mem_append, List.mem_append,
    Block.mem_flatten_indented hf]
  simp [hf]

theorem quoted_not_mem_interfaceFragments (text : String) :
    .quoted text ∉ (interfaceFragments name fields).flatten := by
  rw [mem_interfaceFragments (Fragment.quoted_ne_plain text)]
  exact Block.quoted_not_mem_fragments _

/-- The keys in an interface are the segments of the paths of its fields. -/
theorem key_mem_interfaceFragments {key : String} :
    .key key ∈ (interfaceFragments name fields).flatten ↔
      ∃ f ∈ fields, key ∈ segmentsOf f.path := by
  rw [mem_interfaceFragments (Fragment.key_ne_plain key), Block.key_mem_fragments _ []]
  constructor
  · rintro ⟨d, hd, hlast⟩
    have hmem : key ∈ d.path := List.mem_of_getLast? hlast
    cases d with
    | member q type =>
      obtain ⟨f, hf, rfl⟩ := Block.member_mem_ofFields.1 ⟨type, hd⟩
      exact ⟨f, hf, hmem⟩
    | block q =>
      obtain ⟨-, f, hf, hbelow⟩ := Block.block_mem_ofFields.1 hd
      exact ⟨f, hf, hbelow.1.subset hmem⟩
  · rintro ⟨f, hf, hkey⟩
    obtain ⟨before, after, hpath⟩ := List.append_of_mem hkey
    cases after with
    | nil =>
      obtain ⟨type, hd⟩ := Block.member_mem_ofFields.2 ⟨f, hf, hpath⟩
      exact ⟨_, hd, by simp⟩
    | cons next after =>
      have hbelow : Below (segmentsOf f.path) (before ++ [key]) := by
        rw [hpath]
        simp [Below]
      exact ⟨_, Block.block_mem_ofFields.2 ⟨by simp, f, hf, hbelow⟩, by simp⟩

end Reshape.TypeScript
