import Mathlib.Data.List.Basic
import Reshape.Proofs.Text.Cut
import Reshape.Proofs.TypeScript.MapperModule

namespace Reshape.TypeScript

open Text

/-- The lines of a module from outside or inside a literal, in which no line ends. -/
def codeLines : Bool → List Char → List (List Char)
  | _, [] => [[]]
  | true, '\\' :: c :: rest => (codeLines true rest).modifyHead (['\\', c] ++ ·)
  | true, c :: rest => (codeLines (c != '\'') rest).modifyHead ([c] ++ ·)
  | false, '\n' :: rest => [] :: codeLines false rest
  | false, c :: rest => (codeLines (c == '\'') rest).modifyHead ([c] ++ ·)

def importedNames (s : List Char) : List (List Char) :=
  match splitOnce [' ', '}'] s with
  | none => []
  | some (inside, _) =>
    match parts ',' inside with
    | [] => []
    | first :: rest => first :: rest.map (·.drop 1)

def withoutType (name : List Char) : List Char := (name.dropPrefix? "type ".toList).getD name

def lineNames (line : List Char) : List (List Char) :=
  match line.dropPrefix? "import type \x7b ".toList, line.dropPrefix? "import \x7b ".toList,
    line.dropPrefix? "export const ".toList with
  | some names, _, _ => importedNames names
  | none, some names, _ => (importedNames names).map withoutType
  | none, none, some binding => ((splitOnce [' ', '='] binding).map Prod.fst).toList
  | none, none, none => []

/-- Reads what a module imports and exports by name from its text, in order. -/
def readNames (text : String) : List String :=
  ((codeLines false text.toList).flatMap lineNames).map String.ofList

/-- The text ends no line, and after it one is inside a literal or not as the second flag says. -/
def Passes (before after : Bool) (s : List Char) : Prop :=
  ∀ rest, codeLines before (s ++ rest) = (codeLines after rest).modifyHead (s ++ ·)

variable {a b c : Bool} {s t : List Char}

theorem passes_nil (a : Bool) : Passes a a [] := fun rest ↦ by
  cases h : codeLines a rest <;> simp [h]

theorem Passes.append (hs : Passes a b s) (ht : Passes b c t) : Passes a c (s ++ t) := by
  intro rest
  rw [List.append_assoc, hs, ht, List.modifyHead_modifyHead]
  simp [Function.comp_def]

theorem passes_of_forall (h : ∀ c ∈ s, c ≠ '\'' ∧ c ≠ '\n') : Passes false false s := by
  induction s with
  | nil => exact passes_nil false
  | cons c s ih =>
    obtain ⟨⟨hquote, hfeed⟩, hs⟩ := List.forall_mem_cons.1 h
    have hc : Passes false false [c] := fun rest ↦ by
      rw [List.singleton_append, codeLines, beq_false_of_ne hquote]
      exact hfeed
    exact hc.append (ih hs)

theorem passes_escapeChar (c : Char) : Passes true true (escapeChar c) := by
  intro rest
  unfold escapeChar
  split
  · rfl
  · rename_i h
    obtain ⟨hslash, hquote⟩ := not_or.1 h
    rw [List.singleton_append, codeLines, bne_iff_ne.2 hquote]
    rintro _ _ rfl
    exact absurd rfl hslash

theorem passes_flatMap_escapeChar (s : List Char) : Passes true true (s.flatMap escapeChar) := by
  induction s with
  | nil => exact passes_nil true
  | cons c s ih => exact (passes_escapeChar c).append ih

def Plain (s : String) : Prop := Passes false false s.toList

theorem plain_of_all {s : String} (h : s.toList.all fun c ↦ c != '\'' && c != '\n') : Plain s :=
  passes_of_forall fun c hc ↦ by simpa using List.all_eq_true.1 h c hc

theorem Plain.append {s t : String} (hs : Plain s) (ht : Plain t) : Plain (s ++ t) := by
  rw [Plain, String.toList_append]
  exact Passes.append hs ht

/-- Whatever a literal holds, it is over at its closing quote. -/
theorem plain_literal (s : String) : Plain (literal s) := by
  have hopen : Passes false true ['\''] := fun _ ↦ rfl
  have hclose : Passes true false ['\''] := fun _ ↦ rfl
  rw [Plain, toList_literal]
  exact hopen.append ((passes_flatMap_escapeChar s.toList).append hclose)

theorem plain_memberName (s : String) : Plain (memberName s) := by
  unfold memberName
  split
  · rename_i h
    refine passes_of_forall fun c hc ↦ ?_
    have hpart := isIdentifierPart_of_isIdentifier h c hc
    constructor <;>
    · rintro rfl
      exact absurd hpart (by decide)
  · exact plain_literal s

theorem codeLines_unlines {lines : List String} (h : ∀ l ∈ lines, Plain l) :
    codeLines false (unlines lines).toList = lines.map String.toList ++ [[]] := by
  rw [toList_unlines]
  induction lines with
  | nil => rfl
  | cons l lines ih =>
    obtain ⟨hl, hlines⟩ := List.forall_mem_cons.1 h
    rw [List.map_cons, List.flatMap_cons, List.append_assoc, hl, List.singleton_append, codeLines,
      ih hlines]
    simp

namespace MapperModule

def boundNames (m : MapperModule) : List String :=
  ["Mapper", "TransformationMap", m.entity.type, m.model.type, m.name]

/-- A name without anything that would end it or the line. -/
def Bare (name : String) : Prop := ∀ c ∈ name.toList, c ∉ ['\n', '\'', ',', '=', '}']

variable {m : MapperModule} {i : TypeImport} {name : String} {pairs : List (String × String)}

theorem Bare.not_mem (h : Bare name) {c : Char} (hc : c ∈ ['\n', '\'', ',', '=', '}']) :
    c ∉ name.toList :=
  fun hmem ↦ h c hmem hc

theorem Bare.plain (h : Bare name) : Plain name := by
  refine passes_of_forall fun c hc ↦ ⟨?_, ?_⟩ <;>
  · rintro rfl
    exact h.not_mem (by decide) hc

theorem splitOnce_of_not_mem {c : Char} (hc : ' ' ≠ c) (h : c ∉ s) (rest : List Char) :
    splitOnce [' ', c] (s ++ ' ' :: c :: rest) = some (s, rest) := by
  have hnot : ¬ [' ', c] <:+: s := fun hin ↦ h (hin.subset (by simp))
  simpa using splitOnce_append (r := rest) (by simpa using hc) hnot

theorem lineNames_line (h : Bare i.type) : lineNames i.line.toList = [i.type.toList] := by
  have hsplit := splitOnce_of_not_mem (by decide) (h.not_mem (c := '}') (by decide))
  have hparts := parts_of_not_mem (h.not_mem (c := ',') (by decide))
  unfold TypeImport.line
  simp [lineNames, List.dropPrefix?, importedNames, hsplit, hparts]

theorem lineNames_runtime (source : String) :
    lineNames ("import \x7b Mapper, type TransformationMap \x7d from " ++ literal source).toList =
      ["Mapper".toList, "TransformationMap".toList] := by
  simp [lineNames, List.dropPrefix?, importedNames, splitOnce, parts, splitOn, withoutType]

theorem lineNames_binding (h : Bare name) (entity model : String) :
    lineNames ("export const " ++ name ++ " = new Mapper<" ++ entity ++ ", " ++ model ++
      ">(transformationMap)").toList = [name.toList] := by
  have hsplit := splitOnce_of_not_mem (by decide) (h.not_mem (c := '=') (by decide))
  simp [lineNames, List.dropPrefix?, hsplit]

theorem lineNames_of_head? {line : List Char} (h : ∀ c ∈ line.head?, c ≠ 'i' ∧ c ≠ 'e') :
    lineNames line = [] := by
  cases line with
  | nil => rfl
  | cons c line =>
    obtain ⟨hi, he⟩ := h c rfl
    simp [lineNames, List.dropPrefix?, hi, he]

theorem lineNames_pairLine (pair : String × String) : lineNames (pairLine pair).toList = [] := by
  refine lineNames_of_head? ?_
  simp [toList_pairLine]

theorem plain_pairLine (pair : String × String) : Plain (pairLine pair) :=
  .append (plain_of_all rfl) (.append (.append (.append (plain_memberName pair.1)
    (plain_of_all rfl)) (plain_literal pair.2)) (plain_of_all rfl))

theorem plain_line (h : Bare i.type) : Plain i.line :=
  .append (.append (.append (plain_of_all rfl) h.plain) (plain_of_all rfl)) (plain_literal i.source)

/-- The names that a module binds are read from its text, whatever its literals hold. -/
theorem readNames_render (hentity : Bare m.entity.type) (hmodel : Bare m.model.type)
    (hname : Bare m.name) (pairs : List (String × String)) :
    readNames (m.render pairs) = m.boundNames := by
  let runtime := "import \x7b Mapper, type TransformationMap \x7d from " ++ literal m.runtime
  let opening := "const transformationMap: TransformationMap<" ++ m.model.type ++ ", " ++
    m.entity.type ++ "> = \x7b"
  let binding := "export const " ++ m.name ++ " = new Mapper<" ++ m.entity.type ++ ", " ++
    m.model.type ++ ">(transformationMap)"
  let lines := [runtime, m.entity.line, m.model.line, "", opening] ++ pairs.map pairLine ++
    ["\x7d", "", binding]
  have hruntime : Plain runtime := .append (plain_of_all rfl) (plain_literal m.runtime)
  have hopening : Plain opening :=
    .append (.append (.append (.append (plain_of_all rfl) hmodel.plain) (plain_of_all rfl))
      hentity.plain) (plain_of_all rfl)
  have hbinding : Plain binding :=
    .append (.append (.append (.append (.append (.append (plain_of_all rfl) hname.plain)
      (plain_of_all rfl)) hentity.plain) (plain_of_all rfl)) hmodel.plain) (plain_of_all rfl)
  have hlines : ∀ l ∈ lines, Plain l := by
    refine List.forall_mem_append.2 ⟨List.forall_mem_append.2
      ⟨?_, List.forall_mem_map.2 fun pair _ ↦ plain_pairLine pair⟩, ?_⟩
    · simp [hruntime, plain_line hentity, plain_line hmodel, hopening, plain_of_all]
    · simp [hbinding, plain_of_all]
  have himport : lineNames runtime.toList = ["Mapper".toList, "TransformationMap".toList] :=
    lineNames_runtime m.runtime
  have hexport : lineNames binding.toList = [m.name.toList] := lineNames_binding hname _ _
  have hmap : lineNames opening.toList = [] ∧ lineNames [] = [] ∧ lineNames ['}'] = [] :=
    ⟨lineNames_of_head? (by simp [opening]), rfl, rfl⟩
  have hpairs : ((pairs.map pairLine).map String.toList).flatMap lineNames = [] := by
    simp only [List.flatMap_map, lineNames_pairLine, List.flatMap_eq_nil_iff, implies_true]
  rw [readNames, show m.render pairs = unlines lines from rfl, codeLines_unlines hlines]
  simp only [lines, List.map_append, List.flatMap_append, hpairs]
  simp [himport, lineNames_line hentity, lineNames_line hmodel, hmap, hexport, boundNames]

end MapperModule

end Reshape.TypeScript
