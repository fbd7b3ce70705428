import Reshape.Proofs.Text.Lines
import Reshape.Proofs.TypeScript.Literal
import Reshape.TypeScript.MapperModule

namespace Reshape.TypeScript

open Text

theorem toList_unlines (lines : List String) :
    (unlines lines).toList = (lines.map String.toList).flatMap (· ++ ['\n']) := by
  simp [unlines, String.toList_join, List.flatMap_map]

theorem parts_unlines {lines : List String} (h : ∀ l ∈ lines, '\n' ∉ l.toList) :
    parts '\n' (unlines lines).toList = lines.map String.toList ++ [[]] := by
  have hlines : ∀ l ∈ lines.map String.toList, '\n' ∉ l := by simpa using h
  have hparts := parts_flatMap_append hlines []
  rwa [List.append_nil, ← toList_unlines] at hparts

namespace MapperModule

/-- Reads a pair of the map from its line. A carriage return would end the line as well. -/
def readPair (line : List Char) : Option (String × String) :=
  if '\r' ∈ line then none
  else
    match readMemberName (line.dropWhile (· = ' ')) with
    | some (output, ':' :: ' ' :: '\'' :: rest) =>
      match readLiteral rest with
      | some (input, [',']) => some (.ofList output, .ofList input)
      | _ => none
    | _ => none

def readPairs : List (List Char) → Option (List (String × String))
  | [] => none
  | line :: rest =>
    if line = ['}'] then some []
    else
      match readPair line with
      | some pair => (readPairs rest).map (pair :: ·)
      | none => none

def opensMap (line : List Char) : Bool := "const transformationMap: ".toList.isPrefixOf line

/-- The lines after the last one that opens a map. What the module imports stands before it, and
may itself be spread over lines. -/
def afterOpening : List (List Char) → Option (List (List Char))
  | [] => none
  | line :: rest =>
    (afterOpening rest).or (if opensMap line then some rest else none)

def readMap (text : String) : Option (List (String × String)) :=
  (afterOpening (parts '\n' text.toList)).bind readPairs

def OneLine (s : String) : Prop := '\n' ∉ s.toList ∧ '\r' ∉ s.toList

variable {lines before after : List (List Char)} {pairs : List (String × String)}
  {pair : String × String}

theorem afterOpening_eq_none (h : ∀ line ∈ lines, opensMap line = false) :
    afterOpening lines = none := by
  induction lines with
  | nil => rfl
  | cons line rest ih =>
    obtain ⟨hline, hrest⟩ := List.forall_mem_cons.1 h
    simp [afterOpening, ih hrest, hline]

theorem afterOpening_append (before : List (List Char)) {line : List Char} (hline : opensMap line)
    (h : ∀ l ∈ after, opensMap l = false) :
    afterOpening (before ++ line :: after) = some after := by
  induction before with
  | nil => simp [afterOpening, afterOpening_eq_none h, hline]
  | cons first rest ih => simp [afterOpening, ih]

theorem toList_pairLine (pair : String × String) : (pairLine pair).toList =
    ' ' :: ' ' :: ((memberName pair.1).toList ++
      ':' :: ' ' :: '\'' :: (pair.2.toList.flatMap escapeChar ++ ['\'', ','])) := by
  simp [pairLine, indent, toList_literal]

theorem not_mem_pairLine {c : Char} (hc : c = '\n' ∨ c = '\r') (houtput : c ∉ pair.1.toList)
    (hinput : c ∉ pair.2.toList) : c ∉ (pairLine pair).toList := by
  have hname : c ∉ (memberName pair.1).toList := by
    intro h
    refine houtput (mem_of_mem_memberName h ?_ ?_) <;> rcases hc with rfl | rfl <;> decide
  have hliteral : c ∉ pair.2.toList.flatMap escapeChar := by
    intro h
    refine hinput (mem_of_mem_flatMap_escapeChar h ?_)
    rcases hc with rfl | rfl <;> decide
  rw [toList_pairLine]
  rcases hc with rfl | rfl <;> simp [hname, hliteral]

theorem readPair_pairLine (houtput : '\r' ∉ pair.1.toList) (hinput : '\r' ∉ pair.2.toList) :
    readPair (pairLine pair).toList = some pair := by
  have hreturn : '\r' ∉ (pairLine pair).toList := not_mem_pairLine (.inr rfl) houtput hinput
  rw [readPair, if_neg hreturn, toList_pairLine]
  obtain ⟨c, cs, hname⟩ := List.exists_cons_of_ne_nil (memberName_ne_nil pair.1)
  have hspace : c ≠ ' ' := memberName_ne_space pair.1 c (by rw [hname]; rfl)
  have hread := readMemberName_memberName pair.1
    (':' :: ' ' :: '\'' :: (pair.2.toList.flatMap escapeChar ++ ['\'', ',']))
    (by simp [isIdentifierPart, isIdentifierStart])
  rw [hname] at hread ⊢
  simp only [List.cons_append] at hread
  simp [hspace, hread, readLiteral_flatMap_escapeChar]

theorem readPairs_append (hreturn : ∀ pair ∈ pairs, '\r' ∉ pair.1.toList ∧ '\r' ∉ pair.2.toList)
    (rest : List (List Char)) :
    readPairs ((pairs.map pairLine).map String.toList ++ ['}'] :: rest) = some pairs := by
  induction pairs with
  | nil => simp [readPairs]
  | cons pair more ih =>
    obtain ⟨hpair, hmore⟩ := List.forall_mem_cons.1 hreturn
    have hopen : (pairLine pair).toList ≠ ['}'] := by simp [toList_pairLine]
    rw [List.map_cons, List.map_cons, List.cons_append, readPairs, if_neg hopen,
      readPair_pairLine hpair.1 hpair.2, ih hmore]
    rfl

theorem opensMap_eq_false {line : List Char} (h : ∀ c ∈ line.head?, c ≠ 'c') :
    opensMap line = false := by
  cases line with
  | nil => rfl
  | cons c line =>
    have hc : 'c' ≠ c := Ne.symm (h c rfl)
    simp [opensMap, List.isPrefixOf, hc]

/-- What a module binds is read back from its text, wherever it is imported from. -/
theorem readMap_render {m : MapperModule} (hname : '\n' ∉ m.name.toList)
    (hmodel : '\n' ∉ m.model.type.toList) (hentity : '\n' ∉ m.entity.type.toList)
    (hpairs : ∀ pair ∈ pairs, OneLine pair.1 ∧ OneLine pair.2) :
    readMap (m.render pairs) = some pairs := by
  let imports := ["import \x7b Mapper, type TransformationMap \x7d from " ++ literal m.runtime,
    m.entity.line, m.model.line]
  let opening := "const transformationMap: TransformationMap<" ++ m.model.type ++ ", " ++
    m.entity.type ++ "> = \x7b"
  let binding := "export const " ++ m.name ++ " = new Mapper<" ++ m.entity.type ++ ", " ++
    m.model.type ++ ">(transformationMap)"
  let body := pairs.map pairLine ++ ["\x7d", "", binding]
  have hbody : ∀ l ∈ opening :: body, '\n' ∉ l.toList := by
    have hlines : ∀ l ∈ pairs.map pairLine, '\n' ∉ l.toList := by
      intro l hl
      obtain ⟨pair, hpair, rfl⟩ := List.mem_map.1 hl
      exact not_mem_pairLine (.inl rfl) (hpairs pair hpair).1.1 (hpairs pair hpair).2.1
    simpa [body, or_imp, forall_and, opening, binding, hname, hmodel, hentity] using hlines
  have htext : (m.render pairs).toList =
      (unlines imports).toList ++ '\n' :: (unlines (opening :: body)).toList := by
    simp [render, toList_unlines, imports, opening, body, binding]
  have hopens : opensMap opening.toList := by
    simp [opensMap, opening]
  have hothers : ∀ l ∈ body.map String.toList ++ [[]], opensMap l = false := by
    intro l hl
    refine opensMap_eq_false ?_
    simp only [body, List.map_append, List.mem_append, List.mem_map] at hl
    rcases hl with (⟨_, ⟨pair, -, rfl⟩, rfl⟩ | ⟨line, hline, rfl⟩) | hl
    · simp [toList_pairLine]
    · simp only [List.mem_cons, List.not_mem_nil, or_false] at hline
      rcases hline with rfl | rfl | rfl <;> simp [binding]
    · simp [List.mem_singleton.1 hl]
  have hreturn : ∀ pair ∈ pairs, '\r' ∉ pair.1.toList ∧ '\r' ∉ pair.2.toList :=
    fun pair hpair ↦ ⟨(hpairs pair hpair).1.2, (hpairs pair hpair).2.2⟩
  have hread := readPairs_append hreturn [[], binding.toList, []]
  rw [readMap, htext, parts_append, parts_unlines hbody, List.map_cons, List.cons_append,
    afterOpening_append _ hopens hothers, Option.bind_some]
  simpa [body] using hread

end MapperModule

end Reshape.TypeScript
