import Reshape.TypeScript.Literal

namespace Reshape.TypeScript

/-- Reads a literal whose opening quote is gone: what it stands for, and what follows its closing
quote. Nothing but quotes and backslashes is ever escaped. -/
def readLiteral : List Char → Option (List Char × List Char)
  | [] => none
  | '\'' :: rest => some ([], rest)
  | '\\' :: c :: rest =>
    if c = '\\' ∨ c = '\'' then (readLiteral rest).map fun (s, rest) ↦ (c :: s, rest) else none
  | c :: rest => (readLiteral rest).map fun (s, rest) ↦ (c :: s, rest)

def readMemberName : List Char → Option (List Char × List Char)
  | '\'' :: rest => readLiteral rest
  | text =>
    let name := text.takeWhile isIdentifierPart
    if isIdentifier name then some (name, text.dropWhile isIdentifierPart) else none

variable {rest : List Char}

theorem readLiteral_escapeChar (c : Char) (rest : List Char) :
    readLiteral (escapeChar c ++ rest) = (readLiteral rest).map fun (s, rest) ↦ (c :: s, rest) := by
  by_cases hslash : c = '\\'
  · simp [escapeChar, readLiteral, hslash]
  · by_cases hquote : c = '\''
    · simp [escapeChar, readLiteral, hquote]
    · simp [escapeChar, hslash, hquote, readLiteral]

theorem readLiteral_flatMap_escapeChar (s rest : List Char) :
    readLiteral (s.flatMap escapeChar ++ '\'' :: rest) = some (s, rest) := by
  induction s with
  | nil => rfl
  | cons c s ih => simp [readLiteral_escapeChar, ih]

theorem toList_literal (s : String) :
    (literal s).toList = '\'' :: (s.toList.flatMap escapeChar ++ ['\'']) := by
  simp [literal]

theorem isIdentifierPart_of_isIdentifier {name : List Char} (h : isIdentifier name) :
    ∀ c ∈ name, isIdentifierPart c := by
  cases name with
  | nil => simp
  | cons c name =>
    simp only [isIdentifier, Bool.and_eq_true, List.all_eq_true] at h
    simp only [List.forall_mem_cons]
    exact ⟨by simp [isIdentifierPart, h.1], h.2⟩

theorem readMemberName_of_isIdentifier {name : List Char} (h : isIdentifier name)
    (hrest : ∀ c ∈ rest.head?, ¬ isIdentifierPart c) :
    readMemberName (name ++ rest) = some (name, rest) := by
  have hall := isIdentifierPart_of_isIdentifier h
  have htake : (name ++ rest).takeWhile isIdentifierPart = name := by
    rw [List.takeWhile_append_of_pos hall]
    cases rest with
    | nil => simp
    | cons c rest => simp [hrest c rfl]
  have hdrop : (name ++ rest).dropWhile isIdentifierPart = rest := by
    rw [List.dropWhile_append_of_pos hall]
    cases rest with
    | nil => rfl
    | cons c rest => simp [hrest c rfl]
  have hquote : ∀ text, name ++ rest ≠ '\'' :: text := by
    intro text heq
    cases name with
    | nil => simp [isIdentifier] at h
    | cons c name =>
      obtain rfl : c = '\'' := (List.cons.inj heq).1
      exact absurd (hall '\'' List.mem_cons_self) (by decide)
  rw [readMemberName]
  · simp [htake, hdrop, h]
  · exact hquote

/-- A key is read back as it was, whatever its text. -/
theorem readMemberName_memberName (s : String) (rest : List Char)
    (hrest : ∀ c ∈ rest.head?, ¬ isIdentifierPart c) :
    readMemberName ((memberName s).toList ++ rest) = some (s.toList, rest) := by
  unfold memberName
  split
  · exact readMemberName_of_isIdentifier ‹_› hrest
  · have h := readLiteral_flatMap_escapeChar s.toList rest
    simpa [toList_literal, readMemberName] using h

theorem mem_escapeChar {c d : Char} (h : c ∈ escapeChar d) (hc : c ≠ '\\') : c = d := by
  unfold escapeChar at h
  split at h
  · simpa [hc] using h
  · exact List.mem_singleton.1 h

theorem mem_of_mem_flatMap_escapeChar {c : Char} {s : List Char} (h : c ∈ s.flatMap escapeChar)
    (hc : c ≠ '\\') : c ∈ s := by
  obtain ⟨d, hd, hmem⟩ := List.mem_flatMap.1 h
  exact mem_escapeChar hmem hc ▸ hd

theorem mem_of_mem_literal {c : Char} {s : String} (h : c ∈ (literal s).toList) (hc : c ≠ '\\')
    (hquote : c ≠ '\'') : c ∈ s.toList := by
  rw [toList_literal] at h
  simp only [List.mem_cons, List.mem_append, hquote, List.not_mem_nil, or_false, false_or] at h
  exact mem_of_mem_flatMap_escapeChar h hc

theorem mem_of_mem_memberName {c : Char} {s : String} (h : c ∈ (memberName s).toList)
    (hc : c ≠ '\\') (hquote : c ≠ '\'') : c ∈ s.toList := by
  unfold memberName at h
  split at h
  · exact h
  · exact mem_of_mem_literal h hc hquote

theorem memberName_ne_space (s : String) : ∀ c ∈ (memberName s).toList.head?, c ≠ ' ' := by
  unfold memberName
  split
  · rename_i h
    rintro c hc rfl
    have hpart := isIdentifierPart_of_isIdentifier h ' ' (List.mem_of_head? hc)
    exact absurd hpart (by decide)
  · simp [toList_literal]

theorem memberName_ne_nil (s : String) : (memberName s).toList ≠ [] := by
  unfold memberName
  split
  · rename_i h
    intro hnil
    simp [hnil, isIdentifier] at h
  · simp [toList_literal]

end Reshape.TypeScript
