import Reshape.Json.Spelling
import Reshape.Proofs.TypeScript.MapperModule

namespace Reshape.TypeScript

open MapperModule

def unitsOfPoint (n : Nat) : List Nat :=
  if n < 0x10000 then [n] else [0xD800 + (n - 0x10000) / 0x400, 0xDC00 + (n - 0x10000) % 0x400]

def units (s : List Char) : List Nat := s.flatMap fun c ↦ unitsOfPoint c.toNat

def controlEscape? : Char → Option Nat
  | 'b' => some 0x08
  | 't' => some 0x09
  | 'n' => some 0x0A
  | 'v' => some 0x0B
  | 'f' => some 0x0C
  | 'r' => some 0x0D
  | _ => none

def isLineEnd (c : Char) : Bool :=
  c == '\n' || c == '\r' || c.toNat == 0x2028 || c.toNat == 0x2029

/-- What a backslash and one character stand for. The end of a line stands for nothing, as the
literal goes on in the next one, and octal escapes have no place in a module. -/
def escape? (c : Char) (next : Option Char) : Option (List Nat) :=
  if isLineEnd c then some []
  else if c == 'x' || c == 'u' then none
  else if c.isDigit then if c == '0' && !next.any Char.isDigit then some [0] else none
  else some (((controlEscape? c).map ([·])).getD (unitsOfPoint c.toNat))

def bracedPoint? (digits : List Char) : Option (List Nat) :=
  if digits = [] then none
  else ((Spelling.hexValue? digits).filter (· ≤ 0x10FFFF)).map unitsOfPoint

def withUnits (us : Option (List Nat)) (read : Option (List Nat × List Char)) :
    Option (List Nat × List Char) :=
  us.bind fun us ↦ read.map fun (more, rest) ↦ (us ++ more, rest)

mutual

/-- Reads a string literal whose opening quote is gone, by all the rules of the language: the units
that it stands for, and what follows its closing quote. The separators of lines and of paragraphs
may stand in a literal, a line feed or a carriage return may not. -/
def readString : List Char → Option (List Nat × List Char)
  | [] => none
  | '\'' :: rest => some ([], rest)
  | '\\' :: '\r' :: '\n' :: rest => readString rest
  | '\\' :: 'x' :: a :: b :: rest =>
    withUnits ((Spelling.hexValue? [a, b]).map ([·])) (readString rest)
  | '\\' :: 'u' :: '{' :: rest => readBraced [] rest
  | '\\' :: 'u' :: a :: b :: c :: d :: rest =>
    withUnits ((Spelling.hexValue? [a, b, c, d]).map ([·])) (readString rest)
  | '\\' :: c :: rest => withUnits (escape? c rest.head?) (readString rest)
  | c :: rest =>
    if c = '\n' ∨ c = '\r' then none
    else withUnits (some (unitsOfPoint c.toNat)) (readString rest)

def readBraced (digits : List Char) : List Char → Option (List Nat × List Char)
  | [] => none
  | '}' :: rest => withUnits (bracedPoint? digits) (readString rest)
  | c :: rest => readBraced (digits ++ [c]) rest

end

def hasBareQuote : List Char → Bool
  | [] => false
  | '\\' :: _ :: rest => hasBareQuote rest
  | c :: rest => c == '\'' || hasBareQuote rest

/-- A literal that no quote ends too early and no line feed runs through. -/
def InQuotes (literal : String) : Prop :=
  ∃ inner, literal.toList = '\'' :: (inner ++ ['\'']) ∧ hasBareQuote inner = false ∧ '\n' ∉ inner

/-- A literal that ends in its line and stands for a text and no other one, whatever follows it. -/
structure ClosedLiteral (literal text : String) : Prop where
  inQuotes : InQuotes literal
  return_not_mem : '\r' ∉ literal.toList
  decoded : ∀ rest s,
    readString (literal.toList.tail ++ rest) = some (units s.toList, rest) ↔ s = text

instance (s : String) : Decidable (OneLine s) := inferInstanceAs (Decidable (_ ∧ _))

variable {s t rest : List Char} {us vs : List Nat}

theorem unitsOfPoint_append_inj {c d : Char}
    (h : unitsOfPoint c.toNat ++ us = unitsOfPoint d.toNat ++ vs) : c = d ∧ us = vs := by
  have hc : c.toNat.isValidChar := c.valid
  have hd : d.toNat.isValidChar := d.valid
  have hpoint : c.toNat = d.toNat → c = d := fun h ↦ Char.ext (UInt32.toNat_inj.1 h)
  -- A point above the first plane begins with a unit that is no point.
  simp only [Nat.isValidChar] at hc hd
  unfold unitsOfPoint at h
  split at h <;> split at h <;> simp only [List.cons_append, List.nil_append, List.cons.injEq] at h
  · exact ⟨hpoint h.1, h.2⟩
  · omega
  · omega
  · exact ⟨hpoint (by omega), h.2.2⟩

theorem unitsOfPoint_ne_nil (n : Nat) : unitsOfPoint n ≠ [] := by
  unfold unitsOfPoint
  split <;> simp

theorem units_injective : Function.Injective units := by
  intro s t h
  induction s generalizing t with
  | nil =>
    cases t with
    | nil => rfl
    | cons d t => exact absurd (List.append_eq_nil_iff.1 h.symm).1 (unitsOfPoint_ne_nil _)
  | cons c s ih =>
    cases t with
    | nil => exact absurd (List.append_eq_nil_iff.1 h).1 (unitsOfPoint_ne_nil _)
    | cons d t =>
      obtain ⟨rfl, htail⟩ := unitsOfPoint_append_inj h
      rw [ih htail]

theorem readString_escapeChar (c : Char) (rest : List Char) : readString (escapeChar c ++ rest) =
    if c = '\n' ∨ c = '\r' then none
    else withUnits (some (unitsOfPoint c.toNat)) (readString rest) := by
  by_cases hslash : c = '\\'
  · subst hslash
    simp [escapeChar, readString, escape?, isLineEnd, controlEscape?]
  · by_cases hquote : c = '\''
    · subst hquote
      simp [escapeChar, readString, escape?, isLineEnd, controlEscape?]
    · simp [escapeChar, hslash, hquote, readString]

theorem readString_flatMap_escapeChar (s rest : List Char) :
    readString (s.flatMap escapeChar ++ '\'' :: rest) =
      if '\n' ∉ s ∧ '\r' ∉ s then some (units s, rest) else none := by
  induction s with
  | nil => rfl
  | cons c s ih =>
    rw [List.flatMap_cons, List.append_assoc, readString_escapeChar, ih]
    by_cases hc : c = '\n' ∨ c = '\r'
    · rw [if_pos hc]
      grind
    · obtain ⟨hfeed, hreturn⟩ := not_or.1 hc
      have hfeed' : '\n' ≠ c := Ne.symm hfeed
      have hreturn' : '\r' ≠ c := Ne.symm hreturn
      simp only [if_neg hc, List.mem_cons, hfeed', hreturn', false_or]
      split <;> rfl

/-- Escaping quotes and backslashes is enough for a text of one line. Any other text would need
further escapes, and its literal cannot be read. -/
theorem readString_literal (s : String) (rest : List Char) :
    readString ((literal s).toList.tail ++ rest) =
      if OneLine s then some (units s.toList, rest) else none := by
  rw [toList_literal, List.tail_cons, List.append_assoc]
  exact readString_flatMap_escapeChar s.toList rest

theorem hasBareQuote_flatMap_escapeChar (s : List Char) :
    hasBareQuote (s.flatMap escapeChar) = false := by
  induction s with
  | nil => rfl
  | cons c s ih =>
    rw [List.flatMap_cons, escapeChar]
    split
    · exact ih
    · rename_i hc
      obtain ⟨hslash, hquote⟩ := not_or.1 hc
      simp [hasBareQuote, hslash, hquote, ih]

theorem inQuotes_literal {s : String} (hfeed : '\n' ∉ s.toList) : InQuotes (literal s) :=
  ⟨_, toList_literal s, hasBareQuote_flatMap_escapeChar _,
    fun h ↦ hfeed (mem_of_mem_flatMap_escapeChar h (by decide))⟩

theorem closedLiteral_literal_iff (s : String) : ClosedLiteral (literal s) s ↔ OneLine s := by
  constructor
  · intro hclosed
    by_contra hline
    have hread := (hclosed.decoded [] s).2 rfl
    rw [readString_literal, if_neg hline] at hread
    cases hread
  · intro hline
    refine ⟨inQuotes_literal hline.1, ?_, fun rest t ↦ ?_⟩
    · exact fun h ↦ hline.2 (mem_of_mem_literal h (by decide) (by decide))
    · rw [readString_literal, if_pos hline]
      simp [units_injective.eq_iff, String.toList_inj, eq_comm (a := t)]

end Reshape.TypeScript
