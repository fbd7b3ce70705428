import Reshape.Json.Number

namespace Reshape

inductive Piece where
  | char (c : Char)
  | unit (n : Nat)

/-- A string as far as it can be scanned; without a fault it reached its closing quote. -/
structure Spelling where
  pieces : List Piece
  fault : Option Fault

namespace Spelling

def simpleEscape? : Char → Option Char
  | '"' => some '"'
  | '\\' => some '\\'
  | '/' => some '/'
  | 'b' => some '\x08'
  | 'f' => some '\x0C'
  | 'n' => some '\n'
  | 'r' => some '\r'
  | 't' => some '\t'
  | _ => none

def hexDigit? (c : Char) : Option Nat :=
  if c.isDigit then some (c.toNat - '0'.toNat)
  else if 'a' ≤ c ∧ c ≤ 'f' then some (c.toNat - 'a'.toNat + 10)
  else if 'A' ≤ c ∧ c ≤ 'F' then some (c.toNat - 'A'.toNat + 10)
  else none

def hexValue? (digits : List Char) : Option Nat :=
  digits.foldlM (fun n c ↦ (hexDigit? c).map (16 * n + ·)) 0

/-- Four digits are asked for, and a text with fewer than four bytes left ends too early. -/
def shortUnitFault (rest : List Char) : Fault :=
  if rest.foldr (fun c n ↦ c.utf8Size + n) 0 < 4 then .truncated else .malformed

def scan : List Char → Spelling × List Char
  | [] => (⟨[], some .truncated⟩, [])
  | '\\' :: 'u' :: a :: b :: c :: d :: rest =>
    match hexValue? [a, b, c, d] with
    | some n =>
      let (s, rest) := scan rest
      ({ s with pieces := .unit n :: s.pieces }, rest)
    | none => (⟨[], some .malformed⟩, [])
  | '\\' :: 'u' :: rest => (⟨[], some (shortUnitFault rest)⟩, [])
  | ['\\'] => (⟨[], some .truncated⟩, [])
  | '\\' :: c :: rest =>
    match simpleEscape? c with
    | some e =>
      let (s, rest) := scan rest
      ({ s with pieces := .char e :: s.pieces }, rest)
    | none => (⟨[], some .malformed⟩, [])
  | c :: rest =>
    if c = '"' then (⟨[], none⟩, rest)
    else if c.toNat < 0x20 then (⟨[], some .malformed⟩, [])
    else
      let (s, rest) := scan rest
      ({ s with pieces := .char c :: s.pieces }, rest)

theorem length_scan (s : List Char) : (scan s).2.length ≤ s.length := by
  fun_induction scan s <;> simp_all <;> omega

def isLead (n : Nat) : Bool := decide (0xD800 ≤ n ∧ n < 0xDC00)

def isTrail (n : Nat) : Bool := decide (0xDC00 ≤ n ∧ n < 0xE000)

/-- Units in the surrogate range count only as a pair, one right after the other. A first half
at the end of an unfinished string is not yet at fault. -/
def decodePieces (fault : Option Fault) : List Piece → Except Fault (List Char)
  | [] => match fault with
    | none => .ok []
    | some f => .error f
  | .char c :: rest => (decodePieces fault rest).map (c :: ·)
  | .unit n :: rest =>
    if isTrail n then .error .malformed
    else if isLead n then
      match rest with
      | [] => .error (fault.getD .malformed)
      | .unit m :: rest =>
        if isTrail m then
          (decodePieces fault rest).map
            (Char.ofNat (0x10000 + (n - 0xD800) * 0x400 + (m - 0xDC00)) :: ·)
        else .error .malformed
      | _ => .error .malformed
    else (decodePieces fault rest).map (Char.ofNat n :: ·)

def decode (s : Spelling) : Except Fault String :=
  (decodePieces s.fault s.pieces).map String.ofList

end Spelling

end Reshape
