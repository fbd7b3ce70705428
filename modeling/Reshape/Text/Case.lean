import Reshape.Text.CaseTable
import Reshape.Text.SigmaContext

namespace Reshape.Text

def mapCase (runs : List CaseRun) (expansions : List (Nat × List Nat)) (c : Char) : List Char :=
  match expansions.lookup c.toNat with
  | some codes => codes.map Char.ofNat
  | none =>
    match runs.find? (·.covers c.toNat) with
    | some run => [Char.ofNat (c.toNat + run.shift).toNat]
    | none => [c]

def upper (c : Char) : List Char := mapCase upperRuns upperExpansions c

def lower (c : Char) : List Char := mapCase lowerRuns lowerExpansions c

def leadsToCased (s : List Char) : Bool :=
  match s.dropWhile isCaseIgnorable with
  | [] => false
  | c :: _ => isCased c

/-- A capital sigma that ends a word has a lower case of its own, so the text before it, nearest
character first, and the text after it are looked at. -/
def lowerSigma (before after : List Char) : Char :=
  if leadsToCased before && !leadsToCased after then 'ς' else 'σ'

def lowerAfter (before : List Char) : List Char → List Char
  | [] => []
  | c :: rest =>
    (if c = 'Σ' then [lowerSigma before rest] else lower c) ++ lowerAfter (c :: before) rest

def lowerCase (s : List Char) : List Char := lowerAfter [] s

def upperCase (s : List Char) : List Char := s.flatMap upper

/-- Titlecase digraphs and letters of scripts without case are neither upper nor lower. -/
def isUpper (s : List Char) : Bool := upperCase s != lowerCase s && upperCase s == s

def isLower (s : List Char) : Bool := upperCase s != lowerCase s && lowerCase s == s

end Reshape.Text
