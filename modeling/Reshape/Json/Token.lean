import Reshape.Json.Spelling

namespace Reshape

inductive Mark where
  | openBrace
  | closeBrace
  | openBracket
  | closeBracket
  | colon
  | comma
  deriving DecidableEq

/-- The smallest parts of a JSON text. A fault stands for a name that breaks off, a number that is
none, or a character that begins nothing. -/
inductive Token where
  | mark (m : Mark)
  | null
  | boolean (b : Bool)
  | number (t : NumberText)
  | string (s : Spelling)
  /-- A number with nothing after a sign, a point or an exponent mark. -/
  | cutNumber
  | fault (f : Fault)

namespace Token

def mark? : Char → Option Mark
  | '\x7b' => some .openBrace
  | '\x7d' => some .closeBrace
  | '[' => some .openBracket
  | ']' => some .closeBracket
  | ':' => some .colon
  | ',' => some .comma
  | _ => none

def isBlank (c : Char) : Bool := c == ' ' || c == '\t' || c == '\n' || c == '\r'

def scanName (t : Token) : List Char → List Char → Token × List Char
  | [], rest => (t, rest)
  | _ :: _, [] => (.fault .truncated, [])
  | e :: es, c :: rest => if c = e then scanName t es rest else (.fault .malformed, [])

def scanFrom (c : Char) (rest : List Char) : Token × List Char :=
  match mark? c with
  | some m => (.mark m, rest)
  | none =>
    if c = '"' then
      let (s, rest) := Spelling.scan rest
      (.string s, rest)
    else if c = 'n' then scanName .null ['u', 'l', 'l'] rest
    else if c = 't' then scanName (.boolean true) ['r', 'u', 'e'] rest
    else if c = 'f' then scanName (.boolean false) ['a', 'l', 's', 'e'] rest
    else if c = '-' ∨ c.isDigit then
      match NumberText.scan (c :: rest) with
      | .ok (t, rest) => (.number t, rest)
      | .error .truncated => (.cutNumber, [])
      | .error .malformed => (.fault .malformed, [])
    else (.fault .malformed, [])

theorem length_scanName (t : Token) (name s : List Char) :
    (scanName t name s).2.length ≤ s.length := by
  fun_induction scanName t name s <;> simp_all
  omega

theorem length_scanFrom (c : Char) (s : List Char) : (scanFrom c s).2.length ≤ s.length := by
  unfold scanFrom
  split
  · exact Nat.le_refl _
  · split
    · exact Spelling.length_scan s
    · split
      · exact length_scanName ..
      · split
        · exact length_scanName ..
        · split
          · exact length_scanName ..
          · split
            · split
              · rename_i hn
                exact Nat.le_of_lt_succ (NumberText.length_scan hn)
              · exact Nat.zero_le _
              · exact Nat.zero_le _
            · exact Nat.zero_le _

def all : List Char → List Token
  | [] => []
  | c :: rest =>
    if isBlank c then all rest
    else (scanFrom c rest).1 :: all (scanFrom c rest).2
termination_by s => s.length
decreasing_by
  · simp
  · have := length_scanFrom c rest
    simp only [List.length_cons]
    omega

end Token

end Reshape
