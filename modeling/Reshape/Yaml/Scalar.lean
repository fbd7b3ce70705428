import Reshape.Double.Literal

namespace Reshape.Yaml

def digitsIn? (base : Nat) (digits : List Char) : Option Nat :=
  let digit? (c : Char) : Option Nat :=
    let c := c.toLower
    let d := if c.isDigit then c.toNat - '0'.toNat else c.toNat - 'a'.toNat + 10
    if (c.isDigit || c.isAlpha) && decide (d < base) then some d else none
  if digits.isEmpty then none
  else digits.foldlM (fun n c ↦ (digit? c).map (base * n + ·)) 0

/-- Digits after a zero are taken for a number, however many there are. -/
def isPadded : List Char → Bool
  | '0' :: c :: rest => (c :: rest).all Char.isDigit
  | _ => false

def isMagnitude (bound : Nat) (s : List Char) : Bool :=
  let value? := match s with
    | '0' :: 'x' :: digits => digitsIn? 16 digits
    | '0' :: 'o' :: digits => digitsIn? 8 digits
    | '0' :: 'b' :: digits => digitsIn? 2 digits
    | digits => digitsIn? 10 digits
  isPadded s || value?.any (· < bound)

def isInteger : List Char → Bool
  | '-' :: s => isMagnitude (Nat.pow 2 127 + 1) s
  | '+' :: s => isMagnitude (Nat.pow 2 128) s
  | s => isMagnitude (Nat.pow 2 128) s

def isFloat (s : List Char) : Bool :=
  let name := String.ofList s
  let named (words : List String) : Bool := words.contains name
  named [".nan", ".NaN", ".NAN", ".inf", ".Inf", ".INF", "+.inf", "+.Inf", "+.INF", "-.inf",
    "-.Inf", "-.INF"] || (Double.ofText? s).any Double.isFinite

/-- Plain texts that a reader takes for something other than a string. -/
def isAmbiguous (s : List Char) : Bool :=
  ["", "~", "null", "Null", "NULL", "true", "True", "TRUE", "false", "False", "FALSE"].contains
    (String.ofList s) || isInteger s || isFloat s

def isBreak (c : Char) : Bool :=
  c == '\r' || c == '\n' || c == '\x85' || c == '\u2028' || c == '\u2029'

def isBlank (c : Char) : Bool := c == ' ' || c == '\t' || isBreak c

def blankNext : List Char → Bool
  | [] => true
  | c :: _ => isBlank c

def isLeadingIndicator (c : Char) : Bool :=
  "#,[]\x7b\x7d&*!|>'\"%@\x60".toList.contains c

def beginsWithIndicator : List Char → Bool
  | '-' :: '-' :: '-' :: _ => true
  | '.' :: '.' :: '.' :: _ => true
  | c :: rest => isLeadingIndicator c || (c == '-' || c == '?' || c == ':') && blankNext rest
  | [] => false

def hasInnerIndicator : List Char → Bool
  | [] => false
  | [c] => c == ':'
  | c :: next :: rest =>
    c == ':' && isBlank next || isBlank c && next == '#' || hasInnerIndicator (next :: rest)

/-- Characters that have to be escaped. Beyond the first plane there are none. -/
def isSpecial (c : Char) : Bool :=
  let n := c.toNat
  n < 0x20 && n != 0x0A || decide (0x7F ≤ n ∧ n < 0xA0) || n == 0xFEFF || n == 0xFFFE || n == 0xFFFF

def hasSpaceAtBreak : List Char → Bool
  | a :: b :: rest =>
    isBreak a && b == ' ' || a == ' ' && isBreak b || hasSpaceAtBreak (b :: rest)
  | _ => false

def isPlain (s : List Char) : Bool :=
  !(isAmbiguous s || beginsWithIndicator s || hasInnerIndicator s || s.head? == some ' ' ||
    s.getLast? == some ' ' || s.any isBreak)

/-- A quote is doubled, and what follows a line separator is indented. -/
def singleQuotedFrom (indent : Nat) (afterBreak : Bool) : List Char → List Char
  | [] => (if afterBreak then List.replicate indent ' ' else []) ++ ['\'']
  | c :: rest =>
    let here := if c = '\'' then ['\'', '\''] else [c]
    if isBreak c then c :: singleQuotedFrom indent true rest
    else
      (if afterBreak then List.replicate indent ' ' else []) ++ here ++
        singleQuotedFrom indent false rest

def hexUpper (width n : Nat) : List Char :=
  let digits := (Nat.toDigits 16 n).map Char.toUpper
  List.replicate (width - digits.length) '0' ++ digits

def escapeChar (c : Char) : List Char :=
  match c with
  | '\x00' => ['\\', '0']
  | '\x07' => ['\\', 'a']
  | '\x08' => ['\\', 'b']
  | '\t' => ['\\', 't']
  | '\n' => ['\\', 'n']
  | '\x0B' => ['\\', 'v']
  | '\x0C' => ['\\', 'f']
  | '\r' => ['\\', 'r']
  | '\x1B' => ['\\', 'e']
  | '"' => ['\\', '"']
  | '\\' => ['\\', '\\']
  | '\x85' => ['\\', 'N']
  | '\u2028' => ['\\', 'L']
  | '\u2029' => ['\\', 'P']
  | c =>
    if isSpecial c then
      if c.toNat ≤ 0xFF then '\\' :: 'x' :: hexUpper 2 c.toNat
      else '\\' :: 'u' :: hexUpper 4 c.toNat
    else [c]

/-- A string on one line: plain if no reader can take it for anything else, between double
quotes if something has to be escaped, else between single quotes. -/
def scalar (indent : Nat) (s : String) : String :=
  let cs := s.toList
  if cs.any (fun c ↦ isSpecial c || c == '\n') || hasSpaceAtBreak cs then
    String.ofList ('"' :: cs.flatMap escapeChar ++ ['"'])
  else if isPlain cs then s
  else String.ofList ('\'' :: singleQuotedFrom indent false cs)

end Reshape.Yaml
