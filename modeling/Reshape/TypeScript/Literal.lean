namespace Reshape.TypeScript

def isIdentifierStart (c : Char) : Bool := c.isAlpha || c == '_' || c == '$'

def isIdentifierPart (c : Char) : Bool := isIdentifierStart c || c.isDigit

/-- Only ASCII names count as identifiers here; any other key is quoted. -/
def isIdentifier : List Char → Bool
  | [] => false
  | c :: rest => isIdentifierStart c && rest.all isIdentifierPart

def escapeChar (c : Char) : List Char := if c = '\\' ∨ c = '\'' then ['\\', c] else [c]

def literal (s : String) : String := String.ofList ('\'' :: s.toList.flatMap escapeChar ++ ['\''])

def memberName (s : String) : String := if isIdentifier s.toList then s else literal s

end Reshape.TypeScript
