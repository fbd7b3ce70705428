namespace Reshape.Text

def splitOn (sep : Char) : List Char → List Char × List (List Char)
  | [] => ([], [])
  | c :: cs =>
    let (piece, pieces) := splitOn sep cs
    if c = sep then ([], piece :: pieces) else (c :: piece, pieces)

def splitOnce (sep : List Char) : List Char → Option (List Char × List Char)
  | [] => if sep.isEmpty then some ([], []) else none
  | c :: cs =>
    if sep.isPrefixOf (c :: cs) then some ([], (c :: cs).drop sep.length)
    else (splitOnce sep cs).map fun (left, right) ↦ (c :: left, right)

def contains (part text : List Char) : Bool := (splitOnce part text).isSome

/-- A line feed ends a line, and one carriage return right before it belongs to the ending. -/
def dropReturn (line : List Char) : List Char :=
  if line.getLast? = some '\r' then line.dropLast else line

/-- Every piece but the last was ended by a line feed; an empty last piece is no line. -/
def endedLines : List Char → List (List Char) → List (List Char)
  | last, [] => if last.isEmpty then [] else [last]
  | line, next :: rest => dropReturn line :: endedLines next rest

def lines (text : List Char) : List (List Char) :=
  let (first, rest) := splitOn '\n' text
  endedLines first rest

def joinWith (sep : Char) : List Char → List (List Char) → List Char
  | piece, [] => piece
  | piece, next :: rest => piece ++ sep :: joinWith sep next rest

theorem joinWith_splitOn (sep : Char) (s : List Char) :
    joinWith sep (splitOn sep s).1 (splitOn sep s).2 = s := by
  induction s with
  | nil => rfl
  | cons c cs ih =>
    by_cases h : c = sep
    · simp [splitOn, h, joinWith, ih]
    · cases hp : (splitOn sep cs).2 <;> simp_all [splitOn, joinWith]

end Reshape.Text
