import Reshape.DottedPath
import Reshape.Record.Basic

namespace Reshape

namespace Record

/-- The value at a path. Every key before the last has to hold a record, and the empty path
leads to the record itself. -/
def at? (r : Record) : List String → Option Value
  | [] => some (.record r)
  | [key] => r.get? key
  | key :: next :: rest =>
    match r.get? key with
    | some (.record nested) => at? nested (next :: rest)
    | _ => none

end Record

namespace Value

mutual

def leafTextsAt (path : String) : Value → List String
  | .record [] => [path]
  | .record fields => leafTextsBelow path fields
  | _ => [path]

/-- A key is joined to the path by a dot, but stands alone where the path is the empty text. -/
def leafTextsBelow (path : String) : List (String × Value) → List String
  | [] => []
  | (k, v) :: rest =>
    leafTextsAt (if path.isEmpty then k else path ++ "." ++ k) v ++ leafTextsBelow path rest

end

end Value

namespace Record

def leafTexts (r : Record) : List String := Value.leafTextsBelow "" r

end Record

end Reshape
