import Reshape.Text.Split

namespace Reshape

structure DottedPath where
  head : String
  rest : List String
  deriving DecidableEq

namespace DottedPath

/-- Every dot separates two segments, so the empty text has one empty segment. -/
def ofText (text : String) : DottedPath :=
  let (piece, pieces) := Text.splitOn '.' text.toList
  ⟨String.ofList piece, pieces.map String.ofList⟩

variable (p : DottedPath)

def segments : List String := p.head :: p.rest

def text : String :=
  String.ofList (Text.joinWith '.' p.head.toList (p.rest.map String.toList))

def length : Nat := p.segments.length

def isDotted : Bool := !p.rest.isEmpty

def last : String := p.rest.getLastD p.head

def tails : List DottedPath := go p.rest
where
  go : List String → List DottedPath
    | [] => []
    | head :: rest => ⟨head, rest⟩ :: go rest

theorem text_ofText (s : String) : (ofText s).text = s := by
  simp [text, ofText, Text.joinWith_splitOn]

/-- Segment by segment; a path comes before its extensions. The order of characters by code
point is that of their bytes. -/
def compareSegments : List String → List String → Ordering
  | [], [] => .eq
  | [], _ :: _ => .lt
  | _ :: _, [] => .gt
  | a :: as, b :: bs => if a = b then compareSegments as bs else if a < b then .lt else .gt

def compare (q : DottedPath) : Ordering := compareSegments p.segments q.segments

def sort (ps : List DottedPath) : List DottedPath := ps.mergeSort fun p q ↦ p.compare q != .gt

end DottedPath

end Reshape
