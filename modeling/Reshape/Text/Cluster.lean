import Reshape.Text.Marks

namespace Reshape.Text

def isAttached (c : Char) : Bool :=
  inRanges extendingRanges c.toNat || inRanges spacingRanges c.toNat

def isPrepended (c : Char) : Bool := inRanges prependedRanges c.toNat

/-- The characters, each with the marks that belong to it. Texts of letters, marks, numbers and
spaces are expected; syllables of Hangul, which has no case, are left in pieces. -/
def clusters : List Char → List (List Char)
  | [] => []
  | [c] => [[c]]
  | c :: next :: rest =>
    match clusters (next :: rest) with
    | [] => [[c]]
    | cluster :: others =>
      if isAttached next || isPrepended c then (c :: cluster) :: others
      else [c] :: cluster :: others

/-- Clusters only cut the text. -/
theorem flatten_clusters (s : List Char) : (clusters s).flatten = s := by
  fun_induction clusters s with
  | case1 => rfl
  | case2 => rfl
  | case3 c next rest h ih => simp [h] at ih
  | case4 c next rest cluster others h _ ih => simpa [h] using ih
  | case5 c next rest cluster others h _ ih => simpa [h] using ih

end Reshape.Text
