import Reshape.DottedPath
import Reshape.Keyed
import Reshape.Schema.Basic
import Reshape.TypeScript.Literal

namespace Reshape.TypeScript

/-- The members of an interface: those with a type of their own, and the nested blocks by key.
A key may be declared more than once. -/
inductive Block where
  | node (members : List (String × String)) (blocks : List (String × Block))

namespace Block

def empty : Block := .node [] []

def members : Block → List (String × String)
  | .node members _ => members

def blocks : Block → Keyed String Block
  | .node _ blocks => blocks

def declare (b : Block) (key type : String) : List String → Block
  | [] => .node (b.members ++ [(key, type)]) b.blocks
  | next :: rest =>
    .node b.members (b.blocks.insert key (((b.blocks.get? key).getD empty).declare next type rest))

/-- The paths are cut at all their dots beforehand. To cut the texts at the first dot only, and again
in each nested block, gives the same (`Block.ofFields_eq_node`). -/
def ofFields (fields : List TypedPath) : Block :=
  fields.foldl
    (fun b f ↦
      let p := DottedPath.ofText f.path
      b.declare p.head f.type p.rest)
    empty

end Block

def indent (line : String) : String := "  " ++ line

namespace Block

mutual

/-- Typed members come first, then the nested blocks, each in order of first appearance. -/
def lines : Block → List String
  | .node members blocks =>
    members.map (fun (key, type) ↦ memberName key ++ ": " ++ type) ++ blockLines blocks

def blockLines : List (String × Block) → List String
  | [] => []
  | (key, b) :: rest =>
    (memberName key ++ ": \x7b") :: ((lines b).map indent ++ "\x7d" :: blockLines rest)

end

end Block

def unlines (lines : List String) : String := String.join (lines.map (· ++ "\n"))

def interfaceText (name : String) (fields : List TypedPath) : String :=
  unlines <|
    ("export interface " ++ name ++ " \x7b") ::
      ((Block.ofFields fields).lines.map indent ++ ["\x7d"])

end Reshape.TypeScript
