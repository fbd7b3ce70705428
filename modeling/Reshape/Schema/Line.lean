import Reshape.Schema.Basic
import Reshape.Text.Blank
import Reshape.Text.Split

namespace Reshape

/-- Why a line does not belong to a schema. The texts it carries are trimmed. -/
inductive LineError where
  | badName (line : String)
  | manyArrows (line : String)
  | noColon (left : String)
  | noPath
  | noType (path : String)
  | noGroup (line : String)
  deriving DecidableEq

def LineError.message : LineError → String
  | .badName line => s!"invalid group header '{line}'"
  | .manyArrows line => s!"more than one '<=>' in '{line}'"
  | .noColon left => s!"expected '<source>: <type>', found '{left}'"
  | .noPath => "empty source path"
  | .noType path => s!"missing declared type for '{path}'"
  | .noGroup line => s!"mapping line '{line}' appears before any group header"

inductive Line where
  | blank
  | header (name : String)
  | mapping (f : Mapping)
  deriving DecidableEq

namespace Line

open Text

def arrow : List Char := ['<', '=', '>']

/-- A group name is one word without colons. -/
def isName (name : List Char) : Bool :=
  !name.isEmpty && name.all fun c ↦ c != ':' && !isBlank c

def sides (line : List Char) : Except LineError (List Char × Option (List Char)) :=
  match splitOnce arrow line with
  | none => .ok (line, none)
  | some (left, right) =>
    if contains arrow right then .error (.manyArrows (.ofList (trim line)))
    else .ok (left, some (trim right))

/-- The left part is cut at its first colon, so a type may hold colons and a model path may not. An
entity path that is absent or blank is the model path. -/
def ofSides (left : List Char) (target : Option (List Char)) : Except LineError Mapping :=
  match splitOnce [':'] left with
  | none => .error (.noColon (.ofList (trim left)))
  | some (path, type) =>
    let path := trim path
    let type := trim type
    if path.isEmpty then .error .noPath
    else if type.isEmpty then .error (.noType (.ofList path))
    else .ok ⟨.ofList path, .ofList type, .ofList ((target.filter (!·.isEmpty)).getD path)⟩

def mapping? (line : List Char) : Except LineError Mapping := do
  let (left, target) ← sides line
  ofSides left target

/-- A line that ends in a colon is a group header. Only the blanks at its end are taken away at
once, and those in front stay until its parts are trimmed. -/
def ofText (raw : List Char) : Except LineError Line :=
  let line := trimEnd raw
  if (trimStart line).isEmpty then .ok .blank
  else if line.getLast? = some ':' then
    let name := trim line.dropLast
    if isName name then .ok (.header (.ofList name)) else .error (.badName (.ofList (trim line)))
  else (mapping? line).map .mapping

end Line

end Reshape
