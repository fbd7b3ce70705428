import Reshape.Keyed
import Reshape.Schema.Line

namespace Reshape

/-- What happens when a group or a model path is declared twice: the later declaration takes the
place of the earlier one, or the schema is refused. -/
inductive Repeats where
  | replace
  | refuse
  deriving DecidableEq

inductive ParseError where
  | badLine (group : Option String) (line : Nat) (reason : LineError)
  | repeatedPath (group path : String) (line firstLine : Nat)
  | repeatedGroup (group : String) (line firstLine : Nat)
  deriving DecidableEq

namespace ParseError

def message : ParseError → String
  | .badLine _ line reason =>
    let text := reason.message
    s!"Malformed schema at line {line}: {text}"
  | .repeatedPath group path line firstLine =>
    s!"Duplicate source path '{path}' in group '{group}' at line {line} " ++
      s!"(first declared at line {firstLine})"
  | .repeatedGroup group line firstLine =>
    s!"Duplicate group '{group}' at line {line} (first declared at line {firstLine})"

def group? : ParseError → Option String
  | .badLine group _ _ => group
  | .repeatedPath group _ _ _ => some group
  | .repeatedGroup group _ _ => some group

def line : ParseError → Nat
  | .badLine _ line _ => line
  | .repeatedPath _ _ line _ => line
  | .repeatedGroup _ line _ => line

end ParseError

namespace Schema

structure Declared where
  position : Nat
  line : Nat
  deriving DecidableEq

structure Current where
  position : Nat
  seen : Keyed String Declared

structure ReaderState where
  groups : List FieldGroup
  headers : Keyed String Declared
  current : Option Current

namespace ReaderState

def start : ReaderState := ⟨[], [], none⟩

variable (repeats : Repeats) (s : ReaderState)

def current? : Option (Current × FieldGroup) :=
  s.current.bind fun c ↦ s.groups[c.position]?.map fun g ↦ (c, g)

/-- A group that is opened again loses its mappings and keeps its place. -/
def enter (name : String) (line : Nat) : Except ParseError ReaderState :=
  match s.headers.get? name with
  | none => .ok
    { groups := s.groups ++ [⟨name, []⟩]
      headers := s.headers.insert name ⟨s.groups.length, line⟩
      current := some ⟨s.groups.length, []⟩ }
  | some first =>
    match repeats with
    | .refuse => .error (.repeatedGroup name line first.line)
    | .replace => .ok
      { s with
        groups := s.groups.modify first.position fun g ↦ { g with mappings := [] }
        current := some ⟨first.position, []⟩ }

/-- A model path that is declared again keeps its place in the group. -/
def declare (c : Current) (g : FieldGroup) (f : Mapping) (line : Nat) :
    Except ParseError ReaderState :=
  let withMappings (mappings : List Mapping) :=
    s.groups.modify c.position fun g ↦ { g with mappings }
  match c.seen.get? f.modelPath with
  | none => .ok
    { s with
      groups := withMappings (g.mappings ++ [f])
      current := some { c with seen := c.seen.insert f.modelPath ⟨g.mappings.length, line⟩ } }
  | some first =>
    match repeats with
    | .refuse => .error (.repeatedPath g.name f.modelPath line first.line)
    | .replace => .ok { s with groups := withMappings (g.mappings.set first.position f) }

def readLine (raw : List Char) (line : Nat) : Except ParseError ReaderState :=
  match Line.ofText raw with
  | .error reason => .error (.badLine (s.current?.map (·.2.name)) line reason)
  | .ok .blank => .ok s
  | .ok (.header name) => s.enter repeats name line
  | .ok (.mapping f) =>
    match s.current? with
    | none => .error (.badLine none line (.noGroup (.ofList (Text.trim raw))))
    | some (c, g) => s.declare repeats c g f line

def readLines (repeats : Repeats) :
    ReaderState → Nat → List (List Char) → Except ParseError ReaderState
  | s, _, [] => .ok s
  | s, line, raw :: rest =>
    match s.readLine repeats raw line with
    | .ok s => readLines repeats s (line + 1) rest
    | .error e => .error e

end ReaderState

/-- Reads a schema. The first line that cannot be read decides the error. -/
def parse (repeats : Repeats) (text : String) : Except ParseError Schema :=
  (ReaderState.start.readLines repeats 1 (Text.lines text.toList)).map fun s ↦ ⟨s.groups⟩

end Schema

end Reshape
