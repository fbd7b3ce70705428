import Reshape.Json.Outline
import Reshape.Keyed

namespace Reshape

namespace Outline

def checkEnd : Option Fault → Except Fault Unit
  | none => .ok ()
  | some f => .error f

mutual

/-- The value with at most `depth` arrays and objects inside one another; the first fault in the
text is the one reported. A repeated key keeps its first place and its last value. -/
def toJson : Nat → Outline → Except Fault Json
  | _, .null => .ok .null
  | _, .boolean b => .ok (.boolean b)
  | _, .number t =>
    match t.value? with
    | some n => .ok (.number n)
    | none => .error .malformed
  | _, .string s => s.decode.map .string
  | _, .cutNumber => .error .truncated
  | 0, .array _ _ => .error .malformed
  | depth + 1, .array items fault => do
    let items ← itemsToJson depth items
    checkEnd fault
    return .array items
  | 0, .object _ _ => .error .malformed
  | depth + 1, .object members fault => do
    let members ← membersToJson depth members
    checkEnd fault
    return .object (Keyed.ofList members)
  | _, .broken f => .error f

def itemsToJson : Nat → List Outline → Except Fault (List Json)
  | _, [] => .ok []
  | depth, v :: rest => do
    let v ← toJson depth v
    let rest ← itemsToJson depth rest
    return v :: rest

def membersToJson : Nat → List (Spelling × Outline) → Except Fault (List (String × Json))
  | _, [] => .ok []
  | depth, (key, v) :: rest => do
    let key ← key.decode
    let v ← toJson depth v
    let rest ← membersToJson depth rest
    return (key, v) :: rest

end

mutual

/-- A value that nobody asked for has to be well formed, but its numbers may be too large, its
surrogates alone, and its depth is not limited. Nobody waits for the rest of its numbers, so one
that breaks off is malformed. -/
def skip : Outline → Except Fault Unit
  | .null | .boolean _ | .number _ => .ok ()
  | .string s => checkEnd s.fault
  | .cutNumber => .error .malformed
  | .array items fault => do
    skipItems items
    checkEnd fault
  | .object members fault => do
    skipMembers members
    checkEnd fault
  | .broken f => .error f

def skipItems : List Outline → Except Fault Unit
  | [] => .ok ()
  | v :: rest => do
    skip v
    skipItems rest

def skipMembers : List (Spelling × Outline) → Except Fault Unit
  | [] => .ok ()
  | (key, v) :: rest => do
    checkEnd key.fault
    skip v
    skipMembers rest

end

end Outline

namespace Json

def depthLimit : Nat := 127

def ofText? (s : String) : Except Fault Json := do
  let (outline, more) := Outline.ofText s
  let v ← outline.toJson depthLimit
  if more then .error .malformed else .ok v

end Json

end Reshape
