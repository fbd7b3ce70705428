import Reshape.Json.Printer
import Reshape.Json.Reader
import Reshape.Text.Quoted

namespace Reshape

inductive Misfit where
  | kind (found expected : String)
  | missingField (name : String)
  | duplicateField (name : String)
  | length (found : Nat) (expected : String)
  deriving DecidableEq

def Misfit.message : Misfit → String
  | .kind found expected => s!"invalid type: {found}, expected {expected}"
  | .missingField name => "missing field `" ++ name ++ "`"
  | .duplicateField name => "duplicate field `" ++ name ++ "`"
  | .length found expected => s!"invalid length {found}, expected {expected}"

inductive ReadError where
  | fault (f : Fault)
  | misfit (m : Misfit)
  deriving DecidableEq

def JsonNumber.description : JsonNumber → String
  | .natural n => "integer `" ++ toString n.toNat ++ "`"
  | .negative i => "integer `" ++ toString i.toInt ++ "`"
  | .decimal d => "floating point `" ++ d.text ++ "`"

namespace Outline

def liftFault {α : Type} : Except Fault α → Except ReadError α
  | .ok v => .ok v
  | .error f => .error (.fault f)

/-- What a message says was found. Only as much of the text is looked at as that takes. -/
def description : Outline → Except Fault String
  | .null => .ok "null"
  | .boolean b => .ok ("boolean `" ++ Json.booleanText b ++ "`")
  | .number t =>
    match t.value? with
    | some n => .ok n.description
    | none => .error .malformed
  | .string s => s.decode.map fun s ↦ "string " ++ Text.quoted s
  | .array _ _ => .ok "sequence"
  | .object _ _ => .ok "map"
  | .cutNumber => .error .truncated
  | .broken f => .error f

def unexpected {α : Type} (v : Outline) (expected : String) : Except ReadError α :=
  match v.description with
  | .ok found => .error (.misfit (.kind found expected))
  | .error f => .error (.fault f)

def readString : Outline → Except ReadError String
  | .string s => liftFault s.decode
  | v => v.unexpected "a string"

def readBoolean : Outline → Except ReadError Bool
  | .boolean b => .ok b
  | v => v.unexpected "a boolean"

def readItems {α : Type} (read : Outline → Except ReadError α) (fault : Option Fault) :
    List Outline → Except ReadError (List α)
  | [] => do
    liftFault (checkEnd fault)
    return []
  | v :: rest => do
    let v ← read v
    let rest ← readItems read fault rest
    return v :: rest

def readList {α : Type} (read : Outline → Except ReadError α) : Outline → Except ReadError (List α)
  | .array items fault => readItems read fault items
  | v => v.unexpected "a sequence"

/-- The members one after another. `take` says what becomes of the state with a known key, and
nothing for an unknown one, whose value is skipped. -/
def foldMembers {σ : Type} (take : σ → String → Option (Outline → Except ReadError σ))
    (fault : Option Fault) : σ → List (Spelling × Outline) → Except ReadError σ
  | s, [] => do
    liftFault (checkEnd fault)
    return s
  | s, (key, v) :: rest => do
    let key ← liftFault key.decode
    match take s key with
    | some read =>
      let s ← read v
      foldMembers take fault s rest
    | none =>
      liftFault v.skip
      foldMembers take fault s rest

def once {α β : Type} (name : String) (previous : Option α)
    (read : Outline → Except ReadError β) (v : Outline) : Except ReadError β :=
  match previous with
  | some _ => .error (.misfit (.duplicateField name))
  | none => read v

def nextItem (fault : Option Fault) :
    List Outline → Except ReadError (Option (Outline × List Outline))
  | [] => do
    liftFault (checkEnd fault)
    return none
  | v :: rest => return some (v, rest)

def noMoreItems (fault : Option Fault) : List Outline → Except ReadError Unit
  | [] => liftFault (checkEnd fault)
  | _ :: _ => .error (.fault .malformed)

def readText {α : Type} (read : Outline → Except ReadError α) (text : String) :
    Except ReadError α := do
  let (outline, more) := ofText text
  let v ← read outline
  if more then .error (.fault .malformed) else .ok v

end Outline

end Reshape
