import Reshape.Json.Reader
import Reshape.Record.Basic

namespace Reshape

namespace Json

def kind : Json → String
  | .null => "null"
  | .boolean _ => "boolean"
  | .number _ => "number"
  | .string _ => "string"
  | .array _ => "array"
  | .object _ => "object"

end Json

inductive RecordError where
  | notARecord (found : String)
  | unreadable (f : Fault)
  | arrayInside
  deriving DecidableEq

namespace Value

def ofNumber : JsonNumber → Value
  | .natural n => ofUnsigned n
  | .negative i => .integer i
  | .decimal d => .decimal d

mutual

def ofJson? : Json → Option Value
  | .null => some .null
  | .boolean b => some (.boolean b)
  | .number n => some (ofNumber n)
  | .string s => some (.string s)
  | .array _ => none
  | .object members => (ofMembers? members).map .record

def ofMembers? : List (String × Json) → Option (List (String × Value))
  | [] => some []
  | (k, v) :: rest =>
    match ofJson? v, ofMembers? rest with
    | some v, some rest => some ((k, v) :: rest)
    | _, _ => none

end

def integerNumber (i : Int64) : JsonNumber :=
  if i < 0 then .negative i else .natural i.toUInt64

def decimalJson (d : Double) : Json :=
  if d.isFinite then .number (.decimal d) else .null

mutual

def toJson : Value → Json
  | .null => .null
  | .boolean b => .boolean b
  | .integer i => .number (integerNumber i)
  | .unsigned n => .number (.natural n)
  | .decimal d => decimalJson d
  | .string s => .string s
  | .record fields => .object (fieldsToJson fields)

def fieldsToJson : List (String × Value) → List (String × Json)
  | [] => []
  | (k, v) :: rest => (k, toJson v) :: fieldsToJson rest

end

end Value

namespace Record

def toJson (r : Record) : Json := .object (Value.fieldsToJson r)

/-- The keys of an object are taken to be distinct, as reading a text makes them. -/
def ofJson : Json → Except RecordError Record
  | .object members =>
    match Value.ofMembers? members with
    | some fields => .ok fields
    | none => .error .arrayInside
  | other => .error (.notARecord other.kind)

/-- A fault in the text counts before the kind of the value. -/
def ofText (text : String) : Except RecordError Record :=
  match Json.ofText? text with
  | .ok v => ofJson v
  | .error f => .error (.unreadable f)

end Record

end Reshape
