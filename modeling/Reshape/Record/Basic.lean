import Reshape.Double.Basic
import Reshape.Keyed

namespace Reshape

inductive Value where
  | null
  | boolean (b : Bool)
  | integer (i : Int64)
  /-- Used for whole numbers above the range of `integer`. -/
  | unsigned (n : UInt64)
  | decimal (d : Double)
  | string (s : String)
  | record (fields : List (String × Value))

/-- A tree of values by name, with the fields in the order of their first insertion. -/
abbrev Record := Keyed String Value

namespace Value

def ofUnsigned (n : UInt64) : Value :=
  if n.toNat < 0x8000000000000000 then .integer n.toInt64 else .unsigned n

def kind : Value → String
  | .null => "null"
  | .boolean _ => "boolean"
  | .integer _ | .unsigned _ => "integer"
  | .decimal _ => "decimal"
  | .string _ => "string"
  | .record _ => "record"

def isNull : Value → Bool
  | .null => true
  | _ => false

def string? : Value → Option String
  | .string s => some s
  | _ => none

def record? : Value → Option Record
  | .record fields => some fields
  | _ => none

mutual

/-- Equality of values. The order of fields does not count, kinds of number do, and decimals
are compared as numbers. -/
def same : Value → Value → Bool
  | .null, .null => true
  | .boolean a, .boolean b => a == b
  | .integer a, .integer b => a == b
  | .unsigned a, .unsigned b => a == b
  | .decimal a, .decimal b => a.same b
  | .string a, .string b => a == b
  | .record a, .record b => a.length == b.length && allFound a b
  | _, _ => false

def allFound : List (String × Value) → List (String × Value) → Bool
  | [], _ => true
  | (k, v) :: rest, other =>
    (match Keyed.get? k other with
      | some w => same v w
      | none => false) && allFound rest other

end

end Value

namespace Record

def same (a b : Record) : Bool := Value.same (.record a) (.record b)

end Record

end Reshape
