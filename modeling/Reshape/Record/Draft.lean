import Reshape.DottedPath
import Reshape.Record.Basic

namespace Reshape

namespace Record

def nested : Option Value → Record
  | some (.record fields) => fields
  | _ => []

/-- The record with `v` at the path `key :: rest`. Whatever is no record on the way gives way to
one, and keys keep their places. -/
def assign (r : Record) (key : String) (v : Value) : List String → Record
  | [] => r.insert key v
  | next :: rest => r.insert key (.record (assign (nested (r.get? key)) next v rest))

end Record

/-- What a key of a draft stands for: a value that is settled, or a record that still grows. -/
inductive DraftPart where
  | settled (v : Value)
  | growing (parts : List (String × DraftPart))

/-- A record in the making. A record that was put in as a value is opened only when a later path
goes through it. -/
abbrev Draft := Keyed String DraftPart

namespace DraftPart

mutual

def finish : DraftPart → Value
  | .settled v => v
  | .growing parts => .record (finishAll parts)

def finishAll : List (String × DraftPart) → List (String × Value)
  | [] => []
  | (k, part) :: rest => (k, finish part) :: finishAll rest

end

end DraftPart

namespace Draft

def ofRecord (r : Record) : Draft := r.map fun (k, v) ↦ (k, .settled v)

def finish (d : Draft) : Record := DraftPart.finishAll d

/-- The parts below a key. A value that is put at the key closes what grew there, and a value
other than a record is lost once a path goes through it. -/
def below : Option DraftPart → Draft
  | some (.growing parts) => parts
  | some (.settled (.record fields)) => ofRecord fields
  | _ => []

def putAt (d : Draft) (key : String) (v : Value) : List String → Draft
  | [] => d.insert key (.settled v)
  | next :: rest => d.insert key (.growing (putAt (below (d.get? key)) next v rest))

def put (d : Draft) (p : DottedPath) (v : Value) : Draft := d.putAt p.head v p.rest

end Draft

end Reshape
