import Reshape.Keyed
import Reshape.Schema.Basic

namespace Reshape

abbrev PathMap := Keyed String String

namespace PathMap

def ofGroup (g : FieldGroup) : PathMap := Keyed.ofList g.pairs

variable (m : PathMap)

def put (output input : String) : Option String × PathMap :=
  (m.get? output, m.insert output input)

def outputs : List String := m.keys

def inputs : List String := m.map (·.2)

def inputsDistinct : Bool := decide m.inputs.Nodup

/-- Equality as sets of pairs. Outputs are distinct, so one direction and the lengths suffice. -/
def same (other : PathMap) : Bool :=
  m.length == other.length && m.all fun (output, input) ↦ other.get? output == some input

/-- The map with both sides of every pair swapped. Of the outputs that read one input the last
remains, at the place of the first. -/
def inverse : PathMap :=
  Keyed.ofList (m.map fun (output, input) ↦ (input, output))

end PathMap

end Reshape
