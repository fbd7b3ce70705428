import Reshape.Double.Text

namespace Reshape

/-- A number keeps the kind it was written as: a whole number in the range of 64 bits, with or
without a minus sign, or a decimal. -/
inductive JsonNumber where
  | natural (n : UInt64)
  | negative (i : Int64)
  | decimal (d : Double)
  deriving DecidableEq

inductive Json where
  | null
  | boolean (b : Bool)
  | number (n : JsonNumber)
  | string (s : String)
  | array (items : List Json)
  | object (members : List (String × Json))

end Reshape
