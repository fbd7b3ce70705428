import Reshape.Double.Shortest

namespace Reshape.Double

def positional (digits : List Char) (x : Int) : List Char :=
  if 0 ≤ x then
    let whole := x.toNat + 1
    let fraction := digits.drop whole
    digits.take whole ++ List.replicate (whole - digits.length) '0' ++
      '.' :: (if fraction.isEmpty then ['0'] else fraction)
  else '0' :: '.' :: List.replicate ((-x).toNat - 1) '0' ++ digits

/-- One digit before the point, which is left out when nothing follows it, and an exponent that
always has a sign. -/
def scientific (digits : List Char) (x : Int) : List Char :=
  let mantissa := match digits with
    | first :: second :: rest => first :: '.' :: second :: rest
    | _ => digits
  mantissa ++ 'e' :: (if 0 ≤ x then '+' else '-') :: Nat.toDigits 10 x.natAbs

def layout (digits : List Char) (x : Int) : List Char :=
  if -5 ≤ x ∧ x ≤ 15 then positional digits x else scientific digits x

def text (d : Double) : String :=
  let body :=
    if d.isZero then ['0', '.', '0']
    else
      let shortest := d.shortestDigits
      layout shortest.1 shortest.2
  String.ofList (if d.isNegative then '-' :: body else body)

end Reshape.Double
