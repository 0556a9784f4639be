import PackSpec.Decimal.Shortest

set_option autoImplicit false

namespace PackSpec.Decimal

structure Layout where
  tie : Tie
  leastPlaces : Int
  mostPlaces : Int
  infinity : String
  negativeInfinity : String
  nan : String

namespace Layout

def zeros (n : Nat) : String :=
  String.ofList (List.replicate n '0')

def positional (digits : String) (places : Int) : String :=
  let count : Int := digits.length
  if places ≤ 0 then "0." ++ zeros (-places).toNat ++ digits
  else if count ≤ places then digits ++ zeros (places - count).toNat ++ ".0"
  else
    let cs := digits.toList
    String.ofList (cs.take places.toNat) ++ "." ++ String.ofList (cs.drop places.toNat)

def scientific (digits : String) (places : Int) : String :=
  let exponent := toString (places - 1)
  match digits.toList with
  | [] => ""
  | [c] => c.toString ++ "e" ++ exponent
  | c :: cs => c.toString ++ "." ++ String.ofList cs ++ "e" ++ exponent

def magnitude (l : Layout) (x : Binary64) : String :=
  if x.isZero then "0.0"
  else
    let (d, t) := shortest l.tie x
    let digits := toString d
    let places := digits.length + t
    if l.leastPlaces ≤ places && places ≤ l.mostPlaces then positional digits places
    else scientific digits places

def render (l : Layout) (x : Binary64) : String :=
  if x.isNaN then l.nan
  else if x.isInfinite then if x.isNegative then l.negativeInfinity else l.infinity
  else (if x.isNegative then "-" else "") ++ l.magnitude x

end Layout

end PackSpec.Decimal
