import PackSpec.Decimal.Binary64
import PackSpec.Text.Basic

set_option autoImplicit false

namespace PackSpec.Decimal

def digitValue (c : Char) : Option Nat :=
  if '0' ≤ c && c ≤ '9' then some (c.toNat - '0'.toNat)
  else if 'a' ≤ c && c ≤ 'z' then some (c.toNat - 'a'.toNat + 10)
  else if 'A' ≤ c && c ≤ 'Z' then some (c.toNat - 'A'.toNat + 10)
  else none

def natFrom (base : Nat) (value : Nat) : List Char → Option Nat
  | [] => some value
  | c :: rest =>
    match digitValue c with
    | some d => if d < base then natFrom base (value * base + d) rest else none
    | none => none

def natOf (base : Nat) (cs : List Char) : Option Nat :=
  if cs.isEmpty then none else natFrom base 0 cs

def splitSign : List Char → Bool × List Char
  | '-' :: rest => (true, rest)
  | '+' :: rest => (false, rest)
  | cs => (false, cs)

def integerOf (base : Nat) (cs : List Char) : Option Int :=
  let (negative, rest) := splitSign cs
  (natOf base rest).map fun n => if negative then -(n : Int) else n

def isInt64 (n : Int) : Bool :=
  -0x8000000000000000 ≤ n && n < 0x8000000000000000

def int64Of (s : String) : Option Int64 :=
  match integerOf 10 s.toList with
  | some n => if isInt64 n then some (Int64.ofInt n) else none
  | none => none

def exponentOf : List Char → Option Int
  | [] => some 0
  | c :: rest => if c == 'e' || c == 'E' then integerOf 10 rest else none

/-- The number `digits * 10 ^ exponent`; magnitudes far outside the range are not computed. -/
def scaled (negative : Bool) (digits : Nat) (width : Nat) (exponent : Int) : Binary64 :=
  if digits == 0 || width + exponent < -400 then .zero negative
  else if 400 < exponent + width && 400 < exponent + (toString digits).length then
    .infinity negative
  else if 0 ≤ exponent then .ofRatio negative (digits * Nat.pow 10 exponent.toNat) 1
  else .ofRatio negative digits (Nat.pow 10 (-exponent).toNat)

def isDecimalDigit (c : Char) : Bool := '0' ≤ c && c ≤ '9'

def unsignedOf (negative : Bool) (cs : List Char) : Option Binary64 :=
  let whole := cs.takeWhile isDecimalDigit
  let afterWhole := cs.dropWhile isDecimalDigit
  let (fraction, rest) := match afterWhole with
    | '.' :: more => (more.takeWhile isDecimalDigit, more.dropWhile isDecimalDigit)
    | _ => ([], afterWhole)
  match natOf 10 (whole ++ fraction), exponentOf rest with
  | some digits, some exponent =>
    some (scaled negative digits (whole.length + fraction.length) (exponent - fraction.length))
  | _, _ => none

def asciiLower (cs : List Char) : List Char :=
  cs.map Char.toLower

def numberOf (s : String) : Option Binary64 :=
  let (negative, rest) := splitSign s.toList
  let name := String.ofList (asciiLower rest)
  if name == "inf" || name == "infinity" then some (.infinity negative)
  else if name == "nan" then
    some (.ofMagnitude negative (Binary64.infinityMagnitude + Binary64.quietBit))
  else unsignedOf negative rest

end PackSpec.Decimal
