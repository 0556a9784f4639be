import PackSpec.Yaml.Value

set_option autoImplicit false

namespace PackSpec.Yaml

open Decimal (Binary64)

namespace Plain

def isNull (text : String) : Bool :=
  ["null", "Null", "NULL", "~"].contains text

def bool? (text : String) : Option Bool :=
  if ["true", "True", "TRUE"].contains text then some true
  else if ["false", "False", "FALSE"].contains text then some false
  else none

def isZeroLed (text : String) : Bool :=
  match (Decimal.splitSign text.toList).2 with
  | '0' :: x :: rest => (x :: rest).all Char.isDigit
  | _ => false

def baseOf : Char → Option Nat
  | 'x' => some 16
  | 'o' => some 8
  | 'b' => some 2
  | _ => none

def magnitude (cs : List Char) : Option Nat :=
  match cs with
  | '0' :: x :: rest =>
    match baseOf x with
    | some base => Decimal.natOf base rest
    | none => if (x :: rest).all Char.isDigit then none else Decimal.natOf 10 cs
  | _ => Decimal.natOf 10 cs

def int? (text : String) : Option Int :=
  let (negative, rest) := Decimal.splitSign text.toList
  (magnitude rest).map fun n => if negative then -(n : Int) else n

/-- Integers between 64 and 128 bits cannot be held; larger ones are read as numbers. -/
def isHeldBack (n : Int) : Bool :=
  -0x80000000000000000000000000000000 ≤ n && n < 0x100000000000000000000000000000000

def float? (text : String) : Option Binary64 :=
  let cs := text.toList
  let unsigned := match cs with
    | '+' :: rest => rest
    | _ => cs
  if text != String.ofList unsigned && ['+', '-'].any (unsigned.head? == some ·) then none
  else if [".inf", ".Inf", ".INF"].contains (String.ofList unsigned) then some (.infinity false)
  else if ["-.inf", "-.Inf", "-.INF"].contains text then some (.infinity true)
  else if [".nan", ".NaN", ".NAN"].contains text then some .nan
  else (Decimal.numberOf (String.ofList unsigned)).filter Binary64.isFinite

end Plain

def ofPlain (text : String) : Option Yaml :=
  if text.isEmpty || Plain.isNull text then some .null
  else
    match Plain.bool? text with
    | some b => some (.bool b)
    | none =>
      match Plain.int? text with
      | some n =>
        match Integer.ofInt? n with
        | some i => some (.int i)
        | none =>
          if Plain.isHeldBack n then none
          else some (((Plain.float? text).map .float).getD (.str text))
      | none =>
        if Plain.isZeroLed text then some (.str text)
        else some (((Plain.float? text).map .float).getD (.str text))

end PackSpec.Yaml
