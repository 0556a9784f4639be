import PackSpec.Decimal.Binary64

set_option autoImplicit false

namespace PackSpec.Decimal

inductive Tie where
  | even
  | up
deriving DecidableEq, Repr

structure Interval where
  low : Nat
  value : Nat
  high : Nat
  den : Nat
  closed : Bool

namespace Interval

def of (x : Binary64) : Interval :=
  let (m, e) := x.binary
  let below := if m == Binary64.leadingBit && e != 0 then 1 else 2
  { low := (4 * m - below) * Nat.pow 2 e
    value := 4 * m * Nat.pow 2 e
    high := (4 * m + 2) * Nat.pow 2 e
    den := 4 * Nat.pow 2 1074
    closed := m % 2 == 0 }

def scale (i : Interval) (t : Int) : Interval :=
  if 0 ≤ t then { i with den := i.den * Nat.pow 10 t.toNat }
  else
    let p := Nat.pow 10 (-t).toNat
    { i with low := i.low * p, value := i.value * p, high := i.high * p }

def holds (i : Interval) (d : Nat) : Bool :=
  (i.low < d * i.den && d * i.den < i.high) ||
    (i.closed && (d * i.den == i.low || d * i.den == i.high))

def nearer (i : Interval) (tie : Tie) (d : Nat) : Nat :=
  let below := i.value - d * i.den
  let above := (d + 1) * i.den - i.value
  if below < above then d
  else if above < below then d + 1
  else match tie with
    | .even => if d % 2 == 0 then d else d + 1
    | .up => d + 1

def pick (i : Interval) (tie : Tie) : Option Nat :=
  let d := i.value / i.den
  match i.holds d, i.holds (d + 1) with
  | true, true => some (i.nearer tie d)
  | true, false => some d
  | false, true => some (d + 1)
  | false, false => none

def decimalExponent (i : Interval) : Int :=
  let guess := (Binary64.binaryExponent i.value i.den * 30103).fdiv 100000
  let reaches (p : Int) : Bool := let s := i.scale p; s.den ≤ s.value
  if !reaches guess then guess
  else if !reaches (guess + 1) then guess + 1
  else guess + 2

end Interval

def dropZeros : Nat → Nat → Int → Nat × Int
  | 0, d, t => (d, t)
  | fuel + 1, d, t => if d != 0 && d % 10 == 0 then dropZeros fuel (d / 10) (t + 1) else (d, t)

def shortest (tie : Tie) (x : Binary64) : Nat × Int :=
  let i := Interval.of x
  let p := i.decimalExponent
  let found := (List.range 17).findSome? fun n =>
    let t := p - (n + 1 : Nat)
    ((i.scale t).pick tie).map fun d => (d, t)
  match found with
  | some (d, t) => dropZeros 18 d t
  | none => (0, 0)

end PackSpec.Decimal
