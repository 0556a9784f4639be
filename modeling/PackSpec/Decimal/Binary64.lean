set_option autoImplicit false

namespace PackSpec.Decimal

structure Binary64 where
  bits : UInt64
deriving DecidableEq, Repr, Inhabited

namespace Binary64

def signBit : Nat := 0x8000000000000000
def leadingBit : Nat := 0x10000000000000
def infinityMagnitude : Nat := 0x7FF * leadingBit
def quietBit : Nat := 0x8000000000000

def isNegative (x : Binary64) : Bool := signBit ≤ x.bits.toNat
def magnitude (x : Binary64) : Nat := x.bits.toNat % signBit
def isNaN (x : Binary64) : Bool := infinityMagnitude < x.magnitude
def isInfinite (x : Binary64) : Bool := x.magnitude == infinityMagnitude
def isFinite (x : Binary64) : Bool := x.magnitude < infinityMagnitude
def isZero (x : Binary64) : Bool := x.magnitude == 0

def ofMagnitude (negative : Bool) (magnitude : Nat) : Binary64 :=
  ⟨UInt64.ofNat (magnitude + if negative then signBit else 0)⟩

def nan : Binary64 := ofMagnitude false (infinityMagnitude + quietBit)
def infinity (negative : Bool) : Binary64 := ofMagnitude negative infinityMagnitude
def zero (negative : Bool) : Binary64 := ofMagnitude negative 0

/-- A finite magnitude is `(binary x).1 * 2 ^ ((binary x).2 - 1074)`. -/
def binary (x : Binary64) : Nat × Nat :=
  let fraction := x.magnitude % leadingBit
  match x.magnitude / leadingBit with
  | 0 => (fraction, 0)
  | e + 1 => (fraction + leadingBit, e)

def ratio (x : Binary64) : Nat × Nat :=
  let (m, e) := x.binary
  (m * Nat.pow 2 e, Nat.pow 2 1074)

def roundHalfEven (num den : Nat) : Nat :=
  let q := num / den
  let r := num % den
  if 2 * r < den || (2 * r == den && q % 2 == 0) then q else q + 1

def binaryExponent (num den : Nat) : Int :=
  let e : Int := (num.log2 : Int) - (den.log2 : Int)
  let reached := if 0 ≤ e then den * Nat.pow 2 e.toNat ≤ num
    else den ≤ num * Nat.pow 2 (-e).toNat
  if reached then e else e - 1

def ofRatio (negative : Bool) (num den : Nat) : Binary64 :=
  if num == 0 then zero negative
  else
    let q := max (binaryExponent num den - 52) (-1074)
    let m := if 0 ≤ q then roundHalfEven num (den * Nat.pow 2 q.toNat)
      else roundHalfEven (num * Nat.pow 2 (-q).toNat) den
    ofMagnitude negative (min ((q + 1074).toNat * leadingBit + m) infinityMagnitude)

def ofInt (n : Int) : Binary64 :=
  ofRatio (n < 0) n.natAbs 1

def numEq (x y : Binary64) : Bool :=
  !x.isNaN && !y.isNaN && ((x.isZero && y.isZero) || x == y)

def isWhole (x : Binary64) : Bool :=
  x.isFinite && x.ratio.1 % x.ratio.2 == 0

def leastInt : Int := -0x8000000000000000
def greatestInt : Int := 0x7FFFFFFFFFFFFFFF

/-- The whole part of the number, no further from zero than 64-bit integers reach; 0 for a NaN. -/
def toInt (x : Binary64) : Int :=
  if x.isNaN then 0
  else if x.isNegative then
    if x.isInfinite then leastInt else max (-(x.ratio.1 / x.ratio.2 : Nat)) leastInt
  else
    if x.isInfinite then greatestInt else min (x.ratio.1 / x.ratio.2 : Nat) greatestInt

/-- Orders all bit patterns: negative NaNs, negative numbers, positive numbers, positive NaNs. -/
def orderKey (x : Binary64) : Int :=
  if x.isNegative then -(x.magnitude : Int) - 1 else x.magnitude

def band (base : Nat) (x : Binary64) : Binary64 :=
  if x.isNaN then x
  else if x.isNegative then ofRatio false base 1
  else
    let (num, den) := if x.isInfinite || 100 * x.ratio.2 < x.ratio.1 then (100, 1) else x.ratio
    let (step, unit) := (ofRatio false num (den * 100)).ratio
    ofRatio false (base * unit + step) unit

end Binary64

end PackSpec.Decimal
