set_option autoImplicit false

namespace PackSpec

inductive Multiplicity where
  | single
  | multi
  | multiOwning
deriving DecidableEq, Repr

namespace Multiplicity

def all : List Multiplicity := [.single, .multi, .multiOwning]

def name : Multiplicity → String
  | .single => "single"
  | .multi => "multi"
  | .multiOwning => "multi_owning"

def hostType : Multiplicity → String
  | .single => "ToOne"
  | .multi => "ToMany"
  | .multiOwning => "ToManyCont"

def token : Multiplicity → String
  | .single => "1"
  | .multi => "M"
  | .multiOwning => "MC"

def isSingle (k : Multiplicity) : Bool :=
  k == .single

def ofText? (text : String) : Option Multiplicity :=
  all.find? fun k => k.name == text || k.hostType == text

def rejection (text : String) : String :=
  "unrecognized relationship type '" ++ text ++ "'"

theorem ofText?_name (k : Multiplicity) : ofText? k.name = some k := by
  cases k <;> rfl

theorem ofText?_hostType (k : Multiplicity) : ofText? k.hostType = some k := by
  cases k <;> rfl

end Multiplicity

def isOrientation : Multiplicity → Multiplicity → Bool
  | .single, .single | .multi, .single | .multiOwning, .single | .multi, .multi => true
  | _, _ => false

/-- The count of a side is the kind of the other, seen from there. -/
def cardinalityText (left right : Multiplicity) : String :=
  right.token ++ ":" ++ left.token

def cardinality? (left right : Multiplicity) : Option String :=
  if isOrientation left right then some (cardinalityText left right) else none

def kindsOfCardinality? : String → Option (Multiplicity × Multiplicity)
  | "1:1" => some (.single, .single)
  | "1:M" => some (.multi, .single)
  | "1:MC" => some (.multiOwning, .single)
  | "M:M" => some (.multi, .multi)
  | _ => none

theorem kindsOfCardinality?_cardinalityText (left right : Multiplicity)
    (h : isOrientation left right) :
    kindsOfCardinality? (cardinalityText left right) = some (left, right) := by
  cases left <;> cases right <;> first | rfl | cases h

end PackSpec
