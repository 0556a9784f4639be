import PackSpec.Entries
import PackSpec.Param.Value
import PackSpec.Problem
import PackSpec.Text.Quoted

set_option autoImplicit false

namespace PackSpec

open Decimal (Binary64)

inductive Param.Shape where
  | bool
  | int
  | float
  | str
  | strs
  | classRef
  | classRefs
  | relationship
  | relationships
  | severity
  | dict
  | specs (child : Kind)
  | groups (child : Kind)
  | typedBy (field : String)
deriving DecidableEq, Repr

namespace Param.Shape

def describe : Param.Shape → String
  | .bool => "a boolean"
  | .int => "an integer"
  | .float => "a number"
  | .str => "a string"
  | .strs => "a list of strings"
  | .classRef => "a class name"
  | .classRefs => "a list of class names"
  | .relationship => "a relationship notation string"
  | .relationships => "a list of relationship notation strings"
  | .severity => "a severity (0-5 or a severity name)"
  | .dict => "a mapping"
  | .specs child => "a mapping of " ++ child.title ++ " entries"
  | .groups child => "a mapping of mappings of " ++ child.title ++ " entries"
  | .typedBy field => "a value whose type is given by '" ++ field ++ "'"

def emptyValue : Param.Shape → Param.Value
  | .strs => .strs []
  | .classRefs => .classRefs []
  | .relationships => .relationships []
  | .dict => .dict []
  | .specs child => .specs child []
  | .groups child => .groups child []
  | _ => .null

def isCollection (s : Param.Shape) : Bool := !s.emptyValue.isNull

def child? : Param.Shape → Option Kind
  | .specs child | .groups child => some child
  | _ => none

end Param.Shape

namespace Param

inductive Default where
  | required
  | empty
  | bool (value : Bool)
  | int (value : Int64)
  | float (value : Binary64)
  | str (text : String)
  | strs (texts : List String)
  | classRefs (tokens : List String)
deriving DecidableEq, Repr

namespace Default

def layout : Decimal.Layout :=
  ⟨.up, -3, 16, "inf", "-inf", "NaN"⟩

def shown : Default → String
  | .required => "Required"
  | .empty => "None"
  | .bool b => "Bool(" ++ (if b then "true" else "false") ++ ")"
  | .int n => "Int(" ++ toString n.toInt ++ ")"
  | .float x => "Float(" ++ layout.render x ++ ")"
  | .str s => "Str(" ++ Text.Quoted.encode s ++ ")"
  | .strs xs => "StrList(" ++ Text.Quoted.encodeList xs ++ ")"
  | .classRefs xs => "ClassRefList(" ++ Text.Quoted.encodeList xs ++ ")"

def fits : Default → Param.Shape → Bool
  | .required, _ | .empty, _ => true
  | .bool _, .bool => true
  | .int _, .int | .int _, .float => true
  | .float _, .float => true
  | .str _, .str | .str _, .typedBy _ => true
  | .strs _, .strs => true
  | .classRefs _, .classRefs => true
  | _, _ => false

end Default

end Param

structure Param where
  name : String
  external : String
  shape : Param.Shape
  default : Param.Default
  isBlock : Bool
deriving DecidableEq, Repr

namespace Param

def of (name : String) (shape : Shape) : Param := ⟨name, name, shape, .empty, false⟩
def called (p : Param) (external : String) : Param := { p with external }
def orElse (p : Param) (default : Default) : Param := { p with default }

def isRequired (p : Param) : Bool := p.default == .required

def defaultValue (p : Param) : Option Param.Value :=
  match p.default with
  | .required => none
  | .empty => some p.shape.emptyValue
  | .bool b => some (.bool b)
  | .int n => some (if p.shape = .float then .float (.ofInt n.toInt) else .int n)
  | .float x => some (.float x)
  | .str s => some (.str s)
  | .strs xs => some (.strs xs)
  | .classRefs xs => some (.classRefs (xs.map ClassRef.ofToken))

end Param

structure Places where
  names : Entries Nat
  externals : Entries Nat
deriving DecidableEq, Repr

namespace Places

def of (ps : List Param) : Places :=
  ⟨(ps.map Param.name).zipIdx, (ps.map Param.external).zipIdx⟩

def enter (places : Places) (place : Nat) (p : Param) : Except String Places :=
  if Entries.has places.names p.name then
    .error ("parameter '" ++ p.name ++ "' is declared twice")
  else if Entries.has places.externals p.external then
    .error ("external name '" ++ p.external ++ "' is used by more than one parameter")
  else if !p.default.fits p.shape then
    .error ("default " ++ p.default.shown ++ " of parameter '" ++ p.name ++ "' is not " ++
      p.shape.describe)
  else .ok ⟨Entries.put places.names p.name place, Entries.put places.externals p.external place⟩

def enterAll (places : Places) (place : Nat) : List Param → Except String Places
  | [] => .ok places
  | p :: rest =>
    match enter places place p with
    | .error reason => .error reason
    | .ok more => enterAll more (place + 1) rest

theorem enter_eq_ok_iff (before : List Param) (p : Param) (places : Places) :
    enter (of before) before.length p = .ok places ↔
      (p.name ∉ before.map Param.name ∧ p.external ∉ before.map Param.external ∧
        p.default.fits p.shape = true) ∧ places = of (before ++ [p]) := by
  have has (key : Param → String) :
      Entries.has (before.map key).zipIdx (key p) = decide (key p ∈ before.map key) := by
    rw [Bool.eq_iff_iff, Entries.has_iff, Entries.names, List.zipIdx_map_fst, decide_eq_true_iff]
  have put (key : Param → String) (fresh : key p ∉ before.map key) :
      Entries.put (before.map key).zipIdx (key p) before.length =
        ((before ++ [p]).map key).zipIdx := by
    simp [Entries.put, has key, fresh, List.zipIdx_append]
  unfold enter
  by_cases name : p.name ∈ before.map Param.name
  · simp [of, has, name]
  by_cases external : p.external ∈ before.map Param.external
  · simp [of, has, name, external]
  cases fits : p.default.fits p.shape with
  | false => simp [of, has, name, external]
  | true => simp [of, has, put, name, external, eq_comm]

theorem enterAll_ok (before ps : List Param) (places : Places)
    (entered : enterAll (of before) before.length ps = .ok places) :
    places = of (before ++ ps) := by
  induction ps generalizing before with
  | nil => simpa [enterAll] using entered.symm
  | cons p rest ih =>
    unfold enterAll at entered
    split at entered
    · cases entered
    · next more taken =>
      obtain rfl := ((enter_eq_ok_iff before p more).1 taken).2
      simpa using ih (before ++ [p]) (by simpa using entered)

end Places

structure Table where
  kind : Kind
  params : List Param
  places : Places
  placed : places = .of params
deriving DecidableEq, Repr

namespace Table

def get? (t : Table) (name : String) : Option Param :=
  (Entries.get? t.places.names name).bind fun place => t.params[place]?

def ofExternal? (t : Table) (external : String) : Option Param :=
  (Entries.get? t.places.externals external).bind fun place => t.params[place]?

def typeFault (ps : List Param) (places : Places) (p : Param) : Option String :=
  match p.shape with
  | .typedBy field =>
    match (Entries.get? places.names field).bind fun place => ps[place]? with
    | some q =>
      if q.shape = .str then none
      else some ("parameter '" ++ p.name ++ "' is typed by '" ++ field ++ "', which is " ++
        q.shape.describe ++ " rather than a string")
    | none =>
      some ("parameter '" ++ p.name ++ "' is typed by undeclared parameter '" ++ field ++ "'")
  | _ => none

def ofParams (kind : Kind) (ps : List Param) : Except Problem Table :=
  match entered : Places.enterAll ⟨[], []⟩ 0 ps with
  | .error reason => .error (.configuration kind.title reason)
  | .ok places =>
    match ps.findSome? (typeFault ps places) with
    | some reason => .error (.configuration kind.title reason)
    | none => .ok ⟨kind, ps, places, Places.enterAll_ok [] ps places entered⟩

end Table

end PackSpec
