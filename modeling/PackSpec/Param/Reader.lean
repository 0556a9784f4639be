import PackSpec.Param.Catalog

set_option autoImplicit false

namespace PackSpec

open Decimal (Binary64)

structure Reader where
  table : Table
  params : Params

namespace Reader

abbrev Read (α : Type) : Type := ExceptT Problem (StateM Reader) α

def ofKind (k : Kind) (params : Params) : Reader := ⟨k.table, params⟩

def construction (name expected : String) (found : Param.Value) : Read Problem := do
  return .construction (← get).table.kind.title
    ("parameter '" ++ name ++ "' must be " ++ expected ++ ", not " ++ found.typeName)

def mismatch {α : Type} (name expected : String) (found : Param.Value) : Read α := do
  throw (← construction name expected found)

def take (name : String) : Read (Option Param.Value) := do
  let r ← get
  set { r with params := Entries.erase r.params name }
  return Entries.get? r.params name

def default (p : Param) : Read Param.Value := do
  match p.defaultValue with
  | some v => return v
  | none =>
    throw (.construction (← get).table.kind.title
      ("missing required parameter '" ++ p.external ++ "'"))

def value (name : String) : Read Param.Value := do
  let table := (← get).table
  match table.get? name with
  | none => throw (.configuration table.kind.title ("no parameter '" ++ name ++ "' is declared"))
  | some p =>
    match ← take name with
    | none | some .null => default p
    | some v => return v

def bool? (name : String) : Read (Option Bool) := do
  match ← value name with
  | .null => return none
  | .bool b => return some b
  | v => mismatch name "a boolean" v

def bool (name : String) : Read Bool := do
  return (← bool? name).getD false

def int? (name : String) : Read (Option Int64) := do
  match ← value name with
  | .null => return none
  | .int n => return some n
  | v => mismatch name "an integer" v

def float? (name : String) : Read (Option Binary64) := do
  match ← value name with
  | .null => return none
  | .float x => return some x
  | .int n => return some (.ofInt n.toInt)
  | v => mismatch name "a number" v

def str? (name : String) : Read (Option String) := do
  match ← value name with
  | .null => return none
  | .str s => return some s
  | v => mismatch name "a string" v

def str (name : String) : Read String := do
  return (← str? name).getD ""

def strs (name : String) : Read (List String) := do
  match ← value name with
  | .null => return []
  | .strs xs => return xs
  | .str s => return [s]
  | v => mismatch name "a list of strings" v

def classRefs (name : String) : Read (List ClassRef) := do
  match ← value name with
  | .null => return []
  | .classRefs cs => return cs
  | .classRef c => return [c]
  | .strs xs => return xs.map ClassRef.ofToken
  | .str s => return [.ofToken s]
  | v => mismatch name "a list of class names" v

def relationships (name : String) : Read (List Decl) := do
  match ← value name with
  | .null => return []
  | .relationships ds => return ds
  | .relationship d => return [d]
  | v => mismatch name "a list of relationship schemas" v

def severity? (name : String) : Read (Option Severity) := do
  match ← value name with
  | .null => return none
  | .severity s => return some s
  | .int n =>
    match Severity.ofLevel? n.toInt with
    | some s => return some s
    | none => mismatch name "a severity" (.int n)
  | v => mismatch name "a severity" v

def dict (name : String) : Read (List (Yaml × Yaml)) := do
  match ← value name with
  | .null => return []
  | .dict m => return m
  | v => mismatch name "a mapping" v

def specs (name : String) (child : Kind) : Read Children := do
  match ← value name with
  | .null => return []
  | .specs k cs =>
    if k = child then return cs else mismatch name "a collection of specs" (.specs k cs)
  | v => mismatch name "a collection of specs" v

def groups (name : String) (child : Kind) : Read Groups := do
  match ← value name with
  | .null => return []
  | .groups k gs =>
    if k = child then return gs else mismatch name "a dict of spec collections" (.groups k gs)
  | v => mismatch name "a dict of spec collections" v

def declared (p : Param) : Read Param.Value :=
  match p.shape with
  | .bool => return .ofOption .bool (← bool? p.name)
  | .int => return .ofOption .int (← int? p.name)
  | .float => return .ofOption .float (← float? p.name)
  | .str => return .ofOption .str (← str? p.name)
  | .strs => return .strs (← strs p.name)
  | .classRefs => return .classRefs (← classRefs p.name)
  | .relationships => return .relationships (← relationships p.name)
  | .severity => return .ofOption .severity (← severity? p.name)
  | .dict => return .dict (← dict p.name)
  | .specs child => return .specs child (← specs p.name child)
  | .groups child => return .groups child (← groups p.name child)
  | .classRef | .relationship | .typedBy _ => value p.name

def leftOver (r : Reader) : List String :=
  r.params.map fun (name, _) => ((r.table.get? name).map Param.external).getD name

def named (p : Param) : Read (String × Param.Value) := do
  return (p.name, ← declared p)

end Reader

end PackSpec
