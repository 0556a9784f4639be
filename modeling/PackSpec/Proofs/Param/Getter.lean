import PackSpec.Proofs.Param.Reading

set_option autoImplicit false

namespace PackSpec.Reader

open Decimal (Binary64)

inductive Getter where
  | value
  | bool?
  | bool
  | int?
  | float?
  | str?
  | str
  | strs
  | classRefs
  | relationships
  | severity?
  | dict
  | specs (child : Kind)
  | groups (child : Kind)
deriving DecidableEq, Repr

namespace Getter

abbrev Result : Getter → Type
  | .value => Param.Value
  | .bool? => Option Bool
  | .bool => Bool
  | .int? => Option Int64
  | .float? => Option Binary64
  | .str? => Option String
  | .str => String
  | .strs => List String
  | .classRefs => List ClassRef
  | .relationships => List Decl
  | .severity? => Option Severity
  | .dict => List (Yaml × Yaml)
  | .specs _ => Children
  | .groups _ => Groups

def read : (g : Getter) → String → Read g.Result
  | .value => Reader.value
  | .bool? => Reader.bool?
  | .bool => Reader.bool
  | .int? => Reader.int?
  | .float? => Reader.float?
  | .str? => Reader.str?
  | .str => Reader.str
  | .strs => Reader.strs
  | .classRefs => Reader.classRefs
  | .relationships => Reader.relationships
  | .severity? => Reader.severity?
  | .dict => Reader.dict
  | .specs child => fun name => Reader.specs name child
  | .groups child => fun name => Reader.groups name child

def shape? : Getter → Option Param.Shape
  | .value => none
  | .bool? | .bool => some .bool
  | .int? => some .int
  | .float? => some .float
  | .str? | .str => some .str
  | .strs => some .strs
  | .classRefs => some .classRefs
  | .relationships => some .relationships
  | .severity? => some .severity
  | .dict => some .dict
  | .specs child => some (.specs child)
  | .groups child => some (.groups child)

def view : (g : Getter) → Param.Value → g.Result
  | .value, v => v
  | .bool?, .bool b => some b
  | .bool?, _ => none
  | .bool, .bool b => b
  | .bool, _ => false
  | .int?, .int n => some n
  | .int?, _ => none
  | .float?, .float x => some x
  | .float?, _ => none
  | .str?, .str s => some s
  | .str?, _ => none
  | .str, .str s => s
  | .str, _ => ""
  | .strs, .strs xs => xs
  | .strs, _ => []
  | .classRefs, .classRefs cs => cs
  | .classRefs, _ => []
  | .relationships, .relationships ds => ds
  | .relationships, _ => []
  | .severity?, .severity s => some s
  | .severity?, _ => none
  | .dict, .dict m => m
  | .dict, _ => []
  | .specs _, .specs _ cs => cs
  | .specs _, _ => []
  | .groups _, .groups _ gs => gs
  | .groups _, _ => []

def convert (g : Getter) (k : Kind) (name : String) (v : Param.Value) : Except Problem g.Result :=
  match g.shape? with
  | none => .ok (g.view v)
  | some s =>
    match s.accept v with
    | some w => .ok (g.view w)
    | none => .error ((Param.of name s).misfit k v)

def answer (g : Getter) (k : Kind) (p : Param) : Option Param.Value → Except Problem g.Result
  | some v => g.convert k p.name v
  | none => .error (p.missing k)

end Getter

theorem outcome_value_undeclared (r : Reader) (name : String) (unknown : r.table.get? name = none) :
    outcome (value name) r =
      (.error (.configuration r.table.kind.title
        ("no parameter '" ++ name ++ "' is declared")), r) := by
  rw [outcome_value_table, unknown]
  rfl

theorem outcome_read (g : Getter) (name : String) (r : Reader) :
    outcome (g.read name) r =
      match outcome (value name) r with
      | (.ok v, after) => (g.convert after.table.kind name v, after)
      | (.error e, after) => (.error e, after) := by
  cases g with
  | value =>
    change outcome (value name) r = _
    rcases outcome (value name) r with ⟨_ | _, _⟩ <;> rfl
  | severity? =>
    simp only [Getter.read, severity?, outcome_bind]
    rcases outcome (value name) r with ⟨_ | v, after⟩
    · rfl
    · cases v with
      | int n =>
        simp only [Getter.convert, Getter.shape?, Param.Shape.accept]
        cases Severity.ofLevel? n.toInt <;> rfl
      | _ => rfl
  | specs child | groups child =>
    simp only [Getter.read, specs, groups, outcome_bind]
    rcases outcome (value name) r with ⟨_ | v, after⟩
    · rfl
    · cases v with
      | specs found _ | groups found _ =>
        by_cases same : found = child <;>
          simp only [outcome_mismatch, outcome_pure, same, if_true, if_false, Getter.convert,
            Getter.shape?, Getter.view, Param.misfit, Param.of, Param.Shape.accept,
            Param.Shape.expected]
      | _ => rfl
  | _ =>
    simp only [Getter.read, bool, bool?, int?, float?, str, str?, strs, classRefs, relationships,
      dict, outcome_bind]
    rcases outcome (value name) r with ⟨_ | v, after⟩
    · rfl
    · cases v <;> rfl

theorem outcome_read_declared (g : Getter) (r : Reader) (p : Param)
    (known : r.table.get? p.name = some p) :
    outcome (g.read p.name) r =
      (g.answer r.table.kind p (p.settled (Entries.get? r.params p.name)), r.without p.name) := by
  rw [outcome_read, outcome_value r p known]
  cases p.settled (Entries.get? r.params p.name) <;> rfl

theorem outcome_read_undeclared (g : Getter) (r : Reader) (name : String)
    (unknown : r.table.get? name = none) :
    outcome (g.read name) r =
      (.error (.configuration r.table.kind.title
        ("no parameter '" ++ name ++ "' is declared")), r) := by
  rw [outcome_read, outcome_value_undeclared r name unknown]

end PackSpec.Reader
