import PackSpec.Param.Reader

set_option autoImplicit false

namespace PackSpec

namespace Param

def settled (p : Param) (found : Option Param.Value) : Option Param.Value :=
  match found with
  | none | some .null => p.defaultValue
  | some v => some v

theorem settled_some (p : Param) (v : Param.Value) (given_ : v ≠ .null) :
    p.settled (some v) = some v := by
  cases v with
  | null => exact absurd rfl given_
  | _ => rfl

namespace Shape

def accept (s : Shape) (v : Param.Value) : Option Param.Value :=
  match s, v with
  | .bool, .null | .int, .null | .float, .null | .str, .null | .severity, .null => some .null
  | .bool, .bool b => some (.bool b)
  | .int, .int n => some (.int n)
  | .float, .float x => some (.float x)
  | .float, .int n => some (.float (.ofInt n.toInt))
  | .str, .str t => some (.str t)
  | .strs, .null => some (.strs [])
  | .strs, .strs ts => some (.strs ts)
  | .strs, .str t => some (.strs [t])
  | .classRefs, .null => some (.classRefs [])
  | .classRefs, .classRefs cs => some (.classRefs cs)
  | .classRefs, .classRef c => some (.classRefs [c])
  | .classRefs, .strs ts => some (.classRefs (ts.map ClassRef.ofToken))
  | .classRefs, .str t => some (.classRefs [.ofToken t])
  | .relationships, .null => some (.relationships [])
  | .relationships, .relationships ds => some (.relationships ds)
  | .relationships, .relationship d => some (.relationships [d])
  | .severity, .severity l => some (.severity l)
  | .severity, .int n => (Severity.ofLevel? n.toInt).map .severity
  | .dict, .null => some (.dict [])
  | .dict, .dict m => some (.dict m)
  | .specs child, .null => some (.specs child [])
  | .specs child, .specs k cs => if k = child then some (.specs child cs) else none
  | .groups child, .null => some (.groups child [])
  | .groups child, .groups k gs => if k = child then some (.groups child gs) else none
  | .classRef, v | .relationship, v | .typedBy _, v => some v
  | _, _ => none

def expected : Shape → String
  | .bool => "a boolean"
  | .int => "an integer"
  | .float => "a number"
  | .str => "a string"
  | .strs => "a list of strings"
  | .classRefs => "a list of class names"
  | .relationships => "a list of relationship schemas"
  | .severity => "a severity"
  | .dict => "a mapping"
  | .specs _ => "a collection of specs"
  | .groups _ => "a dict of spec collections"
  | .classRef | .relationship | .typedBy _ => ""

end Shape

def missing (k : Kind) (p : Param) : Problem :=
  .construction k.title ("missing required parameter '" ++ p.external ++ "'")

def misfit (k : Kind) (p : Param) (found : Param.Value) : Problem :=
  .construction k.title
    ("parameter '" ++ p.name ++ "' must be " ++ p.shape.expected ++ ", not " ++ found.typeName)

/-- What the parameter of an entry of kind `k` reads as where `found` stands in the map. -/
def reading (k : Kind) (p : Param) (found : Option Param.Value) : Except Problem Param.Value :=
  match p.settled found with
  | none => .error (p.missing k)
  | some v =>
    match p.shape.accept v with
    | some w => .ok w
    | none => .error (p.misfit k v)

end Param

namespace Reader

variable {α β : Type}

def outcome (b : Read α) (r : Reader) : Except Problem α × Reader := b.run r

theorem outcome_pure (a : α) (r : Reader) : outcome (pure a) r = (.ok a, r) := rfl

theorem outcome_bind (b : Read α) (f : α → Read β) (r : Reader) :
    outcome (b >>= f) r =
      match outcome b r with
      | (.ok a, r) => outcome (f a) r
      | (.error e, r) => (.error e, r) := by
  change ((outcome b r) |> fun s => (ExceptT.bindCont f s.1).run s.2) = _
  rcases outcome b r with ⟨_ | _, _⟩ <;> rfl

def without (r : Reader) (name : String) : Reader := { r with params := Entries.erase r.params name }

theorem outcome_take (r : Reader) (name : String) :
    outcome (take name) r = (.ok (Entries.get? r.params name), r.without name) := rfl

theorem outcome_default (r : Reader) (p : Param) :
    outcome (default p) r =
      (match p.defaultValue with
        | some v => .ok v
        | none => .error (p.missing r.table.kind), r) := by
  unfold default
  cases p.defaultValue <;> rfl

theorem outcome_value_table (r : Reader) (name : String) :
    outcome (value name) r = outcome
      (match r.table.get? name with
        | none => throw
          (.configuration r.table.kind.title ("no parameter '" ++ name ++ "' is declared"))
        | some p => do
          match ← take name with
          | none | some .null => default p
          | some v => return v) r := rfl

theorem outcome_value (r : Reader) (p : Param) (declared : r.table.get? p.name = some p) :
    outcome (value p.name) r =
      (match p.settled (Entries.get? r.params p.name) with
        | some v => .ok v
        | none => .error (p.missing r.table.kind), r.without p.name) := by
  have kind : (r.without p.name).table.kind = r.table.kind := rfl
  rw [outcome_value_table, declared]
  dsimp only
  rw [outcome_bind, outcome_take]
  cases found : Entries.get? r.params p.name with
  | none => simp only [Param.settled, outcome_default, kind]
  | some v =>
    cases v with
    | null => simp only [Param.settled, outcome_default, kind]
    | _ => rfl

theorem outcome_mismatch (name expected : String) (v : Param.Value) (r : Reader) :
    outcome (mismatch name expected v : Read α) r =
      (.error (.construction r.table.kind.title
        ("parameter '" ++ name ++ "' must be " ++ expected ++ ", not " ++ v.typeName)), r) := rfl

theorem outcome_return (b : Read α) (f : α → β) (r : Reader) :
    outcome (do return f (← b)) r = ((outcome b r).1.map f, (outcome b r).2) := by
  rw [outcome_bind]
  rcases outcome b r with ⟨_ | _, _⟩ <;> rfl

theorem outcome_declared (r : Reader) (p : Param) (known : r.table.get? p.name = some p) :
    outcome (declared p) r =
      (p.reading r.table.kind (Entries.get? r.params p.name), r.without p.name) := by
  have read := outcome_value r p known
  have kind : (r.without p.name).table.kind = r.table.kind := rfl
  -- Without a value to read the parameter is missing; each shape reads the value in its own way.
  unfold Param.reading
  cases settled : p.settled (Entries.get? r.params p.name) with
  | none =>
    rw [settled] at read
    dsimp only at read ⊢
    unfold declared
    split <;> simp only [bool?, int?, float?, str?, strs, classRefs, relationships,
      severity?, dict, specs, groups, outcome_bind, read]
  | some v =>
    rw [settled] at read
    dsimp only at read ⊢
    unfold declared
    cases shape : p.shape with
    | bool | int | float | str | strs | classRefs | relationships | dict =>
      simp only [bool?, int?, float?, str?, strs, classRefs, relationships, dict, outcome_bind,
        read]
      cases v <;>
        simp only [outcome_mismatch, outcome_pure, kind, Param.misfit, shape, Param.Shape.accept,
          Param.Shape.expected, Param.Value.ofOption]
    | classRef | relationship | typedBy => simp only [read, Param.Shape.accept]
    | severity =>
      simp only [severity?, outcome_bind, read]
      cases v with
      | int n =>
        dsimp only
        cases level : Severity.ofLevel? n.toInt <;>
          simp only [outcome_mismatch, outcome_pure, kind, Param.misfit, shape, level,
            Param.Shape.accept, Param.Shape.expected, Param.Value.ofOption, Option.map]
      | _ =>
        simp only [outcome_mismatch, outcome_pure, kind, Param.misfit, shape, Param.Shape.accept,
          Param.Shape.expected, Param.Value.ofOption]
    | specs child | groups child =>
      simp only [specs, groups, outcome_bind, read]
      cases v with
      | specs found _ | groups found _ =>
        by_cases same : found = child <;>
          simp only [outcome_mismatch, outcome_pure, kind, Param.misfit, shape, same, if_true,
            if_false, Param.Shape.accept, Param.Shape.expected]
      | _ =>
        simp only [outcome_mismatch, outcome_pure, kind, Param.misfit, shape, Param.Shape.accept,
          Param.Shape.expected]

end Reader

end PackSpec
