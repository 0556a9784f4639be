import PackSpec.Param.Catalog
import PackSpec.Param.Overlay

set_option autoImplicit false

namespace PackSpec

namespace Encode

def strings (xs : List String) : Yaml := .seq (xs.map .str)

def int (n : Int64) : Yaml := .int (.ofInt64 n)

def refusal (k : Kind) (p : Param) (reason : String) : Problem :=
  .encode k.title p.external reason

def unsuitable (k : Kind) (p : Param) (v : Param.Value) : Problem :=
  refusal k p ("holds " ++ v.typeName ++ ", which cannot be written as " ++ p.shape.describe)

def compact (k : Kind) (p : Param) (d : Decl) : Except Problem String :=
  d.compact.mapError fun e => refusal k p e.message

def scalar (k : Kind) (p : Param) (v : Param.Value) : Except Problem Yaml :=
  match p.shape, v with
  | .bool, .bool b => .ok (.bool b)
  | .int, .int n => .ok (int n)
  | .float, .float x => .ok (.float x)
  | .float, .int n => .ok (.float (.ofInt n.toInt))
  | .str, .str s => .ok (.str s)
  | .strs, .strs xs => .ok (strings xs)
  | .classRef, .classRef c => .ok (.str c.token)
  | .classRefs, .classRefs cs => .ok (strings (cs.map ClassRef.token))
  | .relationship, .relationship d => (compact k p d).map .str
  | .relationships, .relationships ds => (ds.mapM (compact k p)).map strings
  | .severity, .severity s => .ok (.str s.name)
  | .severity, .int n =>
    match Severity.ofLevel? n.toInt with
    | some s => .ok (.str s.name)
    | none =>
      .error (refusal k p ("has severity level " ++ toString n.toInt ++ " outside 0-5"))
  | .dict, .dict m => .ok (.map m)
  | .typedBy _, .bool b => .ok (.bool b)
  | .typedBy _, .int n => .ok (int n)
  | .typedBy _, .float x => .ok (.float x)
  | .typedBy _, .str s => .ok (.str s)
  | .typedBy _, .strs xs => .ok (strings xs)
  | _, _ => .error (unsuitable k p v)

def defaultBeside (defaults : Option Params) (p : Param) : Option Param.Value :=
  (defaults.bind fun d => Entries.get? d p.name).or p.defaultValue

/-- A null is written only where it takes a scalar back from its default. -/
def writesNull (defaults : Option Params) (p : Param) : Bool :=
  !p.shape.isCollection && (defaultBeside defaults p).any fun d => !d.isNull

def isDefault (defaults : Option Params) (p : Param) (v : Param.Value) : Bool :=
  (defaultBeside defaults p).any fun d => d.same v

def sorted {α : Type} (es : Entries α) : Entries α :=
  es.mergeSort fun a b => a.1 ≤ b.1

def isDefaults {α : Type} (e : String × α) : Bool := e.1 == defaultsName

def collection (write : Option Params → Params → Except Problem (List (Yaml × Yaml)))
    (cs : Children) : Except Problem (List (Yaml × Yaml)) := do
  let defaults := Entries.get? cs defaultsName
  let first ← defaults.toList.mapM fun d => do return (.str defaultsName, .map (← write none d))
  let others ← (sorted (cs.filter fun e => !isDefaults e)).mapM fun (name, ps) => do
    return (.str name, .map (← write defaults ps))
  return first ++ others

def value (write : Kind → Option Params → Params → Except Problem (List (Yaml × Yaml)))
    (k : Kind) (p : Param) (v : Param.Value) : Except Problem Yaml :=
  match p.shape, v with
  | .specs child, .specs found cs =>
    if child = found then (collection (write child) cs).map .map else .error (unsuitable k p v)
  | .groups child, .groups found gs =>
    if child = found then do
      let es ← gs.mapM fun (name, cs) => do
        return (.str name, .map (← collection (write child) cs))
      return .map es
    else .error (unsuitable k p v)
  | _, _ => scalar k p v

def keys (write : Kind → Option Params → Params → Except Problem (List (Yaml × Yaml)))
    (k : Kind) (defaults : Option Params) (ps : Params) :
    List Param → Except Problem (List (Yaml × Yaml))
  | [] => .ok []
  | p :: rest =>
    match Entries.get? ps p.name with
    | none => .error (refusal k p "is not set on this object")
    | some v =>
      if v.isNull then
        if writesNull defaults p then
          (keys write k defaults ps rest).map ((.str p.external, .null) :: ·)
        else keys write k defaults ps rest
      else if isDefault defaults p v then keys write k defaults ps rest
      else do
        let written ← value write k p v
        let more ← keys write k defaults ps rest
        return (.str p.external, written) :: more

def paramsAt : Nat → Kind → Option Params → Params → Except Problem (List (Yaml × Yaml))
  | 0, k, defaults, ps => keys (fun _ _ _ => .ok []) k defaults ps k.params
  | depth + 1, k, defaults, ps => keys (paramsAt depth) k defaults ps k.params

def params (k : Kind) (defaults : Option Params) (ps : Params) :
    Except Problem (List (Yaml × Yaml)) :=
  paramsAt k.height k defaults ps

def children (k : Kind) (cs : Children) : Except Problem (List (Yaml × Yaml)) :=
  collection (params k) cs

end Encode

end PackSpec
