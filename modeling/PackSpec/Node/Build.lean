import PackSpec.Build
import PackSpec.Param.Access
import PackSpec.Param.Coerce
import PackSpec.Param.Overlay
import PackSpec.Param.Reader

set_option autoImplicit false

namespace PackSpec

namespace Node

/-- Collections are read after all other parameters, but in their place at the root. -/
def readingOrder (k : Kind) : List Param :=
  if k = .zenPack then k.params
  else
    k.params.filter (fun p => p.shape.child?.isNone) ++
      k.params.filter (fun p => p.shape.child?.isSome)

def inTableOrder (k : Kind) (values : Params) : Params :=
  k.params.map fun p => (p.name, Params.value values p.name)

def reportLeftOver (k : Kind) : List String → Build Unit
  | [] => return ()
  | name :: rest => do
    Build.within name (Build.report (.unknownParameter k.title name))
    reportLeftOver k rest

def readAll (k : Kind) (params : Params) : Build Params := do
  let (values, rest) := ((readingOrder k).mapM Reader.named).run (Reader.ofKind k params)
  let values ← Build.ofExcept values
  reportLeftOver k rest.leftOver
  return inTableOrder k values

def buildEntries (build : String → Params → Build Params) : Children → Build Children
  | [] => return []
  | (name, ps) :: rest => do
    match ← Build.attempt (Build.within name (build name ps)) with
    | .ok built => return (name, built) :: (← buildEntries build rest)
    | .error d =>
      Build.handle d
      buildEntries build rest

def buildCollection (build : String → Params → Build Params) (segment : String) (cs : Children) :
    Build Children := do
  let c ← get
  Build.within segment (buildEntries build (Overlay.apply c.keepsDefaults cs))

def buildGroups (build : String → Params → Build Params) : Groups → Build Groups
  | [] => return []
  | (name, cs) :: rest => do
    let built ← buildCollection build name cs
    return (name, built) :: (← buildGroups build rest)

def buildValue (build : Kind → String → Params → Build Params) (p : Param) (v : Param.Value) :
    Build Param.Value :=
  match p.shape, v with
  | .specs _, .specs child cs => return .specs child (← buildCollection (build child) p.name cs)
  | .groups _, .groups child gs =>
    return .groups child (← Build.within p.name (buildGroups (build child) gs))
  | _, _ => return v

def buildValues (build : Kind → String → Params → Build Params) (values : Params) :
    List Param → Build Params
  | [] => return []
  | p :: rest => do
    let built ← buildValue build p (Params.value values p.name)
    return (p.name, built) :: (← buildValues build values rest)

def backends : List String := ["property", "method"]
def indexScopes : List String := ["device", "global", "both"]

/-- A property with a datapoint is read by a method, whatever it says. -/
def backend (ps : Params) : String :=
  if (Params.str? ps "datapoint").isSome then "method" else Params.str ps "api_backendtype"

def ensureOneOf (name param value : String) (allowed : List String) : Except Problem Unit :=
  if allowed.contains value then .ok ()
  else
    .error (.typeCoercion Kind.classProperty.title param
      ("one of " ++ ", ".intercalate allowed) ("'" ++ value ++ "' for property '" ++ name ++ "'"))

def checkProperty (name : String) (ps : Params) : Except Problem Params := do
  ensureOneOf name "api_backendtype" (backend ps) backends
  ensureOneOf name "index_scope" (Params.str ps "index_scope") indexScopes
  return ps

def typeDefault (ps : Params) : Except Problem Params :=
  let shape := Kind.typed .zProperty (some (Params.str ps "type_"))
  let default := Coerce.retyped shape (Params.value ps "default")
  if Coerce.fits shape default then .ok (Entries.put ps "default" default)
  else
    .error (.typeCoercion Kind.zProperty.title "default" shape.describe
      ("a " ++ default.typeName ++ " value"))

def check (k : Kind) (name : String) (ps : Params) : Except Problem Params :=
  match k with
  | .zProperty => typeDefault ps
  | .classProperty => checkProperty name ps
  | _ => .ok ps

def enterNamespace (k : Kind) (ps : Params) : Build Unit :=
  match k with
  | .zenPack => modify fun c => { c with ns := Params.str ps "name" }
  | _ => return ()

def buildWith (build : Kind → String → Params → Build Params) (k : Kind) (name : String)
    (params : Params) : Build Params := do
  let values ← readAll k params
  enterNamespace k values
  let built ← buildValues build values k.params
  Build.ofExcept (check k name built)

def buildAt : Nat → Kind → String → Params → Build Params
  | 0 => buildWith fun _ _ _ => return []
  | depth + 1 => buildWith (buildAt depth)

def buildParams (k : Kind) (name : String) (params : Params) : Build Params :=
  buildAt k.height k name params

end Node

end PackSpec
