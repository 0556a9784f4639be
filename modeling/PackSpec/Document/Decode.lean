import PackSpec.Build
import PackSpec.Param.Catalog
import PackSpec.Param.Coerce
import PackSpec.Param.Overlay
import PackSpec.Relationship.Reading
import PackSpec.Shorthand
import PackSpec.Yaml.Text

set_option autoImplicit false

namespace PackSpec

open Decimal (Binary64)

namespace Decode

def scalarText? : Yaml → Option String
  | .str s => some s
  | .int n => some (Yaml.intText n)
  | .float x => some (Yaml.floatText x)
  | .bool b => some (Coerce.boolText b)
  | _ => none

def texts? : Yaml → Option (List String)
  | .seq items => items.mapM scalarText?
  | v => (scalarText? v).map fun s => [s]

def whole? (x : Binary64) : Option Int64 :=
  if x.isWhole then some (Int64.ofInt x.toInt) else none

def isWithin (x : Binary64) : Bool :=
  x.isFinite && x.ratio.1 < 0x8000000000000000 * x.ratio.2

def int? : Yaml → Option Int64
  | .int n => n.int64?
  | .float x => if isWithin x then whole? x else none
  | .str s => Coerce.intOf? s
  | _ => none

def float? : Yaml → Option Binary64
  | .int n => some (.ofInt n.val)
  | .float x => some x
  | .str s => Coerce.floatOf? s
  | _ => none

def severity? : Yaml → Option Severity
  | .int n => Severity.ofLevel? n.val
  | .float x => (whole? x).bind fun n => Severity.ofLevel? n.toInt
  | .str s => Severity.ofText? s
  | _ => none

/-- A value that keeps its own type, since the type it should have is not known yet. -/
def untyped? : Yaml → Option Param.Value
  | .bool b => some (.bool b)
  | .int n => some (((n.int64?).map .int).getD (.float (.ofInt n.val)))
  | .float x => some (.float x)
  | .str s => some (.str s)
  | .seq items => (texts? (.seq items)).map .strs
  | _ => none

def coerce (shape : Param.Shape) (v : Yaml) : Option Param.Value :=
  match shape with
  | .bool =>
    match v with
    | .bool b => some (.bool b)
    | .str s => (Coerce.boolOf? s).map .bool
    | _ => none
  | .int => (int? v).map .int
  | .float => (float? v).map .float
  | .str => (scalarText? v).map .str
  | .strs => (texts? v).map .strs
  | .classRef => (scalarText? v).map fun s => .classRef (.ofToken s)
  | .classRefs => (texts? v).map fun xs => .classRefs (xs.map ClassRef.ofToken)
  | .severity => (severity? v).map .severity
  | .typedBy _ => untyped? v
  | _ => none

def shown (v : Yaml) : String :=
  match v with
  | .str s => "'" ++ s ++ "'"
  | v =>
    match Yaml.write? v with
    | some text => String.ofList (Text.trimEnd text.toList)
    | none => v.describe

def mismatch (expected : String) (v : Yaml) : Problem :=
  .structural expected v.describe

def relationship (v : Yaml) : Build (Option Decl) := do
  match v.text? with
  | none =>
    Build.report (mismatch "a relationship string" v)
    return none
  | some text =>
    match Decl.ofText text with
    | .ok d => return some d
    | .error e =>
      Build.reportRelationship e
      return none

def relationshipItems (i : Nat) : List Yaml → Build (List Decl)
  | [] => return []
  | v :: rest => do
    let d ← Build.within (toString i) (relationship v)
    return d.toList ++ (← relationshipItems (i + 1) rest)

def relationshipLines (i : Nat) : List (List Char) → Build (List Decl)
  | [] => return []
  | cs :: rest => do
    let line := String.ofList cs
    let d ← if Diagram.isPassedOver line then pure none
      else Build.within (toString i) (relationship (.str line))
    return d.toList ++ (← relationshipLines (i + 1) rest)

def relationships (v : Yaml) : Build (List Decl) := do
  match v with
  | .seq items => relationshipItems 0 items
  | .str text =>
    if text.toList.contains '\n' then relationshipLines 0 (Text.lines text.toList)
    else return (← relationship v).toList
  | _ =>
    Build.report (mismatch "a list of relationship strings" v)
    return []

def mapping (v : Yaml) : Build (Option (List (Yaml × Yaml))) := do
  match v with
  | .map entries => return some entries
  | _ =>
    Build.report (mismatch "a mapping" v)
    return none

/-- The shape of the value at a key. Where another parameter of the same mapping gives it, that one
is asked; it may still come from the defaults of the collection. -/
def shapeAt (k : Kind) (entries : List (Yaml × Yaml)) (p : Param) : Param.Shape :=
  match p.shape with
  | .typedBy field =>
    match (k.table.get? field).bind fun q => (Yaml.get? entries q.external).bind Yaml.text? with
    | some type => k.typed (some type)
    | none => p.shape
  | declared => declared

def shorthand (text : String) : Except Problem Params :=
  (Shorthand.read text).map fun s =>
    let param (name : String) (cs : List Char) : String × Param.Value :=
      (name, .str (String.ofList cs))
    param "rrdtype" s.type :: (s.least.map (param "rrdmin")).toList ++
      (s.greatest.map (param "rrdmax")).toList

def scalarEntry (k : Kind) (v : Yaml) : Build (Option Params) := do
  if k.hasShorthand then
    match scalarText? v with
    | none =>
      Build.report (mismatch "a mapping or shorthand string" v)
      return none
    | some text =>
      match shorthand text with
      | .ok ps => return some ps
      | .error e =>
        Build.report e
        return none
  else
    Build.report (mismatch "a mapping" v)
    return none

def badDefaults (entries : List (Yaml × Yaml)) : Build Bool := do
  match Overlay.ofDocument entries with
  | .ok _ => return false
  | .error v =>
    Build.within defaultsName (Build.report (mismatch "a mapping" v))
    return true

/-- Reads the entries of a collection one by one; a later key of the same text replaces its value.
-/
def entries (read : Yaml → Build (Option Params)) (skipDefaults : Bool) (acc : Children) :
    List (Yaml × Yaml) → Build Children
  | [] => return acc
  | (key, v) :: rest => do
    match scalarText? key with
    | none =>
      Build.report (mismatch "an entry name" key)
      entries read skipDefaults acc rest
    | some name =>
      if skipDefaults && name == defaultsName then entries read skipDefaults acc rest
      else
        match ← Build.within name (read v) with
        | some ps => entries read skipDefaults (Entries.put acc name ps) rest
        | none => entries read skipDefaults acc rest

def collection (read : Yaml → Build (Option Params)) (v : Yaml) : Build (Option Children) := do
  match ← mapping v with
  | none => return none
  | some es =>
    let skipDefaults ← badDefaults es
    return some (← entries read skipDefaults [] es)

def groups (read : Yaml → Build (Option Children)) (acc : Groups) :
    List (Yaml × Yaml) → Build Groups
  | [] => return acc
  | (key, v) :: rest => do
    match scalarText? key with
    | none =>
      Build.report (mismatch "a group name" key)
      groups read acc rest
    | some name =>
      match ← Build.within name (read v) with
      | some cs => groups read (Entries.put acc name cs) rest
      | none => groups read acc rest

def value (read : Kind → Yaml → Build (Option Params)) (k : Kind) (p : Param) (shape : Param.Shape)
    (v : Yaml) : Build (Option Param.Value) := do
  if v.isNull then return some .null
  else
    match shape with
    | .specs child => return (← collection (read child) v).map (.specs child)
    | .groups child =>
      match ← mapping v with
      | none => return none
      | some es => return some (.groups child (← groups (collection (read child)) [] es))
    | .dict => return (← mapping v).map .dict
    | .relationship => return (← relationship v).map .relationship
    | .relationships => return some (.relationships (← relationships v))
    | _ =>
      match coerce shape v with
      | some decoded => return some decoded
      | none =>
        Build.report (.typeCoercion k.title p.external shape.describe (shown v))
        return none

def keys (read : Kind → Yaml → Build (Option Params)) (k : Kind) (all : List (Yaml × Yaml))
    (acc : Params) : List (Yaml × Yaml) → Build Params
  | [] => return acc
  | (key, v) :: rest => do
    match key.text? with
    | none =>
      Build.report (mismatch "a string key" key)
      keys read k all acc rest
    | some name =>
      match k.table.ofExternal? name with
      | none =>
        Build.within name (Build.report (.unknownParameter k.title name))
        keys read k all acc rest
      | some p =>
        match ← Build.within name (value read k p (shapeAt k all p) v) with
        | some decoded => keys read k all (Entries.put acc p.name decoded) rest
        | none => keys read k all acc rest

def paramsWith (read : Kind → Yaml → Build (Option Params)) (k : Kind) (v : Yaml) : Build Params :=
  match v with
  | .null => return []
  | .map es => keys read k es [] es
  | v => Build.abort (mismatch "a mapping" v)

def entryWith (read : Kind → Yaml → Build (Option Params)) (k : Kind) (v : Yaml) :
    Build (Option Params) :=
  match v with
  | .null | .map _ => return some (← paramsWith read k v)
  | v => scalarEntry k v

def entryAt : Nat → Kind → Yaml → Build (Option Params)
  | 0 => entryWith fun _ _ => return none
  | depth + 1 => entryWith (entryAt depth)

def entryBelow (height : Nat) : Kind → Yaml → Build (Option Params) :=
  match height with
  | 0 => fun _ _ => return none
  | depth + 1 => entryAt depth

def params (k : Kind) (v : Yaml) : Build Params :=
  paramsWith (entryBelow k.height) k v

def children (k : Kind) (v : Yaml) : Build (Option Children) :=
  collection (entryAt k.height k) v

end Decode

end PackSpec
