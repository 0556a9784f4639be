import PackSpec.Node.Derived
import PackSpec.Specification.Links

set_option autoImplicit false

namespace PackSpec

structure Specification where
  params : Params
  schemas : List Schema
  links : Links

namespace Specification

def name (s : Specification) : String := Params.str s.params "name"

def root (s : Specification) : Node := ⟨.zenPack, "", s.name, s.params⟩

def same (a b : Specification) : Bool := a.root.same b.root

def resolveAll (ns : String) (i : Nat) : List Decl → Build (List Schema)
  | [] => return []
  | d :: rest => do
    let s ← match d.resolve ns with
      | .ok s => pure s
      | .error e => Build.within (toString i) (Build.abort e)
    return s :: (← resolveAll ns (i + 1) rest)

def declarations : String := "class_relationships"

def withSchemas (params : Params) (schemas : List Schema) : Params :=
  Entries.put params declarations (.relationships (schemas.map Schema.declaration))

def build (params : Params) : Build Specification := do
  let params ← Node.buildParams .zenPack "" params
  let ns := Params.str params "name"
  let schemas ← Build.within declarations
    (resolveAll ns 0 (Params.relationships params declarations))
  let links ← Links.build (Params.children params "classes") schemas
  return ⟨withSchemas params schemas, schemas, links⟩

def classes (s : Specification) : Children := Params.children s.params "classes"

def classNode? (s : Specification) (name : String) : Option Node :=
  (Entries.get? s.classes name).map fun ps => ⟨.modelClass, s.name, name, ps⟩

def zProperties (s : Specification) : Entries Node := s.root.children "zProperties"
def classNodes (s : Specification) : Entries Node := s.root.children "classes"
def deviceClasses (s : Specification) : Entries Node := s.root.children "device_classes"

def definedClasses (s : Specification) : List Node :=
  (s.classNodes.filter fun e => e.1 != defaultsName).map Prod.snd

def orderedClasses (s : Specification) : List Node :=
  s.definedClasses.mergeSort fun a b =>
    (ModelClass.order a).orderKey ≤ (ModelClass.order b).orderKey

def relationship? (s : Specification) (className relationName : String) : Option View :=
  s.links.get? className relationName

def qualify (s : Specification) (token : String) : String :=
  (ClassRef.ofToken token).qualified s.name

def baseClasses (s : Specification) (recursive : Bool) (className : String) : List String :=
  Lineage.ancestors s.classes recursive className

def subclasses (s : Specification) (className : String) : List String :=
  (s.definedClasses.map Node.name).filter fun c => (s.baseClasses true c).contains className

structure Inherited where
  name : String
  className : String
  node : Node

def putAll (className : String) (acc : Entries (String × Node)) (own : Entries Node) :
    Entries (String × Node) :=
  own.foldl (fun acc e => Entries.put acc e.1 (className, e.2)) acc

/-- The entries of a class and of the classes it derives from; the nearer class wins. -/
def inherited (s : Specification) (entries : Node → Entries Node) (className : String) :
    List Inherited :=
  let merged := (Lineage.overlayOrder s.classes className).foldl (fun acc c =>
    match s.classNode? c with
    | some n => putAll c acc (entries n)
    | none => acc) []
  merged.map fun (name, from_, node) => ⟨name, from_, node⟩

def inheritedProperties (s : Specification) (className : String) : List Inherited :=
  s.inherited ModelClass.properties className

def inheritedRelationships (s : Specification) (className : String) : List Inherited :=
  s.inherited ModelClass.relationships className

def inheritedViews (s : Specification) (className : String) : List View :=
  (className :: s.baseClasses true className).flatMap s.links.ofClass

def hostBases (s : Specification) (className : String) : List String :=
  (className :: s.baseClasses true className).flatMap fun c =>
    match s.classNode? c with
    | some n => (ModelClass.bases n).filterMap fun b => if b.isOwn then none else some b.token
    | none => []

def isA (s : Specification) (className token : String) : Bool :=
  className == token || (s.baseClasses true className).contains token ||
    (s.hostBases className).contains token

def deviceBases : List String := ["zenpacklib.Device", "Products.ZenModel.Device.Device"]

def hardwareBases : List String :=
  ["zenpacklib.HardwareComponent", "Products.ZenModel.HardwareComponent.HardwareComponent"]

def componentBases : List String := [
  "zenpacklib.Component",
  "zenpacklib.HardwareComponent",
  "Products.ZenModel.DeviceComponent.DeviceComponent",
  "Products.ZenModel.HardwareComponent.HardwareComponent"]

def isDevice (s : Specification) (className : String) : Bool :=
  deviceBases.any (s.isA className)

def isComponent (s : Specification) (className : String) : Bool :=
  componentBases.any (s.isA className)

def isHardwareComponent (s : Specification) (className : String) : Bool :=
  hardwareBases.any (s.isA className)

end Specification

namespace Node

def build (k : Kind) (parent name : String) (params : Params) : Build Node :=
  match k with
  | .zenPack => do
    let s ← Specification.build params
    return s.root
  | k => do
    let built ← buildParams k name params
    return ⟨k, parent, name, built⟩

end Node

end PackSpec
