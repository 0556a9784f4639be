import PackSpec.ClassRef
import PackSpec.Entries
import PackSpec.Kind
import PackSpec.Relationship.Declaration
import PackSpec.Severity
import PackSpec.Yaml.Value

set_option autoImplicit false

namespace PackSpec

open Decimal (Binary64)

inductive Param.Value where
  | null
  | bool (value : Bool)
  | int (value : Int64)
  | float (value : Binary64)
  | str (text : String)
  | strs (texts : List String)
  | classRef (ref : ClassRef)
  | classRefs (refs : List ClassRef)
  | relationship (decl : Decl)
  | relationships (decls : List Decl)
  | severity (level : Severity)
  | dict (entries : List (Yaml × Yaml))
  | specs (kind : Kind) (children : List (String × List (String × Param.Value)))
  | groups (kind : Kind) (groups : List (String × List (String × List (String × Param.Value))))
deriving Inhabited

abbrev Params : Type := Entries Param.Value
abbrev Children : Type := Entries Params
abbrev Groups : Type := Entries Children

namespace Param.Value

def typeName : Param.Value → String
  | .null => "null"
  | .bool _ => "bool"
  | .int _ => "int"
  | .float _ => "float"
  | .str _ => "string"
  | .strs _ => "list of strings"
  | .classRef _ => "class"
  | .classRefs _ => "list of classes"
  | .relationship _ => "relationship schema"
  | .relationships _ => "list of relationship schemas"
  | .severity _ => "severity"
  | .dict _ => "dict"
  | .specs .. => "specs"
  | .groups .. => "dict of specs"

def isNull : Param.Value → Bool
  | .null => true
  | _ => false

def ofOption {α : Type} (f : α → Param.Value) : Option α → Param.Value
  | some a => f a
  | none => .null

mutual

def same : Param.Value → Param.Value → Bool
  | .null, .null => true
  | .bool a, .bool b => a == b
  | .int a, .int b => a == b
  | .float a, .float b => a.numEq b
  | .str a, .str b => a == b
  | .strs a, .strs b => a == b
  | .classRef a, .classRef b => a == b
  | .classRefs a, .classRefs b => a == b
  | .relationship a, .relationship b => a == b
  | .relationships a, .relationships b => a == b
  | .severity a, .severity b => a == b
  | .dict a, .dict b => Yaml.same (.map a) (.map b)
  | .specs j a, .specs k b => j == k && a.length == b.length && childrenIn a b
  | .groups j a, .groups k b => j == k && a.length == b.length && groupsIn a b
  | _, _ => false

def paramsIn : List (String × Param.Value) → List (String × Param.Value) → Bool
  | [], _ => true
  | (name, v) :: rest, other =>
    (match other.lookup name with
      | some w => same v w
      | none => false) && paramsIn rest other

def childrenIn : List (String × List (String × Param.Value)) →
    List (String × List (String × Param.Value)) → Bool
  | [], _ => true
  | (name, ps) :: rest, other =>
    (match other.lookup name with
      | some qs => ps.length == qs.length && paramsIn ps qs
      | none => false) && childrenIn rest other

def groupsIn : List (String × List (String × List (String × Param.Value))) →
    List (String × List (String × List (String × Param.Value))) → Bool
  | [], _ => true
  | (name, cs) :: rest, other =>
    (match other.lookup name with
      | some ds => cs.length == ds.length && childrenIn cs ds
      | none => false) && groupsIn rest other

end

end Param.Value

def Params.same (a b : Params) : Bool :=
  a.length == b.length && Param.Value.paramsIn a b

end PackSpec
