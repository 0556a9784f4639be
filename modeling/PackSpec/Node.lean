import PackSpec.Param.Access

set_option autoImplicit false

namespace PackSpec

structure Node where
  kind : Kind
  parent : String
  name : String
  params : Params

namespace Node

def same (a b : Node) : Bool :=
  a.kind == b.kind && a.name == b.name && Params.same a.params b.params

def field (n : Node) (name : String) : Except Problem Param.Value :=
  match Entries.get? n.params name with
  | some v => .ok v
  | none => .error (.encode n.kind.title name "is not a field of this object")

def value (n : Node) (name : String) : Param.Value := Params.value n.params name
def str? (n : Node) (name : String) : Option String := Params.str? n.params name
def str (n : Node) (name : String) : String := Params.str n.params name
def bool (n : Node) (name : String) : Bool := Params.bool n.params name
def int? (n : Node) (name : String) : Option Int64 := Params.int? n.params name
def int (n : Node) (name : String) : Int64 := Params.int n.params name

def ofChildren (kind : Kind) (parent : String) (cs : Children) : Entries Node :=
  cs.map fun (name, ps) => (name, ⟨kind, parent, name, ps⟩)

def children (n : Node) (name : String) : Entries Node :=
  match n.value name with
  | .specs kind cs => ofChildren kind n.name cs
  | _ => []

def groups (n : Node) (name : String) : Entries (Entries Node) :=
  match n.value name with
  | .groups kind gs => gs.map fun (group, cs) => (group, ofChildren kind n.name cs)
  | _ => []

end Node

end PackSpec
