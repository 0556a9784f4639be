set_option autoImplicit false

namespace PackSpec

inductive Kind where
  | zenPack
  | zProperty
  | deviceClass
  | modelClass
  | classProperty
  | classRelationship
  | template
  | threshold
  | datasource
  | datapoint
  | graph
  | graphPoint
deriving DecidableEq, Repr

namespace Kind

def all : List Kind :=
  [.zenPack, .zProperty, .deviceClass, .modelClass, .classProperty, .classRelationship, .template,
    .threshold, .datasource, .datapoint, .graph, .graphPoint]

def title : Kind → String
  | .zenPack => "ZenPackSpec"
  | .zProperty => "ZPropertySpec"
  | .deviceClass => "DeviceClassSpec"
  | .modelClass => "ClassSpec"
  | .classProperty => "ClassPropertySpec"
  | .classRelationship => "ClassRelationshipSpec"
  | .template => "RRDTemplateSpec"
  | .threshold => "RRDThresholdSpec"
  | .datasource => "RRDDatasourceSpec"
  | .datapoint => "RRDDatapointSpec"
  | .graph => "GraphDefinitionSpec"
  | .graphPoint => "GraphPointSpec"

def ofTitle? (title : String) : Option Kind :=
  all.find? fun k => k.title == title

def height : Kind → Nat
  | .zProperty | .classProperty | .classRelationship | .threshold | .datapoint | .graphPoint => 0
  | .modelClass | .datasource | .graph => 1
  | .template => 2
  | .deviceClass => 3
  | .zenPack => 4

def hasShorthand (k : Kind) : Bool :=
  k == .datapoint

def rejection (title : String) : String :=
  "unknown specification type '" ++ title ++ "'"

theorem mem_all (k : Kind) : k ∈ all := by
  cases k <;> decide

theorem ofTitle?_title (k : Kind) : ofTitle? k.title = some k := by
  cases k <;> rfl

end Kind

end PackSpec
