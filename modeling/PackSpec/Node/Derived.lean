import PackSpec.Node
import PackSpec.Node.Build

set_option autoImplicit false

namespace PackSpec

open Decimal (Binary64)

def placeInBand (base : Nat) (order : Option Binary64) : Binary64 :=
  match order with
  | some x => if x.isZero then .ofRatio false (2 * base + 1) 2 else .band base x
  | none => .ofRatio false (2 * base + 1) 2

namespace Node

def order (n : Node) (base : Nat) : Binary64 :=
  placeInBand base (Params.float? n.params "order")

def orElse (texts fallback : List String) : List String :=
  if texts.isEmpty then fallback else texts

end Node

namespace ZProperty

def shownDefault (n : Node) : Param.Value :=
  match n.value "default", n.str "type_" with
  | .null, "string" | .null, "password" => .str ""
  | .null, "lines" => .strs []
  | .null, "boolean" => .bool false
  | v, _ => v

end ZProperty

namespace DeviceClass

def path (n : Node) : String :=
  String.ofList (n.name.toList.dropWhile (· == '/'))

end DeviceClass

namespace ModelClass

def bases (n : Node) : List ClassRef := Params.classRefs n.params "base"

def metaType (n : Node) : String := (n.str? "meta_type").getD n.name
def label (n : Node) : String := (n.str? "label").getD (metaType n)
def pluralLabel (n : Node) : String :=
  (n.str? "plural_label").getD (Naming.pluralize (label n))
def shortLabel (n : Node) : String := (n.str? "short_label").getD (label n)

def pluralShortLabel (n : Node) : String :=
  (n.str? "plural_short_label").getD
    (((n.str? "short_label").map Naming.pluralize).getD (pluralLabel n))

def labelWidth (n : Node) : Int64 := n.int "label_width"
def pluralLabelWidth (n : Node) : Int64 := (n.int? "plural_label_width").getD (labelWidth n + 7)
def contentWidth (n : Node) : Int64 := (n.int? "content_width").getD (labelWidth n)
def icon (n : Node) : String := (n.str? "icon").getD (n.name ++ ".png")
def order (n : Node) : Binary64 := n.order 5

def monitoringTemplates (n : Node) : List String :=
  Node.orElse (Params.strs n.params "monitoring_templates")
    [String.ofList ((label n).toList.filter (· != ' '))]

def dynamicViews (n : Node) : List String :=
  Node.orElse (Params.strs n.params "dynamicview_views") ["service_view"]

def dynamicGroup (n : Node) : String :=
  (n.str? "dynamicview_group").getD (pluralShortLabel n)

def properties (n : Node) : Entries Node := n.children "properties"
def relationships (n : Node) : Entries Node := n.children "relationships"

end ModelClass

namespace ClassProperty

def linkRenderer : String := "Zenoss.render.zenpacklib_entityLinkFromGrid"

def label (n : Node) : String := (n.str? "label").getD n.name
def shortLabel (n : Node) : String := (n.str? "short_label").getD (label n)
def contentWidth (n : Node) : Int64 := (n.int? "content_width").getD (n.int "label_width")
def order (n : Node) : Binary64 := n.order 4

def renderer (n : Node) : Option String :=
  (n.str? "renderer").or (if n.str "type_" == "entity" then some linkRenderer else none)

def apiOnly (n : Node) : Bool := n.bool "api_only" || (n.str? "datapoint").isSome
def backend (n : Node) : String := Node.backend n.params

end ClassProperty

namespace ClassRelationship

def linkRenderer : String := ClassProperty.linkRenderer
def typeLinkRenderer : String := "Zenoss.render.zenpacklib_entityTypeLinkFromGrid"

def detailsDisplay (n : Node) : Bool := n.bool "display" && n.bool "details_display"
def gridDisplay (n : Node) : Bool := n.bool "display" && n.bool "grid_display"

def renderer (n : Node) : String :=
  (n.str? "renderer").getD
    (if n.bool "render_with_type" then typeLinkRenderer else linkRenderer)

def order (n : Node) : Binary64 := n.order 5

end ClassRelationship

end PackSpec
