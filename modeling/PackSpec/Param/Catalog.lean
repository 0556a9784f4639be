import PackSpec.Param.Table

set_option autoImplicit false

namespace PackSpec

namespace Catalog

open Param

def zenPack : List Param := [
  (of "name" .str).orElse .required,
  of "zProperties" (.specs .zProperty),
  of "classes" (.specs .modelClass),
  { of "class_relationships" .relationships with isBlock := true },
  of "device_classes" (.specs .deviceClass)]

def zProperty : List Param := [
  ((of "type_" .str).called "type").orElse (.str "string"),
  of "default" (.typedBy "type_"),
  of "category" .str]

def deviceClass : List Param := [
  (of "create" .bool).orElse (.bool true),
  (of "remove" .bool).orElse (.bool false),
  of "zProperties" .dict,
  of "templates" (.specs .template),
  of "component_templates" (.groups .template)]

def standardBase : String := "zenpacklib.Component"

def modelClass : List Param := [
  (of "base" .classRefs).orElse (.classRefs [standardBase]),
  of "meta_type" .str,
  of "label" .str,
  of "plural_label" .str,
  of "short_label" .str,
  of "plural_short_label" .str,
  (of "auto_expand_column" .str).orElse (.str "name"),
  (of "label_width" .int).orElse (.int 80),
  of "plural_label_width" .int,
  of "content_width" .int,
  of "icon" .str,
  of "order" .float,
  of "properties" (.specs .classProperty),
  of "relationships" (.specs .classRelationship),
  of "impacts" .strs,
  of "impacted_by" .strs,
  of "monitoring_templates" .strs,
  (of "filter_display" .bool).orElse (.bool true),
  of "dynamicview_views" .strs,
  of "dynamicview_group" .str,
  of "dynamicview_relations" .dict]

def classProperty : List Param := [
  ((of "type_" .str).called "type").orElse (.str "string"),
  of "label" .str,
  of "short_label" .str,
  of "index_type" .str,
  (of "label_width" .int).orElse (.int 80),
  of "default" .str,
  of "content_width" .int,
  (of "display" .bool).orElse (.bool true),
  (of "details_display" .bool).orElse (.bool true),
  (of "grid_display" .bool).orElse (.bool true),
  of "renderer" .str,
  of "order" .float,
  (of "editable" .bool).orElse (.bool false),
  (of "api_only" .bool).orElse (.bool false),
  (of "api_backendtype" .str).orElse (.str "property"),
  of "enum" .strs,
  of "datapoint" .str,
  of "datapoint_default" .str,
  (of "datapoint_cached" .bool).orElse (.bool true),
  (of "index_scope" .str).orElse (.str "device")]

def classRelationship : List Param := [
  of "label" .str,
  of "short_label" .str,
  of "label_width" .int,
  of "content_width" .int,
  (of "display" .bool).orElse (.bool true),
  (of "details_display" .bool).orElse (.bool true),
  (of "grid_display" .bool).orElse (.bool true),
  of "renderer" .str,
  (of "render_with_type" .bool).orElse (.bool false),
  of "order" .float]

def template : List Param := [
  of "description" .str,
  of "targetPythonClass" .str,
  of "thresholds" (.specs .threshold),
  of "datasources" (.specs .datasource),
  of "graphs" (.specs .graph)]

def threshold : List Param := [
  ((of "type_" .str).called "type").orElse (.str "MinMaxThreshold"),
  of "dsnames" .strs,
  of "minval" .str,
  of "maxval" .str,
  of "eventClass" .str,
  of "severity" .severity,
  of "escalateCount" .int,
  of "enabled" .bool]

def datasource : List Param := [
  (of "sourcetype" .str).called "type",
  of "enabled" .bool,
  of "component" .str,
  of "eventClass" .str,
  of "eventKey" .str,
  of "severity" .severity,
  of "commandTemplate" .str,
  of "cycletime" .int,
  of "datapoints" (.specs .datapoint)]

def datapoint : List Param := [
  of "rrdtype" .str,
  of "createCmd" .str,
  of "isrow" .bool,
  of "rrdmin" .str,
  of "rrdmax" .str,
  of "description" .str]

def graph : List Param := [
  of "height" .int,
  of "width" .int,
  of "units" .str,
  of "log" .bool,
  of "base" .bool,
  of "miny" .int,
  of "maxy" .int,
  of "custom" .str,
  of "hasSummary" .bool,
  of "sequence" .int,
  of "graphpoints" (.specs .graphPoint),
  of "comments" .strs]

def graphPoint : List Param := [
  of "dpName" .str,
  of "lineType" .str,
  of "lineWidth" .int,
  of "stacked" .bool,
  of "format" .str,
  of "legend" .str,
  of "limit" .int,
  of "rpn" .str,
  of "cFunc" .str,
  of "colorindex" .int,
  of "color" .str,
  (of "includeThresholds" .bool).orElse (.bool false)]

end Catalog

namespace Kind

def params : Kind → List Param
  | .zenPack => Catalog.zenPack
  | .zProperty => Catalog.zProperty
  | .deviceClass => Catalog.deviceClass
  | .modelClass => Catalog.modelClass
  | .classProperty => Catalog.classProperty
  | .classRelationship => Catalog.classRelationship
  | .template => Catalog.template
  | .threshold => Catalog.threshold
  | .datasource => Catalog.datasource
  | .datapoint => Catalog.datapoint
  | .graph => Catalog.graph
  | .graphPoint => Catalog.graphPoint

def table (k : Kind) : Table := ⟨k, k.params, .of k.params, rfl⟩

def typed (k : Kind) (type : Option String) : Param.Shape :=
  match k, type with
  | .zProperty, some "boolean" => .bool
  | .zProperty, some "int" => .int
  | .zProperty, some "float" => .float
  | .zProperty, some "lines" => .strs
  | _, _ => .str

theorem height_child (k : Kind) :
    ∀ p ∈ k.params, ∀ c, p.shape.child? = some c → c.height < k.height := by
  cases k <;> simp [params, Catalog.zenPack, Catalog.zProperty, Catalog.deviceClass,
    Catalog.modelClass, Catalog.classProperty, Catalog.classRelationship, Catalog.template,
    Catalog.threshold, Catalog.datasource, Catalog.datapoint, Catalog.graph, Catalog.graphPoint,
    Param.of, Param.called, Param.orElse, Param.Shape.child?, height]

theorem ofParams_params (k : Kind) : Table.ofParams k k.params = .ok k.table := by
  have accepted : (Table.ofParams k k.params).toOption = some k.table := by
    cases k <;> decide +kernel
  cases made : Table.ofParams k k.params with
  | error e => simp [made, Except.toOption] at accepted
  | ok t => simpa [made, Except.toOption] using accepted

end Kind

end PackSpec
