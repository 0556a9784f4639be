import PackSpec.Param.Table

set_option autoImplicit false

namespace PackSpec

open Decimal (Binary64)

namespace Coerce

def boolOf? (text : String) : Option Bool :=
  let word := Text.Case.lowered (Text.trimmed text)
  if ["true", "yes", "on"].contains word then some true
  else if ["false", "no", "off"].contains word then some false
  else none

def intOf? (text : String) : Option Int64 := Decimal.int64Of (Text.trimmed text)

def floatOf? (text : String) : Option Binary64 := Decimal.numberOf (Text.trimmed text)

def boolText (b : Bool) : String := if b then "true" else "false"

def retyped (shape : Param.Shape) (v : Param.Value) : Param.Value :=
  match shape, v with
  | .bool, .str s => ((boolOf? s).map .bool).getD v
  | .int, .str s => ((intOf? s).map .int).getD v
  | .int, .float x => if x.isWhole then .int (Int64.ofInt x.toInt) else v
  | .float, .str s => ((floatOf? s).map .float).getD v
  | .float, .int n => .float (.ofInt n.toInt)
  | .strs, .str s => .strs [s]
  | .str, .bool b => .str (boolText b)
  | .str, .int n => .str (toString n.toInt)
  | .str, .float x => .str (Yaml.floatText x)
  | _, _ => v

def fits : Param.Shape → Param.Value → Bool
  | _, .null => true
  | .bool, .bool _ => true
  | .int, .int _ => true
  | .float, .float _ | .float, .int _ => true
  | .strs, .strs _ => true
  | .str, .str _ => true
  | _, _ => false

end Coerce

end PackSpec
