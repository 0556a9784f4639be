import PackSpec.Param.Value

set_option autoImplicit false

namespace PackSpec

open Decimal (Binary64)

namespace Params

def value (ps : Params) (name : String) : Param.Value := (Entries.get? ps name).getD .null

def str? (ps : Params) (name : String) : Option String :=
  match value ps name with
  | .str s => some s
  | _ => none

def str (ps : Params) (name : String) : String := (str? ps name).getD ""

def bool (ps : Params) (name : String) : Bool :=
  match value ps name with
  | .bool b => b
  | _ => false

def int? (ps : Params) (name : String) : Option Int64 :=
  match value ps name with
  | .int n => some n
  | _ => none

def int (ps : Params) (name : String) : Int64 := (int? ps name).getD 0

def float? (ps : Params) (name : String) : Option Binary64 :=
  match value ps name with
  | .float x => some x
  | _ => none

def strs (ps : Params) (name : String) : List String :=
  match value ps name with
  | .strs xs => xs
  | _ => []

def classRefs (ps : Params) (name : String) : List ClassRef :=
  match value ps name with
  | .classRefs cs => cs
  | _ => []

def relationships (ps : Params) (name : String) : List Decl :=
  match value ps name with
  | .relationships ds => ds
  | _ => []

def children (ps : Params) (name : String) : Children :=
  match value ps name with
  | .specs _ cs => cs
  | _ => []

def groups (ps : Params) (name : String) : Groups :=
  match value ps name with
  | .groups _ gs => gs
  | _ => []

end Params

end PackSpec
