import PackSpec.Decimal.Layout
import PackSpec.Decimal.Reading

set_option autoImplicit false

namespace PackSpec

open Decimal (Binary64)

structure Yaml.Integer where
  val : Int
  inRange : -0x8000000000000000 ≤ val ∧ val < 0x10000000000000000
deriving DecidableEq, Repr

namespace Yaml.Integer

def ofInt? (n : Int) : Option Yaml.Integer :=
  if h : -0x8000000000000000 ≤ n ∧ n < 0x10000000000000000 then some ⟨n, h⟩ else none

def ofInt64 (n : Int64) : Yaml.Integer :=
  ⟨n.toInt, by have := n.minValue_le_toInt; have := n.toInt_lt; simp at *; omega⟩

def int64? (n : Yaml.Integer) : Option Int64 :=
  if Decimal.isInt64 n.val then some (Int64.ofInt n.val) else none

end Yaml.Integer

inductive Yaml where
  | null
  | bool (value : Bool)
  | int (value : Yaml.Integer)
  | float (value : Binary64)
  | str (text : String)
  | seq (items : List Yaml)
  | map (entries : List (Yaml × Yaml))
  | tagged (tag : String) (value : Yaml)
deriving Inhabited

namespace Yaml

def layout : Decimal.Layout :=
  ⟨.even, -4, 16, ".inf", "-.inf", ".nan"⟩

def intText (n : Integer) : String := toString n.val
def floatText (x : Binary64) : String := layout.render x

/-- As numbers in a document, unlike elsewhere, all NaNs are one. -/
def sameFloat (x y : Binary64) : Bool :=
  (x.isNaN && y.isNaN) || x.numEq y

mutual

def same : Yaml → Yaml → Bool
  | .null, .null => true
  | .bool a, .bool b => a == b
  | .int a, .int b => a == b
  | .float a, .float b => sameFloat a b
  | .str a, .str b => a == b
  | .seq a, .seq b => sameItems a b
  | .map a, .map b => a.length == b.length && entriesIn a b
  | .tagged a x, .tagged b y => a == b && same x y
  | _, _ => false

def sameItems : List Yaml → List Yaml → Bool
  | [], [] => true
  | x :: xs, y :: ys => same x y && sameItems xs ys
  | _, _ => false

def entriesIn : List (Yaml × Yaml) → List (Yaml × Yaml) → Bool
  | [], _ => true
  | (k, v) :: rest, other =>
    (other.any fun e => same k e.1 && same v e.2) && entriesIn rest other

end

def find? (entries : List (Yaml × Yaml)) (key : Yaml) : Option Yaml :=
  (entries.find? fun e => e.1.same key).map Prod.snd

def get? (entries : List (Yaml × Yaml)) (key : String) : Option Yaml :=
  find? entries (.str key)

def hasKey (entries : List (Yaml × Yaml)) (key : Yaml) : Bool :=
  entries.any fun e => e.1.same key

def put (entries : List (Yaml × Yaml)) (key value : Yaml) : List (Yaml × Yaml) :=
  if hasKey entries key then
    entries.map fun e => if e.1.same key then (e.1, value) else e
  else entries ++ [(key, value)]

def ofEntries (entries : List (Yaml × Yaml)) : List (Yaml × Yaml) :=
  entries.foldl (fun acc e => put acc e.1 e.2) []

def untagged : Yaml → Yaml
  | .tagged _ v => untagged v
  | v => v

def isNull (v : Yaml) : Bool :=
  match v.untagged with
  | .null => true
  | _ => false

def text? (v : Yaml) : Option String :=
  match v.untagged with
  | .str text => some text
  | _ => none

def describe : Yaml → String
  | .null => "null"
  | .bool _ => "a boolean"
  | .int _ | .float _ => "a number"
  | .str text => "the string '" ++ text ++ "'"
  | .seq _ => "a sequence"
  | .map _ => "a mapping"
  | .tagged tag _ => "a value tagged !" ++ tag

end Yaml

end PackSpec
