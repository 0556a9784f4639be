import PackSpec.Param.Access
import PackSpec.Param.Overlay

set_option autoImplicit false

namespace PackSpec

namespace Lineage

def ownBases (classes : Children) (name : String) : List String :=
  match Entries.get? classes name with
  | some ps => (Params.classRefs ps "base").filterMap ClassRef.own?
  | none => []

structure Walk where
  seen : List String
  found : List String

def Walk.visit (w : Walk) (name : String) : Walk :=
  ⟨name :: w.seen, w.found ++ [name]⟩

def collect (classes : Children) (recursive : Bool) : Nat → String → Walk → Walk
  | 0, _, w => w
  | fuel + 1, name, w =>
    (ownBases classes name).foldl (fun w base =>
      if !Entries.has classes base || w.seen.contains base then w
      else if recursive then collect classes recursive fuel base (w.visit base)
      else w.visit base) w

def ancestors (classes : Children) (recursive : Bool) (name : String) : List String :=
  (collect classes recursive (classes.length + 1) name ⟨[name], []⟩).found

def work (classes : Children) : Nat → List String → List String → List String
  | 0, _, order => order
  | _, [], order => order
  | fuel + 1, current :: stack, order =>
    let (stack, order) := (ownBases classes current).reverse.foldl (fun (stack, order) base =>
      if Entries.has classes base && !order.contains base then (base :: stack, order ++ [base])
      else (stack, order)) (stack, order)
    work classes fuel stack order

def lineage (classes : Children) (name : String) : List String :=
  work classes (classes.length + 2) [name] [name]

def overlay (classes : Children) : Nat → String → Walk → Walk
  | 0, _, w => w
  | fuel + 1, name, w =>
    if w.seen.contains name then w
    else
      let seen : Walk := ⟨name :: w.seen, w.found⟩
      if !Entries.has classes name then seen
      else
        let below := (ownBases classes name).foldl (fun w base => overlay classes fuel base w) seen
        ⟨below.seen, below.found ++ [name]⟩

def overlayOrder (classes : Children) (name : String) : List String :=
  (overlay classes (classes.length + 2) name ⟨[], []⟩).found

end Lineage

end PackSpec
