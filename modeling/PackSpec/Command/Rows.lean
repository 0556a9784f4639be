import PackSpec.Specification
import PackSpec.Text.Json

set_option autoImplicit false

namespace PackSpec

structure Row where
  className : String
  relationName : String
  kind : Multiplicity
  cardinality : String
  remoteClass : String
  remoteName : String
  isHost : Bool
deriving DecidableEq, Repr

namespace Row

def ofView (isHost : Bool) (v : View) : Row :=
  ⟨if isHost then v.qualified else v.className, v.relationName, v.kind, v.cardinality,
    v.remoteClass, v.remoteName, isHost⟩

def text (r : Row) : String :=
  r.className ++ "." ++ r.relationName ++ " " ++ r.cardinality ++ " " ++ r.remoteClass ++ "." ++
    r.remoteName ++ " (" ++ r.kind.hostType ++ ")" ++ (if r.isHost then " [external]" else "")

def fields (r : Row) : List Text.Json.Field := [
  ("class", Text.Json.quoted r.className),
  ("relation", Text.Json.quoted r.relationName),
  ("kind", Text.Json.quoted r.kind.name),
  ("cardinality", Text.Json.quoted r.cardinality),
  ("remote_class", Text.Json.quoted r.remoteClass),
  ("remote_relation", Text.Json.quoted r.remoteName),
  ("external", Text.Json.ofBool r.isHost)]

def json (rows : List Row) : String := Text.Json.records (rows.map fields)

end Row

namespace Specification

def rowsOf (s : Specification) (className : String) : List Row :=
  (s.links.ofClass className).map (Row.ofView false)

def hostRows (s : Specification) : List Row :=
  (s.links.host.flatMap Prod.snd).map (Row.ofView true)

def allRows (s : Specification) : List Row :=
  (Entries.names s.classes).flatMap s.rowsOf ++ s.hostRows

def rows (s : Specification) (className : Option String) (inherited : Bool) : List Row :=
  match className with
  | some c => if inherited then (s.inheritedViews c).map (Row.ofView false) else s.rowsOf c
  | none => s.allRows

end Specification

end PackSpec
