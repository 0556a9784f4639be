import PackSpec.Build
import PackSpec.Specification.Lineage

set_option autoImplicit false

namespace PackSpec

structure Link where
  className : String
  relationName : String
  view : View
deriving DecidableEq, Repr

structure Links where
  linked : List Link
  host : Entries (List View)
deriving DecidableEq, Repr

namespace Links

def empty : Links := ⟨[], []⟩

def get? (t : Links) (className relationName : String) : Option View :=
  (t.linked.find? fun l => l.className == className && l.relationName == relationName).map Link.view

def has (t : Links) (className relationName : String) : Bool :=
  t.linked.any fun l => l.className == className && l.relationName == relationName

def ofClass (t : Links) (className : String) : List View :=
  (t.linked.filter fun l => l.className == className).map Link.view

def size (t : Links) : Nat := t.linked.length

def splitLast (token : String) : Option (String × String) :=
  let cs := token.toList
  if cs.contains '.' then
    let last := (cs.reverse.takeWhile (· != '.')).reverse
    some (String.ofList (cs.take (cs.length - last.length - 1)), String.ofList last)
  else none

def ownName? (ns token : String) : Option String :=
  match splitLast token with
  | none => some token
  | some (before, last) => if !ns.isEmpty && before == ns then some last else none

def localClass? (ns : String) (classes : Children) (token : String) : Option String :=
  (ownName? ns token).filter fun name => Entries.has classes name && name != defaultsName

/-- A view of a class of the specification is linked under that class, a view of a class of the host
is kept under the token that names it, and any other is left out with a warning. -/
inductive Place where
  | class (name : String)
  | host
  | nowhere
deriving DecidableEq, Repr

def place (ns : String) (classes : Children) (v : View) : Place :=
  match localClass? ns classes v.className with
  | some name => .class name
  | none => if (ClassRef.ofToken v.className).isOwn then .nowhere else .host

def repeated (className relationName : String) : Problem :=
  .construction Kind.zenPack.title
    ("relationship '" ++ relationName ++ "' is defined more than once on class '" ++ className ++
      "'")

def undefinedClass (v : View) : Problem :=
  .unresolved "RelationshipSchemaSpec" v.relationName
    ("class '" ++ v.className ++ "' is not defined")

def putHost (host : Entries (List View)) (v : View) : Entries (List View) :=
  Entries.put host v.className (((Entries.get? host v.className).getD []) ++ [v])

def link (ns : String) (classes : Children) (t : Links) (v : View) : Build Links :=
  match place ns classes v with
  | .class name =>
    if t.has name v.relationName then Build.abort (repeated name v.relationName)
    else return { t with linked := t.linked ++ [⟨name, v.relationName, v⟩] }
  | .nowhere => do
    Build.warn (undefinedClass v)
    return t
  | .host => return { t with host := putHost t.host v }

def linkViews (ns : String) (classes : Children) (t : Links) : List View → Build Links
  | [] => return t
  | v :: rest => do linkViews ns classes (← link ns classes t v) rest

def linkSchemas (ns : String) (classes : Children) (t : Links) (i : Nat) : List Schema → Build Links
  | [] => return t
  | s :: rest => do
    let t ← Build.within (toString i) (linkViews ns classes t s.views)
    linkSchemas ns classes t (i + 1) rest

def undefinedBase (name base : String) : Problem :=
  .unresolved Kind.modelClass.title name ("base class '" ++ base ++ "' is not defined")

def undeclared (className relationName : String) : Problem :=
  .unresolved Kind.classRelationship.title relationName
    ("no relationship schema defines '" ++ relationName ++ "' on class '" ++ className ++ "'")

def undefinedBases (classes : Children) (name : String) : List String :=
  (Lineage.ownBases classes name).filter fun base => !Entries.has classes base

def undeclaredNames (t : Links) (classes : Children) (name : String) (ps : Params) : List String :=
  let lineage := Lineage.lineage classes name
  (Entries.names (Params.children ps "relationships")).filter fun r =>
    r != defaultsName && !lineage.any fun c => t.has c r

def warnAll : List Problem → Build Unit
  | [] => return ()
  | e :: rest => do
    Build.warn e
    warnAll rest

def warnEach (error : String → Problem) : List String → Build Unit
  | [] => return ()
  | name :: rest => do
    Build.within name (Build.warn (error name))
    warnEach error rest

def checkClass (t : Links) (classes : Children) (name : String) (ps : Params) : Build Unit :=
  Build.within name do
    warnAll ((undefinedBases classes name).map (undefinedBase name))
    Build.within "relationships"
      (warnEach (undeclared name) (undeclaredNames t classes name ps))

def warnOfClasses (t : Links) (classes : Children) : Children → Build Unit
  | [] => return ()
  | (name, ps) :: rest => do
    if name != defaultsName then checkClass t classes name ps
    warnOfClasses t classes rest

def build (classes : Children) (schemas : List Schema) : Build Links := do
  let c ← get
  let t ← Build.within "class_relationships" (linkSchemas c.ns classes empty 0 schemas)
  Build.within "classes" (warnOfClasses t classes classes)
  return t

end Links

end PackSpec
