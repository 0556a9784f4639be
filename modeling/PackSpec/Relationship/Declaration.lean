import PackSpec.Naming
import PackSpec.Problem
import PackSpec.Relationship.Multiplicity

set_option autoImplicit false

namespace PackSpec

structure Endpoint where
  className : String
  relationName : Option String
  kind : Multiplicity
deriving DecidableEq, Repr

def given (relationName : Option String) : Option String :=
  relationName.filter fun r => !r.isEmpty

def Endpoint.of (className : String) (relationName : Option String) (kind : Multiplicity) :
    Endpoint :=
  ⟨className, given relationName, kind⟩

def derivedName (kind : Multiplicity) (className : String) : String :=
  Naming.relationName className (!kind.isSingle)

def notOriented (leftClass leftName : String) (leftKind : Multiplicity)
    (rightClass rightName : String) (rightKind : Multiplicity) : Problem :=
  .orientation (leftClass ++ "(" ++ leftName ++ ") " ++ leftKind.hostType)
    (rightKind.hostType ++ " (" ++ rightName ++ ")" ++ rightClass)

structure Decl where
  left : Endpoint
  right : Endpoint
deriving DecidableEq, Repr

structure QualifiedEndpoint where
  className : String
  qualified : String
  relationName : String
  explicit : Bool
  kind : Multiplicity
deriving DecidableEq, Repr

structure Schema where
  left : QualifiedEndpoint
  right : QualifiedEndpoint
  oriented : isOrientation left.kind right.kind = true
deriving DecidableEq

structure View where
  className : String
  qualified : String
  relationName : String
  kind : Multiplicity
  remoteClass : String
  remoteQualified : String
  remoteName : String
  remoteKind : Multiplicity
deriving DecidableEq, Repr

namespace Decl

def isOriented (d : Decl) : Bool :=
  isOrientation d.left.kind d.right.kind

def swapped (d : Decl) : Decl :=
  ⟨d.right, d.left⟩

def defaultLeft (d : Decl) : String := derivedName d.left.kind d.right.className
def defaultRight (d : Decl) : String := derivedName d.right.kind d.left.className

def leftName (d : Decl) : String := d.left.relationName.getD d.defaultLeft
def rightName (d : Decl) : String := d.right.relationName.getD d.defaultRight

def withRelationNames (d : Decl) : Decl :=
  { left := { d.left with relationName := some d.leftName }
    right := { d.right with relationName := some d.rightName } }

theorem swapped_swapped (d : Decl) : d.swapped.swapped = d := rfl

end Decl

/-- The compact form of a relationship; a name equal to its derived one is left out. -/
def compactForm (leftClass leftName leftDefault : String) (leftKind : Multiplicity)
    (rightClass rightName rightDefault : String) (rightKind : Multiplicity) : String :=
  let shown (name default : String) : String := if name == default then "" else "(" ++ name ++ ")"
  leftClass ++ shown leftName leftDefault ++ " " ++ cardinalityText leftKind rightKind ++ " " ++
    shown rightName rightDefault ++ rightClass

def Decl.compact (d : Decl) : Except Problem String :=
  if d.isOriented then
    .ok (compactForm d.left.className d.leftName d.defaultLeft d.left.kind
      d.right.className d.rightName d.defaultRight d.right.kind)
  else
    .error (notOriented d.left.className d.leftName d.left.kind
      d.right.className d.rightName d.right.kind)

namespace Schema

def resolve (ns : String) (leftKind rightKind : Multiplicity)
    (leftClass : String) (leftName : Option String)
    (rightClass : String) (rightName : Option String) : Except Problem Schema :=
  let leftGiven := given leftName
  let rightGiven := given rightName
  let leftFull := leftGiven.getD (derivedName leftKind rightClass)
  let rightFull := rightGiven.getD (derivedName rightKind leftClass)
  if h : isOrientation leftKind rightKind = true then
    .ok
      { left := ⟨leftClass, Naming.qualify ns leftClass, leftFull, leftGiven.isSome, leftKind⟩
        right := ⟨rightClass, Naming.qualify ns rightClass, rightFull, rightGiven.isSome, rightKind⟩
        oriented := h }
  else
    .error (notOriented leftClass leftFull leftKind rightClass rightFull rightKind)

def cardinality (s : Schema) : String :=
  cardinalityText s.left.kind s.right.kind

def defaultLeft (s : Schema) : String := derivedName s.left.kind s.right.className
def defaultRight (s : Schema) : String := derivedName s.right.kind s.left.className

def leftView (s : Schema) : View :=
  ⟨s.left.className, s.left.qualified, s.left.relationName, s.left.kind,
    s.right.className, s.right.qualified, s.right.relationName, s.right.kind⟩

def rightView (s : Schema) : View :=
  ⟨s.right.className, s.right.qualified, s.right.relationName, s.right.kind,
    s.left.className, s.left.qualified, s.left.relationName, s.left.kind⟩

def views (s : Schema) : List View :=
  [s.leftView, s.rightView]

def declaration (s : Schema) : Decl :=
  ⟨.of s.left.className (some s.left.relationName) s.left.kind,
    .of s.right.className (some s.right.relationName) s.right.kind⟩

def compact (s : Schema) : String :=
  compactForm s.left.className s.left.relationName s.defaultLeft s.left.kind
    s.right.className s.right.relationName s.defaultRight s.right.kind

def isWord (name : String) : Bool :=
  name.toList.all fun c => c.isAlpha || c == '_'

def diagramName (name default : String) : Except Problem String :=
  if name == default then .ok ""
  else if isWord name then .ok name
  else .error (.encode "RelationshipSchemaSpec" name "cannot be written in yUML notation")

def diagramMarks : Multiplicity → Multiplicity → String × String × String
  | .single, .single => ("1", "1", "-.-")
  | .multi, .single => ("1", "*", "-.-")
  | .multiOwning, .single => ("++", "", "-")
  | _, _ => ("*", "*", "-.-")

def diagram (s : Schema) : Except Problem String := do
  let (leftMark, rightMark, separator) := diagramMarks s.left.kind s.right.kind
  let leftName ← diagramName s.left.relationName s.defaultLeft
  let rightName ← diagramName s.right.relationName s.defaultRight
  let tail := if rightName.isEmpty && rightMark.isEmpty then "" else rightName ++ " " ++ rightMark
  .ok ("[" ++ s.left.className ++ "]" ++ leftMark ++ leftName ++ " " ++ separator ++ tail ++
    "[" ++ s.right.className ++ "]")

def involves (s : Schema) (className : String) : Bool :=
  s.left.className == className || s.right.className == className

end Schema

def Decl.resolve (d : Decl) (ns : String) : Except Problem Schema :=
  Schema.resolve ns d.left.kind d.right.kind d.left.className d.left.relationName
    d.right.className d.right.relationName

def turned (cardinality : String) : String :=
  match cardinality.toList.dropWhile (· != ':') with
  | [] => cardinality
  | _ :: behind =>
    String.ofList (behind ++ ':' :: cardinality.toList.takeWhile (· != ':'))

theorem turned_cardinalityText (left right : Multiplicity) :
    turned (cardinalityText left right) = cardinalityText right left := by
  cases left <;> cases right <;> rfl

namespace View

def cardinality (v : View) : String :=
  cardinalityText v.kind v.remoteKind

def opposite (v : View) : View :=
  ⟨v.remoteClass, v.remoteQualified, v.remoteName, v.remoteKind,
    v.className, v.qualified, v.relationName, v.kind⟩

def isContaining (v : View) : Bool := v.kind == .multiOwning
def isContained (v : View) : Bool := v.remoteKind == .multiOwning

theorem opposite_opposite (v : View) : v.opposite.opposite = v := rfl

end View

theorem Schema.opposite_leftView (s : Schema) : s.leftView.opposite = s.rightView := rfl
theorem Schema.opposite_rightView (s : Schema) : s.rightView.opposite = s.leftView := rfl

end PackSpec
