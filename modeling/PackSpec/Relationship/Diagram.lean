import PackSpec.Relationship.Declaration
import PackSpec.Text.Basic

set_option autoImplicit false

namespace PackSpec

structure Drawn where
  leftClass : List Char
  leftMark : List Char
  leftName : List Char
  rightName : List Char
  rightMark : List Char
  rightClass : List Char
deriving DecidableEq, Repr

namespace Drawn

def isMark (c : Char) : Bool := c == '.' || c == '*' || c == '+' || Text.isDigit c
def isLetter (c : Char) : Bool := c.isAlpha || c == '_'
def isRule (c : Char) : Bool := c == '-' || c == '.'

def bracketed : List Char → Option (List Char × List Char)
  | '[' :: rest =>
    let name := rest.takeWhile (· != ']')
    match rest.dropWhile (· != ']') with
    | [] => none
    | _ :: after => if name.isEmpty then none else some (name, after)
  | _ => none

def rightHalf (cs : List Char) : Option (List Char × List Char × List Char) :=
  let marked := Text.trimStart (cs.dropWhile isLetter)
  (bracketed (marked.dropWhile isMark)).map fun (name, _) =>
    (cs.takeWhile isLetter, marked.takeWhile isMark, name)

def afterMark (leftClass leftMark cs : List Char) : Option Drawn :=
  let rule := Text.trimStart (cs.dropWhile isLetter)
  if (rule.takeWhile isRule).isEmpty then none
  else
    (rightHalf (rule.dropWhile isRule)).map fun (rightName, rightMark, rightClass) =>
      ⟨leftClass, leftMark, cs.takeWhile isLetter, rightName, rightMark, rightClass⟩

def cuts (cs : List Char) : Nat → List (List Char × List Char)
  | 0 => [([], cs)]
  | n + 1 => (cs.take (n + 1), cs.drop (n + 1)) :: cuts cs n

/-- A dot may belong to the left mark or to the rule; the longest mark that leaves a rule is
taken. -/
def atStart (cs : List Char) : Option Drawn :=
  match bracketed cs with
  | none => none
  | some (leftClass, rest) =>
    (cuts rest (rest.takeWhile isMark).length).findSome? fun (mark, after) =>
      afterMark leftClass mark after

def find : List Char → Option Drawn
  | [] => none
  | c :: rest => (atStart (c :: rest)).or (find rest)

def isOwner : List Char → Bool
  | '+' :: '+' :: _ => true
  | [] => false
  | _ :: rest => isOwner rest

def kindOf (mark across : List Char) : Multiplicity :=
  if isOwner mark then .multiOwning
  else if across.contains '*' then .multi
  else .single

def decl (d : Drawn) : Decl :=
  ⟨.of (String.ofList d.leftClass) (some (String.ofList d.leftName))
      (kindOf d.leftMark d.rightMark),
    .of (String.ofList d.rightClass) (some (String.ofList d.rightName))
      (kindOf d.rightMark d.leftMark)⟩

end Drawn

namespace Diagram

def isPassedOver (line : String) : Bool :=
  match Text.trimStart line.toList with
  | [] => true
  | '/' :: '/' :: _ => true
  | _ => false

def ambiguous (text reason : String) : Problem :=
  .ambiguousNotation (Text.trimmed text) reason

def oriented (d : Decl) : Except Problem Decl :=
  if d.isOriented then .ok d
  else if d.swapped.isOriented then .ok d.swapped
  else
    .error (notOriented d.left.className d.leftName d.left.kind
      d.right.className d.rightName d.right.kind)

def readLine (line : String) : Except Problem (Option Decl) :=
  if isPassedOver line then .ok none
  else
    match Drawn.find line.toList with
    | some d => (oriented d.decl).map some
    | none =>
      .error (ambiguous line
        "expected [Left]<marker><relname> <separator> <relname><marker>[Right]")

end Diagram

end PackSpec
