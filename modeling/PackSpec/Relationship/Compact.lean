import PackSpec.Relationship.Declaration
import PackSpec.Text.Basic

set_option autoImplicit false

namespace PackSpec.Compact

def ambiguous (text reason : String) : Problem :=
  .ambiguousNotation (Text.trimmed text) reason

def words : List Char → List (List Char)
  | [] => []
  | c :: rest =>
    if Text.isBlank c then words rest
    else
      match rest with
      | [] => [[c]]
      | d :: _ =>
        if Text.isBlank d then [c] :: words rest
        else
          match words rest with
          | [] => [[c]]
          | w :: more => (c :: w) :: more

def parenthesized : List Char → Option (List Char × List Char)
  | '(' :: rest =>
    let name := rest.takeWhile (· != ')')
    match rest.dropWhile (· != ')') with
    | [] => none
    | _ :: after => if name.isEmpty then none else some (name, after)
  | _ => none

def named (cs : List Char) : Option (List Char × Option (List Char)) :=
  let name := cs.takeWhile (· != '(')
  if name.isEmpty then none
  else
    match cs.dropWhile (· != '(') with
    | [] => some (name, none)
    | rest =>
      match parenthesized rest with
      | some (relationName, []) => some (name, some relationName)
      | _ => none

/-- Class name and relation name of a side; a relation name before the class wins. -/
def side (cs : List Char) : Option (List Char × Option (List Char)) :=
  match cs with
  | '(' :: _ =>
    match parenthesized cs with
    | some (relationName, rest) => (named rest).map fun (name, _) => (name, some relationName)
    | none => none
  | _ => named cs

def endpoint (text which : String) (kind : Multiplicity) (raw : List Char) :
    Except Problem Endpoint :=
  match side raw with
  | some (name, relationName) =>
    .ok (.of (String.ofList name) (relationName.map String.ofList) kind)
  | none =>
    .error (ambiguous text (which ++ " side '" ++ String.ofList raw ++ "' is not valid"))

def expected (text : String) : Problem :=
  ambiguous text "expected Left 1:1|1:M|1:MC|M:M Right"

def read (text : String) : Except Problem Decl :=
  match words text.toList with
  | [left, cardinality, right] =>
    match kindsOfCardinality? (String.ofList cardinality) with
    | some (leftKind, rightKind) => do
      let left ← endpoint text "left" leftKind left
      let right ← endpoint text "right" rightKind right
      .ok ⟨left, right⟩
    | none => .error (expected text)
  | _ => .error (expected text)

end PackSpec.Compact
