import PackSpec.Diagnostic
import PackSpec.Relationship.Compact
import PackSpec.Relationship.Diagram

set_option autoImplicit false

namespace PackSpec

/-- Text that begins with a bracket is a diagram line, all other text is in compact form. -/
def Decl.ofText (text : String) : Except Problem Decl :=
  match Text.trimStart text.toList with
  | '[' :: _ =>
    match Diagram.readLine text with
    | .ok (some d) => .ok d
    | .ok none => .error (Diagram.ambiguous text "no relationship on this line")
    | .error e => .error e
  | _ => Compact.read text

namespace Diagram

def readLines (source : String) (line : Nat) :
    List (List Char) → Diagnostics → Except Diagnostic (List Decl) × Diagnostics
  | [], s => (.ok [], s)
  | raw :: rest, s =>
    match readLine (String.ofList raw) with
    | .ok found =>
      let (decls, s) := readLines source (line + 1) rest s
      (decls.map (found.toList ++ ·), s)
    | .error e =>
      match s.reportRelationship ((Location.root source).placed line 1) e with
      | (s, none) => readLines source (line + 1) rest s
      | (s, some d) => (.error d, s)

def read (source text : String) (s : Diagnostics) : Except Diagnostic (List Decl) × Diagnostics :=
  readLines source 1 (Text.lines text.toList) s

end Diagram

end PackSpec
