import PackSpec.Text.Case

set_option autoImplicit false

namespace PackSpec.Naming

def isQualified (className : String) : Bool :=
  className.toList.contains '.'

def qualify (ns className : String) : String :=
  if isQualified className || ns.isEmpty then className else ns ++ "." ++ className

def lowerLeading : List Char → List Char
  | [] => []
  | c :: rest =>
    if Text.Case.isUpper c then Text.Case.lower c ++ lowerLeading rest else c :: rest

def flatten (className : String) : List Char :=
  Text.Case.lowerText (className.toList.map fun c => if c = '.' then '_' else c)

/-- The relation name that points to `className`: the capitals it starts with in lower case, or all
of a qualified name in lower case with its parts joined by underscores. -/
def relationName (className : String) (plural : Bool) : String :=
  let stem := if isQualified className then flatten className else className.toList
  String.ofList (lowerLeading stem ++ if plural then ['s'] else [])

def pluralize (text : String) : String :=
  text ++ if text.toList.getLast? == some 's' then "es" else "s"

def capitalize (text : String) : String :=
  match text.toList with
  | [] => ""
  | c :: rest => String.ofList (Text.Case.upper c ++ rest)

end PackSpec.Naming
