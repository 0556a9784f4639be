set_option autoImplicit false

namespace PackSpec.Text.Json

def codeOf (c : Char) : List Char :=
  let digits := Nat.toDigits 16 c.toNat
  ['\\', 'u'] ++ List.replicate (4 - digits.length) '0' ++ digits

def encodeChar (c : Char) : List Char :=
  match c with
  | '\x22' => ['\\', '\x22']
  | '\\' => ['\\', '\\']
  | '\x08' => ['\\', 'b']
  | '\x0c' => ['\\', 'f']
  | '\n' => ['\\', 'n']
  | '\r' => ['\\', 'r']
  | '\t' => ['\\', 't']
  | c => if c.toNat < 32 then codeOf c else [c]

def quoted (s : String) : String :=
  String.ofList ('\x22' :: s.toList.flatMap encodeChar ++ ['\x22'])

def ofBool (b : Bool) : String := if b then "true" else "false"

abbrev Field : Type := String × String

def field (f : Field) : String := "    " ++ quoted f.1 ++ ": " ++ f.2

def record (fields : List Field) : String :=
  "  \x7b\n" ++ ",\n".intercalate (fields.map field) ++ "\n  \x7d"

def records (rs : List (List Field)) : String :=
  if rs.isEmpty then "[]"
  else "[\n" ++ ",\n".intercalate (rs.map record) ++ "\n]"

end PackSpec.Text.Json
