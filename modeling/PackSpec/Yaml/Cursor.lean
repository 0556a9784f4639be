import PackSpec.Text.Basic

set_option autoImplicit false

namespace PackSpec.Yaml

def isSpace (c : Char) : Bool := c == ' ' || c == '\t'

def isBreak (c : Char) : Bool :=
  c == '\n' || c == '\r' || c == '\x85' || c == '\u2028' || c == '\u2029'

def isGap (c : Char) : Bool := isSpace c || isBreak c

def endsWord (next : Option Char) : Bool := next.all isGap
def endsLine (next : Option Char) : Bool := next.all isBreak

def isNameChar (c : Char) : Bool := c.isAlphanum || c == '_' || c == '-'

structure Mark where
  index : Nat
  line : Nat
  column : Nat
deriving DecidableEq, Repr

namespace Mark

def start : Mark := ⟨0, 0, 0⟩

def isStart (m : Mark) : Bool := m.line == 0 && m.column == 0

def isSamePlace (m n : Mark) : Bool := m.line == n.line && m.column == n.column

def text (m : Mark) : String :=
  "line " ++ toString (m.line + 1) ++ " column " ++ toString (m.column + 1)

end Mark

structure Task where
  reading : String
  start : Mark
deriving DecidableEq, Repr

structure Fault where
  problem : String
  place : Option Mark
  task : Option Task
deriving DecidableEq, Repr

namespace Fault

-- The start of a text is not named, nor is a task that begins where the problem is.
def placeText (f : Fault) : String :=
  match f.place with
  | some m => if m.isStart then "" else " at " ++ m.text
  | none => ""

def taskText (f : Fault) : String :=
  match f.task with
  | some t =>
    if t.start.isStart || f.place.any t.start.isSamePlace then ", " ++ t.reading
    else ", " ++ t.reading ++ " at " ++ t.start.text
  | none => ""

def message (f : Fault) : String := f.problem ++ f.placeText ++ f.taskText

def position? (f : Fault) : Option (Nat × Nat) :=
  f.place.map fun m => (m.line + 1, m.column + 1)

end Fault

structure Cursor where
  rest : List Char
  mark : Mark

namespace Cursor

def start (cs : List Char) : Cursor := ⟨cs, .start⟩

def column (c : Cursor) : Nat := c.mark.column

def next (c : Cursor) : Option Char := c.rest.head?
def afterNext (c : Cursor) : Option Char := c.rest.tail.head?

def skip (c : Cursor) (n : Nat) : Cursor :=
  ⟨c.rest.drop n, c.mark.index + n, c.mark.line, c.mark.column + n⟩

def skipWhile (c : Cursor) (p : Char → Bool) : Cursor :=
  c.skip (c.rest.takeWhile p).length

def skipBreak (c : Cursor) : Cursor :=
  match c.rest with
  | '\r' :: '\n' :: rest => ⟨rest, c.mark.index + 2, c.mark.line + 1, 0⟩
  | _ :: rest => ⟨rest, c.mark.index + 1, c.mark.line + 1, 0⟩
  | [] => c

def breakText (c : Cursor) : List Char :=
  match c.rest with
  | [] => []
  | x :: _ => if x == '\u2028' || x == '\u2029' then [x] else ['\n']

def skipComment (c : Cursor) : Cursor :=
  if c.next == some '#' then c.skipWhile (!isBreak ·) else c

def atMarker (c : Cursor) : Bool :=
  c.column == 0 &&
    match c.rest with
    | '-' :: '-' :: '-' :: rest => endsWord rest.head?
    | '.' :: '.' :: '.' :: rest => endsWord rest.head?
    | _ => false

def refuse {α : Type} (c : Cursor) (t : Task) (problem : String) : Except Fault α :=
  .error ⟨problem, some c.mark, some t⟩

end Cursor

end PackSpec.Yaml
