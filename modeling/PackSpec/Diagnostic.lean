import PackSpec.LineIndex
import PackSpec.Problem

set_option autoImplicit false

namespace PackSpec

inductive Mode where
  | strict
  | lenient
deriving DecidableEq, Repr, Inhabited

namespace Mode

def name : Mode → String
  | .strict => "strict"
  | .lenient => "lenient"

def ofName? : String → Option Mode
  | "strict" => some .strict
  | "lenient" => some .lenient
  | _ => none

theorem ofName?_name (m : Mode) : ofName? m.name = some m := by
  cases m <;> rfl

end Mode

inductive Level where
  | error
  | warning
deriving DecidableEq, Repr

namespace Level

def name : Level → String
  | .error => "error"
  | .warning => "warning"

end Level

structure Location where
  source : String
  path : List String
  line : Option Nat
  column : Option Nat
deriving DecidableEq, Repr, Inhabited

namespace Location

def root (source : String) : Location :=
  ⟨source, [], none, none⟩

def child (l : Location) (segment : String) : Location :=
  ⟨l.source, l.path ++ [segment], none, none⟩

def placed (l : Location) (line column : Nat) : Location :=
  { l with line := some line, column := some column }

def pointer (l : Location) : String :=
  String.join (l.path.map fun segment => "/" ++ segment)

def text (l : Location) : String :=
  let source := if l.source.isEmpty then "<input>" else l.source
  match l.line, l.column with
  | some line, some column => source ++ ":" ++ toString line ++ ":" ++ toString column
  | some line, none => source ++ ":" ++ toString line
  | none, _ => if l.path.isEmpty then source else source ++ ":" ++ l.pointer

end Location

structure Diagnostic where
  level : Level
  location : Location
  error : Problem
deriving DecidableEq, Repr

namespace Diagnostic

def text (d : Diagnostic) : String :=
  d.location.text ++ ": " ++ d.error.message

def isError (d : Diagnostic) : Bool := d.level == .error
def isWarning (d : Diagnostic) : Bool := d.level == .warning

end Diagnostic

structure Diagnostics where
  mode : Mode
  items : List Diagnostic
  index : Option LineIndex
deriving DecidableEq, Repr

namespace Diagnostics

def empty (mode : Mode) : Diagnostics :=
  ⟨mode, [], none⟩

def isStrict (s : Diagnostics) : Bool := s.mode == .strict

def withIndex (s : Diagnostics) (index : LineIndex) : Diagnostics :=
  { s with index := some index }

def push (s : Diagnostics) (d : Diagnostic) : Diagnostics :=
  { s with items := s.items ++ [d] }

/-- A location without a line takes the position that the source index has for its path. -/
def locate (s : Diagnostics) (l : Location) : Location :=
  match l.line, s.index.bind fun x => x.position l.path with
  | none, some p => l.placed p.line p.column
  | _, _ => l

/-- `none` when the problem was recorded, else the diagnostic that the caller has to return. -/
def handle (s : Diagnostics) (d : Diagnostic) : Diagnostics × Option Diagnostic :=
  if d.isWarning then (s.push d, none)
  else if s.isStrict || !d.error.isRecoverable then (s, some d)
  else (s.push d, none)

def report (s : Diagnostics) (l : Location) (e : Problem) : Diagnostics × Option Diagnostic :=
  s.handle ⟨.error, s.locate l, e⟩

/-- Reports a problem with one relationship of many: there an orientation error is recoverable. -/
def reportRelationship (s : Diagnostics) (l : Location) (e : Problem) :
    Diagnostics × Option Diagnostic :=
  let d : Diagnostic := ⟨.error, s.locate l, e⟩
  if e.isOrientation && !s.isStrict then (s.push d, none) else s.handle d

def warn (s : Diagnostics) (l : Location) (e : Problem) : Diagnostics :=
  s.push ⟨.warning, s.locate l, e⟩

def errors (s : Diagnostics) : List Diagnostic := s.items.filter Diagnostic.isError
def warnings (s : Diagnostics) : List Diagnostic := s.items.filter Diagnostic.isWarning
def hasErrors (s : Diagnostics) : Bool := s.items.any Diagnostic.isError

def text (s : Diagnostics) : String :=
  "\n".intercalate (s.items.map Diagnostic.text)

end Diagnostics

end PackSpec
