import PackSpec.Command.Arguments
import PackSpec.Command.Lint
import PackSpec.Command.Rows

set_option autoImplicit false

namespace PackSpec

namespace Specification

def compactLines (s : Specification) : List String := s.schemas.map Schema.compact

def diagramLine (s : Schema) : Except String String :=
  s.diagram.mapError fun e => "cannot write '" ++ s.compact ++ "' as yUML: " ++ e.message

def lines (s : Specification) (compact : Bool) : Except String (List String) :=
  if compact then .ok s.compactLines else s.schemas.mapM diagramLine

end Specification

structure Files (m : Type → Type) where
  read : String → m (Except String String)
  write : String → String → m (Except String Unit)

structure Ending where
  exitCode : Nat
  output : String
  problems : List String
  fatal : Option String
deriving DecidableEq, Repr

namespace Ending

def done (problems : List String) (output : String) : Ending := ⟨0, output, problems, none⟩

def failed (problems : List String) (message : String) : Ending := ⟨1, "", problems, some message⟩

def errorLines (e : Ending) : List String :=
  (e.problems ++ (e.fatal.map ("fatal: " ++ ·)).toList).flatMap fun t => t.splitOn "\n"

end Ending

namespace Command

def unlines (lines : List String) : String := String.join (lines.map (· ++ "\n"))

def withSpecification (c : Compilation) (shown : Specification → Except String String) : Ending :=
  let problems := c.2.items.map Diagnostic.text
  match c.1 with
  | .error d => .failed problems ("compilation aborted: " ++ d.text)
  | .ok s =>
    match shown s with
    | .ok output => .done problems output
    | .error message => .failed problems message

def lint (c : Compilation) (denyWarnings : Bool) : Ending :=
  let l := Lint.ofCompilation c
  ⟨l.exitCode denyWarnings, unlines (l.lines ++ [l.summary]), [], none⟩

def documentText (s : Specification) : Except String String :=
  (Document.text s).mapError fun e => "failed to write specification: " ++ e.message

def relationshipText (className : Option String) (inherited : Bool) (format : Format)
    (s : Specification) : Except String String :=
  let rows := s.rows className inherited
  match className.filter fun c => !Entries.has s.classes c with
  | some c => .error ("class '" ++ c ++ "' is not defined in " ++ s.name)
  | none =>
    match format with
    | .text => .ok (unlines (rows.map Row.text))
    | .json => .ok (unlines [Row.json rows])

def lineText (compact : Bool) (s : Specification) : Except String String :=
  (s.lines compact).map unlines

def ofCompilation (a : Action) (c : Compilation) : Ending :=
  match a with
  | .lint denyWarnings => lint c denyWarnings
  | .dump .. => withSpecification c documentText
  | .relationships className inherited format =>
    withSpecification c (relationshipText className inherited format)
  | .diagram compact => withSpecification c (lineText compact)

def ownMode : Action → Mode
  | .lint _ => .lenient
  | _ => .strict

def options (i : Invocation) (c : Config) : Document.Options :=
  let o := i.flags.options c
  match i.action with
  | .dump true _ => { o with keepsDefaults := true }
  | _ => o

def compile (i : Invocation) (c : Config) (text : String) : Compilation :=
  Document.compile i.path text (.empty (i.flags.mode c (ownMode i.action))) (options i c)

section

variable {m : Type → Type} [Monad m]

def readConfig (files : Files m) : Option String → m (Except String Config)
  | none => return .ok .empty
  | some path => do
    match ← files.read path with
    | .error e => return .error ("failed to read config: " ++ path ++ ": " ++ e)
    | .ok text =>
      match Config.read text with
      | some c => return .ok c
      | none => return .error ("invalid config: " ++ path ++ ": malformed settings")

def deliver (files : Files m) (a : Action) (e : Ending) : m Ending :=
  match a, e.fatal with
  | .dump _ (some path), none => do
    match ← files.write path e.output with
    | .ok _ => return { e with output := "" }
    | .error reason => return .failed e.problems ("failed to write " ++ path ++ ": " ++ reason)
  | _, _ => return e

def unread (path reason : String) : Ending :=
  .failed [] ("failed to read " ++ path ++ ": io error: " ++ reason ++ ": " ++ reason)

def run (files : Files m) (i : Invocation) : m Ending := do
  match ← readConfig files i.config with
  | .error message => return .failed [] message
  | .ok c =>
    match ← files.read i.path with
    | .error reason => return unread i.path reason
    | .ok text => deliver files i.action (ofCompilation i.action (compile i c text))

def version : String := "zpl 0.1.0"

def usage : String := "Usage: zpl [OPTIONS] <lint|dump|relationships|yuml> <PATH>"

def ofArguments (files : Files m) (args : List String) : m Ending :=
  match Request.ofArguments args with
  | none => return ⟨2, "", [usage], none⟩
  | some .help => return .done [] (unlines [usage])
  | some .version => return .done [] (unlines [version])
  | some (.run i) => run files i

end

end Command

end PackSpec
