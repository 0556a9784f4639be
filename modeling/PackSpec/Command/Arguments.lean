import PackSpec.Command.Config

set_option autoImplicit false

namespace PackSpec

inductive Format where
  | text
  | json
deriving DecidableEq, Repr

inductive Action where
  | lint (denyWarnings : Bool)
  | dump (keepsDefaults : Bool) (out : Option String)
  | relationships (className : Option String) (inherited : Bool) (format : Format)
  | diagram (compact : Bool)
deriving DecidableEq, Repr

structure Invocation where
  config : Option String
  path : String
  flags : Flags
  action : Action
deriving DecidableEq, Repr

inductive Request where
  | help
  | version
  | run (invocation : Invocation)
deriving DecidableEq, Repr

namespace Arguments

inductive Verb where
  | lint
  | dump
  | relationships
  | diagram
deriving DecidableEq, Repr

namespace Verb

def ofName? : String → Option Verb
  | "lint" => some .lint
  | "dump" => some .dump
  | "relationships" => some .relationships
  | "yuml" => some .diagram
  | _ => none

end Verb

inductive Taken where
  | unknown
  | help
  | version
  | counted
  | flag (name : String)
  | option (name : String)
deriving DecidableEq, Repr

def sharedLong : String → Option Taken
  | "help" => some .help
  | "verbose" => some .counted
  | "config" => some (.option "config")
  | _ => none

def sharedShort : Char → Option Taken
  | 'h' => some .help
  | 'v' => some .counted
  | _ => none

def verbLong : Verb → String → Taken
  | _, "strict" => .flag "strict"
  | _, "lenient" => .flag "lenient"
  | _, "namespace" => .option "namespace"
  | .lint, "deny-warnings" => .flag "deny-warnings"
  | .dump, "params" => .flag "params"
  | .dump, "out" => .option "out"
  | .relationships, "class" => .option "class"
  | .relationships, "inherited" => .flag "inherited"
  | .relationships, "format" => .option "format"
  | .diagram, "compact" => .flag "compact"
  | _, _ => .unknown

def verbShort : Verb → Char → Taken
  | .dump, 'o' => .option "out"
  | _, _ => .unknown

def long (verb : Option Verb) (name : String) : Taken :=
  (sharedLong name).getD
    (match verb with
      | some v => verbLong v name
      | none => if name == "version" then .version else .unknown)

def short (verb : Option Verb) (c : Char) : Taken :=
  (sharedShort c).getD
    (match verb with
      | some v => verbShort v c
      | none => if c == 'V' then .version else .unknown)

structure Given where
  flags : List String
  options : Entries String
  paths : List String
deriving DecidableEq, Repr

def Given.empty : Given := ⟨[], [], []⟩

inductive Stop where
  | wrong
  | help
  | version
deriving DecidableEq, Repr

abbrev Outcome (α : Type) : Type := Except Stop α

def accepts (option value : String) : Bool :=
  match option with
  | "namespace" | "class" => true
  | "format" => value == "text" || value == "json"
  | _ => !value.isEmpty

def Given.option (g : Given) (name value : String) : Outcome Given :=
  if Entries.has g.options name || !accepts name value then .error .wrong
  else .ok { g with options := g.options ++ [(name, value)] }

def Given.flag (g : Given) (name : String) : Outcome Given :=
  if g.flags.contains name then .error .wrong else .ok { g with flags := name :: g.flags }

def Given.path (g : Given) (path : String) : Outcome Given :=
  if path.isEmpty || !g.paths.isEmpty then .error .wrong else .ok { g with paths := [path] }

def startsWithDash (arg : String) : Bool :=
  match arg.toList with
  | '-' :: _ :: _ => true
  | _ => false

def taken (g : Given) (t : Taken) (attached : Option String) : Outcome Given :=
  match t, attached with
  | .option name, some value => g.option name value
  | .flag name, none => g.flag name
  | .counted, none => .ok g
  | .help, none => .error .help
  | .version, none => .error .version
  | _, _ => .error .wrong

def splitLong (cs : List Char) : String × Option String :=
  match cs.dropWhile (· != '=') with
  | [] => (String.ofList cs, none)
  | _ :: value => (String.ofList (cs.takeWhile (· != '=')), some (String.ofList value))

def attachedShort : List Char → Option String
  | [] => none
  | '=' :: value => some (String.ofList value)
  | value => some (String.ofList value)

/-- The letters behind one dash; the result names the option whose value is still to come. -/
def letters (verb : Option Verb) (g : Given) : List Char → Outcome (Given × Option String)
  | [] => .ok (g, none)
  | c :: rest =>
    match short verb c with
    | .option name =>
      match attachedShort rest with
      | some value => (g.option name value).map fun g => (g, none)
      | none => .ok (g, some name)
    | t => do
      let g ← taken g t none
      letters verb g rest

def dashed (verb : Option Verb) (g : Given) (arg : String) : Outcome (Given × Option String) :=
  match arg.toList with
  | '-' :: '-' :: cs =>
    let (name, attached) := splitLong cs
    match long verb name, attached with
    | .option name, none => .ok (g, some name)
    | t, attached => (taken g t attached).map fun g => (g, none)
  | cs => letters verb g cs.tail

def plain (g : Given) (args : List String) : Outcome Given :=
  args.foldlM (fun g a => g.path a) g

def valueOf (g : Given) (option : String) : List String → Outcome (Given × List String)
  | [] => .error .wrong
  | value :: rest =>
    if startsWithDash value then .error .wrong
    else (g.option option value).map fun g => (g, rest)

theorem length_valueOf {g : Given} {option : String} {args : List String} {r : Given × List String}
    (h : valueOf g option args = .ok r) : r.2.length < args.length := by
  cases args with
  | nil => simp [valueOf] at h
  | cons value rest =>
    simp only [valueOf] at h
    split at h
    · simp at h
    · cases ho : g.option option value with
      | error e => simp [ho, Except.map] at h
      | ok g' =>
        simp only [ho, Except.map, Except.ok.injEq] at h
        simp [← h]

def option (verb : Option Verb) (g : Given) (arg : String) (rest : List String) :
    Outcome (Given × List String) :=
  match dashed verb g arg with
  | .error stop => .error stop
  | .ok (g, none) => .ok (g, rest)
  | .ok (g, some name) => valueOf g name rest

theorem length_option {verb : Option Verb} {g : Given} {arg : String} {rest : List String}
    {r : Given × List String} (h : option verb g arg rest = .ok r) :
    r.2.length ≤ rest.length := by
  unfold option at h
  split at h
  · simp at h
  · simp only [Except.ok.injEq] at h
    simp [← h]
  · exact Nat.le_of_lt (length_valueOf h)

def behind (verb : Verb) (g : Given) (args : List String) : Outcome Given :=
  match args with
  | [] => .ok g
  | arg :: rest =>
    if arg == "--" then plain g rest
    else if startsWithDash arg then
      match h : option (some verb) g arg rest with
      | .error stop => .error stop
      | .ok (g, rest') =>
        have := length_option h
        behind verb g rest'
    else
      match g.path arg with
      | .error stop => .error stop
      | .ok g => behind verb g rest
termination_by args.length
decreasing_by
  · exact Nat.lt_succ_of_le this
  · exact Nat.lt_succ_self _

def helpAbout (names : List String) : Stop :=
  match names with
  | [] | ["help"] => .help
  | [name] => if (Verb.ofName? name).isSome then .help else .wrong
  | _ => .wrong

def before (g : Given) (args : List String) : Outcome (Given × Verb × List String) :=
  match args with
  | [] => .error .wrong
  | arg :: rest =>
    if arg == "--" then .error .wrong
    else if startsWithDash arg then
      match h : option none g arg rest with
      | .error stop => .error stop
      | .ok (g, rest') =>
        have := length_option h
        before g rest'
    else
      match Verb.ofName? arg with
      | some verb => .ok (g, verb, rest)
      | none => .error (if arg == "help" then helpAbout rest else .wrong)
termination_by args.length
decreasing_by exact Nat.lt_succ_of_le this

def Given.has (g : Given) (flag : String) : Bool := g.flags.contains flag

def Given.text? (g : Given) (option : String) : Option String := Entries.get? g.options option

def Given.format (g : Given) : Format :=
  if g.text? "format" == some "json" then .json else .text

def Given.action (g : Given) : Verb → Action
  | .lint => .lint (g.has "deny-warnings")
  | .dump => .dump (g.has "params") (g.text? "out")
  | .relationships => .relationships (g.text? "class") (g.has "inherited") g.format
  | .diagram => .diagram (g.has "compact")

def Given.isConsistent (g : Given) : Bool :=
  !(g.has "strict" && g.has "lenient") && (!g.has "inherited" || (g.text? "class").isSome)

def request (verb : Verb) (shared own : Given) : Outcome Invocation :=
  match own.paths with
  | [path] =>
    if own.isConsistent then
      .ok ⟨(own.text? "config").or (shared.text? "config"), path,
        ⟨own.has "strict", own.has "lenient", own.text? "namespace"⟩, own.action verb⟩
    else .error .wrong
  | _ => .error .wrong

def invocation (args : List String) : Outcome Invocation := do
  let (shared, verb, rest) ← before .empty args
  let own ← behind verb .empty rest
  request verb shared own

end Arguments

def Request.ofArguments (args : List String) : Option Request :=
  match Arguments.invocation args with
  | .ok i => some (.run i)
  | .error .help => some .help
  | .error .version => some .version
  | .error .wrong => none

end PackSpec
