import PackSpec.Diagnostic

set_option autoImplicit false

namespace PackSpec

structure Context where
  diagnostics : Diagnostics
  ns : String
  location : Location
  keepsDefaults : Bool
deriving DecidableEq, Repr

namespace Context

def start (diagnostics : Diagnostics) (source : String) (keepsDefaults : Bool) : Context :=
  ⟨diagnostics, "", .root source, keepsDefaults⟩

def enter (c : Context) (segment : String) : Context :=
  { c with location := { c.location with path := c.location.path ++ [segment] } }

def leave (c : Context) : Context :=
  { c with location := { c.location with path := c.location.path.dropLast } }

theorem leave_enter (c : Context) (segment : String) : (c.enter segment).leave = c := by
  simp [enter, leave]

end Context

abbrev Build (α : Type) : Type := ExceptT Diagnostic (StateM Context) α

namespace Build

def run {α : Type} (b : Build α) (c : Context) : Except Diagnostic α × Context :=
  StateT.run (ExceptT.run b) c

theorem run_pure {α : Type} (a : α) (c : Context) : (pure a : Build α).run c = (.ok a, c) := rfl

theorem run_bind {α β : Type} (b : Build α) (f : α → Build β) (c : Context) :
    (b >>= f).run c =
      match b.run c with
      | (.ok a, c) => (f a).run c
      | (.error d, c) => (.error d, c) := by
  change (b.run c |> fun r => (ExceptT.bindCont f r.1).run r.2) = _
  rcases b.run c with ⟨_ | _, _⟩ <;> rfl

def located (e : Problem) : Build Diagnostic := do
  let c ← get
  return ⟨.error, c.diagnostics.locate c.location, e⟩

def abort {α : Type} (e : Problem) : Build α := do
  throw (← located e)

def ofExcept {α : Type} : Except Problem α → Build α
  | .ok a => return a
  | .error e => abort e

/-- Gives a problem to the sink, and aborts if the sink returns it. -/
def sink (f : Diagnostics → Location → Diagnostics × Option Diagnostic) : Build Unit := do
  let c ← get
  match f c.diagnostics c.location with
  | (s, none) => set { c with diagnostics := s }
  | (s, some d) =>
    set { c with diagnostics := s }
    throw d

def report (e : Problem) : Build Unit :=
  sink fun s l => s.report l e

def reportRelationship (e : Problem) : Build Unit :=
  sink fun s l => s.reportRelationship l e

def handle (d : Diagnostic) : Build Unit :=
  sink fun s _ => s.handle d

def warn (e : Problem) : Build Unit :=
  modify fun c => { c with diagnostics := c.diagnostics.warn c.location e }

def within {α : Type} (segment : String) (b : Build α) : Build α :=
  fun c =>
    let (result, after) := b.run (c.enter segment)
    (result, after.leave)

/-- The value, or the diagnostic that would have aborted the build. -/
def attempt {α : Type} (b : Build α) : Build (Except Diagnostic α) :=
  fun c =>
    let (result, after) := b.run c
    (.ok result, after)

theorem run_abort {α : Type} (e : Problem) (c : Context) :
    (abort e : Build α).run c = (.error ⟨.error, c.diagnostics.locate c.location, e⟩, c) := rfl

theorem run_within {α : Type} (segment : String) (b : Build α) (c : Context) :
    (within segment b).run c =
      ((b.run (c.enter segment)).1, (b.run (c.enter segment)).2.leave) := rfl

theorem run_attempt {α : Type} (b : Build α) (c : Context) :
    (attempt b).run c = (.ok (b.run c).1, (b.run c).2) := rfl

theorem run_report (e : Problem) (c : Context) :
    (report e).run c =
      match c.diagnostics.report c.location e with
      | (s, none) => (.ok (), { c with diagnostics := s })
      | (s, some d) => (.error d, { c with diagnostics := s }) := by
  change (match c.diagnostics.report c.location e with
    | (s, none) => (set { c with diagnostics := s } : Build Unit)
    | (s, some d) => do
      set { c with diagnostics := s }
      throw d).run c = _
  rcases c.diagnostics.report c.location e with ⟨_, _ | _⟩ <;> rfl

theorem run_warn (e : Problem) (c : Context) :
    (warn e).run c = (.ok (), { c with diagnostics := c.diagnostics.warn c.location e }) := rfl

end Build

end PackSpec
