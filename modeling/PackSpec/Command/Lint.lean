import PackSpec.Specification

set_option autoImplicit false

namespace PackSpec

abbrev Compilation : Type := Except Diagnostic Specification × Diagnostics

structure Lint where
  lines : List String
  errors : Nat
  warnings : Nat
  isAborted : Bool
deriving DecidableEq, Repr

namespace Lint

def ofCompilation : Compilation → Lint
  | (.ok _, s) => ⟨s.items.map Diagnostic.text, s.errors.length, s.warnings.length, false⟩
  | (.error d, s) =>
    ⟨s.items.map Diagnostic.text ++ [d.text], s.errors.length + 1, s.warnings.length, true⟩

def counted (n : Nat) (noun : String) : String :=
  toString n ++ " " ++ noun ++ (if n = 1 then "" else "s")

def summary (l : Lint) : String :=
  counted l.errors "error" ++ ", " ++ counted l.warnings "warning" ++
    (if l.isAborted then " (aborted)" else "")

def fails (l : Lint) (denyWarnings : Bool) : Bool :=
  l.isAborted || l.errors != 0 || (denyWarnings && l.warnings != 0)

def exitCode (l : Lint) (denyWarnings : Bool) : Nat :=
  if l.fails denyWarnings then 1 else 0

end Lint

end PackSpec
