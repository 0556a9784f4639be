import PackSpec.Decimal.Reading
import PackSpec.Text.Case

set_option autoImplicit false

namespace PackSpec

inductive Severity where
  | clear
  | debug
  | info
  | warning
  | error
  | critical
deriving DecidableEq, Repr

namespace Severity

def all : List Severity := [.clear, .debug, .info, .warning, .error, .critical]

def level : Severity → Int
  | .clear => 0
  | .debug => 1
  | .info => 2
  | .warning => 3
  | .error => 4
  | .critical => 5

def name : Severity → String
  | .clear => "clear"
  | .debug => "debug"
  | .info => "info"
  | .warning => "warn"
  | .error => "err"
  | .critical => "crit"

def names : Severity → List String
  | .clear => ["clear"]
  | .debug => ["debug", "debugging"]
  | .info => ["info", "information", "informational"]
  | .warning => ["warn", "warning"]
  | .error => ["err", "error"]
  | .critical => ["crit", "critical"]

def ofLevel? (n : Int) : Option Severity :=
  all.find? fun s => s.level == n

def ofName? (name : String) : Option Severity :=
  all.find? fun s => s.names.contains name

/-- Text that is an integer is a level, never a name. -/
def ofText? (text : String) : Option Severity :=
  let trimmed := Text.trimmed text
  match Decimal.int64Of trimmed with
  | some n => ofLevel? n.toInt
  | none => ofName? (Text.Case.lowered trimmed)

def rejection (text : String) : String :=
  "'" ++ text ++ "' is not a valid value for severity"

theorem ofLevel?_level (s : Severity) : ofLevel? s.level = some s := by
  cases s <;> rfl

theorem ofName?_name (s : Severity) : ofName? s.name = some s := by
  cases s <;> rfl

end Severity

end PackSpec
