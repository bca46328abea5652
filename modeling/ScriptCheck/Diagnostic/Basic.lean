import ScriptCheck.Path

/-! What a tool has to say about a place in a script. -/

namespace ScriptCheck

inductive Severity where
  | error
  | warning
  | info
  | hint
deriving DecidableEq, Repr, Inhabited

namespace Severity

def name : Severity → String
  | error => "error"
  | warning => "warning"
  | info => "info"
  | hint => "hint"

def all : List Severity := [error, warning, info, hint]

def rank : Severity → Nat
  | error => 0
  | warning => 1
  | info => 2
  | hint => 3

def sort (severities : List Severity) : List Severity :=
  severities.mergeSort fun a b => a.rank ≤ b.rank

end Severity

/-- Lines and columns count from one, columns in characters, and the end is exclusive. A
column is there only when the tool pointed at a span. -/
structure Location where
  file : Path
  line : Nat
  column : Option Nat := none
  endColumn : Option Nat := none
deriving DecidableEq, Repr, Inhabited

def Location.withSpan (location : Location) (column endColumn : Nat) : Location :=
  { location with column := some column, endColumn := some endColumn }

structure Diagnostic where
  tool : String
  rule : String
  message : String
  severity : Severity
  location : Location
deriving DecidableEq, Repr, Inhabited

end ScriptCheck
