import ScriptCheck.Json.Writer
import ScriptCheck.Settings.Basic

/-! The forms in which a report is written. -/

namespace ScriptCheck

inductive OutputFormat where
  | compact
  | pretty (colors : Bool)
  | json
deriving DecidableEq, Repr

namespace OutputFormat

/-- What the flags of a command line and the settings come to. JSON goes before all, and
compact before pretty. -/
def ofFlags (json pretty compact : Bool) (settings : PrettySection) (screen : Screen) :
    OutputFormat :=
  if json then .json
  else if !compact && (pretty || settings.isEnabled screen) then
    .pretty (settings.usesColors screen)
  else .compact

def isJson : OutputFormat → Bool
  | .json => true
  | _ => false

def usesColors : OutputFormat → Bool
  | .pretty true => true
  | _ => false

end OutputFormat

class Printable (α : Type) where
  plain : α → String
  pretty : α → Bool → String
  json : α → Json

def rendered [Printable α] (report : α) : OutputFormat → String
  | .compact => Printable.plain report
  | .pretty colors => Printable.pretty report colors
  | .json => (Printable.json report).compress

def printed [Printable α] (report : α) (format : OutputFormat) : String :=
  let text := rendered report format
  if text = "" then "" else text ++ "\n"

end ScriptCheck
