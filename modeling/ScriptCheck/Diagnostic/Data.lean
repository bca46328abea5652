import ScriptCheck.Diagnostic.Basic
import ScriptCheck.Json.Decode
import ScriptCheck.Json.Writer

/-! Diagnostics as JSON. A column that is missing is left out when writing, and may be left
out or null when reading. -/

namespace ScriptCheck

open Json

def Severity.ofName? (name : String) : Option Severity := Severity.all.find? (·.name = name)

def Severity.toJson (severity : Severity) : Json := .str severity.name

def Severity.decode (value : Json) : Decoded Severity := do
  let name ← expectVariant strictRules (Severity.all.map Severity.name) value
  pure ((Severity.ofName? name).getD .error)

namespace Location

def toJson (location : Location) : Json :=
  let column (key : String) (value : Option Nat) : List (String × Json) :=
    (value.map fun n => (key, Json.nat n)).toList
  .obj ([("file", .str location.file.text), ("line", .nat location.line)]
    ++ column "column" location.column ++ column "end_column" location.endColumn)

def fields : List String := ["file", "line", "column", "end_column"]

structure Draft where
  file : Option Path := none
  line : Option Nat := none
  column : Option (Option Nat) := none
  endColumn : Option (Option Nat) := none

def Draft.read (draft : Draft) (key : String) (value : Json) : Decoded Draft := do
  match key with
  | "file" => pure { draft with file := some ⟨← expectString "path string" value⟩ }
  | "line" => pure { draft with line := some (← expectNat "usize" value) }
  | "column" => pure { draft with column := some (← optional (expectNat "usize") value) }
  | "end_column" => pure { draft with endColumn := some (← optional (expectNat "usize") value) }
  | _ => pure draft

/-- An object may leave the columns out, an array may not. -/
def decode (value : Json) : Decoded Location := do
  let draft ← foldRecord strictRules "Location" fields Draft.read {} value
  let need {α : Type} (field : String) (given : Option α) : Decoded α :=
    require "Location" fields value field given
  let column (field : String) (given : Option (Option Nat)) : Decoded (Option Nat) :=
    match value with
    | .arr _ => need field given
    | _ => pure (given.getD none)
  pure { file := ← need "file" draft.file, line := ← need "line" draft.line,
         column := ← column "column" draft.column,
         endColumn := ← column "end_column" draft.endColumn }

end Location

namespace Diagnostic

def toJson (d : Diagnostic) : Json :=
  .obj [("tool", .str d.tool), ("rule_id", .str d.rule), ("message", .str d.message),
    ("severity", d.severity.toJson), ("location", d.location.toJson)]

def jsonText (d : Diagnostic) : String := d.toJson.compress

def fields : List String := ["tool", "rule_id", "message", "severity", "location"]

structure Draft where
  tool : Option String := none
  rule : Option String := none
  message : Option String := none
  severity : Option Severity := none
  location : Option Location := none

def Draft.read (draft : Draft) (key : String) (value : Json) : Decoded Draft := do
  match key with
  | "tool" => pure { draft with tool := some (← expectString "a string" value) }
  | "rule_id" => pure { draft with rule := some (← expectString "a string" value) }
  | "message" => pure { draft with message := some (← expectString "a string" value) }
  | "severity" => pure { draft with severity := some (← Severity.decode value) }
  | "location" => pure { draft with location := some (← Location.decode value) }
  | _ => pure draft

def decode (value : Json) : Decoded Diagnostic := do
  let draft ← foldRecord strictRules "Diagnostic" fields Draft.read {} value
  let need {α : Type} (field : String) (given : Option α) : Decoded α :=
    require "Diagnostic" fields value field given
  pure { tool := ← need "tool" draft.tool, rule := ← need "rule_id" draft.rule,
         message := ← need "message" draft.message, severity := ← need "severity" draft.severity,
         location := ← need "location" draft.location }

end Diagnostic
end ScriptCheck
