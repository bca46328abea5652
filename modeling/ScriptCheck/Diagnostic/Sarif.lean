import ScriptCheck.Diagnostic.Basic
import ScriptCheck.Json.Writer

/-! Diagnostics as a SARIF 2.1.0 report: one run per tool, the runs by name, and in each
run the tool's diagnostics as they came. -/

namespace ScriptCheck

def Severity.sarifLevel : Severity → String
  | .error => "error"
  | .warning => "warning"
  | .info => "note"
  | .hint => "note"

namespace Sarif

structure Result where
  rule : String
  level : String
  message : String
  file : String
  line : Nat
  column : Option Nat
  endColumn : Option Nat
deriving DecidableEq, Repr

structure Run where
  tool : String
  results : List Result
deriving DecidableEq, Repr

structure Report where
  runs : List Run
deriving DecidableEq, Repr

def Result.of (d : Diagnostic) : Result where
  rule := d.rule
  level := d.severity.sarifLevel
  message := d.message
  file := d.location.file.text
  line := d.location.line
  column := d.location.column
  endColumn := d.location.endColumn

/-- Adds a result at the end of its tool's run, which is put in its place if it is new. -/
def addResult (tool : String) (result : Result) : List Run → List Run
  | [] => [⟨tool, [result]⟩]
  | run :: rest =>
    if tool < run.tool then ⟨tool, [result]⟩ :: run :: rest
    else if tool = run.tool then { run with results := run.results ++ [result] } :: rest
    else run :: addResult tool result rest

def Report.of (diagnostics : List Diagnostic) : Report :=
  ⟨diagnostics.foldl (fun runs d => addResult d.tool (Result.of d) runs) []⟩

def Result.toJson (r : Result) : Json :=
  let column (key : String) (value : Option Nat) : List (String × Json) :=
    (value.map fun n => (key, Json.nat n)).toList
  .obj [("ruleId", .str r.rule), ("level", .str r.level),
    ("message", .obj [("text", .str r.message)]),
    ("locations", .arr [.obj [("physicalLocation", .obj [
      ("artifactLocation", .obj [("uri", .str r.file)]),
      ("region", .obj ([("startLine", .nat r.line)] ++ column "startColumn" r.column
        ++ column "endColumn" r.endColumn))])]])]

def Run.toJson (r : Run) : Json :=
  .obj [("tool", .obj [("driver", .obj [("name", .str r.tool),
      ("informationUri", .str "https://fishshell.com/docs/current/")])]),
    ("results", .arr (r.results.map Result.toJson))]

def Report.toJson (r : Report) : Json :=
  .obj [("$schema", .str "https://json.schemastore.org/sarif-2.1.0.json"),
    ("version", .str "2.1.0"), ("runs", .arr (r.runs.map Run.toJson))]

def Report.text (r : Report) : String := r.toJson.layout

end Sarif
end ScriptCheck
