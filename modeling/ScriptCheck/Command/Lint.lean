import ScriptCheck.Command.Basic
import ScriptCheck.Diagnostic.Sarif
import ScriptCheck.Report.Basic

/-! Checking scripts. -/

namespace ScriptCheck.Command

def lintReport (files : List Path) (results : List ToolResult) : LintReport where
  filesChecked := files.length
  diagnostics := collectDiagnostics results
  failures := collectFailures results

def summarize (files : List Path) (results : List ToolResult) : Action Unit := do
  let errors := (collectDiagnostics results).countP (·.severity = .error)
  if errors > 0 then
    complain ""
    complain ("Found " ++ toString errors ++ " error(s) in " ++ toString files.length
      ++ " file(s) checked")

def checkScripts (paths : List Path) (sarif : Bool) (root : Option Path) (format : OutputFormat) :
    Action Nat := do
  let root := rootOf root
  let registry ← toolsOf root
  withTool registry.linter? "linter" fun _ => do
    let files ← scripts paths root (format.isJson || sarif)
    let results ← registry.perFile .run .linter ⟨"."⟩ files
    let made := lintReport files results
    if sarif then printLine (Sarif.Report.of made.diagnostics).text
    else
      report made format
      if !format.isJson then summarize files results
    pure (exitCode made.hasErrors)

end ScriptCheck.Command
