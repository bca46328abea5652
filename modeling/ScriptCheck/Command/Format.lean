import ScriptCheck.Command.Basic
import ScriptCheck.Report.Basic

/-! Formatting scripts, or checking that they are formatted. -/

namespace ScriptCheck.Command

def formatFiles (registry : Registry) (files : List Path) (check : Bool) : Action FormatReport := do
  let results ← registry.perFile (if check then .run else .fix) .formatter ⟨"."⟩ files
  pure {
    check
    filesChecked := files.length
    diagnostics := collectDiagnostics results
    failures := collectFailures results }

def formatInput (formatter : Tool) : Attempt Unit := do
  match Text.decode? (← getThe Host).console.input with
  | none => throw (.io .notText)
  | some source =>
    let formatted ← formatter.formatSource source
    match ← printRaw formatted with
    | .ok () => pure ()
    | .error e => throw (.io e)

def isInput (paths : List Path) : Bool :=
  match paths with
  | [path] => path.same ⟨"-"⟩
  | _ => false

def formatScripts (paths : List Path) (check : Bool) (root : Option Path) (format : OutputFormat) :
    Action Nat := do
  let root := rootOf root
  let registry ← toolsOf root
  withTool registry.formatter? "formatter" fun formatter => do
    if isInput paths then
      match ← (formatInput formatter).run with
      | .ok () => pure 0
      | .error e =>
        complain e.message
        pure 1
    else
      let files ← scripts paths root format.isJson
      let made ← formatFiles registry files check
      report made format
      pure (exitCode made.hasErrors)

end ScriptCheck.Command
