import ScriptCheck.Diagnostic.Basic
import ScriptCheck.Host.Process
import ScriptCheck.Text.Lines

/-! Tools that check or format scripts, by what can be asked of them. -/

namespace ScriptCheck

inductive ToolCategory where
  | linter
  | formatter
deriving DecidableEq, Repr

def ToolCategory.name : ToolCategory → String
  | linter => "linter"
  | formatter => "formatter"

structure ToolResult where
  tool : String
  diagnostics : List Diagnostic
  error : Option String
deriving DecidableEq, Repr

namespace ToolResult

def success (tool : String) (diagnostics : List Diagnostic) : ToolResult :=
  ⟨tool, diagnostics, none⟩

def failure (tool : String) (error : String) : ToolResult := ⟨tool, [], some error⟩

def succeeded (r : ToolResult) : Bool := r.error.isNone

def count (r : ToolResult) (severity : Severity) : Nat :=
  r.diagnostics.countP (·.severity = severity)

end ToolResult

/-- A tool works on files, which it may change only when it fixes them, or on a text that
has not been saved. A tool that cannot fix runs instead. -/
structure Tool where
  name : String
  category : ToolCategory
  extensions : List String := ["fish"]
  website : String := ""
  executable : Path
  run : List Path → Path → Attempt ToolResult
  canFix : Bool := false
  fix : List Path → Path → Attempt ToolResult := run
  checkSource : String → Path → Attempt ToolResult := fun _ _ => throw (.unsupported name)
  formatSource : String → Attempt String := fun _ => throw (.unsupported name)

namespace Tool

def isAvailable (tool : Tool) (h : Host) : Bool := (h.resolve? tool.executable).isSome

def absence (tool : Tool) : String :=
  tool.name ++ " not found (looked for " ++ tool.executable.text ++ ")"

def versionLimitMs : Nat := 5000

def version? (tool : Tool) : Action (Option String) := do
  let inv : Invocation := {
    program := tool.executable, arguments := ["--version"], timeoutMs := some versionLimitMs }
  match ← (exec inv).run with
  | .error _ => pure none
  | .ok output =>
    if output.success then
      pure (output.stdoutText.toOption.map fun text => Text.trimmed ((Text.lines text).headD ""))
    else pure none

end Tool
end ScriptCheck
