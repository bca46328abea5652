import ScriptCheck.Listing
import ScriptCheck.Tool.Basic

/-! The syntax check `fish -n`. It exits with zero for a sound script and lists the errors of
any other one on standard error. -/

namespace ScriptCheck.Linter

/-- What a finished check says. The listing of a failed one has to hold an error. -/
def resultOf (output : ProcessOutput) (relabel : Option Path) : Except ToolError ToolResult := do
  if output.success then return .success Listing.toolName []
  let text ← output.stderrText
  match Listing.diagnostics text relabel with
  | [] => throw (.unexpectedOutput Listing.toolName output.code (Text.trimmed text))
  | found => pure (.success Listing.toolName found)

def checkFile (executable : Path) (timeoutMs : Option Nat) (root file : Path) :
    Attempt ToolResult := do
  let output ← exec {
    program := executable, arguments := ["-n", file.text], workDir := some root, timeoutMs }
  liftExcept (resultOf output none)

def checkFiles (executable : Path) (timeoutMs : Option Nat) (files : List Path) (root : Path) :
    Attempt ToolResult := do
  let results ← files.mapM (checkFile executable timeoutMs root)
  pure (.success Listing.toolName (results.flatMap ToolResult.diagnostics))

def textDir (h : Host) (file : Path) : Option Path := file.parent?.filter h.isDir

def checkText (executable : Path) (timeoutMs : Option Nat) (source : String) (file : Path) :
    Attempt ToolResult := do
  let output ← exec {
    program := executable, arguments := ["-n"], input := some source,
    workDir := textDir (← getThe Host) file, timeoutMs }
  liftExcept (resultOf output (some file))

def tool (executable : Path) (timeoutMs : Option Nat) : Tool where
  name := Listing.toolName
  category := .linter
  website := "https://fishshell.com/docs/current/cmds/fish.html"
  executable
  run := checkFiles executable timeoutMs
  checkSource := checkText executable timeoutMs

end ScriptCheck.Linter
