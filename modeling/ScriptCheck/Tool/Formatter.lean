import ScriptCheck.Text.Difference
import ScriptCheck.Tool.Basic

/-! The formatter `fish_indent`, which turns a script on standard input into its formatted
form on standard output. -/

namespace ScriptCheck.Formatter

def toolName : String := "fish_indent"

def ruleName : String := "formatting"

def resultOf (output : ProcessOutput) : Except ToolError String :=
  if output.success then output.stdoutText
  else throw (.executionFailed toolName output.code output.stderrSummary)

def formatText (executable : Path) (timeoutMs : Option Nat) (source : String) : Attempt String := do
  let output ← exec { program := executable, input := some source, timeoutMs }
  liftExcept (resultOf output)

def readFile (root file : Path) : Attempt String := do
  match (← getThe Host).readText (root.join file) with
  | .ok text => pure text
  | .error e => throw (.io e)

def writeFile (root file : Path) (text : String) : Attempt Unit := do
  match (← getThe Host).writeText (root.join file) text with
  | .ok h => set h
  | .error e => throw (.io e)

def finding (severity : Severity) (message : String) (file : Path) (before after : String) :
    Diagnostic where
  tool := toolName
  rule := ruleName
  message
  severity
  location := { file, line := Text.firstDifferingLine before after }

def checkFile (executable : Path) (timeoutMs : Option Nat) (root file : Path) :
    Attempt (List Diagnostic) := do
  let before ← readFile root file
  let after ← formatText executable timeoutMs before
  if after = before then pure []
  else pure [finding .warning "File is not formatted" file before after]

def fixFile (executable : Path) (timeoutMs : Option Nat) (root file : Path) :
    Attempt (List Diagnostic) := do
  let before ← readFile root file
  let after ← formatText executable timeoutMs before
  if after = before then pure []
  else
    note .info "gill_tools::adapters::fish_indent"
    writeFile root file after
    pure [finding .info "Reformatted file" file before after]

def inTurn (treat : Path → Attempt (List Diagnostic)) (files : List Path) : Attempt ToolResult := do
  let found ← files.mapM treat
  pure (.success toolName found.flatten)

def tool (executable : Path) (timeoutMs : Option Nat) : Tool where
  name := toolName
  category := .formatter
  website := "https://fishshell.com/docs/current/cmds/fish_indent.html"
  executable
  run files root := inTurn (checkFile executable timeoutMs root) files
  canFix := true
  fix files root := inTurn (fixFile executable timeoutMs root) files
  formatSource := formatText executable timeoutMs

end ScriptCheck.Formatter
