import ScriptCheck.Report.Format
import ScriptCheck.Settings.Load
import ScriptCheck.Tool.Registry
import ScriptCheck.Tool.Scripts

/-! What the commands have in common: the tools of a project, a report on standard output, and
an exit code. -/

namespace ScriptCheck.Command

def rootOf (root : Option Path) : Path := root.getD ⟨"."⟩

def toolsOf (root : Path) : Action Registry := do
  let settings ← Settings.load root
  pure (.ofToolchain settings.tools.toolchain)

def report [Printable α] (a : α) (format : OutputFormat) : Action Unit :=
  match rendered a format with
  | "" => pure ()
  | text => printLine text

def exitCode (failed : Bool) : Nat := if failed then 1 else 0

def withTool (tool? : Option Tool) (kind : String) (go : Tool → Action Nat) : Action Nat := do
  match tool? with
  | none =>
    complain ("No " ++ kind ++ " configured.")
    pure 1
  | some tool =>
    if tool.isAvailable (← get) then go tool
    else
      complain tool.absence
      pure 1

def targets (paths : List Path) (root : Path) : List Path :=
  if paths.isEmpty then [root] else paths

/-- The scripts among the targets. Finding none is worth a word unless the output is for
programs. -/
def scripts (paths : List Path) (root : Path) (quiet : Bool) : Action (List Path) := do
  let files := Scripts.find (← get) (targets paths root)
  if files.isEmpty && !quiet then complain "No fish files found."
  pure files

end ScriptCheck.Command
