import ScriptCheck.Command.Basic
import ScriptCheck.Report.Basic

/-! Listing the tools. -/

namespace ScriptCheck.Command

def toolEntry (tool : Tool) : Action ToolEntry := do
  let resolved := (← get).resolve? tool.executable
  let version ← if resolved.isSome then tool.version? else pure none
  pure {
    name := tool.name
    category := tool.category.name
    available := resolved.isSome
    version
    executable := tool.executable.text
    resolved := resolved.map Path.text
    website := tool.website }

def listTools (root : Option Path) (format : OutputFormat) : Action Nat := do
  let registry ← toolsOf (rootOf root)
  let entries ← registry.tools.mapM toolEntry
  report (ToolList.mk entries) format
  pure (exitCode (entries.any fun entry => !entry.available))

end ScriptCheck.Command
