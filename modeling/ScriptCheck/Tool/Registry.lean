import ScriptCheck.Settings.Basic
import ScriptCheck.Tool.Formatter
import ScriptCheck.Tool.Linter

/-! The tools there are, in the order in which they were registered, and their results file
by file. -/

namespace ScriptCheck

structure Registry where
  tools : List Tool

namespace Registry

def empty : Registry := ⟨[]⟩

def register (r : Registry) (tool : Tool) : Registry := ⟨r.tools ++ [tool]⟩

def ofToolchain (t : Toolchain) : Registry :=
  ⟨[Linter.tool t.fish t.timeoutMs, Formatter.tool t.fishIndent t.timeoutMs]⟩

def byName? (r : Registry) (name : String) : Option Tool := r.tools.find? (·.name = name)

def byCategory? (r : Registry) (category : ToolCategory) : Option Tool :=
  r.tools.find? (·.category = category)

def linter? (r : Registry) : Option Tool := r.byCategory? .linter

def formatter? (r : Registry) : Option Tool := r.byCategory? .formatter

inductive Operation where
  | run
  | fix
deriving DecidableEq, Repr

def treat (operation : Operation) (root : Path) (tool : Tool) (file : Path) : Attempt ToolResult :=
  match operation with
  | .run => tool.run [file] root
  | .fix => if tool.canFix then tool.fix [file] root else throw (.unsupported tool.name)

def treatOne (operation : Operation) (root : Path) (tool : Tool) (file : Path) :
    Action ToolResult := do
  match ← (treat operation root tool file).run with
  | .ok result => pure result
  | .error e =>
    note .warn "gill_tools::registry"
    pure (.failure tool.name (file.text ++ ": " ++ e.message))

/-- One result for every tool of a category and every file, so that a file that fails hides
no other. -/
def perFile (r : Registry) (operation : Operation) (category : ToolCategory) (root : Path)
    (files : List Path) : Action (List ToolResult) := do
  let results ← (r.tools.filter (·.category = category)).mapM fun tool =>
    files.mapM (treatOne operation root tool)
  pure results.flatten

end Registry

def collectDiagnostics (results : List ToolResult) : List Diagnostic :=
  results.flatMap ToolResult.diagnostics

def collectFailures (results : List ToolResult) : List String := results.filterMap ToolResult.error

end ScriptCheck
