import ScriptCheck.Command.Basic

/-! Preparing a project. -/

namespace ScriptCheck.Command

def settingsTemplate : String := "# gill configuration

[tools]
# fish = \"fish\"
# fish_indent = \"fish_indent\"
# timeout_ms = 10000

[lint]
# on_open = true
# on_save = true
# on_change = false
# debounce_ms = 300

[format]
# enabled = true
"

def makeSettingsFile (root : Path) : Action (Except IoError Bool) := do
  let dir := Settings.projectDir root
  let file := dir.join Settings.fileName
  let h ← get
  if h.hasPath file then return .ok false
  match h.makeDirAll dir with
  | (.error e, h) =>
    set h
    pure (.error e)
  | (.ok (), h) =>
    match h.writeText file settingsTemplate with
    | .error e =>
      set h
      pure (.error e)
    | .ok h =>
      set h
      pure (.ok true)

/-- What is left of a command that could not tell what it did. It also says where it was then, which
is left out. -/
def lostOutput (e : IoError) : Action Nat := do
  complain ("failed printing to stdout: " ++ e.message)
  pure 101

def announce (text : String) : Action Nat := do
  match (← get).console.sink with
  | .opened =>
    emit (text ++ "\n")
    pure 0
  | .closed => lostOutput .brokenPipe
  | .full => lostOutput .noSpace

def setUpProject (root : Option Path) : Action Nat := do
  match ← makeSettingsFile (rootOf root) with
  | .ok true => announce "Created .gill/config.toml"
  | .ok false => announce "Already initialized."
  | .error e =>
    complain ("Failed to initialize: " ++ e.message)
    pure 1

end ScriptCheck.Command
