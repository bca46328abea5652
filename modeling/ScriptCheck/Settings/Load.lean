import ScriptCheck.Host.Basic
import ScriptCheck.Settings.Decode

/-! The settings files: one for the account, and one for each project, which goes over it. -/

namespace ScriptCheck.Settings

def fileName : Path := ⟨"config.toml"⟩

def globalDir? (h : Host) : Option Path :=
  match (h.envVar? "XDG_CONFIG_HOME").filter (· ≠ "") with
  | some text => some (Path.join ⟨text⟩ ⟨"gill"⟩)
  | none => h.home?.map fun home => (home.join ⟨".config"⟩).join ⟨"gill"⟩

def projectDir (root : Path) : Path := root.join ⟨".gill"⟩

inductive FileError where
  | unreadable (path : Path) (error : IoError)
  | invalid (path : Path)
deriving DecidableEq, Repr

def FileError.message : FileError → String
  | unreadable path e => "failed to read " ++ path.text ++ ": " ++ e.message
  | invalid path => "invalid config in " ++ path.text ++ ": "

def ofFile? (h : Host) (path : Path) : Except FileError (Option Settings) :=
  match h.readText path with
  | .error .notFound => pure none
  | .error e => throw (.unreadable path e)
  | .ok text =>
    match ofToml? text with
    | some settings => pure (some settings)
    | none => throw (.invalid path)

def files (h : Host) (root : Path) : List Path :=
  ((globalDir? h).toList ++ [projectDir root]).map (·.join fileName)

/-- Puts the settings in a file over those there are. A file that does not count changes
nothing. -/
def addFile (settings : Settings) (path : Path) : Action Settings := do
  match ofFile? (← get) path with
  | .ok (some layer) =>
    note .debug "gill::config"
    pure (Layered.overlay settings layer)
  | .ok none => pure settings
  | .error _ =>
    note .warn "gill::config"
    pure settings

def load (root : Path) : Action Settings := do
  (files (← get) root).foldlM addFile {}

end ScriptCheck.Settings
