import ScriptCheck.Command.Arguments
import ScriptCheck.Command.Format
import ScriptCheck.Command.Init
import ScriptCheck.Command.Lint
import ScriptCheck.Command.Tools
import ScriptCheck.Server.Wire

/-! A whole run, from the words on the command line to the exit code. -/

namespace ScriptCheck.Command

def serveEditor (root : Option Path) : Action Nat := do
  let h ← get
  let bytes := h.console.input.toList
  let (session, sent) := Server.Wire.serve (bytes.length + 1) (.start h root) bytes
  set session.host
  if h.console.sink = .opened then emit (Server.Wire.frames sent)
  pure 0

def execute (command : Command) (root : Option Path) (format : OutputFormat) : Action Nat :=
  match command with
  | .lint paths sarif => checkScripts paths sarif root format
  | .fmt paths check => formatScripts paths check root format
  | .tools => listTools root format
  | .init => setUpProject root
  | .serve => serveEditor root

def logFilter (h : Host) (verbose : Bool) : LogFilter :=
  let byDefault := if verbose then "debug" else "warn"
  .ofText (((h.envVar? "GILL_LOG").or (h.envVar? "RUST_LOG")).getD byDefault)

def screenOf (h : Host) : Screen where
  isTerminal := h.console.isTerminal
  noColor := (h.envVar? "NO_COLOR").isSome

def runLine (line : CommandLine) : Action Nat := do
  let settings ← Settings.load (rootOf line.root)
  let format := OutputFormat.ofFlags line.json line.pretty line.compact settings.pretty
    (screenOf (← get))
  execute line.command line.root format

def tellVersion : Action Unit := do
  if (← get).console.sink = .opened then emit ("gill " ++ Server.Wire.versionText ++ "\n")

def wantsInput (words : List String) : Bool :=
  match Arguments.parse words with
  | .ok { command := .serve, .. } => true
  | .ok { command := .fmt paths _, .. } => isInput paths
  | _ => false

def settingsFiles (h : Host) (words : List String) : List Path :=
  match Arguments.parse words with
  | .ok line => Settings.files h (rootOf line.root)
  | .error _ => []

/-- Runs the command that the words make. What the log does not show is forgotten. -/
def run (words : List String) : Action Nat := do
  match Arguments.parse words with
  | .error .help => pure 0
  | .error .version =>
    tellVersion
    pure 0
  | .error .misuse => pure 2
  | .ok line =>
    let filter := logFilter (← get) line.verbose
    let code ← runLine line
    modify fun h => { h with journal := h.journal.filter filter.admits }
    pure code

end ScriptCheck.Command
