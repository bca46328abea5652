import ScriptCheck.Host.Console
import ScriptCheck.Host.Tree
import ScriptCheck.Log
import ScriptCheck.Text.Utf8

/-! The machine that the commands work on: its files, the working directory, the environment,
the console, how much time has passed, and what has been logged. -/

namespace ScriptCheck

structure Host where
  tree : Node
  workDir : Place
  environment : List (String × String)
  accountHome : Option Path
  console : Console
  clockMs : Nat
  journal : List LogEvent

abbrev Action := StateM Host

def note (level : LogLevel) (target : String) : Action Unit :=
  modify fun h => { h with journal := h.journal ++ [⟨level, target⟩] }

def pass (ms : Nat) : Action Unit :=
  modify fun h => { h with clockMs := h.clockMs + ms }

def complain (line : String) : Action Unit :=
  modify fun h => { h with console := { h.console with errors := h.console.errors ++ line ++ "\n" } }

def emit (text : String) : Action Unit :=
  modify fun h => { h with console := { h.console with output := h.console.output ++ text } }

def printLine (text : String) : Action Unit := do
  match (← get).console.sink with
  | .opened => emit (text ++ "\n")
  | .closed => pure ()
  | .full => note .warn "gill::output"

/-- Writes a text to standard output as it is. Only what leaves the line buffer can fail. -/
def printRaw (text : String) : Action (Except IoError Unit) := do
  match (← get).console.sink with
  | .opened => emit text; pure (.ok ())
  | .closed => pure (.ok ())
  | .full =>
    if text.toList.contains '\n' ∨ Console.lineBuffer ≤ text.utf8ByteSize then pure (.error .noSpace)
    else pure (.ok ())

namespace Host

def envVar? (h : Host) (name : String) : Option String := h.environment.lookup name

def locate (h : Host) (path : Path) : Except IoError Place :=
  h.tree.locate h.workDir path true

def node? (h : Host) (path : Path) : Except IoError Node := do
  match h.tree.at? (← h.locate path) with
  | some node => pure node
  | none => throw .notFound

def isDir (h : Host) (path : Path) : Bool :=
  match h.node? path with
  | .ok node => node.isDir
  | .error _ => false

def isFile (h : Host) (path : Path) : Bool :=
  match h.node? path with
  | .ok node => node.isFile
  | .error _ => false

def hasPath (h : Host) (path : Path) : Bool := (h.node? path).toOption.isSome

def readBytes (h : Host) (path : Path) : Except IoError ByteArray := do
  match ← h.node? path with
  | .file content _ => pure content
  | .dir _ => throw .isDirectory
  | _ => pure .empty

def readText (h : Host) (path : Path) : Except IoError String := do
  match Text.decode? (← h.readBytes path) with
  | some text => pure text
  | none => throw .notText

def setTree (h : Host) (tree : Node) : Host := { h with tree }

def writeText (h : Host) (path : Path) (text : String) : Except IoError Host := do
  let location ← match h.locate path with
    | .error .notFound => throw (if (path.text.toList.getLast? = some '/') && h.isDir ((path.parent?).getD ⟨"."⟩)
        then .isDirectory else .notFound)
    | r => r
  match h.tree.at? location with
  | some (.dir _) => throw .isDirectory
  | some (.file _ mode) => pure (h.setTree (h.tree.put location (.file text.toUTF8 mode)))
  | _ => pure (h.setTree (h.tree.put location (.file text.toUTF8 0o644)))

def makeDir (h : Host) (path : Path) : Except IoError Host := do
  let names := path.names
  let plain : Path := if names.getLast? = some "." then
      Path.ofComponents path.components else path
  let location ← h.tree.locate h.workDir plain false
  match h.tree.at? location with
  | some _ => throw .alreadyExists
  | none => pure (h.setTree (h.tree.put location (.dir [])))

/-- Makes a directory and those on the way to it; one that is there will do. What was made before
something went wrong stays. -/
def makeDirs (h : Host) : Nat → Path → Except IoError Unit × Host
  | 0, _ => (.error .notFound, h)
  | fuel + 1, path =>
    if path.text = "" then (.ok (), h)
    else match h.makeDir path with
      | .ok h => (.ok (), h)
      | .error .notFound =>
        match path.parent? with
        | none => (.error .notFound, h)
        | some parent =>
          match h.makeDirs fuel parent with
          | (.error e, h) => (.error e, h)
          | (.ok (), h) =>
            match h.makeDir path with
            | .ok h => (.ok (), h)
            | .error e => if h.isDir path then (.ok (), h) else (.error e, h)
      | .error e => if h.isDir path then (.ok (), h) else (.error e, h)

def makeDirAll (h : Host) (path : Path) : Except IoError Unit × Host :=
  h.makeDirs (path.components.length + 1) path

def home? (h : Host) : Option Path :=
  match h.envVar? "HOME" with
  | some text => if text = "" then h.accountHome else some ⟨text⟩
  | none => h.accountHome

end Host
end ScriptCheck
