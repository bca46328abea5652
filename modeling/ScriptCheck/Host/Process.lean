import ScriptCheck.Host.Basic
import ScriptCheck.Text.Blank
import ScriptCheck.Tool.Error

/-! Running programs: finding the file a name stands for, starting it, and waiting for it no
longer than allowed. -/

namespace ScriptCheck

/-- A program to run. Without an input its standard input is empty, and without a working
directory it runs where we are. -/
structure Invocation where
  program : Path
  arguments : List String := []
  input : Option String := none
  workDir : Option Path := none
  timeoutMs : Option Nat := none

structure ProcessOutput where
  code : Option Int
  stdout : ByteArray
  stderr : ByteArray

namespace ProcessOutput

def success (o : ProcessOutput) : Bool := o.code = some 0

def decoded (stream : Stream) (bytes : ByteArray) : Except ToolError String :=
  match Text.decode? bytes with
  | some text => .ok text
  | none => .error (.nonUtf8 stream)

def stdoutText (o : ProcessOutput) : Except ToolError String := decoded .stdout o.stdout

def stderrText (o : ProcessOutput) : Except ToolError String := decoded .stderr o.stderr

def stderrSummary (o : ProcessOutput) : String := Text.trimmed (Text.decodeLossy o.stderr)

end ProcessOutput

namespace Host

def searchPath (h : Host) : List Path :=
  (Text.split ':' ((h.envVar? "PATH").getD "/bin:/usr/bin")).map Path.mk

def programAt (h : Host) (from_ : Place) (path : Path) : Except IoError (Place × Program) := do
  let place ← h.tree.locate from_ path true
  match h.tree.at? place with
  | some (.program run mode) =>
    if mode &&& 0o111 = 0 then throw .permissionDenied else pure (place, run)
  | some (.file _ mode) =>
    throw (if mode &&& 0o111 = 0 then .permissionDenied else .badFormat)
  | some _ => throw .permissionDenied
  | none => throw .notFound

/-- Tries directories in order. A file that may not be run is remembered while the search
goes on. -/
def search (h : Host) (from_ : Place) (name : String) (denied : Bool) :
    List Path → Except IoError (Place × Program)
  | [] => .error (if denied then .permissionDenied else .notFound)
  | dir :: rest =>
    match h.programAt from_ (Path.join (if dir.text = "" then ⟨"."⟩ else dir) ⟨name⟩) with
    | .ok found => .ok found
    | .error .permissionDenied => h.search from_ name true rest
    | .error .notFound => h.search from_ name denied rest
    | .error .notDirectory => h.search from_ name denied rest
    | .error e => .error e

def findProgram (h : Host) (from_ : Place) (program : Path) : Except IoError (Place × Program) :=
  if program.text.toList.contains '\x00' then .error .nulInCommand
  else if program.text = "" then .error .notFound
  else if program.text.toList.contains '/' then h.programAt from_ program
  else h.search from_ program.text false h.searchPath

def startDir (h : Host) (workDir : Option Path) : Except IoError Place := do
  match workDir with
  | none => pure h.workDir
  | some path =>
    if path.text.toList.contains '\x00' then throw .nulInCommand
    let place ← h.locate path
    match h.tree.at? place with
    | some (.dir _) => pure place
    | some _ => throw .notDirectory
    | none => throw .notFound

def start (h : Host) (inv : Invocation) : Except IoError (Place × Outcome) := do
  if inv.arguments.any (·.toList.contains '\x00') then throw .nulInCommand
  let dir ← h.startDir inv.workDir
  let (place, program) ← h.findProgram dir inv.program
  let input := match inv.input with
    | some text => text.toUTF8
    | none => .empty
  pure (place, program { arguments := inv.arguments, workDir := dir, input })

end Host

def Outcome.output (o : Outcome) : ProcessOutput where
  code := match o.exit with
    | .code n => some n
    | .signal _ => none
  stdout := o.stdout
  stderr := o.stderr

namespace Invocation

def expiry? (inv : Invocation) (o : Outcome) : Option Nat :=
  inv.timeoutMs.filter (· ≤ o.delayMs)

def pipeSize : Nat := 65536

def leavesInput (inv : Invocation) (o : Outcome) : Bool :=
  match inv.input with
  | some text => !o.readsInput && pipeSize < text.utf8ByteSize
  | none => false

end Invocation

abbrev Attempt := ExceptT ToolError Action

def execTarget : String := "gill_tools::exec"

def exec (inv : Invocation) : Attempt ProcessOutput := do
  note .debug execTarget
  match (← getThe Host).start inv with
  | .error .notFound => throw (.notFound inv.program.text)
  | .error e => throw (.io e)
  | .ok (_, outcome) =>
    match inv.expiry? outcome with
    | some limit =>
      pass limit
      note .warn execTarget
      throw (.timeout inv.program.text (.ofMillis limit))
    | none =>
      pass outcome.delayMs
      if inv.leavesInput outcome then note .debug execTarget
      note .debug execTarget
      pure outcome.output

namespace Host

def isRunnable (h : Host) (path : Path) : Bool :=
  match h.node? path with
  | .ok (.program _ mode) => mode &&& 0o111 ≠ 0
  | .ok (.file _ mode) => mode &&& 0o111 ≠ 0
  | _ => false

def workDirPath (h : Host) : Path := ⟨"/" ++ "/".intercalate h.workDir⟩

def absolute (h : Host) (path : Path) : Path :=
  if path.isAbsolute then path
  else h.workDirPath.join (.ofComponents (path.components.filter (· ≠ .here)))

def expandHome (h : Host) (dir : Path) : Path :=
  match dir.components, h.home? with
  | .name "~" :: rest, some home => if rest.isEmpty then home else home.join (.ofComponents rest)
  | _, _ => dir

/-- Where a program name leads as far as one can tell without starting it: a path of several
components from the working directory, any other name through the search path. -/
def resolve? (h : Host) (program : Path) : Option Path :=
  let candidates :=
    if 1 < program.components.length then [h.absolute program]
    else match h.envVar? "PATH" with
      | none => []
      | some text => (Text.split ':' text).map fun dir => (h.expandHome ⟨dir⟩).join program
  candidates.find? h.isRunnable

end Host
end ScriptCheck
