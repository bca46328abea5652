import ScriptCheck.Command.Run

/-! The program. It shows a command the environment, the settings files, and standard input if
they matter to it, and then writes out what the command wrote. No other programs are started
from here, so the tools count as not installed. -/

namespace ScriptCheck.Main

def environmentNames : List String :=
  ["PATH", "HOME", "XDG_CONFIG_HOME", "NO_COLOR", "GILL_LOG", "RUST_LOG"]

def readEnvironment : IO (List (String × String)) :=
  environmentNames.filterMapM fun name => do
    return (← IO.getEnv name).map fun value => (name, value)

partial def readAll (input : IO.FS.Stream) (read : ByteArray) : IO ByteArray := do
  let more ← input.read 65536
  if more.isEmpty then return read else readAll input (read ++ more)

def withDirs (h : Host) (place : Place) : Host :=
  (List.range place.length).foldl (fun h n =>
    let here := place.take n
    if (h.tree.at? here).isSome then h else h.setTree (h.tree.put here (.dir []))) h

def placeOf (h : Host) (path : Path) : Place :=
  (if path.isAbsolute then [] else h.workDir) ++ path.names.filter (· ≠ ".")

def showFile (h : Host) (path : Path) : IO Host := do
  try
    let content ← IO.FS.readBinFile path.text
    let place := placeOf h path
    let h := withDirs h place
    return h.setTree (h.tree.put place (.file content 0o644))
  catch _ => return h

def saveFile (before after : Host) (path : Path) : IO Unit := do
  match (before.readBytes path).toOption, (after.readBytes path).toOption with
  | old, some new =>
    if old.any fun bytes => bytes == new then return
    if let some dir := path.parent? then
      if dir.text ≠ "" then IO.FS.createDirAll dir.text
    IO.FS.writeBinFile path.text new
  | _, none => return

end ScriptCheck.Main

open ScriptCheck in
def main (words : List String) : IO UInt32 := do
  let workDir := Path.names ⟨(← IO.currentDir).toString⟩
  let input ← if Command.wantsInput words then Main.readAll (← IO.getStdin) .empty else pure .empty
  let bare : Host := {
    tree := .dir [], workDir, environment := ← Main.readEnvironment, accountHome := none
    console := { input, isTerminal := ← (← IO.getStdout).isTty }, clockMs := 0, journal := [] }
  let start := Main.withDirs bare (workDir ++ [""])
  let files := Command.settingsFiles start words
  let host ← files.foldlM Main.showFile start
  let (code, after) := (Command.run words).run host
  IO.print after.console.output
  IO.eprint after.console.errors
  for event in after.journal do
    IO.eprintln (event.level.name ++ " " ++ event.target)
  for file in files do
    Main.saveFile host after file
  return .ofNat code
