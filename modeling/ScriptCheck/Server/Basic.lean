import ScriptCheck.Editor.Range
import ScriptCheck.Server.Debouncer
import ScriptCheck.Server.Message
import ScriptCheck.Settings.Load
import ScriptCheck.Tool.Registry
import ScriptCheck.Uri.File

/-! The language server: what it knows, how it takes what an editor tells it, and the two
pieces of work that take time. A lint waits until things are quiet, then runs the linter, and
publishes what it found only if no other lint of the document was asked for meanwhile. A
formatting runs the formatter, and its edits count only if the document is still the same. -/

namespace ScriptCheck

structure Server where
  documents : Server.DocumentStore
  debouncer : Server.Debouncer Uri
  fileSettings : Settings
  settings : Settings
  registry : Registry

namespace Server

def fresh : Server where
  documents := .empty
  debouncer := .empty
  fileSettings := {}
  settings := {}
  registry := .ofToolchain ({} : ToolsSection).toolchain

inductive Gravity where
  | error
  | warning
deriving DecidableEq, Repr

inductive Notice where
  | log (text : String)
  | message (gravity : Gravity) (text : String)
  | publish (uri : Uri) (marks : List Editor.Mark) (version : Option Int)
deriving DecidableEq, Repr

inductive Trigger where
  | opened
  | saved
  | changed
deriving DecidableEq, Repr

structure LintTask where
  uri : Uri
  ticket : Ticket
  trigger : Trigger
deriving DecidableEq, Repr

/-- Puts what the editor sets over the settings from the files. What does not read well sets
nothing. -/
def applySettings (s : Server) (given : Option Json) : Server × List Notice :=
  let (settings, notices) := match given with
    | none => (s.fileSettings, [])
    | some value =>
      match Settings.ofClient value with
      | .ok layer => (Layered.overlay s.fileSettings layer, [])
      | .error e => (s.fileSettings, [.message .warning ("gill: " ++ Settings.clientMessage e)])
  ({ s with settings, registry := .ofToolchain settings.tools.toolchain }, notices)

def rootOf (launchRoot : Option Path) (w : Workspace) : Path :=
  let named := (w.rootUri.bind Uri.filePath?).or (w.folders.head?.bind Uri.filePath?)
  (named.or launchRoot).getD ⟨"."⟩

def attach (s : Server) (launchRoot : Option Path) (w : Workspace) :
    Action (Server × List Notice) := do
  let fileSettings ← Settings.load (rootOf launchRoot w)
  pure (({ s with fileSettings }).applySettings w.settings)

def greeting (s : Server) (h : Host) : List Notice :=
  .log "gill language server initialized"
    :: (s.registry.tools.filter fun tool => !tool.isAvailable h).map fun tool =>
      .message .warning (tool.absence ++ "; set [tools] in .gill/config.toml")

def lintsOn (lint : LintSection) : Trigger → Bool
  | .opened => lint.lintsOnOpen
  | .saved => lint.lintsOnSave
  | .changed => lint.lintsOnChange

def wantsLint (s : Server) (uri : Uri) (trigger : Trigger) : Bool :=
  match s.documents.get? uri with
  | some d => uri.isFish d.language && lintsOn s.settings.lint trigger
  | none => false

/-- Asks for a lint. Those of the document that are still under way no longer count. -/
def schedule (s : Server) (uri : Uri) (trigger : Trigger) : Server × List LintTask :=
  if s.wantsLint uri trigger then
    ({ s with debouncer := s.debouncer.issue uri }, [⟨uri, s.debouncer.next, trigger⟩])
  else (s, [])

structure Reaction where
  notices : List Notice := []
  tasks : List LintTask := []

def onDocument (s : Server) (event : DocumentStore.Event) : Server × Reaction :=
  let kept := { s with documents := s.documents.apply event }
  match event with
  | .opened uri .. =>
    let (s, tasks) := kept.schedule uri .opened
    (s, { tasks })
  | .changed uri .. =>
    let (s, tasks) := kept.schedule uri .changed
    (s, { tasks })
  | .saved uri _ =>
    let (s, tasks) := kept.schedule uri .saved
    (s, { tasks })
  | .closed uri =>
    ({ kept with debouncer := s.debouncer.cancel uri },
      { notices := if (s.documents.get? uri).isSome then [.publish uri [] none] else [] })

def receive (s : Server) (h : Host) : Notification → Server × Reaction
  | .initialized => (s, { notices := s.greeting h })
  | .document event => s.onDocument event
  | .unchanged => (s, {})
  | .settings value =>
    let (s, notices) := s.applySettings (some value)
    (s, { notices })

inductive LintTarget where
  | file (path : Path)
  | buffer (text : String) (label : Path)
deriving DecidableEq, Repr

/-- A file without unsaved changes is checked where it lies. -/
def LintTarget.choose (h : Host) (uri : Uri) (d : Document) (trigger : Trigger) : LintTarget :=
  match uri.filePath? with
  | some path =>
    if trigger ≠ .changed ∧ !d.dirty ∧ h.isFile path then .file path
    else .buffer d.text uri.label
  | none => .buffer d.text uri.label

def LintTarget.check (linter : Tool) : LintTarget → Attempt ToolResult
  | .file path => linter.run [path] (path.parent?.getD ⟨"."⟩)
  | .buffer text label => linter.checkSource text label

structure LintRun where
  task : LintTask
  snapshot : Document
  outcome : Except ToolError ToolResult

def counts (s : Server) (task : LintTask) : Bool := s.debouncer.isCurrent task.uri task.ticket

def startLint (s : Server) (task : LintTask) : Action (Option LintRun) := do
  match s.documents.get? task.uri, s.registry.linter? with
  | some snapshot, some linter =>
    let target := LintTarget.choose (← get) task.uri snapshot task.trigger
    let outcome ← (target.check linter).run
    pure (some { task, snapshot, outcome })
  | _, _ => pure none

def beginLint (s : Server) (task : LintTask) : Action (Option LintRun) :=
  if s.counts task then s.startLint task else pure none

def endLint (s : Server) (run : LintRun) : List Notice :=
  if s.counts run.task then
    match run.outcome with
    | .ok result =>
      let marks := result.diagnostics.map (Editor.Mark.of · run.snapshot.text)
      [.publish run.task.uri marks (some run.snapshot.version)]
    | .error e =>
      [.message .error ("fish lint failed: " ++ e.message), .publish run.task.uri [] none]
  else []

structure FormatRun where
  uri : Uri
  snapshot : Document
  outcome : Except ToolError String

def beginFormat (s : Server) (uri : Uri) : Action (Option FormatRun) := do
  if !s.settings.format.isEnabled then return none
  match s.documents.get? uri, s.registry.formatter? with
  | some snapshot, some formatter =>
    if uri.isFish snapshot.language then
      let outcome ← (formatter.formatSource snapshot.text).run
      pure (some { uri, snapshot, outcome })
    else pure none
  | _, _ => pure none

def endFormat (s : Server) (run : FormatRun) : List Notice × Option (List Editor.Edit) :=
  match run.outcome with
  | .error e => ([.message .error ("fish_indent failed: " ++ e.message)], none)
  | .ok formatted =>
    if s.documents.isCurrent run.uri run.snapshot then
      ([], some (Editor.wholeDocumentEdits run.snapshot.text formatted))
    else ([], none)

end Server
end ScriptCheck
