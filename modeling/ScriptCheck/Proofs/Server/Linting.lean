import ScriptCheck.Proofs.Server.Configuration
import ScriptCheck.Proofs.Server.Contents
import ScriptCheck.Proofs.Server.Formatting
import ScriptCheck.Proofs.Tool.Resolution

/-! What the checker is given when a lint starts, which may be some events after the one that asked
for it: the file on disk if the lint was asked for by an opening or a save and the document was not
changed since, and otherwise the text that was told last. Whether there is a file depends on the
path in the URI alone, so that a document of any scheme can stand for one. -/

namespace ScriptCheck.Server

open DocumentStore (Event Settled Told told_get?)

variable {past : History} {x y : Activity} {n : Notification} {r : Reaction} {task : LintTask}
  {uri : Uri} {d : Document} {s : Server} {h : Host} {trigger : Trigger} {path : Path}

def DocumentStore.Event.trigger? : Event → Option Trigger
  | opened .. => some .opened
  | changed .. => some .changed
  | saved .. => some .saved
  | closed _ => none

theorem mem_schedule (htask : task ∈ (s.schedule uri trigger).2) :
    task.uri = uri ∧ task.trigger = trigger := by
  unfold schedule at htask
  split at htask
  · rw [List.mem_singleton.mp htask]
    exact ⟨rfl, rfl⟩
  · cases htask

theorem exists_event_of_receive (htask : task ∈ (s.receive h n).2.tasks) :
    ∃ event, n = .document event ∧ event.uri = task.uri ∧ event.trigger? = some task.trigger := by
  cases n with
  | document event =>
    refine ⟨event, rfl, ?_⟩
    cases event with
    | closed u => cases htask
    | _ =>
      obtain ⟨huri, htrigger⟩ := mem_schedule htask
      rw [huri, htrigger]
      exact ⟨rfl, rfl⟩
  | _ => cases htask

theorem Run.exists_event (hrun : Run x past y) (hasked : .received n r ∈ past)
    (htask : task ∈ r.tasks) :
    ∃ event, n = .document event ∧ event.uri = task.uri ∧ event.trigger? = some task.trigger := by
  obtain ⟨before, after, rfl⟩ := List.append_of_mem hasked
  obtain ⟨z, -, hrest⟩ := hrun.split
  cases hrest with
  | cons hstep _ =>
    cases hstep with
    | receive s es h n => exact exists_event_of_receive htask

theorem settles_iff {event : Event} (huri : event.uri = uri)
    (htrigger : event.trigger? = some trigger) : event.settles uri ↔ trigger ≠ .changed := by
  subst huri
  cases event <;> cases htrigger <;> simp [Event.settles, Event.uri]

namespace LintTarget

def invocation (executable : Path) (timeoutMs : Option Nat) (h : Host) : LintTarget → Invocation
  | file path => Linter.invocation executable timeoutMs (path.parent?.getD ⟨"."⟩) path
  | buffer text label =>
    Linter.textInvocation executable timeoutMs text (Linter.textDir h label)

def verdict : LintTarget → Except ToolError ProcessOutput → Except ToolError ToolResult
  | file _ => Linter.fileVerdict
  | buffer _ label => Linter.textVerdict label

theorem answer_check (executable : Path) (timeoutMs : Option Nat) (h : Host)
    (target : LintTarget) : ((target.check (Linter.tool executable timeoutMs)).run.run h).1 =
      target.verdict ((target.invocation executable timeoutMs h).answer h) := by
  cases target with
  | file path => exact Linter.answer_checkFiles _ path
  | buffer text label => exact Linter.answer_checkText text label

theorem choose_eq_file_iff : choose h uri d trigger = .file path ↔
    trigger ≠ .changed ∧ d.dirty = false ∧ uri.filePath? = some path ∧ h.isFile path = true := by
  unfold choose
  cases uri.filePath? with
  | none => simp
  | some named =>
    simp only [Option.some.injEq]
    split
    · rename_i hcond
      constructor
      · rintro ⟨⟩
        exact ⟨hcond.1, by simpa using hcond.2.1, rfl, hcond.2.2⟩
      · rintro ⟨-, -, rfl, -⟩
        rfl
    · rename_i hcond
      refine iff_of_false nofun ?_
      rintro ⟨htrigger, hdirty, rfl, hfile⟩
      exact hcond ⟨htrigger, by simpa using hdirty, hfile⟩

theorem choose_eq_buffer (hfile : ∀ path, choose h uri d trigger ≠ .file path) :
    choose h uri d trigger = .buffer d.text uri.label := by
  unfold choose at hfile ⊢
  cases hpath : uri.filePath? with
  | none => rfl
  | some named =>
    simp only [hpath] at hfile ⊢
    split
    · rename_i hcond
      exact absurd (if_pos hcond) (hfile named)
    · rfl

end LintTarget

theorem startLint_eq {linter : Tool} (hd : s.documents.get? task.uri = some d)
    (hlinter : s.registry.linter? = some linter) : ((s.startLint task).run h).1 = some {
      task, snapshot := d
      outcome := (((LintTarget.choose h task.uri d task.trigger).check linter).run.run h).1 } := by
  unfold startLint
  rw [hd, hlinter]
  rfl

theorem endLint_eq {run : LintRun} {result : ToolResult} (hcounts : s.counts run.task)
    (houtcome : run.outcome = .ok result) : s.endLint run =
      [.publish run.task.uri (result.diagnostics.map (Editor.Mark.of · run.snapshot.text))
        (some run.snapshot.version)] := by
  unfold endLint
  rw [if_pos hcounts, houtcome]

/-- What the checker is given for a lint, with the event that asked for it and all that was told
until it starts. -/
structure ChecksAsTold (uri : Uri) (asked : Event) (events : List Event) (h : Host) (d : Document)
    (target : LintTarget) : Prop where
  told : Told uri events d
  onDisk : ∀ path, target = .file path ↔ asked.settles uri ∧ Settled uri events ∧
    uri.filePath? = some path ∧ h.isFile path = true
  fromBuffer : (∀ path, target ≠ .file path) → target = .buffer d.text uri.label

theorem checksAsTold_choose {asked : Event} {events : List Event} (htold : Told uri events d)
    (huri : asked.uri = uri) (htrigger : asked.trigger? = some trigger) :
    ChecksAsTold uri asked events h d (.choose h uri d trigger) where
  told := htold
  onDisk := fun path => by
    rw [LintTarget.choose_eq_file_iff, ← settles_iff huri htrigger, htold.clean]
  fromBuffer := LintTarget.choose_eq_buffer

/-- A lint checks what was told of its document last, or the file that this agrees with, whatever
was told of other documents, and publishes under the version that was told last. -/
theorem checksAsTold_of_run {h₀ : Host} {launchRoot : Option Path} {w : Workspace}
    (hrun : Run (begun h₀ launchRoot w) past x) (hasked : .received n r ∈ past)
    (htask : task ∈ r.tasks) (hd : x.server.documents.get? task.uri = some d) (h : Host) :
    let tools := x.server.settings.tools
    let target := LintTarget.choose h task.uri d task.trigger
    ∃ asked run, n = .document asked ∧ ((x.server.startLint task).run h).1 = some run ∧
      run.outcome = target.verdict
        ((target.invocation (tools.fish.getD ⟨"fish"⟩) (limitMs tools) h).answer h) ∧
      ChecksAsTold task.uri asked past.events h d target ∧
      ChecksAsTold task.uri asked (past.events.filter (·.uri = task.uri)) h d target ∧
      ∀ (later : Server) result, later.counts task → run.outcome = .ok result →
        later.endLint run = [.publish task.uri
          (result.diagnostics.map (Editor.Mark.of · d.text)) (some d.version)] := by
  intro tools target
  obtain ⟨asked, rfl, huri, htrigger⟩ := hrun.exists_event hasked htask
  have htold : Told task.uri past.events d := by
    rw [hrun.documents, (begun_server h₀ launchRoot w).1] at hd
    exact told_get? hd
  have hlinter := (hrun.configuredBy (configuredBy_begun h₀ launchRoot w)).linter
  refine ⟨asked, _, rfl, startLint_eq hd hlinter, LintTarget.answer_check _ _ h target,
    checksAsTold_choose htold huri htrigger, checksAsTold_choose htold.filter huri htrigger, ?_⟩
  intro later result hcounts houtcome
  exact endLint_eq hcounts houtcome

def trusting : Program := fun call =>
  if call.arguments = ["-n"] then Program.complaining call
  else { readsInput := true, delayMs := 0, stdout := .empty, stderr := .empty, exit := .code 0 }

def scriptMachine : Host := { Host.offering [("fish", trusting)] with
  tree := .dir [("bin", .dir [("fish", .program trusting 0o755)]),
    ("a.fish", .file "echo".toUTF8 0o644)] }

theorem checksAsTold_of_run_changed :
    let h := scriptMachine
    let uri : Uri := ⟨"file", some ⟨"", none, .empty, none⟩, .segments ["a.fish"], none, none⟩
    let saved : Event := .saved uri (some "echo")
    ∃ past x y, Run (begun h none ⟨none, [], none⟩) past x ∧
      (∃ d, x.server.documents.get? uri = some d ∧
        ChecksAsTold uri saved past.events h d (.file ⟨"/a.fish"⟩)) ∧
      Run x [.received (.document (.changed uri "if" 3)) {}] y ∧
      ∃ d, y.server.documents.get? uri = some d ∧
        ChecksAsTold uri saved (past.events ++ [.changed uri "if" 3]) h d
          (.buffer "if" ⟨"/a.fish"⟩) := by
  intro h uri saved
  let first : LintTask := ⟨uri, ⟨1⟩, .opened⟩
  let second : LintTask := ⟨uri, ⟨2⟩, .saved⟩
  obtain ⟨s₁, hs₁, s₂, hs₂, s₃, hs₃, d₂, hd₂, hchoose₂, d₃, hd₃, hchoose₃⟩ :
      ∃ s₁, (begun h none ⟨none, [], none⟩).server.receive h
        (.document (.opened uri "if" 1 "fish")) = (s₁, { tasks := [first] }) ∧
      ∃ s₂, s₁.receive h (.document saved) = (s₂, { tasks := [second] }) ∧
      ∃ s₃, s₂.receive h (.document (.changed uri "if" 3)) = (s₃, {}) ∧
      ∃ d₂, s₂.documents.get? uri = some d₂ ∧
        LintTarget.choose h uri d₂ .saved = .file ⟨"/a.fish"⟩ ∧
      ∃ d₃, s₃.documents.get? uri = some d₃ ∧
        LintTarget.choose h uri d₃ .saved = .buffer "if" ⟨"/a.fish"⟩ := by
    refine ⟨_, rfl, _, rfl, _, rfl, _, rfl, ?_, _, rfl, ?_⟩
    · decide +kernel
    · decide +kernel
  have hpast : Run (begun h none ⟨none, [], none⟩) _ _ :=
    .cons (.receive_of_eq hs₁ []) <| .cons (.receive_of_eq hs₂ _) <| .nil _
  have hlast : Run ⟨s₂, [.waiting first, .waiting second]⟩
      [.received (.document (.changed uri "if" 3)) {}] _ :=
    .cons (.receive_of_eq hs₃ _) <| .nil _
  have hasked : Moment.received (.document saved) { tasks := [second] } ∈
      [Moment.received (.document (.opened uri "if" 1 "fish")) { tasks := [first] },
        .received (.document saved) { tasks := [second] }] :=
    List.mem_cons_of_mem _ List.mem_cons_self
  obtain ⟨_, _, ⟨⟩, -, -, hsaved, -⟩ :=
    checksAsTold_of_run hpast hasked List.mem_cons_self hd₂ h
  obtain ⟨_, _, ⟨⟩, -, -, hchanged, -⟩ := checksAsTold_of_run (hpast.append hlast)
    (List.mem_append_left _ hasked) List.mem_cons_self hd₃ h
  rw [hchoose₂] at hsaved
  rw [hchoose₃] at hchanged
  exact ⟨_, _, _, hpast, ⟨d₂, hd₂, hsaved⟩, hlast, d₃, hd₃, hchanged⟩

/-- A document that was never saved is checked as the file that its path happens to name. -/
theorem startLint_untitled_path :
    let h := scriptMachine
    let uri : Uri := ⟨"untitled", none, .segments ["a.fish"], none, none⟩
    let task : LintTask := ⟨uri, ⟨1⟩, .opened⟩
    ∃ x run, Run (begun h none ⟨none, [], none⟩)
        [.received (.document (.opened uri "if" 1 "fish")) { tasks := [task] }] x ∧
      ((x.server.startLint task).run h).1 = some run ∧ run.snapshot.text = "if" ∧
      LintTarget.choose h uri run.snapshot .opened = .file ⟨"/a.fish"⟩ ∧
      run.outcome = .ok (.success "fish" []) ∧
      (((LintTarget.buffer "if" uri.label).check (Linter.tool ⟨"fish"⟩ none)).run.run h).1 ≠
        run.outcome := by
  intro h uri task
  obtain ⟨s, hs, run, hrun, htext, hchoose, houtcome⟩ :
      ∃ s, (begun h none ⟨none, [], none⟩).server.receive h
        (.document (.opened uri "if" 1 "fish")) = (s, { tasks := [task] }) ∧
      ∃ run, ((s.startLint task).run h).1 = some run ∧ run.snapshot.text = "if" ∧
        LintTarget.choose h uri run.snapshot .opened = .file ⟨"/a.fish"⟩ ∧
        run.outcome = .ok (.success "fish" []) := by
    refine ⟨_, rfl, _, rfl, rfl, ?_, ?_⟩
    · decide +kernel
    · decide +kernel
  refine ⟨_, run, .cons (.receive_of_eq hs []) (.nil _), hrun, htext, hchoose, houtcome, ?_⟩
  rw [houtcome]
  decide +kernel

end ScriptCheck.Server
