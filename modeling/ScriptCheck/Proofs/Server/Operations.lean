import ScriptCheck.Proofs.Server.History

/-! What each operation of the server does, said once: how a notification changes what is known
of documents and tickets, when a linter starts, and who hears of the result. -/

namespace ScriptCheck.Server

variable {s : Server} {h : Host} {uri : Uri}

theorem applySettings_kept (s : Server) (given : Option Json) :
    (s.applySettings given).1.documents = s.documents ∧
      (s.applySettings given).1.debouncer = s.debouncer := by
  unfold applySettings
  exact ⟨rfl, rfl⟩

theorem linter?_ofToolchain (t : Toolchain) :
    (Registry.ofToolchain t).linter? = some (Linter.tool t.fish t.timeoutMs) := rfl

theorem applySettings_linter? (s : Server) (given : Option Json) :
    (s.applySettings given).1.registry.linter?.isSome := by
  unfold applySettings
  rw [linter?_ofToolchain]
  rfl

theorem begun_server (h : Host) (launchRoot : Option Path) (w : Workspace) :
    (begun h launchRoot w).server.documents = .empty ∧
      (begun h launchRoot w).server.debouncer = .empty ∧
      (begun h launchRoot w).server.registry.linter?.isSome := by
  have hkept := applySettings_kept
    { fresh with fileSettings := ((Settings.load (rootOf launchRoot w)).run h).1 } w.settings
  exact ⟨hkept.1, hkept.2, applySettings_linter? _ _⟩

theorem schedule_documents (s : Server) (uri : Uri) (trigger : Trigger) :
    (s.schedule uri trigger).1.documents = s.documents := by
  unfold schedule
  split <;> rfl

theorem schedule_registry (s : Server) (uri : Uri) (trigger : Trigger) :
    (s.schedule uri trigger).1.registry = s.registry := by
  unfold schedule
  split <;> rfl

theorem receive_documents (s : Server) (h : Host) (n : Notification) :
    (s.receive h n).1.documents = match n with
      | .document event => s.documents.apply event
      | _ => s.documents := by
  cases n with
  | initialized => rfl
  | unchanged => rfl
  | settings value => exact (applySettings_kept s (some value)).1
  | document event =>
    cases event with
    | closed uri => rfl
    | _ => exact schedule_documents _ _ _

theorem receive_linter? (n : Notification) (hl : s.registry.linter?.isSome) :
    (s.receive h n).1.registry.linter?.isSome := by
  cases n with
  | initialized => exact hl
  | unchanged => exact hl
  | settings value => exact applySettings_linter? s (some value)
  | document event =>
    cases event with
    | closed uri => exact hl
    | _ =>
      unfold receive onDocument
      rw [schedule_registry]
      exact hl

inductive Received (s : Server) : Notification → Server → Reaction → Prop
  | quiet {n : Notification} {t : Server} {r : Reaction} (hn : ∀ uri, n ≠ .document (.closed uri))
    (hdebouncer : t.debouncer = s.debouncer) (htasks : r.tasks = [])
    (hnotices : ∀ uri, r.notices.filter (·.isFor uri) = []) : Received s n t r
  | closed {t : Server} (uri : Uri) (hdebouncer : t.debouncer = s.debouncer.cancel uri) :
    Received s (.document (.closed uri)) t
      { notices := if (s.documents.get? uri).isSome then [.publish uri [] none] else [] }
  | asked {n : Notification} {t : Server} (uri : Uri) (trigger : Trigger)
    (hn : ∀ uri, n ≠ .document (.closed uri)) (hdebouncer : t.debouncer = s.debouncer.issue uri)
    (hopen : (t.documents.get? uri).isSome) :
    Received s n t { tasks := [⟨uri, s.debouncer.next, trigger⟩] }

theorem applySettings_notices (s : Server) (given : Option Json) (uri : Uri) :
    (s.applySettings given).2.filter (·.isFor uri) = [] := by
  unfold applySettings
  cases given with
  | none => rfl
  | some value => cases hv : Settings.ofClient value <;> simp [hv, Notice.isFor]

theorem greeting_notices (s : Server) (h : Host) (uri : Uri) :
    (s.greeting h).filter (·.isFor uri) = [] := by
  rw [List.filter_eq_nil_iff]
  intro notice hmem
  rcases List.mem_cons.mp hmem with rfl | hmem
  · simp [Notice.isFor]
  · obtain ⟨tool, -, rfl⟩ := List.mem_map.mp hmem
    simp [Notice.isFor]

theorem received_schedule {n : Notification} {kept : Server} (uri : Uri) (trigger : Trigger)
    (hn : ∀ uri, n ≠ .document (.closed uri)) (hkept : kept.debouncer = s.debouncer) :
    Received s n (kept.schedule uri trigger).1 { tasks := (kept.schedule uri trigger).2 } := by
  unfold schedule
  split
  · rename_i hwants
    rw [hkept]
    refine .asked uri trigger hn rfl ?_
    unfold wantsLint at hwants
    show (kept.documents.get? uri).isSome
    cases hd : kept.documents.get? uri with
    | some d => rfl
    | none => simp [hd] at hwants
  · exact .quiet hn hkept rfl fun _ => rfl

theorem received_receive (s : Server) (h : Host) (n : Notification) :
    Received s n (s.receive h n).1 (s.receive h n).2 := by
  cases n with
  | initialized => exact .quiet (by simp) rfl rfl (greeting_notices s h)
  | unchanged => exact .quiet (by simp) rfl rfl fun _ => rfl
  | settings value =>
    exact .quiet (by simp) (applySettings_kept s (some value)).2 rfl
      (applySettings_notices s (some value))
  | document event =>
    cases event with
    | closed uri => exact .closed uri rfl
    | opened uri text version language => exact received_schedule uri _ (by simp) rfl
    | changed uri text version => exact received_schedule uri _ (by simp) rfl
    | saved uri text => exact received_schedule uri _ (by simp) rfl

theorem isSome_startLint (task : LintTask) (hopen : (s.documents.get? task.uri).isSome)
    (hlinter : s.registry.linter?.isSome) : ((s.startLint task).run h).1.isSome := by
  obtain ⟨snapshot, hd⟩ := Option.isSome_iff_exists.mp hopen
  obtain ⟨linter, hl⟩ := Option.isSome_iff_exists.mp hlinter
  unfold startLint
  rw [hd, hl]
  rfl

theorem task_of_startLint {task : LintTask} {run : LintRun}
    (hrun : ((s.startLint task).run h).1 = some run) : run.task = task := by
  unfold startLint at hrun
  split at hrun
  · cases hrun
    rfl
  · cases hrun

theorem counts_iff (task : LintTask) :
    s.counts task ↔ s.debouncer.current.get? task.uri = some task.ticket := by
  simp [counts, Debouncer.isCurrent]

theorem publishers_finished (run : LintRun) :
    (Moment.finished run (s.endLint run)).publishers uri =
      if s.counts run.task ∧ run.task.uri = uri then [some run.task] else [] := by
  unfold endLint
  by_cases hc : s.counts run.task
  · by_cases hu : run.task.uri = uri
    · cases ho : run.outcome <;>
        simp [hc, hu, Moment.publishers, Moment.notices, Moment.author?, Notice.isFor]
    · cases ho : run.outcome <;>
        simp [hc, hu, Moment.publishers, Moment.notices, Notice.isFor]
  · simp [hc, Moment.publishers, Moment.notices]

theorem publishers_answered (run : FormatRun) (edits : Option (List Editor.Edit)) :
    (Moment.answered run (s.endFormat run).1 edits).publishers uri = [] := by
  unfold endFormat
  cases ho : run.outcome with
  | error e => simp [Moment.publishers, Moment.notices, Notice.isFor]
  | ok formatted =>
    by_cases hc : s.documents.isCurrent run.uri run.snapshot <;>
      simp [hc, Moment.publishers, Moment.notices]

end ScriptCheck.Server
