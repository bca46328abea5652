import ScriptCheck.Proofs.Host.Offering
import ScriptCheck.Proofs.Server.Operations
import ScriptCheck.Proofs.Server.Snapshot

/-! Formattings while the editor goes on. The edits of an answer are those for the text that is
there when the answer is given: if the document was touched since the formatter took its text,
the answer holds no edits. -/

namespace ScriptCheck.Server

open DocumentStore (Event numbered_empty since_get?)

variable {past between : History} {x y z : Activity} {m : Moment} {uri : Uri} {run : FormatRun}
  {s : Server} {h : Host}

def Moment.events : Moment → List Event
  | received (.document event) _ => [event]
  | _ => []

def History.events (history : History) : List Event := history.flatMap Moment.events

theorem Step.documents (hs : Step x m y) :
    y.server.documents = m.events.foldl DocumentStore.apply x.server.documents := by
  cases hs with
  | receive s es h n =>
    show (s.receive h n).1.documents = _
    rw [receive_documents]
    cases n <;> rfl
  | _ => rfl

theorem Run.documents (hr : Run x past y) :
    y.server.documents = past.events.foldl DocumentStore.apply x.server.documents := by
  induction hr with
  | nil x => rfl
  | cons hs hrest ih =>
    rw [ih, hs.documents]
    unfold History.events
    rw [List.flatMap_cons, List.foldl_append]

theorem Run.numbered {launchRoot : Option Path} {w : Workspace}
    (hr : Run (begun h launchRoot w) past x) : x.server.documents.Numbered := by
  rw [hr.documents, (begun_server h launchRoot w).1]
  exact numbered_empty.foldl _

def formatted (formatter : Tool) (h : Host) (text : String) : Except ToolError String :=
  ((formatter.formatSource text).run.run h).1

theorem of_beginFormat (hrun : ((s.beginFormat uri).run h).1 = some run) :
    run.uri = uri ∧ s.documents.get? uri = some run.snapshot ∧
      ∃ formatter, s.registry.formatter? = some formatter ∧
        run.outcome = formatted formatter h run.snapshot.text := by
  unfold beginFormat at hrun
  cases henabled : s.settings.format.isEnabled with
  | false =>
    rw [henabled] at hrun
    cases hrun
  | true =>
    rw [henabled] at hrun
    cases hd : s.documents.get? uri with
    | none =>
      rw [hd] at hrun
      cases hrun
    | some snapshot =>
      cases hf : s.registry.formatter? with
      | none =>
        rw [hd, hf] at hrun
        cases hrun
      | some formatter =>
        rw [hd, hf] at hrun
        cases hfish : uri.isFish snapshot.language with
        | false =>
          simp only [hfish] at hrun
          cases hrun
        | true =>
          simp only [hfish] at hrun
          cases hrun
          exact ⟨rfl, rfl, formatter, rfl, rfl⟩

theorem Step.of_asked {r : Option FormatRun} (hs : Step x (.asked uri r) y) :
    (∃ h, ((x.server.beginFormat uri).run h).1 = r) ∧ y.server = x.server := by
  cases hs with
  | ask s es h uri => exact ⟨⟨h, rfl⟩, rfl⟩

theorem Step.of_answered {notices : List Notice} {answer : Option (List Editor.Edit)}
    (hs : Step x (.answered run notices answer) y) : (x.server.endFormat run).2 = answer := by
  cases hs with
  | answer s before after run => rfl

theorem endFormat_eq_none_iff : (s.endFormat run).2 = none ↔
    (∃ e, run.outcome = .error e) ∨ s.documents.isCurrent run.uri run.snapshot = false := by
  unfold endFormat
  cases ho : run.outcome with
  | error e => simp
  | ok t => cases hc : s.documents.isCurrent run.uri run.snapshot <;> simp

theorem of_endFormat {edits : List Editor.Edit} (hedits : (s.endFormat run).2 = some edits) :
    s.documents.isCurrent run.uri run.snapshot = true ∧ ∃ t, run.outcome = .ok t ∧
      edits = Editor.wholeDocumentEdits run.snapshot.text t := by
  unfold endFormat at hedits
  cases ho : run.outcome with
  | error e =>
    rw [ho] at hedits
    cases hedits
  | ok t =>
    rw [ho] at hedits
    cases hc : s.documents.isCurrent run.uri run.snapshot with
    | false => simp [hc] at hedits
    | true =>
      simp only [hc, if_true, Option.some.injEq] at hedits
      exact ⟨rfl, t, rfl, hedits.symm⟩

/-- The answer to a formatting, with the events since the formatter took its text and the
documents as they are now. -/
structure FormattedInTime (formatter : Tool) (h : Host) (run : FormatRun) (events : List Event)
    (now : DocumentStore) (answer : Option (List Editor.Edit)) : Prop where
  outcome : run.outcome = formatted formatter h run.snapshot.text
  fits : ∀ edits, answer = some edits → ∃ d t, now.get? run.uri = some d ∧
    d.text = run.snapshot.text ∧ formatted formatter h d.text = .ok t ∧
      edits = Editor.wholeDocumentEdits d.text t
  withheld : answer = none ↔ (∃ e, formatted formatter h run.snapshot.text = .error e) ∨
    ∃ event ∈ events, event.touches run.uri

theorem formattedInTime_of_answered {h₀ : Host} {launchRoot : Option Path} {w : Workspace}
    {x' : Activity} {notices : List Notice} {answer : Option (List Editor.Edit)}
    (hpast : Run (begun h₀ launchRoot w) past x) (hask : Step x (.asked uri (some run)) x')
    (hbetween : Run x' between y) (horderly : x'.server.documents.Orderly between.events)
    (hanswer : Step y (.answered run notices answer) z) :
    ∃ formatter h, x.server.registry.formatter? = some formatter ∧
      x.server.documents.get? uri = some run.snapshot ∧ run.uri = uri ∧
        FormattedInTime formatter h run between.events y.server.documents answer := by
  obtain ⟨⟨h, hrun⟩, hserver⟩ := hask.of_asked
  obtain ⟨rfl, hd, formatter, hformatter, houtcome⟩ := of_beginFormat hrun
  have hnow := (since_get? hpast.numbered hd).foldl (hserver ▸ horderly)
  rw [← hserver, ← hbetween.documents, Bool.false_or] at hnow
  have hcurrent := hnow.isCurrent_eq
  refine ⟨formatter, h, hformatter, hd, rfl, houtcome, ?_, ?_⟩
  · intro edits hedits
    obtain ⟨hunchanged, t, ht, hfit⟩ := of_endFormat (hanswer.of_answered.trans hedits)
    rw [hcurrent, Bool.not_eq_true'] at hunchanged
    obtain ⟨d, hopen, htext, -, -⟩ := hnow.kept hunchanged
    rw [← htext] at houtcome hfit
    exact ⟨d, t, hopen, htext, houtcome.symm.trans ht, hfit⟩
  · rw [← hanswer.of_answered, endFormat_eq_none_iff, hcurrent, houtcome, Bool.not_eq_false',
      List.any_eq_true]

theorem formattedInTime_saved :
    ∃ past x run x' between y z answer,
      Run (begun (.offering [("fish_indent", .tidying)]) none ⟨none, [], none⟩) past x ∧
      Step x (.asked draft (some run)) x' ∧ Run x' between y ∧
      x'.server.documents.Orderly between.events ∧ Step y (.answered run [] answer) z ∧
      (∃ formatter h, x.server.registry.formatter? = some formatter ∧
        FormattedInTime formatter h run between.events y.server.documents answer) ∧
      answer = some [⟨⟨⟨0, 0⟩, ⟨0, 8⟩⟩, "echo hi\n"⟩] := by
  let h : Host := .offering [("fish_indent", .tidying)]
  let other : Uri := ⟨"untitled", none, .opaquePath "other", none, none⟩
  let task (uri : Uri) (number : Nat) (trigger : Trigger) : LintTask := ⟨uri, ⟨number⟩, trigger⟩
  obtain ⟨s₁, hs₁, hsaved, run, hrun, s₂, hs₂, s₃, hs₃, hanswer⟩ :
      ∃ s₁, (begun h none ⟨none, [], none⟩).server.receive h
        (.document (.opened draft "echo  hi" 1 "fish")) =
          (s₁, { tasks := [task draft 1 .opened] }) ∧
      (s₁.documents.apply (.opened other "echo  hi" 1 "fish")).Allows
        (.saved draft (some "echo  hi")) ∧
      ∃ run, ((s₁.beginFormat draft).run h).1 = some run ∧
      ∃ s₂, s₁.receive h (.document (.opened other "echo  hi" 1 "fish")) =
        (s₂, { tasks := [task other 2 .opened] }) ∧
      ∃ s₃, s₂.receive h (.document (.saved draft (some "echo  hi"))) =
        (s₃, { tasks := [task draft 3 .saved] }) ∧
      s₃.endFormat run = ([], some [⟨⟨⟨0, 0⟩, ⟨0, 8⟩⟩, "echo hi\n"⟩]) := by
    refine ⟨_, rfl, ?_, _, rfl, _, rfl, _, rfl, ?_⟩
    · intro d hd
      cases hd
      rfl
    · decide +kernel
  have hpast : Run (begun h none ⟨none, [], none⟩) _ _ := .cons (.receive_of_eq hs₁ []) (.nil _)
  have hask := Step.ask_some hrun [.waiting (task draft 1 .opened)]
  have hbetween : Run ⟨s₁, [.waiting (task draft 1 .opened), .formatting run]⟩ _ _ :=
    .cons (.receive_of_eq hs₂ _) <| .cons (.receive_of_eq hs₃ _) <| .nil _
  have horderly : s₁.documents.Orderly
      [.opened other "echo  hi" 1 "fish", .saved draft (some "echo  hi")] :=
    ⟨trivial, hsaved, trivial⟩
  have hstep := Step.answer_of_eq hanswer [.waiting (task draft 1 .opened)]
    [.waiting (task other 2 .opened), .waiting (task draft 3 .saved)]
  obtain ⟨formatter, h', hformatter, -, -, hintime⟩ :=
    formattedInTime_of_answered hpast hask hbetween horderly hstep
  exact ⟨_, _, run, _, _, _, _, _, hpast, hask, hbetween, horderly, hstep,
    ⟨formatter, h', hformatter, hintime⟩, rfl⟩

end ScriptCheck.Server
