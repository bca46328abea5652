import ScriptCheck.Server.Basic

/-! A server at work, with the steps of all that is under way taken in any order. A lint goes
through three of them: its wait ends and it finds whether it still counts, its linter starts on
the document as it is then, and the linter returns. Between any two of these the editor may
tell anything, and other work may go on. -/

namespace ScriptCheck.Server

/-- A piece of work, by how far it has come. -/
inductive Errand where
  | waiting (task : LintTask)
  | admitted (task : LintTask)
  | linting (run : LintRun)
  | formatting (run : FormatRun)

def Errand.task? : Errand → Option LintTask
  | waiting task => some task
  | admitted task => some task
  | linting run => some run.task
  | formatting _ => none

structure Activity where
  server : Server
  errands : List Errand

def begun (h : Host) (launchRoot : Option Path) (w : Workspace) : Activity where
  server := ((fresh.attach launchRoot w).run h).1.1
  errands := []

inductive Moment where
  | received (n : Notification) (reaction : Reaction)
  | settled (task : LintTask) (counts : Bool)
  | started (task : LintTask) (run : Option LintRun)
  | finished (run : LintRun) (notices : List Notice)
  | crashed (run : LintRun)
  | asked (uri : Uri) (run : Option FormatRun)
  | answered (run : FormatRun) (notices : List Notice) (edits : Option (List Editor.Edit))
  | dropped (run : FormatRun)

abbrev History := List Moment

/-- The machine is whatever it is when a step needs it, so that anything may happen to its
files and programs meanwhile. -/
inductive Step : Activity → Moment → Activity → Prop
  | receive (s : Server) (es : List Errand) (h : Host) (n : Notification) :
    Step ⟨s, es⟩ (.received n (s.receive h n).2)
      ⟨(s.receive h n).1, es ++ (s.receive h n).2.tasks.map .waiting⟩
  | settle (s : Server) (before after : List Errand) (task : LintTask) :
    Step ⟨s, before ++ .waiting task :: after⟩ (.settled task (s.counts task))
      ⟨s, before ++ after ++ if s.counts task then [.admitted task] else []⟩
  | start (s : Server) (before after : List Errand) (h : Host) (task : LintTask) :
    Step ⟨s, before ++ .admitted task :: after⟩ (.started task ((s.startLint task).run h).1)
      ⟨s, before ++ after ++ ((s.startLint task).run h).1.toList.map .linting⟩
  | finish (s : Server) (before after : List Errand) (run : LintRun) :
    Step ⟨s, before ++ .linting run :: after⟩ (.finished run (s.endLint run)) ⟨s, before ++ after⟩
  | crash (s : Server) (before after : List Errand) (run : LintRun) :
    Step ⟨s, before ++ .linting run :: after⟩ (.crashed run) ⟨s, before ++ after⟩
  | ask (s : Server) (es : List Errand) (h : Host) (uri : Uri) :
    Step ⟨s, es⟩ (.asked uri ((s.beginFormat uri).run h).1)
      ⟨s, es ++ ((s.beginFormat uri).run h).1.toList.map .formatting⟩
  | answer (s : Server) (before after : List Errand) (run : FormatRun) :
    Step ⟨s, before ++ .formatting run :: after⟩
      (.answered run (s.endFormat run).1 (s.endFormat run).2) ⟨s, before ++ after⟩
  | drop (s : Server) (before after : List Errand) (run : FormatRun) :
    Step ⟨s, before ++ .formatting run :: after⟩ (.dropped run) ⟨s, before ++ after⟩

namespace Step

variable {s t : Server} {h : Host} {task : LintTask}

theorem receive_of_eq {n : Notification} {r : Reaction} (hreceive : s.receive h n = (t, r))
    (es : List Errand) : Step ⟨s, es⟩ (.received n r) ⟨t, es ++ r.tasks.map .waiting⟩ := by
  have hs := Step.receive s es h n
  rw [hreceive] at hs
  exact hs

theorem settle_true (hcounts : s.counts task) (before after : List Errand) :
    Step ⟨s, before ++ .waiting task :: after⟩ (.settled task true)
      ⟨s, before ++ after ++ [.admitted task]⟩ := by
  have hs := Step.settle s before after task
  rw [hcounts] at hs
  exact hs

theorem start_some {run : LintRun} (hrun : ((s.startLint task).run h).1 = some run)
    (before after : List Errand) :
    Step ⟨s, before ++ .admitted task :: after⟩ (.started task (some run))
      ⟨s, before ++ after ++ [.linting run]⟩ := by
  have hs := Step.start s before after h task
  rw [hrun] at hs
  exact hs

theorem ask_some {uri : Uri} {run : FormatRun} (hrun : ((s.beginFormat uri).run h).1 = some run)
    (es : List Errand) : Step ⟨s, es⟩ (.asked uri (some run)) ⟨s, es ++ [.formatting run]⟩ := by
  have hs := Step.ask s es h uri
  rw [hrun] at hs
  exact hs

theorem answer_of_eq {run : FormatRun} {notices : List Notice} {edits : Option (List Editor.Edit)}
    (hanswer : s.endFormat run = (notices, edits)) (before after : List Errand) :
    Step ⟨s, before ++ .formatting run :: after⟩ (.answered run notices edits)
      ⟨s, before ++ after⟩ := by
  have hs := Step.answer s before after run
  rw [hanswer] at hs
  exact hs

end Step

inductive Run : Activity → History → Activity → Prop
  | nil (x : Activity) : Run x [] x
  | cons {x y z : Activity} {m : Moment} {history : History} :
    Step x m y → Run y history z → Run x (m :: history) z

namespace Run

variable {x y z : Activity} {past history : History}

theorem append (hp : Run x past y) (hr : Run y history z) : Run x (past ++ history) z := by
  induction hp with
  | nil => exact hr
  | cons hstep _ ih => exact .cons hstep (ih hr)

theorem split (h : Run x (past ++ history) z) : ∃ y, Run x past y ∧ Run y history z := by
  induction past generalizing x with
  | nil => exact ⟨x, .nil x, h⟩
  | cons m past ih =>
    cases h with
    | cons hstep hrest =>
      obtain ⟨y, hp, hr⟩ := ih hrest
      exact ⟨y, .cons hstep hp, hr⟩

theorem invariant {I : History → Activity → Prop}
    (hstep : ∀ past x m y, I past x → Step x m y → I (past ++ [m]) y)
    (h : Run x history y) (hx : I past x) : I (past ++ history) y := by
  induction h generalizing past with
  | nil => simpa only [List.append_nil] using hx
  | cons hm _ ih =>
    have hnext := ih (hstep _ _ _ _ hx hm)
    simpa only [List.append_assoc, List.singleton_append] using hnext

end Run

def draft : Uri := ⟨"untitled", none, .opaquePath "draft", none, none⟩

end ScriptCheck.Server
