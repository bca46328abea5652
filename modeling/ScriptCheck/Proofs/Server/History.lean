import Mathlib.Data.List.Induction
import ScriptCheck.Proofs.Server.Run

/-! What a history tells about one document: the lints asked for, who published, which lint is
due, and whether the document is open. The last two are read moment by moment, and so go along
with the steps of a run. -/

namespace ScriptCheck.Server

def Notice.isFor (uri : Uri) : Notice → Bool
  | publish u _ _ => u = uri
  | _ => false

namespace Moment

def tasks : Moment → List LintTask
  | received _ reaction => reaction.tasks
  | _ => []

def notices : Moment → List Notice
  | received _ reaction => reaction.notices
  | finished _ notices => notices
  | answered _ notices _ => notices
  | _ => []

def ended : Moment → List LintTask
  | settled task counts => if counts then [] else [task]
  | started task run => if run.isSome then [] else [task]
  | finished run _ => [run.task]
  | crashed run => [run.task]
  | _ => []

def opens (uri : Uri) : Moment → Bool
  | received (.document (.opened u ..)) _ => u = uri
  | _ => false

def closes (uri : Uri) : Moment → Bool
  | received (.document (.closed u)) _ => u = uri
  | _ => false

def author? : Moment → Option LintTask
  | finished run _ => some run.task
  | _ => none

def tasksFor (uri : Uri) (m : Moment) : List LintTask := m.tasks.filter (·.uri = uri)

theorem closes_closed (uri : Uri) (r : Reaction) :
    (received (.document (.closed uri)) r).closes uri = true := decide_eq_true rfl

theorem closes_eq_false_of_opens {uri : Uri} {m : Moment} (h : m.opens uri) :
    m.closes uri = false := by
  unfold opens at h
  split at h
  · rfl
  · cases h

def publishers (uri : Uri) (m : Moment) : List (Option LintTask) :=
  (m.notices.filter (·.isFor uri)).map fun _ => m.author?

end Moment

namespace History

def tasks (history : History) : List LintTask := history.flatMap Moment.tasks

def ended (history : History) : List LintTask := history.flatMap Moment.ended

def tasksFor (uri : Uri) (history : History) : List LintTask :=
  history.flatMap (Moment.tasksFor uri)

def publishers (uri : Uri) (history : History) : List (Option LintTask) :=
  history.flatMap (Moment.publishers uri)

def dueAfter (uri : Uri) (due : Option LintTask) (m : Moment) : Option LintTask :=
  if m.closes uri then none else (m.tasksFor uri).getLast?.or due

/-- The lint of a document that was asked for last, unless the document was closed since. -/
def due (uri : Uri) (history : History) : Option LintTask := history.foldl (dueAfter uri) none

def openAfter (uri : Uri) (isOpen : Bool) (m : Moment) : Bool :=
  if m.opens uri then true else if m.closes uri then false else isOpen

def leavesOpen (uri : Uri) (history : History) : Bool := history.foldl (openAfter uri) false

variable {uri : Uri} {past late : History} {m : Moment} {task : LintTask}

theorem tasks_concat : tasks (past ++ [m]) = tasks past ++ m.tasks := by simp [tasks]

theorem ended_concat : ended (past ++ [m]) = ended past ++ m.ended := by simp [ended]

theorem publishers_concat :
    publishers uri (past ++ [m]) = publishers uri past ++ m.publishers uri := by
  simp [publishers]

theorem due_concat : due uri (past ++ [m]) = dueAfter uri (due uri past) m := by
  simp [due, List.foldl_append]

theorem leavesOpen_concat :
    leavesOpen uri (past ++ [m]) = openAfter uri (leavesOpen uri past) m := by
  simp [leavesOpen, List.foldl_append]

theorem dueAfter_of_tasksFor (hclose : m.closes uri = false) (htasks : m.tasksFor uri = [task])
    (d : Option LintTask) : dueAfter uri d m = some task := by
  simp [dueAfter, hclose, htasks]

theorem dueAfter_of_quiet (hclose : m.closes uri = false) (htasks : m.tasksFor uri = [])
    (d : Option LintTask) : dueAfter uri d m = d := by
  simp [dueAfter, hclose, htasks]

theorem foldl_dueAfter (d : Option LintTask) (h : ∀ e ∈ late, e.closes uri = false) :
    late.foldl (dueAfter uri) d = (tasksFor uri late).getLast?.or d := by
  induction late generalizing d with
  | nil => simp [tasksFor]
  | cons e late ih =>
    have hclose : e.closes uri = false := h e List.mem_cons_self
    have hrest := ih (dueAfter uri d e) fun m hm => h m (List.mem_cons_of_mem _ hm)
    rw [List.foldl_cons, hrest]
    simp only [dueAfter, hclose, tasksFor, List.flatMap_cons, List.getLast?_append,
      Option.or_assoc, Bool.false_eq_true, if_false]

theorem due_of_getLast? (hlate : ∀ e ∈ late, e.closes uri = false)
    (hlast : (tasksFor uri late).getLast? = some task) : due uri (past ++ late) = some task := by
  unfold due
  rw [List.foldl_append, foldl_dueAfter _ hlate, hlast, Option.some_or]

theorem exists_of_due (h : due uri past = some task) :
    ∃ before e since, past = before ++ e :: since ∧ task ∈ e.tasksFor uri ∧
      ∀ m ∈ since, m.tasksFor uri = [] ∧ m.closes uri = false := by
  induction past using List.reverseRecOn with
  | nil => simp [due] at h
  | append_singleton past m ih =>
    rw [due_concat, dueAfter] at h
    split at h
    · cases h
    · rename_i hclose
      have hquiet : m.closes uri = false := by simpa using hclose
      cases hlast : (m.tasksFor uri).getLast? with
      | some t =>
        rw [hlast, Option.some_or, Option.some.injEq] at h
        subst h
        exact ⟨past, m, [], rfl, List.mem_of_getLast? hlast, by simp⟩
      | none =>
        rw [hlast, Option.none_or] at h
        obtain ⟨before, e, since, rfl, hmem, hsince⟩ := ih h
        have hnone : m.tasksFor uri = [] := List.getLast?_eq_none_iff.mp hlast
        refine ⟨before, e, since ++ [m], by simp, hmem, ?_⟩
        intro m' hm'
        rcases List.mem_append.mp hm' with hm' | hm'
        · exact hsince m' hm'
        · rw [List.mem_singleton.mp hm']
          exact ⟨hnone, hquiet⟩

theorem mem_tasks_of_due (h : due uri past = some task) : task ∈ tasks past ∧ task.uri = uri := by
  obtain ⟨before, e, since, rfl, hmem, -⟩ := exists_of_due h
  obtain ⟨htask, huri⟩ := List.mem_filter.mp hmem
  refine ⟨List.mem_flatMap.mpr ⟨e, by simp, htask⟩, by simpa using huri⟩

theorem foldl_openAfter_of_not_opens {b : Bool} (h : ∀ e ∈ late, e.opens uri = false)
    (hb : b = false) : late.foldl (openAfter uri) b = false := by
  induction late generalizing b with
  | nil => exact hb
  | cons e late ih =>
    have hopens : e.opens uri = false := h e List.mem_cons_self
    refine ih (fun m hm => h m (List.mem_cons_of_mem _ hm)) ?_
    simp [openAfter, hopens, hb]

theorem foldl_openAfter_of_not_closes {b : Bool} (h : ∀ e ∈ late, e.closes uri = false)
    (hb : b = true) : late.foldl (openAfter uri) b = true := by
  induction late generalizing b with
  | nil => exact hb
  | cons e late ih =>
    have hcloses : e.closes uri = false := h e List.mem_cons_self
    refine ih (fun m hm => h m (List.mem_cons_of_mem _ hm)) ?_
    simp [openAfter, hcloses, hb]

theorem leavesOpen_of_opens (hopens : m.opens uri) (h : ∀ e ∈ late, e.closes uri = false) :
    leavesOpen uri (past ++ m :: late) = true := by
  unfold leavesOpen
  rw [List.foldl_append, List.foldl_cons]
  exact foldl_openAfter_of_not_closes h (by simp [openAfter, hopens])

theorem not_leavesOpen_of_closes (hcloses : m.closes uri) (hopens : m.opens uri = false)
    (h : ∀ e ∈ late, e.opens uri = false) : leavesOpen uri (past ++ m :: late) = false := by
  unfold leavesOpen
  rw [List.foldl_append, List.foldl_cons]
  exact foldl_openAfter_of_not_opens h (by simp [openAfter, hopens, hcloses])

end History
end ScriptCheck.Server
