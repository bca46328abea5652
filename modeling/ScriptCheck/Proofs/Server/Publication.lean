import Mathlib.Data.List.Nodup
import ScriptCheck.Proofs.Host.Offering
import ScriptCheck.Proofs.Server.Operations

/-! Who publishes for a document. A lint publishes only while no other lint of its document was
asked for since, nor the document closed, and it does so once. So a document that was closed
stays cleared until it is opened again, and the last word on one that stays open is that of the
lint asked for last. -/

namespace ScriptCheck.Server

open History

variable {past history : History} {x y : Activity} {m : Moment} {uri : Uri} {task : LintTask}

/-- What the state of the work has to do with its history. -/
structure Consistent (past : History) (x : Activity) : Prop where
  tickets : (tasks past).map (·.ticket.number) = List.range' 1 x.server.debouncer.issued
  accounted : ∀ task, (x.errands.filterMap Errand.task?).count task + (ended past).count task =
    (tasks past).count task
  current : ∀ uri, x.server.debouncer.current.get? uri = (due uri past).map LintTask.ticket
  isOpen : ∀ uri, (x.server.documents.get? uri).isSome = leavesOpen uri past
  open_of_due : ∀ uri task, due uri past = some task → leavesOpen uri past = true
  linter : x.server.registry.linter?.isSome
  once : ∀ uri task, (publishers uri past).count (some task) ≤ (ended past).count task
  pending : ∀ uri task, due uri past = some task →
    task ∈ x.errands.filterMap Errand.task? ∨ (∃ run, .crashed run ∈ past ∧ run.task = task) ∨
      (publishers uri past).getLast? = some (some task)

theorem consistent_begun (h : Host) (launchRoot : Option Path) (w : Workspace) :
    Consistent [] (begun h launchRoot w) := by
  obtain ⟨hdocuments, hdebouncer, hlinter⟩ := begun_server h launchRoot w
  refine ⟨?_, ?_, ?_, ?_, ?_, hlinter, ?_, ?_⟩
  · rw [hdebouncer]
    rfl
  · intro task
    rfl
  · intro uri
    rw [hdebouncer]
    rfl
  · intro uri
    rw [hdocuments]
    rfl
  · intro uri task hdue
    cases hdue
  · intro uri task
    exact Nat.le_refl 0
  · intro uri task hdue
    cases hdue

theorem Step.server_cases (hs : Step x m y) :
    (∃ n r, m = .received n r ∧ Received x.server n y.server r) ∨
      (y.server = x.server ∧ m.tasks = [] ∧ ∀ uri, m.closes uri = false) := by
  cases hs with
  | receive s es h n => exact .inl ⟨n, _, rfl, received_receive s h n⟩
  | _ => exact .inr ⟨rfl, rfl, fun _ => rfl⟩

theorem Step.linter? (hs : Step x m y) (hl : x.server.registry.linter?.isSome) :
    y.server.registry.linter?.isSome := by
  cases hs with
  | receive s es h n => exact receive_linter? n hl
  | _ => exact hl

theorem isSome_apply (docs : DocumentStore) (event : DocumentStore.Event) (r : Reaction)
    (uri : Uri) : ((docs.apply event).get? uri).isSome =
      openAfter uri (docs.get? uri).isSome (.received (.document event) r) := by
  cases event with
  | opened u text version language =>
    rw [DocumentStore.apply, DocumentStore.get?_open]
    by_cases hu : uri = u <;> simp [openAfter, Moment.opens, Moment.closes, hu, eq_comm]
  | changed u text version =>
    rw [DocumentStore.apply, DocumentStore.get?_change]
    by_cases hu : uri = u <;> simp [openAfter, Moment.opens, Moment.closes, hu]
  | saved u text =>
    rw [DocumentStore.apply, DocumentStore.get?_save]
    by_cases hu : uri = u <;> simp [openAfter, Moment.opens, Moment.closes, hu]
  | closed u =>
    rw [DocumentStore.apply, DocumentStore.get?_close]
    by_cases hu : uri = u <;> simp [openAfter, Moment.opens, Moment.closes, hu, eq_comm]

theorem Step.isSome_get? (hs : Step x m y) (uri : Uri) :
    (y.server.documents.get? uri).isSome =
      openAfter uri (x.server.documents.get? uri).isSome m := by
  cases hs with
  | receive s es h n =>
    show ((s.receive h n).1.documents.get? uri).isSome = _
    rw [receive_documents]
    cases n with
    | document event => exact isSome_apply s.documents event _ uri
    | _ => rfl
  | _ => rfl

namespace Received

variable {s t : Server} {n : Notification} {r : Reaction}

theorem closes_eq_false (hn : ∀ u, n ≠ .document (.closed u)) (uri : Uri) :
    (Moment.received n r).closes uri = false := by
  unfold Moment.closes
  split
  · rename_i heq
    cases heq
    exact absurd rfl (hn _)
  · rfl

theorem closes_document_closed {u : Uri} (r : Reaction) (hu : uri ≠ u) :
    (Moment.received (.document (.closed u)) r).closes uri = false :=
  decide_eq_false (Ne.symm hu)

theorem dueAfter_asked (hn : ∀ u, n ≠ .document (.closed u)) (d : Option LintTask)
    (task : LintTask) : dueAfter uri d (.received n { tasks := [task] }) =
      if task.uri = uri then some task else d := by
  have hcloses := closes_eq_false hn (r := { tasks := [task] }) uri
  by_cases hu : task.uri = uri
  · rw [if_pos hu]
    exact dueAfter_of_tasksFor hcloses (by simp [Moment.tasksFor, Moment.tasks, hu]) d
  · rw [if_neg hu]
    exact dueAfter_of_quiet hcloses (by simp [Moment.tasksFor, Moment.tasks, hu]) d

theorem issued (hr : Received s n t r) :
    List.range' 1 s.debouncer.issued ++ r.tasks.map (·.ticket.number) =
      List.range' 1 t.debouncer.issued := by
  cases hr with
  | quiet _ hdebouncer htasks _ => simp only [htasks, hdebouncer, List.map_nil, List.append_nil]
  | closed u hdebouncer =>
    simp only [hdebouncer, Debouncer.cancel, List.map_nil, List.append_nil]
  | asked u trigger _ hdebouncer _ =>
    simp only [hdebouncer, Debouncer.issue, Debouncer.next, List.map_cons, List.map_nil,
      List.range'_concat, Nat.one_mul, Nat.add_comm]

theorem current (hr : Received s n t r) {d : Option LintTask}
    (hd : s.debouncer.current.get? uri = d.map LintTask.ticket) :
    t.debouncer.current.get? uri = (dueAfter uri d (.received n r)).map LintTask.ticket := by
  cases hr with
  | quiet hn hdebouncer htasks _ =>
    have htasksFor : (Moment.received n r).tasksFor uri = [] := by
      simp [Moment.tasksFor, Moment.tasks, htasks]
    rw [hdebouncer, dueAfter_of_quiet (closes_eq_false hn uri) htasksFor, hd]
  | closed u hdebouncer =>
    rw [hdebouncer, Debouncer.cancel, Table.get?_erase]
    by_cases hu : uri = u
    · simp [dueAfter, Moment.closes, hu]
    · rw [if_neg hu, dueAfter_of_quiet (closes_document_closed _ hu) rfl, hd]
  | asked u trigger hn hdebouncer _ =>
    rw [hdebouncer, Debouncer.issue, Table.get?_insert]
    rw [dueAfter_asked hn]
    by_cases hu : uri = u
    · rw [if_pos hu, if_pos hu.symm]
      rfl
    · rw [if_neg hu, if_neg (Ne.symm hu), hd]

theorem due_cases (hr : Received s n t r) {d : Option LintTask}
    (hdue : dueAfter uri d (.received n r) = some task) :
    (d = some task ∧ (Moment.received n r).closes uri = false) ∨
      ((t.documents.get? uri).isSome ∧ r.tasks = [task]) := by
  cases hr with
  | quiet hn _ htasks _ =>
    have hcloses := closes_eq_false hn (r := r) uri
    rw [dueAfter_of_quiet hcloses (by simp [Moment.tasksFor, Moment.tasks, htasks])] at hdue
    exact .inl ⟨hdue, hcloses⟩
  | closed u _ =>
    by_cases hu : uri = u
    · simp [dueAfter, Moment.closes, hu] at hdue
    · rw [dueAfter_of_quiet (closes_document_closed _ hu) rfl] at hdue
      exact .inl ⟨hdue, closes_document_closed _ hu⟩
  | asked u trigger hn _ hopen =>
    rw [dueAfter_asked hn] at hdue
    by_cases hu : u = uri
    · rw [if_pos hu, Option.some.injEq] at hdue
      exact .inr ⟨hu ▸ hopen, by rw [hdue]⟩
    · rw [if_neg hu] at hdue
      exact .inl ⟨hdue, closes_eq_false hn uri⟩

end Received

theorem tickets_step (hc : Consistent past x) (hs : Step x m y) :
    (tasks (past ++ [m])).map (·.ticket.number) = List.range' 1 y.server.debouncer.issued := by
  rw [tasks_concat, List.map_append, hc.tickets]
  rcases hs.server_cases with ⟨n, r, rfl, hr⟩ | ⟨hy, htasks, -⟩
  · exact hr.issued
  · rw [hy, htasks, List.map_nil, List.append_nil]

theorem current_step (hc : Consistent past x) (hs : Step x m y) (uri : Uri) :
    y.server.debouncer.current.get? uri = (due uri (past ++ [m])).map LintTask.ticket := by
  rw [due_concat]
  rcases hs.server_cases with ⟨n, r, rfl, hr⟩ | ⟨hy, htasks, hcloses⟩
  · exact hr.current (hc.current uri)
  · rw [hy, dueAfter_of_quiet (hcloses uri) (by simp [Moment.tasksFor, htasks])]
    exact hc.current uri

theorem isOpen_step (hc : Consistent past x) (hs : Step x m y) (uri : Uri) :
    (y.server.documents.get? uri).isSome = leavesOpen uri (past ++ [m]) := by
  rw [hs.isSome_get?, hc.isOpen, leavesOpen_concat]

theorem open_of_due_step (hc : Consistent past x) (hs : Step x m y)
    (hdue : due uri (past ++ [m]) = some task) : leavesOpen uri (past ++ [m]) = true := by
  have hkept (hd : due uri past = some task) (hcloses : m.closes uri = false) :
      leavesOpen uri (past ++ [m]) = true := by
    rw [leavesOpen_concat, hc.open_of_due uri task hd]
    simp [openAfter, hcloses]
  rw [due_concat] at hdue
  rcases hs.server_cases with ⟨n, r, rfl, hr⟩ | ⟨-, htasks, hcloses⟩
  · rcases hr.due_cases hdue with ⟨hd, hcloses⟩ | ⟨hopen, -⟩
    · exact hkept hd hcloses
    · rw [← isOpen_step hc hs]
      exact hopen
  · rw [dueAfter_of_quiet (hcloses uri) (by simp [Moment.tasksFor, htasks])] at hdue
    exact hkept hdue (hcloses uri)

theorem Step.errands_cases (hs : Step x m y) :
    (∃ begun, y.errands = x.errands ++ begun ∧ begun.filterMap Errand.task? = m.tasks ∧
      m.ended = []) ∨
    ∃ before e after kept, x.errands = before ++ e :: after ∧ y.errands = before ++ after ++ kept ∧
      m.tasks = [] ∧ e.task?.toList = kept.filterMap Errand.task? ++ m.ended := by
  cases hs with
  | receive s es h n =>
    refine .inl ⟨_, rfl, ?_, rfl⟩
    rw [List.filterMap_map]
    exact List.filterMap_some
  | settle s before after t =>
    refine .inr ⟨before, .waiting t, after, _, rfl, rfl, rfl, ?_⟩
    cases hcounts : s.counts t <;> rfl
  | start s before after h t =>
    refine .inr ⟨before, .admitted t, after, _, rfl, rfl, rfl, ?_⟩
    cases hrun : ((s.startLint t).run h).1 with
    | none => rfl
    | some run =>
      have htask : run.task = t := task_of_startLint hrun
      subst htask
      rfl
  | finish s before after run =>
    exact .inr ⟨before, .linting run, after, [], rfl, (List.append_nil _).symm, rfl, rfl⟩
  | crash s before after run =>
    exact .inr ⟨before, .linting run, after, [], rfl, (List.append_nil _).symm, rfl, rfl⟩
  | ask s es h u =>
    refine .inl ⟨_, rfl, ?_, rfl⟩
    cases ((s.beginFormat u).run h).1 <;> rfl
  | answer s before after run =>
    exact .inr ⟨before, .formatting run, after, [], rfl, (List.append_nil _).symm, rfl, rfl⟩
  | drop s before after run =>
    exact .inr ⟨before, .formatting run, after, [], rfl, (List.append_nil _).symm, rfl, rfl⟩

theorem accounted_step (hc : Consistent past x) (hs : Step x m y) (task : LintTask) :
    (y.errands.filterMap Errand.task?).count task + (ended (past ++ [m])).count task =
      (tasks (past ++ [m])).count task := by
  have hx := hc.accounted task
  rw [ended_concat, tasks_concat, List.count_append, List.count_append]
  rcases hs.errands_cases with ⟨begun, hy, htasks, hended⟩ |
    ⟨before, e, after, kept, hbefore, hy, htasks, hkept⟩
  · rw [hy, List.filterMap_append, List.count_append, htasks, hended, List.count_nil]
    omega
  · have hcount := congrArg (List.count task) hkept
    have hcons : (e :: after).filterMap Errand.task? =
        e.task?.toList ++ after.filterMap Errand.task? := by
      cases he : e.task? <;> simp [he]
    rw [hbefore, List.filterMap_append, hcons, List.count_append, List.count_append] at hx
    rw [List.count_append] at hcount
    rw [hy, htasks, List.filterMap_append, List.filterMap_append, List.count_append,
      List.count_append, List.count_nil]
    omega

namespace Consistent

theorem eq_of_ticket (hc : Consistent past x) {t : LintTask} (htask : task ∈ tasks past)
    (ht : t ∈ tasks past) (h : t.ticket = task.ticket) : t = task := by
  have hnodup : ((tasks past).map (·.ticket.number)).Nodup := by
    rw [hc.tickets]
    exact List.nodup_range'
  exact List.inj_on_of_nodup_map hnodup ht htask (congrArg Ticket.number h)

theorem mem_tasks (hc : Consistent past x) (h : task ∈ x.errands.filterMap Errand.task?) :
    task ∈ tasks past := by
  have hpos := List.count_pos_iff.mpr h
  have hsum := hc.accounted task
  exact List.count_pos_iff.mp (by omega)

theorem counts_of_due (hc : Consistent past x) (hdue : due uri past = some task) :
    x.server.counts task := by
  rw [counts_iff, (mem_tasks_of_due hdue).2, hc.current, hdue]
  rfl

theorem due_of_counts (hc : Consistent past x) (htask : task ∈ tasks past)
    (hcounts : x.server.counts task) : due task.uri past = some task := by
  rw [counts_iff, hc.current] at hcounts
  obtain ⟨t, hdue, hticket⟩ := Option.map_eq_some_iff.mp hcounts
  rw [hdue, hc.eq_of_ticket htask (mem_tasks_of_due hdue).1 hticket]

theorem due_of_publisher (hc : Consistent past x) (hs : Step x m y)
    (hp : some task ∈ m.publishers uri) : due uri past = some task := by
  cases hs with
  | finish s before after run =>
    rw [publishers_finished] at hp
    split at hp
    · rename_i hcond
      obtain ⟨hcounts, rfl⟩ := hcond
      rw [Option.some.inj (List.mem_singleton.mp hp)]
      refine hc.due_of_counts (hc.mem_tasks ?_) hcounts
      simp [Errand.task?]
    · cases hp
  | answer s before after run => simp [publishers_answered] at hp
  | _ => simp [Moment.publishers, Moment.notices, Moment.author?] at hp

end Consistent

theorem Step.closes_of_publisher (hs : Step x m y) (hp : none ∈ m.publishers uri) :
    m.closes uri = true ∧ (x.server.documents.get? uri).isSome := by
  cases hs with
  | receive s es h n =>
    have hr := received_receive s h n
    generalize (s.receive h n).1 = t at hr
    generalize (s.receive h n).2 = r at hr hp
    cases hr with
    | quiet _ _ _ hnotices => simp [Moment.publishers, Moment.notices, hnotices] at hp
    | asked u trigger => simp [Moment.publishers, Moment.notices] at hp
    | closed u _ =>
      by_cases hopen : (s.documents.get? u).isSome
      · by_cases hu : u = uri
        · exact ⟨decide_eq_true hu, hu ▸ hopen⟩
        · simp [Moment.publishers, Moment.notices, Notice.isFor, hopen, hu] at hp
      · simp [Moment.publishers, Moment.notices, hopen] at hp
  | finish s before after run =>
    rw [publishers_finished] at hp
    split at hp <;> simp at hp
  | answer s before after run => simp [publishers_answered] at hp
  | _ => simp [Moment.publishers, Moment.notices] at hp

theorem Step.count_publishers_le (hs : Step x m y) (uri : Uri) (task : LintTask) :
    (m.publishers uri).count (some task) ≤ m.ended.count task := by
  cases hs with
  | receive s es h n =>
    have hnone : some task ∉ (Moment.received n (s.receive h n).2).publishers uri := by
      simp [Moment.publishers, Moment.author?]
    rw [List.count_eq_zero.mpr hnone]
    exact Nat.zero_le _
  | finish s before after run =>
    rw [publishers_finished]
    split
    · simp [Moment.ended, List.count_cons]
    · exact Nat.zero_le _
  | answer s before after run =>
    rw [publishers_answered]
    exact Nat.zero_le _
  | _ => exact Nat.zero_le _

theorem once_step (hc : Consistent past x) (hs : Step x m y) (uri : Uri) (task : LintTask) :
    (publishers uri (past ++ [m])).count (some task) ≤ (ended (past ++ [m])).count task := by
  rw [publishers_concat, ended_concat, List.count_append, List.count_append]
  exact Nat.add_le_add (hc.once uri task) (hs.count_publishers_le uri task)

theorem Consistent.publishers_of_ended (hc : Consistent past x) (hs : Step x m y)
    (hdue : due uri past = some task) (hended : task ∈ m.ended) :
    (∃ run, m = .crashed run ∧ run.task = task) ∨ m.publishers uri = [some task] := by
  have hcounts := hc.counts_of_due hdue
  obtain ⟨-, huri⟩ := mem_tasks_of_due hdue
  cases hs with
  | settle s before after t =>
    by_cases ht : s.counts t
    · simp [Moment.ended, ht] at hended
    · simp only [Moment.ended, ht] at hended
      rw [List.mem_singleton.mp hended] at hcounts
      exact absurd hcounts ht
  | start s before after h t =>
    have hopen : (s.documents.get? uri).isSome := by
      rw [hc.isOpen, hc.open_of_due uri task hdue]
    by_cases ht : t = task
    · have hsome := isSome_startLint (h := h) t (by rw [ht, huri]; exact hopen) hc.linter
      simp [Moment.ended, hsome] at hended
    · cases hrun : ((s.startLint t).run h).1 with
      | none => simp [Moment.ended, hrun, Ne.symm ht] at hended
      | some run => simp [Moment.ended, hrun] at hended
  | finish s before after run =>
    have htask : task = run.task := List.mem_singleton.mp hended
    subst htask
    right
    rw [publishers_finished, if_pos ⟨hcounts, huri⟩]
  | crash s before after run => exact .inl ⟨run, rfl, (List.mem_singleton.mp hended).symm⟩
  | _ => cases hended

theorem Step.exists_of_mem_tasks (hs : Step x m y) (h : task ∈ m.tasks) :
    ∃ n r, m = .received n r ∧ r.tasks = [task] := by
  rcases hs.server_cases with ⟨n, r, rfl, hr⟩ | ⟨-, htasks, -⟩
  · refine ⟨n, r, rfl, ?_⟩
    cases hr with
    | quiet _ _ htasks _ => simp [Moment.tasks, htasks] at h
    | closed u _ => simp [Moment.tasks] at h
    | asked u trigger _ _ _ => rw [List.mem_singleton.mp h]
  · simp [htasks] at h

theorem pending_step (hc : Consistent past x) (hs : Step x m y)
    (hdue : due uri (past ++ [m]) = some task) :
    task ∈ y.errands.filterMap Errand.task? ∨
      (∃ run, .crashed run ∈ past ++ [m] ∧ run.task = task) ∨
      (publishers uri (past ++ [m])).getLast? = some (some task) := by
  have hx := hc.accounted task
  have hy := accounted_step hc hs task
  rw [ended_concat, tasks_concat, List.count_append, List.count_append] at hy
  have hbusy (hpos : 0 < (x.errands.filterMap Errand.task?).count task + m.tasks.count task) :
      task ∈ y.errands.filterMap Errand.task? ∨ task ∈ m.ended := by
    rw [← List.count_pos_iff, ← List.count_pos_iff]
    omega
  by_cases hkept : due uri past = some task ∧ m.closes uri = false
  · obtain ⟨hd, hcloses⟩ := hkept
    have hauthors : ∀ a ∈ m.publishers uri, a = some task := by
      intro a ha
      cases a with
      | none =>
        rw [(hs.closes_of_publisher ha).1] at hcloses
        cases hcloses
      | some t => rw [← hc.due_of_publisher hs ha, hd]
    rcases hc.pending uri task hd with hmem | ⟨run, hrun, htask⟩ | hlast
    · rcases hbusy (Nat.add_pos_left (List.count_pos_iff.mpr hmem) _) with hmem | hended
      · exact .inl hmem
      · rcases hc.publishers_of_ended hs hd hended with ⟨run, rfl, htask⟩ | hpub
        · exact .inr (.inl ⟨run, by simp, htask⟩)
        · right; right
          rw [publishers_concat, hpub, List.getLast?_concat]
    · exact .inr (.inl ⟨run, List.mem_append_left _ hrun, htask⟩)
    · right; right
      rw [publishers_concat, List.getLast?_append, hlast]
      cases hpub : (m.publishers uri).getLast? with
      | none => rfl
      | some a => rw [hauthors a (List.mem_of_getLast? hpub), Option.some_or]
  · left
    rw [due_concat] at hdue
    have hasked : task ∈ m.tasks := by
      rcases hs.server_cases with ⟨n, r, rfl, hr⟩ | ⟨-, htasks, hcloses⟩
      · rcases hr.due_cases hdue with hd | ⟨-, hr⟩
        · exact absurd hd hkept
        · simp [Moment.tasks, hr]
      · rw [dueAfter_of_quiet (hcloses uri) (by simp [Moment.tasksFor, htasks])] at hdue
        exact absurd ⟨hdue, hcloses uri⟩ hkept
    refine (hbusy (Nat.add_pos_right _ (List.count_pos_iff.mpr hasked))).resolve_right ?_
    obtain ⟨n, r, rfl, -⟩ := hs.exists_of_mem_tasks hasked
    simp [Moment.ended]

theorem Consistent.step (hc : Consistent past x) (hs : Step x m y) :
    Consistent (past ++ [m]) y where
  tickets := tickets_step hc hs
  accounted := accounted_step hc hs
  current := current_step hc hs
  isOpen := isOpen_step hc hs
  open_of_due := fun _ _ => open_of_due_step hc hs
  linter := hs.linter? hc.linter
  once := once_step hc hs
  pending := fun _ _ => pending_step hc hs

variable {h : Host} {launchRoot : Option Path} {w : Workspace}

theorem Run.consistent (hrun : Run (begun h launchRoot w) history x) : Consistent history x :=
  hrun.invariant (I := Consistent) (fun _ _ _ _ hc hs => hc.step hs)
    (consistent_begun h launchRoot w)

theorem Run.step_at (hrun : Run (begun h launchRoot w) (past ++ m :: history) x) :
    ∃ y z, Consistent past y ∧ Step y m z := by
  obtain ⟨y, hpast, hrest⟩ := hrun.split
  cases hrest with
  | cons hs _ => exact ⟨y, _, hpast.consistent, hs⟩

theorem Consistent.open_of_publisher (hc : Consistent past x) (hs : Step x m y)
    {a : Option LintTask} (hp : a ∈ m.publishers uri) : leavesOpen uri past = true := by
  cases a with
  | none => rw [← hc.isOpen]; exact (hs.closes_of_publisher hp).2
  | some t => exact hc.open_of_due uri t (hc.due_of_publisher hs hp)

/-- Publications for documents, as they are in every history `history` that ends with the work
`x` under way. -/
structure PublishedInTurn (history : History) (x : Activity) : Prop where
  distinct : (tasks history).Nodup
  latest : ∀ before m after uri task, history = before ++ m :: after →
    some task ∈ m.publishers uri → task.uri = uri ∧
      ∃ past n r since, before = past ++ .received n r :: since ∧ r.tasks = [task] ∧
        ∀ e ∈ since, e.tasksFor uri = [] ∧ ¬ e.closes uri
  once : ∀ uri task, (publishers uri history).count (some task) ≤ 1
  cleared : ∀ uri early opening opened r quiet late,
    history = early ++ opening :: opened ++ .received (.document (.closed uri)) r :: quiet ++ late →
    opening.opens uri → (∀ e ∈ opened, ¬ e.closes uri) → (∀ e ∈ quiet, ¬ e.opens uri) →
      r.notices = [.publish uri [] none] ∧ publishers uri quiet = []
  last : ∀ uri early opening opened task, history = early ++ opening :: opened →
    opening.opens uri → (∀ e ∈ opened, ¬ e.closes uri) →
    (tasksFor uri (opening :: opened)).getLast? = some task →
    (∀ run, .crashed run ∈ history → run.task ≠ task) → (∀ e ∈ x.errands, e.task? ≠ some task) →
      (publishers uri history).getLast? = some (some task)

theorem publishers_cleared {early opened quiet late : History} {opening : Moment} {r : Reaction}
    (hrun : Run (begun h launchRoot w) (early ++ opening :: opened ++
      .received (.document (.closed uri)) r :: quiet ++ late) x)
    (hquiet : ∀ e ∈ quiet, ¬ e.opens uri) : publishers uri quiet = [] := by
  refine List.flatMap_eq_nil_iff.mpr fun e he => List.eq_nil_iff_forall_not_mem.mpr fun a ha => ?_
  obtain ⟨q, q', rfl⟩ := List.append_of_mem he
  have hpath : early ++ opening :: opened ++ .received (.document (.closed uri)) r ::
      (q ++ e :: q') ++ late = (early ++ opening :: opened) ++
        .received (.document (.closed uri)) r :: q ++ e :: (q' ++ late) := by simp
  rw [hpath] at hrun
  obtain ⟨y, z, hc, hs⟩ := hrun.step_at
  have hopen := hc.open_of_publisher hs ha
  have hq : ∀ e ∈ q, e.opens uri = false := fun e he => by
    simpa using hquiet e (List.mem_append_left _ he)
  rw [not_leavesOpen_of_closes (Moment.closes_closed uri r) rfl hq] at hopen
  cases hopen

theorem publishedInTurn_of_run (hrun : Run (begun h launchRoot w) history x) :
    PublishedInTurn history x := by
  have hc := hrun.consistent
  have hdistinct : (tasks history).Nodup := by
    refine List.Nodup.of_map (·.ticket.number) ?_
    rw [hc.tickets]
    exact List.nodup_range'
  refine ⟨hdistinct, ?_, ?_, ?_, ?_⟩
  · rintro before m after uri task rfl hp
    obtain ⟨y, z, hy, hs⟩ := hrun.step_at
    obtain ⟨past, e, since, rfl, htask, hsince⟩ := exists_of_due (hy.due_of_publisher hs hp)
    obtain ⟨hmem, huri⟩ := List.mem_filter.mp htask
    rw [List.append_assoc, List.cons_append] at hrun
    obtain ⟨_, _, _, hasked⟩ := hrun.step_at
    obtain ⟨n, r, rfl, hr⟩ := hasked.exists_of_mem_tasks hmem
    refine ⟨by simpa using huri, past, n, r, since, rfl, hr, fun e he => ?_⟩
    simpa using hsince e he
  · intro uri task
    have hle := hc.once uri task
    have hsum := hc.accounted task
    have hone := List.nodup_iff_count_le_one.mp hdistinct task
    omega
  · rintro uri early opening opened r quiet late rfl hopening hopened hquiet
    refine ⟨?_, publishers_cleared hrun hquiet⟩
    rw [List.append_assoc, List.cons_append] at hrun
    obtain ⟨y, z, hy, hs⟩ := hrun.step_at
    have hopen : (y.server.documents.get? uri).isSome := by
      rw [hy.isOpen, leavesOpen_of_opens hopening fun e he => by simpa using hopened e he]
    cases hs with
    | receive s es h n => exact if_pos hopen
  · rintro uri early opening opened task rfl hopening hopened hlast hcrash hended
    have hcloses : ∀ e ∈ opening :: opened, e.closes uri = false := by
      intro e he
      rcases List.mem_cons.mp he with rfl | he
      · exact Moment.closes_eq_false_of_opens hopening
      · simpa using hopened e he
    rcases hc.pending uri task (due_of_getLast? hcloses hlast) with hmem | ⟨run, hrun, htask⟩ | hpub
    · obtain ⟨e, he, htask⟩ := List.mem_filterMap.mp hmem
      exact absurd htask (hended e he)
    · exact absurd htask (hcrash run hrun)
    · exact hpub

theorem publishedInTurn_superseded :
    ∃ history x,
      Run (begun (.offering [("fish", Program.complaining)]) none ⟨none, [], none⟩) history x ∧
      PublishedInTurn history x ∧ publishers draft history = [some ⟨draft, ⟨2⟩, .saved⟩, none] := by
  let h : Host := .offering [("fish", Program.complaining)]
  let first : LintTask := ⟨draft, ⟨1⟩, .opened⟩
  let second : LintTask := ⟨draft, ⟨2⟩, .saved⟩
  obtain ⟨s₁, hs₁, hcounts₁, hstart₁⟩ : ∃ s₁, (begun h none ⟨none, [], none⟩).server.receive h
      (.document (.opened draft "if" 1 "fish")) = (s₁, { tasks := [first] }) ∧
        s₁.counts first ∧ ((s₁.startLint first).run h).1.isSome :=
    ⟨_, rfl, rfl, isSome_startLint first rfl rfl⟩
  obtain ⟨s₂, hs₂, hcounts₂, hdropped, hstart₂, hclosed⟩ : ∃ s₂, s₁.receive h
      (.document (.saved draft none)) = (s₂, { tasks := [second] }) ∧
        s₂.counts second ∧ s₂.counts first = false ∧ ((s₂.startLint second).run h).1.isSome ∧
        (s₂.receive h (.document (.closed draft))).2 = { notices := [.publish draft [] none] } := by
    rw [show s₁ = _ from (congrArg Prod.fst hs₁).symm]
    exact ⟨_, rfl, rfl, rfl, isSome_startLint second rfl rfl, rfl⟩
  obtain ⟨run₁, hrun₁⟩ := Option.isSome_iff_exists.mp hstart₁
  obtain ⟨run₂, hrun₂⟩ := Option.isSome_iff_exists.mp hstart₂
  have hrun : Run (begun h none ⟨none, [], none⟩) _ _ :=
    .cons (.receive_of_eq hs₁ []) <| .cons (.settle_true hcounts₁ [] []) <|
    .cons (.start_some hrun₁ [] []) <| .cons (.receive_of_eq hs₂ [.linting run₁]) <|
    .cons (.settle_true hcounts₂ [.linting run₁] []) <|
    .cons (.finish s₂ [] [.admitted second] run₁) <| .cons (.start_some hrun₂ [] []) <|
    .cons (.finish s₂ [] [] run₂) <| .cons (.receive s₂ [] h (.document (.closed draft))) <|
    .nil _
  refine ⟨_, _, hrun, publishedInTurn_of_run hrun, ?_⟩
  have htask₁ : run₁.task = first := task_of_startLint hrun₁
  have htask₂ : run₂.task = second := task_of_startLint hrun₂
  simp only [publishers, List.flatMap_cons, publishers_finished, htask₁, htask₂, hcounts₂,
    hdropped, hclosed]
  rfl
end ScriptCheck.Server
