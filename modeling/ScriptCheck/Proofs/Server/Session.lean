import ScriptCheck.Proofs.Server.Operations
import ScriptCheck.Server.Session

/-! A session keeps to the steps of a run. It takes what is due in the order of time, but each
thing it does to a server at work is one step or a few, and it tells what these tell. -/

namespace ScriptCheck.Server

variable {x y z : Session} {sent more : List Sent}

def Work.errand : Work → Errand
  | lintWaits task => .waiting task
  | lintRuns run => .linting run
  | formatRuns _ run => .formatting run

def Sent.notice? : Sent → Option Notice
  | notice n => some n
  | reply _ _ => none

def History.notices (history : History) : List Notice := history.flatMap Moment.notices

namespace Session

def errands (jobs : List Job) : List Errand := jobs.map fun job => job.work.errand

def activity (x : Session) : Activity where
  server := x.server
  errands := errands x.jobs

/-- Some steps lead from one session to another, and what was sent is what these steps tell,
with replies between. -/
def Performs (x y : Session) (sent : List Sent) : Prop :=
  ∃ history, Run x.activity history y.activity ∧ sent.filterMap Sent.notice? = history.notices

theorem Performs.of_activity_eq (h : y.activity = x.activity)
    (hsent : sent.filterMap Sent.notice? = []) : Performs x y sent := by
  refine ⟨[], ?_, hsent⟩
  rw [h]
  exact .nil _

theorem Performs.trans (hxy : Performs x y sent) (hyz : Performs y z more) :
    Performs x z (sent ++ more) := by
  obtain ⟨early, hearly, hsent⟩ := hxy
  obtain ⟨late, hlate, hmore⟩ := hyz
  refine ⟨early ++ late, hearly.append hlate, ?_⟩
  rw [List.filterMap_append, hsent, hmore]
  unfold History.notices
  rw [List.flatMap_append]

theorem filterMap_notice? (notices : List Notice) :
    (notices.map Sent.notice).filterMap Sent.notice? = notices := by
  rw [List.filterMap_map]
  exact List.filterMap_some

theorem activity_addTasks (x : Session) (tasks : List LintTask) :
    (x.addTasks tasks).activity = ⟨x.server, errands x.jobs ++ tasks.map .waiting⟩ := by
  unfold addTasks
  induction tasks generalizing x with
  | nil => rw [List.map_nil, List.append_nil]; rfl
  | cons task tasks ih =>
    rw [List.foldl_cons, ih]
    simp [addJob, errands, Work.errand]

theorem run_of_filter (s : Server) (keeps : Job → Bool) (before : List Errand) (jobs : List Job)
    (hkeeps : ∀ job ∈ jobs, keeps job = false → ∃ id run, job.work = .formatRuns id run) :
    ∃ history, Run ⟨s, before ++ errands jobs⟩ history ⟨s, before ++ errands (jobs.filter keeps)⟩ ∧
      history.notices = [] := by
  induction jobs generalizing before with
  | nil => exact ⟨[], .nil _, rfl⟩
  | cons job jobs ih =>
    have hrest := fun job hjob => hkeeps job (List.mem_cons_of_mem _ hjob)
    cases hkept : keeps job with
    | true =>
      obtain ⟨history, hrun, hnotices⟩ := ih (before ++ [job.work.errand]) hrest
      rw [List.append_assoc, List.append_assoc] at hrun
      rw [List.filter_cons_of_pos hkept]
      exact ⟨history, hrun, hnotices⟩
    | false =>
      obtain ⟨id, run, hwork⟩ := hkeeps job List.mem_cons_self hkept
      obtain ⟨history, hrun, hnotices⟩ := ih before hrest
      have hdrop := Step.drop s before (errands jobs) run
      have herrand : errands (job :: jobs) = .formatting run :: errands jobs := by
        unfold errands
        rw [List.map_cons, hwork]
        rfl
      rw [List.filter_cons_of_neg (Bool.eq_false_iff.mp hkept), herrand]
      exact ⟨_, .cons hdrop hrun, hnotices⟩

theorem filterMap_reply (ids : List RequestId) (answer : Except RequestError Reply) :
    (ids.map fun id => Sent.reply id answer).filterMap Sent.notice? = [] := by
  rw [List.filterMap_map]
  exact List.filterMap_eq_nil_iff.mpr fun _ _ => rfl

def givenUp? (meant : RequestId → Bool) (job : Job) : Option RequestId :=
  match job.work with
  | .formatRuns id _ => if meant id then some id else none
  | _ => none

theorem performs_giveUp (x : Session) (meant : RequestId → Bool) :
    Performs x (x.giveUp meant).1 (x.giveUp meant).2 := by
  have hkeeps : ∀ job ∈ x.jobs, (givenUp? meant job).isNone = false →
      ∃ id run, job.work = .formatRuns id run := by
    intro job _ hdropped
    unfold givenUp? at hdropped
    split at hdropped
    · rename_i id run hwork
      exact ⟨id, run, hwork⟩
    · cases hdropped
  obtain ⟨history, hrun, hnotices⟩ :=
    run_of_filter x.server (fun job => (givenUp? meant job).isNone) [] x.jobs hkeeps
  refine ⟨history, hrun, ?_⟩
  rw [hnotices]
  exact filterMap_reply _ _

theorem performs_receive (x : Session) (n : Notification) :
    Performs x (({ x with server := (x.server.receive x.host n).1 } : Session).addTasks
        (x.server.receive x.host n).2.tasks)
      ((x.server.receive x.host n).2.notices.map .notice) := by
  refine ⟨[.received n (x.server.receive x.host n).2], ?_, ?_⟩
  · rw [activity_addTasks]
    exact .cons (.receive x.server (errands x.jobs) x.host n) (.nil _)
  · rw [filterMap_notice?]
    exact (List.append_nil _).symm

theorem performs_notify (x : Session) (method : String) (params : Option Json)
    (hstage : (x.notify method params).1.stage ≠ .ended) :
    Performs x (x.notify method params).1 (x.notify method params).2 := by
  unfold notify at hstage ⊢
  split
  · exact .of_activity_eq rfl rfl
  · rename_i hrunning
    rw [if_neg hrunning] at hstage
    split
    · rename_i hexit
      rw [if_pos hexit] at hstage
      exact absurd rfl hstage
    · split
      · split
        · exact performs_giveUp x _
        · exact .of_activity_eq rfl rfl
      · split
        · exact .of_activity_eq rfl rfl
        · split
          · exact .of_activity_eq rfl rfl
          · exact performs_receive x _

theorem of_paramsOf {decode : Json → Json.Decoded Request} {params : Option Json}
    {request : Request} (h : paramsOf decode params = .ok request) :
    ∃ value, decode value = .ok request := by
  unfold paramsOf at h
  split at h
  · rename_i r hdecode
    cases h
    obtain ⟨value, -, hvalue⟩ := Option.map_eq_some_iff.mp hdecode
    exact ⟨value, hvalue⟩
  · cases h

theorem formatting_of_formatting {value : Json} {request : Request}
    (h : Message.formatting value = .ok request) : ∃ uri, request = .formatting uri := by
  unfold Message.formatting at h
  split at h
  · dsimp only [bind, Except.bind] at h
    split at h
    · cases h
    · split at h
      · cases h
      · cases h
        exact ⟨_, rfl⟩
  · cases h

theorem accept_ne_attach {method : String} {params : Option Json} {request : Request}
    (hstage : x.stage ≠ .fresh) (h : x.accept method params = .ok request) (w : Workspace) :
    request ≠ .attach w := by
  unfold accept at h
  split at h
  · have hrefused : (.error .invalidRequest : Except RequestError Request) = .ok request := h
    cases hrefused
  · split at h
    · cases h
    · split at h
      · cases h
      · split at h
        · cases params with
          | none =>
            have hdown : (.ok .shutdown : Except RequestError Request) = .ok request := h
            cases hdown
            exact Request.noConfusion
          | some value =>
            have hrefused : (.error .invalidParams : Except RequestError Request) = .ok request := h
            cases hrefused
        · split at h
          · obtain ⟨value, hvalue⟩ := of_paramsOf h
            obtain ⟨uri, rfl⟩ := formatting_of_formatting hvalue
            exact Request.noConfusion
          · split at h
            · cases h
            · cases h

theorem activity_addJob (x : Session) (delayMs : Nat) (work : Work) :
    (x.addJob delayMs work).activity = ⟨x.server, errands x.jobs ++ [work.errand]⟩ := by
  unfold addJob activity errands
  rw [List.map_append]
  rfl

theorem performs_formatting (x : Session) (id : RequestId) (uri : Uri) :
    Performs x (x.serve id (.formatting uri)).1 (x.serve id (.formatting uri)).2 := by
  have hask := Step.ask x.server (errands x.jobs) x.host uri
  unfold serve perform
  dsimp only
  cases hr : (x.server.beginFormat uri).run x.host with
  | mk run host =>
    rw [hr] at hask
    cases run with
    | none =>
      rw [Option.toList_none, List.map_nil, List.append_nil] at hask
      exact ⟨_, .cons hask (.nil _), rfl⟩
    | some run =>
      dsimp only
      refine ⟨[.asked uri (some run)], ?_, rfl⟩
      rw [activity_addJob]
      exact .cons hask (.nil _)

theorem performs_request (x : Session) (id : RequestId) (method : String) (params : Option Json)
    (hstage : x.stage ≠ .fresh) :
    Performs x (x.request id method params).1 (x.request id method params).2 := by
  unfold request
  split
  · exact .of_activity_eq rfl rfl
  · split
    · rename_i request haccept
      cases request with
      | attach w => exact absurd rfl (accept_ne_attach hstage haccept w)
      | shutdown => exact .of_activity_eq rfl rfl
      | formatting uri => exact performs_formatting x id uri
    · exact .of_activity_eq rfl rfl

theorem performs_proceed {before after : List Job} (hjobs : x.jobs = before ++ after) (job : Job) :
    ∃ history, Run ⟨x.server, errands (before ++ job :: after)⟩ history
        (x.proceed job.work).1.activity ∧
      (x.proceed job.work).2.filterMap Sent.notice? = history.notices := by
  have herrands : errands (before ++ job :: after) =
      errands before ++ job.work.errand :: errands after := by
    unfold errands
    rw [List.map_append, List.map_cons]
  have hrest : errands x.jobs = errands before ++ errands after := by
    unfold errands
    rw [hjobs, List.map_append]
  rw [herrands]
  cases hwork : job.work with
  | lintWaits task =>
    have hsettle := Step.settle x.server (errands before) (errands after) task
    rw [← hrest] at hsettle
    unfold proceed perform beginLint
    dsimp only
    -- What the session does at once is two steps of a run: the wait ends, and the linter starts.
    cases hcounts : x.server.counts task with
    | false =>
      rw [hcounts, if_neg Bool.false_ne_true, List.append_nil] at hsettle
      exact ⟨_, .cons hsettle (.nil _), rfl⟩
    | true =>
      rw [hcounts, if_pos rfl] at hsettle
      have hstart := Step.start x.server (errands x.jobs) [] x.host task
      rw [if_pos rfl]
      cases hr : (x.server.startLint task).run x.host with
      | mk run host =>
        rw [hr, List.append_nil] at hstart
        cases run with
        | none =>
          rw [Option.toList_none, List.map_nil, List.append_nil] at hstart
          exact ⟨_, .cons hsettle (.cons hstart (.nil _)), rfl⟩
        | some run =>
          dsimp only
          refine ⟨[.settled task true, .started task (some run)], ?_, rfl⟩
          rw [activity_addJob]
          exact .cons hsettle (.cons hstart (.nil _))
  | lintRuns run =>
    have hfinish := Step.finish x.server (errands before) (errands after) run
    rw [← hrest] at hfinish
    refine ⟨[.finished run (x.server.endLint run)], .cons hfinish (.nil _), ?_⟩
    exact (filterMap_notice? _).trans (List.append_nil _).symm
  | formatRuns id run =>
    have hanswer := Step.answer x.server (errands before) (errands after) run
    rw [← hrest] at hanswer
    refine ⟨_, .cons hanswer (.nil _), ?_⟩
    unfold proceed
    dsimp only
    rw [List.filterMap_append, filterMap_notice?]
    rfl

theorem of_earliest? {jobs others : List Job} {job : Job}
    (h : earliest? jobs = some (job, others)) :
    ∃ before after, jobs = before ++ job :: after ∧ others = before ++ after := by
  induction jobs generalizing job others with
  | nil => cases h
  | cons first rest ih =>
    unfold earliest? at h
    split at h
    · rename_i next later hrest
      split at h
      · cases h
        obtain ⟨before, after, hjobs, hothers⟩ := ih hrest
        exact ⟨first :: before, after, congrArg (first :: ·) hjobs, congrArg (first :: ·) hothers⟩
      · cases h
        exact ⟨[], rest, rfl, rfl⟩
    · cases h
      exact ⟨[], rest, rfl, rfl⟩

theorem stage_proceed (x : Session) (work : Work) : (x.proceed work).1.stage = x.stage := by
  cases work with
  | lintWaits task =>
    unfold proceed perform
    dsimp only
    cases (x.server.beginLint task).run x.host with
    | mk run host => cases run <;> rfl
  | lintRuns run => rfl
  | formatRuns id run => rfl

theorem performs_goOn (limit : Option Nat) (enough : List Sent → Bool) (steps : Nat) (x : Session)
    (sent : List Sent) : ∃ more, (goOn limit enough steps x sent).2 = sent ++ more ∧
      Performs x (goOn limit enough steps x sent).1 more ∧
      (goOn limit enough steps x sent).1.stage = x.stage := by
  have hidle (x : Session) (sent : List Sent) :
      ∃ more, sent = sent ++ more ∧ Performs x x more ∧ x.stage = x.stage :=
    ⟨[], (List.append_nil _).symm, .of_activity_eq rfl rfl, rfl⟩
  induction steps generalizing x sent with
  | zero => exact hidle x sent
  | succ steps ih =>
    unfold goOn
    split
    · exact hidle x sent
    · split
      · exact hidle x sent
      · rename_i job others hnext
        split
        · exact hidle x sent
        · obtain ⟨before, after, hjobs, rfl⟩ := of_earliest? hnext
          let waiting : Session := { x with
            jobs := before ++ after, nowMs := max x.nowMs job.dueMs }
          obtain ⟨history, hrun, hnotices⟩ := performs_proceed (x := waiting) rfl job
          have hstage : (waiting.proceed job.work).1.stage = x.stage :=
            stage_proceed waiting job.work
          have hfirst : Performs x (waiting.proceed job.work).1 (waiting.proceed job.work).2 := by
            refine ⟨history, ?_, hnotices⟩
            unfold activity
            rw [hjobs]
            exact hrun
          obtain ⟨more, hsent, hmore, hkept⟩ := ih (waiting.proceed job.work).1
            (sent ++ (waiting.proceed job.work).2)
          refine ⟨(waiting.proceed job.work).2 ++ more, ?_, hfirst.trans hmore, hkept.trans hstage⟩
          rw [← List.append_assoc]
          exact hsent

inductive Input where
  | notification (method : String) (params : Option Json)
  | request (id : RequestId) (method : String) (params : Option Json)
  | awaiting (enough : List Sent → Bool)
  | sleeping (ms : Nat)
  | machine (host : Host)

def take (x : Session) : Input → Session × List Sent
  | .notification method params => x.notify method params
  | .request id method params => x.request id method params
  | .awaiting enough => x.await enough []
  | .sleeping ms => x.sleep ms
  | .machine host => ({ x with host }, [])

def takeAll (x : Session) : List Input → Session × List Sent
  | [] => (x, [])
  | input :: inputs =>
    let (y, sent) := x.take input
    let (z, more) := y.takeAll inputs
    (z, sent ++ more)

/-- How far a session has come, with the notices that were sent. -/
inductive Standing (launchRoot : Option Path) : Session → List Notice → Prop
  | fresh {x : Session} (hstage : x.stage = .fresh) (hserver : x.server = .fresh)
    (hjobs : x.jobs = []) (hroot : x.launchRoot = launchRoot) : Standing launchRoot x []
  | atWork {x : Session} (hstage : x.stage = .ready ∨ x.stage = .shutDown) (h : Host)
    (w : Workspace) (history : History) (hrun : Run (begun h launchRoot w) history x.activity)
    (settling : List Notice) (hsettling : ∀ uri, settling.filter (·.isFor uri) = []) :
    Standing launchRoot x (settling ++ history.notices)
  | ended {x : Session} (hstage : x.stage = .ended) (notices : List Notice) :
    Standing launchRoot x notices

variable {launchRoot : Option Path} {notices : List Notice}

theorem standing_start (host : Host) (launchRoot : Option Path) :
    Standing launchRoot (start host launchRoot) [] :=
  .fresh rfl rfl rfl rfl

theorem Standing.performs (hx : Standing launchRoot x notices) (hfresh : x.stage ≠ .fresh)
    (hxy : Performs x y sent) (hstage : y.stage ≠ .fresh)
    (hended : x.stage = .ended → y.stage = .ended) :
    Standing launchRoot y (notices ++ sent.filterMap Sent.notice?) := by
  cases hx with
  | fresh hstage => exact absurd hstage hfresh
  | ended hx => exact .ended (hended hx) _
  | atWork _ h w history hrun settling hsettling =>
    obtain ⟨later, hlater, hsent⟩ := hxy
    cases hy : y.stage with
    | fresh => exact absurd hy hstage
    | ended => exact .ended hy _
    | _ =>
      have hall := Standing.atWork (by simp [hy]) h w _ (hrun.append hlater) settling hsettling
      unfold History.notices at hall
      rw [List.flatMap_append, ← List.append_assoc] at hall
      rw [hsent]
      exact hall

theorem stage_addTasks (x : Session) (tasks : List LintTask) :
    (x.addTasks tasks).stage = x.stage := by
  unfold addTasks
  induction tasks generalizing x with
  | nil => rfl
  | cons task tasks ih => exact ih _

theorem stage_notify (x : Session) (method : String) (params : Option Json) :
    (x.notify method params).1.stage = x.stage ∨ (x.notify method params).1.stage = .ended := by
  unfold notify
  split
  · exact .inl rfl
  · split
    · exact .inr rfl
    · split
      · split <;> exact .inl rfl
      · split
        · exact .inl rfl
        · split
          · exact .inl rfl
          · exact .inl (stage_addTasks _ _)

theorem stage_request_ne_fresh (x : Session) (id : RequestId) (method : String)
    (params : Option Json) (hstage : x.stage ≠ .fresh) :
    (x.request id method params).1.stage ≠ .fresh := by
  unfold request
  split
  · exact hstage
  · split
    · rename_i request haccept
      cases request with
      | attach w => exact Stage.noConfusion
      | shutdown => exact Stage.noConfusion
      | formatting uri =>
        unfold serve perform
        dsimp only
        cases (x.server.beginFormat uri).run x.host with
        | mk run host => cases run <;> exact hstage
    · dsimp only
      split
      · exact Stage.noConfusion
      · exact hstage

theorem exists_of_bind_eq_ok {ε α β : Type} {m : Except ε α} {f : α → Except ε β} {b : β}
    (h : m >>= f = .ok b) : ∃ a, f a = .ok b := by
  cases m with
  | error e => cases h
  | ok a => exact ⟨a, h⟩

theorem attach_of_attach {value : Json} {request : Request}
    (h : Message.attach value = .ok request) : ∃ w, request = .attach w := by
  unfold Message.attach at h
  obtain ⟨-, h⟩ := exists_of_bind_eq_ok h
  obtain ⟨-, h⟩ := exists_of_bind_eq_ok h
  obtain ⟨-, h⟩ := exists_of_bind_eq_ok h
  obtain ⟨rootUri, h⟩ := exists_of_bind_eq_ok h
  obtain ⟨-, h⟩ := exists_of_bind_eq_ok h
  obtain ⟨-, h⟩ := exists_of_bind_eq_ok h
  obtain ⟨folders, h⟩ := exists_of_bind_eq_ok h
  obtain ⟨-, h⟩ := exists_of_bind_eq_ok h
  obtain ⟨-, h⟩ := exists_of_bind_eq_ok h
  cases h
  exact ⟨_, rfl⟩

theorem attach_of_accept {method : String} {params : Option Json} {request : Request}
    (hstage : x.stage = .fresh) (h : x.accept method params = .ok request) :
    ∃ w, request = .attach w := by
  unfold accept at h
  split at h
  · rw [if_neg (not_not_intro hstage)] at h
    obtain ⟨value, hvalue⟩ := of_paramsOf h
    exact attach_of_attach hvalue
  · split at h
    · cases h
    · cases h

theorem standing_notify_fresh (hx : x.stage = .fresh) (hserver : x.server = .fresh)
    (hjobs : x.jobs = []) (hroot : x.launchRoot = launchRoot) (method : String)
    (params : Option Json) : Standing launchRoot (x.notify method params).1
      ((x.notify method params).2.filterMap Sent.notice?) := by
  have hidle : Standing launchRoot x [] := .fresh hx hserver hjobs hroot
  unfold notify
  split
  · exact hidle
  · split
    · exact .ended rfl _
    · split
      · split
        · unfold giveUp
          rw [hjobs]
          exact .fresh hx hserver rfl hroot
        · exact hidle
      · rw [if_pos (by rw [hx]; exact Stage.noConfusion)]
        exact hidle

theorem standing_attach (hserver : x.server = .fresh) (hjobs : x.jobs = [])
    (hroot : x.launchRoot = launchRoot) (id : RequestId) (w : Workspace) :
    Standing launchRoot (x.serve id (.attach w)).1
      ((x.serve id (.attach w)).2.filterMap Sent.notice?) := by
  let attached := ((x.server.attach x.launchRoot w).run x.host).1
  have hactivity : (x.serve id (.attach w)).1.activity = begun x.host launchRoot w := by
    unfold activity begun
    rw [← hroot, ← hserver]
    exact congrArg (Activity.mk _) (congrArg errands hjobs)
  have hsettling (uri : Uri) : attached.2.filter (·.isFor uri) = [] :=
    applySettings_notices _ w.settings uri
  have hsent : (x.serve id (.attach w)).2.filterMap Sent.notice? = attached.2 ++ [] := by
    show (attached.2.map Sent.notice ++ [_]).filterMap Sent.notice? = _
    rw [List.filterMap_append, filterMap_notice?]
    rfl
  rw [hsent]
  exact .atWork (.inl rfl) x.host w [] (hactivity ▸ .nil _) attached.2 hsettling

theorem standing_request_fresh (hx : x.stage = .fresh) (hserver : x.server = .fresh)
    (hjobs : x.jobs = []) (hroot : x.launchRoot = launchRoot) (id : RequestId) (method : String)
    (params : Option Json) : Standing launchRoot (x.request id method params).1
      ((x.request id method params).2.filterMap Sent.notice?) := by
  unfold request
  split
  · exact .fresh hx hserver hjobs hroot
  · split
    · rename_i request haccept
      obtain ⟨w, rfl⟩ := attach_of_accept hx haccept
      exact standing_attach hserver hjobs hroot id w
    · refine .fresh ?_ hserver hjobs hroot
      dsimp only
      rw [hx, if_neg (by simp)]

theorem standing_take_fresh (hx : x.stage = .fresh) (hserver : x.server = .fresh)
    (hjobs : x.jobs = []) (hroot : x.launchRoot = launchRoot) (input : Input) :
    Standing launchRoot (x.take input).1 ((x.take input).2.filterMap Sent.notice?) := by
  have hsteps : x.stepsLeft = 0 := by
    unfold stepsLeft
    rw [hjobs]
    rfl
  cases input with
  | notification method params => exact standing_notify_fresh hx hserver hjobs hroot method params
  | request id method params => exact standing_request_fresh hx hserver hjobs hroot id method params
  | awaiting enough =>
    unfold take await
    dsimp only
    rw [hsteps]
    exact .fresh hx hserver hjobs hroot
  | sleeping ms =>
    unfold take sleep
    dsimp only
    rw [hsteps]
    exact .fresh hx hserver hjobs hroot
  | machine host => exact .fresh hx hserver hjobs hroot

theorem standing_take (hx : Standing launchRoot x notices) (input : Input) :
    Standing launchRoot (x.take input).1
      (notices ++ (x.take input).2.filterMap Sent.notice?) := by
  by_cases hfresh : x.stage = .fresh
  · cases hx with
    | fresh hstage hserver hjobs hroot =>
      exact standing_take_fresh hstage hserver hjobs hroot input
    | atWork hstage => simp [hfresh] at hstage
    | ended hstage => simp [hfresh] at hstage
  cases input with
  | notification method params =>
    by_cases hended : (x.notify method params).1.stage = .ended
    · exact .ended hended _
    · have hstage := (stage_notify x method params).resolve_right hended
      exact hx.performs hfresh (performs_notify x method params hended) (hstage ▸ hfresh)
        fun h => hstage.trans h
  | request id method params =>
    refine hx.performs hfresh (performs_request x id method params hfresh)
      (stage_request_ne_fresh x id method params hfresh) fun h => ?_
    have hsame : x.request id method params = (x, []) := if_pos h
    show (x.request id method params).1.stage = .ended
    rw [hsame]
    exact h
  | awaiting enough =>
    obtain ⟨more, hsent, hmore, hstage⟩ := performs_goOn none enough x.stepsLeft x []
    have hall := hx.performs hfresh hmore (hstage ▸ hfresh) fun h => hstage.trans h
    rw [List.nil_append] at hsent
    rwa [← hsent] at hall
  | sleeping ms =>
    obtain ⟨more, hsent, hmore, hstage⟩ :=
      performs_goOn (some (x.nowMs + ms)) (fun _ => false) x.stepsLeft x []
    rw [List.nil_append] at hsent
    rw [← hsent] at hmore
    exact hx.performs (y := (x.sleep ms).1) hfresh hmore (hstage ▸ hfresh) fun h => hstage.trans h
  | machine host =>
    have hsame : Performs x { x with host } [] := .of_activity_eq rfl rfl
    exact hx.performs hfresh hsame hfresh id

theorem standing_takeAll (hx : Standing launchRoot x notices) (inputs : List Input) :
    Standing launchRoot (x.takeAll inputs).1
      (notices ++ (x.takeAll inputs).2.filterMap Sent.notice?) := by
  induction inputs generalizing x notices with
  | nil =>
    show Standing launchRoot x (notices ++ [])
    rw [List.append_nil]
    exact hx
  | cons input inputs ih =>
    have hall := ih (standing_take hx input)
    rw [List.append_assoc, ← List.filterMap_append] at hall
    exact hall

/-- A session that is at work has come to where it is by a run, and the notices for documents
that it sent are those of the run. -/
theorem exists_run (host : Host) (launchRoot : Option Path) (inputs : List Input)
    (hattached : ((start host launchRoot).takeAll inputs).1.stage ≠ .fresh)
    (hlasting : ((start host launchRoot).takeAll inputs).1.stage ≠ .ended) :
    ∃ h w history, Run (begun h launchRoot w) history
        ((start host launchRoot).takeAll inputs).1.activity ∧
      ∀ uri, (((start host launchRoot).takeAll inputs).2.filterMap Sent.notice?).filter
        (·.isFor uri) = history.notices.filter (·.isFor uri) := by
  have hall := standing_takeAll (standing_start host launchRoot) inputs
  rw [List.nil_append] at hall
  generalize (start host launchRoot).takeAll inputs = result at hall hattached hlasting ⊢
  obtain ⟨y, sent⟩ := result
  generalize sent.filterMap Sent.notice? = notices at hall ⊢
  cases hall with
  | fresh hfresh => exact absurd hfresh hattached
  | ended hended => exact absurd hended hlasting
  | atWork _ h w history hrun settling hsettling =>
    refine ⟨h, w, history, hrun, fun uri => ?_⟩
    rw [List.filter_append, hsettling uri, List.nil_append]

end Session
end ScriptCheck.Server
