import ScriptCheck.Server.Basic

/-! A session of the server: requests and their replies, the stages from the first request to
the last, and the work that is under way with the time at which each piece of it is due. -/

namespace ScriptCheck.Server

inductive RequestId where
  | number (n : Int)
  | text (s : String)
  | none
deriving DecidableEq, Repr

def RequestId.cancelled? (params : Json) : Option RequestId :=
  match params.get? "id" with
  | some (.int n) => (Json.expectInt32 (.int n)).toOption.map .number
  | some (.str s) => some (.text s)
  | _ => Option.none

inductive RequestError where
  | parseError
  | invalidRequest
  | methodNotFound
  | invalidParams
  | notInitialized
  | cancelled
deriving DecidableEq, Repr

def RequestError.code : RequestError → Int
  | parseError => -32700
  | invalidRequest => -32600
  | methodNotFound => -32601
  | invalidParams => -32602
  | notInitialized => -32002
  | cancelled => -32800

def RequestError.message : RequestError → String
  | parseError => "Parse error"
  | invalidRequest => "Invalid request"
  | methodNotFound => "Method not found"
  | invalidParams => "Invalid params"
  | notInitialized => "Server not initialized"
  | cancelled => "Canceled"

inductive Reply where
  | attached (formats : Bool)
  | done
  | edits (edits : Option (List Editor.Edit))
deriving DecidableEq, Repr

inductive Sent where
  | notice (notice : Notice)
  | reply (id : RequestId) (reply : Except RequestError Reply)

inductive Stage where
  | fresh
  | ready
  | shutDown
  | ended
deriving DecidableEq, Repr

inductive Work where
  | lintWaits (task : LintTask)
  | lintRuns (run : LintRun)
  | formatRuns (id : RequestId) (run : FormatRun)

structure Job where
  dueMs : Nat
  work : Work

structure Session where
  server : Server
  host : Host
  launchRoot : Option Path
  stage : Stage
  nowMs : Nat
  jobs : List Job

namespace Session

def start (host : Host) (launchRoot : Option Path) : Session where
  server := .fresh
  host
  launchRoot
  stage := .fresh
  nowMs := 0
  jobs := []

def perform (x : Session) (action : Action α) : α × Nat × Session :=
  let (a, host) := action.run x.host
  (a, host.clockMs - x.host.clockMs, { x with host })

def addJob (x : Session) (delayMs : Nat) (work : Work) : Session :=
  { x with jobs := x.jobs ++ [⟨x.nowMs + delayMs, work⟩] }

def addTasks (x : Session) (tasks : List LintTask) : Session :=
  tasks.foldl (fun x task => x.addJob x.server.settings.lint.quietMs (.lintWaits task)) x

def giveUp (x : Session) (meant : RequestId → Bool) : Session × List Sent :=
  let request? (job : Job) : Option RequestId := match job.work with
    | .formatRuns id _ => if meant id then some id else none
    | _ => none
  ({ x with jobs := x.jobs.filter fun job => (request? job).isNone },
    (x.jobs.filterMap request?).map fun id => .reply id (.error .cancelled))

def leave (x : Session) : Session × List Sent :=
  let (x, sent) := x.giveUp fun _ => true
  ({ x with stage := .ended, jobs := [] }, sent)

def notify (x : Session) (method : String) (params : Option Json) : Session × List Sent :=
  if x.stage = .ended then (x, [])
  else if method = "exit" then x.leave
  else if method = "$/cancelRequest" then
    match params.bind RequestId.cancelled? with
    | some id => x.giveUp (· = id)
    | none => (x, [])
  else if x.stage ≠ .ready then (x, [])
  else match Message.notification? method params with
    | none => (x, [])
    | some n =>
      let (server, reaction) := x.server.receive x.host n
      (({ x with server }).addTasks reaction.tasks, reaction.notices.map .notice)

def paramsOf (decode : Json → Json.Decoded Request) (params : Option Json) :
    Except RequestError Request :=
  match params.map decode with
  | some (.ok request) => .ok request
  | _ => .error .invalidParams

def accept (x : Session) (method : String) (params : Option Json) : Except RequestError Request := do
  if method = "initialize" then
    if x.stage ≠ .fresh then throw .invalidRequest
    paramsOf Message.attach params
  else if method ∉ ["shutdown", "textDocument/formatting"] ++ Message.idleRequests then
    throw .methodNotFound
  else if x.stage = .fresh then throw .notInitialized
  else if x.stage ≠ .ready then throw .invalidRequest
  else if method = "shutdown" then
    if params.isSome then throw .invalidParams
    pure .shutdown
  else if method = "textDocument/formatting" then paramsOf Message.formatting params
  else if params.isNone then throw .invalidParams
  else throw .methodNotFound

def serve (x : Session) (id : RequestId) : Request → Session × List Sent
  | .attach workspace =>
    let ((server, notices), _, x) := x.perform (x.server.attach x.launchRoot workspace)
    ({ x with server, stage := .ready },
      notices.map .notice ++ [.reply id (.ok (.attached server.settings.format.isEnabled))])
  | .shutdown => ({ x with stage := .shutDown }, [.reply id (.ok .done)])
  | .formatting uri =>
    match x.perform (x.server.beginFormat uri) with
    | (some run, tookMs, x) => (x.addJob tookMs (.formatRuns id run), [])
    | (none, _, x) => (x, [.reply id (.ok (.edits none))])

def request (x : Session) (id : RequestId) (method : String) (params : Option Json) :
    Session × List Sent :=
  if x.stage = .ended then (x, [])
  else match x.accept method params with
    | .ok request => x.serve id request
    | .error e =>
      let refused := { x with
        stage := if method = "shutdown" ∧ x.stage = .ready then .shutDown else x.stage }
      (refused, [.reply id (.error e)])

def proceed (x : Session) : Work → Session × List Sent
  | .lintWaits task =>
    match x.perform (x.server.beginLint task) with
    | (some run, tookMs, x) => (x.addJob tookMs (.lintRuns run), [])
    | (none, _, x) => (x, [])
  | .lintRuns run => (x, (x.server.endLint run).map .notice)
  | .formatRuns id run =>
    let (notices, edits) := x.server.endFormat run
    (x, notices.map .notice ++ [.reply id (.ok (.edits edits))])

def earliest? : List Job → Option (Job × List Job)
  | [] => none
  | job :: rest =>
    match earliest? rest with
    | some (next, others) =>
      if next.dueMs < job.dueMs then some (next, job :: others) else some (job, rest)
    | none => some (job, rest)

def stepsOf : Work → Nat
  | .lintWaits _ => 2
  | _ => 1

def stepsLeft (x : Session) : Nat := x.jobs.foldr (fun job n => stepsOf job.work + n) 0

/-- Goes through what is due in order, until enough was sent or the time is up. -/
def goOn (limit : Option Nat) (enough : List Sent → Bool) :
    Nat → Session → List Sent → Session × List Sent
  | 0, x, sent => (x, sent)
  | steps + 1, x, sent =>
    if enough sent then (x, sent)
    else match earliest? x.jobs with
      | none => (x, sent)
      | some (job, others) =>
        if limit.any (· < job.dueMs) then (x, sent)
        else
          let (x, more) := ({ x with jobs := others, nowMs := max x.nowMs job.dueMs }).proceed job.work
          goOn limit enough steps x (sent ++ more)

def await (x : Session) (enough : List Sent → Bool) (sent : List Sent) : Session × List Sent :=
  goOn none enough x.stepsLeft x sent

def sleep (x : Session) (ms : Nat) : Session × List Sent :=
  let (y, sent) := goOn (some (x.nowMs + ms)) (fun _ => false) x.stepsLeft x []
  ({ y with nowMs := x.nowMs + ms }, sent)

end Session
end ScriptCheck.Server
