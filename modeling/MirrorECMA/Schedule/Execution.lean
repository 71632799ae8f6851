import MirrorECMA.Machine.Run
import MirrorECMA.Schedule.Data

namespace Mirror.Schedule

open ECMA

inductive ScheduleOutcome where
  | completed
  | invalid_schedule
  | incompatible_identity
  | cancelled
  | timed_out
  | unexpected_checkpoint
  | uncontrolled_actor
  | application_failed
  | observation_failed
  | resource_failed
  deriving DecidableEq

inductive ScheduleCleanup where
  | not_started
  | confirmed
  | incomplete
  | teardown_failed
  deriving DecidableEq

inductive Phase where
  | starting
  | parked
  | running
  | finishing
  | finished
  deriving DecidableEq

structure SchedulePolicy where
  maxActors : Nat := 64
  maxSteps : Nat := 65536
  executionTimeoutMs : Nat := 2000
  cleanupTimeoutMs : Nat := 1000

structure WorkerScheduleAdapter where
  identity : ScheduleIdentity
  actors : List ScheduleActor
  checkpoints : List JsString

/-- What the controller posts to a worker. -/
inductive Post where
  | cancel
  | permit
  | completionAck
  | reply (id : Nat) (result : Except JsString Json)

/-- What a worker posts, with `none` for a field of another type; an input is what `scheduleData` makes of it. -/
inductive WorkerMessage where
  | ready (threadId : Option Nat)
  | arrival (checkpoint : Option JsString)
  | finished
  | failure (error : Option JsString)
  | request (id : Option Nat) (input : Except JsString Json)
  | unknown
  | invalid

/-- `worker` is the thread of the actor's worker, and `requestPending` the id of the request that is being answered. -/
structure Actor where
  declaration : ScheduleActor
  phase : Phase := .starting
  checkpoint : JsString := js "$start"
  worker : Option Nat := none
  port : Bool := false
  threadId : Option Nat := none
  exited : Bool := false
  reportedFinish : Bool := false
  requestPending : Option Nat := none
  requestId : Nat := 0

inductive EventKind where
  | permit
  | arrival
  deriving DecidableEq

structure Event where
  ordinal : Nat
  kind : EventKind
  step : Nat
  actor : JsString
  operation : JsString
  checkpoint : JsString

structure Observation where
  afterSteps : Nat
  state : Json

/-- What a factory returns: whether it has an observer, a teardown and an array of workers; its workers, with whether the
module of each is a file URL; and whether it answers requests. -/
structure Program where
  callable : Bool
  workers : List (JsString × Bool)
  request : Bool

/-- The operation under way. In a wait, the answer of `waitUntil` once it has been given. -/
inductive Task where
  | idle
  | acquiring
  | starting (ready : Option Bool)
  | advancing (actor : Nat) (step : ScheduleStep) (arrived : Option Bool)
  | cleaning (limit : Nat) (settled : Bool)
  | tearing
  deriving DecidableEq

/-- `signalAborted` is the caller's signal and `listening` whether its listener is registered; `posted` is the history of the
ports, and `now` the clock. -/
structure Execution where
  schedule : CheckpointSchedule
  policy : SchedulePolicy
  checkpoints : List JsString
  generation : Nat
  executionId : JsString
  actors : List Actor
  outcome : ScheduleOutcome := .completed
  detail : JsString := []
  scheduleCompleted : Bool := false
  cleanup : ScheduleCleanup := .not_started
  remainingActors : List JsString := []
  events : List Event := []
  observations : List Observation := []
  cleanupAttempts : List Json := []
  program : Option Program := none
  pendingRequests : Nat := 0
  observing : Bool := false
  next : Nat := 0
  stopped : Bool := false
  closed : Bool := false
  evidenceBytes : Nat := 0
  deadline : Nat
  aborted : Bool := false
  signalAborted : Bool := false
  listening : Bool := false
  now : Nat
  task : Task := .idle
  posted : List (Nat × Post) := []

/-- What `program.observe` does: it may abort the caller's signal, it takes its time, and it throws or returns what
`scheduleData` lets through. -/
structure Observed where
  aborts : Bool := false
  elapsed : Nat := 0
  value : Except JsString Json

inductive Call where
  | advance (step : ScheduleStep)
  | finish
  | cleanup (timeoutMs : Option Nat)

/-- What happens next; `resume` is the operation going on. -/
inductive Input where
  | factory (program : Except JsString (Option Program)) (spawn : Nat → Except JsString Nat)
  | message (actor : Nat) (message : WorkerMessage)
  | messageError (actor : Nat)
  | error (actor : Nat) (text : JsString)
  | exit (actor : Nat) (code : Int)
  | settle (actor : Nat) (result : Except JsString Json)
  | abort
  | tick (elapsed : Nat)
  | resume (observed : Observed)
  | teardown (result : Except JsString Unit)
  | call (call : Call) (reentrant : Bool)

/-- Whether the input comes from a worker. -/
def Input.sent : Input → Bool
  | .message _ _ | .exit _ _ => true
  | _ => false

inductive Output where
  | silent
  | pending
  | returned
  | thrown (message : JsString)

def MAX_EVIDENCE_BYTES : Nat := 8 * 1048576

def budget (n : Nat) : Bool := decide (0 < n ∧ n ≤ 86400000)

def EventKind.text : EventKind → JsString
  | .permit => js "permit"
  | .arrival => js "arrival"

def Event.json (event : Event) : Json :=
  .object [(js "ordinal", .number (.ofNat event.ordinal)), (js "kind", .string event.kind.text),
    (js "step", .number (.ofNat event.step)), (js "actor", .string event.actor),
    (js "operation", .string event.operation), (js "checkpoint", .string event.checkpoint)]

namespace Execution

def update (run : Execution) (i : Nat) (change : Actor → Actor) : Execution :=
  { run with actors := run.actors.modify i change }

/-- `actor.port?.postMessage`. -/
def post (run : Execution) (i : Nat) (message : Post) : Execution :=
  if (run.actors[i]?).any (·.port) then { run with posted := run.posted ++ [(i, message)] } else run

def ports (run : Execution) : List Nat :=
  (List.range run.actors.length).filter fun i => (run.actors[i]?).any (·.port)

def cancelAll (run : Execution) : Execution :=
  { run with posted := run.posted ++ run.ports.map fun i => (i, .cancel) }

def fail (run : Execution) (outcome : ScheduleOutcome) (detail : JsString) : Execution :=
  let run := if run.outcome = .completed then { run with outcome := outcome, detail := detail.take 4096 } else run
  let run := { run with stopped := true, aborted := true }
  if run.observing then run else run.cancelAll

/-- One turn of the loop of `waitUntil` during the execution; no answer while it goes on waiting. -/
def waitUntil (run : Execution) (predicate : Bool) : Execution × Option Bool :=
  if run.stopped then (run, some false)
  else if run.signalAborted then (run.fail .cancelled (js "caller cancellation"), some false)
  else if run.deadline ≤ run.now then (run.fail .timed_out (js "execution deadline exceeded"), some false)
  else if predicate then (run, some true)
  else (run, none)

/-- A turn of the wait of an operation. -/
def wait (run : Execution) (predicate : Bool) (task : Option Bool → Task) : Execution :=
  { (run.waitUntil predicate).1 with task := task (run.waitUntil predicate).2 }

/-! ### Worker messages -/

def message (run : Execution) (i : Nat) (actor : Actor) : WorkerMessage → Execution
  | .ready threadId =>
    if actor.phase ≠ .starting ∨ threadId = none ∨ threadId ≠ actor.worker then
      run.fail .application_failed (js "invalid worker identity/barrier")
    else run.update i fun actor => { actor with threadId := threadId, phase := .parked }
  | .arrival checkpoint =>
    if run.stopped then run
    else if actor.phase ≠ .running ∨ actor.requestPending.isSome then
      run.fail .uncontrolled_actor (js "arrival outside owned interval")
    else match checkpoint.filter fun name => scheduleIdentifier name && decide (name ∈ run.checkpoints) with
      | none => run.fail .unexpected_checkpoint (js "undeclared actual checkpoint")
      | some name => run.update i fun actor => { actor with checkpoint := name, phase := .parked }
  | .finished =>
    if run.stopped = false ∧ (actor.phase ≠ .running ∨ actor.requestPending.isSome) then
      run.fail .application_failed (js "worker completed outside owned interval")
    else (run.post i .completionAck).update i fun actor =>
      { actor with reportedFinish := true, phase := .finishing, checkpoint := SCHEDULE_COMPLETION }
  | .failure error =>
    if run.stopped then run else run.fail .application_failed (error.getD (js "worker failure"))
  | .request id input =>
    if run.stopped then run
    else if actor.phase ≠ .running ∨ actor.requestPending.isSome then
      run.fail .application_failed (js "uncontrolled worker request")
    else
      -- `requestId` is counted up by the comparison with it
      let run := run.update i fun actor => { actor with requestId := actor.requestId + 1 }
      if id ≠ some actor.requestId ∨ ¬ run.program.any (·.request) then
        run.fail .application_failed (js "uncontrolled worker request")
      else match input with
        | .error text => run.fail .application_failed text
        | .ok _ =>
          { run.update i fun actor => { actor with requestPending := id } with pendingRequests := run.pendingRequests + 1 }
  | .unknown => run.fail .application_failed (js "unknown worker control message")
  | .invalid => run.fail .application_failed (js "invalid worker control message")

/-- `program.request` has settled. -/
def settle (run : Execution) (i id : Nat) (result : Except JsString Json) : Execution :=
  let answered := if run.stopped then run else run.post i (.reply id result)
  let answered := match result with
    | .ok _ => answered
    | .error text => if run.stopped then answered else answered.fail .application_failed text
  { answered.update i fun actor => { actor with requestPending := none } with
    pendingRequests := run.pendingRequests - 1 }

def exit (run : Execution) (i : Nat) (actor : Actor) (code : Int) : Execution :=
  let run := run.update i fun actor => { actor with exited := true }
  let run := if run.stopped = false ∧ (code ≠ 0 ∨ actor.reportedFinish = false) then
    run.fail .application_failed (js "worker exited without successful completion") else run
  run.update i fun actor => { actor with phase := .finished, checkpoint := SCHEDULE_COMPLETION }

def abort (run : Execution) : Execution :=
  let run := { run with signalAborted := true }
  if run.listening then run.fail .cancelled (js "caller cancellation") else run

/-! ### Evidence -/

section

variable [NumberText]

/-- The row of an event. -/
def eventRow (run : Execution) (kind : EventKind) (index : Nat) (actor : Actor) : Event :=
  ⟨run.events.length, kind, index, actor.declaration.actor, actor.declaration.operation, actor.checkpoint⟩

def event (run : Execution) (kind : EventKind) (index : Nat) (actor : Actor) : Execution :=
  let bytes := run.evidenceBytes + utf8Length (jsonStringify (run.eventRow kind index actor).json)
  if MAX_EVIDENCE_BYTES < bytes then
    { run with evidenceBytes := bytes }.fail .resource_failed (js "execution evidence exceeds bound")
  else { run with evidenceBytes := bytes, events := run.events ++ [run.eventRow kind index actor] }

def quiescent (run : Execution) : Bool :=
  run.pendingRequests = 0 && run.actors.all fun actor => actor.phase = .parked || actor.phase = .finished

/-- While `program.observe` runs. -/
def openObserver (run : Execution) (observed : Observed) : Execution :=
  let run := { run with observing := true, now := run.now + observed.elapsed }
  if observed.aborts ∧ run.signalAborted = false then run.abort else run

/-- What becomes of the state that was observed. -/
def recordState (run : Execution) : Except JsString Json → Execution
  | .error text => run.fail .observation_failed text
  | .ok value =>
    if run.stopped then run
    else if run.deadline ≤ run.now then run.fail .timed_out (js "execution deadline exceeded during observation")
    else
      let bytes := utf8Length (jsonStringify value)
      if MAX_EVIDENCE_BYTES < run.evidenceBytes + bytes then
        run.fail .observation_failed (js "observation evidence exceeds bound")
      else { run with
        evidenceBytes := run.evidenceBytes + bytes
        observations := run.observations ++ [Observation.mk run.next value] }

def closeObserver (run : Execution) : Execution :=
  let run := { run with observing := false }
  if run.stopped then run.cancelAll else run

def observe (run : Execution) (observed : Observed) : Execution :=
  if run.stopped then run
  else if run.quiescent = false then run.fail .observation_failed (js "actors not quiescent")
  else ((run.openObserver observed).recordState observed.value).closeObserver

/-! ### Operations -/

def remaining (run : Execution) : List JsString :=
  (run.actors.filter fun actor => (actor.worker.isSome && !actor.exited) || actor.requestPending.isSome).map
    (·.declaration.actor)

/-- `cleanupInternal`, up to its wait. -/
def cleanupInternal (run : Execution) (timeoutMs : Nat) : Execution × Output :=
  let idle := { run with task := .idle }
  if budget timeoutMs = false then (idle, .thrown (js "invalid cleanup budget"))
  else if run.closed then (idle, .returned)
  else
    let run := if run.outcome = .completed ∧ run.scheduleCompleted = false then
      run.fail .cancelled (js "cleanup requested before completion") else run
    ({ { run with stopped := true, aborted := true }.cancelAll with task := .cleaning (run.now + timeoutMs) false }, .pending)

def cleanupAttempt (cleanup : String) (rest : JsString × Json) : Json :=
  .object [(js "cleanup", .string (js cleanup)), rest]

/-- `cleanupInternal` after its wait, up to the teardown. -/
def cleaned (run : Execution) : Execution × Output :=
  let run := { run with task := .idle }
  let remaining := run.remaining
  if remaining ≠ [] ∨ run.pendingRequests ≠ 0 then
    ({ run with cleanup := .incomplete, remainingActors := remaining, cleanupAttempts := run.cleanupAttempts ++
      [cleanupAttempt "incomplete" (js "remainingActors", .array (remaining.map .string))] }, .returned)
  else
    let run := { run with closed := true, listening := false, remainingActors := [] }
    if run.program.isNone then
      ({ run with cleanup := .not_started, cleanupAttempts := run.cleanupAttempts ++
        [cleanupAttempt "not_started" (js "remainingActors", .array [])] }, .returned)
    else ({ run with task := .tearing }, .pending)

def tornDown (run : Execution) (result : Except JsString Unit) : Execution :=
  let run := { run with task := .idle }
  match result with
  | .ok () => { run with cleanup := .confirmed, cleanupAttempts := run.cleanupAttempts ++
      [cleanupAttempt "confirmed" (js "remainingActors", .array [])] }
  | .error text => { run with cleanup := .teardown_failed, cleanupAttempts := run.cleanupAttempts ++
      [cleanupAttempt "teardown_failed" (js "error", .string text)] }

/-- The end of `advance`. -/
def advanced (run : Execution) : Execution × Output :=
  let run := if run.stopped = false ∧ run.next = run.schedule.steps.length then { run with scheduleCompleted := true } else run
  if run.stopped ∨ run.scheduleCompleted then run.cleanupInternal run.policy.cleanupTimeoutMs
  else ({ run with task := .idle }, .returned)

def permit (run : Execution) (step : ScheduleStep) (i : Nat) (actor : Actor) : Execution × Output :=
  if actor.phase ≠ .parked then advanced (run.fail .unexpected_checkpoint (js "selected actor not parked"))
  else
    let run := run.event .permit run.next actor
    if run.stopped then advanced run
    else ({ (run.update i fun actor => { actor with phase := .running }).post i .permit with
      task := .advancing i step none }, .pending)

/-- `advance`, up to its wait. -/
def advance (run : Execution) (step : ScheduleStep) : Execution × Output :=
  if run.closed then (run, .thrown (js "execution already closed"))
  else if run.stopped then (run, .returned)
  else if run.signalAborted then advanced (run.fail .cancelled (js "caller cancellation"))
  else if run.deadline ≤ run.now then advanced (run.fail .timed_out (js "execution deadline exceeded"))
  else if run.schedule.steps[run.next]? ≠ some step then
    advanced (run.fail .invalid_schedule (js "callback differs from admitted interval"))
  else match run.actors.findIdx? fun actor => actor.declaration.actor = step.actor with
    | none => (run, .thrown [])
    | some i =>
      match run.actors[i]? with
      | none => (run, .thrown [])
      | some actor => permit run step i actor

/-- `advance` after its wait. -/
def arrive (run : Execution) (step : ScheduleStep) (actor : Actor) (observed : Observed) : Execution × Output :=
  let run := run.event .arrival run.next actor
  let run := if actor.checkpoint ≠ step.checkpoint then
    run.fail .unexpected_checkpoint (js "expected " ++ step.checkpoint ++ js ", arrived at " ++ actor.checkpoint) else run
  let run := if run.stopped then run else observe { run with next := run.next + 1 } observed
  run.advanced

def finish (run : Execution) : Execution × Output :=
  if run.closed then (run, .returned)
  else
    let run := if run.next ≠ run.schedule.steps.length then
      run.fail .invalid_schedule (js "execution ended before all intervals") else run
    run.cleanupInternal run.policy.cleanupTimeoutMs

def call (run : Execution) : Call → Execution × Output
  | .advance step => run.advance step
  | .finish => run.finish
  | .cleanup timeoutMs => run.cleanupInternal (timeoutMs.getD run.policy.cleanupTimeoutMs)

/-! ### Start -/

end

end Execution

/-- `admit`, of a controller that is on the main thread and outside of every callback or is not. -/
def Execution.admit (run : Execution) (adapter : WorkerScheduleAdapter) (reentrant : Bool) : Except JsString Unit := do
  if reentrant then throw (js "scheduler controller reentry or non-main controller")
  let p := run.policy
  if budget p.executionTimeoutMs = false ∨ budget p.cleanupTimeoutMs = false ∨ p.maxActors < 1 ∨ 64 < p.maxActors ∨
      p.maxSteps < 1 ∨ 65536 < p.maxSteps then
    throw (js "invalid scheduler policy")
  if run.actors.length = 0 ∨ p.maxActors < run.actors.length ∨ p.maxSteps < run.schedule.steps.length then
    throw (js "actor/step bound exceeded")
  if ¬ adapter.identity.values.all scheduleDigest then throw (js "invalid adapter identity")
  let declared := run.actors.map (·.declaration)
  if ¬ declared.all (fun a => scheduleIdentifier a.actor && scheduleIdentifier a.operation) ∨
      ¬ (declared.map (·.actor)).Nodup ∨ ¬ (declared.map (·.operation)).Nodup then
    throw (js "invalid or duplicate actor/operation")
  if ¬ adapter.checkpoints.Nodup ∨ ¬ adapter.checkpoints.all scheduleIdentifier then
    throw (js "invalid checkpoint vocabulary")
  let done ← run.schedule.steps.foldlM (fun (done : List JsString) step => do
    if step.actor ∉ declared.map (·.actor) ∨ step.actor ∈ done then throw (js "unknown actor or interval after completion")
    if step.checkpoint = SCHEDULE_COMPLETION then return done ++ [step.actor]
    if step.checkpoint ∉ run.checkpoints then throw (js "undeclared schedule checkpoint")
    return done) []
  if done.length ≠ declared.length then throw (js "every actor requires terminal completion")

namespace Execution

section

variable [NumberText]

/-- The constructor. -/
def construct (schedule : CheckpointSchedule) (adapter : WorkerScheduleAdapter) (policy : SchedulePolicy) (generation : Nat)
    (executionId : JsString) (now : Nat) : Execution where
  schedule := schedule
  policy := policy
  checkpoints := adapter.checkpoints.eraseDups
  generation := generation
  executionId := executionId
  actors := adapter.actors.map fun declaration => { declaration := declaration }
  deadline := now + min policy.executionTimeoutMs 86400000
  now := now

/-- `start`, up to the factory. -/
def start (run : Execution) (adapter : WorkerScheduleAdapter) (reentrant signalAborted : Bool) : Execution :=
  let run := { run with signalAborted := signalAborted }
  match run.admit adapter reentrant with
  | .error text => { run.fail .invalid_schedule text with closed := true }
  | .ok () =>
    if run.schedule.identity ≠ adapter.identity then
      { run.fail .incompatible_identity (js "adapter identity differs") with closed := true }
    else if signalAborted then { run.fail .cancelled (js "cancelled before acquisition") with closed := true }
    else { run with listening := true, task := .acquiring }

/-- The workers of a program, or what is wrong with them. -/
def checkProgram (run : Execution) (program : Option Program) : Except JsString Unit := do
  match program.filter (·.callable) with
  | none => throw (js "factory returned invalid program")
  | some program =>
    let names := program.workers.map Prod.fst
    if ¬ names.Nodup ∨ ¬ program.workers.all (·.2) then throw (js "invalid worker module or duplicate worker")
    if names.length ≠ run.actors.length ∨ run.actors.any fun actor => actor.declaration.actor ∉ names then
      throw (js "factory worker set differs")

/-- Workers for the actors in their order, until one cannot be made. -/
def spawnWorkers (spawn : Nat → Except JsString Nat) (run : Execution) : List Nat → Execution
  | [] => run
  | i :: rest =>
    match spawn i with
    | .error text => (run.update i fun actor => { actor with port := true }).fail .resource_failed text
    | .ok threadId =>
      spawnWorkers spawn (run.update i fun actor => { actor with port := true, worker := some threadId }) rest

def acquire (run : Execution) (program : Except JsString (Option Program)) (spawn : Nat → Except JsString Nat) : Execution :=
  match program with
  | .error text => { run.fail .application_failed text with closed := true, listening := false, task := .idle }
  | .ok program =>
    let run := { run with program := program }
    let run := match run.checkProgram program with
      | .error text => run.fail .application_failed text
      | .ok () => spawnWorkers spawn run (List.range run.actors.length)
    { run with task := .starting none }

/-! ### Steps -/

def parkedAll (run : Execution) : Bool := run.actors.all fun actor => actor.phase = .parked

def reached (run : Execution) (i : Nat) : Bool :=
  (run.actors[i]?).any fun actor => actor.phase = .parked || actor.phase = .finished

def settled (run : Execution) : Bool :=
  run.actors.all (fun actor => actor.worker.isNone || actor.exited) && run.pendingRequests = 0

/-- The end of `start`. -/
def opened (run : Execution) : Execution × Output :=
  if run.stopped then run.cleanupInternal run.policy.cleanupTimeoutMs else ({ run with task := .idle }, .returned)

/-- The operation under way goes on. -/
def resume (run : Execution) (observed : Observed) : Option (Execution × Output) :=
  match run.task with
  | .starting none => some (run.wait run.parkedAll .starting, .silent)
  | .starting (some ready) => some (if ready then (run.observe observed).opened else run.opened)
  | .advancing i step none =>
    some (run.wait (run.reached i) (.advancing i step), .silent)
  | .advancing _ _ (some false) => some run.advanced
  | .advancing i step (some true) => do some (run.arrive step (← run.actors[i]?) observed)
  | .cleaning limit false =>
    some ({ run with task := .cleaning limit (decide (limit ≤ run.now) || run.settled) }, .silent)
  | .cleaning _ true => some run.cleaned
  | _ => none

def step (run : Execution) : Input → Option (Execution × Output)
  | .factory program spawn => if run.task = .acquiring then some (run.acquire program spawn, .silent) else none
  | .message i message => do
    let actor ← run.actors[i]?
    if actor.port then some (run.message i actor message, .silent) else none
  | .messageError i => do
    let actor ← run.actors[i]?
    if actor.port then some (run.fail .application_failed (js "worker message decode failure"), .silent) else none
  | .error i text => do
    let actor ← run.actors[i]?
    if actor.worker.isSome then some (run.fail .application_failed text, .silent) else none
  | .exit i code => do
    let actor ← run.actors[i]?
    if actor.worker.isSome ∧ actor.exited = false then some (run.exit i actor code, .silent) else none
  | .settle i result => do
    let actor ← run.actors[i]?
    let id ← actor.requestPending
    some (run.settle i id result, .silent)
  | .abort => if run.signalAborted then none else some (run.abort, .silent)
  | .tick elapsed => some ({ run with now := run.now + elapsed }, .silent)
  | .resume observed => run.resume observed
  | .teardown result => if run.task = .tearing then some (run.tornDown result, .returned) else none
  | .call call reentrant =>
    if run.task ≠ .idle ∨ reentrant then some (run, .thrown (js "scheduler controller reentry"))
    else some (run.call call)

end

end Execution

abbrev Step := Machine.Transition Execution Input Output

/-- The steps of an execution from its construction. -/
structure Setup where
  schedule : CheckpointSchedule
  adapter : WorkerScheduleAdapter
  policy : SchedulePolicy
  generation : Nat
  executionId : JsString
  now : Nat
  reentrant : Bool
  signalAborted : Bool

def Setup.start (setup : Setup) : Execution :=
  (Execution.construct setup.schedule setup.adapter setup.policy setup.generation setup.executionId setup.now).start
    setup.adapter setup.reentrant setup.signalAborted

abbrev Run [NumberText] (setup : Setup) : List Step → Execution → Prop := Machine.Run Execution.step setup.start

end Mirror.Schedule
