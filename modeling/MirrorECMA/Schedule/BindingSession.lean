import MirrorECMA.Machine.Run
import MirrorECMA.Schedule.Receipt

namespace Mirror.Schedule.Binding

open ECMA

/-! ### Sessions -/

def MAX_RECEIPT_BYTES : Int := 16 * 1048576
def MAX_INITIALIZATIONS : Nat := 64

/-- What a session reads of the report of an execution. -/
structure Report where
  outcome : ScheduleOutcome := .completed
  detail : JsString := []
  scheduleCompleted : Bool := true
  cleanup : ScheduleCleanup := .confirmed

/-- What an operation throws: a `ScheduleBindingError`, or what an execution has thrown. -/
inductive Failure where
  | binding (code text : JsString)
  | execution (reason : JsString)

/-- How a promise settles, with nothing for a rejection with `undefined`. -/
abbrev Settled (α : Type) := Except (Option Failure) α

/-- A row of `records`, with the number of the initialization whose execution it is about. -/
inductive Record where
  | receipt (initialization : Nat) (row : Json)
  | bounded (initialization : Nat)

def Record.initialization : Record → Nat
  | .receipt initialization _ | .bounded initialization => initialization

def Record.row : Record → Json
  | .receipt _ row => row
  | .bounded _ => .object [(js "passed", .bool false), (js "evidenceError", .string (js "receipt_byte_bound_exceeded"))]

/-- What the operation under way waits for, or how it has ended, until `finally` has run. -/
inductive Point where
  | finishing
  | starting
  | advancing
  | disposing
  | retrying
  | ended (result : Settled Unit)

inductive Disposal where
  | none
  | waiting
  | entered
  deriving DecidableEq

/-- An execution is the number of the initialization that started it, and `point` is there while the session is busy. The
signals are left out: they reach the executions only. -/
structure Session where
  execution : Option Nat := none
  records : List Record := []
  retained : Bool := false
  receiptBytes : Int := 0
  initializations : Nat := 0
  disposals : Nat := 0
  disposed : Bool := false
  receiptComplete : Bool := true
  disposalError : Option Failure := none
  closing : Bool := false
  disposalTask : Disposal := .none
  point : Option Point := none

/-! ### Operations -/

variable [NumberText]

def bytes (row : Json) : Int := utf8Length (jsonStringify row)

def bindingError {α : Type} (code : String) (text : JsString) : Settled α := .error (some (.binding (js code) text))

def lifecycleInvalid {α : Type} (text : String) : Settled α := bindingError "schedule_lifecycle_invalid" (js text)

def cleanupFailed {α : Type} (text : JsString) : Settled α := bindingError "schedule_cleanup_failed" text

namespace Session

def ended (s : Session) (result : Settled Unit) : Session := { s with point := some (.ended result) }

/-- `retain`, where `row` is the receipt of the execution. -/
def retain (s : Session) (row : Json) : Session :=
  match s.execution with
  | none => s
  | some i =>
    if s.retained then s
    else if s.receiptBytes + bytes row > MAX_RECEIPT_BYTES then
      { s with receiptComplete := false, records := s.records ++ [.bounded i], retained := true }
    else { s with receiptBytes := s.receiptBytes + bytes row, records := s.records ++ [.receipt i row], retained := true }

def start (s : Session) : Session :=
  { s with execution := none, initializations := s.initializations + 1, retained := false, point := some .starting }

/-- `initialize` -/
def initialization (s : Session) : Session :=
  if s.disposed || s.closing || decide (MAX_INITIALIZATIONS ≤ s.initializations) then
    s.ended (lifecycleInvalid "disposed session or initialization limit")
  else if s.execution.isSome then { s with point := some .finishing }
  else s.start

/-- `initialize` after `finish`. -/
def finished (s : Session) (prior : Settled Report) (row : Json) : Session :=
  match prior with
  | .error reason => s.ended (.error reason)
  | .ok prior =>
    let s := s.retain row
    if prior.outcome ≠ .completed ∨ prior.scheduleCompleted = false ∨ prior.cleanup ≠ .confirmed ∨
        s.receiptComplete = false then
      s.ended (bindingError "schedule_previous_incomplete" (js "previous execution incomplete"))
    else s.start

/-- What a report that is not `completed` throws. -/
def checked (code : String) (report : Report) : Settled Unit :=
  if report.outcome = .completed then .ok () else bindingError code (report.outcome.text ++ js ": " ++ report.detail)

/-- `initialize` after `startWorkerSchedule`. -/
def started (s : Session) (report : Settled Report) : Session :=
  match report with
  | .error reason => s.ended (.error reason)
  | .ok report => { s with execution := some (s.initializations - 1) }.ended (checked "schedule_admission_failed" report)

def advance (s : Session) : Session :=
  if s.disposed || s.closing || s.execution.isNone then s.ended (lifecycleInvalid "binding session is not live")
  else { s with point := some .advancing }

def advanced (s : Session) (report : Settled Report) : Session :=
  s.ended (report.bind (checked "schedule_interval_failed"))

/-- `last` is the state of the last observation of the report. -/
def observation (s : Session) (report : Report) (last : Option Json) : Settled Json :=
  if s.disposed || s.closing || s.execution.isNone || s.point.isSome then
    lifecycleInvalid "binding session is not quiescent"
  else match report.outcome, last with
    | .completed, some state => .ok state
    | _, _ => bindingError "schedule_observation_unavailable" report.detail

def dispose (s : Session) : Session :=
  if s.disposalTask = .none then { s with closing := true, disposalTask := .waiting } else s

/-- The operation of `dispose`. -/
def disposal (s : Session) : Session :=
  if s.disposed then s.ended (match s.disposalError with
    | some error => .error (some error)
    | none => .ok ())
  else
    let s := { s with disposed := true, disposals := s.disposals + 1 }
    if s.execution.isSome then { s with point := some .disposing } else s.ended (.ok ())

/-- `dispose` after `finish` or `cleanup`. -/
def cleaned (s : Session) (report : Settled Report) (row : Json) : Session :=
  let fail (s : Session) (error : Option Failure) : Session := { s with disposalError := error }.ended (.error error)
  match report with
  | .error reason => fail s reason
  | .ok report =>
    let s := s.retain row
    if report.cleanup ≠ .confirmed then fail s (some (.binding (js "schedule_cleanup_failed") report.cleanup.text))
    else if s.receiptComplete = false then
      fail s (some (.binding (js "schedule_cleanup_failed") (js "receipt bound exceeded")))
    else s.ended (.ok ())

def retryCleanup (s : Session) : Session :=
  if s.disposed = false then s.ended (lifecycleInvalid "dispose before retrying cleanup")
  else if s.execution.isSome then { s with point := some .retrying }
  else s.ended (.ok ())

/-- The receipt after a cleanup in the place of the last row. -/
def replace (s : Session) (row : Json) : Session :=
  match s.execution, s.records.getLast? with
  | some i, some old =>
    if s.retained then
      let total := s.receiptBytes - bytes old.row + bytes row
      if total ≤ MAX_RECEIPT_BYTES then
        { s with receiptBytes := total, records := s.records.dropLast ++ [.receipt i row] }
      else { s with receiptComplete := false }
    else s
  | _, _ => s

/-- `retryCleanup` after `cleanup`. -/
def retried (s : Session) (report : Settled Report) (row : Json) : Session :=
  match report with
  | .error reason => s.ended (.error reason)
  | .ok report =>
    if report.cleanup ≠ .confirmed then s.ended (cleanupFailed report.cleanup.text) else (s.replace row).ended (.ok ())

end Session

def passed : Json → Bool
  | .object fields => match Fields.get fields (js "passed") with
    | some (.bool true) => true
    | _ => false
  | _ => false

def Session.fullyCompleted (s : Session) : Bool :=
  s.disposed && decide (0 < s.initializations) && s.disposalError.isNone && s.receiptComplete && !s.records.isEmpty &&
    s.records.all fun record => passed record.row

/-! ### Runs -/

inductive Call where
  | initialization
  | advance
  | retryCleanup

def Call.body : Call → Session → Session
  | .initialization => Session.initialization
  | .advance => Session.advance
  | .retryCleanup => Session.retryCleanup

/-- What happens next: a call, an answer that the operation under way waits for, with the receipt of the execution then, or a
continuation. -/
inductive Input where
  | call (call : Call)
  | dispose
  | observation (report : Report) (last : Option Json)
  | fullyCompleted
  | finished (prior : Settled Report) (row : Json)
  | started (report : Settled Report)
  | advanced (report : Settled Report)
  | cleaned (report : Settled Report) (row : Json)
  | retried (report : Settled Report) (row : Json)
  | entered
  | released

inductive Output where
  | silent
  | settled (result : Settled Unit)
  | observed (result : Settled Json)
  | completion (complete : Bool)

/-- `operation` refuses while another one is under way. -/
def operation (s : Session) (body : Session → Session) : Session × Output :=
  if s.point.isSome then
    (s, .settled (bindingError "schedule_reentrant" (js "overlapping binding session operation")))
  else (body s, .silent)

/-- A call of `dispose` enters its operation once what was pending has settled. -/
def step (s : Session) : Input → Option (Session × Output)
  | .call call => some (operation s call.body)
  | .dispose => some (s.dispose, .silent)
  | .observation report last => some (s, .observed (s.observation report last))
  | .fullyCompleted => some (s, .completion s.fullyCompleted)
  | .finished prior row => match s.point with
    | some .finishing => some (s.finished prior row, .silent)
    | _ => none
  | .started report => match s.point with
    | some .starting => some (s.started report, .silent)
    | _ => none
  | .advanced report => match s.point with
    | some .advancing => some (s.advanced report, .silent)
    | _ => none
  | .cleaned report row => match s.point with
    | some .disposing => some (s.cleaned report row, .silent)
    | _ => none
  | .retried report row => match s.point with
    | some .retrying => some (s.retried report row, .silent)
    | _ => none
  | .entered => match s.disposalTask with
    | .waiting => some (operation { s with disposalTask := .entered } Session.disposal)
    | _ => none
  | .released => match s.point with
    | some (.ended result) => some ({ s with point := none }, .settled result)
    | _ => none

end Mirror.Schedule.Binding
