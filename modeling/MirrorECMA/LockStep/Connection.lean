import MirrorECMA.Machine.Run
import MirrorECMA.Replay.Core

namespace Mirror.LockStep

open ECMA Mirror.Protocol
open Mirror.Replay (Failure Received protoStep)

inductive Mode where
  | stdio
  | network
  deriving DecidableEq

/-- The operations of a `Connection`, with the objects of the caller as they are sent. -/
inductive Operation where
  | validate (apalacheConfig : Fields Json) (bound : Double) (spec : Option (Fields Json))
  | submitValidateAsync (apalacheConfig : Fields Json) (bound : Double) (spec : Option (Fields Json))
  | submitTraceGenAsync (apalacheConfig traceConfig : Fields Json) (destPath : Option JsString) (spec : Option (Fields Json))
  | queryJob (jobId : JsString)
  | awaitJob (jobId : JsString) (timeoutSecs : Option Double)
  | cancelJob (jobId : JsString)
  | ping

/-- What the operations return. -/
inductive Answer where
  | validated (result : ValidateResult)
  | accepted (jobId kind : Raw)
  | status (jobId phase : Raw)
  | result (jobId : Raw) (outcome : JobOutcome)
  | live (alive : Bool)

/-- What `roundTrip` catches. -/
inductive Cause (ω : Type) where
  | failure (error : Failure ω)
  | decode (thrown : Thrown)

/-- What the operations throw; `failedExchange` is a `ProtocolFailureError` with the text of its cause. -/
inductive ConnectionFailure (ω : Type) where
  | range (message : JsString)
  | connectionClosed (message : JsString)
  | asyncOnStdio (message : JsString)
  | registerFailed (message : JsString)
  | jobQueueFull (message : JsString)
  | protocolFailure (message : JsString)
  | failedExchange (cause : Cause ω)
  | surfaced (cause : Cause ω)
  | typeError

variable {ω : Type}

/-! ### Requests -/

def Operation.isAsync : Operation → Bool
  | .validate _ _ _ => false
  | _ => true

def pingJobId : JsString := js "__mirrorecma_ping__"

def specField (spec : Option (Fields Json)) : Fields Json := definedField (js "spec") (spec.map .object)

/-- The message of an operation. -/
def Operation.message : Operation → Fields Json
  | .validate apalacheConfig bound spec =>
    [(js "proto_step", .string (js "register_validate")), (js "apalacheConfig", .object apalacheConfig),
      (js "bound", .number bound)] ++ specField spec
  | .submitValidateAsync apalacheConfig bound spec =>
    [(js "proto_step", .string (js "register_validate_async")), (js "apalacheConfig", .object apalacheConfig),
      (js "bound", .number bound)] ++ specField spec
  | .submitTraceGenAsync apalacheConfig traceConfig destPath spec =>
    [(js "proto_step", .string (js "register_trace_gen_async")), (js "apalacheConfig", .object apalacheConfig),
      (js "traceConfig", .object traceConfig), (js "destPath", (destPath.map .string).getD .null)] ++ specField spec
  | .queryJob jobId => [(js "proto_step", .string (js "query_job")), (js "jobId", .string jobId)]
  | .awaitJob jobId timeoutSecs =>
    [(js "proto_step", .string (js "await_job")), (js "jobId", .string jobId)] ++
      definedField (js "timeoutSecs") (timeoutSecs.map .number)
  | .cancelJob jobId => [(js "proto_step", .string (js "cancel_job")), (js "jobId", .string jobId)]
  | .ping => [(js "proto_step", .string (js "query_job")), (js "jobId", .string pingJobId)]

/-- The bound that `assertValidateBound` looks at. -/
def Operation.bound? : Operation → Option Double
  | .validate _ bound _ | .submitValidateAsync _ bound _ => some bound
  | _ => none

def allowedBound (bound : Double) : Bool :=
  match bound.toInt? with
  | some i => 1 ≤ i && i ≤ 100
  | none => false

def assertValidateBound [NumberText] (operation : Operation) : Except (ConnectionFailure ω) Unit :=
  match operation.bound? with
  | none => .ok ()
  | some bound =>
    if allowedBound bound then .ok ()
    else .error (.range (js "validate bound " ++ NumberText.text bound ++ js " outside allowed range 1..100"))

/-! ### Replies -/

/-- How an operation ends: it returns, it throws, or it poisons the connection and throws. -/
inductive Verdict (ω : Type) where
  | answer (answer : Answer)
  | failed (failure : ConnectionFailure ω)
  | poison (failure : ConnectionFailure ω)

/-- An error that is constructed from the text of a reply. -/
def thrownAs [NumberText] (error : Raw) (make : JsString → ConnectionFailure ω) : ConnectionFailure ω :=
  match error with
  | none => make []
  | some value =>
    match toText value with
    | some text => make text
    | none => .typeError

def upperCase (u : CodeUnit) : CodeUnit := if 0x61 ≤ u.toNat ∧ u.toNat ≤ 0x7A then u - 0x20 else u

/-- `QUEUE_FULL_RE.test`. -/
def queueFull (text : JsString) : Bool := text.tails.any fun rest => (js "QUEUE FULL").isPrefixOf (rest.map upperCase)

def expected (kinds : String) (reply : AnyMessage) : ConnectionFailure ω :=
  .protocolFailure (js "expected " ++ js kinds ++ js ", got " ++ protoStep reply)

section

variable [NumberText]

def validate (reply : AnyMessage) : Verdict ω :=
  match reply with
  | .specValidated result => .answer (.validated result)
  | .registerError error => .failed (thrownAs error .registerFailed)
  | .protocolError error => .poison (thrownAs error .protocolFailure)
  | reply => .poison (expected "spec_validated" reply)

def submit (reply : AnyMessage) : Verdict ω :=
  match reply with
  | .jobAccepted jobId kind => .answer (.accepted jobId kind)
  | .registerError error =>
    .failed (thrownAs error fun text => if queueFull text then .jobQueueFull text else .registerFailed text)
  | .protocolError error => .poison (thrownAs error .protocolFailure)
  | reply => .poison (expected "job_accepted" reply)

/-- What `queryJob`, `awaitJob` and `cancelJob` share. -/
def jobReply (kinds : String) (reply : AnyMessage) : Verdict ω :=
  match reply with
  | .jobStatus jobId phase => .answer (.status jobId phase)
  | .jobResult jobId outcome => .answer (.result jobId outcome)
  | .registerError error => .failed (thrownAs error .registerFailed)
  | .protocolError error => .poison (thrownAs error .protocolFailure)
  | reply => .poison (expected kinds reply)

def queryJob (reply : AnyMessage) : Verdict ω := jobReply "job_status or job_result" reply
def awaitJob (reply : AnyMessage) : Verdict ω := jobReply "job_result or job_status" reply
def cancelJob (reply : AnyMessage) : Verdict ω := jobReply "job_result or job_status" reply

/-- What an operation makes of a reply. -/
def Operation.verdict : Operation → AnyMessage → Verdict ω
  | .validate _ _ _ => LockStep.validate
  | .submitValidateAsync _ _ _ | .submitTraceGenAsync _ _ _ _ => submit
  | .queryJob _ | .ping => LockStep.queryJob
  | .awaitJob _ _ => LockStep.awaitJob
  | .cancelJob _ => LockStep.cancelJob

end

/-- `ping` returns whether the job is unknown, and `false` where `queryJob` throws. -/
def Operation.returned (operation : Operation) (result : Except (ConnectionFailure ω) Answer) :
    Except (ConnectionFailure ω) Answer :=
  match operation, result with
  | .ping, .ok (.status _ (some (.string phase))) => .ok (.live (phase = js "unknown"))
  | .ping, _ => .ok (.live false)
  | _, result => result

/-- The `catch` of `roundTrip`. -/
def exchangeFailed (closed : Bool) (cause : Cause ω) : Verdict ω :=
  if closed then .failed (.surfaced cause) else .poison (.failedExchange cause)

/-- `roundTrip`, once its pull is answered. -/
def roundTrip [NumberText] [NumberConversion] (closed : Bool) (reply : Received ω) : Except (Verdict ω) AnyMessage :=
  match reply with
  | .done => .error (.poison (.protocolFailure (js "mirror closed the connection mid-request")))
  | .failed error => .error (exchangeFailed closed (.failure error))
  | .line text => (decodeMirrorMessage text).mapError fun thrown => exchangeFailed closed (.decode thrown)

/-! ### The connection -/

/-- Where an operation waits: for the answer to its pull, for what `roundTrip` returns, for `poisonAndThrow`. -/
inductive Phase (ω : Type) where
  | requested
  | replied (reply : AnyMessage)
  | poisoned (failure : ConnectionFailure ω)

/-- The operation that runs; `ticket` counts the calls before its own. -/
structure Exchange (ω : Type) where
  ticket : Nat
  operation : Operation
  phase : Phase ω

/-- `replies` are the answers of the iterator to its pulls, in their order. -/
structure Connection (ω : Type) where
  mode : Mode
  closed : Bool := false
  flowConsumed : Bool := false
  calls : Nat := 0
  queue : List (Nat × Operation) := []
  current : Option (Exchange ω) := none
  pulls : Nat := 0
  replies : List (Received ω) := []

/-- What happens next: an operation is called; the first one in the queue runs, with what `send` throws; the next pull is
answered; `roundTrip` goes on with the answer; the operation goes on with the reply; `close` of the transport settles for
`poisonAndThrow`; the caller closes the connection. -/
inductive Input (ω : Type) where
  | call (operation : Operation)
  | run (sendFailure : Option ω)
  | arrive (reply : Received ω)
  | read
  | check
  | settle
  | close

/-- `closes` says whether `close` of the transport is called. -/
inductive Output (ω : Type) where
  | queued (ticket : Nat)
  | sent (ticket : Nat) (operation : Operation) (line : JsString)
  | settled (ticket : Nat) (result : Except (ConnectionFailure ω) Answer)
  | poisoned (ticket : Nat) (closes : Bool)
  | closed (closes : Bool)
  | silent

def assertFlowOpen (connection : Connection ω) : Except (ConnectionFailure ω) Unit :=
  if connection.closed then .error (.connectionClosed (js "connection is closed"))
  else if connection.flowConsumed then
    .error (.connectionClosed (js "session flow already terminated on this connection; open a new one"))
  else .ok ()

def assertAsyncAllowed (connection : Connection ω) : Except (ConnectionFailure ω) Unit := do
  assertFlowOpen connection
  if connection.mode = .stdio then
    .error (.asyncOnStdio (js ("async jobs are only available on server-mode connections " ++
      "(--serve/--server), not on a stdio session")))

/-- What the operation checks when its turn comes. -/
def assertAllowed (connection : Connection ω) (operation : Operation) : Except (ConnectionFailure ω) Unit :=
  if operation.isAsync then assertAsyncAllowed connection else assertFlowOpen connection

/-- What the operation checks when it is called; the error of a `ping` is not seen. -/
def assertCallable [NumberText] (connection : Connection ω) (operation : Operation) : Except (ConnectionFailure ω) Unit := do
  assertValidateBound operation
  match operation with
  | .ping => assertAsyncAllowed connection
  | _ => if connection.closed then .error (.connectionClosed (js "connection is closed"))

def finish (connection : Connection ω) (ticket : Nat) (operation : Operation)
    (result : Except (ConnectionFailure ω) Answer) : Connection ω × Output ω :=
  ({ connection with current := none }, .settled ticket (operation.returned result))

/-- `poisonAndThrow`, up to its call of `close`. -/
def poison (connection : Connection ω) (ticket : Nat) (operation : Operation) (failure : ConnectionFailure ω) :
    Connection ω × Output ω :=
  ({ connection with flowConsumed := true, closed := true, current := some ⟨ticket, operation, .poisoned failure⟩ },
    .poisoned ticket !connection.closed)

def conclude (connection : Connection ω) (ticket : Nat) (operation : Operation) : Verdict ω → Connection ω × Output ω
  | .answer answer => finish connection ticket operation (.ok answer)
  | .failed failure => finish connection ticket operation (.error failure)
  | .poison failure => poison connection ticket operation failure

section

variable [NumberText]

/-- An operation is called, and `op` puts it into the queue. -/
def call (connection : Connection ω) (operation : Operation) : Connection ω × Output ω :=
  let ticket := connection.calls
  let connection := { connection with calls := ticket + 1 }
  match assertCallable connection operation with
  | .error failure => (connection, .settled ticket (operation.returned (.error failure)))
  | .ok () => ({ connection with queue := connection.queue ++ [(ticket, operation)] }, .queued ticket)

/-- An operation runs as far as its pull. -/
def runNext (connection : Connection ω) (ticket : Nat) (operation : Operation) (sendFailure : Option ω) :
    Connection ω × Output ω :=
  match assertAllowed connection operation with
  | .error failure => finish connection ticket operation (.error failure)
  | .ok () =>
    match sendFailure with
    | some error => conclude connection ticket operation (exchangeFailed connection.closed (.failure (.thrown error)))
    | none =>
      ({ connection with pulls := connection.pulls + 1, current := some ⟨ticket, operation, .requested⟩ },
        .sent ticket operation (jsonStringify (.object operation.message)))

variable [NumberConversion]

def read (connection : Connection ω) (ticket : Nat) (operation : Operation) (reply : Received ω) :
    Connection ω × Output ω :=
  match roundTrip connection.closed reply with
  | .ok reply => ({ connection with current := some ⟨ticket, operation, .replied reply⟩ }, .silent)
  | .error verdict => conclude connection ticket operation verdict

/-- The reply to `validate` ends the session flow. -/
def check (connection : Connection ω) (ticket : Nat) (operation : Operation) (reply : AnyMessage) :
    Connection ω × Output ω :=
  let connection := match operation with
    | .validate _ _ _ => { connection with flowConsumed := true }
    | _ => connection
  conclude connection ticket operation (operation.verdict reply)

/-- The answer to the last pull. -/
def Connection.answer? (connection : Connection ω) : Option (Received ω) := connection.replies[connection.pulls - 1]?

def step (connection : Connection ω) (input : Input ω) : Option (Connection ω × Output ω) :=
  match input, connection.current, connection.queue with
  | .call operation, _, _ => some (call connection operation)
  | .run sendFailure, none, (ticket, operation) :: rest =>
    some (runNext { connection with queue := rest } ticket operation sendFailure)
  | .arrive reply, _, _ => some ({ connection with replies := connection.replies ++ [reply] }, .silent)
  | .read, some ⟨ticket, operation, .requested⟩, _ => connection.answer?.map (read connection ticket operation)
  | .check, some ⟨ticket, operation, .replied reply⟩, _ => some (check connection ticket operation reply)
  | .settle, some ⟨ticket, operation, .poisoned failure⟩, _ =>
    some (finish connection ticket operation (.error failure))
  | .close, _, _ => some ({ connection with closed := true }, .closed !connection.closed)
  | _, _, _ => none

abbrev Step (ω : Type) := Machine.Transition (Connection ω) (Input ω) (Output ω)

/-- A connection after `open`. -/
abbrev Run (mode : Mode) : List (Step ω) → Connection ω → Prop := Machine.Run step { mode }

end

end Mirror.LockStep
