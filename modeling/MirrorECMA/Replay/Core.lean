import MirrorECMA.Replay.Execution

namespace Mirror.Replay

open ECMA Mirror.Protocol

variable {ω ε : Type}

/-- What the line iterator gives: a line, the end of the stream, or an error. -/
inductive Received (ω : Type) where
  | line (text : JsString)
  | done
  | failed (error : Failure ω)

/-- What the environment does in one round of the loop: what it receives, the signal then, the step of the computer, the
signal when a promised state has come, an error of `assertActive`, and one of `send`. -/
structure Round (ω ε : Type) where
  received : Received ω
  signal : Option (AbortReason ω)
  environment : ε
  signalAfter : Option (AbortReason ω)
  inactive : Option (Failure ω)
  sendFailure : Option ω

structure ReplayCoreOptions where
  matchedEvidence : Option MatchedEvidenceTracker := none
  structuredMismatch : Bool := false
  progress : Option ReplayRecorder := none

/-- The variables of the loop, the two observers, and the lines that have been sent. -/
structure Loop where
  state : State := []
  lastParam : Payload Any := .fields []
  lastAction : Raw := some (.string [])
  traceIndex : Int := -1
  stepIndex : Nat := 0
  acceptedTraces : Nat := 0
  acceptedSteps : Nat := 0
  matchedEvidence : Option MatchedEvidenceTracker := none
  progress : Option ReplayRecorder := none
  sent : List JsString := []

/-- Code of the loop. -/
abbrev Looped (ω α : Type) := Machine.Throwing (Failure ω) Loop α

def raise {α : Type} (failure : Failure ω) : Looped ω α := throw failure

def checked {α : Type} (result : Except (Failure ω) α) : Looped ω α :=
  match result with
  | .ok value => return value
  | .error failure => raise failure

/-- What a message's text is made of may throw. -/
def Failure.ofThrown : Thrown → Failure ω
  | .error message => .error message
  | _ => .typeError

def withEvidence (method : MatchedEvidenceTracker.Method Unit) : Looped ω Unit := do
  match (← get).matchedEvidence with
  | none => return
  | some tracker =>
    let (result, tracker) := method.run.run tracker
    modify fun loop => { loop with matchedEvidence := some tracker }
    match result with
    | .ok _ => return
    | .error error => raise (.evidence error)

def withProgress (change : ReplayRecorder → ReplayRecorder) : Looped ω Unit :=
  modify fun loop => { loop with progress := loop.progress.map change }

def Raw.string? : Raw → Option JsString
  | some (.string text) => some text
  | _ => none

section

variable [NumberText]

def assertActiveAndSend (round : Round ω ε) : Looped ω Unit := do
  match (← get).progress, round.inactive with
  | some _, some failure => raise failure
  | _, _ => pure ()
  match round.sendFailure with
  | some error => raise (.thrown error)
  | none => modify fun loop => { loop with sent := loop.sent ++ [encodeReportState loop.state] }

/-- Start the computer and report its state. -/
def reportStep (execution : ReplayExecutionAdapter ω ε) (round : Round ω ε) (action : Raw) (payload : Payload Any)
    (previous : State) : Looped ω Unit := do
  match ← checked (execution round.environment action payload previous) with
  | .ready state =>
    modify fun loop => { loop with state }
    assertActiveAndSend round
  | .pending pending =>
    let state ← checked pending
    modify fun loop => { loop with state }
    checked (throwIfReplayCancelled round.signalAfter)
    assertActiveAndSend round

/-- `case "initial_state"`. -/
def onInitialState (execution : ReplayExecutionAdapter ω ε) (round : Round ω ε) (action : Raw) (payload : Payload Any) :
    Looped ω Unit := do
  withEvidence (MatchedEvidenceTracker.begin true (Raw.string? action))
  withProgress (·.begin true)
  modify fun loop => { loop with
    lastAction := action
    traceIndex := loop.traceIndex + 1
    stepIndex := 0
    lastParam := if loop.progress.isSome then payload else loop.lastParam }
  reportStep execution round action payload []
  withEvidence MatchedEvidenceTracker.reported
  withProgress (·.reported action)
  modify fun loop => { loop with acceptedTraces := loop.acceptedTraces + 1 }

/-- `case "next_step"`. -/
def onNextStep (execution : ReplayExecutionAdapter ω ε) (round : Round ω ε) (action : Raw) (payload : Payload Any) :
    Looped ω Unit := do
  withEvidence (MatchedEvidenceTracker.begin false (Raw.string? action))
  withProgress (·.begin false)
  modify fun loop => { loop with lastAction := action, stepIndex := loop.stepIndex + 1, lastParam := payload }
  reportStep execution round action payload (← get).state
  withEvidence MatchedEvidenceTracker.reported
  withProgress (·.reported action)
  modify fun loop => { loop with acceptedSteps := loop.acceptedSteps + 1 }

/-- `case "step_mismatch"`, which always throws. -/
def onStepMismatch (options : ReplayCoreOptions) (msgAction : Raw) (expected actual : Payload Any)
    (hints : Option (List (DiffHint Any))) : Looped ω Unit := do
  withEvidence (MatchedEvidenceTracker.interrupt true)
  let loop ← get
  let action : Raw := match msgAction with
    | none | some .null => loop.lastAction
    | some action => some action
  let hints := hints.getD []
  let thrown {α : Type} (result : Except Thrown α) : Looped ω α := checked (result.mapError .ofThrown)
  match loop.progress with
  | some recorder =>
    raise (.mismatch (← thrown (stepMismatchError action loop.lastParam expected actual hints recorder.tracesStarted
      recorder.stateIndex)))
  | none =>
    let text ← thrown (mismatchText action loop.lastParam expected actual hints)
    if options.structuredMismatch then
      raise (.mismatch (← thrown (replayMismatchError text expected actual hints (max loop.traceIndex 0) loop.stepIndex
        action)))
    else raise (.error text)

/-- `new Error(error)`. -/
def errorOf (error : Raw) : Failure ω :=
  match error with
  | none => .error []
  | some value =>
    match toText value with
    | some text => .error text
    | none => .typeError

/-- `proto_step` of a message that the loop does not expect. -/
def protoStep : AnyMessage → JsString
  | .specValidated _ => js "spec_validated"
  | .initialState _ _ => js "initial_state"
  | .nextStep _ _ => js "next_step"
  | .stepOk => js "step_ok"
  | .stepMismatch _ _ _ _ => js "step_mismatch"
  | .allStepsDone => js "all_steps_done"
  | .genTracesDone _ _ => js "gen_traces_done"
  | .protocolError _ => js "protocol_error"
  | .registerError _ => js "register_error"
  | .jobAccepted _ _ => js "job_accepted"
  | .jobStatus _ _ => js "job_status"
  | .jobResult _ _ => js "job_result"
  | .explorerReady _ _ _ => js "explorer_ready"
  | .exploreTransitionStatus _ => js "explore_transition_status"
  | .exploreStepDone _ => js "explore_step_done"
  | .exploreState _ => js "explore_state"
  | .exploreInvariantStatus _ => js "explore_invariant_status"
  | .exploreAssumeStatus _ => js "explore_assume_status"
  | .exploreRollbackDone _ => js "explore_rollback_done"
  | .exploreSessionDone => js "explore_session_done"

/-- The `switch` of the loop, with the report where the loop returns. -/
def dispatch (execution : ReplayExecutionAdapter ω ε) (options : ReplayCoreOptions) (round : Round ω ε)
    (msg : AnyMessage) : Looped ω (Option CompiledReplayReport) := do
  match msg with
  | .initialState action state =>
    onInitialState execution round action state
    return none
  | .stepOk =>
    withEvidence MatchedEvidenceTracker.acknowledge
    withProgress (·.acknowledge)
    return none
  | .allStepsDone =>
    withEvidence MatchedEvidenceTracker.done
    let loop ← get
    return some (replayReport loop.acceptedTraces loop.acceptedSteps)
  | .nextStep action parameters =>
    onNextStep execution round action parameters
    return none
  | .stepMismatch action expected actual hints =>
    onStepMismatch options action expected actual hints
    return none
  | .protocolError error => raise (errorOf error)
  | .registerError error =>
    match rawText error with
    | .ok text => raise (.error (js "register failed: " ++ text))
    | .error _ => raise .typeError
  | msg => raise (.error (js "unexpected message: " ++ protoStep msg))

variable [NumberConversion]

/-- Decode one ordinary message, with the beginning of the line in the error. -/
def decodeReplayMessage (line : JsString) : Except (Failure ω) AnyMessage :=
  match decodeMirrorMessage line with
  | .ok message => .ok message
  | .error _ =>
    let snippet := if line.length > 200 then line.take 200 ++ js "…" else line
    .error (.error (js "failed to decode mirror message: " ++ snippet))

def receiveReplayMessage : Received ω → Except (Failure ω) AnyMessage
  | .line text => decodeReplayMessage text
  | .done => .error (.error (js "transport closed unexpectedly"))
  | .failed error => .error error

/-- One round: receive a message and act on it. -/
def replayRound (execution : ReplayExecutionAdapter ω ε) (options : ReplayCoreOptions) (round : Round ω ε) :
    Looped ω (Option CompiledReplayReport) := do
  let msg ← checked (receiveReplayMessage round.received)
  checked (throwIfReplayCancelled round.signal)
  dispatch execution options round msg

inductive Outcome (ω : Type) where
  | waiting
  | returned (report : CompiledReplayReport)
  | threw (failure : Failure ω)

/-- The `catch`: interrupting an unsealed tracker does not throw. -/
def interrupted (loop : Loop) : Loop :=
  { loop with matchedEvidence := loop.matchedEvidence.map fun tracker =>
      ((MatchedEvidenceTracker.interrupt false).run.run tracker).2 }

def replayRounds (execution : ReplayExecutionAdapter ω ε) (options : ReplayCoreOptions) (loop : Loop) :
    List (Round ω ε) → Loop × Outcome ω
  | [] => (loop, .waiting)
  | round :: rest =>
    match (replayRound execution options round).run.run loop with
    | (.ok none, loop) => replayRounds execution options loop rest
    | (.ok (some report), loop) => (loop, .returned report)
    | (.error failure, loop) => (interrupted loop, .threw failure)

/-- The loop over the rounds that the environment provides: it waits after the last of them. -/
def replayCore (execution : ReplayExecutionAdapter ω ε) (options : ReplayCoreOptions) (rounds : List (Round ω ε)) :
    Loop × Outcome ω :=
  replayRounds execution options { matchedEvidence := options.matchedEvidence, progress := options.progress } rounds

end

end Mirror.Replay
