import MirrorECMA.Protocol.Encode
import MirrorECMA.Replay.Evidence
import MirrorECMA.Replay.Report

namespace Mirror.Replay

open ECMA Mirror.Protocol

inductive ReplayDeadlineStage where
  | registration
  | step
  | receive
  | close
  deriving DecidableEq

/-- `signal.reason`, over the values `ω` that code outside throws or aborts with. -/
inductive AbortReason (ω : Type) where
  | deadline (stage : ReplayDeadlineStage) (timeoutMs : Nat)
  | other (reason : ω)

/-- What a replay throws. -/
inductive Failure (ω : Type) where
  | error (message : JsString)
  | typeError
  | mismatch (error : ReplayMismatchError)
  | evidence (error : MatchedEvidenceError)
  | cancelled (reason : AbortReason ω)
  | deadline (stage : ReplayDeadlineStage) (timeoutMs : Nat)
  | thrown (value : ω)

variable {ω : Type}

def throwIfReplayCancelled (signal : Option (AbortReason ω)) : Except (Failure ω) Unit :=
  match signal with
  | some reason => .error (.cancelled reason)
  | none => .ok ()

/-- The error for an abort that wins the race. -/
def AbortReason.failure : AbortReason ω → Failure ω
  | .deadline stage timeoutMs => .deadline stage timeoutMs
  | .other reason => .cancelled (.other reason)

/-- Which event `awaitReplayOperationUntil` sees first: an abort, its own timer, or the end of the operation, with the
signal and the clock as they are then. -/
inductive Race (ω : Type) where
  | aborted (reason : AbortReason ω)
  | timer
  | settled (signal : Option (AbortReason ω)) (now : Rat)

/-- The promise of the operation is rejected or resolved with `operation`, if it settles. -/
def awaitReplayOperationUntil {α : Type} (operation : Except (Failure ω) α) (signal : Option (AbortReason ω))
    (deadline : Rat) (timeoutMs : Nat) (stage : ReplayDeadlineStage) (race : Race ω) :
    Except (Failure ω) (Except (Failure ω) α) := do
  throwIfReplayCancelled signal
  match race with
  | .aborted reason => return .error reason.failure
  | .timer => return .error (.deadline stage timeoutMs)
  | .settled (some reason) _ => return .error reason.failure
  | .settled none now => return if now ≥ deadline then .error (.deadline stage timeoutMs) else operation

/-- What an asynchronous computer does: it throws, or it returns a promise that settles so, if it settles. -/
inductive Invocation (ω : Type) where
  | threw (error : ω)
  | promise (result : Except ω State)

/-- A computer sees the action and the payload as the decoder left them. -/
abbrev StateComputer (ω : Type) := Raw → Payload Any → State → Except ω State
abbrev AsyncStateComputer (ω : Type) := Raw → Payload Any → State → Invocation ω

/-- The signal when the step starts, the clock then, the signal when the computer has returned, and the race. -/
structure StepEnvironment (ω : Type) where
  signal : Option (AbortReason ω)
  now : Rat
  controller : Option (AbortReason ω)
  race : Race ω

def invokeAsyncComputer (computer : AsyncStateComputer ω) (action : Raw) (payload : Payload Any) (previous : State)
    (stepMs : Nat) (environment : StepEnvironment ω) : Except (Failure ω) (Except (Failure ω) State) := do
  throwIfReplayCancelled environment.signal
  let deadline := environment.now + stepMs
  match computer action payload previous with
  | .threw error => .error (.thrown error)
  | .promise result =>
    awaitReplayOperationUntil (result.mapError .thrown) environment.controller deadline stepMs .step environment.race

inductive ReplayStepResult (ω : Type) where
  | ready (state : State)
  | pending (state : Except (Failure ω) State)

/-- `start`, with what the environment does during the step. -/
abbrev ReplayExecutionAdapter (ω ε : Type) :=
  ε → Raw → Payload Any → State → Except (Failure ω) (ReplayStepResult ω)

def synchronousReplayExecution {ε : Type} (compute : StateComputer ω) : ReplayExecutionAdapter ω ε :=
  fun _ action payload previous => do return .ready (← (compute action payload previous).mapError .thrown)

def asynchronousReplayExecution (compute : AsyncStateComputer ω) (stepMs : Nat) :
    ReplayExecutionAdapter ω (StepEnvironment ω) :=
  fun environment action payload previous => do
    return .pending (← invokeAsyncComputer compute action payload previous stepMs environment)

end Mirror.Replay
