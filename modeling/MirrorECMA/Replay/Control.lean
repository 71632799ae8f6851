import Mathlib.Data.NNRat.Defs
import MirrorECMA.Machine.Race
import MirrorECMA.Replay.Agreement

namespace Mirror.Replay

open ECMA Mirror.Protocol

/-! ### `ReplayControl` -/

inductive ReplayControlCode where
  | replay_aborted
  | action_timeout
  | receive_timeout
  deriving DecidableEq

/-- The cause is the reason of the caller's signal. -/
structure ReplayControlError (ω : Type) where
  code : ReplayControlCode
  message : JsString
  cause : Option ω
  deriving DecidableEq

/-- What is thrown or rejected with: a reason of the control's signal, or a value `ω` of code outside. -/
inductive Outside (ω : Type) where
  | undefined
  | control (error : ReplayControlError ω)
  | value (value : ω)
  deriving DecidableEq

structure ReplayOptions (ω : Type) where
  /-- The reason of the caller's signal, where it is aborted already. -/
  aborted : Option ω := none
  actionTimeoutMs : Option Double := none
  receiveTimeoutMs : Option Double := none

/-- A timeout that has been checked. -/
structure Timeout where
  ms : Rat
  positive : 0 < ms
  bounded : ms ≤ 2147483647

/-- A `RangeError` with this message, or the timeout. -/
def checkTimeout (key : String) : Option Double → Except JsString (Option Timeout)
  | none => .ok none
  | some (.finite ms) =>
    if valid : 0 < ms ∧ ms ≤ 2147483647 then .ok (some ⟨ms, valid.1, valid.2⟩)
    else .error (js key ++ js " must be positive and at most 2147483647 milliseconds")
  | some _ => .error (js key ++ js " must be positive and at most 2147483647 milliseconds")

inductive ControlledKind where
  | action
  | receive
  deriving DecidableEq

/-- The timeouts, `performance.now()`, and `signal.reason` once the signal is aborted. -/
structure ReplayControl (ω : Type) where
  actionTimeout : Option Timeout
  receiveTimeout : Option Timeout
  clock : Rat
  reason : Option (ReplayControlError ω)

/-- A synchronous call of code outside: how long it takes, whether the caller's signal is aborted in it, and its end. -/
structure Calling (ω ρ : Type) where
  elapsed : ℚ≥0
  aborts : Option ω
  result : Except (Outside ω) ρ

/-- What a computer returns. -/
inductive Computed where
  | state (state : State)
  | promise

namespace ReplayControl

variable {ω ρ : Type}

/-- The error of `externalAbort`. -/
def externalAbort (cause : ω) : ReplayControlError ω := ⟨.replay_aborted, js "replay aborted", some cause⟩

/-- `controller.abort`: the first reason stays. -/
def abort (error : ReplayControlError ω) (control : ReplayControl ω) : ReplayControl ω :=
  { control with reason := control.reason <|> some error }

/-- `validateReplayOptions` and the constructor. -/
def new (options : ReplayOptions ω) : Except JsString (ReplayControl ω) := do
  let actionTimeout ← checkTimeout "actionTimeoutMs" options.actionTimeoutMs
  let receiveTimeout ← checkTimeout "receiveTimeoutMs" options.receiveTimeoutMs
  return { actionTimeout, receiveTimeout, clock := 0, reason := options.aborted.map externalAbort }

def timeout (control : ReplayControl ω) : ControlledKind → Option Timeout
  | .action => control.actionTimeout
  | .receive => control.receiveTimeout

/-- `throw this.signal.reason`. -/
def thrown (control : ReplayControl ω) : Outside ω :=
  match control.reason with
  | some error => .control error
  | none => .undefined

def assertActive (control : ReplayControl ω) : Except (Outside ω) Unit :=
  if control.reason.isSome then .error control.thrown else .ok ()

/-- The control after a synchronous call. -/
def during (call : Calling ω ρ) (control : ReplayControl ω) : ReplayControl ω :=
  { control with
    clock := control.clock + call.elapsed
    reason := control.reason <|> call.aborts.map externalAbort }

section

variable [NumberText]

/-- The error of `expire`. -/
def timedOut (kind : ControlledKind) (timeout : Timeout) : ReplayControlError ω :=
  match kind with
  | .action => ⟨.action_timeout, js "action timed out after " ++ NumberText.text (.finite timeout.ms) ++ js " ms", none⟩
  | .receive => ⟨.receive_timeout, js "receive timed out after " ++ NumberText.text (.finite timeout.ms) ++ js " ms", none⟩

/-- The check of the time that has passed. -/
def elapse (kind : ControlledKind) (started : Rat) (control : ReplayControl ω) : ReplayControl ω :=
  match control.timeout kind with
  | some timeout => if timeout.ms ≤ control.clock - started then control.abort (timedOut kind timeout) else control
  | none => control

/-- `startAction`, up to `run` where the computer has returned a promise. -/
def startAction (compute : Calling ω Computed) (control : ReplayControl ω) :
    Except (Outside ω) Computed × ReplayControl ω :=
  if control.reason.isSome then (.error control.thrown, control)
  else
    let called := control.during compute
    match compute.result with
    | .error thrown => (.error thrown, called)
    | .ok .promise => (called.assertActive.map fun _ => .promise, called)
    | .ok (.state state) =>
      let checked := called.elapse .action control.clock
      (checked.assertActive.map fun _ => .state state, checked)

/-- `run` after its race. -/
def awaited (kind : ControlledKind) (started : Rat) (winner : Machine.Winner (Outside ω) ρ) (control : ReplayControl ω) :
    Except (Outside ω) ρ × ReplayControl ω :=
  match winner with
  | .call (.ok value) =>
    let checked := control.elapse kind started
    (checked.assertActive.map fun _ => value, checked)
  | .call (.error thrown) => (.error thrown, control)
  | .timer | .abort => (.error control.thrown, control)

end

end ReplayControl

def ReplayRecorder.complete (recorder : ReplayRecorder) : ReplayRecorder :=
  let recorder := recorder.acknowledge
  { recorder with tracesCompleted := recorder.tracesStarted }

namespace Controlled

variable {ω : Type}

/-! ### `replayLoop` -/

/-- How the loop ends, with what the recorder has counted. -/
inductive Ended (ω : Type) where
  | returned (recorder : ReplayRecorder)
  | threw (failure : Failure (Outside ω))

inductive Phase (ω : Type) where
  | starting
  /-- `control.run` of a line, or of the end of the lines. -/
  | receiving (started : Rat) (race : Machine.Race (Outside ω) (Option JsString))
  /-- `control.run` has returned, and the loop has not got to the message yet. -/
  | received (line : Option JsString)
  /-- `control.run` of a promised state, and when it came. -/
  | computing (msg : AnyMessage) (started : Rat) (race : Machine.Race (Outside ω) (State × Rat))
  /-- The same for a state, with the time that the computer took. -/
  | computed (msg : AnyMessage) (state : State) (took : Rat)
  | finished (ended : Ended ω)

structure Replaying (ω : Type) where
  control : ReplayControl ω
  loop : Loop
  phase : Phase ω

/-- What is seen of a replay. -/
inductive Event (ω : Type) where
  | aborted (reason : ReplayControlError ω)
  /-- What is awaited has been rejected. -/
  | failed
  /-- A line is sent, of a state for which the computer took this time. -/
  | reported (line : JsString) (took : Rat)
  | ended (ended : Ended ω)

inductive Input (ω : Type) where
  | abort (cause : ω)
  | pass (elapsed : ℚ≥0)
  /-- The timer of `control.run`. -/
  | expire
  | line (event : Machine.Race.Event (Outside ω) (Option JsString))
  | state (event : Machine.Race.Event (Outside ω) State)
  /-- The code of the loop goes on; it may call the computer and `send`. -/
  | resume (compute : Calling ω Computed) (send : Calling ω Unit)

abbrev Next (ω : Type) := Replaying ω × List (Event ω)

def noticed (before after : ReplayControl ω) : List (Event ω) :=
  match before.reason, after.reason with
  | none, some reason => [.aborted reason]
  | _, _ => []

def finish (ended : Ended ω) (s : Replaying ω) : Next ω := ({ s with phase := .finished ended }, [.ended ended])

def fail (failure : Failure (Outside ω)) (s : Replaying ω) : Next ω :=
  finish (.threw failure) { s with loop := interrupted s.loop }

/-- `receive` up to the race. -/
def receive (s : Replaying ω) : Next ω :=
  if s.control.reason.isSome then fail (.thrown s.control.thrown) s
  else ({ s with phase := .receiving s.control.clock .start }, [])

/-- The end of a round. -/
def conclude (s : Replaying ω) : Except (Failure (Outside ω)) (Option CompiledReplayReport) × Loop → Next ω
  | (.ok none, loop) => receive { s with loop }
  | (.ok (some _), loop) => finish (.returned (loop.progress.getD {}).complete) { s with loop }
  | (.error failure, loop) => fail failure { s with loop }

/-- The computer of a round has come to this already. -/
abbrev Answer (ω : Type) := Except (Failure (Outside ω)) (ReplayStepResult (Outside ω))

def given : ReplayExecutionAdapter (Outside ω) (Answer ω) := fun answer _ _ _ => answer

def stateOf : Answer ω → Option State
  | .ok (.ready state) | .ok (.pending (.ok state)) => some state
  | _ => none

def Round.failure (send : Calling ω Unit) : Option (Outside ω) :=
  match send.result with
  | .error thrown => some thrown
  | .ok _ => none

def roundOf (answer : Answer ω) (send : Calling ω Unit) (control : ReplayControl ω) : Round (Outside ω) (Answer ω) where
  received := .done
  signal := none
  environment := answer
  signalAfter := none
  inactive := control.reason.map fun error => .thrown (.control error)
  sendFailure := Round.failure send

section

variable [NumberText]

/-- The `switch` of the loop. -/
def turn (msg : AnyMessage) (answer : Answer ω) (send : Calling ω Unit) (s : Replaying ω) :
    Except (Failure (Outside ω)) (Option CompiledReplayReport) × Loop :=
  (dispatch given {} (roundOf answer send s.control) msg).run.run s.loop

/-- A round whose computer has answered: its state is sent where the signal is not aborted. -/
def report (msg : AnyMessage) (answer : Answer ω) (took : Rat) (send : Calling ω Unit) (s : Replaying ω) : Next ω :=
  match stateOf answer, s.control.reason with
  | some state, none =>
    let sent := s.control.during send
    let next := conclude { s with control := sent } (turn msg answer send s)
    (next.1, .reported (encodeReportState state) took :: (noticed s.control sent ++ next.2))
  | _, _ => conclude s (turn msg answer send s)

variable [NumberConversion]

def readMessage (line : Option JsString) : Except (Failure (Outside ω)) AnyMessage :=
  receiveReplayMessage (match line with
    | some text => .line text
    | none => .done)

/-- The loop has got to a message. -/
def handle (line : Option JsString) (compute : Calling ω Computed) (send : Calling ω Unit) (s : Replaying ω) : Next ω :=
  match readMessage line with
  | .error failure => fail failure s
  | .ok msg =>
    if (stimulus msg).isSome then
      let started := s.control.startAction compute
      let called := { s with control := started.2 }
      let next := match started.1 with
        | .error thrown => report msg (.error (.thrown thrown)) compute.elapsed send called
        | .ok (.state state) => report msg (.ok (.ready state)) compute.elapsed send called
        | .ok .promise => ({ called with phase := .computing msg s.control.clock .start }, [])
      (next.1, noticed s.control started.2 ++ next.2)
    else conclude s (turn msg (.error .typeError) send s)

def resume (compute : Calling ω Computed) (send : Calling ω Unit) (s : Replaying ω) : Option (Next ω) :=
  match s.phase with
  | .starting => some (receive s)
  | .receiving started race => race.winner.map fun winner =>
    let awaited := s.control.awaited .receive started winner
    let after := { s with control := awaited.2 }
    let next := match awaited.1 with
      | .error thrown => fail (.thrown thrown) after
      | .ok line => ({ after with phase := .received line }, [])
    (next.1, noticed s.control awaited.2 ++ next.2)
  | .received line => some (handle line compute send s)
  | .computing msg started race => race.winner.map fun winner =>
    let awaited := s.control.awaited .action started winner
    let after := { s with control := awaited.2 }
    let next := match awaited.1 with
      | .error thrown => report msg (.ok (.pending (.error (.thrown thrown)))) 0 send after
      | .ok state => ({ after with phase := .computed msg state.1 (state.2 - started) }, [])
    (next.1, noticed s.control awaited.2 ++ next.2)
  | .computed msg state took => some (report msg (.ok (.pending (.ok state))) took send s)
  | .finished _ => none

def Phase.abort : Phase ω → Phase ω
  | .receiving started race => .receiving started race.abort
  | .computing msg started race => .computing msg started race.abort
  | phase => phase

/-- The signal is aborted, if it is not yet. -/
def abort (error : ReplayControlError ω) (s : Replaying ω) : Next ω :=
  match s.control.reason with
  | none => ({ s with control := s.control.abort error, phase := s.phase.abort }, [.aborted error])
  | some _ => (s, [])

/-- What a race is told of the timer: that of `control.run` aborts the signal. -/
def raceStep {ρ : Type} (s : Replaying ω) (phase : Machine.Race (Outside ω) ρ → Phase ω) (race : Machine.Race (Outside ω) ρ)
    (event : Machine.Race.Event (Outside ω) ρ) : Option (Next ω) :=
  match event with
  | .timer => none
  | event => (race.step s.control.thrown event).map fun next =>
    ({ s with phase := phase next.1 },
      match event, race.settled with
      | .deliver, some (.error _) => [.failed]
      | _, _ => [])

/-- The time at which a state comes is kept with it. -/
def stamp (clock : Rat) : Machine.Race.Event (Outside ω) State → Machine.Race.Event (Outside ω) (State × Rat)
  | .begin => .begin
  | .settle result => .settle (result.map fun state => (state, clock))
  | .deliver => .deliver
  | .timer => .timer

def expire {ρ : Type} (kind : ControlledKind) (race : Machine.Race (Outside ω) ρ) (s : Replaying ω) : Option (Next ω) :=
  if race.begun && race.winner.isNone then
    (s.control.timeout kind).map fun timeout => abort (ReplayControl.timedOut kind timeout) s
  else none

def step (s : Replaying ω) : Input ω → Option (Next ω)
  | .abort cause => some (abort (ReplayControl.externalAbort cause) s)
  | .pass elapsed => some ({ s with control := { s.control with clock := s.control.clock + elapsed } }, [])
  | .expire =>
    match s.phase with
    | .receiving _ race => expire .receive race s
    | .computing _ _ race => expire .action race s
    | _ => none
  | .line event =>
    match s.phase with
    | .receiving started race => raceStep s (.receiving started) race event
    | _ => none
  | .state event =>
    match s.phase with
    | .computing msg started race => raceStep s (.computing msg started) race (stamp s.control.clock event)
    | _ => none
  | .resume compute send => resume compute send s

/-- The state in which `replayLoop` is called. -/
def replayLoop (control : ReplayControl ω) : Replaying ω where
  control := control
  loop := { progress := some {} }
  phase := .starting

end

end Controlled

end Mirror.Replay
