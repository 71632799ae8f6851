import MirrorECMA.Compiled.Registration
import MirrorECMA.Machine.Run
import MirrorECMA.Negotiation.Callback

namespace Mirror.Compiled

open ECMA ModelInterface Mirror.Protocol Mirror.Negotiation
open Mirror.Replay (AbortReason AsyncStateComputer CompiledReplayReport Failure Loop MatchedEvidenceTracker Race Received
  ReplayDeadlineStage ReplayExecutionAdapter Round StateComputer StepEnvironment asynchronousReplayExecution
  awaitReplayOperationUntil interrupted receiveReplayMessage replayRound synchronousReplayExecution throwIfReplayCancelled)

variable {ω : Type}

/-! ### Waiting -/

/-- `signal.reason`. -/
abbrev Reason (ω : Type) := AbortReason (Rejection ω)

structure ReplayDeadlines where
  registrationMs : Nat
  stepMs : Nat
  receiveMs : Nat

/-- What ends a wait: an abort, its timer, or the operation, with the clock then and whether the signal was aborted. -/
inductive Ending where
  | aborted
  | timer
  | settled (abortedThen : Bool) (now : Rat)

/-- A wait ends so only if the signal has been aborted where the ending says it. -/
def Ending.race (signal : Option (Reason ω)) : Ending → Option (Race (Rejection ω))
  | .aborted => signal.map .aborted
  | .timer => some .timer
  | .settled true now => signal.map fun reason => .settled (some reason) now
  | .settled false now => some (.settled none now)

/-- The clock when a wait starts, and what ends it. -/
structure Wait where
  start : Rat
  ending : Ending

/-- `awaitReplayOperation` of an operation that may not have settled. The signal was `before` when the wait started. -/
def awaited {α : Type} (operation : Option (Except (Failed ω) α)) (before signal : Option (Reason ω)) (timeoutMs : Nat)
    (stage : ReplayDeadlineStage) (wait : Wait) : Option (Except (Failed ω) α) := do
  let race ← wait.ending.race signal
  let operation ← match race, operation with
    | .settled _ _, operation => operation
    -- the operation has lost its race, so that nothing looks at its result
    | _, operation => some (operation.getD (.error .typeError))
  return (do ← awaitReplayOperationUntil operation before (wait.start + timeoutMs) timeoutMs stage race)

def isReplayControl : Failed ω → Bool
  | .cancelled _ | .deadline _ _ => true
  | _ => false

/-! ### Cleanup -/

/-- The flags and the budget of a suite; the operations that it tracks are left out. -/
structure SuiteLifetime where
  cleanupMs : Nat
  cleanupDeadline : Option Rat := none
  cleanupFailed : Bool := false
  unconfirmed : Bool := false

def SuiteLifetime.startCleanup (lifetime : SuiteLifetime) (now : Rat) : SuiteLifetime :=
  { lifetime with cleanupDeadline := lifetime.cleanupDeadline.or (some (now + lifetime.cleanupMs)) }

/-- The time that `wait` gives an operation. -/
def SuiteLifetime.remaining (lifetime : SuiteLifetime) (now : Rat) : Nat :=
  max 1 (lifetime.cleanupDeadline.getD (now + lifetime.cleanupMs) - now).ceil.toNat

/-- An error of the cleanup; `raised` keeps its identity. -/
inductive CleanupError (ω : Type) where
  | runner (code : NegotiatedRunnerErrorCode) (message : JsString) (cause : Failed ω)
  | cleanup (message : JsString) (cause : Failed ω)
  | raised (error : Failed ω)

def isDeadline : Failed ω → Bool
  | .deadline _ _ => true
  | _ => false

/-- Whether the error or its cause is a deadline. -/
def CleanupError.expired : CleanupError ω → Bool
  | .runner _ _ cause | .cleanup _ cause | .raised cause => isDeadline cause

def SuiteLifetime.conclude (lifetime : SuiteLifetime) (errors : List (CleanupError ω)) : SuiteLifetime :=
  { lifetime with
    cleanupFailed := lifetime.cleanupFailed || !errors.isEmpty
    unconfirmed := lifetime.unconfirmed || errors.any (·.expired) }

/-- An operation of the cleanup waits for the budget of the suite, or for the receive deadline. -/
def awaitCleanup {α : Type} (deadlines : ReplayDeadlines) (lifetime : Option SuiteLifetime)
    (operation : Option (Except (Failed ω) α)) (wait : Wait) : Option (Except (Failed ω) α) :=
  let timeoutMs := match lifetime with
    | some lifetime => lifetime.remaining wait.start
    | none => deadlines.receiveMs
  awaited operation none none timeoutMs .close wait

def disposalError (cause : Failed ω) : CleanupError ω :=
  .runner .adapter_dispose_failed (js "adapter binding disposal failed") cause

def closingError (cause : Failed ω) : CleanupError ω :=
  if isDeadline cause then .raised cause else .cleanup (js "model transport cleanup failed") cause

/-! ### Bindings -/

inductive Computer (ω : Type) where
  | sync (computer : StateComputer (Rejection ω))
  | async (computer : AsyncStateComputer (Rejection ω))

/-- What a binding's `coverage` does at once, where it has one. -/
inductive Coverage (ω : Type) where
  | absent
  | threw (failure : Failed ω)
  | promise

/-- A binding that a factory produces; `rejects` is what `assertCompatibleConfig` throws at once. -/
structure Binding (ω : Type) where
  semanticDigest : JsString
  rejects : Option (Failed ω)
  computer : Computer ω
  coverage : Coverage ω

/-- The promise of the factory. -/
inductive Factory (ω : Type) where
  | unstarted
  | queued
  | running
  | produced (binding : Binding ω)
  | failed (failure : Failed ω)

def Factory.result : Factory ω → Option (Except (Failed ω) (Binding ω))
  | .produced binding => some (.ok binding)
  | .failed failure => some (.error failure)
  | _ => none

/-- `lateFactoryCleanup`. -/
inductive Late (ω : Type) where
  | undefined
  | attached
  | disposing
  | settled (result : Except (Failed ω) Unit)

def Late.result : Late ω → Option (Except (Failed ω) Unit)
  | .settled result => some result
  | _ => none

def execution (binding : Binding ω) (stepMs : Nat) :
    ReplayExecutionAdapter (Rejection ω) (StepEnvironment (Rejection ω)) :=
  match binding.computer with
  | .sync computer => synchronousReplayExecution computer
  | .async computer => asynchronousReplayExecution computer stepMs

/-! ### The machine -/

abbrev Result (ω : Type) := Except (NegotiatedFailure ω) CompiledReplayReport

/-- What the run is waiting for, with the signal when the wait started; `finished` and later: how the run proper ended. -/
inductive Phase (ω : Type) where
  | starting
  | refused (failure : NegotiatedFailure ω)
  | connecting (before : Option (Reason ω))
  | opened
  | registering (before : Option (Reason ω))
  | creating (label : JsString) (before : Option (Reason ω))
  | validating (before : Option (Reason ω))
  | replaying (loop : Loop) (before : Option (Reason ω))
  | covering (report : CompiledReplayReport) (before : Option (Reason ω))
  | finished (result : Result ω)
  | abandoning (primary : NegotiatedFailure ω)
  | disposing (result : Result ω)
  | joining (result : Result ω) (errors : List (CleanupError ω))
  | closing (result : Result ω) (errors : List (CleanupError ω))
  | done (result : Result ω) (errors : List (CleanupError ω))

structure State (ω : Type) where
  phase : Phase ω := .starting
  signal : Option (Reason ω) := none
  factory : Factory ω := .unstarted
  binding : Option (Binding ω) := none
  late : Late ω := .undefined
  evidence : Option MatchedEvidenceTracker
  lifetime : Option SuiteLifetime

/-- A call of the computer. -/
structure Asked where
  action : Raw
  payload : Payload Any
  previous : Protocol.State

inductive Event (ω : Type) where
  | resolved
  | registered
  | factoryCalled
  | produced
  | invoked (asked : Asked)
  | ended (result : Result ω)
  | closed
  | disposed
  | cleanupFailed (error : CleanupError ω)

/-- One round of the replay: what the iterator gives, the clock when the computer is called, aborts while it runs and
while its promise is pending, how the wait for that ends, and an error of `send`. -/
structure Exchange (ω : Type) where
  received : Option (Received (Rejection ω))
  wait : Wait
  now : Rat
  during : Option (Reason ω)
  later : Option (Reason ω)
  ending : Ending
  sendFailure : Option (Rejection ω)

/-- What happens next. An operation that is waited for is given with its result, if it has one. -/
inductive Input (ω : Type) where
  | abort (reason : Reason ω)
  | open (target : Except (Failed ω) Bool)
  | ready (ready : Option (Except (Failed ω) Unit)) (wait : Wait)
  | register (iterator sent : Except (Failed ω) Unit)
  | reply (received : Option (Except (Failed ω) JsString)) (wait : Wait)
  | callFactory (expired : Bool)
  | settleFactory (result : Except (Failed ω) (Binding ω))
  | created (wait : Wait)
  | validated (compatible : Option (Except (Failed ω) Unit)) (wait : Wait)
  | round (exchange : Exchange ω)
  | covered (coverage : Option (Except (Failed ω) Unit)) (wait : Wait)
  | cleanUp (now : Rat)
  | abandoned (closing : Option (Except (Failed ω) Unit)) (wait : Wait)
  | disposal (disposal : Option (Except (Failed ω) Unit)) (wait : Wait)
  | disposeLate
  | settleLate (result : Except (Failed ω) Unit)
  | joined (wait : Wait)
  | closed (closing : Option (Except (Failed ω) Unit)) (wait : Wait)

structure Settings where
  prepared : PreparedExecution
  deadlines : ReplayDeadlines

abbrev Stepped (ω : Type) := State ω × List (Event ω)

/-- The `try` block of the run is over. -/
def finish (state : State ω) (result : Result ω) : Stepped ω := ({ state with phase := .finished result }, [.ended result])

def fail (state : State ω) (failure : NegotiatedFailure ω) : Stepped ω := finish state (.error failure)

/-- The connection is closed before there is anything else to clean up. -/
def abandon (state : State ω) (failure : Failed ω) : Stepped ω :=
  ({ state with phase := .abandoning (.other failure) }, [.ended (.error (.other failure)), .closed])

/-- `target` is whether the transport has a `ready` promise. -/
def openTransport (state : State ω) (target : Except (Failed ω) Bool) : Stepped ω :=
  match (do throwIfReplayCancelled state.signal; target) with
  | .error failure => ({ state with phase := .refused (.other failure) }, [.ended (.error (.other failure))])
  | .ok true => ({ state with phase := .connecting state.signal }, [])
  | .ok false => ({ state with phase := .opened }, [.resolved])

def connected (state : State ω) (ready : Except (Failed ω) Unit) : Stepped ω :=
  match ready with
  | .error failure => abandon state failure
  | .ok () => ({ state with phase := .opened }, [.resolved])

def register (state : State ω) (iterator sent : Except (Failed ω) Unit) : Stepped ω :=
  match iterator with
  | .error failure => abandon state failure
  | .ok () =>
    match (do throwIfReplayCancelled state.signal; sent) with
    | .error failure => fail state (.other failure)
    | .ok () => ({ state with phase := .registering state.signal }, [.registered])

/-- The factory is called in a microtask; an asynchronous one checks its own deadline as well. -/
def callFactory (settings : Settings) (state : State ω) (expired : Bool) : Stepped ω :=
  match throwIfReplayCancelled state.signal with
  | .error failure => ({ state with factory := .failed failure }, [])
  | .ok () =>
    if settings.prepared.execution = .async ∧ expired then
      ({ state with factory := .failed (.deadline .step settings.deadlines.stepMs) }, [])
    else ({ state with factory := .running }, [.factoryCalled])

def settleFactory (state : State ω) : Except (Failed ω) (Binding ω) → Stepped ω
  | .ok binding => ({ state with factory := .produced binding }, [.produced])
  | .error failure => ({ state with factory := .failed failure }, [])

def startReplay (state : State ω) : Stepped ω :=
  ({ state with phase := .replaying { matchedEvidence := state.evidence } state.signal }, [])

def configMismatch (key : CompiledAdapterKey) (cause : Failed ω) : NegotiatedFailure ω :=
  if isReplayControl cause then .other cause
  else .runner .binding_config_mismatch
    (js "binding rejected the effective Apalache configuration for adapter key " ++ key.adapterId)

/-- `validateBinding`, or the beginning of `validateAsyncBinding`. -/
def validate (settings : Settings) (state : State ω) (label : JsString) (binding : Binding ω) : Stepped ω :=
  let key := settings.prepared.key
  match settings.prepared.execution with
  | .sync =>
    match validateBinding ⟨binding.semanticDigest, binding.rejects.isNone, .binding, none⟩ key.semanticDigest label with
    | .error failure => fail state failure
    | .ok () => startReplay state
  | .async =>
    if binding.semanticDigest ≠ key.semanticDigest.hex then
      fail state (.runner .binding_digest_mismatch (js "binding digest does not match async adapter key"))
    else match binding.rejects with
      | some failure => fail state (configMismatch key failure)
      | none => ({ state with phase := .validating state.signal }, [])

/-- The wait for the factory is over. -/
def created (settings : Settings) (state : State ω) (label : JsString) : Except (Failed ω) (Binding ω) → Stepped ω
  | .ok binding => validate settings { state with binding := some binding } label binding
  | .error cause =>
    fail { state with late := .attached }
      (if isReplayControl cause then .other cause
        else .runner .adapter_factory_failed (js "adapter factory failed for " ++ label))

def validated (settings : Settings) (state : State ω) : Except (Failed ω) Unit → Stepped ω
  | .ok () => startReplay state
  | .error cause => fail state (configMismatch settings.prepared.key cause)

def covered (state : State ω) (report : CompiledReplayReport) : Except (Failed ω) Unit → Stepped ω
  | .ok () => finish state (.ok report)
  | .error failure => fail state (.other failure)

/-- The run asks for the coverage in the turn in which its replay has returned. -/
def askCoverage (state : State ω) (binding : Binding ω) (report : CompiledReplayReport) : Stepped ω :=
  match binding.coverage with
  | .absent => finish state (.ok report)
  | .threw failure => fail state (.other failure)
  | .promise => ({ state with phase := .covering report state.signal }, [])

/-- A late factory is joined only under the lifetime of a suite. -/
def afterDisposal (state : State ω) (result : Result ω) (errors : List (CleanupError ω)) : Phase ω :=
  match state.lifetime, state.late with
  | none, _ | some _, .undefined => .closing result errors
  | some _, _ => .joining result errors

/-- The cleanup starts to close before it disposes. -/
def cleanUp (state : State ω) (result : Result ω) (now : Rat) : Stepped ω :=
  let lifetime := state.lifetime.map (SuiteLifetime.startCleanup · now)
  let state := { state with lifetime }
  match state.binding with
  | some _ => ({ state with phase := .disposing result }, [.closed, .disposed])
  | none => ({ state with phase := afterDisposal state result [] }, [.closed])

def disposed (state : State ω) (result : Result ω) : Except (Failed ω) Unit → Stepped ω
  | .ok () => ({ state with phase := afterDisposal state result [] }, [])
  | .error cause =>
    ({ state with phase := afterDisposal state result [disposalError cause] }, [.cleanupFailed (disposalError cause)])

def joined (state : State ω) (result : Result ω) (errors : List (CleanupError ω)) : Except (Failed ω) Unit → Stepped ω
  | .ok () => ({ state with phase := .closing result errors }, [])
  | .error error => ({ state with phase := .closing result (errors ++ [.raised error]) }, [.cleanupFailed (.raised error)])

def conclude (state : State ω) (result : Result ω) (errors : List (CleanupError ω)) : State ω :=
  { state with phase := .done result errors, lifetime := state.lifetime.map (SuiteLifetime.conclude · errors) }

def closed (state : State ω) (result : Result ω) (errors : List (CleanupError ω)) : Except (Failed ω) Unit → Stepped ω
  | .ok () => (conclude state result errors, [])
  | .error cause => (conclude state result (errors ++ [closingError cause]), [.cleanupFailed (closingError cause)])

/-- `lateFactoryCleanup` goes on when the factory has settled. -/
def disposeLate (state : State ω) : Option (Stepped ω) :=
  match state.late, state.factory with
  | .attached, .produced _ => some ({ state with late := .disposing }, [.disposed])
  | .attached, .failed _ => some ({ state with late := .settled (.ok ()) }, [])
  | _, _ => none

section

variable [NumberText] [NumberConversion]

/-- The call that a round makes of the computer: for a message that asks for a state, when nothing is aborted and the
evidence accepts it. -/
def asks {ε : Type} (loop : Loop) (round : Round (Rejection ω) ε) : Option Asked :=
  let begins (initial : Bool) (action : Raw) : Bool :=
    match loop.matchedEvidence with
    | none => true
    | some tracker => ((MatchedEvidenceTracker.begin initial (Mirror.Replay.Raw.string? action)).run.run tracker).1.isOk
  match receiveReplayMessage round.received, round.signal with
  | .ok (.initialState action payload), none => if begins true action then some ⟨action, payload, []⟩ else none
  | .ok (.nextStep action payload), none => if begins false action then some ⟨action, payload, loop.state⟩ else none
  | _, _ => none

/-- The round of the loop that an exchange makes. -/
def Exchange.round (settings : Settings) (exchange : Exchange ω) (before signal : Option (Reason ω)) :
    Option (Round (Rejection ω) (StepEnvironment (Rejection ω))) := do
  let received ← awaited (exchange.received.map .ok) before signal settings.deadlines.receiveMs .receive exchange.wait
  let controller := signal.or exchange.during
  let signalAfter := controller.or exchange.later
  let race ← exchange.ending.race signalAfter
  return {
    received := match received with
      | .ok received => received
      | .error failure => .failed failure
    signal
    environment := { signal, now := exchange.now, controller, race }
    signalAfter
    inactive := none
    sendFailure := exchange.sendFailure }

/-- One round of `replayCore`. -/
def play (settings : Settings) (state : State ω) (binding : Binding ω) (loop : Loop)
    (round : Round (Rejection ω) (StepEnvironment (Rejection ω))) : Stepped ω :=
  let invoked := (asks loop round).toList.map Event.invoked
  let state := { state with signal := round.signalAfter }
  match (replayRound (execution binding settings.deadlines.stepMs) { structuredMismatch := true } round).run.run loop with
  | (.ok none, loop) =>
    ({ state with phase := .replaying loop state.signal, evidence := loop.matchedEvidence }, invoked)
  | (.ok (some report), loop) =>
    let stepped := askCoverage { state with evidence := loop.matchedEvidence } binding report
    (stepped.1, invoked ++ stepped.2)
  | (.error failure, loop) =>
    let stepped := fail { state with evidence := (interrupted loop).matchedEvidence } (.other failure)
    (stepped.1, invoked ++ stepped.2)

variable [Sha256]

/-- The first reply has come, or the wait for it has failed. -/
def replied (settings : Settings) (state : State ω) (received : Except (Failed ω) JsString) : Stepped ω :=
  let authorized : Except (NegotiatedFailure ω) JsString := do
    let decoded ← receiveFirstReply settings.prepared.key.semanticDigest received
    match decoded.modelInterface with
    | some (.failure _) =>
      runnerError .negotiation_status_unexpected "spec_validated carried a registration failure"
    | some (.reply reply) => authorizeExecution settings.prepared (some reply)
    | none => authorizeExecution settings.prepared none
  match authorized with
  | .error failure => fail state failure
  | .ok label => ({ state with phase := .creating label state.signal, factory := .queued }, [])

def step (settings : Settings) (state : State ω) (input : Input ω) : Option (Stepped ω) :=
  let deadlines := settings.deadlines
  match input, state.phase with
  | .abort reason, _ => some ({ state with signal := state.signal.or (some reason) }, [])
  | .open target, .starting => some (openTransport state target)
  | .ready ready wait, .connecting before => do
    return connected state (← awaited ready before state.signal deadlines.registrationMs .registration wait)
  | .register iterator sent, .opened => some (register state iterator sent)
  | .reply received wait, .registering before => do
    return replied settings state (← awaited received before state.signal deadlines.registrationMs .registration wait)
  | .callFactory expired, _ =>
    match state.factory with
    | .queued => some (callFactory settings state expired)
    | _ => none
  | .settleFactory result, _ =>
    match state.factory with
    | .running => some (settleFactory state result)
    | _ => none
  | .created wait, .creating label before =>
    match state.factory, wait.ending with
    | .queued, .timer => none  -- a microtask runs before a timer
    | factory, _ => do
      return created settings state label (← awaited factory.result before state.signal deadlines.stepMs .step wait)
  | .validated compatible wait, .validating before => do
    return validated settings state (← awaited compatible before state.signal deadlines.stepMs .step wait)
  | .round exchange, .replaying loop before => do
    return play settings state (← state.binding) loop (← exchange.round settings before state.signal)
  | .covered coverage wait, .covering report before => do
    return covered state report (← awaited coverage before state.signal deadlines.stepMs .step wait)
  | .cleanUp now, .finished result => some (cleanUp state result now)
  | .abandoned closing wait, .abandoning primary => do
    let lifetime := state.lifetime.map (SuiteLifetime.startCleanup · wait.start)
    return closed { state with lifetime } (.error primary) [] (← awaitCleanup deadlines lifetime closing wait)
  | .disposal disposal wait, .disposing result => do
    return disposed state result (← awaitCleanup deadlines state.lifetime disposal wait)
  | .disposeLate, _ => disposeLate state
  | .settleLate result, _ =>
    match state.late with
    | .disposing => some ({ state with late := .settled result }, [])
    | _ => none
  | .joined wait, .joining result errors => do
    return joined state result errors (← awaitCleanup deadlines state.lifetime state.late.result wait)
  | .closed closing wait, .closing result errors => do
    return closed state result errors (← awaitCleanup deadlines state.lifetime closing wait)
  | _, _ => none

def initial (evidence : Option MatchedEvidenceTracker) (lifetime : Option SuiteLifetime) : State ω := { evidence, lifetime }

abbrev Step (ω : Type) := Machine.Transition (State ω) (Input ω) (List (Event ω))

abbrev Run (settings : Settings) (evidence : Option MatchedEvidenceTracker) (lifetime : Option SuiteLifetime) :
    List (Step ω) → State ω → Prop :=
  Machine.Run (step settings) (initial evidence lifetime)

end

/-! ### The outcome -/

inductive Outcome (ω : Type) where
  | returned (report : CompiledReplayReport)
  | threw (primary : NegotiatedFailure ω) (retained : List (CleanupError ω))
  | cleanupFailed (errors : List (CleanupError ω))

/-- The primary failure comes first and keeps the errors of the cleanup. -/
def outcome : Result ω → List (CleanupError ω) → Outcome ω
  | .error primary, errors => .threw primary errors
  | .ok report, [] => .returned report
  | .ok _, errors => .cleanupFailed errors

def State.outcome (state : State ω) : Option (Outcome ω) :=
  match state.phase with
  | .refused failure => some (.threw failure [])
  | .done result errors => some (Compiled.outcome result errors)
  | _ => none

end Mirror.Compiled
