import MirrorECMA.DynamicBinding.Binding
import MirrorECMA.Negotiation.Authorize

namespace Mirror.Negotiation

open ECMA ModelInterface Mirror.Protocol
open DescriptorCache (Cache)
open DynamicBinding (DynamicHandlerRegistry PreparedBinding prepareBinding)
open Mirror.Replay (Failure Loop ReplayExecutionAdapter ReplayRecorder ReplayStepResult Round replayCore)

variable {ω : Type}

/-- What a call of code outside comes to: it returns or throws, or its promise settles so; `none` for a promise that never
settles. -/
abbrev Called (ω α : Type) := Option (Except ω α)

/-! ### Bindings and their owners -/

/-- A binding that a factory returns; `compatible` is whether `assertCompatibleConfig` returns. -/
structure LocalBinding (ω : Type) where
  semanticDigest : JsString
  compatible : Bool
  disposal : Called ω Unit

/-- A scope that `createRegistry` returns; one without `dispose` is disposed of by doing nothing. -/
structure DynamicRegistryScope (ω : Type) where
  registry : DynamicHandlerRegistry
  disposal : Called ω Unit

inductive RegistrySource (ω : Type) where
  | registry (registry : DynamicHandlerRegistry) (disposal : Called ω Unit)
  | createRegistry (create : SemanticDescriptor → Called ω (DynamicRegistryScope ω))

abbrev Selected (ω : Type) := PreparedSelection (Called ω (LocalBinding ω)) (RegistrySource ω)

/-- What a run has to dispose of: the binding of a factory, a scope, or the binding of a registry that it was given. -/
inductive Resource where
  | binding
  | scope
  | registry
  deriving DecidableEq

/-- Code of the caller that a reply authorizes. -/
inductive Callee where
  | factory
  | fallbackFactory
  | registry
  | createRegistry
  deriving DecidableEq

inductive Event where
  | sent (line : JsString)
  | called (callee : Callee)
  | acquired (resource : Resource)
  | disposed (resource : Resource)
  | closed
  deriving DecidableEq

/-- The binding of a run, with what its `dispose` disposes of. -/
structure OwnedBinding (ω : Type) where
  semanticDigest : JsString
  compatible : Bool
  resource : Resource
  disposal : Called ω Unit

/-! ### Actions under control -/

/-- What a computer does when it is called. -/
inductive CallbackInvocation (ω : Type) where
  | threw (error : ω)
  | value (state : State)
  | promise (settles : Except (Failure (Rejection ω)) State)

/-- One action: the abort that it starts with, its computer, and the abort or timeout that it ends with. A promise settles
under control. -/
structure ActionEnvironment (ω : Type) where
  active : Option ReplayControlErrorCode
  invocation : CallbackInvocation ω
  activeAfter : Option ReplayControlErrorCode

def controlError (code : ReplayControlErrorCode) : Failure (Rejection ω) := .thrown (.control code)

def assertActive (aborted : Option ReplayControlErrorCode) : Except (Failure (Rejection ω)) Unit :=
  match aborted with
  | some code => .error (controlError code)
  | none => .ok ()

/-- `startAction`. -/
def callbackExecution : ReplayExecutionAdapter (Rejection ω) (ActionEnvironment ω) :=
  fun environment _ _ _ => do
    assertActive environment.active
    match environment.invocation with
    | .threw error => .error (.thrown (.value error))
    | .promise settles => return .pending settles
    | .value state => do
      assertActive environment.activeAfter
      return .ready state

/-- `complete`. -/
def completed (recorder : ReplayRecorder) : ReplayRecorder :=
  let recorder := recorder.acknowledge
  { recorder with tracesCompleted := recorder.tracesStarted }

/-! ### The run -/

/-- What the code outside does in a run: creating the iterator, the four checks of the signal, `send`, the first line, the
messages of the replay, and `close`. -/
structure RunEnvironment (ω : Type) where
  iterator : Option ω
  aborted : Fin 4 → Option ReplayControlErrorCode
  sendFailure : Option ω
  received : Option (Except (Failure (Rejection ω)) JsString)
  rounds : List (Round (Rejection ω) (ActionEnvironment ω))
  closing : Called ω Unit

/-- Why the code stops before it returns. -/
inductive Stop (ω : Type) where
  | waits
  | threw (failure : NegotiatedFailure ω)

/-- The variables of the run that its cleanup reads, the cache, and what has been done. -/
structure Run (ω : Type) where
  cache : Cache
  binding : Option (OwnedBinding ω) := none
  disposeScope : Option (Called ω Unit) := none
  events : List Event := []

abbrev Running (ω α : Type) := Machine.Throwing (Stop ω) (Run ω) α

def settle {α : Type} (result : Except (NegotiatedFailure ω) α) : Running ω α :=
  match result with
  | .ok value => return value
  | .error failure => throw (.threw failure)

/-- Wait for a call, with the error that the run makes of its failure. -/
def await {α : Type} (called : Called ω α) (failure : NegotiatedFailure ω) : Running ω α :=
  match called with
  | none => throw .waits
  | some (.ok value) => return value
  | some (.error _) => throw (.threw failure)

def record (event : Event) : Running ω Unit := modify fun run => { run with events := run.events ++ [event] }

def checkActive (aborted : Option ReplayControlErrorCode) : Running ω Unit :=
  settle ((assertActive aborted).mapError .other)

def send (environment : RunEnvironment ω) (line : JsString) : Running ω Unit :=
  match environment.sendFailure with
  | some error => throw (.threw (.other (.thrown (.value error))))
  | none => record (.sent line)

/-- The run owns a binding. -/
def own (binding : OwnedBinding ω) : Running ω Unit := modify fun run => { run with binding := some binding }

def createBinding (callee : Callee) (factory : Called ω (LocalBinding ω)) (adapterId : JsString) : Running ω Unit := do
  record (.called callee)
  let binding ← await factory (.runner .adapter_factory_failed (js "adapter factory failed for " ++ adapterId))
  record (.acquired .binding)
  own ⟨binding.semanticDigest, binding.compatible, .binding, binding.disposal⟩

def ofBindFailure : DynamicBinding.BindFailure → NegotiatedFailure ω
  | .protocol error => .protocol error
  | .binding error => .other (.error error.message)

section

variable [Sha256]

/-- `bindDynamicDescriptor` and `bindAsyncDynamicDescriptor`, as far as the run sees a binding. -/
def bindDescriptor (descriptor : SemanticDescriptor) (registry : DynamicHandlerRegistry) (paramVars : Option JsString)
    (resource : Resource) (disposal : Called ω Unit) : Except (NegotiatedFailure ω) (OwnedBinding ω) := do
  let prepared ← (prepareBinding (some descriptor.toJson) registry).mapError ofBindFailure
  return ⟨prepared.digest.hex, (DynamicBinding.assertCompatibleConfig prepared paramVars).isOk, resource, disposal⟩

def bindDynamic (environment : RunEnvironment ω) (source : RegistrySource ω) (descriptor : SemanticDescriptor)
    (paramVars : Option JsString) : Running ω Unit := do
  match source with
  | .createRegistry create =>
    record (.called .createRegistry)
    let scope ← await (create descriptor) (.runner .adapter_factory_failed (js "dynamic registry factory failed"))
    record (.acquired .scope)
    modify fun run => { run with disposeScope := some scope.disposal }
    checkActive (environment.aborted 2)
    own (← settle (bindDescriptor descriptor scope.registry paramVars .scope scope.disposal))
  | .registry registry disposal =>
    record (.called .registry)
    let binding ← settle (bindDescriptor descriptor registry paramVars .registry disposal)
    record (.acquired .registry)
    own binding

/-- The binding that the authorization allows. -/
def acquire (environment : RunEnvironment ω) (prepared : Selected ω) (paramVars : Option JsString) :
    ReplayAuthorization → Running ω Unit
  | .compiled =>
    match prepared with
    | .compiled key factory _ _ => createBinding .factory factory key.adapterId
    | .dynamic _ _ _ _ _ => throw (.threw (.other (.error (js "internal compiled authorization mismatch"))))
  | .dynamic descriptor =>
    match prepared with
    | .dynamic _ registry _ _ _ => bindDynamic environment registry descriptor paramVars
    | .compiled _ _ _ _ => throw (.threw (.other (.error (js "internal dynamic authorization mismatch"))))
  | .fallback =>
    match prepared.fallbackFactory with
    | some factory => createBinding .fallbackFactory factory (match prepared with
      | .compiled key _ _ _ => key.adapterId ++ js " legacy fallback"
      | .dynamic _ _ _ _ _ => js "dynamic legacy fallback")
    | none => throw (.threw (.other .typeError))

def bindingLabel (prepared : Selected ω) : ReplayAuthorization → JsString
  | .compiled => js "adapter key for " ++ (match prepared with
    | .compiled key _ _ _ => key.adapterId
    | .dynamic _ _ _ _ _ => [])
  | .dynamic _ => js "dynamic registry"
  | .fallback => match prepared with
    | .compiled key _ _ _ => js "legacy fallback for " ++ key.adapterId
    | .dynamic _ _ _ _ _ => js "dynamic legacy fallback"

def validateBinding (binding : OwnedBinding ω) (digest : SemanticDigest) (label : JsString) :
    Except (NegotiatedFailure ω) Unit :=
  if binding.semanticDigest ≠ digest.hex then
    .error (.runner .binding_digest_mismatch (js "binding digest does not match " ++ label))
  else if binding.compatible = false then
    .error (.runner .binding_config_mismatch
      (js "binding rejected the effective Apalache configuration for " ++ label))
  else .ok ()

def validateOwned (digest : SemanticDigest) (label : JsString) : Running ω Unit := do
  match (← get).binding with
  | some binding => settle (validateBinding binding digest label)
  | none => throw (.threw (.other .typeError))

variable [NumberText] [NumberConversion]

def replayLoop (rounds : List (Round (Rejection ω) (ActionEnvironment ω))) : Running ω ReplayRecorder :=
  match replayCore callbackExecution { progress := some {} } rounds with
  | (_, .waiting) => throw .waits
  | (loop, .returned _) => return completed (loop.progress.getD {})
  | (_, .threw failure) => throw (.threw (.other failure))

/-- The reply, and what it authorizes with the cache as it is. -/
def authorize (environment : RunEnvironment ω) (prepared : Selected ω) : Running ω ReplayAuthorization := do
  match environment.received with
  | none => throw .waits
  | some received =>
    let decoded ← settle (receiveNegotiatedFirstReply prepared.expectedDigest received)
    let reply ← match decoded.modelInterface with
      | some (.failure _) =>
        settle (runnerError .negotiation_status_unexpected "spec_validated carried a registration failure")
      | some (.reply reply) => pure (some reply)
      | none => pure none
    let (authorization, cache) := authorizeReply prepared reply (← get).cache
    modify fun run => { run with cache }
    settle authorization

/-- The `try` block. -/
def runProper (environment : RunEnvironment ω) (prepared : Selected ω) (paramVars : Option JsString)
    (registration : JsString) : Running ω ReplayRecorder := do
  checkActive (environment.aborted 0)
  send environment registration
  let authorization ← authorize environment prepared
  checkActive (environment.aborted 1)
  acquire environment prepared paramVars authorization
  checkActive (environment.aborted 3)
  validateOwned prepared.expectedDigest (bindingLabel prepared authorization)
  replayLoop environment.rounds

/-! ### Cleanup -/

/-- What the cleanup disposes of. -/
def Run.owned (run : Run ω) : Option (Resource × Called ω Unit) :=
  match run.binding, run.disposeScope with
  | some binding, _ => some (binding.resource, binding.disposal)
  | none, some disposal => some (.scope, disposal)
  | none, none => none

inductive Outcome (ω : Type) where
  | waiting
  | returned (report : ReplayRecorder)
  | threw (failure : NegotiatedFailure ω)

/-- The error of the cleanup that the run reports when nothing else has failed. -/
def cleanupError (disposal closing : Except ω Unit) : Option (NegotiatedFailure ω) :=
  match disposal, closing with
  | .error _, _ => some (.runner .adapter_dispose_failed (js "adapter binding disposal failed"))
  | .ok _, .error error => some (.other (.thrown (.value error)))
  | .ok _, .ok _ => none

/-- The error of the run proper comes first. -/
def Outcome.first (result : Except (NegotiatedFailure ω) ReplayRecorder) (cleanup : Option (NegotiatedFailure ω)) :
    Outcome ω :=
  match result, cleanup with
  | .error failure, _ => .threw failure
  | .ok _, some failure => .threw failure
  | .ok report, none => .returned report

/-- Dispose of what the run owns; `none` when that never settles. -/
def Run.dispose (run : Run ω) : Option (Except ω Unit) × Run ω :=
  match run.owned with
  | none => (some (.ok ()), run)
  | some (resource, disposal) => (disposal, { run with events := run.events ++ [.disposed resource] })

/-- After the `try` block: dispose, close, and report the first error. -/
def cleanup (environment : RunEnvironment ω) (result : Except (NegotiatedFailure ω) ReplayRecorder) (run : Run ω) :
    Run ω × Outcome ω :=
  match run.dispose with
  | (none, run) => (run, .waiting)
  | (some disposal, run) =>
    let run := { run with events := run.events ++ [.closed] }
    match environment.closing with
    | none => (run, .waiting)
    | some closing => (run, .first result (cleanupError disposal closing))

def runNegotiatedReplay (environment : RunEnvironment ω) (prepared : Selected ω) (paramVars : Option JsString)
    (registration : JsString) (cache : Cache) : Run ω × Outcome ω :=
  match environment.iterator with
  | some error => ({ cache }, .threw (.other (.thrown (.value error))))
  | none =>
    match (runProper environment prepared paramVars registration).run.run { cache } with
    | (.error .waits, run) => (run, .waiting)
    | (.error (.threw failure), run) => cleanup environment (.error failure) run
    | (.ok report, run) => cleanup environment (.ok report) run

end

end Mirror.Negotiation
