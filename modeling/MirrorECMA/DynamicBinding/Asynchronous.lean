import MirrorECMA.DynamicBinding.Binding
import MirrorECMA.Machine.Run

namespace Mirror.DynamicBinding

open ECMA Mirror.Protocol Mirror.OpaqueItf
open Mirror.ModelInterface (ResolvedAction ResolvedObservation)

namespace Asynchronous

/-- What a promise comes to: a value, which may be undefined, or an error, which is kept if it is a `DynamicBindingError`. -/
inductive Settled where
  | fulfilled (value : Option NativeModelValue)
  | rejected (error : Option DynamicBindingError)

/-- How a callback leaves the stack. -/
inductive CallbackReturn where
  | settled (result : Settled)
  | promise

/-- `signal.reason`. -/
inductive AbortReason where
  | binding (error : DynamicBindingError)
  | other

def AbortReason.error : AbortReason → DynamicBindingError
  | .binding error => error
  | .other => ⟨.binding_aborted, js "dynamic binding invocation aborted"⟩

/-- The registry callback that `computer` awaits, and the locals that outlive it. -/
inductive Callback where
  | handler (action : ResolvedAction)
  | observer (action : ResolvedAction) (observed : List NativeModelValue) (current : ResolvedObservation)
    (rest : List ResolvedObservation)

/-- A call of `computer` between two of its steps. `settled` belongs to the promise of the callback, `awaited` to the one
of `invokeUntilAborted`. -/
structure Call where
  wireAction : JsString
  aborted : Option AbortReason
  callback : Callback
  id : Nat
  entered : Bool
  settled : Option Settled
  awaited : Option Settled

/-- `disposal`: undefined, a promise whose reaction is still queued, or one that has called the disposer. -/
inductive Disposal where
  | undefined
  | queued
  | ran
  deriving DecidableEq

/-- Callbacks are numbered in the order in which they start; `outstanding` are those whose promise is pending. -/
structure BindingState where
  lifecycle : Lifecycle := .fresh
  running : Bool := false
  disposed : Bool := false
  disposal : Disposal := .undefined
  counts : Fields Nat
  call : Option Call := none
  callbacks : Nat := 0
  outstanding : List Nat := []

/-- What happens next: a call of `computer`, whose signal may be aborted already, or of `dispose`; an abort of the signal
of the call in flight; the callback on the stack returns; a promise of a callback settles; one of the reactions runs. -/
inductive Input where
  | computer (wireAction : JsString) (payload : State) (signal : Option AbortReason)
  | dispose
  | abort (reason : AbortReason)
  | returns (result : CallbackReturn)
  | settle (id : Nat) (result : Settled)
  | react
  | resume
  | disposer

inductive Output where
  | startedHandler (id : Nat) (action : ResolvedAction) (inputs : Fields NativeModelValue)
  | startedObserver (id : Nat) (observation : ResolvedObservation)
  | returned (action : JsString) (state : State)
  | threw (error : DynamicBindingError)
  | silent
  | disposal
  | disposerCalled

/-- `controller.abort`, with the listener of `invokeUntilAborted`. -/
def Call.abort (call : Call) (reason : AbortReason) : Call :=
  if call.aborted.isSome then call
  else { call with aborted := some reason, awaited := call.awaited.or (some (.rejected (some reason.error))) }

/-- The error that `assertActive` throws. -/
def assertActive (state : BindingState) (aborted : Option AbortReason) : Option DynamicBindingError :=
  if state.disposed then some ⟨.binding_disposed, js "binding is disposed"⟩
  else match aborted with
    | some reason => some reason.error
    | none => if state.lifecycle = .poisoned then some ⟨.binding_poisoned, js "binding is poisoned"⟩ else none

/-- The `catch` and the `finally` of `computer`; `error` is what was thrown, if it is a `DynamicBindingError`. -/
def raise (state : BindingState) (wireAction : JsString) (stage : Stage) (error : Option DynamicBindingError) :
    BindingState × Output :=
  let state := { state with lifecycle := .poisoned, running := false, call := none }
  let failure : DynamicBindingError := ⟨stage.code, js "dynamic binding failed for action " ++ wireAction⟩
  match error with
  | some error =>
    if stage = .dispatch ∨ error.code = .binding_aborted ∨ error.code = .binding_disposed then (state, .threw error)
    else (state, .threw failure)
  | none => (state, .threw failure)

/-- Call the next callback. `assertActive` has just seen that the signal is not aborted. -/
def invoke (state : BindingState) (wireAction : JsString) (callback : Callback) : BindingState :=
  { state with
    call := some ⟨wireAction, none, callback, state.callbacks, true, none, none⟩
    callbacks := state.callbacks + 1
    outstanding := state.callbacks :: state.outstanding }

/-- What follows the last observer. No callback runs between the remaining checks. -/
def finish (binding : PreparedBinding) (state : BindingState) (wireAction : JsString) (aborted : Option AbortReason)
    (action : ResolvedAction) (observed : List NativeModelValue) : BindingState × Output :=
  match assertActive state aborted with
  | some error => raise state wireAction .observation (some error)
  | none =>
    match encodeState binding.descriptor.observations observed with
    | .error _ => raise state wireAction .observation none
    | .ok result =>
      ({ state with counts := countCompleted state.counts action.id, running := false, call := none },
        .returned action.id result)

/-- The observation pass, from the observers that are left. -/
def observe (binding : PreparedBinding) (state : BindingState) (wireAction : JsString) (aborted : Option AbortReason)
    (action : ResolvedAction) (observed : List NativeModelValue) : List ResolvedObservation → BindingState × Output
  | [] => finish binding state wireAction aborted action observed
  | observation :: rest =>
    match assertActive state aborted with
    | some error => raise state wireAction .observation (some error)
    | none =>
      (invoke state wireAction (.observer action observed observation rest),
        .startedObserver state.callbacks observation)

def Callback.stage : Callback → Stage
  | .handler _ => .adapter
  | .observer _ _ _ _ => .observation

/-- The call goes on when the promise that it awaits has settled. -/
def resume (binding : PreparedBinding) (state : BindingState) (call : Call) (result : Settled) : BindingState × Output :=
  match result with
  | .rejected error => raise state call.wireAction call.callback.stage error
  | .fulfilled value =>
    match assertActive state call.aborted with
    | some error => raise state call.wireAction call.callback.stage (some error)
    | none =>
      match call.callback with
      | .handler action =>
        if value.isSome then raise state call.wireAction .adapter none
        else observe binding { state with lifecycle := .initialized } call.wireAction call.aborted action []
          binding.descriptor.observations
      | .observer action observed _ rest =>
        observe binding state call.wireAction call.aborted action (observed ++ [value.getD .other]) rest

def computer (binding : PreparedBinding) (state : BindingState) (wireAction : JsString) (payload : State)
    (signal : Option AbortReason) : BindingState × Output :=
  if state.disposed then (state, .threw ⟨.binding_disposed, js "binding is disposed"⟩)
  else if state.lifecycle = .poisoned then (state, .threw ⟨.binding_poisoned, js "binding is poisoned"⟩)
  else if state.running then
    let error := ⟨.adapter_failure, js "dynamic binding callbacks must not be reentrant"⟩
    ({ state with lifecycle := .poisoned, call := state.call.map (·.abort (.binding error)) }, .threw error)
  else
    let state := { state with running := true }
    match assertActive state signal with
    | some error => raise state wireAction .dispatch (some error)
    | none =>
      match binding.actionByWire.get wireAction with
      | none => raise state wireAction .dispatch (some ⟨.unknown_action, js "unknown action " ++ wireAction⟩)
      | some action =>
        if action.phase = .transition ∧ state.lifecycle = .fresh then
          raise state wireAction .dispatch
            (some ⟨.transition_before_initialization, js "transition before initialization"⟩)
        else match projectInputs action payload binding.descriptor with
          | .error _ => raise state wireAction .input none
          | .ok inputs =>
            (invoke state wireAction (.handler action), .startedHandler state.callbacks action inputs)

def dispose (state : BindingState) : BindingState × Output :=
  if state.disposal ≠ .undefined then (state, .disposal)
  else
    let error := ⟨.binding_disposed, js "binding is disposed"⟩
    ({ state with disposed := true, call := state.call.map (·.abort (.binding error)), disposal := .queued }, .disposal)

/-- The callback leaves the stack; an error that it throws there rejects the awaited promise at once. -/
def returns (state : BindingState) (call : Call) : CallbackReturn → BindingState
  | .promise => { state with call := some { call with entered := false } }
  | .settled (.fulfilled value) =>
    { state with
      call := some { call with entered := false, settled := some (.fulfilled value) }
      outstanding := state.outstanding.erase call.id }
  | .settled (.rejected error) =>
    { state with
      call := some { call with
        entered := false, settled := some (.rejected error), awaited := call.awaited.or (some (.rejected error)) }
      outstanding := state.outstanding.erase call.id }

/-- A promise settles: that of the callback in flight, which has left the stack, or that of an abandoned one. -/
def settle (state : BindingState) (id : Nat) (result : Settled) : BindingState :=
  { state with
    call := state.call.map fun call => if call.id = id then { call with settled := some result } else call
    outstanding := state.outstanding.erase id }

/-- Whether a callback is on the stack, so that no reaction may run. -/
def BindingState.entered (state : BindingState) : Bool := state.call.any (·.entered)

def step (binding : PreparedBinding) (state : BindingState) : Input → Option (BindingState × Output)
  | .computer wireAction payload signal => some (computer binding state wireAction payload signal)
  | .dispose => some (dispose state)
  | .abort reason => some ({ state with call := state.call.map (·.abort reason) }, .silent)
  | .returns result => do
    let call ← state.call
    if call.entered then some (returns state call result, .silent) else none
  | .settle id result =>
    if id ∈ state.outstanding ∧ ¬ state.call.any (fun call => call.entered && call.id = id) then
      some (settle state id result, .silent)
    else none
  | .react => do
    let call ← state.call
    if call.entered then none
    else do
      let result ← call.settled
      some ({ state with call := some { call with awaited := call.awaited.or (some result) } }, .silent)
  | .resume => do
    let call ← state.call
    if call.entered then none
    else do
      let result ← call.awaited
      some (resume binding state call result)
  | .disposer =>
    if state.disposal = .queued ∧ ¬ state.entered then some ({ state with disposal := .ran }, .disposerCalled) else none

def initial (binding : PreparedBinding) : BindingState := { counts := initialCounts binding }

def coverage (state : BindingState) : Fields Nat := state.counts

abbrev Step := Machine.Transition BindingState Input Output

abbrev Run (binding : PreparedBinding) := Machine.Run (step binding) (initial binding)

end Asynchronous

end Mirror.DynamicBinding
