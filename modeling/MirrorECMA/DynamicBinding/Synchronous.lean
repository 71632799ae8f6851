import MirrorECMA.DynamicBinding.Binding
import MirrorECMA.Machine.Run

namespace Mirror.DynamicBinding

open ECMA Mirror.Protocol Mirror.OpaqueItf
open Mirror.ModelInterface (ResolvedAction ResolvedObservation)

namespace Synchronous

/-- What a registry callback does: it throws, or it returns nothing, a thenable, or some other value. -/
inductive CallbackResult where
  | threw
  | undefined
  | deferred
  | value (native : NativeModelValue)

/-- The registry callback that is running, and the locals of `computer` that outlive it. -/
inductive Callback where
  | handler (action : ResolvedAction)
  | observer (action : ResolvedAction) (observed : List NativeModelValue) (current : ResolvedObservation)
    (rest : List ResolvedObservation)

/-- A call of `computer` that waits for a callback. No second one ever waits: a re-entrant call throws at once. -/
structure Call where
  wireAction : JsString
  callback : Callback

/-- `disposal`: undefined, a promise whose reaction is still queued, or one that has called the disposer. -/
inductive Disposal where
  | undefined
  | queued
  | ran
  deriving DecidableEq

structure BindingState where
  lifecycle : Lifecycle := .fresh
  running : Bool := false
  disposed : Bool := false
  disposal : Disposal := .undefined
  counts : Fields Nat
  call : Option Call := none

/-- What happens next: a call of `computer` or `dispose`, at any time; the end of the running callback; the reaction
that calls the disposer. -/
inductive Input where
  | computer (wireAction : JsString) (payload : State)
  | settle (result : CallbackResult)
  | dispose
  | disposer

inductive Output where
  | startedHandler (action : ResolvedAction) (inputs : Fields NativeModelValue)
  | startedObserver (observation : ResolvedObservation)
  | returned (action : JsString) (state : State)
  | threw (error : DynamicBindingError)
  | disposal
  | disposerCalled

/-- The `catch` and the `finally` of `computer`; `error` is what was thrown, if it is a `DynamicBindingError`. -/
def raise (state : BindingState) (wireAction : JsString) (stage : Stage) (error : Option DynamicBindingError) :
    BindingState × Output :=
  let state := { state with lifecycle := .poisoned, running := false, call := none }
  match stage, error with
  | .dispatch, some error => (state, .threw error)
  | stage, _ => (state, .threw ⟨stage.code, js "dynamic binding failed for action " ++ wireAction⟩)

/-- What follows the last observer. -/
def finish (binding : PreparedBinding) (state : BindingState) (wireAction : JsString) (action : ResolvedAction)
    (observed : List NativeModelValue) : BindingState × Output :=
  if state.lifecycle = .poisoned then raise state wireAction .observation none
  else if state.disposed then raise state wireAction .observation (some ⟨.binding_disposed, js "binding is disposed"⟩)
  else match encodeState binding.descriptor.observations observed with
    | .error _ => raise state wireAction .observation none
    | .ok result =>
      ({ state with counts := countCompleted state.counts action.id, running := false, call := none },
        .returned action.id result)

/-- The observation pass, from the observers that are left. -/
def observe (binding : PreparedBinding) (state : BindingState) (wireAction : JsString) (action : ResolvedAction)
    (observed : List NativeModelValue) : List ResolvedObservation → BindingState × Output
  | [] => finish binding state wireAction action observed
  | observation :: rest =>
    if state.disposed then raise state wireAction .observation (some ⟨.binding_disposed, js "binding is disposed"⟩)
    else ({ state with call := some ⟨wireAction, .observer action observed observation rest⟩ },
      .startedObserver observation)

/-- The call goes on when its callback ends. -/
def resume (binding : PreparedBinding) (state : BindingState) (call : Call) (result : CallbackResult) :
    BindingState × Output :=
  match call.callback with
  | .handler action =>
    match result with
    | .threw | .deferred => raise state call.wireAction .adapter none
    | .undefined =>
      if state.disposed then raise state call.wireAction .adapter (some ⟨.binding_disposed, js "binding is disposed"⟩)
      else if state.lifecycle = .poisoned then
        raise state call.wireAction .adapter (some ⟨.adapter_failure, js "reentrant dynamic callback poisoned the binding"⟩)
      else observe binding { state with lifecycle := .initialized } call.wireAction action [] binding.descriptor.observations
    | .value _ => raise state call.wireAction .adapter none
  | .observer action observed _ rest =>
    match result with
    | .threw | .deferred => raise state call.wireAction .observation none
    | .undefined => observe binding state call.wireAction action (observed ++ [.other]) rest
    | .value native => observe binding state call.wireAction action (observed ++ [native]) rest

def computer (binding : PreparedBinding) (state : BindingState) (wireAction : JsString) (payload : State) :
    BindingState × Output :=
  if state.disposed then (state, .threw ⟨.binding_disposed, js "binding is disposed"⟩)
  else if state.lifecycle = .poisoned then (state, .threw ⟨.binding_poisoned, js "binding is poisoned"⟩)
  else if state.running then
    ({ state with lifecycle := .poisoned },
      .threw ⟨.adapter_failure, js "dynamic binding callbacks must not be reentrant"⟩)
  else
    let state := { state with running := true }
    match binding.actionByWire.get wireAction with
    | none => raise state wireAction .dispatch (some ⟨.unknown_action, js "unknown action " ++ wireAction⟩)
    | some action =>
      if action.phase = .transition ∧ state.lifecycle = .fresh then
        raise state wireAction .dispatch
          (some ⟨.transition_before_initialization, js "transition before initialization"⟩)
      else match projectInputs action payload binding.descriptor with
        | .error _ => raise state wireAction .input none
        | .ok inputs => ({ state with call := some ⟨wireAction, .handler action⟩ }, .startedHandler action inputs)

def dispose (state : BindingState) : BindingState × Output :=
  if state.disposal ≠ .undefined then (state, .disposal)
  else ({ state with disposed := true, disposal := .queued }, .disposal)

/-- A reaction waits until no synchronous call is on the stack. -/
def step (binding : PreparedBinding) (state : BindingState) : Input → Option (BindingState × Output)
  | .computer wireAction payload => some (computer binding state wireAction payload)
  | .settle result => state.call.map fun call => resume binding state call result
  | .dispose => some (dispose state)
  | .disposer =>
    if state.disposal = .queued ∧ state.call.isNone then some ({ state with disposal := .ran }, .disposerCalled) else none

def initial (binding : PreparedBinding) : BindingState := { counts := initialCounts binding }

def coverage (state : BindingState) : Fields Nat := state.counts

def assertAllActionsCovered (state : BindingState) : Except JsString Unit :=
  let unseen := uncovered state.counts
  if unseen ≠ [] then .error (js "uncovered actions: " ++ (js ", ").intercalate unseen) else .ok ()

abbrev Step := Machine.Transition BindingState Input Output

abbrev Run (binding : PreparedBinding) := Machine.Run (step binding) (initial binding)

end Synchronous

end Mirror.DynamicBinding
