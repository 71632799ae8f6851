import MirrorECMA.DynamicBinding.Asynchronous
import MirrorECMA.DynamicBinding.SynchronousRuns

namespace Mirror.DynamicBinding

open ECMA Mirror.Protocol Mirror.OpaqueItf
open Mirror.ModelInterface (ResolvedAction ResolvedObservation)

namespace Asynchronous

/-! ### What a step can do -/

/-- The state in which a call that failed leaves the binding. -/
def failed (state : BindingState) : BindingState := { state with lifecycle := .poisoned, running := false, call := none }

theorem raise_failed (state : BindingState) (wireAction : JsString) (stage : Stage) (error : Option DynamicBindingError) :
    ∃ thrown, raise state wireAction stage error = (failed state, .threw thrown) := by
  cases error with
  | none => exact ⟨_, rfl⟩
  | some error =>
    by_cases passed : stage = .dispatch ∨ error.code = .binding_aborted ∨ error.code = .binding_disposed
    · exact ⟨error, by rw [raise]; exact if_pos passed⟩
    · exact ⟨_, by rw [raise]; exact if_neg passed⟩

/-- `assertActive` lets the call go on. -/
structure Active (state : BindingState) (aborted : Option AbortReason) : Prop where
  undisposed : state.disposed = false
  unaborted : aborted = none
  healthy : state.lifecycle ≠ .poisoned

theorem assertActive_none {state : BindingState} {aborted : Option AbortReason} (passes : assertActive state aborted = none) :
    Active state aborted := by
  unfold assertActive at passes
  by_cases disposed : state.disposed = true
  · rw [if_pos disposed] at passes
    cases passes
  rw [if_neg disposed] at passes
  cases aborted with
  | some reason => cases passes
  | none =>
    by_cases poisoned : state.lifecycle = .poisoned
    · rw [if_pos poisoned] at passes
      cases passes
    · exact ⟨Bool.not_eq_true _ ▸ disposed, rfl, poisoned⟩

def Callback.action : Callback → ResolvedAction
  | .handler action => action
  | .observer action _ _ _ => action

/-- The observations that follow this callback. -/
def Callback.left (binding : PreparedBinding) : Callback → List ResolvedObservation
  | .handler _ => binding.descriptor.observations
  | .observer _ _ _ rest => rest

/-- A handler returns nothing. -/
def Callback.Accepts (value : Option NativeModelValue) : Callback → Prop
  | .handler _ => value = none
  | .observer _ _ _ _ => True

/-- All that a step may do to a state. -/
inductive Effect (binding : PreparedBinding) (state : BindingState) : Input → BindingState → Output → Prop
  | refused {wireAction : JsString} {payload : State} {signal : Option AbortReason} {error : DynamicBindingError} :
    state.disposed = true ∨ state.lifecycle = .poisoned →
    Effect binding state (.computer wireAction payload signal) state (.threw error)
  | overlapped {wireAction : JsString} {payload : State} {signal : Option AbortReason} {error : DynamicBindingError}
    {reason : AbortReason} : Effect binding state (.computer wireAction payload signal)
      { state with lifecycle := .poisoned, call := state.call.map (·.abort reason) } (.threw error)
  | undispatched {wireAction : JsString} {payload : State} {signal : Option AbortReason} {error : DynamicBindingError} :
    Effect binding state (.computer wireAction payload signal) (failed state) (.threw error)
  | started {wireAction : JsString} {payload : State} {signal : Option AbortReason} {action : ResolvedAction}
    {inputs : Fields NativeModelValue} : state.running = false → Active state signal →
    Effect binding state (.computer wireAction payload signal)
      (invoke { state with running := true } wireAction (.handler action)) (.startedHandler state.callbacks action inputs)
  | disposedAgain : state.disposal ≠ .undefined → Effect binding state .dispose state .disposal
  | disposed {reason : AbortReason} : Effect binding state .dispose
      { state with disposed := true, call := state.call.map (·.abort reason), disposal := .queued } .disposal
  | aborted {reason : AbortReason} :
    Effect binding state (.abort reason) { state with call := state.call.map (·.abort reason) } .silent
  | left {call : Call} {result : CallbackReturn} : state.call = some call → call.entered = true →
    Effect binding state (.returns result) (returns state call result) .silent
  | settled {id : Nat} {result : Settled} : id ∈ state.outstanding →
    (∀ call, state.call = some call → call.id = id → call.entered = false) →
    Effect binding state (.settle id result) (settle state id result) .silent
  | reacted {call : Call} {result : Settled} : state.call = some call → call.entered = false →
    call.settled = some result →
    Effect binding state .react { state with call := some { call with awaited := call.awaited.or (some result) } } .silent
  | failed {call : Call} {error : DynamicBindingError} : state.call = some call →
    Effect binding state .resume (failed state) (.threw error)
  | next {call : Call} {value : Option NativeModelValue} {lifecycle : Lifecycle} {observed : List NativeModelValue}
    {observation : ResolvedObservation} {rest : List ResolvedObservation} : state.call = some call →
    call.awaited = some (.fulfilled value) → Active state call.aborted → call.callback.Accepts value →
    lifecycle ≠ .poisoned → call.callback.left binding = observation :: rest →
    Effect binding state .resume
      (invoke { state with lifecycle } call.wireAction (.observer call.callback.action observed observation rest))
      (.startedObserver state.callbacks observation)
  | returned {call : Call} {value : Option NativeModelValue} {lifecycle : Lifecycle} {returned : State} :
    state.call = some call → call.awaited = some (.fulfilled value) → Active state call.aborted →
    call.callback.Accepts value → lifecycle ≠ .poisoned → call.callback.left binding = [] →
    Effect binding state .resume
      { state with
        lifecycle, counts := countCompleted state.counts call.callback.action.id, running := false, call := none }
      (.returned call.callback.action.id returned)
  | disposer : state.disposal = .queued → Effect binding state .disposer { state with disposal := .ran } .disposerCalled

theorem computer_effect (binding : PreparedBinding) (state : BindingState) (wireAction : JsString) (payload : State)
    (signal : Option AbortReason) :
    Effect binding state (.computer wireAction payload signal) (computer binding state wireAction payload signal).1
      (computer binding state wireAction payload signal).2 := by
  unfold computer
  by_cases disposed : state.disposed = true
  · rw [if_pos disposed]
    exact .refused (.inl disposed)
  rw [if_neg disposed]
  by_cases poisoned : state.lifecycle = .poisoned
  · rw [if_pos poisoned]
    exact .refused (.inr poisoned)
  rw [if_neg poisoned]
  by_cases running : state.running = true
  · rw [if_pos running]
    exact .overlapped
  rw [if_neg running]
  have thrown (stage : Stage) (error : Option DynamicBindingError) :
      Effect binding state (.computer wireAction payload signal)
        (raise { state with running := true } wireAction stage error).1
        (raise { state with running := true } wireAction stage error).2 := by
    rcases raise_failed { state with running := true } wireAction stage error with ⟨error, raised⟩
    rw [raised]
    exact .undispatched
  dsimp only
  cases active : assertActive { state with running := true } signal with
  | some error => exact thrown _ _
  | none =>
    dsimp only
    cases found : binding.actionByWire.get wireAction with
    | none => exact thrown _ _
    | some action =>
      dsimp only
      by_cases early : action.phase = .transition ∧ state.lifecycle = .fresh
      · rw [if_pos early]
        exact thrown _ _
      rw [if_neg early]
      cases projected : projectInputs action payload binding.descriptor with
      | error message => exact thrown _ _
      | ok inputs =>
        have passed := assertActive_none active
        exact .started (Bool.not_eq_true _ ▸ running) ⟨passed.undisposed, passed.unaborted, poisoned⟩

/-- A pass fails, goes on to the next observer, or is complete. -/
theorem observe_cases (binding : PreparedBinding) (state : BindingState) (wireAction : JsString)
    (aborted : Option AbortReason) (action : ResolvedAction) (observed : List NativeModelValue)
    (left : List ResolvedObservation) :
    (∃ error, observe binding state wireAction aborted action observed left = (failed state, .threw error)) ∨
      (∃ observation rest, left = observation :: rest ∧ observe binding state wireAction aborted action observed left =
        (invoke state wireAction (.observer action observed observation rest),
          .startedObserver state.callbacks observation)) ∨
      ∃ returned, left = [] ∧ observe binding state wireAction aborted action observed left =
        ({ state with counts := countCompleted state.counts action.id, running := false, call := none },
          .returned action.id returned) := by
  have thrown (stage : Stage) (error : Option DynamicBindingError) := raise_failed state wireAction stage error
  cases left with
  | nil =>
    rw [observe, finish]
    cases assertActive state aborted with
    | some error => exact .inl (thrown _ _)
    | none =>
      cases encodeState binding.descriptor.observations observed with
      | error message => exact .inl (thrown _ _)
      | ok returned => exact .inr (.inr ⟨returned, rfl, rfl⟩)
  | cons observation rest =>
    rw [observe]
    cases assertActive state aborted with
    | some error => exact .inl (thrown _ _)
    | none => exact .inr (.inl ⟨observation, rest, rfl, rfl⟩)

theorem resume_effect (binding : PreparedBinding) {state : BindingState} {call : Call} {result : Settled}
    (waits : state.call = some call) (ready : call.awaited = some result) :
    Effect binding state .resume (resume binding state call result).1 (resume binding state call result).2 := by
  have thrown (stage : Stage) (error : Option DynamicBindingError) :
      Effect binding state .resume (raise state call.wireAction stage error).1
        (raise state call.wireAction stage error).2 := by
    rcases raise_failed state call.wireAction stage error with ⟨error, raised⟩
    rw [raised]
    exact .failed waits
  cases result with
  | rejected error => exact thrown _ _
  | fulfilled value =>
    simp only [resume]
    cases asserted : assertActive state call.aborted with
    | some error => exact thrown _ _
    | none =>
      have active := assertActive_none asserted
      -- What is left of the pass, whichever callback has ended.
      have passed (lifecycle : Lifecycle) (healthy : lifecycle ≠ .poisoned) (observed : List NativeModelValue)
          (accepted : call.callback.Accepts value) : Effect binding state .resume
            (observe binding { state with lifecycle } call.wireAction call.aborted call.callback.action observed
              (call.callback.left binding)).1
            (observe binding { state with lifecycle } call.wireAction call.aborted call.callback.action observed
              (call.callback.left binding)).2 := by
        rcases observe_cases binding { state with lifecycle } call.wireAction call.aborted call.callback.action observed
          (call.callback.left binding) with ⟨error, raised⟩ | ⟨observation, rest, left, going⟩ | ⟨returned, left, ended⟩
        · rw [raised]
          exact .failed waits
        · rw [going]
          exact .next waits ready active accepted healthy left
        · rw [ended]
          exact .returned waits ready active accepted healthy left
      cases called : call.callback with
      | handler action =>
        rw [called] at passed
        by_cases empty : value.isSome = true
        · simp only [empty, if_true]
          exact thrown _ _
        · simp only [empty]
          exact passed .initialized (by decide) [] (show value = none by simpa using empty)
      | observer action observed current rest =>
        rw [called] at passed
        exact passed state.lifecycle active.healthy _ trivial

theorem step_effect {binding : PreparedBinding} {state after : BindingState} {input : Input} {output : Output}
    (taken : step binding state input = some (after, output)) : Effect binding state input after output := by
  cases input with
  | computer wireAction payload signal =>
    have same : computer binding state wireAction payload signal = (after, output) := Option.some.inj taken
    have effect := computer_effect binding state wireAction payload signal
    rw [same] at effect
    exact effect
  | dispose =>
    simp only [step, Option.some.injEq, dispose] at taken
    split at taken
    · rename_i again
      cases taken
      exact .disposedAgain again
    · cases taken
      exact .disposed
  | abort reason =>
    cases taken
    exact .aborted
  | returns result =>
    simp only [step, Option.bind_eq_bind, Option.bind_eq_some_iff] at taken
    rcases taken with ⟨call, waits, taken⟩
    split at taken
    · rename_i entered
      cases taken
      exact .left waits entered
    · cases taken
  | settle id result =>
    simp only [step] at taken
    split at taken
    · rename_i due
      cases taken
      apply Effect.settled due.1
      intro call waits same
      simpa [waits, same] using due.2
    · cases taken
  | react =>
    simp only [step, Option.bind_eq_bind, Option.bind_eq_some_iff] at taken
    rcases taken with ⟨call, waits, taken⟩
    split at taken
    · cases taken
    · rename_i entered
      simp only [Option.bind_eq_some_iff] at taken
      rcases taken with ⟨result, settled, taken⟩
      cases taken
      exact .reacted waits (Bool.not_eq_true _ ▸ entered) settled
  | resume =>
    simp only [step, Option.bind_eq_bind, Option.bind_eq_some_iff] at taken
    rcases taken with ⟨call, waits, taken⟩
    split at taken
    · cases taken
    · simp only [Option.bind_eq_some_iff] at taken
      rcases taken with ⟨result, ready, taken⟩
      have same : resume binding state call result = (after, output) := Option.some.inj taken
      have effect := resume_effect binding waits ready
      rw [same] at effect
      exact effect
  | disposer =>
    simp only [step] at taken
    split at taken
    · rename_i due
      cases taken
      exact .disposer due.1
    · cases taken

/-! ### Runs -/

/-- What a registry is asked for. -/
inductive Started where
  | handler (action : ResolvedAction)
  | observer (observation : ResolvedObservation)

def Output.callback : Output → Option (Nat × Started)
  | .startedHandler id action _ => some (id, .handler action)
  | .startedObserver id observation => some (id, .observer observation)
  | _ => none

/-- A call neither starts a callback nor returns. -/
def Output.Quiet : Output → Prop
  | .startedHandler _ _ _ | .startedObserver _ _ | .returned _ _ => False
  | _ => True

theorem Output.Quiet.silent {output : Output} (quiet : output.Quiet) : output.callback = none := by
  cases output with
  | startedHandler id action inputs => exact quiet.elim
  | startedObserver id observation => exact quiet.elim
  | _ => rfl

def started (t : Step) : Option Started := t.output.callback.map Prod.snd

def Starts (t : Step) (id : Nat) : Prop := ∃ callback, t.output.callback = some (id, callback)

/-- The callback ends: on the stack, or when its promise settles. -/
def Settles (t : Step) (id : Nat) (result : Settled) : Prop :=
  t.input = .settle id result ∨ t.input = .returns (.settled result) ∧ ∃ call, t.before.call = some call ∧ call.id = id

/-- A failure, an abort, an overlapping call or a disposal. -/
def Ends (t : Step) : Prop :=
  (∃ error, t.output = .threw error) ∨ t.input = .dispose ∨
    (∃ reason, t.input = .abort reason ∧ t.before.call.isSome) ∨
    ∃ call error, t.before.call = some call ∧ Settles t call.id (.rejected error)

def completes (id : JsString) (t : Step) : Bool :=
  match t.output with
  | .returned action _ => action = id
  | _ => false

def Fulfilled (trace : List Step) (id : Nat) (value : Option NativeModelValue) : Prop :=
  ∃ t ∈ trace, Settles t id (.fulfilled value)

/-- A call that cannot but fail. -/
def Call.Doomed (call : Call) : Prop :=
  call.aborted.isSome = true ∨ (∃ error, call.awaited = some (.rejected error)) ∨ ∃ error, call.settled = some (.rejected error)

/-- Nothing more is started: the binding is disposed or poisoned, or its call in flight cannot but fail. -/
def Doomed (state : BindingState) : Prop :=
  state.disposed = true ∨ state.lifecycle = .poisoned ∨ ∃ call, state.call = some call ∧ call.Doomed

/-- Before the first observer, the callback in flight is the handler; after that, the handler has returned nothing. -/
def Callback.Handled (during : List Step) (id handler : Nat) : Callback → Prop
  | .handler _ => id = handler
  | .observer _ _ _ _ => Fulfilled during handler none

/-- How far the call in flight has come since the step that started its handler. -/
structure Progress (binding : PreparedBinding) (call : Call) (start : Step) (handler : Nat) (during : List Step) : Prop where
  start : ∃ payload signal inputs, start.input = .computer call.wireAction payload signal ∧
    start.output = .startedHandler handler call.callback.action inputs
  handled : call.callback.Handled during call.id handler
  order : during.filterMap started ++ (call.callback.left binding).map Started.observer =
    binding.descriptor.observations.map Started.observer
  pending : ∀ t ∈ during, ∀ id returned, t.output ≠ .returned id returned
  observed : ∀ t ∈ during, ∀ id observation, t.output = .startedObserver id observation → id ≠ call.id →
    ∃ value, Fulfilled during id value
  settled : ∀ value, call.settled = some (.fulfilled value) → Fulfilled during call.id value

structure CallInvariant (binding : PreparedBinding) (trace : List Step) (state : BindingState) (call : Call) : Prop where
  last : call.id + 1 = state.callbacks
  pending : call.id ∈ state.outstanding ↔ call.settled = none
  entered : call.entered = true → call.settled = none
  awaited : ∀ value, call.awaited = some (.fulfilled value) → call.settled = some (.fulfilled value)
  progress : ∃ earlier start handler during, trace = earlier ++ start :: during ∧
    Progress binding call start handler during

/-- What every reachable state satisfies. -/
structure Invariant (binding : PreparedBinding) (trace : List Step) (state : BindingState) : Prop where
  running : state.running = state.call.isSome
  disposal : state.disposal ≠ .undefined → state.disposed = true
  distinct : state.outstanding.Nodup
  numbered : ∀ id ∈ state.outstanding, id < state.callbacks
  call : ∀ call, state.call = some call → CallInvariant binding trace state call
  abandoned : ∀ id ∈ state.outstanding, Doomed state ∨ ∃ call, state.call = some call ∧ call.id = id
  settled : ∀ id < state.callbacks, id ∉ state.outstanding → ∃ t ∈ trace, ∃ result, Settles t id result
  started : ∀ t ∈ trace, ∀ id, Starts t id → id < state.callbacks
  ended : (∃ t ∈ trace, Ends t) → Doomed state
  counts : ∀ action ∈ binding.descriptor.allActions, state.counts.get action.id = some (trace.countP (completes action.id))

namespace Call

variable (call : Call) (reason : AbortReason)

@[simp] theorem abort_wireAction : (call.abort reason).wireAction = call.wireAction := by
  unfold abort
  split <;> rfl

@[simp] theorem abort_callback : (call.abort reason).callback = call.callback := by
  unfold abort
  split <;> rfl

@[simp] theorem abort_id : (call.abort reason).id = call.id := by
  unfold abort
  split <;> rfl

@[simp] theorem abort_entered : (call.abort reason).entered = call.entered := by
  unfold abort
  split <;> rfl

@[simp] theorem abort_settled : (call.abort reason).settled = call.settled := by
  unfold abort
  split <;> rfl

theorem abort_aborted : (call.abort reason).aborted.isSome = true := by
  unfold abort
  split
  · assumption
  · rfl

theorem abort_fulfilled {value : Option NativeModelValue} (ready : (call.abort reason).awaited = some (.fulfilled value)) :
    call.awaited = some (.fulfilled value) := by
  unfold abort at ready
  split at ready
  · exact ready
  · cases waits : call.awaited with
    | none => simp [waits] at ready
    | some result => simpa [waits] using ready

end Call

theorem Fulfilled.later {trace : List Step} {id : Nat} {value : Option NativeModelValue} (fulfilled : Fulfilled trace id value)
    (t : Step) : Fulfilled (trace ++ [t]) id value :=
  Machine.earlier fulfilled t

theorem Callback.Handled.later {callback : Callback} {during : List Step} {id handler : Nat}
    (handled : callback.Handled during id handler) (t : Step) : callback.Handled (during ++ [t]) id handler := by
  cases callback with
  | handler action => exact handled
  | observer action observed current rest => exact Fulfilled.later handled t

section

variable {binding : PreparedBinding} {start : Step} {handler : Nat} {during : List Step}

/-- A step that starts no callback. -/
theorem Progress.later {call next : Call} (progress : Progress binding call start handler during) {t : Step}
    (quiet : t.output.Quiet) (wireAction : next.wireAction = call.wireAction)
    (callback : next.callback = call.callback) (id : next.id = call.id)
    (settled : ∀ value, next.settled = some (.fulfilled value) →
      call.settled = some (.fulfilled value) ∨ Settles t call.id (.fulfilled value)) :
    Progress binding next start handler (during ++ [t]) where
  start := by
    rw [wireAction, callback]
    exact progress.start
  handled := by
    rw [callback, id]
    exact progress.handled.later t
  order := by
    have none : started t = none := by rw [started, quiet.silent]; rfl
    rw [callback, List.filterMap_append, List.filterMap_cons_none none, List.filterMap_nil, List.append_nil]
    exact progress.order
  pending u member id returned output := by
    rcases List.mem_append.mp member with member | member
    · exact progress.pending u member id returned output
    · cases List.mem_singleton.mp member
      rw [output] at quiet
      exact quiet
  observed u member other observation output distinct := by
    rw [id] at distinct
    rcases List.mem_append.mp member with member | member
    · rcases progress.observed u member other observation output distinct with ⟨value, fulfilled⟩
      exact ⟨value, fulfilled.later t⟩
    · cases List.mem_singleton.mp member
      rw [output] at quiet
      exact quiet.elim
  settled value ended := by
    rw [id]
    rcases settled value ended with before | now
    · exact (progress.settled value before).later t
    · exact ⟨t, List.mem_append_right _ (List.mem_singleton_self _), now⟩

section

variable {call : Call} (progress : Progress binding call start handler during) {value : Option NativeModelValue}
  (fulfilled : call.settled = some (.fulfilled value))

include progress fulfilled

theorem Progress.handler_fulfilled (accepted : call.callback.Accepts value) : Fulfilled during handler none := by
  have handled := progress.handled
  cases called : call.callback with
  | observer action observed current rest =>
    rw [called] at handled
    exact handled
  | handler action =>
    rw [called] at handled accepted
    have same : call.id = handler := handled
    have nothing : value = none := accepted
    rw [nothing] at fulfilled
    rw [← same]
    exact progress.settled none fulfilled

theorem Progress.observer_fulfilled (t : Step) (member : t ∈ during) (id : Nat) (observation : ResolvedObservation)
    (output : t.output = .startedObserver id observation) : ∃ value, Fulfilled during id value := by
  by_cases current : id = call.id
  · rw [current]
    exact ⟨value, progress.settled value fulfilled⟩
  · exact progress.observed t member id observation output current

end

/-- The callback in flight has been fulfilled, and the next observer starts. -/
theorem Progress.next {call next : Call} (progress : Progress binding call start handler during) {t : Step}
    {value : Option NativeModelValue} (fulfilled : call.settled = some (.fulfilled value))
    (accepted : call.callback.Accepts value) {observed : List NativeModelValue} {observation : ResolvedObservation}
    {rest : List ResolvedObservation} (left : call.callback.left binding = observation :: rest)
    (wireAction : next.wireAction = call.wireAction)
    (callback : next.callback = .observer call.callback.action observed observation rest) (settled : next.settled = none)
    (output : t.output = .startedObserver next.id observation) : Progress binding next start handler (during ++ [t]) where
  start := by
    rw [wireAction, callback]
    exact progress.start
  handled := by
    rw [callback]
    exact (progress.handler_fulfilled fulfilled accepted).later t
  order := by
    have one : started t = some (.observer observation) := by rw [started, output]; rfl
    have order := progress.order
    rw [left] at order
    rw [callback, List.filterMap_append, List.filterMap_cons_some one, List.filterMap_nil, List.append_assoc]
    exact order
  pending u member id returned output' := by
    rcases List.mem_append.mp member with member | member
    · exact progress.pending u member id returned output'
    · cases List.mem_singleton.mp member
      rw [output] at output'
      cases output'
  observed u member id observation output' distinct := by
    rcases List.mem_append.mp member with member | member
    · rcases progress.observer_fulfilled fulfilled u member id observation output' with ⟨value, fulfilled⟩
      exact ⟨value, fulfilled.later t⟩
    · cases List.mem_singleton.mp member
      rw [output] at output'
      cases output'
      exact absurd rfl distinct
  settled value ended := by
    rw [settled] at ended
    cases ended

end

section

variable {binding : PreparedBinding} {trace : List Step} {state after : BindingState} {input : Input} {output : Output}

theorem active_undoomed (invariant : Invariant binding trace state) {call : Call} (waits : state.call = some call)
    {value : Option NativeModelValue} (ready : call.awaited = some (.fulfilled value)) (active : Active state call.aborted) :
    ¬ Doomed state := by
  rintro (disposed | poisoned | ⟨other, same, doomed⟩)
  · rw [active.undisposed] at disposed
    cases disposed
  · exact active.healthy poisoned
  · rw [waits] at same
    cases same
    rcases doomed with aborted | ⟨error, rejected⟩ | ⟨error, rejected⟩
    · rw [active.unaborted] at aborted
      cases aborted
    · rw [ready] at rejected
      cases rejected
    · rw [(invariant.call call waits).awaited value ready] at rejected
      cases rejected

theorem idle_undoomed (invariant : Invariant binding trace state) (idle : state.running = false)
    {signal : Option AbortReason} (active : Active state signal) : ¬ Doomed state ∧ state.call = none := by
  have none : state.call = none := by
    rw [invariant.running] at idle
    exact Option.isSome_eq_false_iff.mp idle |> Option.isNone_iff_eq_none.mp
  constructor
  · rintro (disposed | poisoned | ⟨other, same, doomed⟩)
    · rw [active.undisposed] at disposed
      cases disposed
    · exact active.healthy poisoned
    · rw [none] at same
      cases same
  · exact none

/-- A callback starts, or a state is returned, in a binding that is not doomed only. -/
theorem progress_undoomed (invariant : Invariant binding trace state) (effect : Effect binding state input after output)
    (goes : output.callback ≠ none ∨ ∃ id returned, output = .returned id returned) : ¬ Doomed state := by
  cases effect with
  | started idle active => exact (idle_undoomed invariant idle active).1
  | next waits ready active _ _ _ => exact active_undoomed invariant waits ready active
  | returned waits ready active _ _ _ => exact active_undoomed invariant waits ready active
  | _ =>
    rcases goes with goes | ⟨id, returned, goes⟩
    · exact absurd rfl goes
    · cases goes

/-- No callback is outstanding when another one starts or when a state is returned. -/
theorem progress_settled (invariant : Invariant binding trace state) (effect : Effect binding state input after output)
    (goes : output.callback ≠ none ∨ ∃ id returned, output = .returned id returned) : state.outstanding = [] := by
  have undoomed := progress_undoomed invariant effect goes
  have none (id : Nat) (member : id ∈ state.outstanding) : ∃ call, state.call = some call ∧ call.id = id :=
    (invariant.abandoned id member).resolve_left undoomed
  -- The callback in flight has been fulfilled.
  have fulfilled {call : Call} {value : Option NativeModelValue} (waits : state.call = some call)
      (ready : call.awaited = some (.fulfilled value)) : state.outstanding = [] := by
    apply List.eq_nil_iff_forall_not_mem.mpr
    intro id member
    rcases none id member with ⟨other, same, rfl⟩
    rw [waits] at same
    cases same
    have pending := (invariant.call call waits).pending.mp member
    rw [(invariant.call call waits).awaited value ready] at pending
    cases pending
  cases effect with
  | started idle active =>
    apply List.eq_nil_iff_forall_not_mem.mpr
    intro id member
    rcases none id member with ⟨other, same, -⟩
    rw [(idle_undoomed invariant idle active).2] at same
    cases same
  | next waits ready _ _ _ _ => exact fulfilled waits ready
  | returned waits ready _ _ _ _ => exact fulfilled waits ready
  | _ =>
    rcases goes with goes | ⟨id, returned, goes⟩
    · exact absurd rfl goes
    · cases goes

theorem rejected_or {awaited other : Option Settled} (rejected : ∃ error, awaited = some (.rejected error)) :
    ∃ error, awaited.or other = some (.rejected error) := by
  rcases rejected with ⟨error, rfl⟩
  exact ⟨error, rfl⟩

theorem doomed_kept (invariant : Invariant binding trace state) (effect : Effect binding state input after output)
    (doomed : Doomed state) : Doomed after := by
  have kept (disposed : after.disposed = state.disposed) (lifecycle : after.lifecycle = state.lifecycle)
      (stays : ∀ call, state.call = some call → call.Doomed → ∃ next, after.call = some next ∧ next.Doomed) :
      Doomed after := by
    rcases doomed with disposed' | poisoned | ⟨call, waits, doomed⟩
    · exact .inl (disposed.trans disposed')
    · exact .inr (.inl (lifecycle.trans poisoned))
    · exact .inr (.inr (stays call waits doomed))
  cases effect with
  | refused _ => exact doomed
  | overlapped => exact .inr (.inl rfl)
  | undispatched => exact .inr (.inl rfl)
  | failed _ => exact .inr (.inl rfl)
  | started idle active => exact absurd doomed (idle_undoomed invariant idle active).1
  | next waits ready active _ _ _ => exact absurd doomed (active_undoomed invariant waits ready active)
  | returned waits ready active _ _ _ => exact absurd doomed (active_undoomed invariant waits ready active)
  | disposedAgain _ => exact doomed
  | disposed => exact .inl rfl
  | disposer _ => exact doomed
  | @aborted reason =>
    apply kept rfl rfl
    intro call waits _
    exact ⟨call.abort reason, by rw [waits]; rfl, .inl (call.abort_aborted reason)⟩
  | @left call result waits entered =>
    have unsettled := (invariant.call call waits).entered entered
    have stays (next : Call) (aborted : next.aborted = call.aborted)
        (awaited : ∃ other, next.awaited = call.awaited.or other) (current : Call) (waiting : state.call = some current)
        (doomed : current.Doomed) : next.Doomed := by
      rw [waits] at waiting
      cases waiting
      rcases awaited with ⟨other, awaited⟩
      rcases doomed with reason | rejected | ⟨error, rejected⟩
      · exact .inl (by rw [aborted]; exact reason)
      · exact .inr (.inl (by rw [awaited]; exact rejected_or rejected))
      · rw [unsettled] at rejected
        cases rejected
    cases result with
    | promise =>
      exact kept rfl rfl fun current waiting doomed =>
        ⟨_, rfl, stays _ rfl ⟨none, Option.or_none.symm⟩ current waiting doomed⟩
    | settled result =>
      cases result with
      | fulfilled value =>
        exact kept rfl rfl fun current waiting doomed =>
          ⟨_, rfl, stays _ rfl ⟨none, Option.or_none.symm⟩ current waiting doomed⟩
      | rejected error =>
        exact kept rfl rfl fun current waiting doomed =>
          ⟨_, rfl, stays _ rfl ⟨some (.rejected error), rfl⟩ current waiting doomed⟩
  | @settled id result member free =>
    apply kept rfl rfl
    intro call waits doomed
    refine ⟨_, by rw [settle, waits]; rfl, ?_⟩
    dsimp only
    by_cases current : call.id = id
    · rw [if_pos current]
      rw [← current] at member
      rcases doomed with reason | rejected | ⟨error, rejected⟩
      · exact .inl reason
      · exact .inr (.inl rejected)
      · rw [(invariant.call call waits).pending.mp member] at rejected
        cases rejected
    · rw [if_neg current]
      exact doomed
  | @reacted call result waits _ _ =>
    apply kept rfl rfl
    intro current waiting doomed
    rw [waits] at waiting
    cases waiting
    refine ⟨_, rfl, ?_⟩
    rcases doomed with reason | rejected | rejected
    · exact .inl reason
    · exact .inr (.inl (rejected_or rejected))
    · exact .inr (.inr rejected)

/-- A failure, an abort, an overlap and a disposal doom the binding. -/
theorem ends_doomed (invariant : Invariant binding trace state) (effect : Effect binding state input after output)
    (ends : Ends ⟨state, input, output, after⟩) : Doomed after := by
  rcases ends with ⟨error, threw⟩ | disposes | ⟨reason, aborts, inFlight⟩ | ⟨call, error, waits, settles⟩
  · cases effect with
    | refused doomed => exact doomed.elim .inl fun poisoned => .inr (.inl poisoned)
    | overlapped => exact .inr (.inl rfl)
    | undispatched => exact .inr (.inl rfl)
    | failed _ => exact .inr (.inl rfl)
    | _ => cases threw
  · cases disposes
    cases effect with
    | disposedAgain again => exact .inl (invariant.disposal again)
    | disposed => exact .inl rfl
  · cases aborts
    cases effect with
    | aborted =>
      rcases Option.isSome_iff_exists.mp inFlight with ⟨call, waits⟩
      have waits : state.call = some call := waits
      exact .inr (.inr ⟨call.abort reason, by rw [waits]; rfl, .inl (call.abort_aborted reason)⟩)
  · have waits : state.call = some call := waits
    rcases settles with settles | ⟨returns, -⟩
    · cases settles
      cases effect with
      | settled member free =>
        refine .inr (.inr ⟨{ call with settled := some (.rejected error) }, ?_, .inr (.inr ⟨error, rfl⟩)⟩)
        simp only [settle, show state.call = some call from waits, Option.map_some, if_true]
    · cases returns
      cases effect with
      | left waiting entered =>
        rw [waits] at waiting
        cases waiting
        exact .inr (.inr ⟨_, rfl, .inr (.inr ⟨error, rfl⟩)⟩)

theorem callbacks_kept (effect : Effect binding state input after output) : state.callbacks ≤ after.callbacks := by
  cases effect with
  | started _ _ => exact Nat.le_succ _
  | next _ _ _ _ _ _ => exact Nat.le_succ _
  | @left call result _ _ =>
    cases result with
    | promise => exact le_rfl
    | settled result => cases result <;> exact le_rfl
  | _ => exact le_rfl

/-- The callbacks that are outstanding after a step. -/
theorem outstanding_after (effect : Effect binding state input after output) :
    (output.callback = none ∧ after.callbacks = state.callbacks ∧ after.outstanding = state.outstanding) ∨
      (output.callback = none ∧ after.callbacks = state.callbacks ∧ ∃ id result,
        after.outstanding = state.outstanding.erase id ∧ Settles ⟨state, input, output, after⟩ id result) ∨
      ∃ callback, output.callback = some (state.callbacks, callback) ∧ after.callbacks = state.callbacks + 1 ∧
        after.outstanding = state.callbacks :: state.outstanding := by
  cases effect with
  | started _ _ => exact .inr (.inr ⟨_, rfl, rfl, rfl⟩)
  | next _ _ _ _ _ _ => exact .inr (.inr ⟨_, rfl, rfl, rfl⟩)
  | settled _ _ => exact .inr (.inl ⟨rfl, rfl, _, _, rfl, .inl rfl⟩)
  | @left call result waits _ =>
    cases result with
    | promise => exact .inl ⟨rfl, rfl, rfl⟩
    | settled result =>
      cases result with
      | fulfilled value => exact .inr (.inl ⟨rfl, rfl, _, _, rfl, .inr ⟨rfl, call, waits, rfl⟩⟩)
      | rejected error => exact .inr (.inl ⟨rfl, rfl, _, _, rfl, .inr ⟨rfl, call, waits, rfl⟩⟩)
  | _ => exact .inl ⟨rfl, rfl, rfl⟩

theorem CallInvariant.later {call next : Call} (invariant : CallInvariant binding trace state call) {t : Step}
    (quiet : t.output.Quiet) (callbacks : after.callbacks = state.callbacks)
    (wireAction : next.wireAction = call.wireAction) (callback : next.callback = call.callback) (id : next.id = call.id)
    (pending : next.id ∈ after.outstanding ↔ next.settled = none) (entered : next.entered = true → next.settled = none)
    (awaited : ∀ value, next.awaited = some (.fulfilled value) → next.settled = some (.fulfilled value))
    (settled : ∀ value, next.settled = some (.fulfilled value) →
      call.settled = some (.fulfilled value) ∨ Settles t call.id (.fulfilled value)) :
    CallInvariant binding (trace ++ [t]) after next where
  last := by rw [id, callbacks, invariant.last]
  pending := pending
  entered := entered
  awaited := awaited
  progress := by
    rcases invariant.progress with ⟨earlier, start, handler, during, rfl, progress⟩
    exact ⟨earlier, start, handler, during ++ [t], by rw [List.append_assoc, List.cons_append],
      progress.later quiet wireAction callback id settled⟩

/-- A step that leaves the callbacks as they are, except that it may abort the call. -/
theorem CallInvariant.stays {call next : Call} (invariant : CallInvariant binding trace state call) {t : Step}
    (quiet : t.output.Quiet) (callbacks : after.callbacks = state.callbacks)
    (outstanding : after.outstanding = state.outstanding) (same : next = call ∨ ∃ reason, next = call.abort reason) :
    CallInvariant binding (trace ++ [t]) after next := by
  rcases same with rfl | ⟨reason, rfl⟩
  · exact invariant.later quiet callbacks rfl rfl rfl (by rw [outstanding]; exact invariant.pending) invariant.entered
      invariant.awaited fun _ => .inl
  · apply invariant.later quiet callbacks (by simp) (by simp) (by simp)
    · rw [outstanding, call.abort_id, call.abort_settled]
      exact invariant.pending
    · rw [call.abort_entered, call.abort_settled]
      exact invariant.entered
    · intro value ready
      rw [call.abort_settled]
      exact invariant.awaited value (call.abort_fulfilled reason ready)
    · intro value settled
      rw [call.abort_settled] at settled
      exact .inl settled

theorem settled_or {awaited : Option Settled} {result : Settled} {value : Option NativeModelValue}
    (before : ∀ value, awaited = some (.fulfilled value) → result = .fulfilled value)
    (ready : awaited.or (some result) = some (.fulfilled value)) : result = .fulfilled value := by
  cases awaited with
  | none => exact Option.some.inj ready
  | some other => exact before value ready

/-- The callback in flight has settled. -/
theorem CallInvariant.settles {call next : Call} (invariant : CallInvariant binding trace state call) {t : Step}
    {result : Settled} (distinct : state.outstanding.Nodup) (unsettled : call.settled = none)
    (quiet : t.output.Quiet) (callbacks : after.callbacks = state.callbacks)
    (outstanding : after.outstanding = state.outstanding.erase call.id) (wireAction : next.wireAction = call.wireAction)
    (callback : next.callback = call.callback) (id : next.id = call.id) (left : next.entered = false)
    (settled : next.settled = some result) (settles : Settles t call.id result)
    (awaited : ∀ value, next.awaited = some (.fulfilled value) → call.awaited = some (.fulfilled value)) :
    CallInvariant binding (trace ++ [t]) after next := by
  apply invariant.later quiet callbacks wireAction callback id
  · rw [id, outstanding, settled]
    simp [distinct.mem_erase_iff]
  · intro entered
    rw [left] at entered
    cases entered
  · intro value ready
    have before := invariant.awaited value (awaited value ready)
    rw [unsettled] at before
    cases before
  · intro value fulfilled
    rw [settled] at fulfilled
    cases fulfilled
    exact .inr settles

theorem call_kept (invariant : Invariant binding trace state) (effect : Effect binding state input after output)
    {next : Call} (waits : after.call = some next) :
    CallInvariant binding (trace ++ [⟨state, input, output, after⟩]) after next := by
  have aborts {reason : AbortReason} (calls : state.call.map (·.abort reason) = some next)
      (quiet : output.Quiet) (callbacks : after.callbacks = state.callbacks)
      (outstanding : after.outstanding = state.outstanding) :
      CallInvariant binding (trace ++ [⟨state, input, output, after⟩]) after next := by
    rcases Option.map_eq_some_iff.mp calls with ⟨call, waiting, rfl⟩
    exact (invariant.call call waiting).stays quiet callbacks outstanding (.inr ⟨reason, rfl⟩)
  cases effect with
  | refused _ => exact (invariant.call next waits).stays trivial rfl rfl (.inl rfl)
  | overlapped => exact aborts waits trivial rfl rfl
  | undispatched => cases waits
  | failed _ => cases waits
  | returned _ _ _ _ _ _ => cases waits
  | disposedAgain _ => exact (invariant.call next waits).stays trivial rfl rfl (.inl rfl)
  | disposed => exact aborts waits trivial rfl rfl
  | aborted => exact aborts waits trivial rfl rfl
  | disposer _ => exact (invariant.call next waits).stays trivial rfl rfl (.inl rfl)
  | @started wireAction payload signal action inputs idle active =>
    cases waits
    refine {
      last := rfl
      pending := by simp [invoke]
      entered := fun _ => rfl
      awaited := fun _ ready => by cases ready
      progress := ⟨trace, _, state.callbacks, [], rfl, ?_⟩ }
    exact {
      start := ⟨payload, signal, inputs, rfl, rfl⟩
      handled := rfl
      order := rfl
      pending := fun _ member => by cases member
      observed := fun _ member => by cases member
      settled := fun _ settled => by cases settled }
  | @next call value lifecycle observed observation rest waiting ready active accepted healthy left =>
    cases waits
    have fulfilled := (invariant.call call waiting).awaited value ready
    rcases (invariant.call call waiting).progress with ⟨earlier, start, handler, during, rfl, progress⟩
    refine {
      last := rfl
      pending := by simp [invoke]
      entered := fun _ => rfl
      awaited := fun _ ready => by cases ready
      progress := ⟨earlier, start, handler, _, by rw [List.append_assoc, List.cons_append], ?_⟩ }
    exact progress.next fulfilled accepted left rfl rfl rfl rfl
  | @left call result waiting entered =>
    have before := invariant.call call waiting
    have unsettled := before.entered entered
    cases result with
    | promise =>
      cases waits
      exact before.later trivial rfl rfl rfl rfl before.pending (fun entered => by cases entered) before.awaited fun _ => .inl
    | settled result =>
      cases result with
      | fulfilled value =>
        cases waits
        exact before.settles invariant.distinct unsettled trivial rfl rfl rfl rfl rfl rfl rfl (.inr ⟨rfl, call, waiting, rfl⟩)
          fun _ => id
      | rejected error =>
        cases waits
        refine before.settles invariant.distinct unsettled trivial rfl rfl rfl rfl rfl rfl rfl (.inr ⟨rfl, call, waiting, rfl⟩) ?_
        intro value ready
        cases awaited : call.awaited with
        | none => simp [awaited] at ready
        | some result => simpa [awaited] using ready
  | @settled id result member free =>
    rcases Option.map_eq_some_iff.mp waits with ⟨call, waiting, rfl⟩
    have before := invariant.call call waiting
    by_cases current : call.id = id
    · rw [if_pos current]
      cases current
      exact before.settles invariant.distinct (before.pending.mp member) trivial rfl rfl rfl rfl rfl (free call waiting rfl) rfl
        (.inl rfl) fun _ => id
    · rw [if_neg current]
      refine before.later trivial rfl rfl rfl rfl ?_ before.entered before.awaited fun _ => .inl
      rw [settle, List.mem_erase_of_ne current]
      exact before.pending
  | @reacted call result waiting left settled =>
    cases waits
    have before := invariant.call call waiting
    refine before.later trivial rfl rfl rfl rfl before.pending before.entered ?_ fun _ => .inl
    intro value ready
    have known (value : Option NativeModelValue) (ready : call.awaited = some (.fulfilled value)) :
        result = .fulfilled value :=
      Option.some.inj (settled.symm.trans (before.awaited value ready))
    rw [settled, settled_or known ready]

theorem running_kept (invariant : Invariant binding trace state) (effect : Effect binding state input after output) :
    after.running = after.call.isSome := by
  have mapped (change : Call → Call) : state.running = (state.call.map change).isSome := by
    rw [Option.isSome_map, invariant.running]
  cases effect with
  | refused _ => exact invariant.running
  | disposedAgain _ => exact invariant.running
  | disposer _ => exact invariant.running
  | overlapped => exact mapped _
  | disposed => exact mapped _
  | aborted => exact mapped _
  | settled _ _ => exact mapped _
  | reacted waits _ _ => exact (invariant.running.trans (by rw [waits]; rfl))
  | next waits _ _ _ _ _ => exact (invariant.running.trans (by rw [waits]; rfl))
  | @left call result waits _ =>
    have running : state.running = true := invariant.running.trans (by rw [waits]; rfl)
    cases result with
    | promise => exact running
    | settled result => cases result <;> exact running
  | _ => rfl

theorem disposal_kept (invariant : Invariant binding trace state) (effect : Effect binding state input after output)
    (disposal : after.disposal ≠ .undefined) : after.disposed = true := by
  cases effect with
  | disposed => rfl
  | disposer due => exact invariant.disposal (by rw [due]; decide)
  | @left call result _ _ =>
    cases result with
    | promise => exact invariant.disposal disposal
    | settled result => cases result <;> exact invariant.disposal disposal
  | _ => exact invariant.disposal disposal

theorem counts_kept (invariant : Invariant binding trace state) (effect : Effect binding state input after output) :
    ∀ action ∈ binding.descriptor.allActions, after.counts.get action.id =
      some ((trace ++ [(⟨state, input, output, after⟩ : Step)]).countP (completes action.id)) := by
  intro action member
  have kept (same : after.counts = state.counts) (silent : completes action.id ⟨state, input, output, after⟩ = false) :
      after.counts.get action.id =
        some ((trace ++ [(⟨state, input, output, after⟩ : Step)]).countP (completes action.id)) := by
    rw [same, invariant.counts action member, List.countP_append, List.countP_singleton, silent]
    rfl
  cases effect with
  | returned _ _ _ _ _ _ =>
    rw [get_countCompleted (invariant.counts action member), List.countP_append, List.countP_singleton]
    simp only [completes, decide_eq_true_eq]
  | @left call result _ _ =>
    cases result with
    | promise => exact kept rfl rfl
    | settled result => cases result <;> exact kept rfl rfl
  | _ => exact kept rfl rfl

theorem abandoned_kept (invariant : Invariant binding trace state) (effect : Effect binding state input after output)
    (alive : ¬ Doomed state) {id : Nat} (member : id ∈ after.outstanding) :
    Doomed after ∨ ∃ call, after.call = some call ∧ call.id = id := by
  have waiting (member : id ∈ state.outstanding) : ∃ call, state.call = some call ∧ call.id = id :=
    (invariant.abandoned id member).resolve_left alive
  -- The callback that has just started is the only one.
  have fresh (goes : output.callback ≠ none) (added : after.outstanding = state.callbacks :: state.outstanding) :
      id = state.callbacks := by
    rw [added, progress_settled invariant effect (.inl goes)] at member
    exact List.mem_singleton.mp member
  cases effect with
  | refused _ => exact .inr (waiting member)
  | disposedAgain _ => exact .inr (waiting member)
  | disposer _ => exact .inr (waiting member)
  | overlapped => exact .inl (.inr (.inl rfl))
  | undispatched => exact .inl (.inr (.inl rfl))
  | failed _ => exact .inl (.inr (.inl rfl))
  | disposed => exact .inl (.inl rfl)
  | @started wireAction payload signal action inputs idle active =>
    exact .inr ⟨_, rfl, (fresh (by simp [Output.callback]) rfl).symm⟩
  | next _ _ _ _ _ _ => exact .inr ⟨_, rfl, (fresh (by simp [Output.callback]) rfl).symm⟩
  | @returned call value lifecycle result waits ready active accepted healthy left =>
    have settled := progress_settled invariant (.returned waits ready active accepted healthy left) (.inr ⟨_, result, rfl⟩)
    have member : id ∈ state.outstanding := member
    rw [settled] at member
    cases member
  | @aborted reason =>
    rcases waiting member with ⟨call, waits, same⟩
    exact .inr ⟨call.abort reason, by rw [waits]; rfl, (call.abort_id reason).trans same⟩
  | reacted waits _ _ =>
    rcases waiting member with ⟨call, waits', same⟩
    rw [waits] at waits'
    cases waits'
    exact .inr ⟨_, rfl, same⟩
  | settled _ _ =>
    rcases waiting (List.mem_of_mem_erase member) with ⟨call, waits, same⟩
    refine .inr ⟨_, by rw [settle, waits]; rfl, ?_⟩
    dsimp only
    split <;> exact same
  | @left call result waits _ =>
    have current (member : id ∈ state.outstanding) : call.id = id := by
      rcases waiting member with ⟨other, waits', same⟩
      rw [waits] at waits'
      cases waits'
      exact same
    cases result with
    | promise => exact .inr ⟨_, rfl, current member⟩
    | settled result =>
      cases result <;> exact .inr ⟨_, rfl, current (List.mem_of_mem_erase member)⟩

theorem effect_invariant (invariant : Invariant binding trace state) (effect : Effect binding state input after output) :
    Invariant binding (trace ++ [⟨state, input, output, after⟩]) after where
  running := running_kept invariant effect
  disposal := disposal_kept invariant effect
  distinct := by
    rcases outstanding_after effect with ⟨-, -, same⟩ | ⟨-, -, id, result, erased, -⟩ | ⟨callback, -, -, added⟩
    · rw [same]
      exact invariant.distinct
    · rw [erased]
      exact invariant.distinct.erase id
    · rw [added]
      exact List.nodup_cons.mpr ⟨fun member => Nat.lt_irrefl _ (invariant.numbered _ member), invariant.distinct⟩
  numbered id member := by
    rcases outstanding_after effect with ⟨-, same, kept⟩ | ⟨-, same, erased, result, kept, -⟩ | ⟨callback, -, more, added⟩
    · rw [kept] at member
      rw [same]
      exact invariant.numbered id member
    · rw [kept] at member
      rw [same]
      exact invariant.numbered id (List.mem_of_mem_erase member)
    · rw [added] at member
      rw [more]
      rcases List.mem_cons.mp member with rfl | member
      · exact Nat.lt_succ_self _
      · exact Nat.lt_succ_of_lt (invariant.numbered id member)
  call _ waits := call_kept invariant effect waits
  abandoned id member := by
    by_cases doomed : Doomed state
    · exact .inl (doomed_kept invariant effect doomed)
    · exact abandoned_kept invariant effect doomed member
  settled id bound unsettled := by
    rcases outstanding_after effect with ⟨-, same, kept⟩ | ⟨-, same, erased, result, kept, settles⟩ | ⟨callback, -, more, added⟩
    · rw [same] at bound
      rw [kept] at unsettled
      exact Machine.earlier (invariant.settled id bound unsettled) _
    · rw [same] at bound
      rw [kept] at unsettled
      by_cases current : id = erased
      · rw [current]
        exact ⟨_, List.mem_append_right _ (List.mem_singleton_self _), result, settles⟩
      · exact Machine.earlier (invariant.settled id bound fun member => unsettled ((List.mem_erase_of_ne current).mpr member)) _
    · rw [more] at bound
      rw [added, List.mem_cons, not_or] at unsettled
      exact Machine.earlier (invariant.settled id (Nat.lt_of_le_of_ne (Nat.le_of_lt_succ bound) unsettled.1) unsettled.2) _
  started t member id starts := by
    rcases List.mem_append.mp member with member | member
    · exact Nat.lt_of_lt_of_le (invariant.started t member id starts) (callbacks_kept effect)
    · cases List.mem_singleton.mp member
      rcases starts with ⟨callback, starts⟩
      rcases outstanding_after effect with ⟨silent, -, -⟩ | ⟨silent, -, -⟩ | ⟨other, output, more, -⟩
      · rw [silent] at starts
        cases starts
      · rw [silent] at starts
        cases starts
      · rw [output] at starts
        cases starts
        rw [more]
        exact Nat.lt_succ_self _
  ended found := by
    rcases found with ⟨t, member, ends⟩
    rcases List.mem_append.mp member with member | member
    · exact doomed_kept invariant effect (invariant.ended ⟨t, member, ends⟩)
    · cases List.mem_singleton.mp member
      exact ends_doomed invariant effect ends
  counts := counts_kept invariant effect

end

theorem initial_invariant {binding : PreparedBinding} (distinct : (binding.descriptor.allActions.map (·.id)).Nodup) :
    Invariant binding [] (initial binding) where
  running := rfl
  disposal disposal := absurd rfl disposal
  distinct := List.nodup_nil
  numbered _ member := by cases member
  call _ waits := by cases waits
  abandoned _ member := by cases member
  settled _ bound := absurd bound (Nat.not_lt_zero _)
  started _ member := by cases member
  ended found := by
    rcases found with ⟨_, member, -⟩
    cases member
  counts _ member := initialCounts_get distinct member

theorem run_invariant {binding : PreparedBinding} {trace : List Step} {state : BindingState}
    (distinct : (binding.descriptor.allActions.map (·.id)).Nodup) (run : Run binding trace state) :
    Invariant binding trace state :=
  run.invariant (initial_invariant distinct) fun _ _ _ _ _ invariant taken => effect_invariant invariant (step_effect taken)

/-! ### What runs satisfy -/

/-- The call that `start` begins has awaited its handler and then the observers, one after another. -/
structure Completed (binding : PreparedBinding) (id : JsString) (start : Step) (during : List Step) : Prop where
  handler : ∃ wireAction payload signal handler action inputs, start.input = .computer wireAction payload signal ∧
    start.output = .startedHandler handler action inputs ∧ action.id = id ∧ Fulfilled during handler none
  order : during.filterMap started = binding.descriptor.observations.map Started.observer
  observed : ∀ t ∈ during, ∀ id observation, t.output = .startedObserver id observation →
    ∃ value, Fulfilled during id value
  pending : ∀ t ∈ during, ∀ id returned, t.output ≠ .returned id returned

theorem returned_completed {binding : PreparedBinding} {trace : List Step} {state after : BindingState} {input : Input}
    {id : JsString} {returned : State} (invariant : Invariant binding trace state)
    (effect : Effect binding state input after (.returned id returned)) :
    ∃ earlier start during, trace = earlier ++ start :: during ∧ Completed binding id start during := by
  cases effect with
  | @returned call value lifecycle returned waits ready active accepted healthy left =>
    have fulfilled := (invariant.call call waits).awaited value ready
    rcases (invariant.call call waits).progress with ⟨earlier, start, handler, during, same, progress⟩
    rcases progress.start with ⟨payload, signal, inputs, input, output⟩
    have order := progress.order
    rw [left, List.map_nil, List.append_nil] at order
    refine ⟨earlier, start, during, same, ?_⟩
    exact {
      handler := ⟨_, payload, signal, handler, _, inputs, input, output, rfl, progress.handler_fulfilled fulfilled accepted⟩
      order := order
      observed := fun t member => progress.observer_fulfilled fulfilled t member
      pending := progress.pending }

/-- How a binding behaves over a run. -/
structure Behaves (binding : PreparedBinding) (trace : List Step) (state : BindingState) : Prop where
  inTurn : ∀ earlier t later, trace = earlier ++ t :: later → ∀ id, Starts t id →
    ∀ u ∈ earlier, ∀ other, Starts u other → ∃ v ∈ earlier, ∃ result, Settles v other result
  ended : ∀ earlier t later, trace = earlier ++ t :: later → Ends t → ∀ u ∈ later, ∀ id, ¬ Starts u id
  returned : ∀ earlier t later, trace = earlier ++ t :: later → ∀ id returned, t.output = .returned id returned →
    (∀ u ∈ earlier, ¬ Ends u) ∧ ∃ before start during, earlier = before ++ start :: during ∧
      Completed binding id start during
  counted : ∀ t ∈ trace, ∀ action ∈ binding.descriptor.allActions, ∃ count,
    (coverage t.before).get action.id = some count ∧
      (coverage t.after).get action.id = some (count + if completes action.id t then 1 else 0)
  coverage : ∀ action ∈ binding.descriptor.allActions,
    (coverage state).get action.id = some (trace.countP (completes action.id))

/-- Callbacks one at a time, the end of a binding, completed calls and coverage, over every run of every binding. -/
theorem bindAsyncDynamicDescriptor_runs [ModelInterface.Sha256] {value : ModelInterface.Unknown}
    {registry : DynamicHandlerRegistry} {binding : PreparedBinding} (prepared : prepareBinding value registry = .ok binding)
    {trace : List Step} {state : BindingState} (run : Run binding trace state) : Behaves binding trace state := by
  have distinct := (ModelInterface.decodeSemanticDescriptor_accepted (prepareBinding_decoded prepared)).1.actionIds
  have reached {earlier later : List Step} {t : Step} (same : trace = earlier ++ t :: later) :
      Invariant binding earlier t.before ∧ Effect binding t.before t.input t.after t.output := by
    rw [same] at run
    exact ⟨run_invariant distinct run.split.1, step_effect run.split.2⟩
  refine {
    inTurn := fun earlier t later same id starts u member other started => ?_
    ended := fun earlier t later same ends u member id starts => ?_
    returned := fun earlier t later same id returned output => ?_
    counted := fun t member action known => ?_
    coverage := (run_invariant distinct run).counts }
  · rcases reached same with ⟨invariant, effect⟩
    rcases starts with ⟨callback, starts⟩
    have settled := progress_settled invariant effect (.inl (by rw [starts]; simp))
    apply invariant.settled other (invariant.started u member other started)
    rw [settled]
    simp
  · rcases List.append_of_mem member with ⟨before, after, rfl⟩
    rcases reached (same.trans (List.append_assoc earlier (t :: before) (u :: after)).symm) with ⟨invariant, effect⟩
    rcases starts with ⟨callback, starts⟩
    exact progress_undoomed invariant effect (.inl (by rw [starts]; simp)) (invariant.ended ⟨t, by simp, ends⟩)
  · rcases reached same with ⟨invariant, effect⟩
    rw [output] at effect
    have undoomed := progress_undoomed invariant effect (.inr ⟨id, returned, rfl⟩)
    exact ⟨fun u member ends => undoomed (invariant.ended ⟨u, member, ends⟩), returned_completed invariant effect⟩
  · rcases List.append_of_mem member with ⟨earlier, later, same⟩
    rcases reached same with ⟨invariant, effect⟩
    refine ⟨_, invariant.counts action known, ?_⟩
    have after := counts_kept invariant effect action known
    rw [List.countP_append, List.countP_singleton] at after
    exact after

/-! ### A call that completes -/

def lampInputs : List Input :=
  let ends : List Input := [.returns (.settled (.fulfilled (some (.boolean true)))), .react, .resume]
  [.computer (js "init") [] none, .returns .promise, .settle 0 (.fulfilled none), .react, .resume] ++ ends ++ ends

def lampRun : List Step × BindingState :=
  (Machine.follow (step Synchronous.lampBinding) (initial Synchronous.lampBinding) lampInputs).getD
    ([], initial Synchronous.lampBinding)

theorem lamp_followed :
    Machine.follow (step Synchronous.lampBinding) (initial Synchronous.lampBinding) lampInputs = some lampRun := by rfl

theorem lamp_completes : letI : ModelInterface.Sha256 := ⟨fun _ => Synchronous.lampDigest.hex⟩
    ∃ trace state, (coverage state).get (js "INIT") = some 1 ∧ Behaves Synchronous.lampBinding trace state := by
  let _ : ModelInterface.Sha256 := ⟨fun _ => Synchronous.lampDigest.hex⟩
  have run : Run Synchronous.lampBinding _ _ := Machine.Run.follow .start lamp_followed
  exact ⟨_, _, rfl, bindAsyncDynamicDescriptor_runs Synchronous.lamp_prepared run⟩

end Asynchronous

end Mirror.DynamicBinding
