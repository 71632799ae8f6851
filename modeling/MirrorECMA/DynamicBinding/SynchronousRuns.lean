import MirrorECMA.DynamicBinding.RoundTrip
import MirrorECMA.DynamicBinding.Synchronous
import MirrorECMA.ModelInterface.DescriptorIdentity

namespace Mirror.DynamicBinding

open ECMA Mirror.Protocol Mirror.OpaqueItf
open Mirror.ModelInterface (ResolvedAction ResolvedObservation)

namespace Synchronous

/-! ### What a step can do -/

/-- The state in which a call that failed leaves the binding. -/
def failed (state : BindingState) : BindingState := { state with lifecycle := .poisoned, running := false, call := none }

theorem raise_failed (state : BindingState) (wireAction : JsString) (stage : Stage) (error : Option DynamicBindingError) :
    ∃ thrown, raise state wireAction stage error = (failed state, .threw thrown) := by
  cases stage <;> cases error <;> exact ⟨_, rfl⟩

/-- All that a step may do to a state. -/
inductive Effect (binding : PreparedBinding) (state : BindingState) : Input → BindingState → Output → Prop
  | refused {wireAction : JsString} {payload : State} {error : DynamicBindingError} :
    Effect binding state (.computer wireAction payload) state (.threw error)
  | reentered {wireAction : JsString} {payload : State} {error : DynamicBindingError} : state.running = true →
    Effect binding state (.computer wireAction payload) { state with lifecycle := .poisoned } (.threw error)
  | undispatched {wireAction : JsString} {payload : State} {error : DynamicBindingError} : state.running = false →
    Effect binding state (.computer wireAction payload) (failed state) (.threw error)
  | started {wireAction : JsString} {payload : State} {action : ResolvedAction} {inputs : Fields NativeModelValue} :
    state.disposed = false → state.lifecycle ≠ .poisoned → binding.actionByWire.get wireAction = some action →
    (action.phase = .transition → state.lifecycle ≠ .fresh) →
    Effect binding state (.computer wireAction payload)
      { state with running := true, call := some ⟨wireAction, .handler action⟩ } (.startedHandler action inputs)
  | failed {call : Call} {result : CallbackResult} {error : DynamicBindingError} : state.call = some call →
    Effect binding state (.settle result) (failed state) (.threw error)
  | first {wireAction : JsString} {action : ResolvedAction} {observation : ResolvedObservation}
    {rest : List ResolvedObservation} : state.call = some ⟨wireAction, .handler action⟩ → state.disposed = false →
    state.lifecycle ≠ .poisoned → binding.descriptor.observations = observation :: rest →
    Effect binding state (.settle .undefined)
      { state with lifecycle := .initialized, call := some ⟨wireAction, .observer action [] observation rest⟩ }
      (.startedObserver observation)
  | next {wireAction : JsString} {action : ResolvedAction} {observed : List NativeModelValue}
    {current observation : ResolvedObservation} {rest : List ResolvedObservation} {result : CallbackResult}
    {native : NativeModelValue} : state.call = some ⟨wireAction, .observer action observed current (observation :: rest)⟩ →
    state.disposed = false → Effect binding state (.settle result)
      { state with call := some ⟨wireAction, .observer action (observed ++ [native]) observation rest⟩ }
      (.startedObserver observation)
  | unobserved {wireAction : JsString} {action : ResolvedAction} {returned : State} :
    state.call = some ⟨wireAction, .handler action⟩ → state.lifecycle ≠ .poisoned → binding.descriptor.observations = [] →
    encodeState binding.descriptor.observations [] = .ok returned →
    Effect binding state (.settle .undefined)
      { state with
        lifecycle := .initialized, counts := countCompleted state.counts action.id, running := false, call := none }
      (.returned action.id returned)
  | returned {wireAction : JsString} {action : ResolvedAction} {observed : List NativeModelValue}
    {current : ResolvedObservation} {result : CallbackResult} {native : NativeModelValue} {returned : State} :
    state.call = some ⟨wireAction, .observer action observed current []⟩ → state.lifecycle ≠ .poisoned →
    encodeState binding.descriptor.observations (observed ++ [native]) = .ok returned →
    Effect binding state (.settle result)
      { state with counts := countCompleted state.counts action.id, running := false, call := none }
      (.returned action.id returned)
  | disposedAgain : state.disposal ≠ .undefined → Effect binding state .dispose state .disposal
  | disposed : state.disposal = .undefined →
    Effect binding state .dispose { state with disposed := true, disposal := .queued } .disposal
  | disposer : state.disposal = .queued → Effect binding state .disposer { state with disposal := .ran } .disposerCalled

theorem computer_effect (binding : PreparedBinding) (state : BindingState) (wireAction : JsString) (payload : State) :
    Effect binding state (.computer wireAction payload) (computer binding state wireAction payload).1
      (computer binding state wireAction payload).2 := by
  unfold computer
  by_cases disposed : state.disposed = true
  · rw [if_pos disposed]
    exact .refused
  rw [if_neg disposed]
  by_cases poisoned : state.lifecycle = .poisoned
  · rw [if_pos poisoned]
    exact .refused
  rw [if_neg poisoned]
  by_cases running : state.running = true
  · rw [if_pos running]
    exact .reentered running
  rw [if_neg running]
  have idle : state.running = false := Bool.not_eq_true _ ▸ running
  -- The flag that a failed call has set is cleared by its `finally`.
  have thrown (stage : Stage) (error : Option DynamicBindingError) :
      Effect binding state (.computer wireAction payload)
        (raise { state with running := true } wireAction stage error).1
        (raise { state with running := true } wireAction stage error).2 := by
    rcases raise_failed { state with running := true } wireAction stage error with ⟨error, raised⟩
    rw [raised]
    exact .undispatched idle
  dsimp only
  cases found : binding.actionByWire.get wireAction with
  | none => exact thrown _ _
  | some action =>
    dsimp only
    by_cases early : action.phase = .transition ∧ state.lifecycle = .fresh
    · rw [if_pos early]
      exact thrown _ _
    rw [if_neg early]
    cases projected : projectInputs action payload binding.descriptor with
    | error message => exact thrown _ _
    | ok inputs =>
      exact .started (Bool.not_eq_true _ ▸ disposed) poisoned found fun phase fresh => early ⟨phase, fresh⟩

/-- A pass fails, goes on to the next observer, or is complete. -/
theorem observe_cases (binding : PreparedBinding) (state : BindingState) (wireAction : JsString) (action : ResolvedAction)
    (observed : List NativeModelValue) (left : List ResolvedObservation) :
    (∃ error, observe binding state wireAction action observed left = (failed state, .threw error)) ∨
      (∃ observation rest, left = observation :: rest ∧ state.disposed = false ∧
        observe binding state wireAction action observed left =
          ({ state with call := some ⟨wireAction, .observer action observed observation rest⟩ },
            .startedObserver observation)) ∨
      ∃ returned, left = [] ∧ state.lifecycle ≠ .poisoned ∧
        encodeState binding.descriptor.observations observed = .ok returned ∧
        observe binding state wireAction action observed left =
          ({ state with counts := countCompleted state.counts action.id, running := false, call := none },
            .returned action.id returned) := by
  have thrown (stage : Stage) (error : Option DynamicBindingError) := raise_failed state wireAction stage error
  cases left with
  | nil =>
    rw [observe, finish]
    by_cases poisoned : state.lifecycle = .poisoned
    · rw [if_pos poisoned]
      exact .inl (thrown _ _)
    rw [if_neg poisoned]
    by_cases disposed : state.disposed = true
    · rw [if_pos disposed]
      exact .inl (thrown _ _)
    rw [if_neg disposed]
    cases encoded : encodeState binding.descriptor.observations observed with
    | error message => exact .inl (thrown _ _)
    | ok returned => exact .inr (.inr ⟨returned, rfl, poisoned, rfl, rfl⟩)
  | cons observation rest =>
    rw [observe]
    by_cases disposed : state.disposed = true
    · rw [if_pos disposed]
      exact .inl (thrown _ _)
    · rw [if_neg disposed]
      exact .inr (.inl ⟨observation, rest, rfl, Bool.not_eq_true _ ▸ disposed, rfl⟩)

theorem resume_effect (binding : PreparedBinding) {state : BindingState} {call : Call} (waits : state.call = some call)
    (result : CallbackResult) :
    Effect binding state (.settle result) (resume binding state call result).1 (resume binding state call result).2 := by
  have thrown (stage : Stage) (error : Option DynamicBindingError) :
      Effect binding state (.settle result) (raise state call.wireAction stage error).1
        (raise state call.wireAction stage error).2 := by
    rcases raise_failed state call.wireAction stage error with ⟨error, raised⟩
    rw [raised]
    exact .failed waits
  rcases call with ⟨wireAction, callback⟩
  cases callback with
  | handler action =>
    cases result with
    | threw => exact thrown _ _
    | deferred => exact thrown _ _
    | value native => exact thrown _ _
    | undefined =>
      simp only [resume]
      by_cases disposed : state.disposed = true
      · rw [if_pos disposed]
        exact thrown _ _
      rw [if_neg disposed]
      by_cases poisoned : state.lifecycle = .poisoned
      · rw [if_pos poisoned]
        exact thrown _ _
      rw [if_neg poisoned]
      have undisposed : state.disposed = false := Bool.not_eq_true _ ▸ disposed
      rcases observe_cases binding { state with lifecycle := .initialized } wireAction action []
        binding.descriptor.observations with ⟨error, raised⟩ | ⟨observation, rest, left, -, going⟩ | ⟨returned, left, -, encoded, done⟩
      · rw [raised]
        exact .failed waits
      · rw [going]
        exact .first waits undisposed poisoned left
      · rw [done]
        exact .unobserved waits poisoned left encoded
  | observer action observed current left =>
    have passed (native : NativeModelValue) : Effect binding state (.settle result)
        (observe binding state wireAction action (observed ++ [native]) left).1
        (observe binding state wireAction action (observed ++ [native]) left).2 := by
      rcases observe_cases binding state wireAction action (observed ++ [native]) left with
        ⟨error, raised⟩ | ⟨observation, rest, rfl, undisposed, going⟩ | ⟨returned, rfl, healthy, encoded, done⟩
      · rw [raised]
        exact .failed waits
      · rw [going]
        exact .next waits undisposed
      · rw [done]
        exact .returned waits healthy encoded
    cases result with
    | threw => exact thrown _ _
    | deferred => exact thrown _ _
    | undefined => exact passed _
    | value native => exact passed _

theorem step_effect {binding : PreparedBinding} {state after : BindingState} {input : Input} {output : Output}
    (taken : step binding state input = some (after, output)) : Effect binding state input after output := by
  cases input with
  | computer wireAction payload =>
    have same : computer binding state wireAction payload = (after, output) := Option.some.inj taken
    have effect := computer_effect binding state wireAction payload
    rw [same] at effect
    exact effect
  | settle result =>
    simp only [step, Option.map_eq_some_iff] at taken
    rcases taken with ⟨call, waits, resumed⟩
    have effect := resume_effect binding waits result
    rw [resumed] at effect
    exact effect
  | dispose =>
    simp only [step, Option.some.injEq, dispose] at taken
    split at taken
    · rename_i again
      cases taken
      exact .disposedAgain again
    · rename_i once
      cases taken
      exact .disposed (not_not.mp once)
  | disposer =>
    simp only [step] at taken
    split at taken
    · rename_i due
      cases taken
      exact .disposer due.1
    · cases taken

/-! ### Runs -/

def Output.Starts : Output → Prop
  | .startedHandler _ _ | .startedObserver _ => True
  | _ => False

def completes (id : JsString) (t : Step) : Bool :=
  match t.output with
  | .returned action _ => action = id
  | _ => false

def callsDisposer (t : Step) : Bool :=
  match t.output with
  | .disposerCalled => true
  | _ => false

/-- The handler of an initializer ends without throwing, and returns nothing. -/
def InitializerReturned (t : Step) : Prop :=
  ∃ wireAction action, t.before.call = some ⟨wireAction, .handler action⟩ ∧ action.phase = .initialization ∧
    t.input = .settle .undefined

/-- An observer of this call calls `computer`, and so poisons the binding. -/
def ObserverReentered (wireAction : JsString) (action : ResolvedAction) (t : Step) : Prop :=
  (∃ label payload, t.input = .computer label payload) ∧ t.before.lifecycle ≠ .poisoned ∧ t.after.lifecycle = .poisoned ∧
    ∃ observed current rest, t.before.call = some ⟨wireAction, .observer action observed current rest⟩

/-- What every reachable state satisfies. -/
structure Invariant (binding : PreparedBinding) (trace : List Step) (state : BindingState) : Prop where
  running : state.running = state.call.isSome
  disposal : state.disposed = true ↔ state.disposal ≠ .undefined
  once : trace.countP callsDisposer = if state.disposal = .ran then 1 else 0
  initialized : state.lifecycle = .initialized → ∃ t ∈ trace, InitializerReturned t
  handling : ∀ wireAction action, state.call = some ⟨wireAction, .handler action⟩ → action.phase = .transition →
    ∃ t ∈ trace, InitializerReturned t
  pass : ∀ wireAction action observed current rest, state.call = some ⟨wireAction, .observer action observed current rest⟩ →
    observed.length + (rest.length + 1) = binding.descriptor.observations.length
  reentered : ∀ wireAction action observed current rest,
    state.call = some ⟨wireAction, .observer action observed current rest⟩ → state.lifecycle = .poisoned →
      ∃ t ∈ trace, ObserverReentered wireAction action t
  counts : ∀ action ∈ binding.descriptor.allActions, state.counts.get action.id = some (trace.countP (completes action.id))

theorem initial_invariant {binding : PreparedBinding} (distinct : (binding.descriptor.allActions.map (·.id)).Nodup) :
    Invariant binding [] (initial binding) where
  running := rfl
  disposal := by simp [initial]
  once := rfl
  initialized reached := by cases reached
  handling _ _ waits := by cases waits
  pass _ _ _ _ _ waits := by cases waits
  reentered _ _ _ _ _ waits := by cases waits
  counts _ member := initialCounts_get distinct member

section

variable {binding : PreparedBinding} {trace : List Step} {state after : BindingState} {input : Input} {output : Output}

/-- The counts after a step that completes no call. -/
theorem counts_kept (invariant : Invariant binding trace state) (same : after.counts = state.counts)
    (silent : ∀ id returned, output ≠ .returned id returned) : ∀ action ∈ binding.descriptor.allActions,
      after.counts.get action.id = some ((trace ++ [(⟨state, input, output, after⟩ : Step)]).countP (completes action.id)) := by
  intro action member
  have none : completes action.id ⟨state, input, output, after⟩ = false := by
    cases output with
    | returned id returned => exact absurd rfl (silent id returned)
    | _ => rfl
  rw [same, invariant.counts action member, List.countP_append, List.countP_singleton, none]
  rfl

theorem counts_completed (invariant : Invariant binding trace state) {completed : ResolvedAction} {returned : State}
    (same : after.counts = countCompleted state.counts completed.id) : ∀ action ∈ binding.descriptor.allActions,
      after.counts.get action.id = some
        ((trace ++ [(⟨state, input, .returned completed.id returned, after⟩ : Step)]).countP (completes action.id)) := by
  intro action member
  rw [same, get_countCompleted (invariant.counts action member), List.countP_append, List.countP_singleton]
  simp only [completes, decide_eq_true_eq]

theorem once_kept (invariant : Invariant binding trace state) (same : after.disposal = state.disposal)
    (silent : output ≠ .disposerCalled) :
    (trace ++ [(⟨state, input, output, after⟩ : Step)]).countP callsDisposer = if after.disposal = .ran then 1 else 0 := by
  have none : callsDisposer ⟨state, input, output, after⟩ = false := by
    cases output with
    | disposerCalled => exact absurd rfl silent
    | _ => rfl
  rw [List.countP_append, List.countP_singleton, none, invariant.once, same]
  rfl

theorem failed_invariant (invariant : Invariant binding trace state) {error : DynamicBindingError} :
    Invariant binding (trace ++ [⟨state, input, .threw error, failed state⟩]) (failed state) where
  running := rfl
  disposal := invariant.disposal
  once := once_kept invariant rfl (by simp)
  initialized reached := by cases reached
  handling _ _ waits := by cases waits
  pass _ _ _ _ _ waits := by cases waits
  reentered _ _ _ _ _ waits := by cases waits
  counts := counts_kept invariant rfl (by simp)

theorem effect_invariant (invariant : Invariant binding trace state) (effect : Effect binding state input after output) :
    Invariant binding (trace ++ [⟨state, input, output, after⟩]) after := by
  cases effect with
  | @refused wireAction payload error =>
    exact {
      running := invariant.running
      disposal := invariant.disposal
      once := once_kept invariant rfl (by simp)
      initialized := fun reached => Machine.earlier (invariant.initialized reached) _
      handling := fun _ _ waits phase => Machine.earlier (invariant.handling _ _ waits phase) _
      pass := invariant.pass
      reentered := fun _ _ _ _ _ waits poisoned => Machine.earlier (invariant.reentered _ _ _ _ _ waits poisoned) _
      counts := counts_kept invariant rfl (by simp) }
  | @reentered wireAction payload error running =>
    refine {
      running := invariant.running
      disposal := invariant.disposal
      once := once_kept invariant rfl (by simp)
      initialized := fun reached => by cases reached
      handling := fun _ _ waits phase => Machine.earlier (invariant.handling _ _ waits phase) _
      pass := invariant.pass
      reentered := fun label action observed current rest waits _ => ?_
      counts := counts_kept invariant rfl (by simp) }
    by_cases poisoned : state.lifecycle = .poisoned
    · exact Machine.earlier (invariant.reentered _ _ _ _ _ waits poisoned) _
    · exact ⟨_, List.mem_append_right _ (List.mem_singleton_self _), ⟨wireAction, payload, rfl⟩, poisoned, rfl, observed,
        current, rest, waits⟩
  | undispatched idle => exact failed_invariant invariant
  | failed waits => exact failed_invariant invariant
  | @started wireAction payload action inputs undisposed healthy found phase =>
    refine {
      running := rfl
      disposal := invariant.disposal
      once := once_kept invariant rfl (by simp)
      initialized := fun reached => Machine.earlier (invariant.initialized reached) _
      handling := fun label handled waits transition => ?_
      pass := fun _ _ _ _ _ waits => by cases waits
      reentered := fun _ _ _ _ _ waits => by cases waits
      counts := counts_kept invariant rfl (by simp) }
    cases waits
    have initialized : state.lifecycle = .initialized := by
      cases reached : state.lifecycle with
      | fresh => exact absurd reached (phase transition)
      | initialized => rfl
      | poisoned => exact absurd reached healthy
    exact Machine.earlier (invariant.initialized initialized) _
  | @first wireAction action observation rest waits undisposed healthy left =>
    refine {
      running := by rw [invariant.running, waits]; rfl
      disposal := invariant.disposal
      once := once_kept invariant rfl (by simp)
      initialized := fun _ => ?_
      handling := fun _ _ waits => by cases waits
      pass := fun _ _ _ _ _ waits => ?_
      reentered := fun _ _ _ _ _ _ poisoned => by cases poisoned
      counts := counts_kept invariant rfl (by simp) }
    · cases phase : action.phase with
      | initialization =>
        exact ⟨_, List.mem_append_right _ (List.mem_singleton_self _), wireAction, action, waits, phase, rfl⟩
      | transition => exact Machine.earlier (invariant.handling _ _ waits phase) _
    · cases waits
      rw [left, List.length_nil, List.length_cons, Nat.zero_add]
  | @next wireAction action observed current observation rest result native waits undisposed =>
    refine {
      running := by rw [invariant.running, waits]; rfl
      disposal := invariant.disposal
      once := once_kept invariant rfl (by simp)
      initialized := fun reached => Machine.earlier (invariant.initialized reached) _
      handling := fun _ _ waits => by cases waits
      pass := fun _ _ _ _ _ waiting => ?_
      reentered := fun _ _ _ _ _ waiting poisoned => ?_
      counts := counts_kept invariant rfl (by simp) }
    · cases waiting
      have whole := invariant.pass _ _ _ _ _ waits
      rw [List.length_cons] at whole
      rw [List.length_append, List.length_singleton]
      omega
    · cases waiting
      exact Machine.earlier (invariant.reentered _ _ _ _ _ waits poisoned) _
  | @unobserved wireAction action returned waits healthy left encoded =>
    refine {
      running := rfl
      disposal := invariant.disposal
      once := once_kept invariant rfl (by simp)
      initialized := fun _ => ?_
      handling := fun _ _ waits => by cases waits
      pass := fun _ _ _ _ _ waits => by cases waits
      reentered := fun _ _ _ _ _ waits => by cases waits
      counts := counts_completed invariant rfl }
    cases phase : action.phase with
    | initialization =>
      exact ⟨_, List.mem_append_right _ (List.mem_singleton_self _), wireAction, action, waits, phase, rfl⟩
    | transition => exact Machine.earlier (invariant.handling _ _ waits phase) _
  | @returned wireAction action observed current result native returned waits healthy encoded =>
    exact {
      running := rfl
      disposal := invariant.disposal
      once := once_kept invariant rfl (by simp)
      initialized := fun reached => Machine.earlier (invariant.initialized reached) _
      handling := fun _ _ waits => by cases waits
      pass := fun _ _ _ _ _ waits => by cases waits
      reentered := fun _ _ _ _ _ waits => by cases waits
      counts := counts_completed invariant rfl }
  | disposedAgain again =>
    exact {
      running := invariant.running
      disposal := invariant.disposal
      once := once_kept invariant rfl (by simp)
      initialized := fun reached => Machine.earlier (invariant.initialized reached) _
      handling := fun _ _ waits phase => Machine.earlier (invariant.handling _ _ waits phase) _
      pass := invariant.pass
      reentered := fun _ _ _ _ _ waits poisoned => Machine.earlier (invariant.reentered _ _ _ _ _ waits poisoned) _
      counts := counts_kept invariant rfl (by simp) }
  | disposed once =>
    refine {
      running := invariant.running
      disposal := by simp
      once := ?_
      initialized := fun reached => Machine.earlier (invariant.initialized reached) _
      handling := fun _ _ waits phase => Machine.earlier (invariant.handling _ _ waits phase) _
      pass := invariant.pass
      reentered := fun _ _ _ _ _ waits poisoned => Machine.earlier (invariant.reentered _ _ _ _ _ waits poisoned) _
      counts := counts_kept invariant rfl (by simp) }
    rw [List.countP_append, invariant.once, once]
    rfl
  | disposer due =>
    refine {
      running := invariant.running
      disposal := ?_
      once := ?_
      initialized := fun reached => Machine.earlier (invariant.initialized reached) _
      handling := fun _ _ waits phase => Machine.earlier (invariant.handling _ _ waits phase) _
      pass := invariant.pass
      reentered := fun _ _ _ _ _ waits poisoned => Machine.earlier (invariant.reentered _ _ _ _ _ waits poisoned) _
      counts := counts_kept invariant rfl (by simp) }
    · have queued := invariant.disposal.mpr (by rw [due]; simp)
      simp [queued]
    · rw [List.countP_append, invariant.once, due]
      rfl

theorem run_invariant (distinct : (binding.descriptor.allActions.map (·.id)).Nodup) (run : Run binding trace state) :
    Invariant binding trace state :=
  run.invariant (initial_invariant distinct) fun _ _ _ _ _ invariant taken => effect_invariant invariant (step_effect taken)

end

/-! ### What runs satisfy -/

section

variable {binding : PreparedBinding} {trace : List Step} {state after : BindingState} {input : Input} {output : Output}

theorem poisoned_stays (effect : Effect binding state input after output) (poisoned : state.lifecycle = .poisoned) :
    after.lifecycle = .poisoned := by
  cases effect with
  | reentered _ => rfl
  | undispatched _ => rfl
  | failed _ => rfl
  | first _ _ healthy _ => exact absurd poisoned healthy
  | unobserved _ healthy _ _ => exact absurd poisoned healthy
  | _ => exact poisoned

theorem disposed_stays (effect : Effect binding state input after output) (disposed : state.disposed = true) :
    after.disposed = true := by
  cases effect with
  | disposed _ => rfl
  | _ => exact disposed

theorem disposed_silent (effect : Effect binding state input after output) (disposed : state.disposed = true) :
    ¬ output.Starts := by
  cases effect with
  | started undisposed _ _ _ => rw [disposed] at undisposed; cases undisposed
  | first _ undisposed _ _ => rw [disposed] at undisposed; cases undisposed
  | next _ undisposed => rw [disposed] at undisposed; cases undisposed
  | _ => exact id

/-- The observer that comes next in the pass of the call that waits. -/
def ContinuesPass (t : Step) (wireAction : JsString) (action : ResolvedAction) : Prop :=
  ∃ observed current observation rest,
    t.before.call = some ⟨wireAction, .observer action observed current (observation :: rest)⟩ ∧
      t.output = .startedObserver observation

/-- A poisoned binding starts nothing but the observers that are left of a pass, and the pass returns no state. -/
theorem poisoned_effect (effect : Effect binding state input after output) (poisoned : state.lifecycle = .poisoned) :
    (output.Starts → ∃ wireAction action, ContinuesPass ⟨state, input, output, after⟩ wireAction action) ∧
      ∀ id returned, output ≠ .returned id returned := by
  cases effect with
  | started _ healthy _ _ => exact absurd poisoned healthy
  | first _ _ healthy _ => exact absurd poisoned healthy
  | unobserved _ healthy _ _ => exact absurd poisoned healthy
  | returned _ healthy _ => exact absurd poisoned healthy
  | next waits _ => exact ⟨fun _ => ⟨_, _, _, _, _, _, waits, rfl⟩, by simp⟩
  | _ => exact ⟨False.elim, by simp⟩

end

/-- The handler of a transition starts in an initialized binding only. -/
theorem transition_effect {binding : PreparedBinding} {state after : BindingState} {input : Input} {action : ResolvedAction}
    {inputs : Fields NativeModelValue} (effect : Effect binding state input after (.startedHandler action inputs))
    (phase : action.phase = .transition) : state.lifecycle = .initialized := by
  cases effect with
  | started _ healthy _ order =>
    cases lifecycle : state.lifecycle with
    | fresh => exact absurd lifecycle (order phase)
    | initialized => rfl
    | poisoned => exact absurd lifecycle healthy

theorem returned_effect {binding : PreparedBinding} {trace : List Step} {state after : BindingState} {input : Input}
    {id : JsString} {returned : State} (distinct : (binding.descriptor.observations.map (·.wireName)).Nodup)
    (invariant : Invariant binding trace state) (effect : Effect binding state input after (.returned id returned)) :
    Fields.keys returned = binding.descriptor.observations.map (·.wireName) := by
  cases effect with
  | unobserved _ _ left encoded => exact encodeState_keys distinct (by rw [left]; rfl) encoded
  | returned waits _ encoded =>
    apply encodeState_keys distinct _ encoded
    have whole := invariant.pass _ _ _ _ _ waits
    rw [List.length_append, List.length_singleton]
    exact whole

/-- How a binding behaves over a run. -/
structure Behaves (binding : PreparedBinding) (trace : List Step) (state : BindingState) : Prop where
  poisoned : ∀ earlier t later, trace = earlier ++ t :: later → t.before.lifecycle = .poisoned →
    state.lifecycle = .poisoned
  disposed : ∀ earlier t later, trace = earlier ++ t :: later → t.before.disposed = true → state.disposed = true
  disposedSilent : ∀ t ∈ trace, t.before.disposed = true → ¬ t.output.Starts
  /-- An observer that follows poison belongs to the pass in which another observer called `computer`. -/
  poisonedSilent : ∀ earlier t later, trace = earlier ++ t :: later → t.before.lifecycle = .poisoned → t.output.Starts →
    ∃ wireAction action, ContinuesPass t wireAction action ∧ ∃ u ∈ earlier, ObserverReentered wireAction action u
  poisonedReturns : ∀ t ∈ trace, t.before.lifecycle = .poisoned → ∀ id returned, t.output ≠ .returned id returned
  initializerFirst : ∀ earlier t later, trace = earlier ++ t :: later → ∀ action inputs,
    t.output = .startedHandler action inputs → action.phase = .transition → ∃ u ∈ earlier, InitializerReturned u
  coverage : ∀ action ∈ binding.descriptor.allActions,
    (coverage state).get action.id = some (trace.countP (completes action.id))
  wireNames : ∀ t ∈ trace, ∀ id returned, t.output = .returned id returned →
    Fields.keys returned = binding.descriptor.observations.map (·.wireName)
  disposer : trace.countP callsDisposer ≤ 1

/-- Poison, disposal, the order of handlers, coverage and the returned states, over every run of every binding. -/
theorem bindDynamicDescriptor_runs [ModelInterface.Sha256] {value : ModelInterface.Unknown}
    {registry : DynamicHandlerRegistry} {binding : PreparedBinding} (prepared : prepareBinding value registry = .ok binding)
    {trace : List Step} {state : BindingState} (run : Run binding trace state) : Behaves binding trace state := by
  have wellFormed := (ModelInterface.decodeSemanticDescriptor_accepted (prepareBinding_decoded prepared)).1
  have reached {earlier later : List Step} {t : Step} (same : trace = earlier ++ t :: later) :
      Invariant binding earlier t.before ∧ Effect binding t.before t.input t.after t.output := by
    rw [same] at run
    exact ⟨run_invariant wellFormed.actionIds run.split.1, step_effect run.split.2⟩
  have taken {t : Step} (member : t ∈ trace) : Effect binding t.before t.input t.after t.output :=
    step_effect (run.taken member)
  have invariant := run_invariant wellFormed.actionIds run
  refine {
    poisoned := fun earlier t later same poisoned => ?_
    disposed := fun earlier t later same disposed => ?_
    disposedSilent := fun t member disposed => disposed_silent (taken member) disposed
    poisonedSilent := fun earlier t later same poisoned starts => ?_
    poisonedReturns := fun t member poisoned => (poisoned_effect (taken member) poisoned).2
    initializerFirst := fun earlier t later same action inputs started phase => ?_
    coverage := invariant.counts
    wireNames := fun t member id returned ends => ?_
    disposer := ?_ }
  · rw [same] at run
    exact run.stable (P := fun state => state.lifecycle = .poisoned)
      (fun _ _ _ _ poisoned taken => poisoned_stays (step_effect taken) poisoned) poisoned
  · rw [same] at run
    exact run.stable (P := fun state => state.disposed = true)
      (fun _ _ _ _ disposed taken => disposed_stays (step_effect taken) disposed) disposed
  · rcases reached same with ⟨before, effect⟩
    rcases (poisoned_effect effect poisoned).1 starts with ⟨wireAction, action, pass⟩
    rcases pass with ⟨observed, current, observation, rest, waits, output⟩
    exact ⟨wireAction, action, ⟨observed, current, observation, rest, waits, output⟩,
      before.reentered _ _ _ _ _ waits poisoned⟩
  · rcases reached same with ⟨before, effect⟩
    rw [started] at effect
    exact before.initialized (transition_effect effect phase)
  · rcases List.append_of_mem member with ⟨earlier, later, same⟩
    rcases reached same with ⟨before, effect⟩
    rw [ends] at effect
    exact returned_effect wellFormed.wireNames before effect
  · rw [invariant.once]
    split <;> decide

/-! ### A binding with two observers -/

def lamp : ModelInterface.SemanticDescriptor where
  interfaceVersion := js "1.0.0"
  module := js "Lamp"
  runProfile := ⟨none, [], []⟩
  initializers := [⟨js "INIT", .initialization, js "init", [], []⟩]
  actions := []
  observations := [⟨js "ON", js "on", .scalar .bool⟩, ⟨js "UP", js "up", .scalar .bool⟩]

def lampDigest : ModelInterface.SemanticDigest :=
  ⟨js "a8c5d1f1d0b0e2a4f6cb8a9c0d1e2f30415263748596a7b8c9daebfc0d1e2f3a", by decide⟩

def lampRegistry : DynamicHandlerRegistry where
  semanticDigest := lampDigest.hex
  actions := [⟨.text (js "INIT"), true⟩]
  observations := [⟨.text (js "ON"), true⟩, ⟨.text (js "UP"), true⟩]

def lampBinding : PreparedBinding where
  descriptor := lamp
  digest := lampDigest
  actionByWire := actionsByWire lamp.allActions

set_option maxRecDepth 4000 in
theorem lamp_decoded : ModelInterface.decodeSemanticDescriptor (some lamp.toJson) = .ok lamp := by rfl

theorem lamp_prepared : letI : ModelInterface.Sha256 := ⟨fun _ => lampDigest.hex⟩
    prepareBinding (some lamp.toJson) lampRegistry = .ok lampBinding := by
  let _ : ModelInterface.Sha256 := ⟨fun _ => lampDigest.hex⟩
  have digest : ModelInterface.semanticDescriptorDigest (some lamp.toJson) = .ok lampDigest := by
    rw [ModelInterface.semanticDescriptorDigest, ModelInterface.semanticDescriptorMessage_written lamp_decoded, ok_bind]
    exact dif_pos lampDigest.valid
  simp only [prepareBinding, lamp_decoded, digest, Except.mapError, ok_bind]
  rfl

def lampInputs : List Input :=
  [.computer (js "init") [], .settle .undefined, .computer (js "init") [], .settle (.value (.boolean true))]

def lampRun : List Step × BindingState :=
  (Machine.follow (step lampBinding) (initial lampBinding) lampInputs).getD ([], initial lampBinding)

theorem lamp_followed : Machine.follow (step lampBinding) (initial lampBinding) lampInputs = some lampRun := by rfl

/-- The first observer calls `computer`, and the second one starts nevertheless. -/
theorem poisoned_observer_starts : letI : ModelInterface.Sha256 := ⟨fun _ => lampDigest.hex⟩
    ∃ value registry binding trace state, prepareBinding value registry = .ok binding ∧ Run binding trace state ∧
      ∃ t ∈ trace, t.before.lifecycle = .poisoned ∧ t.output.Starts := by
  have run : Run lampBinding _ _ := Machine.Run.follow .start lamp_followed
  refine ⟨_, _, lampBinding, _, _, lamp_prepared, run, ?_⟩
  exact ⟨_, List.mem_append_right _ (.tail _ (.tail _ (.tail _ (.head _)))), rfl, trivial⟩

/-- The same run under the theorem. -/
theorem lamp_behaves : letI : ModelInterface.Sha256 := ⟨fun _ => lampDigest.hex⟩
    ∃ trace state, trace.length = 4 ∧ Behaves lampBinding trace state := by
  let _ : ModelInterface.Sha256 := ⟨fun _ => lampDigest.hex⟩
  have run : Run lampBinding _ _ := Machine.Run.follow .start lamp_followed
  exact ⟨_, _, rfl, bindDynamicDescriptor_runs lamp_prepared run⟩

end Synchronous

end Mirror.DynamicBinding
