import MirrorECMA.ECMA.Integers
import MirrorECMA.Negotiation.Callback

namespace Mirror.Negotiation

open ECMA ModelInterface Mirror.Protocol
open DescriptorCache (Cache)
open Machine.Throwing

variable {ω : Type}

/-! ### What the run owns -/

/-- Nothing is disposed of or closed, and the run owns exactly what it has acquired. -/
structure Held (run : Run ω) : Prop where
  undisposed : ∀ resource, run.events.count (.disposed resource) = 0
  unclosed : run.events.count .closed = 0
  owned : ∀ resource, run.events.count (.acquired resource) = if run.owned.map Prod.fst = some resource then 1 else 0

/-- Nothing has been acquired. -/
structure Fresh (run : Run ω) : Prop where
  held : Held run
  binding : run.binding = none
  disposeScope : run.disposeScope = none

theorem fresh_start (cache : Cache) : Fresh ({ cache } : Run ω) where
  held :=
    { undisposed := fun _ => rfl
      unclosed := rfl
      owned := fun _ => rfl }
  binding := rfl
  disposeScope := rfl

/-- An event that neither acquires nor disposes. -/
def Event.isQuiet : Event → Bool
  | .sent _ | .called _ => true
  | _ => false

theorem Held.quiet {run : Run ω} (held : Held run) {event : Event} (quiet : event.isQuiet = true) :
    Held { run with events := run.events ++ [event] } where
  undisposed resource := by
    rw [List.count_append, held.undisposed]
    cases event <;> first | rfl | cases quiet
  unclosed := by
    rw [List.count_append, held.unclosed]
    cases event <;> first | rfl | cases quiet
  owned resource := by
    rw [List.count_append, held.owned]
    cases event <;> first | rfl | cases quiet

/-- The run acquires a resource and owns it. -/
theorem Fresh.acquires {run after : Run ω} (fresh : Fresh run) {resource : Resource}
    (events : after.events = run.events ++ [.acquired resource]) (owned : after.owned.map Prod.fst = some resource) :
    Held after where
  undisposed other := by
    rw [events, List.count_append, fresh.held.undisposed]
    rfl
  unclosed := by
    rw [events, List.count_append, fresh.held.unclosed]
    rfl
  owned other := by
    have before : run.owned = none := by
      rw [Run.owned, fresh.binding, fresh.disposeScope]
    have none : run.events.count (.acquired other) = 0 := by
      rw [fresh.held.owned, before]
      rfl
    rw [events, List.count_append, none, owned, List.count_singleton, Nat.zero_add]
    by_cases same : resource = other
    · simp [same]
    · simp [same]

/-- A run that has called code of the caller. -/
def Run.after (run : Run ω) (event : Event) : Run ω := { run with events := run.events ++ [event] }

theorem Fresh.quiet {run : Run ω} (fresh : Fresh run) {event : Event} (quiet : event.isQuiet = true) :
    Fresh (run.after event) :=
  ⟨fresh.held.quiet quiet, fresh.binding, fresh.disposeScope⟩

/-- Waiting for a call leaves the run as it is. -/
theorem await_ends {α : Type} (called : Called ω α) (failure : NegotiatedFailure ω) (run : Run ω)
    {Q : α → Run ω → Prop} (returns : ∀ value, Q value run) (stops : Held run) :
    Ends (await called failure) Q (fun _ => Held) run := by
  cases called with
  | none => exact stops
  | some result =>
    cases result with
    | ok value => exact returns value
    | error error => exact stops

theorem settle_ends {α : Type} (result : Except (NegotiatedFailure ω) α) (run : Run ω) {Q : α → Run ω → Prop}
    (returns : ∀ value, result = .ok value → Q value run) (stops : Held run) :
    Ends (settle result) Q (fun _ => Held) run := by
  cases result with
  | ok value => exact returns value rfl
  | error failure => exact stops

theorem createBinding_ends (callee : Callee) (factory : Called ω (LocalBinding ω)) (adapterId : JsString) {run : Run ω}
    (fresh : Fresh run) :
    Ends (createBinding callee factory adapterId) (fun _ => Held) (fun _ => Held) run := by
  have called : Fresh (run.after (.called callee)) := fresh.quiet rfl
  simp only [createBinding, record, own, ends_bind, ends_modify]
  apply await_ends
  · intro binding
    exact called.acquires rfl rfl
  · exact called.held

theorem send_ends (environment : RunEnvironment ω) (line : JsString) {run : Run ω} (fresh : Fresh run) :
    Ends (send environment line) (fun _ => Fresh) (fun _ => Held) run := by
  unfold send
  cases environment.sendFailure with
  | some error => exact fresh.held
  | none =>
    have sent : Fresh (run.after (.sent line)) := fresh.quiet rfl
    exact sent

theorem validateOwned_ends (digest : SemanticDigest) (label : JsString) {run : Run ω} (held : Held run) :
    Ends (validateOwned digest label) (fun _ => Held) (fun _ => Held) run := by
  simp only [validateOwned, ends_bind, ends_get]
  cases run.binding with
  | none => exact held
  | some binding => exact settle_ends _ _ (fun _ _ => held) held

theorem replayLoop_ends [NumberText] [NumberConversion] (rounds : List (Replay.Round (Rejection ω) (ActionEnvironment ω)))
    {run : Run ω} (held : Held run) :
    Ends (replayLoop rounds) (fun _ => Held) (fun _ => Held) run := by
  unfold replayLoop
  split <;> exact held

section

variable [Sha256]

theorem bindDescriptor_resource {descriptor : SemanticDescriptor} {registry : DynamicBinding.DynamicHandlerRegistry}
    {paramVars : Option JsString} {resource : Resource} {disposal : Called ω Unit} {binding : OwnedBinding ω}
    (bound : bindDescriptor descriptor registry paramVars resource disposal = .ok binding) :
    binding.resource = resource := by
  rcases bind_eq_ok.mp bound with ⟨prepared, -, returned⟩
  cases returned
  rfl

theorem bindDynamic_ends (environment : RunEnvironment ω) (source : RegistrySource ω) (descriptor : SemanticDescriptor)
    (paramVars : Option JsString) {run : Run ω} (fresh : Fresh run) :
    Ends (bindDynamic environment source descriptor paramVars) (fun _ => Held) (fun _ => Held) run := by
  cases source with
  | createRegistry create =>
    have called : Fresh (run.after (.called .createRegistry)) := fresh.quiet rfl
    simp only [bindDynamic, record, own, ends_bind, ends_modify]
    apply await_ends _ _ _ _ called.held
    intro scope
    -- from here on the scope is owned, first by `disposeScope` and then by the binding
    have acquired : Held { run.after (.called .createRegistry) with
        events := (run.after (.called .createRegistry)).events ++ [.acquired .scope]
        disposeScope := some scope.disposal } := by
      refine called.acquires rfl ?_
      rw [Run.owned, called.binding]
      rfl
    apply settle_ends _ _ _ acquired
    intro _ _
    apply settle_ends _ _ _ acquired
    intro binding bound
    refine called.acquires rfl ?_
    rw [← bindDescriptor_resource bound]
    rfl
  | registry registry disposal =>
    have called : Fresh (run.after (.called .registry)) := fresh.quiet rfl
    simp only [bindDynamic, record, own, ends_bind, ends_modify]
    apply settle_ends _ _ _ called.held
    intro binding bound
    refine called.acquires rfl ?_
    rw [← bindDescriptor_resource bound]
    rfl

theorem acquire_ends (environment : RunEnvironment ω) (prepared : Selected ω) (paramVars : Option JsString)
    (authorization : ReplayAuthorization) {run : Run ω} (fresh : Fresh run) :
    Ends (acquire environment prepared paramVars authorization) (fun _ => Held) (fun _ => Held) run := by
  cases authorization with
  | compiled =>
    cases prepared with
    | compiled key factory policy fallbackFactory => exact createBinding_ends _ _ _ fresh
    | dynamic => exact fresh.held
  | dynamic descriptor =>
    cases prepared with
    | compiled => exact fresh.held
    | dynamic digest registry ifNoneMatch policy fallbackFactory => exact bindDynamic_ends _ _ _ _ fresh
  | fallback =>
    simp only [acquire]
    cases prepared.fallbackFactory with
    | none => exact fresh.held
    | some factory => exact createBinding_ends _ _ _ fresh

variable [NumberText] [NumberConversion]

theorem authorize_ends (environment : RunEnvironment ω) (prepared : Selected ω) {run : Run ω} (fresh : Fresh run) :
    Ends (authorize environment prepared) (fun _ => Fresh) (fun _ => Held) run := by
  have cached (cache : Cache) : Fresh { run with cache } :=
    ⟨⟨fresh.held.undisposed, fresh.held.unclosed, fresh.held.owned⟩, fresh.binding, fresh.disposeScope⟩
  unfold authorize
  cases environment.received with
  | none => exact fresh.held
  | some received =>
    simp only [ends_bind]
    apply settle_ends _ _ _ fresh.held
    intro decoded _
    have authorized (reply : Option ModelInterfaceReply) : Ends
        (do
          let authorized := authorizeReply prepared reply (← get).cache
          modify fun run => { run with cache := authorized.2 }
          settle authorized.1 : Running ω ReplayAuthorization) (fun _ => Fresh) (fun _ => Held) run := by
      simp only [ends_bind, ends_get, ends_modify]
      apply settle_ends _ _ _ (cached _).held
      intro authorization _
      exact cached _
    cases decoded.modelInterface with
    | none => exact authorized none
    | some extension =>
      cases extension with
      | reply reply => exact authorized (some reply)
      | failure failure =>
        exact fresh.held

theorem runProper_ends (environment : RunEnvironment ω) (prepared : Selected ω) (paramVars : Option JsString)
    (registration : JsString) {run : Run ω} (fresh : Fresh run) :
    Ends (runProper environment prepared paramVars registration) (fun _ => Held) (fun _ => Held) run := by
  have active {before : Run ω} (aborted : Option ReplayControlErrorCode) (held : Held before) {Q : Unit → Run ω → Prop}
      (returns : Q () before) : Ends (checkActive aborted) Q (fun _ => Held) before :=
    settle_ends _ _ (fun _ _ => returns) held
  simp only [runProper, ends_bind]
  apply active _ fresh.held
  refine (send_ends environment registration fresh).mono (fun _ after fresh => ?_) fun _ _ held => held
  refine (authorize_ends environment prepared fresh).mono (fun authorization after fresh => ?_) fun _ _ held => held
  apply active _ fresh.held
  refine (acquire_ends environment prepared paramVars authorization fresh).mono (fun _ after held => ?_) fun _ _ held => held
  apply active _ held
  refine (validateOwned_ends _ _ held).mono (fun _ after held => ?_) fun _ _ held => held
  exact replayLoop_ends _ held

end

/-! ### The cleanup -/

/-- Close is called once, after everything that has been acquired is disposed of once. -/
structure Released (events : List Event) : Prop where
  closedOnce : events.count .closed = 1
  closedLast : ∃ front, events = front ++ [.closed]
  disposed : ∀ resource, events.count (.disposed resource) = events.count (.acquired resource)
  once : ∀ resource, events.count (.acquired resource) ≤ 1

/-- The run after its cleanup has disposed of what it owns. -/
theorem dispose_events (run : Run ω) :
    run.dispose.2.events = run.events ++ (run.owned.map fun owned => Event.disposed owned.1).toList := by
  unfold Run.dispose
  cases run.owned with
  | none => exact (List.append_nil _).symm
  | some owned => rfl

theorem Held.released {run : Run ω} (held : Held run) : Released (run.dispose.2.events ++ [.closed]) := by
  have acquired (resource : Resource) : (run.dispose.2.events ++ [Event.closed]).count (.acquired resource) =
      if run.owned.map Prod.fst = some resource then 1 else 0 := by
    rw [dispose_events, List.count_append, List.count_append, held.owned]
    cases run.owned <;> rfl
  have disposed (resource : Resource) : (run.dispose.2.events ++ [Event.closed]).count (.disposed resource) =
      if run.owned.map Prod.fst = some resource then 1 else 0 := by
    rw [dispose_events, List.count_append, List.count_append, held.undisposed]
    cases run.owned with
    | none => rfl
    | some owned => simp [List.count_singleton]
  exact
    { closedOnce := by
        rw [dispose_events, List.count_append, List.count_append, held.unclosed]
        cases run.owned <;> rfl
      closedLast := ⟨_, rfl⟩
      disposed := by
        intro resource
        rw [acquired, disposed]
      once := by
        intro resource
        rw [acquired]
        split <;> omega }

theorem cleanup_released {environment : RunEnvironment ω} {result : Except (NegotiatedFailure ω) Replay.ReplayRecorder}
    {run : Run ω} (held : Held run) (exits : (cleanup environment result run).2 ≠ .waiting) :
    Released (cleanup environment result run).1.events := by
  have released := held.released
  unfold cleanup at exits ⊢
  generalize run.dispose = done at released exits ⊢
  rcases done with ⟨disposal, after⟩
  cases disposal with
  | none => exact absurd rfl exits
  | some disposal =>
    cases closing : environment.closing with
    | none =>
      rw [closing] at exits
      exact absurd rfl exits
    | some closing => exact released

theorem cleanup_outcome {environment : RunEnvironment ω} {result : Except (NegotiatedFailure ω) Replay.ReplayRecorder}
    {run : Run ω} (exits : (cleanup environment result run).2 ≠ .waiting) :
    ∃ disposal closing, run.dispose.1 = some disposal ∧ environment.closing = some closing ∧
      (cleanup environment result run).2 = .first result (cleanupError disposal closing) := by
  unfold cleanup at exits ⊢
  generalize run.dispose = done at exits ⊢
  rcases done with ⟨disposal, after⟩
  cases disposal with
  | none => exact absurd rfl exits
  | some disposal =>
    cases closing : environment.closing with
    | none =>
      rw [closing] at exits
      exact absurd rfl exits
    | some final => exact ⟨disposal, final, rfl, rfl, rfl⟩

/-! ### The run -/

section

variable [Sha256] [NumberText] [NumberConversion]

/-- The error that is thrown is the first one of the run proper, and one of the cleanup only when there is none. -/
structure FirstError (environment : RunEnvironment ω) (prepared : Selected ω) (paramVars : Option JsString)
    (registration : JsString) (cache : Cache) (outcome : Outcome ω) : Prop where
  primary : ∀ failure run, (runProper environment prepared paramVars registration).run.run { cache } =
    (.error (.threw failure), run) → outcome = .threw failure
  cleanup : ∀ report run, (runProper environment prepared paramVars registration).run.run { cache } = (.ok report, run) →
    ∃ disposal closing, run.dispose.1 = some disposal ∧ environment.closing = some closing ∧
      outcome = .first (.ok report) (cleanupError disposal closing)

end

/-! ### A transport without an iterator -/

def zeroDigest : SemanticDigest := ⟨List.replicate 64 0x30, by decide⟩

/-- A compiled selection whose factory never settles. -/
def compiledSelection : Selected Unit := .compiled ⟨zeroDigest, [], [], []⟩ none .require none

/-- The transport has lost its connection before the first line. -/
def lostTransport (iterator : Option Unit) : RunEnvironment Unit where
  iterator
  aborted _ := none
  sendFailure := none
  received := some (.error (.error (js "transport closed unexpectedly")))
  rounds := []
  closing := some (.ok ())

end Mirror.Negotiation
