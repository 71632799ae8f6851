import MirrorECMA.Compiled.Report

namespace Mirror.Compiled

open ECMA ModelInterface Mirror.Protocol Mirror.Negotiation
open Mirror.Replay (CompiledReplayReport Loop MatchedEvidenceTracker Round StepEnvironment)

variable {ω : Type}

/-! ### What has been done -/

/-- What events amount to. -/
structure Account (ω : Type) where
  productions : Nat := 0
  disposals : Nat := 0
  closes : Nat := 0
  endings : List (Result ω) := []
  errors : List (CleanupError ω) := []

def Account.add (first second : Account ω) : Account ω :=
  ⟨first.productions + second.productions, first.disposals + second.disposals, first.closes + second.closes,
    first.endings ++ second.endings, first.errors ++ second.errors⟩

def Event.account : Event ω → Account ω
  | .produced => { productions := 1 }
  | .disposed => { disposals := 1 }
  | .closed => { closes := 1 }
  | .ended result => { endings := [result] }
  | .cleanupFailed error => { errors := [error] }
  | .resolved | .registered | .factoryCalled | .invoked _ => {}

def account : List (Event ω) → Account ω
  | [] => {}
  | event :: rest => event.account.add (account rest)

@[simp] theorem Account.add_empty (first : Account ω) : first.add {} = first := by simp [Account.add]

@[simp] theorem Account.empty_add (first : Account ω) : Account.add {} first = first := by simp [Account.add]

theorem Account.add_assoc (first second third : Account ω) :
    (first.add second).add third = first.add (second.add third) := by
  simp [Account.add, Nat.add_assoc]

@[simp] theorem account_nil : account ([] : List (Event ω)) = {} := rfl

@[simp] theorem account_cons (event : Event ω) (rest : List (Event ω)) :
    account (event :: rest) = event.account.add (account rest) := rfl

theorem account_append (first second : List (Event ω)) :
    account (first ++ second) = (account first).add (account second) := by
  induction first with
  | nil => simp
  | cons event rest ih => rw [List.cons_append, account_cons, ih, account_cons, Account.add_assoc]

theorem account_invoked (asked : Option Asked) : account (asked.toList.map (Event.invoked (ω := ω))) = {} := by
  cases asked <;> rfl

theorem mem_endings {result : Result ω} {events : List (Event ω)} :
    .ended result ∈ events ↔ result ∈ (account events).endings := by
  induction events with
  | nil => simp
  | cons event rest ih =>
    rw [account_cons, List.mem_cons, ih]
    cases event <;> simp [Event.account, Account.add]

def events (trace : List (Step ω)) : List (Event ω) := trace.flatMap (·.output)

theorem events_snoc (trace : List (Step ω)) (t : Step ω) : events (trace ++ [t]) = events trace ++ t.output := by
  simp [events]

/-! ### What a state says of it -/

namespace Phase

/-- How the run proper has ended. -/
def ending : Phase ω → Option (Result ω)
  | .refused failure | .abandoning failure => some (.error failure)
  | .finished result | .disposing result | .joining result _ | .closing result _ | .done result _ => some result
  | _ => none

def errors : Phase ω → List (CleanupError ω)
  | .joining _ errors | .closing _ errors | .done _ errors => errors
  | _ => []

/-- Whether the cleanup has started. -/
def cleaning : Phase ω → Bool
  | .abandoning _ | .disposing _ | .joining _ _ | .closing _ _ | .done _ _ => true
  | _ => false

end Phase

/-- The transport has not been resolved. -/
def Phase.unresolved : Phase ω → Bool
  | .starting | .refused _ | .connecting _ => true
  | _ => false

def Factory.made : Factory ω → Bool
  | .produced _ => true
  | _ => false

/-- Whether the late cleanup has disposed of a binding. -/
def State.disposedLate (state : State ω) : Bool :=
  match state.late with
  | .disposing => true
  | .settled _ => state.factory.made
  | _ => false

def State.account (state : State ω) : Account ω where
  productions := state.factory.made.toNat
  disposals := (state.binding.isSome && state.phase.cleaning).toNat + state.disposedLate.toNat
  closes := state.phase.cleaning.toNat
  endings := state.phase.ending.toList
  errors := state.phase.errors

/-- No factory has been asked for a binding. -/
def State.Unused (state : State ω) : Prop := state.factory = .unstarted ∧ state.binding = none ∧ state.late = .undefined

/-- The run waits for its factory. -/
def State.Creating (state : State ω) : Prop := state.factory ≠ .unstarted ∧ state.binding = none ∧ state.late = .undefined

/-- The run owns the binding that the factory has produced. -/
def State.Owner (state : State ω) : Prop :=
  ∃ binding, state.factory = .produced binding ∧ state.binding = some binding ∧ state.late = .undefined

/-- The run has left the factory to the late cleanup. -/
def State.Left (state : State ω) : Prop :=
  state.binding = none ∧ match state.late with
    | .undefined => False
    | .attached => state.factory ≠ .unstarted
    | .disposing => state.factory.made
    | .settled _ => state.factory.result.isSome

/-- Who has to dispose of the binding in this phase. -/
def State.Fits (state : State ω) : Prop :=
  match state.phase with
  | .starting | .refused _ | .connecting _ | .opened | .registering _ | .abandoning _ => state.Unused
  | .creating _ _ => state.Creating
  | .validating _ | .replaying _ _ | .covering _ _ | .disposing _ => state.Owner
  | .finished _ | .joining _ _ | .closing _ _ | .done _ _ => state.Unused ∨ state.Owner ∨ state.Left

/-- A step keeps the state fit, and its events make the difference. -/
structure Kept (before : State ω) (stepped : Stepped ω) : Prop where
  fits : stepped.1.Fits
  account : stepped.1.account = before.account.add (account stepped.2)

/-- The run proper has not ended. -/
def Phase.Active (phase : Phase ω) : Prop := phase.ending = none ∧ phase.errors = [] ∧ phase.cleaning = false

theorem Kept.from_same {before same : State ω} {stepped : Stepped ω} (kept : Kept same stepped)
    (account : before.account = same.account) : Kept before stepped :=
  ⟨kept.fits, by rw [account]; exact kept.account⟩

/-! ### One step -/

theorem active_account {state : State ω} (active : state.phase.Active) :
    state.account = { productions := state.factory.made.toNat, disposals := state.disposedLate.toNat } := by
  rcases active with ⟨ending, errors, cleaning⟩
  simp [State.account, ending, errors, cleaning]

/-- Nothing happens but that the run goes on to another phase. -/
theorem proceed_kept {state : State ω} (active : state.phase.Active) (phase : Phase ω) (next : phase.Active)
    (fits : ({ state with phase } : State ω).Fits) : Kept state ({ state with phase }, []) := by
  constructor
  · exact fits
  · rw [active_account active, active_account next, account_nil, Account.add_empty]
    rfl

theorem finish_kept {state : State ω} (active : state.phase.Active) (fits : state.Unused ∨ state.Owner ∨ state.Left)
    (result : Result ω) : Kept state (finish state result) := by
  constructor
  · exact fits
  · rw [active_account active]
    simp [State.account, State.disposedLate, finish, Phase.ending, Phase.errors, Phase.cleaning, Event.account, Account.add]

theorem fail_kept {state : State ω} (active : state.phase.Active) (fits : state.Unused ∨ state.Owner ∨ state.Left)
    (failure : NegotiatedFailure ω) : Kept state (fail state failure) := finish_kept active fits _

theorem abandon_kept {state : State ω} (active : state.phase.Active) (unused : state.Unused) (failure : Failed ω) :
    Kept state (abandon state failure) := by
  constructor
  · exact unused
  · rw [active_account active]
    simp [State.account, State.disposedLate, abandon, Phase.ending, Phase.errors, Phase.cleaning, unused.2.1,
      Event.account, Account.add]

/-- Opening the transport leaves the account as it is. -/
theorem opened_kept {state : State ω} (active : state.phase.Active) (unused : state.Unused) :
    Kept state ({ state with phase := .opened }, [.resolved]) := by
  rcases proceed_kept active .opened ⟨rfl, rfl, rfl⟩ unused with ⟨fits, account⟩
  exact ⟨fits, account⟩

theorem openTransport_kept {state : State ω} (active : state.phase.Active) (unused : state.Unused)
    (target : Except (Failed ω) Bool) : Kept state (openTransport state target) := by
  unfold openTransport
  split
  · constructor
    · exact unused
    · rw [active_account active]
      simp [State.account, State.disposedLate, Phase.ending, Phase.errors, Phase.cleaning, Event.account, Account.add]
  · exact proceed_kept active _ ⟨rfl, rfl, rfl⟩ unused
  · exact opened_kept active unused

theorem connected_kept {state : State ω} (active : state.phase.Active) (unused : state.Unused)
    (ready : Except (Failed ω) Unit) : Kept state (connected state ready) := by
  cases ready with
  | ok => exact opened_kept active unused
  | error failure => exact abandon_kept active unused failure

theorem register_kept {state : State ω} (active : state.phase.Active) (unused : state.Unused)
    (iterator sent : Except (Failed ω) Unit) : Kept state (register state iterator sent) := by
  unfold register
  split
  · exact abandon_kept active unused _
  · split
    · exact fail_kept active (.inl unused) _
    · rcases proceed_kept active (.registering state.signal) ⟨rfl, rfl, rfl⟩ unused with ⟨fits, account⟩
      exact ⟨fits, account⟩

theorem startReplay_kept {state : State ω} (active : state.phase.Active) (owner : state.Owner) :
    Kept state (startReplay state) := proceed_kept active _ ⟨rfl, rfl, rfl⟩ owner

theorem validate_kept {state : State ω} (active : state.phase.Active) (owner : state.Owner) (settings : Settings)
    (label : JsString) (binding : Binding ω) : Kept state (validate settings state label binding) := by
  have failed := fail_kept active (.inr (.inl owner))
  unfold validate
  dsimp only
  split
  · split
    · exact failed _
    · exact startReplay_kept active owner
  · split
    · exact failed _
    · split
      · exact failed _
      · exact proceed_kept active _ ⟨rfl, rfl, rfl⟩ owner

theorem validated_kept {state : State ω} (active : state.phase.Active) (owner : state.Owner) (settings : Settings)
    (result : Except (Failed ω) Unit) : Kept state (validated settings state result) := by
  cases result with
  | ok => exact startReplay_kept active owner
  | error cause => exact fail_kept active (.inr (.inl owner)) _

/-- Either the run owns the binding, or it leaves the factory to the late cleanup. -/
theorem created_kept {state : State ω} (active : state.phase.Active) (creating : state.Creating) (settings : Settings)
    (label : JsString) {result : Except (Failed ω) (Binding ω)}
    (given : ∀ binding, result = .ok binding → state.factory = .produced binding) :
    Kept state (created settings state label result) := by
  rcases creating with ⟨started, unbound, early⟩
  cases result with
  | ok binding =>
    have activeNow : ({ state with binding := some binding } : State ω).phase.Active := active
    have owner : ({ state with binding := some binding } : State ω).Owner := ⟨binding, given binding rfl, rfl, early⟩
    exact (validate_kept activeNow owner settings label binding).from_same
      ((active_account active).trans (active_account activeNow).symm)
  | error cause =>
    have activeNow : ({ state with late := .attached } : State ω).phase.Active := active
    have left : ({ state with late := .attached } : State ω).Left := ⟨unbound, started⟩
    apply (fail_kept activeNow (.inr (.inr left)) _).from_same
    simp only [State.account, State.disposedLate, early]

theorem covered_kept {state : State ω} (active : state.phase.Active) (owner : state.Owner) (report : CompiledReplayReport)
    (result : Except (Failed ω) Unit) : Kept state (covered state report result) := by
  cases result <;> exact finish_kept active (.inr (.inl owner)) _

theorem askCoverage_kept {state : State ω} (active : state.phase.Active) (owner : state.Owner) (binding : Binding ω)
    (report : CompiledReplayReport) : Kept state (askCoverage state binding report) := by
  unfold askCoverage
  split
  · exact finish_kept active (.inr (.inl owner)) _
  · exact fail_kept active (.inr (.inl owner)) _
  · exact proceed_kept active _ ⟨rfl, rfl, rfl⟩ owner

/-- Calls of the computer do not count. -/
theorem Kept.invoking {before : State ω} {stepped : Stepped ω} (kept : Kept before stepped) (asked : Option Asked) :
    Kept before (stepped.1, asked.toList.map Event.invoked ++ stepped.2) := by
  constructor
  · exact kept.fits
  · rw [account_append, account_invoked, Account.empty_add]
    exact kept.account

theorem play_kept [NumberText] [NumberConversion] {state : State ω} (active : state.phase.Active) (owner : state.Owner)
    (settings : Settings) (binding : Binding ω) (loop : Loop)
    (round : Round (Rejection ω) (StepEnvironment (Rejection ω))) : Kept state (play settings state binding loop round) := by
  have activeNow (evidence : Option MatchedEvidenceTracker) :
    ({ state with signal := round.signalAfter, evidence } : State ω).phase.Active := active
  have ownerNow (evidence : Option MatchedEvidenceTracker) :
    ({ state with signal := round.signalAfter, evidence } : State ω).Owner := owner
  unfold play
  dsimp only
  split
  · rename_i after _
    have kept := proceed_kept (activeNow after.matchedEvidence) (.replaying after round.signalAfter) ⟨rfl, rfl, rfl⟩ owner
    have invoking := kept.invoking (asks loop round)
    rw [List.append_nil] at invoking
    exact invoking.from_same rfl
  · rename_i report after _
    have kept := askCoverage_kept (activeNow after.matchedEvidence) (ownerNow after.matchedEvidence) binding report
    exact (kept.invoking (asks loop round)).from_same rfl
  · rename_i failure after _
    have kept := fail_kept (activeNow (Mirror.Replay.interrupted after).matchedEvidence) (.inr (.inl (ownerNow _)))
      (.other failure)
    exact (kept.invoking (asks loop round)).from_same rfl

theorem replied_kept [NumberText] [NumberConversion] [Sha256] {state : State ω} (active : state.phase.Active)
    (unused : state.Unused) (settings : Settings) (received : Except (Failed ω) JsString) :
    Kept state (replied settings state received) := by
  unfold replied
  dsimp only
  split
  · exact fail_kept active (.inl unused) _
  · rename_i label _
    have activeNow : ({ state with factory := .queued } : State ω).phase.Active := active
    have creating : ({ state with factory := .queued } : State ω).Creating := ⟨nofun, unused.2⟩
    apply (proceed_kept activeNow (.creating label state.signal) ⟨rfl, rfl, rfl⟩ creating).from_same
    simp only [State.account, State.disposedLate, unused.1, unused.2.2, Factory.made]

/-! ### Cleanup -/

theorem account_cleanupFailed (errors : List (CleanupError ω)) : account (errors.map .cleanupFailed) = { errors } := by
  induction errors with
  | nil => rfl
  | cons error rest ih =>
    rw [List.map_cons, account_cons, ih]
    rfl

theorem cleaning_account {state : State ω} (cleaning : state.phase.cleaning = true) {result : Result ω}
    (ending : state.phase.ending = some result) : state.account =
      ⟨state.factory.made.toNat, state.binding.isSome.toNat + state.disposedLate.toNat, 1, [result], state.phase.errors⟩ := by
  simp [State.account, cleaning, ending]

/-- An operation of the cleanup adds its errors, and nothing else. -/
theorem cleaning_kept {state : State ω} (cleaning : state.phase.cleaning = true) {result : Result ω}
    (ending : state.phase.ending = some result) (fits : state.Unused ∨ state.Owner ∨ state.Left)
    (found : List (CleanupError ω)) (lifetime : Option SuiteLifetime) {phase : Phase ω}
    (next : phase = .joining result (state.phase.errors ++ found) ∨ phase = .closing result (state.phase.errors ++ found) ∨
      phase = .done result (state.phase.errors ++ found)) :
    Kept state ({ state with phase, lifetime }, found.map .cleanupFailed) := by
  constructor
  · rcases next with rfl | rfl | rfl <;> exact fits
  · rw [account_cleanupFailed, cleaning_account cleaning ending]
    rcases next with rfl | rfl | rfl <;>
      simp [State.account, State.disposedLate, Phase.ending, Phase.errors, Phase.cleaning, Account.add]

theorem afterDisposal_next (state : State ω) (result : Result ω) (errors : List (CleanupError ω)) :
    afterDisposal state result errors = .joining result errors ∨ afterDisposal state result errors = .closing result errors := by
  unfold afterDisposal
  split
  · exact .inr rfl
  · exact .inr rfl
  · exact .inl rfl

theorem afterDisposal_resolved (state : State ω) (result : Result ω) (errors : List (CleanupError ω)) :
    (afterDisposal state result errors).unresolved = false := by
  rcases afterDisposal_next state result errors with next | next <;> rw [next] <;> rfl

theorem disposed_kept {state : State ω} {result : Result ω} (phase : state.phase = .disposing result) (owner : state.Owner)
    (disposal : Except (Failed ω) Unit) : Kept state (disposed state result disposal) := by
  have kept (found : List (CleanupError ω)) :
      Kept state ({ state with phase := afterDisposal state result found }, found.map .cleanupFailed) := by
    apply cleaning_kept (by rw [phase]; rfl) (by rw [phase]; rfl) (.inr (.inl owner))
    rw [phase]
    exact (afterDisposal_next state result found).imp id .inl
  cases disposal with
  | ok => exact kept []
  | error cause => exact kept [disposalError cause]

theorem joined_kept {state : State ω} {result : Result ω} {errors : List (CleanupError ω)}
    (phase : state.phase = .joining result errors) (fits : state.Unused ∨ state.Owner ∨ state.Left)
    (late : Except (Failed ω) Unit) : Kept state (joined state result errors late) := by
  have kept (found : List (CleanupError ω)) :
      Kept state ({ state with phase := .closing result (errors ++ found) }, found.map .cleanupFailed) := by
    apply cleaning_kept (by rw [phase]; rfl) (by rw [phase]; rfl) fits
    rw [phase]
    exact .inr (.inl rfl)
  cases late with
  | ok =>
    have closing := kept []
    rw [List.append_nil] at closing
    exact closing
  | error error => exact kept [.raised error]

theorem closed_kept {state : State ω} {result : Result ω} (cleaning : state.phase.cleaning = true)
    (ending : state.phase.ending = some result) (fits : state.Unused ∨ state.Owner ∨ state.Left)
    (lifetime : Option SuiteLifetime) (closing : Except (Failed ω) Unit) :
    Kept state (closed { state with lifetime } result state.phase.errors closing) := by
  cases closing with
  | ok =>
    apply cleaning_kept cleaning ending fits []
    rw [List.append_nil]
    exact .inr (.inr rfl)
  | error cause => exact cleaning_kept cleaning ending fits [closingError cause] _ (.inr (.inr rfl))

theorem cleanUp_kept {state : State ω} {result : Result ω} (phase : state.phase = .finished result)
    (fits : state.Unused ∨ state.Owner ∨ state.Left) (now : Rat) : Kept state (cleanUp state result now) := by
  unfold cleanUp
  dsimp only
  split
  · rename_i binding bound
    have owner : state.Owner := by
      rcases fits with unused | owner | left
      · exact absurd bound (by rw [unused.2.1]; nofun)
      · exact owner
      · exact absurd bound (by rw [left.1]; nofun)
    constructor
    · exact owner
    · simp [State.account, State.disposedLate, phase, bound, Phase.ending, Phase.errors, Phase.cleaning, Event.account,
        Account.add, Nat.add_comm]
  · rename_i unbound
    rcases afterDisposal_next { state with lifetime := state.lifetime.map (SuiteLifetime.startCleanup · now) } result []
      with next | next
    all_goals
      rw [next]
      constructor
      · exact fits
      · simp [State.account, State.disposedLate, phase, unbound, Phase.ending, Phase.errors, Phase.cleaning, Event.account,
          Account.add]

/-! ### The factory and its late cleanup -/

/-- While the factory has not settled, nobody owns a binding, and who waits for it goes on waiting. -/
theorem pending_fits {state : State ω} (fits : state.Fits) (started : state.factory ≠ .unstarted)
    (pending : state.factory.result = none) : state.binding = none ∧ (state.late = .undefined ∨ state.late = .attached) ∧
      ∀ factory : Factory ω, factory ≠ .unstarted → ({ state with factory } : State ω).Fits := by
  have unused : ¬ state.Unused := by
    intro unused
    exact started unused.1
  have owner : ¬ state.Owner := by
    intro owner
    rcases owner with ⟨binding, produced, -, -⟩
    rw [produced] at pending
    cases pending
  have left (left : state.Left) : state.binding = none ∧ state.late = .attached := by
    rcases left with ⟨unbound, late⟩
    cases found : state.late with
    | undefined => simp [found] at late
    | attached => exact ⟨unbound, rfl⟩
    | disposing => cases factory : state.factory <;> simp [found, factory, Factory.made, Factory.result] at late pending
    | settled => simp [found, pending] at late
  unfold State.Fits at fits ⊢
  cases phase : state.phase
  all_goals
    rw [phase] at fits
    dsimp only at fits
  case creating =>
    rcases fits with ⟨-, unbound, late⟩
    exact ⟨unbound, .inl late, fun factory started => ⟨started, unbound, late⟩⟩
  case finished | joining | closing | done =>
    rcases left ((fits.resolve_left unused).resolve_left owner) with ⟨unbound, late⟩
    have kept (factory : Factory ω) (started : factory ≠ .unstarted) : ({ state with factory } : State ω).Left := by
      unfold State.Left
      rw [late]
      exact ⟨unbound, started⟩
    exact ⟨unbound, .inr late, fun factory started => .inr (.inr (kept factory started))⟩
  all_goals first
    | exact absurd fits unused
    | exact absurd fits owner

/-- The factory goes on, and it may produce a binding. -/
theorem factory_kept {state : State ω} (fits : state.Fits) (started : state.factory ≠ .unstarted)
    (pending : state.factory.result = none) {factory : Factory ω} (goes : factory ≠ .unstarted) {output : List (Event ω)}
    (produces : account output = { productions := factory.made.toNat }) : Kept state ({ state with factory }, output) := by
  rcases pending_fits fits started pending with ⟨unbound, late, kept⟩
  have made : state.factory.made = false := by
    cases found : state.factory <;> simp [found, Factory.result] at pending
    all_goals rfl
  constructor
  · exact kept factory goes
  · rw [produces]
    rcases late with late | late <;> simp only [State.account, State.disposedLate, late, made, unbound, Account.add] <;> simp

theorem callFactory_kept {state : State ω} (fits : state.Fits) (queued : state.factory = .queued) (settings : Settings)
    (expired : Bool) : Kept state (callFactory settings state expired) := by
  have kept := @factory_kept ω state fits (by rw [queued]; nofun) (by rw [queued]; rfl)
  unfold callFactory
  split
  · apply kept
    · nofun
    · rfl
  · split
    all_goals
      apply kept
      · nofun
      · rfl

theorem settleFactory_kept {state : State ω} (fits : state.Fits) (running : state.factory = .running)
    (result : Except (Failed ω) (Binding ω)) : Kept state (settleFactory state result) := by
  have kept := @factory_kept ω state fits (by rw [running]; nofun) (by rw [running]; rfl)
  cases result
  all_goals
    apply kept
    · nofun
    · rfl

/-- The late cleanup goes on only after the run has left the factory to it. -/
theorem late_fits {state : State ω} (fits : state.Fits) (late : state.late ≠ .undefined) :
    state.Left ∧ ∀ {next : Late ω}, ({ state with late := next } : State ω).Left → ({ state with late := next } : State ω).Fits := by
  have unused : ¬ state.Unused := by
    intro unused
    exact late unused.2.2
  have owner : ¬ state.Owner := by
    intro owner
    rcases owner with ⟨binding, -, -, early⟩
    exact late early
  unfold State.Fits at fits ⊢
  cases phase : state.phase
  all_goals
    rw [phase] at fits
    dsimp only at fits ⊢
  case finished | joining | closing | done =>
    exact ⟨(fits.resolve_left unused).resolve_left owner, fun left => .inr (.inr left)⟩
  case creating => exact absurd fits.2.2 late
  all_goals first
    | exact absurd fits unused
    | exact absurd fits owner

theorem disposeLate_kept {state : State ω} (fits : state.Fits) {stepped : Stepped ω}
    (taken : disposeLate state = some stepped) : Kept state stepped := by
  unfold disposeLate at taken
  split at taken
  · rename_i binding late produced
    rcases late_fits fits (by rw [late]; nofun) with ⟨left, kept⟩
    cases taken
    constructor
    · exact kept ⟨left.1, by rw [produced]; rfl⟩
    · simp [State.account, State.disposedLate, late, left.1, Event.account, Account.add]
  · rename_i failure late failed
    rcases late_fits fits (by rw [late]; nofun) with ⟨left, kept⟩
    cases taken
    constructor
    · exact kept ⟨left.1, by rw [failed]; rfl⟩
    · simp [State.account, State.disposedLate, late, left.1, failed, Factory.made]
  · cases taken

theorem settleLate_kept {state : State ω} (fits : state.Fits) (late : state.late = .disposing)
    (result : Except (Failed ω) Unit) : Kept state ({ state with late := .settled result }, []) := by
  rcases late_fits fits (by rw [late]; nofun) with ⟨left, kept⟩
  have made : state.factory.made = true := by
    have disposing := left.2
    rw [late] at disposing
    exact disposing
  have settled : state.factory.result.isSome = true := by
    cases factory : state.factory <;> simp [factory, Factory.made] at made
    rfl
  constructor
  · exact kept ⟨left.1, settled⟩
  · simp [State.account, State.disposedLate, late, left.1, made]

theorem fits_balance {state : State ω} (fits : state.Fits) : state.account.disposals ≤ state.account.productions := by
  have cases : state.Unused ∨ state.Creating ∨ state.Owner ∨ state.Left := by
    unfold State.Fits at fits
    split at fits
    all_goals tauto
  rcases cases with ⟨factory, unbound, late⟩ | ⟨-, unbound, late⟩ | ⟨binding, factory, bound, late⟩ | ⟨unbound, late⟩
  · simp [State.account, State.disposedLate, unbound, late]
  · simp [State.account, State.disposedLate, unbound, late]
  · simp [State.account, State.disposedLate, factory, bound, late, Factory.made, Bool.toNat_le]
  · cases found : state.late <;> simp_all [State.account, State.disposedLate]

theorem outcome_phase {state : State ω} {outcome : Outcome ω} (past : state.outcome = some outcome) :
    (∃ failure, state.phase = .refused failure ∧ outcome = .threw failure []) ∨
      ∃ result errors, state.phase = .done result errors ∧ outcome = Compiled.outcome result errors := by
  unfold State.outcome at past
  split at past
  · rename_i failure phase
    cases past
    exact .inl ⟨failure, phase, rfl⟩
  · rename_i result errors phase
    cases past
    exact .inr ⟨result, errors, phase, rfl⟩
  · cases past

/-- When the run is over and the late cleanup has nothing to do, what was produced has been disposed of. -/
theorem over_balance {state : State ω} (fits : state.Fits) (past : state.outcome.isSome) (quiescent : disposeLate state = none) :
    state.account.disposals = state.account.productions := by
  rcases Option.isSome_iff_exists.mp past with ⟨outcome, past⟩
  have cases : state.Unused ∨ (state.Owner ∨ state.Left) ∧ state.phase.cleaning = true := by
    rcases outcome_phase past with ⟨failure, phase, -⟩ | ⟨result, errors, phase, -⟩
    · rw [State.Fits, phase] at fits
      exact .inl fits
    · rw [State.Fits, phase] at fits
      rcases fits with unused | owned
      · exact .inl unused
      · exact .inr ⟨owned, by rw [phase]; rfl⟩
  rcases cases with ⟨factory, unbound, late⟩ | ⟨⟨binding, factory, bound, late⟩ | ⟨unbound, late⟩, cleaning⟩
  · simp [State.account, State.disposedLate, factory, unbound, late, Factory.made]
  · simp [State.account, State.disposedLate, factory, bound, late, cleaning, Factory.made]
  · cases found : state.late with
    | undefined => simp [found] at late
    | attached =>
      cases factory : state.factory <;> simp [disposeLate, found, factory] at quiescent
      all_goals simp [State.account, State.disposedLate, found, factory, unbound, Factory.made]
    | disposing =>
      rw [found] at late
      simp [State.account, State.disposedLate, found, unbound, late]
    | settled => simp [State.account, State.disposedLate, found, unbound]

end Mirror.Compiled
