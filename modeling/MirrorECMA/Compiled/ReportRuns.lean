import MirrorECMA.Compiled.Ledger
import MirrorECMA.Negotiation.Gate
import MirrorECMA.Replay.Agreement

namespace Mirror.Compiled

open ECMA ModelInterface Mirror.Protocol Mirror.Negotiation
open Machine.Throwing (Ends bind_stops ends_bind ends_get)
open Mirror.Replay (CompiledReplayReport Loop Looped MatchedEvidenceTracker ReplayCoreOptions ReplayDeadlineStage
  ReplayExecutionAdapter Round StepEnvironment awaitReplayOperationUntil awaited_operation dispatch onInitialState onNextStep receiveReplayMessage
  replayRound throwIfReplayCancelled withEvidence)

variable {ω : Type}

/-! ### Rounds -/

theorem round_signal {settings : Settings} {exchange : Exchange ω} {before signal : Option (Reason ω)}
    {round : Round (Rejection ω) (StepEnvironment (Rejection ω))}
    (found : exchange.round settings before signal = some round) :
    round.signal = signal ∧ (signal.isSome → round.signalAfter = signal) := by
  simp only [Exchange.round, Option.bind_eq_bind, Option.bind_eq_some_iff, Option.pure_def, Option.some.injEq] at found
  rcases found with ⟨received, -, race, -, rfl⟩
  constructor
  · rfl
  · intro aborted
    rcases Option.isSome_iff_exists.mp aborted with ⟨reason, rfl⟩
    rfl

theorem asks_signal [NumberText] [NumberConversion] {ε : Type} {loop : Loop} {round : Round (Rejection ω) ε} {asked : Asked}
    (asking : asks loop round = some asked) : round.signal = none := by
  unfold asks at asking
  dsimp only at asking
  split at asking
  · assumption
  · assumption
  · cases asking

theorem play_invoked [NumberText] [NumberConversion] {settings : Settings} {state : State ω} {binding : Binding ω} {loop : Loop} {round : Round (Rejection ω) (StepEnvironment (Rejection ω))}
    {asked : Asked} (member : .invoked asked ∈ (play settings state binding loop round).2) : asks loop round = some asked := by
  unfold play at member
  dsimp only at member
  split at member
  · simpa using member
  · unfold askCoverage at member
    split at member
    all_goals simpa [finish, fail] using member
  · simpa [finish, fail] using member

theorem play_resolved [NumberText] [NumberConversion] (settings : Settings) (state : State ω) (binding : Binding ω)
    (loop : Loop) (round : Round (Rejection ω) (StepEnvironment (Rejection ω))) :
    (play settings state binding loop round).1.phase.unresolved = false := by
  unfold play
  dsimp only
  split
  · rfl
  · unfold askCoverage
    split
    all_goals rfl
  · rfl

theorem play_errors [NumberText] [NumberConversion] (settings : Settings) (state : State ω) (binding : Binding ω)
    (loop : Loop) (round : Round (Rejection ω) (StepEnvironment (Rejection ω))) :
    (account (play settings state binding loop round).2).errors = [] := by
  unfold play
  dsimp only
  split
  · rw [account_invoked]
  · unfold askCoverage
    split
    all_goals
      rw [account_append, account_invoked]
      rfl
  · rw [account_append, account_invoked]
    rfl

theorem play_signal [NumberText] [NumberConversion] (settings : Settings) (state : State ω) (binding : Binding ω) (loop : Loop) (round : Round (Rejection ω) (StepEnvironment (Rejection ω))) :
    (play settings state binding loop round).1.signal = round.signalAfter := by
  unfold play
  dsimp only
  split
  · rfl
  · unfold askCoverage
    split
    all_goals rfl
  · rfl

theorem withEvidence_stops {method : MatchedEvidenceTracker.Method Unit} {loop : Loop} {tracker : MatchedEvidenceTracker}
    (tracking : loop.matchedEvidence = some tracker) (stops : (method.run.run tracker).1.isOk = false) :
    Ends (withEvidence method : Looped ω Unit) (fun _ _ => False) (fun _ _ => True) loop := by
  cases ended : method.run.run tracker with
  | mk result after =>
    cases result with
    | ok => rw [ended] at stops; cases stops
    | error failure =>
      unfold withEvidence
      rw [ends_bind, ends_get]
      simp only [tracking, ended]
      trivial

/-- A round that does not call the computer is the same for every computer. -/
theorem replayRound_uncalled [NumberText] [NumberConversion] {ε : Type} (first second : ReplayExecutionAdapter (Rejection ω) ε)
    (options : ReplayCoreOptions) {round : Round (Rejection ω) ε} {loop : Loop} (uncalled : asks loop round = none) :
    (replayRound first options round).run.run loop = (replayRound second options round).run.run loop := by
  unfold asks at uncalled
  unfold replayRound
  cases received : receiveReplayMessage round.received with
  | error failure => rfl
  | ok msg =>
    cases signal : round.signal with
    | some reason => rfl
    | none =>
      show (dispatch first options round msg).run.run loop = (dispatch second options round msg).run.run loop
      cases msg with
      | initialState action payload =>
        simp only [received, signal, ite_eq_right_iff, reduceCtorEq, imp_false, Bool.not_eq_true] at uncalled
        split at uncalled
        · cases uncalled
        · rename_i tracking
          simp only [dispatch, onInitialState, bind_assoc]
          exact bind_stops (withEvidence_stops tracking uncalled) _ _
      | nextStep action payload =>
        simp only [received, signal, ite_eq_right_iff, reduceCtorEq, imp_false, Bool.not_eq_true] at uncalled
        split at uncalled
        · cases uncalled
        · rename_i tracking
          simp only [dispatch, onNextStep, bind_assoc]
          exact bind_stops (withEvidence_stops tracking uncalled) _ _
      | _ => rfl
/-! ### Steps -/

/-- A wait returns what the operation has returned. -/
theorem awaited_ok {α : Type} {operation : Option (Except (Failed ω) α)} {before signal : Option (Reason ω)}
    {timeoutMs : Nat} {stage : ReplayDeadlineStage} {wait : Wait} {value : α}
    (found : awaited operation before signal timeoutMs stage wait = some (.ok value)) : operation = some (.ok value) := by
  simp only [awaited, Option.bind_eq_bind, Option.bind_eq_some_iff, Option.pure_def] at found
  rcases found with ⟨race, -, found⟩
  split at found
  all_goals
    simp only [Option.bind_eq_some_iff, Option.some.injEq, bind_eq_ok] at found
    rcases found with ⟨result, given, inner, taken, rfl⟩
    have returned := awaited_operation taken
  · rw [given, returned]
  · cases operation with
    | none => cases given.trans returned
    | some operation => exact congrArg some (given.trans returned)

theorem factory_result {factory : Factory ω} {binding : Binding ω} (result : factory.result = some (.ok binding)) :
    factory = .produced binding := by
  cases factory <;> simp [Factory.result] at result
  rw [result]

/-- The error of a step of the cleanup: what its wait has come to. -/
def cleanupFailure (settings : Settings) (state : State ω) (input : Input ω) : Option (CleanupError ω) :=
  let failure (ended : Option (Except (Failed ω) Unit)) (error : Failed ω → CleanupError ω) : Option (CleanupError ω) :=
    match ended with
    | some (.error cause) => some (error cause)
    | _ => none
  match input, state.phase with
  | .abandoned closing wait, .abandoning _ =>
    failure (awaitCleanup settings.deadlines (state.lifetime.map (SuiteLifetime.startCleanup · wait.start)) closing wait)
      closingError
  | .disposal disposal wait, .disposing _ => failure (awaitCleanup settings.deadlines state.lifetime disposal wait) disposalError
  | .joined wait, .joining _ _ => failure (awaitCleanup settings.deadlines state.lifetime state.late.result wait) .raised
  | .closed closing wait, .closing _ _ => failure (awaitCleanup settings.deadlines state.lifetime closing wait) closingError
  | _, _ => none

/-- What every step keeps of the connection, the signal and the errors. -/
structure Shape (settings : Settings) (state : State ω) (input : Input ω) (stepped : Stepped ω) : Prop where
  unresolved : stepped.1.phase.unresolved = true → state.phase.unresolved = true ∧ .resolved ∉ stepped.2
  signal : state.signal.isSome → stepped.1.signal = state.signal
  invoked : state.signal.isSome → ∀ asked, .invoked asked ∉ stepped.2
  errors : (account stepped.2).errors = (cleanupFailure settings state input).toList

/-- A step that does not come from the signal or the replay. -/
theorem Shape.plain {settings : Settings} {state : State ω} {input : Input ω} {stepped : Stepped ω}
    (resolved : stepped.1.phase.unresolved = false) (signal : stepped.1.signal = state.signal)
    (quiet : ∀ asked, .invoked asked ∉ stepped.2)
    (errors : (account stepped.2).errors = (cleanupFailure settings state input).toList) :
    Shape settings state input stepped where
  unresolved still := by rw [resolved] at still; cases still
  signal _ := signal
  invoked _ := quiet
  errors := errors

/-- A step of the factory or its late cleanup leaves the phase as it is. -/
theorem Shape.aside {settings : Settings} {state : State ω} {input : Input ω} {stepped : Stepped ω}
    (phase : stepped.1.phase = state.phase) (signal : stepped.1.signal = state.signal)
    (quiet : (∀ asked, .invoked asked ∉ stepped.2) ∧ .resolved ∉ stepped.2)
    (errors : (account stepped.2).errors = (cleanupFailure settings state input).toList) :
    Shape settings state input stepped where
  unresolved still := by rw [phase] at still; exact ⟨still, quiet.2⟩
  signal _ := signal
  invoked _ := quiet.1
  errors := errors

section

variable [NumberText] [NumberConversion] [Sha256]

/-- What a step does, by its input. -/
inductive Takes (settings : Settings) (state : State ω) : Input ω → Stepped ω → Prop
  | abort (reason : Reason ω) :
    Takes settings state (.abort reason) ({ state with signal := state.signal.or (some reason) }, [])
  | opens (phase : state.phase = .starting) (target : Except (Failed ω) Bool) :
    Takes settings state (.open target) (openTransport state target)
  | ready {before : Option (Reason ω)} (phase : state.phase = .connecting before)
    (ready : Option (Except (Failed ω) Unit)) (wait : Wait) (result : Except (Failed ω) Unit) :
    Takes settings state (.ready ready wait) (connected state result)
  | register (phase : state.phase = .opened) (iterator sent : Except (Failed ω) Unit) :
    Takes settings state (.register iterator sent) (register state iterator sent)
  | reply {before : Option (Reason ω)} (phase : state.phase = .registering before)
    (received : Option (Except (Failed ω) JsString)) (wait : Wait) (result : Except (Failed ω) JsString) :
    Takes settings state (.reply received wait) (replied settings state result)
  | callFactory (queued : state.factory = .queued) (expired : Bool) :
    Takes settings state (.callFactory expired) (callFactory settings state expired)
  | settleFactory (running : state.factory = .running) (result : Except (Failed ω) (Binding ω)) :
    Takes settings state (.settleFactory result) (settleFactory state result)
  | created {label : JsString} {before : Option (Reason ω)} (phase : state.phase = .creating label before) (wait : Wait)
    {result : Except (Failed ω) (Binding ω)}
    (found : awaited state.factory.result before state.signal settings.deadlines.stepMs .step wait = some result) :
    Takes settings state (.created wait) (created settings state label result)
  | validated {before : Option (Reason ω)} (phase : state.phase = .validating before)
    (compatible : Option (Except (Failed ω) Unit)) (wait : Wait) (result : Except (Failed ω) Unit) :
    Takes settings state (.validated compatible wait) (validated settings state result)
  | round {loop : Loop} {before : Option (Reason ω)} {binding : Binding ω}
    {round : Round (Rejection ω) (StepEnvironment (Rejection ω))} (phase : state.phase = .replaying loop before)
    (bound : state.binding = some binding) (exchange : Exchange ω)
    (found : exchange.round settings before state.signal = some round) :
    Takes settings state (.round exchange) (play settings state binding loop round)
  | covered {report : CompiledReplayReport} {before : Option (Reason ω)} (phase : state.phase = .covering report before)
    (coverage : Option (Except (Failed ω) Unit)) (wait : Wait) (result : Except (Failed ω) Unit) :
    Takes settings state (.covered coverage wait) (covered state report result)
  | cleanUp {result : Result ω} (phase : state.phase = .finished result) (now : Rat) :
    Takes settings state (.cleanUp now) (cleanUp state result now)
  | abandoned {primary : NegotiatedFailure ω} (phase : state.phase = .abandoning primary)
    (closing : Option (Except (Failed ω) Unit)) (wait : Wait) {ended : Except (Failed ω) Unit}
    (found : awaitCleanup settings.deadlines (state.lifetime.map (SuiteLifetime.startCleanup · wait.start)) closing wait =
      some ended) :
    Takes settings state (.abandoned closing wait)
      (closed { state with lifetime := state.lifetime.map (SuiteLifetime.startCleanup · wait.start) } (.error primary) []
        ended)
  | disposal {result : Result ω} (phase : state.phase = .disposing result) (disposal : Option (Except (Failed ω) Unit))
    (wait : Wait) {ended : Except (Failed ω) Unit}
    (found : awaitCleanup settings.deadlines state.lifetime disposal wait = some ended) :
    Takes settings state (.disposal disposal wait) (disposed state result ended)
  | disposeLate {stepped : Stepped ω} (taken : disposeLate state = some stepped) : Takes settings state .disposeLate stepped
  | settleLate (late : state.late = .disposing) (result : Except (Failed ω) Unit) :
    Takes settings state (.settleLate result) ({ state with late := .settled result }, [])
  | joined {result : Result ω} {errors : List (CleanupError ω)} (phase : state.phase = .joining result errors) (wait : Wait)
    {ended : Except (Failed ω) Unit}
    (found : awaitCleanup settings.deadlines state.lifetime state.late.result wait = some ended) :
    Takes settings state (.joined wait) (joined state result errors ended)
  | closed {result : Result ω} {errors : List (CleanupError ω)} (phase : state.phase = .closing result errors)
    (closing : Option (Except (Failed ω) Unit)) (wait : Wait) {ended : Except (Failed ω) Unit}
    (found : awaitCleanup settings.deadlines state.lifetime closing wait = some ended) :
    Takes settings state (.closed closing wait) (closed state result errors ended)

theorem step_takes {settings : Settings} {state : State ω} {input : Input ω} {stepped : Stepped ω}
    (taken : step settings state input = some stepped) : Takes settings state input stepped := by
  unfold step at taken
  dsimp only at taken
  split at taken
  any_goals simp only [Option.bind_eq_bind, Option.bind_eq_some_iff, Option.pure_def, Option.some.injEq] at taken
  case h_1 => cases taken; exact .abort _
  case h_2 phase => cases taken; exact .opens phase _
  case h_3 phase => rcases taken with ⟨result, -, rfl⟩; exact .ready phase _ _ result
  case h_4 phase => cases taken; exact .register phase _ _
  case h_5 phase => rcases taken with ⟨result, -, rfl⟩; exact .reply phase _ _ result
  case h_6 =>
    split at taken
    · rename_i queued
      cases taken
      exact .callFactory queued _
    · cases taken
  case h_7 =>
    split at taken
    · rename_i running
      cases taken
      exact .settleFactory running _
    · cases taken
  case h_8 phase =>
    split at taken
    · cases taken
    · simp only [Option.bind_eq_some_iff, Option.some.injEq] at taken
      rcases taken with ⟨result, found, rfl⟩
      exact .created phase _ found
  case h_9 phase => rcases taken with ⟨result, -, rfl⟩; exact .validated phase _ _ result
  case h_10 phase => rcases taken with ⟨binding, bound, round, found, rfl⟩; exact .round phase bound _ found
  case h_11 phase => rcases taken with ⟨result, -, rfl⟩; exact .covered phase _ _ result
  case h_12 phase => cases taken; exact .cleanUp phase _
  case h_13 phase => rcases taken with ⟨ended, found, rfl⟩; exact .abandoned phase _ _ found
  case h_14 phase => rcases taken with ⟨ended, found, rfl⟩; exact .disposal phase _ _ found
  case h_15 => exact .disposeLate taken
  case h_16 =>
    split at taken
    · rename_i late
      cases taken
      exact .settleLate late _
    · cases taken
  case h_17 phase => rcases taken with ⟨ended, found, rfl⟩; exact .joined phase _ found
  case h_18 phase => rcases taken with ⟨ended, found, rfl⟩; exact .closed phase _ _ found
  case h_19 => cases taken

theorem step_kept {settings : Settings} {state : State ω} {input : Input ω} {stepped : Stepped ω} (fits : state.Fits)
    (taken : step settings state input = some stepped) : Kept state stepped := by
  cases step_takes taken with
  | abort reason => exact ⟨fits, (Account.add_empty _).symm⟩
  | callFactory queued => exact callFactory_kept fits queued settings _
  | settleFactory running => exact settleFactory_kept fits running _
  | disposeLate taken => exact disposeLate_kept fits taken
  | settleLate late => exact settleLate_kept fits late _
  | opens phase =>
    have unused : state.Unused := by rwa [State.Fits, phase] at fits
    exact openTransport_kept (by rw [phase]; exact ⟨rfl, rfl, rfl⟩) unused _
  | ready phase =>
    have unused : state.Unused := by rwa [State.Fits, phase] at fits
    exact connected_kept (by rw [phase]; exact ⟨rfl, rfl, rfl⟩) unused _
  | register phase =>
    have unused : state.Unused := by rwa [State.Fits, phase] at fits
    exact register_kept (by rw [phase]; exact ⟨rfl, rfl, rfl⟩) unused _ _
  | reply phase =>
    have unused : state.Unused := by rwa [State.Fits, phase] at fits
    exact replied_kept (by rw [phase]; exact ⟨rfl, rfl, rfl⟩) unused settings _
  | created phase wait found =>
    have creating : state.Creating := by rwa [State.Fits, phase] at fits
    apply created_kept (by rw [phase]; exact ⟨rfl, rfl, rfl⟩) creating settings
    intro binding made
    rw [made] at found
    exact factory_result (awaited_ok found)
  | validated phase =>
    have owner : state.Owner := by rwa [State.Fits, phase] at fits
    exact validated_kept (by rw [phase]; exact ⟨rfl, rfl, rfl⟩) owner settings _
  | round phase =>
    have owner : state.Owner := by rwa [State.Fits, phase] at fits
    exact play_kept (by rw [phase]; exact ⟨rfl, rfl, rfl⟩) owner settings _ _ _
  | covered phase =>
    have owner : state.Owner := by rwa [State.Fits, phase] at fits
    exact covered_kept (by rw [phase]; exact ⟨rfl, rfl, rfl⟩) owner _ _
  | cleanUp phase =>
    have fits : state.Unused ∨ state.Owner ∨ state.Left := by rwa [State.Fits, phase] at fits
    exact cleanUp_kept phase fits _
  | abandoned phase =>
    have unused : state.Unused := by rwa [State.Fits, phase] at fits
    have errors : state.phase.errors = [] := by rw [phase]; rfl
    rw [← errors]
    exact closed_kept (by rw [phase]; rfl) (by rw [phase]; rfl) (.inl unused) _ _
  | disposal phase =>
    have owner : state.Owner := by rwa [State.Fits, phase] at fits
    exact disposed_kept phase owner _
  | joined phase =>
    have fits : state.Unused ∨ state.Owner ∨ state.Left := by rwa [State.Fits, phase] at fits
    exact joined_kept phase fits _
  | @closed result errors phase =>
    have fits : state.Unused ∨ state.Owner ∨ state.Left := by rwa [State.Fits, phase] at fits
    have same : state.phase.errors = errors := by rw [phase]; rfl
    rw [← same]
    exact closed_kept (by rw [phase]; rfl) (by rw [phase]; rfl) fits state.lifetime _

/-! ### Runs -/

variable {settings : Settings} {evidence : Option MatchedEvidenceTracker} {lifetime : Option SuiteLifetime}
  {trace : List (Step ω)} {state : State ω}

theorem run_kept (run : Run settings evidence lifetime trace state) :
    state.Fits ∧ account (events trace) = state.account := by
  apply run.invariant
  · exact ⟨⟨rfl, rfl, rfl⟩, rfl⟩
  · intro trace state input output after kept taken
    have step := step_kept kept.1 taken
    rw [events_snoc, account_append, kept.2]
    exact ⟨step.fits, step.account.symm⟩

theorem step_shape {input : Input ω} {stepped : Stepped ω} (taken : step settings state input = some stepped) :
    Shape settings state input stepped := by
  cases step_takes taken with
  | abort reason =>
    constructor
    · intro still
      exact ⟨still, List.not_mem_nil⟩
    · intro aborted
      rcases Option.isSome_iff_exists.mp aborted with ⟨first, signal⟩
      simp [signal]
    · simp
    · rfl
  | opens phase target =>
    unfold openTransport
    split
    · exact ⟨fun _ => ⟨by rw [phase]; rfl, by simp⟩, fun _ => rfl, by simp, rfl⟩
    · exact ⟨fun _ => ⟨by rw [phase]; rfl, by simp⟩, fun _ => rfl, by simp, rfl⟩
    · exact .plain rfl rfl (by simp) rfl
  | ready phase ready wait result => cases result <;> exact .plain rfl rfl (by simp [connected, abandon]) rfl
  | register =>
    unfold register
    repeat' split
    all_goals exact .plain rfl rfl (by simp [abandon, fail, finish]) rfl
  | reply =>
    unfold replied
    dsimp only
    split <;> exact .plain rfl rfl (by simp [fail, finish]) rfl
  | callFactory =>
    unfold callFactory
    repeat' split
    all_goals exact .aside rfl rfl (by simp) rfl
  | settleFactory running result => cases result <;> exact .aside rfl rfl (by simp [settleFactory]) rfl
  | @created _ _ _ _ result =>
    cases result with
    | error => exact .plain rfl rfl (by simp [created, fail, finish]) rfl
    | ok binding =>
      unfold created validate
      dsimp only
      repeat' split
      all_goals exact .plain rfl rfl (by simp [startReplay, fail, finish]) rfl
  | validated phase compatible wait result =>
    cases result <;> exact .plain rfl rfl (by simp [validated, startReplay, fail, finish]) rfl
  | round phase bound exchange found =>
    rcases round_signal found with ⟨same, kept⟩
    constructor
    · intro still
      rw [play_resolved] at still
      cases still
    · rw [play_signal]
      exact kept
    · intro aborted asked member
      rw [← same, asks_signal (play_invoked member)] at aborted
      cases aborted
    · exact play_errors _ _ _ _ _
  | covered phase coverage wait result => cases result <;> exact .plain rfl rfl (by simp [covered, fail, finish]) rfl
  | cleanUp =>
    unfold cleanUp
    dsimp only
    split
    · exact .plain rfl rfl (by simp) rfl
    · exact .plain (afterDisposal_resolved _ _ _) rfl (by simp) rfl
  | @abandoned _ phase closing wait ended found =>
    cases ended <;> exact .plain rfl rfl (by simp [closed]) (by simp [cleanupFailure, phase, found, closed, Event.account, Account.add])
  | @disposal _ phase disposal wait ended found =>
    cases ended <;> exact .plain (afterDisposal_resolved _ _ _) rfl (by simp [disposed])
      (by simp [cleanupFailure, phase, found, disposed, Event.account, Account.add])
  | disposeLate taken =>
    unfold disposeLate at taken
    split at taken
    all_goals
      cases taken
    all_goals exact .aside rfl rfl (by simp) rfl
  | settleLate => exact .aside rfl rfl (by simp) rfl
  | @joined _ _ phase wait ended found =>
    cases ended <;> exact .plain rfl rfl (by simp [joined]) (by simp [cleanupFailure, phase, found, joined, Event.account, Account.add])
  | @closed _ _ phase closing wait ended found =>
    cases ended <;> exact .plain rfl rfl (by simp [closed]) (by simp [cleanupFailure, phase, found, closed, Event.account, Account.add])

/-! ### The four properties -/

theorem run_disposals (run : Run settings evidence lifetime trace state) :
    (account (events trace)).disposals ≤ (account (events trace)).productions ∧ (account (events trace)).productions ≤ 1 ∧
      (state.outcome.isSome → disposeLate state = none →
        (account (events trace)).disposals = (account (events trace)).productions) := by
  rcases run_kept run with ⟨fits, same⟩
  rw [same]
  exact ⟨fits_balance fits, Bool.toNat_le _, over_balance fits⟩

theorem run_unresolved (run : Run settings evidence lifetime trace state) :
    state.phase.unresolved = true → .resolved ∉ events trace := by
  apply run.invariant (P := fun trace state => state.phase.unresolved = true → .resolved ∉ events trace)
  · intro _
    exact List.not_mem_nil
  · intro trace state input output after unresolved taken still
    rcases (step_shape taken).unresolved still with ⟨before, absent⟩
    rw [events_snoc, List.mem_append]
    exact not_or.mpr ⟨unresolved before, absent⟩

theorem run_closes (run : Run settings evidence lifetime trace state) :
    (account (events trace)).closes ≤ 1 ∧
      (state.outcome.isSome → .resolved ∈ events trace → (account (events trace)).closes = 1) := by
  rw [(run_kept run).2]
  constructor
  · exact Bool.toNat_le _
  · intro past resolved
    rcases Option.isSome_iff_exists.mp past with ⟨outcome, past⟩
    rcases outcome_phase past with ⟨failure, phase, -⟩ | ⟨result, errors, phase, -⟩
    · exact absurd resolved (run_unresolved run (by rw [phase]; rfl))
    · simp [State.account, phase, Phase.cleaning]

theorem run_invocations (run : Run settings evidence lifetime trace state) {earlier later : List (Step ω)} {t : Step ω}
    (whole : trace = earlier ++ t :: later) (aborted : t.before.signal.isSome) :
    ∀ u ∈ t :: later, ∀ asked, .invoked asked ∉ u.output := by
  intro u member
  subst whole
  rcases List.append_of_mem member with ⟨front, rest, split⟩
  rw [split, ← List.append_assoc] at run
  rcases run.split with ⟨reached, taken⟩
  have stays : u.before.signal.isSome := by
    cases front with
    | nil =>
      cases (List.cons.inj split).1
      exact aborted
    | cons first front =>
      cases (List.cons.inj split).1
      apply Machine.Run.stable (P := fun state => state.signal.isSome) _ reached aborted
      intro state input output after before taken
      rw [(step_shape taken).signal before]
      exact before
  exact (step_shape taken).invoked stays

theorem run_errors (run : Run settings evidence lifetime trace state) :
    (account (events trace)).errors = trace.filterMap fun t => cleanupFailure settings t.before t.input := by
  apply run.invariant (P := fun trace _ => (account (events trace)).errors =
    trace.filterMap fun t => cleanupFailure settings t.before t.input)
  · rfl
  · intro trace state input output after errors taken
    rw [events_snoc, account_append, Account.add, errors, (step_shape taken).errors, List.filterMap_append]
    cases found : cleanupFailure settings state input <;> simp [found]

theorem run_primary (run : Run settings evidence lifetime trace state) {primary : NegotiatedFailure ω}
    (failed : .ended (.error primary) ∈ events trace) {outcome : Outcome ω} (past : state.outcome = some outcome) :
    outcome = .threw primary (trace.filterMap fun t => cleanupFailure settings t.before t.input) := by
  rw [mem_endings, (run_kept run).2] at failed
  rw [← run_errors run, (run_kept run).2]
  rcases outcome_phase past with ⟨failure, phase, rfl⟩ | ⟨result, errors, phase, rfl⟩
  · simp only [State.account, phase, Phase.ending, Option.toList, List.mem_singleton, Except.error.injEq] at failed
    subst failed
    simp only [State.account, phase, Phase.errors]
  · simp only [State.account, phase, Phase.ending, Option.toList, List.mem_singleton] at failed
    subst failed
    simp only [State.account, phase, Phase.errors, Compiled.outcome]

end

/-! ### A late binding -/

def lateSettings : Settings where
  prepared := { execution := .async, key := ⟨zeroDigest, [], [], []⟩, policy := .require, fallbackFactory := false }
  deadlines := { registrationMs := 1, stepMs := 1, receiveMs := 1 }

def lateBinding : Binding Unit where
  semanticDigest := zeroDigest.hex
  rejects := none
  computer := .async fun _ _ _ => .promise (.ok [])
  coverage := .absent

/-- The operation settles at once. -/
def atOnce : Wait := ⟨0, .settled false 0⟩

theorem awaited_atOnce {α : Type} (operation : Except (Failed ω) α) (stage : ReplayDeadlineStage) :
    awaited (some operation) none none 1 stage atOnce = some operation := by
  have early : ¬ (0 : Rat) ≥ 0 + ((1 : Nat) : Rat) := by decide +kernel
  have timely : awaitReplayOperationUntil operation none (0 + ((1 : Nat) : Rat)) 1 stage (.settled none 0) = .ok operation :=
    congrArg Except.ok (if_neg early)
  show some (do ← awaitReplayOperationUntil operation none (0 + ((1 : Nat) : Rat)) 1 stage (.settled none 0)) = _
  rw [timely]
  rfl

def lateState (phase : Phase Unit) (factory : Factory Unit) (late : Late Unit) : State Unit :=
  { phase, factory, late, evidence := none, lifetime := none }

def stepDeadline : NegotiatedFailure Unit := .other (.deadline .step 1)

/-- The first reply authorizes the factory. -/
theorem matchedLine_replied [Sha256] [NumberText] [SafeNumberConversion] :
    replied lateSettings (lateState (.registering none) .unstarted .undefined) (.ok matchedLine) =
      (lateState (.creating [] none) .queued .undefined, []) := by
  simp only [replied, receiveFirstReply, matchedLine_decoded]
  rfl

/-- The step deadline passes before the factory settles; its binding then rejects its disposal before `close` settles. -/
theorem late_run [Sha256] [NumberText] [SafeNumberConversion] : ∃ trace : List (Step Unit),
    Run lateSettings none none trace
      (lateState (.done (.error stepDeadline) []) (.produced lateBinding) (.settled (.error (.thrown (.value ()))))) ∧
      (∃ t ∈ trace, t.input = .settleLate (.error (.thrown (.value ())))) ∧
      .ended (.error stepDeadline) ∈ events trace ∧ .resolved ∈ events trace ∧ (account (events trace)).productions = 1 := by
  have opens : step lateSettings (lateState .starting .unstarted .undefined) (.open (.ok false)) =
    some (lateState .opened .unstarted .undefined, [.resolved]) := rfl
  have registers : step lateSettings (lateState .opened .unstarted .undefined) (.register (.ok ()) (.ok ())) =
    some (lateState (.registering none) .unstarted .undefined, [.registered]) := rfl
  have reads (line : JsString) : step lateSettings (lateState (.registering none) .unstarted .undefined)
      (.reply (some (.ok line)) atOnce) =
    some (replied lateSettings (lateState (.registering none) .unstarted .undefined) (.ok line)) := by
    simp only [step, lateState, lateSettings, awaited_atOnce]
    rfl
  have replies := reads matchedLine
  rw [matchedLine_replied] at replies
  have calls : step lateSettings (lateState (.creating [] none) .queued .undefined) (.callFactory false) =
    some (lateState (.creating [] none) .running .undefined, [.factoryCalled]) := rfl
  have expires : step lateSettings (lateState (.creating [] none) .running .undefined) (.created ⟨0, .timer⟩) =
    some (lateState (.finished (.error stepDeadline)) .running .attached, [.ended (.error stepDeadline)]) := rfl
  have cleansUp : step lateSettings (lateState (.finished (.error stepDeadline)) .running .attached) (.cleanUp 0) =
    some (lateState (.closing (.error stepDeadline) []) .running .attached, [.closed]) := rfl
  have produces : step lateSettings (lateState (.closing (.error stepDeadline) []) .running .attached)
      (.settleFactory (.ok lateBinding)) =
    some (lateState (.closing (.error stepDeadline) []) (.produced lateBinding) .attached, [.produced]) := rfl
  have disposes : step lateSettings (lateState (.closing (.error stepDeadline) []) (.produced lateBinding) .attached)
      .disposeLate = some (lateState (.closing (.error stepDeadline) []) (.produced lateBinding) .disposing, [.disposed]) := rfl
  have rejects : step lateSettings (lateState (.closing (.error stepDeadline) []) (.produced lateBinding) .disposing)
      (.settleLate (.error (.thrown (.value ())))) =
    some (lateState (.closing (.error stepDeadline) []) (.produced lateBinding) (.settled (.error (.thrown (.value ())))),
      []) := rfl
  have closes : step lateSettings
      (lateState (.closing (.error stepDeadline) []) (.produced lateBinding) (.settled (.error (.thrown (.value ())))))
      (.closed (some (.ok ())) atOnce) =
    some (lateState (.done (.error stepDeadline) []) (.produced lateBinding) (.settled (.error (.thrown (.value ())))), []) := by
    simp only [step, lateState, lateSettings, awaitCleanup, awaited_atOnce]
    rfl
  have began : Run lateSettings none none [] (lateState .starting .unstarted .undefined) := .start
  have run := (((((((((began.next opens).next registers).next replies).next calls).next expires).next cleansUp).next
    produces).next disposes).next rejects).next closes
  exact ⟨_, run, ⟨⟨_, _, _, _⟩, List.mem_append_left _ (List.mem_append_right _ (List.mem_singleton_self _)), rfl⟩,
    by simp [events], by simp [events], rfl⟩

end Mirror.Compiled
