import MirrorECMA.ECMA.Integers
import MirrorECMA.Replay.Core

namespace Mirror.Replay

open ECMA Mirror.Protocol
open Machine.Throwing (Ends)

variable {ω ε : Type}

/-! ### The two executions -/

/-- The version of a computer that returns promises. -/
def promised (compute : StateComputer ω) : AsyncStateComputer ω :=
  fun action payload previous => .promise (compute action payload previous)

/-- Nothing is aborted in this round, and no deadline expires. -/
structure Undisturbed (stepMs : Nat) (round : Round ω (StepEnvironment ω)) : Prop where
  signal : round.signal = none
  stepSignal : round.environment.signal = none
  controller : round.environment.controller = none
  race : ∃ now, round.environment.race = .settled none now ∧ now < round.environment.now + stepMs
  signalAfter : round.signalAfter = none

theorem checked_ok {α : Type} (value : α) : checked (.ok value : Except (Failure ω) α) = pure value := rfl

theorem checked_error {α β : Type} (failure : Failure ω) (next : α → Looped ω β) :
    (checked (.error failure) >>= next) = raise failure := rfl

theorem invokeAsyncComputer_undisturbed (compute : StateComputer ω) {stepMs : Nat} {round : Round ω (StepEnvironment ω)}
    (undisturbed : Undisturbed stepMs round) (action : Raw) (payload : Payload Any) (previous : State) :
    invokeAsyncComputer (promised compute) action payload previous stepMs round.environment =
      .ok ((compute action payload previous).mapError .thrown) := by
  rcases undisturbed.race with ⟨now, race, early⟩
  simp only [invokeAsyncComputer, undisturbed.stepSignal, undisturbed.controller, throwIfReplayCancelled, promised,
    awaitReplayOperationUntil, race, ok_bind, pure_eq_ok]
  rw [if_neg (show ¬ now ≥ round.environment.now + stepMs from Rat.not_le.mpr early)]

section

variable [NumberText]

theorem reportStep_agrees (compute : StateComputer ω) {stepMs : Nat} {round : Round ω (StepEnvironment ω)}
    (undisturbed : Undisturbed stepMs round) (action : Raw) (payload : Payload Any) (previous : State) :
    reportStep (synchronousReplayExecution compute) round action payload previous =
      reportStep (asynchronousReplayExecution (promised compute) stepMs) round action payload previous := by
  unfold reportStep synchronousReplayExecution asynchronousReplayExecution
  rw [invokeAsyncComputer_undisturbed compute undisturbed, undisturbed.signalAfter]
  cases computed : compute action payload previous with
  | error thrown => rfl
  | ok state =>
    simp only [Except.mapError, ok_bind, pure_eq_ok, checked_ok, pure_bind, throwIfReplayCancelled]

theorem dispatch_agrees (compute : StateComputer ω) {stepMs : Nat} {round : Round ω (StepEnvironment ω)}
    (undisturbed : Undisturbed stepMs round) (options : ReplayCoreOptions) (msg : AnyMessage) :
    dispatch (synchronousReplayExecution compute) options round msg =
      dispatch (asynchronousReplayExecution (promised compute) stepMs) options round msg := by
  have agrees := reportStep_agrees compute undisturbed
  cases msg with
  | initialState action state => simp only [dispatch, onInitialState, agrees]
  | nextStep action parameters => simp only [dispatch, onNextStep, agrees]
  | _ => rfl

variable [NumberConversion]

theorem replayRounds_agrees (compute : StateComputer ω) (stepMs : Nat) (options : ReplayCoreOptions)
    {rounds : List (Round ω (StepEnvironment ω))} (undisturbed : ∀ round ∈ rounds, Undisturbed stepMs round)
    (loop : Loop) :
    replayRounds (synchronousReplayExecution compute) options loop rounds =
      replayRounds (asynchronousReplayExecution (promised compute) stepMs) options loop rounds := by
  induction rounds generalizing loop with
  | nil => rfl
  | cons round rest ih =>
    have same : replayRound (synchronousReplayExecution compute) options round =
        replayRound (asynchronousReplayExecution (promised compute) stepMs) options round := by
      unfold replayRound
      simp only [dispatch_agrees compute (undisturbed round List.mem_cons_self)]
    rw [replayRounds, replayRounds, same]
    cases (replayRound (asynchronousReplayExecution (promised compute) stepMs) options round).run.run loop with
    | mk result after =>
      rcases result with failure | report
      · rfl
      · cases report with
        | none => exact ih (fun other member => undisturbed other (List.mem_cons_of_mem _ member)) after
        | some report => rfl

end

/-! ### What is reported -/

/-- A message that the computer is asked about. -/
structure Stimulus where
  initial : Bool
  action : Raw
  payload : Payload Any

def stimulus : AnyMessage → Option Stimulus
  | .initialState action state => some ⟨true, action, state⟩
  | .nextStep action parameters => some ⟨false, action, parameters⟩
  | _ => none

/-- The states that an execution comes to are those that the computer returns. -/
def Computes (execution : ReplayExecutionAdapter ω ε) (compute : StateComputer ω) : Prop :=
  ∀ environment action payload previous state,
    (execution environment action payload previous = .ok (.ready state) ∨
      execution environment action payload previous = .ok (.pending (.ok state))) →
    compute action payload previous = .ok state

theorem synchronous_computes (compute : StateComputer ω) :
    Computes (synchronousReplayExecution compute : ReplayExecutionAdapter ω ε) compute := by
  intro environment action payload previous state comes
  unfold synchronousReplayExecution at comes
  cases computed : compute action payload previous with
  | error thrown => simp [computed, Except.mapError] at comes
  | ok found => simpa [computed, Except.mapError] using comes

theorem awaited_operation {α : Type} {operation : Except (Failure ω) α} {signal : Option (AbortReason ω)} {deadline : Rat}
    {timeoutMs : Nat} {stage : ReplayDeadlineStage} {race : Race ω} {value : α}
    (awaited : awaitReplayOperationUntil operation signal deadline timeoutMs stage race = .ok (.ok value)) :
    operation = .ok value := by
  simp only [awaitReplayOperationUntil, bind_eq_ok] at awaited
  rcases awaited with ⟨_, -, awaited⟩
  split at awaited
  · simp at awaited
  · simp at awaited
  · simp at awaited
  · rw [pure_eq_ok, Except.ok.injEq] at awaited
    split at awaited
    · cases awaited
    · exact awaited

theorem asynchronous_computes (compute : StateComputer ω) (stepMs : Nat) :
    Computes (asynchronousReplayExecution (promised compute) stepMs) compute := by
  intro environment action payload previous state comes
  simp only [asynchronousReplayExecution, bind_eq_ok, pure_eq_ok, Except.ok.injEq, reduceCtorEq, and_false, exists_false,
    false_or, ReplayStepResult.pending.injEq] at comes
  rcases comes with ⟨pending, invoked, rfl⟩
  simp only [invokeAsyncComputer, bind_eq_ok] at invoked
  rcases invoked with ⟨_, -, invoked⟩
  exact mapError_eq_ok.mp (awaited_operation invoked)

/-- The step leaves the reports and the last of them as they are. -/
structure Silent (before after : Loop) : Prop where
  sent : after.sent = before.sent
  state : after.state = before.state

/-- The step reports what the computer returns. -/
def Reports [NumberText] (compute : StateComputer ω) (asked : Stimulus) (before after : Loop) : Prop :=
  ∃ report, compute asked.action asked.payload (if asked.initial then [] else before.state) = .ok report ∧
    after.sent = before.sent ++ [encodeReportState report] ∧ after.state = report

theorem Silent.trans {first second third : Loop} (a : Silent first second) (b : Silent second third) : Silent first third :=
  ⟨b.sent.trans a.sent, b.state.trans a.state⟩

theorem ends_raise {α : Type} {failure : Failure ω} {Q : α → Loop → Prop} {E : Failure ω → Loop → Prop} {loop : Loop} :
    Ends (raise failure : Looped ω α) Q E loop ↔ E failure loop := Iff.rfl

theorem ends_checked {α : Type} {result : Except (Failure ω) α} {Q : α → Loop → Prop} {E : Failure ω → Loop → Prop}
    {loop : Loop} : Ends (checked result) Q E loop ↔
      (∀ value, result = .ok value → Q value loop) ∧ ∀ failure, result = .error failure → E failure loop := by
  cases result with
  | ok value => simp [checked]
  | error failure => simp [checked, ends_raise]

theorem withEvidence_silent (method : MatchedEvidenceTracker.Method Unit) (loop : Loop) :
    Ends (withEvidence method : Looped ω Unit) (fun _ after => Silent loop after) (fun _ after => Silent loop after) loop := by
  unfold withEvidence
  simp only [Machine.Throwing.ends_bind, Machine.Throwing.ends_get]
  cases loop.matchedEvidence with
  | none => exact ⟨rfl, rfl⟩
  | some tracker =>
    dsimp only
    rcases StateT.run (ExceptT.run method) tracker with ⟨result, tracker⟩
    simp only [Machine.Throwing.ends_bind, Machine.Throwing.ends_modify]
    cases result <;> exact ⟨rfl, rfl⟩

section

variable [NumberText] {execution : ReplayExecutionAdapter ω ε} {compute : StateComputer ω}

theorem send_sent (round : Round ω ε) (loop : Loop) :
    Ends (match round.sendFailure with
        | some error => raise (.thrown error)
        | none => modify fun loop => { loop with sent := loop.sent ++ [encodeReportState loop.state] } : Looped ω Unit)
      (fun _ after => after.sent = loop.sent ++ [encodeReportState loop.state] ∧ after.state = loop.state)
      (fun _ after => after.sent = loop.sent) loop := by
  cases round.sendFailure with
  | some error => exact rfl
  | none => exact ⟨rfl, rfl⟩

theorem assertActiveAndSend_sent (round : Round ω ε) (loop : Loop) :
    Ends (assertActiveAndSend round)
      (fun _ after => after.sent = loop.sent ++ [encodeReportState loop.state] ∧ after.state = loop.state)
      (fun _ after => after.sent = loop.sent) loop := by
  unfold assertActiveAndSend
  simp only [Machine.Throwing.ends_bind, Machine.Throwing.ends_get]
  split
  · exact rfl
  · exact send_sent round loop

/-- What a step of the computer is asked, from the state before it, and what comes of it. -/
theorem reportStep_reports (computes : Computes execution compute) (round : Round ω ε) (action : Raw)
    (payload : Payload Any) (previous : State) (loop : Loop) :
    Ends (reportStep execution round action payload previous)
      (fun _ after => ∃ report, compute action payload previous = .ok report ∧
        after.sent = loop.sent ++ [encodeReportState report] ∧ after.state = report)
      (fun _ after => after.sent = loop.sent) loop := by
  have sends {state : State} (computed : compute action payload previous = .ok state) :
      Ends (assertActiveAndSend round)
        (fun _ after => ∃ report, compute action payload previous = .ok report ∧
          after.sent = loop.sent ++ [encodeReportState report] ∧ after.state = report)
        (fun _ after => after.sent = loop.sent) { loop with state } := by
    apply (assertActiveAndSend_sent round { loop with state }).mono
    · intro _ after sent
      exact ⟨state, computed, sent⟩
    · intro _ after sent
      exact sent
  unfold reportStep
  rw [Machine.Throwing.ends_bind, ends_checked]
  constructor
  · intro step started
    cases step with
    | ready state =>
      simp only [Machine.Throwing.ends_bind, Machine.Throwing.ends_modify]
      exact sends (computes _ _ _ _ _ (.inl started))
    | pending pending =>
      rw [Machine.Throwing.ends_bind, ends_checked]
      constructor
      · intro state comes
        rw [comes] at started
        simp only [Machine.Throwing.ends_bind, Machine.Throwing.ends_modify, ends_checked]
        exact ⟨fun _ _ => sends (computes _ _ _ _ _ (.inr started)), fun _ _ => trivial⟩
      · intro failure _
        exact rfl
  · intro failure _
    exact rfl

/-- What a message leads to, if the loop goes on, and if it throws. -/
def Goes [NumberText] (compute : StateComputer ω) (asked : Option Stimulus) (before after : Loop) : Prop :=
  match asked with
  | some asked => Reports compute asked before after
  | none => Silent before after

def Stops [NumberText] (compute : StateComputer ω) (asked : Option Stimulus) (before after : Loop) : Prop :=
  after.sent = before.sent ∨ ∃ stimulus, asked = some stimulus ∧ Reports compute stimulus before after

theorem withEvidence_then {α : Type} (method : MatchedEvidenceTracker.Method Unit) {next : Unit → Looped ω α}
    {Q : α → Loop → Prop} {E : Failure ω → Loop → Prop} {loop : Loop}
    (goes : ∀ after, Silent loop after → Ends (next ()) Q E after)
    (throws : ∀ failure after, Silent loop after → E failure after) : Ends (withEvidence method >>= next) Q E loop := by
  rw [Machine.Throwing.ends_bind]
  exact (withEvidence_silent method loop).mono (fun _ after silent => goes after silent) throws

/-- What follows a report: the two observers are told, and the step is counted. -/
theorem afterReport (asked : Stimulus) (action : Raw) {before loop : Loop} (reports : Reports compute asked before loop)
    (counted : Loop → Loop) (silent : ∀ loop, Silent loop (counted loop)) :
    Ends (do
        withEvidence MatchedEvidenceTracker.reported
        withProgress (·.reported action)
        modify counted : Looped ω Unit)
      (fun _ after => Reports compute asked before after) (fun _ after => Stops compute (some asked) before after) loop := by
  rcases reports with ⟨report, computed, sent, state⟩
  have kept {after : Loop} (same : Silent loop after) : Reports compute asked before after :=
    ⟨report, computed, same.sent.trans sent, same.state.trans state⟩
  apply withEvidence_then
  · intro after same
    simp only [withProgress, Machine.Throwing.ends_bind, Machine.Throwing.ends_modify]
    exact kept (same.trans ⟨(silent _).sent, (silent _).state⟩)
  · intro failure after same
    exact .inr ⟨asked, rfl, kept same⟩

theorem onStepMismatch_sent (options : ReplayCoreOptions) (msgAction : Raw) (expected actual : Payload Any)
    (hints : Option (List (DiffHint Any))) (loop : Loop) :
    Ends (onStepMismatch options msgAction expected actual hints : Looped ω Unit) (fun _ _ => False)
      (fun _ after => after.sent = loop.sent) loop := by
  unfold onStepMismatch
  apply withEvidence_then
  · intro after same
    simp only [Machine.Throwing.ends_bind, Machine.Throwing.ends_get]
    cases after.progress with
    | some recorder =>
      simp only [Machine.Throwing.ends_bind, ends_checked, ends_raise]
      exact ⟨fun _ _ => same.sent, fun _ _ => same.sent⟩
    | none =>
      simp only [Machine.Throwing.ends_bind, ends_checked, Machine.Throwing.ends_ite, ends_raise]
      exact ⟨fun _ _ => ⟨fun _ => ⟨fun _ _ => same.sent, fun _ _ => same.sent⟩, fun _ => same.sent⟩, fun _ _ => same.sent⟩
  · intro failure after same
    exact same.sent

theorem dispatch_reports (computes : Computes execution compute) (options : ReplayCoreOptions) (round : Round ω ε)
    (msg : AnyMessage) (loop : Loop) :
    Ends (dispatch execution options round msg) (fun _ after => Goes compute (stimulus msg) loop after)
      (fun _ after => Stops compute (stimulus msg) loop after) loop := by
  cases msg with
  | initialState action payload =>
    simp only [dispatch, onInitialState, bind_assoc]
    apply withEvidence_then
    · intro first same
      simp only [withProgress, Machine.Throwing.ends_bind, Machine.Throwing.ends_modify]
      apply (reportStep_reports computes round action payload [] _).mono
      · intro _ after reported
        rcases reported with ⟨report, computed, sent, state⟩
        have reports : Reports compute ⟨true, action, payload⟩ loop after :=
          ⟨report, computed, sent.trans (by rw [same.sent]), state⟩
        have ended := afterReport (ω := ω) ⟨true, action, payload⟩ action reports
          (fun loop => { loop with acceptedTraces := loop.acceptedTraces + 1 }) fun _ => ⟨rfl, rfl⟩
        simp only [withProgress, Machine.Throwing.ends_bind, Machine.Throwing.ends_modify] at ended
        exact ended
      · intro _ after sent
        exact .inl (sent.trans same.sent)
    · intro failure after same
      exact .inl same.sent
  | nextStep action payload =>
    simp only [dispatch, onNextStep, bind_assoc]
    apply withEvidence_then
    · intro first same
      simp only [withProgress, Machine.Throwing.ends_bind, Machine.Throwing.ends_modify, Machine.Throwing.ends_get]
      apply (reportStep_reports computes round action payload _ _).mono
      · intro _ after reported
        rcases reported with ⟨report, computed, sent, state⟩
        have reports : Reports compute ⟨false, action, payload⟩ loop after :=
          ⟨report, same.state ▸ computed, sent.trans (by rw [same.sent]), state⟩
        have ended := afterReport (ω := ω) ⟨false, action, payload⟩ action reports
          (fun loop => { loop with acceptedSteps := loop.acceptedSteps + 1 }) fun _ => ⟨rfl, rfl⟩
        simp only [withProgress, Machine.Throwing.ends_bind, Machine.Throwing.ends_modify] at ended
        exact ended
      · intro _ after sent
        exact .inl (sent.trans same.sent)
    · intro failure after same
      exact .inl same.sent
  | stepOk =>
    simp only [dispatch]
    apply withEvidence_then
    · intro after same
      simp only [withProgress, Machine.Throwing.ends_bind, Machine.Throwing.ends_modify, Machine.Throwing.ends_pure]
      exact ⟨same.sent, same.state⟩
    · intro failure after same
      exact .inl same.sent
  | allStepsDone =>
    simp only [dispatch]
    apply withEvidence_then
    · intro after same
      simp only [Machine.Throwing.ends_bind, Machine.Throwing.ends_get, Machine.Throwing.ends_pure]
      exact same
    · intro failure after same
      exact .inl same.sent
  | stepMismatch action expected actual hints =>
    simp only [dispatch, Machine.Throwing.ends_bind]
    exact (onStepMismatch_sent options action expected actual hints loop).mono (fun _ _ never => never.elim)
      fun _ _ sent => .inl sent
  | registerError error =>
    simp only [dispatch]
    cases (rawText error : Except Thrown JsString) <;> exact .inl rfl
  | _ => exact .inl rfl

variable [NumberConversion]

/-- The message that a line brings to the computer. -/
def asked (received : Received ω) : Option Stimulus :=
  match (receiveReplayMessage received : Except (Failure ω) AnyMessage) with
  | .ok msg => stimulus msg
  | .error _ => none

def stimuli (rounds : List (Round ω ε)) : List Stimulus := (rounds.map (·.received)).filterMap asked

theorem replayRound_reports (computes : Computes execution compute) (options : ReplayCoreOptions) (round : Round ω ε)
    (loop : Loop) :
    Ends (replayRound execution options round) (fun _ after => Goes compute (asked round.received) loop after)
      (fun _ after => Stops compute (asked round.received) loop after) loop := by
  unfold replayRound asked
  rw [Machine.Throwing.ends_bind, ends_checked]
  constructor
  · intro msg received
    rw [received, Machine.Throwing.ends_bind, ends_checked]
    exact ⟨fun _ _ => dispatch_reports computes options round msg loop, fun _ _ => .inl rfl⟩
  · intro failure received
    exact .inl rfl

/-- The reports answer the messages in order, each from the state that was reported before. -/
inductive Answers (compute : StateComputer ω) : State → List Stimulus → List State → Prop
  | nil {previous : State} {stimuli : List Stimulus} : Answers compute previous stimuli []
  | cons {previous report : State} {asked : Stimulus} {stimuli : List Stimulus} {reports : List State} :
    compute asked.action asked.payload (if asked.initial then [] else previous) = .ok report →
    Answers compute report stimuli reports → Answers compute previous (asked :: stimuli) (report :: reports)

theorem Answers.get {compute : StateComputer ω} {previous : State} {stimuli : List Stimulus} {reports : List State}
    (answers : Answers compute previous stimuli reports) {k : Nat} {report : State} (found : reports[k]? = some report) :
    ∃ asked, stimuli[k]? = some asked ∧
      compute asked.action asked.payload (if asked.initial then [] else ((previous :: reports)[k]?).getD []) = .ok report := by
  induction answers generalizing k with
  | nil => simp at found
  | @cons previous first asked stimuli reports computed rest ih =>
    cases k with
    | zero =>
      cases found
      exact ⟨asked, rfl, computed⟩
    | succ k => exact ih found

theorem replayRounds_answers (computes : Computes execution compute) (options : ReplayCoreOptions)
    (rounds : List (Round ω ε)) (loop : Loop) :
    ∃ reports, (replayRounds execution options loop rounds).1.sent = loop.sent ++ reports.map encodeReportState ∧
      Answers compute loop.state (stimuli rounds) reports := by
  induction rounds generalizing loop with
  | nil => exact ⟨[], (List.append_nil _).symm, .nil⟩
  | cons round rest ih =>
    have ends := replayRound_reports computes options round loop
    -- One report more, and then those of the rounds that follow.
    have reported {stimulus : Stimulus} {after final : Loop} (reports : List State)
        (brought : asked round.received = some stimulus) (goes : Reports compute stimulus loop after)
        (sent : final.sent = after.sent ++ reports.map encodeReportState)
        (answers : Answers compute after.state (stimuli rest) reports) :
        ∃ reports, final.sent = loop.sent ++ reports.map encodeReportState ∧
          Answers compute loop.state (stimuli (round :: rest)) reports := by
      rcases goes with ⟨report, computed, one, rfl⟩
      refine ⟨after.state :: reports, ?_, ?_⟩
      · rw [sent, one, List.map_cons, List.append_assoc, List.singleton_append]
      · rw [stimuli, List.map_cons, List.filterMap_cons_some brought]
        exact .cons computed answers
    rw [replayRounds]
    rcases ran : (replayRound execution options round).run.run loop with ⟨result, after⟩
    cases result with
    | error failure =>
      rcases Machine.Throwing.ends_thrown ends ran with same | ⟨stimulus, brought, goes⟩
      · exact ⟨[], same.trans (List.append_nil _).symm, .nil⟩
      · exact reported [] brought goes (List.append_nil _).symm .nil
    | ok result =>
      have goes := Machine.Throwing.ends_returned ends ran
      unfold Goes at goes
      cases brought : asked round.received with
      | some stimulus =>
        rw [brought] at goes
        cases result with
        | none =>
          rcases ih after with ⟨reports, sent, answers⟩
          exact reported reports brought goes sent answers
        | some report => exact reported [] brought goes (List.append_nil _).symm .nil
      | none =>
        rw [brought] at goes
        rw [stimuli, List.map_cons, List.filterMap_cons_none brought]
        cases result with
        | none =>
          rcases ih after with ⟨reports, sent, answers⟩
          rw [goes.sent] at sent
          rw [goes.state] at answers
          exact ⟨reports, sent, answers⟩
        | some report => exact ⟨[], goes.sent.trans (List.append_nil _).symm, .nil⟩

/-- What a run sends: the `k`-th report is what the computer makes of the `k`-th message that asks for one. -/
def Answered (compute : StateComputer ω) (rounds : List (Round ω ε)) (sent : List JsString) : Prop :=
  ∃ reports : List State, sent = reports.map encodeReportState ∧ ∀ (k : Nat) (report : State), reports[k]? = some report →
    ∃ stimulus, (stimuli rounds)[k]? = some stimulus ∧
      compute stimulus.action stimulus.payload (if stimulus.initial ∨ k = 0 then [] else (reports[k - 1]?).getD []) =
        .ok report

theorem replayCore_answered (computes : Computes execution compute) (options : ReplayCoreOptions)
    (rounds : List (Round ω ε)) : Answered compute rounds (replayCore execution options rounds).1.sent := by
  rcases replayRounds_answers computes options rounds
    { matchedEvidence := options.matchedEvidence, progress := options.progress } with ⟨reports, sent, answers⟩
  refine ⟨reports, sent, fun k report found => ?_⟩
  rcases answers.get found with ⟨stimulus, brought, computed⟩
  refine ⟨stimulus, brought, ?_⟩
  cases k with
  | zero => simpa using computed
  | succ k => simpa using computed

end

/-! ### A replay of one trace -/

/-- A computer that reports what it was asked before. -/
def remember : StateComputer Unit := fun _ _ previous => .ok ((js "seen", .bool true) :: previous)

def undisturbedRound (line : String) : Round Unit (StepEnvironment Unit) where
  received := .line (js line)
  signal := none
  environment := { signal := none, now := 0, controller := none, race := .settled none 5 }
  signalAfter := none
  inactive := none
  sendFailure := none

def traceRounds : List (Round Unit (StepEnvironment Unit)) :=
  ["\x7b\"proto_step\":\"initial_state\",\"action\":\"init\",\"state\":\x7b\x7d\x7d",
    "\x7b\"proto_step\":\"next_step\",\"action\":\"tick\",\"parameters\":\x7b\x7d\x7d", "oops"].map undisturbedRound

end Mirror.Replay
