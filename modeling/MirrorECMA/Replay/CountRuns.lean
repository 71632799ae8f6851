import Mathlib.Data.List.Dedup
import Mathlib.Data.List.Induction
import MirrorECMA.Replay.Counts
import MirrorECMA.Replay.HeededRuns

namespace Mirror.Replay.Controlled

open ECMA Mirror.Protocol
open Machine (Transition)
open Machine.Throwing (Ends ends_bind ends_get ends_modify ends_pure)

variable {ω : Type}

/-! ### What a replay has received and reported -/

def initial (msg : AnyMessage) : Bool := (stimulus msg).any (·.initial)

/-- The recorder as it is at this point: a state that is being computed has been begun. -/
def recorderOf (s : Replaying ω) : ReplayRecorder :=
  match s.phase with
  | .computing msg _ _ | .computed msg _ _ => (s.loop.progress.getD {}).begin (initial msg)
  | .finished (.returned recorder) => recorder
  | _ => s.loop.progress.getD {}

/-- The traces that have been begun, and the trace of every state that has been sent. -/
structure Journal where
  started : Nat := 0
  reported : List Nat := []

namespace Journal

def receive (journal : Journal) (msg : AnyMessage) : Journal :=
  { journal with started := if initial msg then journal.started + 1 else journal.started }

def send (journal : Journal) : Journal := { journal with reported := journal.reported ++ [journal.started] }

/-- The traces with at least one report. -/
def traces (journal : Journal) : Nat := journal.reported.dedup.length

end Journal

section

variable [NumberText] [NumberConversion]

/-- The message that the loop gets to in a step. -/
def messageOf (t : Transition (Replaying ω) (Input ω) (List (Event ω))) : Option AnyMessage :=
  match t.before.phase, t.input with
  | .received line, .resume _ _ =>
    match (readMessage line : Except (Failure (Outside ω)) AnyMessage) with
    | .ok msg => some msg
    | .error _ => none
  | _, _ => none

def messages (trace : Trace ω) : List AnyMessage := trace.filterMap messageOf

def Journal.add (journal : Journal) (t : Transition (Replaying ω) (Input ω) (List (Event ω))) : Journal :=
  let received := (messageOf t).elim journal journal.receive
  if t.before.loop.sent.length < t.after.loop.sent.length then received.send else received

def journalOf (trace : Trace ω) : Journal := trace.foldl Journal.add {}

/-- The first replay message is `initial_state`. -/
def Opens (trace : Trace ω) : Prop := ∀ msg, (messages trace).head? = some msg → initial msg = true

/-- The action of the message has its declared type, which the decoder does not check. -/
def Typed (msg : AnyMessage) : Prop := ∀ asked, stimulus msg = some asked → Named asked.action

end

/-! ### A round -/

/-- Where the loop stands: what its recorder is, and how many states it has sent. -/
structure Stands (recorder : ReplayRecorder) (sent : Nat) (loop : Loop) : Prop where
  untracked : loop.matchedEvidence = none
  recorded : loop.progress = some recorder
  sent : loop.sent.length = sent

section

variable [NumberText] {recorder : ReplayRecorder} {sent : Nat} {loop : Loop} {msg : AnyMessage} {asked : Stimulus}
  (answer : Answer ω) (send : Calling ω Unit) (control : ReplayControl ω)

theorem withEvidence_stands (stands : Stands recorder sent loop) (method : MatchedEvidenceTracker.Method Unit)
    {Q : Unit → Loop → Prop} {E : Failure ω → Loop → Prop} :
    Ends (withEvidence method : Looped ω Unit) Q E loop ↔ Q () loop :=
  withEvidence_watched ⟨stands.untracked, by rw [stands.recorded]; rfl⟩ method

theorem Stands.progress (stands : Stands recorder sent loop) (change : ReplayRecorder → ReplayRecorder) :
    Stands (change recorder) sent { loop with progress := loop.progress.map change } :=
  ⟨stands.untracked, by rw [stands.recorded]; rfl, stands.sent⟩

theorem Stands.interrupted (stands : Stands recorder sent loop) : Stands recorder sent (Replay.interrupted loop) :=
  ⟨by simp [Replay.interrupted, stands.untracked], stands.recorded, stands.sent⟩

theorem assertActiveAndSend_stands (stands : Stands recorder sent loop) :
    Ends (assertActiveAndSend (roundOf answer send control)) (fun _ after => Stands recorder (sent + 1) after)
      (fun _ after => Stands recorder sent after) loop := by
  unfold assertActiveAndSend roundOf
  simp only [ends_bind, ends_get, stands.recorded]
  cases control.reason with
  | some error => exact stands
  | none =>
    cases Round.failure send with
    | some error => exact stands
    | none =>
      refine ⟨stands.untracked, stands.recorded, ?_⟩
      show (loop.sent ++ [encodeReportState loop.state]).length = sent + 1
      rw [List.length_append, stands.sent]
      rfl

theorem reportStep_stands (stands : Stands recorder sent loop) (action : Raw) (payload : Payload Any) (previous : State) :
    Ends (reportStep given (roundOf answer send control) action payload previous)
      (fun _ after => Stands recorder (sent + 1) after) (fun _ after => Stands recorder sent after) loop := by
  have sends (state : State) : Ends (assertActiveAndSend (roundOf answer send control))
      (fun _ after => Stands recorder (sent + 1) after) (fun _ after => Stands recorder sent after)
      { loop with state } :=
    assertActiveAndSend_stands answer send control ⟨stands.untracked, stands.recorded, stands.sent⟩
  unfold reportStep
  rw [ends_bind, ends_checked]
  constructor
  · intro step _
    cases step with
    | ready state => exact sends state
    | pending pending =>
      rw [ends_bind, ends_checked]
      constructor
      · intro state _
        simp only [ends_bind, ends_modify, ends_checked]
        refine ⟨fun _ _ => sends state, fun failure thrown => ?_⟩
        cases thrown
      · intro failure _
        exact stands
  · intro failure _
    exact stands

/-- What a round makes of the recorder whose message asks for a state. -/
theorem dispatch_asked_stands (stands : Stands recorder sent loop) (asks : stimulus msg = some asked) :
    Ends (dispatch given {} (roundOf answer send control) msg)
      (fun report after => report = none ∧ Stands ((recorder.begin (initial msg)).reported asked.action) (sent + 1) after)
      (fun _ after => Stands (recorder.begin (initial msg)) sent after) loop := by
  have reports (after : Loop) (count : Loop → Loop) (begun : ReplayRecorder)
      (kept : ∀ recorder loop, Stands recorder (sent + 1) loop → Stands recorder (sent + 1) (count loop))
      (ended : Stands begun (sent + 1) after) :
      Ends (do
          withEvidence MatchedEvidenceTracker.reported
          withProgress (·.reported asked.action)
          modify count
          return none : Looped (Outside ω) (Option CompiledReplayReport))
        (fun report after => report = none ∧ Stands (begun.reported asked.action) (sent + 1) after)
        (fun _ after => Stands begun sent after) after := by
    simp only [ends_bind, withEvidence_stands ended, withProgress_ends, ends_modify, ends_pure]
    exact ⟨True.intro, kept _ _ (ended.progress (·.reported asked.action))⟩
  cases msg with
  | initialState action payload =>
    cases asks
    simp only [dispatch, onInitialState, bind_assoc]
    rw [ends_bind, withEvidence_stands stands]
    simp only [ends_bind, withProgress_ends, ends_modify]
    apply (reportStep_stands answer send control _ action payload []).mono
    · intro _ after ended
      have told := reports after (fun loop => { loop with acceptedTraces := loop.acceptedTraces + 1 }) _
        (fun _ _ kept => ⟨kept.untracked, kept.recorded, kept.sent⟩) ended
      simp only [ends_bind] at told
      exact told
    · intro failure after ended
      exact ended
    · have begun := stands.progress (·.begin true)
      exact ⟨begun.untracked, begun.recorded, begun.sent⟩
  | nextStep action payload =>
    cases asks
    simp only [dispatch, onNextStep, bind_assoc]
    rw [ends_bind, withEvidence_stands stands]
    simp only [ends_bind, withProgress_ends, ends_modify, ends_get]
    apply (reportStep_stands answer send control _ action payload _).mono
    · intro _ after ended
      have told := reports after (fun loop => { loop with acceptedSteps := loop.acceptedSteps + 1 }) _
        (fun _ _ kept => ⟨kept.untracked, kept.recorded, kept.sent⟩) ended
      simp only [ends_bind] at told
      exact told
    · intro failure after ended
      exact ended
    · have begun := stands.progress (·.begin false)
      exact ⟨begun.untracked, begun.recorded, begun.sent⟩
  | _ => cases asks

/-- What any other message makes of it. -/
theorem dispatch_unasked_stands (stands : Stands recorder sent loop) (unasked : stimulus msg = none) :
    Ends (dispatch given {} (roundOf answer send control) msg)
      (fun _ after => Stands recorder sent after ∨ Stands recorder.acknowledge sent after)
      (fun _ after => Stands recorder sent after) loop := by
  have watched : Watched loop := ⟨stands.untracked, by rw [stands.recorded]; rfl⟩
  cases msg with
  | initialState action payload => cases unasked
  | nextStep action payload => cases unasked
  | stepOk =>
    simp only [dispatch, ends_bind, withEvidence_stands stands, withProgress_ends, ends_pure]
    exact .inr (stands.progress _)
  | allStepsDone =>
    simp only [dispatch, ends_bind, withEvidence_stands stands, ends_get, ends_pure]
    exact .inl stands
  | stepMismatch action expected actual hints =>
    simp only [dispatch, onStepMismatch, ends_bind, withEvidence_stands stands, ends_get, stands.recorded, ends_checked,
      ends_raise]
    exact ⟨fun _ _ => stands, fun _ _ => stands⟩
  | registerError error =>
    simp only [dispatch]
    cases (rawText error : Except Thrown JsString) <;> exact stands
  | _ => exact stands

end

/-! ### What every step keeps -/

/-- Between two rounds: every trace that has been begun has reported its first state. -/
structure Even [NumberText] (journal : Journal) (recorder : ReplayRecorder) : Prop where
  counted : Counted recorder journal.reported.length journal.started
  started : recorder.tracesStarted = journal.started
  previous : recorder.previousAction.isSome ↔ 0 < journal.started
  reported : ∀ number, number ∈ journal.reported ↔ 1 ≤ number ∧ number ≤ journal.started

def KeptPhase [NumberText] (journal : Journal) (recorder : ReplayRecorder) : Phase ω → Prop
  | .computing msg _ _ | .computed msg _ _ => ∃ earlier asked, Even earlier recorder ∧ journal = earlier.receive msg ∧
    stimulus msg = some asked ∧ Named asked.action ∧ (initial msg = true ∨ 0 < earlier.started)
  | .finished (.returned last) => Even journal recorder ∧ last = recorder.complete
  | .finished (.threw _) => Counted recorder journal.reported.length journal.traces
  | _ => Even journal recorder

def Kept [NumberText] (journal : Journal) (sent : Nat) (s : Replaying ω) : Prop :=
  ∃ recorder, Stands recorder sent s.loop ∧ KeptPhase journal recorder s.phase

/-- A step has sent no state or one. -/
def Advanced [NumberText] (journal : Journal) (sent : Nat) (s : Replaying ω) : Prop :=
  Kept journal sent s ∨ Kept journal.send (sent + 1) s

section

variable [NumberText] {journal : Journal} {recorder : ReplayRecorder} {sent : Nat} {s : Replaying ω} {msg : AnyMessage}
  {asked : Stimulus}

theorem Even.traces (even : Even journal recorder) : journal.traces = journal.started := by
  have same : journal.reported.dedup.Perm (List.range' 1 journal.started) := by
    rw [List.perm_ext_iff_of_nodup (List.nodup_dedup _) (List.nodup_range' ..)]
    intro number
    rw [List.mem_dedup, even.reported, List.mem_range'_1]
    omega
  rw [Journal.traces, same.length_eq, List.length_range']

theorem Even.start : Even {} {} where
  counted := Counted.start
  started := rfl
  previous := by simp
  reported number := by
    have nothing : number ∉ ({} : Journal).reported := List.not_mem_nil
    have none : ({} : Journal).started = 0 := rfl
    rw [none]
    constructor
    · intro member
      exact absurd member nothing
    · intro bounds
      omega

theorem Even.acknowledge (even : Even journal recorder) : Even journal recorder.acknowledge := by
  have counted := even.counted.acknowledge.1
  unfold ReplayRecorder.acknowledge at counted ⊢
  split
  · rename_i pending
    rw [if_pos pending] at counted
    exact ⟨counted, even.started, even.previous, even.reported⟩
  · exact even

theorem begin_first (even : Even journal recorder) (follows : initial msg = true ∨ 0 < journal.started) :
    ((recorder.begin (initial msg)).stateIndex = 0 ↔ (recorder.begin (initial msg)).previousAction.isNone) ∧
      (recorder.begin (initial msg)).tracesStarted = (journal.receive msg).started ∧
      (recorder.begin (initial msg)).previousAction.isSome = !initial msg := by
  have acknowledged := even.acknowledge
  unfold ReplayRecorder.begin Journal.receive
  cases first : initial msg with
  | true => exact ⟨by simp, congrArg (· + 1) acknowledged.started, rfl⟩
  | false =>
    rw [first] at follows
    have some : recorder.acknowledge.previousAction.isSome := acknowledged.previous.mpr (by simpa using follows)
    refine ⟨?_, acknowledged.started, some⟩
    rw [← Option.not_isSome]
    simp [some]

/-- A round that reports. -/
theorem Even.reported_round (even : Even journal recorder) (named : Named asked.action)
    (follows : initial msg = true ∨ 0 < journal.started) :
    Even (journal.receive msg).send ((recorder.begin (initial msg)).reported asked.action) := by
  obtain ⟨counted, idle⟩ := even.counted.begin (initial msg)
  obtain ⟨first, started, some⟩ := begin_first even follows
  have reported := counted.reported_begun idle first named
  have numbers : (journal.receive msg).send.reported.length = journal.reported.length + 1 := by
    simp [Journal.send, Journal.receive]
  have traces : (if (recorder.begin (initial msg)).previousAction.isSome then journal.started else journal.started + 1) =
      (journal.receive msg).started := by
    rw [some]
    cases initial : initial msg <;> simp [Journal.receive, initial]
  have positive : 0 < (journal.receive msg).started := by
    rcases follows with initial | later
    · simp [Journal.receive, initial]
    · unfold Journal.receive
      dsimp only
      split <;> omega
  rw [traces] at reported
  obtain ⟨actions, droppedActions, actionFrame⟩ := Counted.countAction_frame
    { recorder.begin (initial msg) with
      statesReported := (recorder.begin (initial msg)).statesReported + 1, pending := true } asked.action
  have still : ((recorder.begin (initial msg)).reported asked.action).tracesStarted =
      (recorder.begin (initial msg)).tracesStarted ∧
      ((recorder.begin (initial msg)).reported asked.action).previousAction = asked.action := by
    unfold ReplayRecorder.reported
    dsimp only
    rw [actionFrame]
    obtain ⟨sequences, droppedSequences, sequenceFrame⟩ := Counted.countSequence_frame
      { recorder.begin (initial msg) with
        statesReported := (recorder.begin (initial msg)).statesReported + 1, pending := true, actions := actions
        droppedActionEvents := droppedActions } asked.action
    rw [sequenceFrame]
    exact ⟨rfl, rfl⟩
  refine ⟨?_, ?_, ?_, ?_⟩
  · rw [numbers]
    exact reported
  · rw [still.1]
    exact started
  · rw [still.2]
    obtain ⟨name, same⟩ := named
    rw [same]
    exact ⟨fun _ => positive, fun _ => rfl⟩
  · intro number
    show number ∈ journal.reported ++ [(journal.receive msg).started] ↔ _ ∧ number ≤ (journal.receive msg).started
    rw [List.mem_append, even.reported, List.mem_singleton]
    have bound : (journal.receive msg).started = journal.started ∨ (journal.receive msg).started = journal.started + 1 := by
      cases initial : initial msg <;> simp [Journal.receive, initial]
    omega

/-- A round that fails has begun its state. -/
theorem Even.failed_round (even : Even journal recorder) (msg : AnyMessage) :
    Counted (recorder.begin (initial msg)) (journal.receive msg).reported.length (journal.receive msg).traces := by
  have counted := (even.counted.begin (initial msg)).1
  rw [← even.traces] at counted
  exact counted

theorem Even.ended (even : Even journal recorder) : Counted recorder journal.reported.length journal.traces := by
  rw [even.traces]
  exact even.counted

theorem fail_kept (stands : Stands recorder sent s.loop) (counted : Counted recorder journal.reported.length journal.traces)
    (failure : Failure (Outside ω)) : Kept journal sent (fail failure s).1 :=
  ⟨recorder, stands.interrupted, counted⟩

theorem receive_kept (stands : Stands recorder sent s.loop) (even : Even journal recorder) :
    Kept journal sent (receive s).1 := by
  unfold receive
  split
  · exact fail_kept stands even.ended _
  · exact ⟨recorder, stands, even⟩

/-- The end of a round that leaves the recorder between two rounds, unless it throws. -/
theorem conclude_kept {ended : Except (Failure (Outside ω)) (Option CompiledReplayReport) × Loop}
    (returns : ∀ report, ended.1 = .ok report → ∃ recorder, Stands recorder sent ended.2 ∧ Even journal recorder)
    (throws : ∀ failure, ended.1 = .error failure →
      ∃ recorder, Stands recorder sent ended.2 ∧ Counted recorder journal.reported.length journal.traces) :
    Kept journal sent (conclude s ended).1 := by
  rcases ended with ⟨failure | report, loop⟩
  · obtain ⟨recorder, stands, counted⟩ := throws failure rfl
    exact fail_kept (s := { s with loop }) stands counted failure
  · obtain ⟨recorder, stands, even⟩ := returns report rfl
    cases report with
    | none => exact receive_kept (s := { s with loop }) stands even
    | some report =>
      refine ⟨recorder, stands, even, ?_⟩
      show (loop.progress.getD {}).complete = recorder.complete
      rw [stands.recorded]
      rfl

theorem turn_advanced (answer : Answer ω) (send : Calling ω Unit) (stands : Stands recorder sent s.loop)
    (even : Even journal recorder) (asks : stimulus msg = some asked) (named : Named asked.action)
    (follows : initial msg = true ∨ 0 < journal.started) (control : ReplayControl ω) :
    Advanced (journal.receive msg) sent (conclude { s with control } (turn msg answer send s)).1 := by
  have ended := dispatch_asked_stands answer send s.control stands asks
  unfold Ends at ended
  unfold turn
  split at ended
  · rename_i report after run
    rw [run]
    right
    apply conclude_kept
    · intro _ _
      exact ⟨_, ended.2, even.reported_round named follows⟩
    · intro failure thrown
      cases thrown
  · rename_i failure after run
    rw [run]
    left
    apply conclude_kept
    · intro _ returned
      cases returned
    · intro _ _
      exact ⟨_, ended, even.failed_round msg⟩

theorem report_advanced (answer : Answer ω) (took : Rat) (send : Calling ω Unit) (stands : Stands recorder sent s.loop)
    (even : Even journal recorder) (asks : stimulus msg = some asked) (named : Named asked.action)
    (follows : initial msg = true ∨ 0 < journal.started) :
    Advanced (journal.receive msg) sent (report msg answer took send s).1 := by
  unfold report
  split
  · exact turn_advanced answer send stands even asks named follows _
  · exact turn_advanced answer send stands even asks named follows s.control

theorem turn_kept (answer : Answer ω) (send : Calling ω Unit) (stands : Stands recorder sent s.loop)
    (even : Even journal recorder) (unasked : stimulus msg = none) :
    Kept journal sent (conclude s (turn msg answer send s)).1 := by
  have ended := dispatch_unasked_stands answer send s.control stands unasked
  unfold Ends at ended
  unfold turn
  split at ended
  · rename_i report after run
    rw [run]
    apply conclude_kept
    · intro _ _
      rcases ended with same | acknowledged
      · exact ⟨_, same, even⟩
      · exact ⟨_, acknowledged, even.acknowledge⟩
    · intro failure thrown
      cases thrown
  · rename_i failure after run
    rw [run]
    apply conclude_kept
    · intro _ returned
      cases returned
    · intro _ _
      exact ⟨_, ended, even.ended⟩

omit [NumberText] in
theorem receive_unasked (journal : Journal) (unasked : stimulus msg = none) : journal.receive msg = journal := by
  simp [Journal.receive, initial, unasked]

/-! ### The steps -/

variable [NumberConversion]

theorem handle_advanced {line : Option JsString} (compute : Calling ω Computed) (send : Calling ω Unit)
    (stands : Stands recorder sent s.loop) (even : Even journal recorder)
    (read : (readMessage line : Except (Failure (Outside ω)) AnyMessage) = .ok msg) (typed : Typed msg)
    (follows : initial msg = true ∨ 0 < journal.started) :
    Advanced (journal.receive msg) sent (handle line compute send s).1 := by
  unfold handle
  rw [read]
  dsimp only
  cases asks : stimulus msg with
  | none =>
    rw [receive_unasked journal asks]
    exact .inl (turn_kept _ send stands even asks)
  | some asked =>
    have named := typed asked asks
    rw [Option.isSome_some, if_pos rfl]
    split
    · rename_i thrown _
      exact report_advanced (s := { s with control := (s.control.startAction compute).2 }) (.error (.thrown thrown)) _ send
        stands even asks named follows
    · rename_i state _
      exact report_advanced (s := { s with control := (s.control.startAction compute).2 }) (.ok (.ready state)) _ send
        stands even asks named follows
    · left
      exact ⟨recorder, stands, journal, asked, even, rfl, asks, named, follows⟩

omit [NumberConversion] in
theorem Kept.open {s after : Replaying ω} (kept : Kept journal sent s) (loop : after.loop = s.loop)
    (same : ∀ recorder, KeptPhase journal recorder s.phase → KeptPhase journal recorder after.phase) :
    Kept journal sent after := by
  obtain ⟨recorder, stands, phase⟩ := kept
  exact ⟨recorder, by rw [loop]; exact stands, same recorder phase⟩

omit [NumberConversion] in
theorem abort_kept (kept : Kept journal sent s) (error : ReplayControlError ω) :
    Kept journal sent (Controlled.abort error s).1 := by
  unfold Controlled.abort
  split
  · refine kept.open rfl fun recorder phase => ?_
    show KeptPhase journal recorder s.phase.abort
    cases same : s.phase <;> rw [same] at phase <;> exact phase
  · exact kept

/-- The steps in which the loop itself does not go on. -/
theorem outer_kept {input : Input ω} {next : Next ω} (kept : Kept journal sent s) (stepped : step s input = some next)
    (outer : ∀ compute send, input ≠ .resume compute send) : Kept journal sent next.1 := by
  have expires {ρ : Type} {kind : ControlledKind} {race : Machine.Race (Outside ω) ρ}
      (expired : expire kind race s = some next) : Kept journal sent next.1 := by
    unfold expire at expired
    split at expired
    · obtain ⟨timeout, _, rfl⟩ := Option.map_eq_some_iff.mp expired
      exact abort_kept kept _
    · cases expired
  cases input with
  | abort cause =>
    cases stepped
    exact abort_kept kept _
  | pass elapsed =>
    cases stepped
    exact kept.open rfl fun _ phase => phase
  | expire =>
    unfold step at stepped
    dsimp only at stepped
    split at stepped
    · exact expires stepped
    · exact expires stepped
    · cases stepped
  | line event =>
    unfold step at stepped
    dsimp only at stepped
    split at stepped
    · rename_i started race current
      obtain ⟨race', _, _, same, _⟩ := raceStep_cases stepped
      rw [same]
      refine kept.open rfl fun recorder phase => ?_
      rw [current] at phase
      exact phase
    · cases stepped
  | state event =>
    unfold step at stepped
    dsimp only at stepped
    split at stepped
    · rename_i msg started race current
      obtain ⟨race', _, _, same, _⟩ := raceStep_cases stepped
      rw [same]
      refine kept.open rfl fun recorder phase => ?_
      rw [current] at phase
      exact phase
    · cases stepped
  | resume compute send => exact absurd rfl (outer compute send)

/-- The steps in which it does, with the message that it gets to. -/
theorem resume_advanced {compute : Calling ω Computed} {send : Calling ω Unit} {next : Next ω} (kept : Kept journal sent s)
    (stepped : resume compute send s = some next)
    (heard : ∀ line msg, s.phase = .received line →
      (readMessage line : Except (Failure (Outside ω)) AnyMessage) = .ok msg →
        Typed msg ∧ (initial msg = true ∨ 0 < journal.started)) :
    (∃ line msg, s.phase = .received line ∧ (readMessage line : Except (Failure (Outside ω)) AnyMessage) = .ok msg ∧
      Advanced (journal.receive msg) sent next.1) ∨
    ((∀ line msg, s.phase = .received line → (readMessage line : Except (Failure (Outside ω)) AnyMessage) ≠ .ok msg) ∧
      Advanced journal sent next.1) := by
  obtain ⟨recorder, stands, phase⟩ := kept
  unfold resume at stepped
  split at stepped
  · rename_i current
    rw [current] at phase ⊢
    cases stepped
    exact .inr ⟨(fun _ _ other => by cases other), .inl (receive_kept stands phase)⟩
  · rename_i started race current
    rw [current] at phase ⊢
    obtain ⟨winner, _, rfl⟩ := Option.map_eq_some_iff.mp stepped
    refine .inr ⟨(fun _ _ other => by cases other), .inl ?_⟩
    dsimp only
    split
    · exact fail_kept (s := { s with control := (s.control.awaited .receive started winner).2 }) stands
        (Even.ended phase) _
    · exact ⟨recorder, stands, phase⟩
  · rename_i line current
    rw [current] at phase
    cases stepped
    cases read : (readMessage line : Except (Failure (Outside ω)) AnyMessage) with
    | ok msg =>
      obtain ⟨typed, follows⟩ := heard line msg current read
      exact .inl ⟨line, msg, current, read, handle_advanced compute send stands phase read typed follows⟩
    | error failure =>
      refine .inr ⟨fun other msg same => ?_, .inl ?_⟩
      · rw [current] at same
        cases same
        rw [read]
        intro clash
        cases clash
      · unfold handle
        rw [read]
        exact fail_kept stands (Even.ended phase) _
  · rename_i msg started race current
    rw [current] at phase ⊢
    obtain ⟨earlier, asked, even, rfl, asks, named, follows⟩ := phase
    obtain ⟨winner, _, rfl⟩ := Option.map_eq_some_iff.mp stepped
    refine .inr ⟨(fun _ _ other => by cases other), ?_⟩
    dsimp only
    split
    · exact report_advanced (s := { s with control := (s.control.awaited .action started winner).2 }) _ _ send stands even
        asks named follows
    · exact .inl ⟨recorder, stands, earlier, asked, even, rfl, asks, named, follows⟩
  · rename_i msg state took current
    rw [current] at phase ⊢
    obtain ⟨earlier, asked, even, rfl, asks, named, follows⟩ := phase
    cases stepped
    exact .inr ⟨(fun _ _ other => by cases other), report_advanced _ _ send stands even asks named follows⟩
  · cases stepped

/-! ### Runs -/

variable {trace : Trace ω} {t : Transition (Replaying ω) (Input ω) (List (Event ω))} {control : ReplayControl ω}

theorem journal_snoc : journalOf (trace ++ [t]) = (journalOf trace).add t := by
  simp [journalOf]

theorem messages_snoc : messages (trace ++ [t]) = messages trace ++ (messageOf t).toList := by
  cases found : messageOf t <;> simp [messages, found]

theorem add_started (journal : Journal) :
    (journal.add t).started = journal.started + (messageOf t).toList.countP initial := by
  have kept (received : Journal) : (if t.before.loop.sent.length < t.after.loop.sent.length then received.send
      else received).started = received.started := by
    split <;> rfl
  rw [Journal.add, kept]
  cases messageOf t with
  | none => rfl
  | some msg => cases first : initial msg <;> simp [Journal.receive, first]

/-- A trace is begun by its `initial_state`. -/
theorem journal_started (trace : Trace ω) : (journalOf trace).started = (messages trace).countP initial := by
  induction trace using List.reverseRecOn with
  | nil => rfl
  | append_singleton trace t ih => rw [journal_snoc, messages_snoc, add_started, ih, List.countP_append]

/-- A message that is received is the first one, or a trace has been begun. -/
theorem Opens.follows (opens : Opens (trace ++ [t])) {msg : AnyMessage} (received : messageOf t = some msg) :
    initial msg = true ∨ 0 < (journalOf trace).started := by
  unfold Opens at opens
  rw [messages_snoc, received] at opens
  cases earlier : messages trace with
  | nil =>
    rw [earlier] at opens
    exact .inl (opens msg rfl)
  | cons first rest =>
    rw [earlier] at opens
    have begun := opens first rfl
    right
    rw [journal_started, earlier, List.countP_cons_of_pos begun]
    omega

theorem Opens.earlier (opens : Opens (trace ++ [t])) : Opens trace := by
  intro msg first
  apply opens msg
  rw [messages_snoc, List.head?_append, first]
  rfl

theorem Advanced.added {received : Journal} {s : Replaying ω} (stands : s.loop.sent.length = sent)
    (advanced : Advanced received sent t.after) (before : t.before = s)
    (same : received = (messageOf t).elim journal journal.receive) : Kept (journal.add t) t.after.loop.sent.length t.after := by
  rw [Journal.add, ← same, before, stands]
  rcases advanced with ⟨recorder, here, phase⟩ | ⟨recorder, here, phase⟩
  · rw [here.sent, if_neg (Nat.lt_irrefl sent)]
    exact ⟨recorder, here, phase⟩
  · rw [here.sent, if_pos (Nat.lt_succ_self sent)]
    exact ⟨recorder, here, phase⟩

theorem step_kept {input : Input ω} {next : Next ω} (kept : Kept journal s.loop.sent.length s)
    (stepped : step s input = some next)
    (heard : ∀ msg, messageOf ⟨s, input, next.2, next.1⟩ = some msg →
      Typed msg ∧ (initial msg = true ∨ 0 < journal.started)) :
    Kept (journal.add ⟨s, input, next.2, next.1⟩) next.1.loop.sent.length next.1 := by
  by_cases inner : ∃ compute send, input = .resume compute send
  · obtain ⟨compute, send, rfl⟩ := inner
    have received (line : Option JsString) (msg : AnyMessage) (current : s.phase = .received line)
        (read : (readMessage line : Except (Failure (Outside ω)) AnyMessage) = .ok msg) :
        messageOf ⟨s, .resume compute send, next.2, next.1⟩ = some msg := by
      simp only [messageOf, current, read]
    rcases resume_advanced kept stepped fun line msg current read => heard msg (received line msg current read) with
      ⟨line, msg, current, read, advanced⟩ | ⟨unread, advanced⟩
    · apply Advanced.added (s := s) rfl advanced rfl
      rw [received line msg current read]
      rfl
    · apply Advanced.added (s := s) rfl advanced rfl
      have silent : messageOf ⟨s, .resume compute send, next.2, next.1⟩ = none := by
        unfold messageOf
        dsimp only
        split
        · rename_i line _ _ current same
          split
          · rename_i msg read
            exact absurd read (unread line msg current)
          · rfl
        · rfl
      rw [silent]
      rfl
  · have outer : ∀ compute send, input ≠ .resume compute send := fun compute send same => inner ⟨compute, send, same⟩
    apply Advanced.added (s := s) rfl (.inl (outer_kept kept stepped outer)) rfl
    have silent : messageOf ⟨s, input, next.2, next.1⟩ = none := by
      unfold messageOf
      dsimp only
      split
      · rename_i same
        exact absurd rfl (outer _ _)
      · rfl
    rw [silent]
    rfl

theorem run_kept (run : Machine.Run step (replayLoop control) trace s) (opens : Opens trace)
    (typed : ∀ msg ∈ messages trace, Typed msg) : Kept (journalOf trace) s.loop.sent.length s := by
  revert opens typed
  apply run.invariant (P := fun trace s => Opens trace → (∀ msg ∈ messages trace, Typed msg) →
    Kept (journalOf trace) s.loop.sent.length s)
  · intro _ _
    exact ⟨{}, ⟨rfl, rfl, rfl⟩, Even.start⟩
  · intro trace state input output after before stepped opens typed
    rw [journal_snoc]
    rw [messages_snoc] at typed
    have kept := before opens.earlier fun msg member => typed msg (List.mem_append_left _ member)
    have next : step state input = some ((after, output) : Next ω) := stepped
    apply step_kept kept next
    intro msg received
    refine ⟨typed msg (List.mem_append_right _ ?_), opens.follows received⟩
    rw [received]
    exact List.mem_singleton_self msg

/-- What a report says at this point, with so many reports. -/
def Says (s : Replaying ω) (passed : Bool) (journal : Journal) : Prop :=
  ∃ report, (recorderOf s).report passed = .ok report ∧ Conserved report journal.traces ∧
    report.statesReported = journal.reported.length ∧ ∀ last, s.phase = .finished (.returned last) → Balanced report

omit [NumberConversion] in
theorem says_unfinished {kept : ReplayRecorder} (counted : Counted kept journal.reported.length journal.traces)
    (same : recorderOf s = kept) (going : ∀ last, s.phase ≠ .finished (.returned last)) (passed : Bool) :
    Says s passed journal := by
  obtain ⟨report, made, conserved, _, reported, _⟩ := counted.conserved passed
  rw [← same] at made
  exact ⟨report, made, conserved, reported, fun last past => absurd past (going last)⟩

omit [NumberConversion] in
theorem says_returned {kept : ReplayRecorder} (even : Even journal kept) (same : recorderOf s = kept.complete)
    (passed : Bool) : Says s passed journal := by
  obtain ⟨counted, idle⟩ := even.counted.acknowledge
  have matched := counted.matched
  have steps := counted.steps
  simp only [idle, Bool.false_eq_true, false_and, if_false, Nat.add_zero] at matched steps
  have completed : Counted kept.complete journal.reported.length journal.traces := by
    rw [even.traces]
    exact { counted with }
  obtain ⟨report, made, conserved, _, reported, agreed, started, ended, stepped⟩ := completed.conserved passed
  have traces : kept.acknowledge.tracesStarted = journal.started := even.acknowledge.started
  rw [← same] at made
  refine ⟨report, made, conserved, reported, fun _ _ => ⟨?_, ?_, ?_⟩⟩
  · rw [agreed, reported]
    exact matched
  · rw [ended, started]
    rfl
  · rw [stepped, started, agreed]
    show kept.acknowledge.stepsCompleted + kept.acknowledge.tracesStarted = kept.acknowledge.statesMatched
    rw [traces]
    exact steps

end

/-! ### A replay of one trace -/

def told (text : String) : List (Input Unit) := [.line .begin, .line (.settle (.ok (some (js text)))), .line .deliver, goOn]

def answers : Input Unit := .resume (instantly (.state [])) (instantly ())

/-- A trace of two states that is replayed to its end. -/
def shortReplay : List (Input Unit) :=
  goOn :: told "\x7b\"proto_step\":\"initial_state\",\"action\":\"a\",\"state\":\x7b\x7d\x7d" ++ answers ::
    told "\x7b\"proto_step\":\"next_step\",\"action\":\"b\",\"parameters\":\x7b\x7d\x7d" ++ answers ::
    told "\x7b\"proto_step\":\"all_steps_done\"\x7d" ++ [goOn]

/-- The messages of a run begin with a trace, and their actions are strings. -/
def wellTyped [NumberText] [NumberConversion] (trace : Trace Unit) : Bool :=
  (messages trace).head?.all initial && (messages trace).all fun msg =>
    (stimulus msg).all fun asked => (Raw.string? asked.action).isSome

theorem opens_typed [NumberText] [NumberConversion] {trace : Trace Unit} (checked : wellTyped trace = true) :
    Opens trace ∧ ∀ msg ∈ messages trace, Typed msg := by
  unfold wellTyped at checked
  rw [Bool.and_eq_true, Option.all_eq_true, List.all_eq_true] at checked
  refine ⟨checked.1, fun msg member asked asks => ?_⟩
  have string := checked.2 msg member
  rw [asks, Option.all_some] at string
  obtain ⟨name, same⟩ := Option.isSome_iff_exists.mp string
  unfold Raw.string? at same
  split at same
  · rename_i text action
    exact ⟨text, action⟩
  · cases same

def returned (s : Replaying Unit) : Bool :=
  match s.phase with
  | .finished (.returned _) => true
  | _ => false

theorem short_replay : letI := integerNumbers.toNumberConversion; letI := integerNotation
    Machine.reaches step ((ReplayControl.new {}).map replayLoop) shortReplay
      (fun trace s => wellTyped trace && returned s) = true := by
  decide +kernel

/-- The same trace with messages that carry no action. -/
def actionless : List (Input Unit) :=
  goOn :: told "\x7b\"proto_step\":\"initial_state\",\"state\":\x7b\x7d\x7d" ++ answers ::
    told "\x7b\"proto_step\":\"next_step\",\"parameters\":\x7b\x7d\x7d" ++ [answers]

/-- The pairs of actions do not add up. -/
def unpaired [NumberText] [NumberConversion] (trace : Trace Unit) (s : Replaying Unit) : Bool :=
  match (recorderOf s).report true with
  | .ok report => decide ((report.sequenceCounts.map (·.count)).sum + report.droppedSequenceEvents +
      (journalOf trace).traces ≠ report.statesReported)
  | .error _ => true

theorem actionless_replay : letI := integerNumbers.toNumberConversion; letI := integerNotation
    Machine.reaches step ((ReplayControl.new {}).map replayLoop) actionless
      (fun trace s => (messages trace).head?.all initial && unpaired trace s) = true := by
  decide +kernel

end Mirror.Replay.Controlled
