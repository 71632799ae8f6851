import MirrorECMA.Machine.Run
import MirrorECMA.Replay.Controlled

namespace Mirror.Replay.Controlled

open ECMA Mirror.Protocol
open ReplayControl (externalAbort timedOut)

variable {ω : Type}

/-! ### The signal -/

theorem noticed_self (control : ReplayControl ω) : noticed control control = [] := by
  unfold noticed
  cases control.reason <;> rfl

theorem noticed_aborted {before after : ReplayControl ω} {reason : ReplayControlError ω} (aborted : before.reason = some reason) :
    noticed before after = [] := by
  simp [noticed, aborted]

theorem noticed_active {before after : ReplayControl ω} (active : after.reason = none) : noticed before after = [] := by
  unfold noticed
  rw [active]
  cases before.reason <;> rfl

/-- What a call or a check makes of the control. -/
structure Later (before after : ReplayControl ω) : Prop where
  actionTimeout : after.actionTimeout = before.actionTimeout
  reason : ∀ reason, before.reason = some reason → after.reason = some reason

theorem Later.refl (control : ReplayControl ω) : Later control control := ⟨rfl, fun _ same => same⟩

theorem Later.trans {first second third : ReplayControl ω} (a : Later first second) (b : Later second third) :
    Later first third :=
  ⟨b.actionTimeout.trans a.actionTimeout, fun reason same => b.reason reason (a.reason reason same)⟩

theorem Later.active {before after : ReplayControl ω} (later : Later before after) (active : after.reason = none) :
    before.reason = none := by
  cases aborted : before.reason with
  | none => rfl
  | some reason =>
    have still := later.reason reason aborted
    rw [active] at still
    cases still

theorem abort_later (error : ReplayControlError ω) (control : ReplayControl ω) : Later control (control.abort error) := by
  refine ⟨rfl, fun reason same => ?_⟩
  simp [ReplayControl.abort, same]

theorem during_later {ρ : Type} (call : Calling ω ρ) (control : ReplayControl ω) : Later control (control.during call) := by
  refine ⟨rfl, fun reason same => ?_⟩
  simp [ReplayControl.during, same]

theorem during_reason {ρ : Type} (call : Calling ω ρ) {control : ReplayControl ω} (active : control.reason = none) :
    (control.during call).reason = call.aborts.map externalAbort := by
  simp [ReplayControl.during, active]

section

variable [NumberText]

theorem elapse_later (kind : ControlledKind) (started : Rat) (control : ReplayControl ω) :
    Later control (control.elapse kind started) := by
  unfold ReplayControl.elapse
  split
  · split
    · exact abort_later _ control
    · exact Later.refl control
  · exact Later.refl control

theorem elapse_clock (kind : ControlledKind) (started : Rat) (control : ReplayControl ω) :
    (control.elapse kind started).clock = control.clock := by
  unfold ReplayControl.elapse
  split
  · split <;> rfl
  · rfl

/-- Where the check leaves the signal as it is, the time is not over. -/
theorem elapse_inTime {started : Rat} {control : ReplayControl ω} (active : (control.elapse .action started).reason = none) :
    InTime control (control.clock - started) := by
  intro timeout same
  have found : control.timeout .action = some timeout := same
  by_contra late
  have past : timeout.ms ≤ control.clock - started := Rat.not_lt.mp late
  unfold ReplayControl.elapse at active
  simp only [found, past, if_true, ReplayControl.abort] at active
  cases aborted : control.reason <;> simp [aborted] at active

end

theorem assertActive_ok {control : ReplayControl ω} (active : control.reason = none) : control.assertActive = .ok () := by
  simp [ReplayControl.assertActive, active]

theorem assertActive_error {control : ReplayControl ω} {reason : ReplayControlError ω} (aborted : control.reason = some reason) :
    control.assertActive = .error (.control reason) := by
  simp [ReplayControl.assertActive, ReplayControl.thrown, aborted]

/-! ### The code of the loop -/

/-- What a step of the loop comes to, and whether it ends with the reason of the signal once that is aborted. -/
structure Resumed (s : Replaying ω) (heard : Prop) (next : Next ω) : Prop where
  proper : Proper next.1
  later : Later s.control next.1.control
  seen : ∃ said, next.2 = said ++ noticed s.control next.1.control ++ finale next.1.phase ∧
    (said = [] ∨ ∃ line took, said = [.reported line took] ∧ s.control.reason = none ∧ InTime s.control took)
  goes : ¬ Over next.1.phase → next.1.control.reason = none ∧ ¬ Failing next.1.phase
  active : next.1.control.reason = none → heard
  heard : ¬ Failing s.phase → ∀ reason ended, next.1.control.reason = some reason → next.1.phase = .finished ended →
    (ended = .threw (.thrown (.control reason)) ↔ heard)

/-- Code that leaves the signal as it is, after a call or a check. -/
theorem Settled.resumed {s : Replaying ω} {control : ReplayControl ω} {next : Next ω} {heard : Prop}
    (settled : Settled { s with control } next) (later : Later s.control control)
    (active : control.reason = none → heard)
    (hears : ¬ Failing s.phase → ∀ reason ended, control.reason = some reason → next.1.phase = .finished ended →
      (ended = .threw (.thrown (.control reason)) ↔ heard)) :
    Resumed s heard (next.1, noticed s.control control ++ next.2) := by
  have same : next.1.control = control := settled.control
  refine ⟨settled.proper, ?_, ⟨[], ?_, .inl rfl⟩, ?_, ?_, ?_⟩
  · rw [same]
    exact later
  · show noticed s.control control ++ next.2 = [] ++ noticed s.control next.1.control ++ finale next.1.phase
    rw [settled.seen, same]
    rfl
  · rw [same]
    exact settled.goes
  · rw [same]
    exact active
  · rw [same]
    exact hears

theorem Settled.still {s : Replaying ω} {next : Next ω} {heard : Prop} (settled : Settled s next)
    (active : s.control.reason = none → heard)
    (hears : ¬ Failing s.phase → ∀ reason ended, s.control.reason = some reason → next.1.phase = .finished ended →
      (ended = .threw (.thrown (.control reason)) ↔ heard)) : Resumed s heard next := by
  have resumed : Resumed s heard (next.1, noticed s.control s.control ++ next.2) :=
    Settled.resumed settled (Later.refl s.control) active hears
  rw [noticed_self] at resumed
  exact resumed

theorem Resumed.congr {s : Replaying ω} {next : Next ω} {heard heard' : Prop} (resumed : Resumed s heard next)
    (same : heard ↔ heard') : Resumed s heard' next where
  proper := resumed.proper
  later := resumed.later
  seen := resumed.seen
  goes := resumed.goes
  active open_ := same.mp (resumed.active open_)
  heard failing reason ended aborted finished := (resumed.heard failing reason ended aborted finished).trans same

/-- The clock has gone on while the signal was not aborted. -/
theorem Resumed.before {s : Replaying ω} {control : ReplayControl ω} {next : Next ω} {heard : Prop}
    (resumed : Resumed { s with control } heard next) (later : Later s.control control) (active : control.reason = none) :
    Resumed s heard next := by
  have open_ : s.control.reason = none := later.active active
  refine ⟨resumed.proper, later.trans resumed.later, ?_, resumed.goes, resumed.active, resumed.heard⟩
  rcases resumed.seen with ⟨said, seen, reports⟩
  refine ⟨said, ?_, ?_⟩
  · have same : noticed s.control next.1.control = noticed control next.1.control := by
      simp [noticed, open_, active]
    rw [same]
    exact seen
  · rcases reports with none | ⟨line, took, same, _, inTime⟩
    · exact .inl none
    · refine .inr ⟨line, took, same, open_, fun timeout found => ?_⟩
      apply inTime timeout
      show control.actionTimeout = some timeout
      rw [later.actionTimeout]
      exact found

section

variable [NumberText] {s : Replaying ω} {msg : AnyMessage} {answer : Answer ω} {send : Calling ω Unit} {took : Rat}

/-- `send` is not aborted in, or it throws the reason. -/
def SendHeard (send : Calling ω Unit) : Prop :=
  ∀ cause thrown, send.aborts = some cause → send.result = .error thrown → thrown = .control (externalAbort cause)

theorem report_unstated (took : Rat) (send : Calling ω Unit) (watched : Watched s.loop) (asked : (stimulus msg).isSome = true) {failure : Failure (Outside ω)}
    (failed : answer = .error failure ∨ answer = .ok (.pending (.error failure))) :
    Settled s (report msg answer took send s) ∧
      (report msg answer took send s).1.phase = .finished (.threw failure) := by
  have turned := turn_asked answer send watched asked
  have unstated : report msg answer took send s = conclude s (turn msg answer send s) := by
    unfold report
    rcases failed with rfl | rfl <;> rfl
  have verdict : (turn msg answer send s).1 = .error failure := by
    rw [turned.2]
    rcases failed with rfl | rfl <;> rfl
  rw [unstated]
  refine ⟨conclude_settled turned.1, ?_⟩
  rw [show turn msg answer send s = (.error failure, (turn msg answer send s).2) from Prod.ext verdict rfl]
  rfl

theorem verdict_stated {state : State} (send : Calling ω Unit) (stated : stateOf answer = some state) (control : ReplayControl ω) :
    verdict answer send control =
      ((control.reason.map fun error => .thrown (.control error)) <|> (Round.failure send).map .thrown) := by
  unfold stateOf at stated
  split at stated
  · rfl
  · rfl
  · cases stated

theorem report_stated (send : Calling ω Unit) (watched : Watched s.loop) (asked : (stimulus msg).isSome = true) {state : State}
    (stated : stateOf answer = some state) (inTime : InTime s.control took) :
    Resumed s (s.control.reason = none → SendHeard send) (report msg answer took send s) := by
  have turned := turn_asked answer send watched asked
  have verdict := verdict_stated send stated s.control
  cases aborted : s.control.reason with
  | some reason =>
    rw [aborted] at verdict
    have thrown : (turn msg answer send s).1 = .error (.thrown (.control reason)) := by
      rw [turned.2, verdict]
      rfl
    have unsent : report msg answer took send s = conclude s (turn msg answer send s) := by
      unfold report
      rw [stated, aborted]
    rw [unsent]
    apply (conclude_settled turned.1).still
    · intro open_ active
      cases active
    · intro _ reason' ended same finished
      rw [aborted] at same
      cases same
      rw [show turn msg answer send s = (.error (.thrown (.control reason)), (turn msg answer send s).2) from
        Prod.ext thrown rfl] at finished
      cases finished
      refine ⟨fun _ active => ?_, fun _ => rfl⟩
      cases active
  | none =>
    have sent : report msg answer took send s =
        ((conclude { s with control := s.control.during send } (turn msg answer send s)).1,
          .reported (encodeReportState state) took ::
            (noticed s.control (s.control.during send) ++
              (conclude { s with control := s.control.during send } (turn msg answer send s)).2)) := by
      unfold report
      rw [stated, aborted]
    have settled := conclude_settled (s := { s with control := s.control.during send }) turned.1
    have reason := during_reason send aborted
    rw [aborted] at verdict
    have resumed : Resumed s (none = (none : Option (ReplayControlError ω)) → SendHeard send)
        ((conclude { s with control := s.control.during send } (turn msg answer send s)).1,
          noticed s.control (s.control.during send) ++
            (conclude { s with control := s.control.during send } (turn msg answer send s)).2) := by
      apply settled.resumed (during_later send s.control)
      · intro active _ cause thrown aborts
        rw [reason, aborts] at active
        cases active
      · intro _ error ended same finished
        rw [reason, Option.map_eq_some_iff] at same
        rcases same with ⟨cause, aborts, rfl⟩
        cases result : send.result with
        | error thrown =>
          have fails : (turn msg answer send s).1 = .error (.thrown thrown) := by
            rw [turned.2, verdict]
            simp [Round.failure, result]
          rw [show turn msg answer send s = (.error (.thrown thrown), (turn msg answer send s).2) from
            Prod.ext fails rfl] at finished
          cases finished
          constructor
          · intro same _ cause' thrown' aborts' result'
            rw [aborts] at aborts'
            rw [result] at result'
            cases aborts'
            cases result'
            cases same
            rfl
          · intro hears
            rw [hears rfl cause thrown aborts result]
        | ok value =>
          have goes : (turn msg answer send s).1 = .ok none := by
            rw [turned.2, verdict]
            simp [Round.failure, result]
          rw [show turn msg answer send s = (.ok none, (turn msg answer send s).2) from Prod.ext goes rfl] at finished
          have stopped : (s.control.during send).reason = some (externalAbort cause) := by
            rw [reason, aborts]
            rfl
          have heard := receive_aborted (s := { s with control := s.control.during send, loop := (turn msg answer send s).2 }) stopped
          have same := heard.symm.trans finished
          cases same
          refine ⟨fun _ _ cause' thrown' _ result' => ?_, fun _ => rfl⟩
          rw [result] at result'
          cases result'
    rw [sent]
    refine ⟨resumed.proper, resumed.later, ⟨[.reported (encodeReportState state) took], ?_, .inr ⟨_, _, rfl, aborted, inTime⟩⟩,
      resumed.goes, resumed.active, resumed.heard⟩
    have same : (conclude { s with control := s.control.during send } (turn msg answer send s)).1.control =
        s.control.during send := settled.control
    show _ :: (_ ++ _) = [_] ++ _ ++ _
    rw [settled.seen, same]
    rfl

variable [NumberConversion]

/-- What is received ends the replay. -/
def EndsReplay (line : Option JsString) : Prop :=
  match (readMessage line : Except (Failure (Outside ω)) AnyMessage) with
  | .error _ => True
  | .ok msg => final msg = true

/-- The computer is asked about what is received. -/
def Asks (line : Option JsString) : Prop :=
  ∃ msg, (readMessage line : Except (Failure (Outside ω)) AnyMessage) = .ok msg ∧ (stimulus msg).isSome = true

/-- What the computer is called in is not aborted, and it returns a state in time. -/
def ComputesInTime (control : ReplayControl ω) (compute : Calling ω Computed) : Prop :=
  compute.aborts = none ∧ (∃ state, compute.result = .ok (.state state)) ∧ InTime control compute.elapsed

/-- A step of the loop that ends it without a look at the aborted signal: at a message that ends the replay, and where the
computer or `send` throws another error after it has aborted the signal. -/
inductive Unheard (s : Replaying ω) : Input ω → Prop
  | message {line : Option JsString} {compute : Calling ω Computed} {send : Calling ω Unit} (phase : s.phase = .received line)
    (aborted : s.control.reason.isSome = true) (ends : EndsReplay (ω := ω) line) : Unheard s (.resume compute send)
  | computer {line : Option JsString} {compute : Calling ω Computed} {send : Calling ω Unit} {cause : ω} {thrown : Outside ω}
    (phase : s.phase = .received line) (active : s.control.reason = none) (asks : Asks (ω := ω) line)
    (aborts : compute.aborts = some cause) (throws : compute.result = .error thrown)
    (other : thrown ≠ .control (externalAbort cause)) : Unheard s (.resume compute send)
  | sync {line : Option JsString} {compute : Calling ω Computed} {send : Calling ω Unit} (phase : s.phase = .received line)
    (active : s.control.reason = none) (asks : Asks (ω := ω) line) (computes : ComputesInTime s.control compute)
    (throws : ¬ SendHeard send) : Unheard s (.resume compute send)
  | promised {msg : AnyMessage} {state : State} {took : Rat} {compute : Calling ω Computed} {send : Calling ω Unit}
    (phase : s.phase = .computed msg state took) (active : s.control.reason = none) (throws : ¬ SendHeard send) :
    Unheard s (.resume compute send)

theorem readMessage_own {line : Option JsString} {failure : Failure (Outside ω)} (read : readMessage line = .error failure) :
    Own failure := by
  unfold readMessage receiveReplayMessage at read
  split at read
  · unfold decodeReplayMessage at read
    split at read
    · cases read
    · cases read
      exact True.intro
  · cases read
    exact True.intro
  · rename_i thrown found
    split at found <;> cases found

theorem Own.ne {failure : Failure (Outside ω)} (own : Own failure) (thrown : Outside ω) : failure ≠ .thrown thrown := by
  intro same
  subst same
  exact own

/-- At a message: it ends the replay, or the computer or `send` has thrown. -/
theorem Unheard.received {line : Option JsString} {compute : Calling ω Computed} (unheard : Unheard s (.resume compute send))
    (phase : s.phase = .received line) :
    (s.control.reason.isSome = true ∧ EndsReplay (ω := ω) line) ∨
    (s.control.reason = none ∧ Asks (ω := ω) line ∧
      ((∃ cause thrown, compute.aborts = some cause ∧ compute.result = .error thrown ∧
          thrown ≠ .control (externalAbort cause)) ∨
        (ComputesInTime s.control compute ∧ ¬ SendHeard send))) := by
  cases unheard with
  | message phase' aborted ends =>
    cases phase.symm.trans phase'
    exact .inl ⟨aborted, ends⟩
  | computer phase' active asks aborts throws other =>
    cases phase.symm.trans phase'
    exact .inr ⟨active, asks, .inl ⟨_, _, aborts, throws, other⟩⟩
  | sync phase' active asks computes throws =>
    cases phase.symm.trans phase'
    exact .inr ⟨active, asks, .inr ⟨computes, throws⟩⟩
  | promised phase' => cases phase.symm.trans phase'

/-- What ends at a message ends in no reason of the signal. -/
theorem message_resumed {line : Option JsString} {compute : Calling ω Computed} {next : Next ω}
    (phase : s.phase = .received line) (ends : EndsReplay (ω := ω) line) (settled : Settled s next)
    (own : ∀ ended reason, next.1.phase = .finished ended → ended ≠ .threw (.thrown (.control reason)))
    (unasked : ¬ Asks (ω := ω) line) : Resumed s (¬ Unheard s (.resume compute send)) next := by
  apply settled.still
  · intro active unheard
    rcases unheard.received phase with ⟨aborted, _⟩ | ⟨_, asks, _⟩
    · rw [active] at aborted
      cases aborted
    · exact unasked asks
  · intro _ reason ended aborted finished
    refine ⟨fun same => absurd same (own ended reason finished), fun heard => ?_⟩
    exact absurd (.message phase (by rw [aborted]; rfl) ends) heard

theorem handle_unasked {line : Option JsString} {compute : Calling ω Computed} (watched : Watched s.loop)
    (phase : s.phase = .received line) (unasked : ¬ Asks (ω := ω) line) :
    Resumed s (¬ Unheard s (.resume compute send)) (handle line compute send s) := by
  unfold handle
  cases read : (readMessage line : Except (Failure (Outside ω)) AnyMessage) with
  | error failure =>
    have ends : EndsReplay (ω := ω) line := by
      unfold EndsReplay
      rw [read]
      exact True.intro
    apply message_resumed phase ends (fail_settled watched failure) _ unasked
    intro ended reason finished same
    subst same
    cases finished
    exact (readMessage_own read).ne _ rfl
  | ok msg =>
    have quiet : (stimulus msg).isSome = false := by
      cases found : (stimulus msg).isSome with
      | false => rfl
      | true => exact absurd ⟨msg, read, found⟩ unasked
    have turned := turn_unasked (.error .typeError) send watched quiet
    have ends (last : final msg = true) : EndsReplay (ω := ω) line := by
      unfold EndsReplay
      rw [read]
      exact last
    simp only [quiet, Bool.false_eq_true, if_false]
    rcases turned.2 with ⟨goes, more⟩ | ⟨⟨report, returns⟩, last⟩ | ⟨⟨failure, fails, own⟩, last⟩
    · -- After an acknowledgement the next receive looks at the signal.
      rw [show turn msg (.error .typeError) send s = (.ok none, (turn msg (.error .typeError) send s).2) from Prod.ext goes rfl]
      have heard : ¬ Unheard s (.resume compute send) := by
        intro unheard
        rcases unheard.received phase with ⟨_, ends⟩ | ⟨_, asks, _⟩
        · unfold EndsReplay at ends
          rw [read] at ends
          simp [more] at ends
        · exact unasked asks
      have settled : Settled s (conclude s (.ok none, (turn msg (.error .typeError) send s).2)) := conclude_settled turned.1
      apply settled.still
      · intro _
        exact heard
      · intro _ reason ended aborted finished
        have stopped := receive_aborted (s := { s with loop := (turn msg (.error .typeError) send s).2 }) aborted
        cases stopped.symm.trans finished
        exact ⟨fun _ => heard, fun _ => rfl⟩
    · apply message_resumed phase (ends last) (conclude_settled turned.1) _ unasked
      intro ended reason finished same
      subst same
      rw [show turn msg (.error .typeError) send s = (.ok (some report), (turn msg (.error .typeError) send s).2) from
        Prod.ext returns rfl] at finished
      cases finished
    · apply message_resumed phase (ends last) (conclude_settled turned.1) _ unasked
      intro ended reason finished same
      subst same
      rw [show turn msg (.error .typeError) send s = (.error failure, (turn msg (.error .typeError) send s).2) from
        Prod.ext fails rfl] at finished
      cases finished
      exact own.ne _ rfl

/-- A failure after the computer has been called, with the signal as the computer leaves it. -/
theorem failed_resumed {control : ReplayControl ω} {answer : Answer ω} {failure : Failure (Outside ω)} {heard : Prop}
    (watched : Watched s.loop) (asked : (stimulus msg).isSome = true)
    (failed : answer = .error failure ∨ answer = .ok (.pending (.error failure))) (later : Later s.control control)
    (active : control.reason = none → heard)
    (hears : ¬ Failing s.phase → ∀ reason, control.reason = some reason →
      (failure = .thrown (.control reason) ↔ heard)) :
    Resumed s heard ((report msg answer took send { s with control }).1,
      noticed s.control control ++ (report msg answer took send { s with control }).2) := by
  have ended := report_unstated (s := { s with control }) took send watched asked failed
  apply ended.1.resumed later active
  intro failing reason outcome aborted finished
  cases ended.2.symm.trans finished
  rw [← hears failing reason aborted]
  constructor
  · intro same
    cases same
    rfl
  · intro same
    rw [same]

theorem handle_asked {line : Option JsString} {compute : Calling ω Computed} (watched : Watched s.loop)
    (phase : s.phase = .received line) (asks : Asks (ω := ω) line) :
    Resumed s (¬ Unheard s (.resume compute send)) (handle line compute send s) := by
  rcases asks with ⟨msg, read, asked⟩
  have goesOn : ¬ EndsReplay (ω := ω) line := by
    intro ends
    unfold EndsReplay at ends
    rw [read] at ends
    cases msg <;> simp [stimulus] at asked <;> simp [final] at ends
  unfold handle
  simp only [read, asked, if_true]
  unfold ReplayControl.startAction
  cases aborted : s.control.reason with
  | some reason =>
    simp only [Option.isSome_some, if_true]
    have heard : ¬ Unheard s (.resume compute send) := by
      intro unheard
      rcases unheard.received phase with ⟨_, ends⟩ | ⟨active, _⟩
      · exact goesOn ends
      · rw [aborted] at active
        cases active
    apply failed_resumed watched asked (.inl rfl) (Later.refl _)
    · intro _
      exact heard
    · intro _ reason' same
      refine ⟨fun _ => heard, fun _ => ?_⟩
      simp [ReplayControl.thrown, same]
  | none =>
    simp only [Option.isSome_none, Bool.false_eq_true, if_false]
    have later := during_later compute s.control
    have reason := during_reason compute aborted
    cases result : compute.result with
    | error thrown =>
      apply failed_resumed watched asked (.inl rfl) later
      · intro active unheard
        rw [reason, Option.map_eq_none_iff] at active
        rcases unheard.received phase with ⟨_, ends⟩ | ⟨_, _, ⟨cause, _, aborts, _⟩ | ⟨computes, _⟩⟩
        · exact goesOn ends
        · rw [active] at aborts
          cases aborts
        · rcases computes.2.1 with ⟨state, returns⟩
          rw [result] at returns
          cases returns
      · intro _ error same
        rw [reason, Option.map_eq_some_iff] at same
        rcases same with ⟨cause, aborts, rfl⟩
        constructor
        · intro same unheard
          cases same
          rcases unheard.received phase with ⟨_, ends⟩ | ⟨_, _, ⟨cause', thrown', aborts', throws, other⟩ | ⟨computes, _⟩⟩
          · exact goesOn ends
          · rw [aborts] at aborts'
            rw [result] at throws
            cases aborts'
            cases throws
            exact other rfl
          · rw [computes.1] at aborts
            cases aborts
        · intro heard
          by_contra other
          apply heard
          apply Unheard.computer phase aborted ⟨msg, read, asked⟩ aborts result
          intro same
          apply other
          rw [same]
    | ok computed =>
      have unthrown (heard : ComputesInTime s.control compute → SendHeard send) : ¬ Unheard s (.resume compute send) := by
        intro unheard
        rcases unheard.received phase with ⟨_, ends⟩ | ⟨_, _, ⟨_, _, _, throws, _⟩ | ⟨computes, throws⟩⟩
        · exact goesOn ends
        · rw [result] at throws
          cases throws
        · exact throws (heard computes)
      cases computed with
      | promise =>
        have heard : ¬ Unheard s (.resume compute send) := by
          apply unthrown
          intro computes
          rcases computes.2.1 with ⟨state, returns⟩
          rw [result] at returns
          cases returns
        cases called : (s.control.during compute).reason with
        | some reason =>
          rw [assertActive_error called]
          apply failed_resumed watched asked (.inl rfl) later
          · intro _
            exact heard
          · intro _ reason' same
            rw [called] at same
            cases same
            exact ⟨fun _ => heard, fun _ => rfl⟩
        | none =>
          rw [assertActive_ok called]
          have settled : Settled { s with control := s.control.during compute }
              ({ s with control := s.control.during compute, phase := .computing msg s.control.clock .start }, []) := by
            refine ⟨rfl, ⟨watched, asked, start_attended called, ?_⟩, rfl, fun _ => ⟨called, ?_⟩⟩
            · intro state came none
              cases none
            · intro failing
              rcases failing with ⟨thrown, won⟩
              cases won
          apply settled.resumed later
          · intro _
            exact heard
          · intro _ reason' ended same
            rw [called] at same
            cases same
      | state state =>
        have later' := later.trans (elapse_later .action s.control.clock (s.control.during compute))
        cases checked : ((s.control.during compute).elapse .action s.control.clock).reason with
        | some stopped =>
          rw [assertActive_error checked]
          have heard : ¬ Unheard s (.resume compute send) := by
            apply unthrown
            intro computes
            -- It was neither aborted nor late.
            exfalso
            rw [computes.1] at reason
            unfold ReplayControl.elapse at checked
            split at checked
            · rename_i timeout found
              split at checked
              · rename_i late
                have early := computes.2.2 timeout found
                simp only [ReplayControl.during, add_sub_cancel_left] at late
                exact absurd late (Rat.not_le.mpr early)
              · rw [reason] at checked
                cases checked
            · rw [reason] at checked
              cases checked
          apply failed_resumed watched asked (.inl rfl) later'
          · intro _
            exact heard
          · intro _ reason' same
            rw [checked] at same
            cases same
            exact ⟨fun _ => heard, fun _ => rfl⟩
        | none =>
          rw [assertActive_ok checked]
          have inTime : InTime s.control compute.elapsed := by
            have early := elapse_inTime checked
            simp only [ReplayControl.during, add_sub_cancel_left] at early
            exact early
          have called := (elapse_later .action s.control.clock (s.control.during compute)).active checked
          have unaborted : compute.aborts = none := by
            rw [reason, Option.map_eq_none_iff] at called
            exact called
          have early : InTime ((s.control.during compute).elapse .action s.control.clock) compute.elapsed :=
            fun timeout found => inTime timeout (later'.actionTimeout ▸ found)
          have stated : stateOf (.ok (.ready state) : Answer ω) = some state := rfl
          have resumed := report_stated (s := { s with control := (s.control.during compute).elapse .action s.control.clock })
            send watched asked stated early
          have whole := resumed.before later' checked
          show Resumed s _ ((report msg (.ok (.ready state)) compute.elapsed send
              { s with control := (s.control.during compute).elapse .action s.control.clock }).1,
            noticed s.control ((s.control.during compute).elapse .action s.control.clock) ++
              (report msg (.ok (.ready state)) compute.elapsed send
                { s with control := (s.control.during compute).elapse .action s.control.clock }).2)
          rw [noticed_active checked]
          apply whole.congr
          constructor
          · intro heard
            apply unthrown
            intro _
            exact heard checked
          · intro heard _
            by_contra throws
            exact heard (.sync phase aborted ⟨msg, read, asked⟩ ⟨unaborted, ⟨state, result⟩, inTime⟩ throws)

theorem Unheard.phase {compute : Calling ω Computed} (unheard : Unheard s (.resume compute send)) :
    (∃ line, s.phase = .received line) ∨ ∃ msg state took, s.phase = .computed msg state took := by
  cases unheard with
  | message phase => exact .inl ⟨_, phase⟩
  | computer phase => exact .inl ⟨_, phase⟩
  | sync phase => exact .inl ⟨_, phase⟩
  | promised phase => exact .inr ⟨_, _, _, phase⟩

omit [NumberConversion] in
/-- What `run` comes to: the value, where the signal is not aborted, or a rejection, or the reason. -/
theorem awaited_cases {ρ : Type} (kind : ControlledKind) (started : Rat) (winner : Machine.Winner (Outside ω) ρ)
    (control : ReplayControl ω) :
    (∃ value, winner = .call (.ok value) ∧ (control.elapse kind started).reason = none ∧
      control.awaited kind started winner = (.ok value, control.elapse kind started)) ∨
    ∃ thrown after, control.awaited kind started winner = (.error thrown, after) ∧ Later control after ∧
      (winner = .call (.error thrown) ∨ ∀ reason, after.reason = some reason → thrown = .control reason) := by
  have aborted (reason : ReplayControlError ω) (same : control.reason = some reason) : control.thrown = .control reason := by
    simp [ReplayControl.thrown, same]
  unfold ReplayControl.awaited
  cases winner with
  | call result =>
    cases result with
    | error thrown => exact .inr ⟨thrown, control, rfl, Later.refl control, .inl rfl⟩
    | ok value =>
      cases checked : (control.elapse kind started).reason with
      | none =>
        refine .inl ⟨value, rfl, rfl, ?_⟩
        show ((control.elapse kind started).assertActive.map fun _ => value, control.elapse kind started) = _
        rw [assertActive_ok checked]
        rfl
      | some reason =>
        refine .inr ⟨.control reason, control.elapse kind started, ?_, elapse_later kind started control, .inr ?_⟩
        · show ((control.elapse kind started).assertActive.map fun _ => value, control.elapse kind started) = _
          rw [assertActive_error checked]
          rfl
        · intro reason' same
          rw [checked] at same
          cases same
          rfl
  | timer => exact .inr ⟨control.thrown, control, rfl, Later.refl control, .inr aborted⟩
  | abort => exact .inr ⟨control.thrown, control, rfl, Later.refl control, .inr aborted⟩

theorem resume_resumed {compute : Calling ω Computed} {next : Next ω} (proper : Proper s)
    (resumed : resume compute send s = some next) : Resumed s (¬ Unheard s (.resume compute send)) next := by
  have watched := proper.watched
  have holds := proper.phase
  unfold resume at resumed
  cases phase : s.phase with
  | starting =>
    rw [phase] at resumed
    cases resumed
    have heard : ¬ Unheard s (.resume compute send) := by
      intro unheard
      rcases unheard.phase with ⟨_, other⟩ | ⟨_, _, _, other⟩ <;> cases phase.symm.trans other
    apply (receive_settled watched).still
    · intro _
      exact heard
    · intro _ reason ended aborted finished
      cases (receive_aborted aborted).symm.trans finished
      exact ⟨fun _ => heard, fun _ => rfl⟩
  | receiving started race =>
    rw [phase] at resumed
    have heard : ¬ Unheard s (.resume compute send) := by
      intro unheard
      rcases unheard.phase with ⟨_, other⟩ | ⟨_, _, _, other⟩ <;> cases phase.symm.trans other
    rcases Option.map_eq_some_iff.mp resumed with ⟨winner, won, same⟩
    rcases awaited_cases .receive started winner s.control with
      ⟨line, _, active, awaited⟩ | ⟨thrown, control, awaited, later, reason⟩
    · rw [awaited] at same
      subst same
      have settled : Settled { s with control := s.control.elapse .receive started }
          ({ s with control := s.control.elapse .receive started, phase := .received line }, []) :=
        ⟨rfl, ⟨watched, True.intro⟩, rfl, fun _ => ⟨active, fun failing => failing⟩⟩
      apply settled.resumed (elapse_later .receive started s.control)
      · intro _
        exact heard
      · intro _ reason ended aborted
        rw [active] at aborted
        cases aborted
    · rw [awaited] at same
      subst same
      apply (fail_settled (s := { s with control }) watched (.thrown thrown)).resumed later
      · intro _
        exact heard
      · intro failing reason' ended aborted finished
        cases finished
        refine ⟨fun _ => heard, fun _ => ?_⟩
        rcases reason with rejected | reason
        · refine absurd ?_ failing
          rw [phase]
          exact ⟨thrown, won.trans (congrArg some rejected)⟩
        · rw [reason reason' aborted]
  | received line =>
    rw [phase] at resumed
    cases resumed
    by_cases asks : Asks (ω := ω) line
    · exact handle_asked watched phase asks
    · exact handle_unasked watched phase asks
  | computing msg started race =>
    rcases s with ⟨current, loop, _⟩
    cases phase
    have heard : ¬ Unheard ⟨current, loop, .computing msg started race⟩ (.resume compute send) := by
      intro unheard
      rcases unheard.phase with ⟨_, other⟩ | ⟨_, _, _, other⟩ <;> cases other
    rcases Option.map_eq_some_iff.mp resumed with ⟨winner, won, same⟩
    rcases awaited_cases .action started winner current with
      ⟨⟨state, came⟩, value, active, awaited⟩ | ⟨thrown, control, awaited, later, reason⟩
    · rw [awaited] at same
      subst same
      have later := elapse_later .action started current
      have settledBy := holds.2.1.sound.won _ (won.trans (congrArg some value))
      have before := holds.2.2 state came settledBy
      have inTime : InTime current (came - started) := by
        intro timeout found
        have early := elapse_inTime active timeout found
        exact lt_of_le_of_lt (sub_le_sub_right before started) early
      have settled : Settled ⟨current.elapse .action started, loop, .computing msg started race⟩
          (⟨current.elapse .action started, loop, .computed msg state (came - started)⟩, []) := by
        refine ⟨rfl, ⟨watched, holds.1, fun timeout found => ?_⟩, rfl, fun _ => ⟨active, fun failing => failing⟩⟩
        exact inTime timeout (later.actionTimeout ▸ found)
      apply settled.resumed later
      · intro _
        exact heard
      · intro _ reason ended aborted
        rw [active] at aborted
        cases aborted
    · rw [awaited] at same
      subst same
      apply failed_resumed watched holds.1 (.inr rfl) later
      · intro _
        exact heard
      · intro failing reason' aborted
        refine ⟨fun _ => heard, fun _ => ?_⟩
        rcases reason with rejected | reason
        · refine absurd ?_ failing
          exact ⟨thrown, won.trans (congrArg some rejected)⟩
        · rw [reason reason' aborted]
  | computed msg state took =>
    rw [phase] at resumed holds
    cases resumed
    have stated : stateOf (.ok (.pending (.ok state)) : Answer ω) = some state := rfl
    have reported := report_stated send watched holds.1 stated holds.2
    apply reported.congr
    constructor
    · intro heard unheard
      cases unheard with
      | promised _ active throws => exact throws (heard active)
      | message other => cases phase.symm.trans other
      | computer other => cases phase.symm.trans other
      | sync other => cases phase.symm.trans other
    · intro heard active
      by_contra throws
      exact heard (.promised phase active throws)
  | finished ended =>
    rw [phase] at resumed
    cases resumed

end

end Mirror.Replay.Controlled
