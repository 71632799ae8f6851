import MirrorECMA.Replay.Control

namespace Mirror.Replay.Controlled

open ECMA Mirror.Protocol
open Machine.Throwing (Ends ends_bind ends_get ends_modify ends_pure)

variable {ω : Type}

/-! ### A round of the loop -/

/-- The loop of `replayLoop` has a recorder and no tracker. -/
structure Watched (loop : Loop) : Prop where
  untracked : loop.matchedEvidence = none
  recorded : loop.progress.isSome = true

theorem withEvidence_watched {loop : Loop} (watched : Watched loop) (method : MatchedEvidenceTracker.Method Unit)
    {Q : Unit → Loop → Prop} {E : Failure ω → Loop → Prop} :
    Ends (withEvidence method : Looped ω Unit) Q E loop ↔ Q () loop := by
  unfold withEvidence
  simp only [ends_bind, ends_get, watched.untracked]
  exact Iff.rfl

theorem withProgress_ends {loop : Loop} (change : ReplayRecorder → ReplayRecorder) {Q : Unit → Loop → Prop}
    {E : Failure ω → Loop → Prop} :
    Ends (withProgress change : Looped ω Unit) Q E loop ↔ Q () { loop with progress := loop.progress.map change } := Iff.rfl

theorem Watched.progress {loop : Loop} (watched : Watched loop) (change : ReplayRecorder → ReplayRecorder) :
    Watched { loop with progress := loop.progress.map change } :=
  ⟨watched.untracked, by simp [watched.recorded]⟩

theorem interrupted_watched {loop : Loop} (watched : Watched loop) : Watched (interrupted loop) :=
  ⟨by simp [interrupted, watched.untracked], watched.recorded⟩

/-- How a round fails whose computer has been asked. -/
def verdict (answer : Answer ω) (send : Calling ω Unit) (control : ReplayControl ω) : Option (Failure (Outside ω)) :=
  match answer with
  | .error failure | .ok (.pending (.error failure)) => some failure
  | .ok (.ready _) | .ok (.pending (.ok _)) =>
    (control.reason.map fun error => .thrown (.control error)) <|> (Round.failure send).map .thrown

section

variable [NumberText] {answer : Answer ω} {send : Calling ω Unit} {control : ReplayControl ω} {loop : Loop}

theorem assertActiveAndSend_ends (answer : Answer ω) (send : Calling ω Unit) (control : ReplayControl ω) (watched : Watched loop) :
    Ends (assertActiveAndSend (roundOf answer send control))
      (fun _ after => Watched after ∧
        (control.reason.map fun error => (.thrown (.control error) : Failure (Outside ω))) = none ∧ Round.failure send = none)
      (fun failure after => Watched after ∧
        ((control.reason.map fun error => .thrown (.control error)) <|> (Round.failure send).map .thrown) = some failure)
      loop := by
  unfold assertActiveAndSend roundOf
  rcases Option.isSome_iff_exists.mp watched.recorded with ⟨recorder, recorded⟩
  simp only [ends_bind, ends_get, recorded]
  cases control.reason with
  | some error => exact ⟨watched, rfl⟩
  | none =>
    cases Round.failure send with
    | some error => exact ⟨watched, rfl⟩
    | none => exact ⟨⟨watched.untracked, watched.recorded⟩, rfl, rfl⟩

theorem reportStep_ends (answer : Answer ω) (send : Calling ω Unit) (control : ReplayControl ω) (watched : Watched loop) (action : Raw)
    (payload : Payload Any) (previous : State) :
    Ends (reportStep given (roundOf answer send control) action payload previous)
      (fun _ after => Watched after ∧ verdict answer send control = none)
      (fun failure after => Watched after ∧ verdict answer send control = some failure) loop := by
  have sends (state : State) (same : verdict answer send control =
      ((control.reason.map fun error => .thrown (.control error)) <|> (Round.failure send).map .thrown)) :
      Ends (assertActiveAndSend (roundOf answer send control))
        (fun _ after => Watched after ∧ verdict answer send control = none)
        (fun failure after => Watched after ∧ verdict answer send control = some failure) { loop with state } := by
    rw [same]
    have still : Watched { loop with state } := ⟨watched.untracked, watched.recorded⟩
    apply (assertActiveAndSend_ends answer send control still).mono
    · intro _ after ended
      refine ⟨ended.1, ?_⟩
      rw [ended.2.1, ended.2.2]
      rfl
    · intro _ after ended
      exact ended
  unfold reportStep
  rw [ends_bind, ends_checked]
  constructor
  · intro step started
    have asked : answer = .ok step := started
    subst asked
    cases step with
    | ready state => exact sends state rfl
    | pending pending =>
      rw [ends_bind, ends_checked]
      constructor
      · intro state comes
        subst comes
        simp only [ends_bind, ends_modify, ends_checked]
        refine ⟨fun _ _ => sends state rfl, fun failure thrown => ?_⟩
        cases thrown
      · intro failure fails
        subst fails
        exact ⟨watched, rfl⟩
  · intro failure fails
    have asked : answer = .error failure := fails
    subst asked
    exact ⟨watched, rfl⟩

/-- The message ends the replay. -/
def final : AnyMessage → Bool
  | .stepOk | .initialState _ _ | .nextStep _ _ => false
  | _ => true

/-- A failure that is none of code outside. -/
def Own : Failure (Outside ω) → Prop
  | .thrown _ => False
  | _ => True

theorem own_ofThrown (thrown : Thrown) : Own (Failure.ofThrown thrown : Failure (Outside ω)) := by
  cases thrown <;> exact True.intro

theorem own_errorOf (error : Raw) : Own (errorOf error : Failure (Outside ω)) := by
  unfold errorOf
  split
  · exact True.intro
  · split <;> exact True.intro

theorem mapError_own {α : Type} {result : Except Thrown α} {failure : Failure (Outside ω)}
    (thrown : result.mapError .ofThrown = .error failure) : Own failure := by
  cases result with
  | ok value => cases thrown
  | error error =>
    cases thrown
    exact own_ofThrown error

theorem onStepMismatch_ends (watched : Watched loop) (msgAction : Raw) (expected actual : Payload Any)
    (hints : Option (List (DiffHint Any))) :
    Ends (onStepMismatch {} msgAction expected actual hints : Looped (Outside ω) Unit) (fun _ _ => False)
      (fun failure after => Watched after ∧ Own failure) loop := by
  unfold onStepMismatch
  rw [ends_bind, withEvidence_watched watched]
  rcases Option.isSome_iff_exists.mp watched.recorded with ⟨recorder, recorded⟩
  simp only [ends_bind, ends_get, recorded, ends_checked, ends_raise]
  exact ⟨fun _ _ => ⟨watched, True.intro⟩, fun failure thrown => ⟨watched, mapError_own thrown⟩⟩

/-- What a message of the computer makes of the loop. -/
theorem dispatch_asked (answer : Answer ω) (send : Calling ω Unit) (control : ReplayControl ω) (watched : Watched loop) {msg : AnyMessage} (asked : (stimulus msg).isSome = true) :
    Ends (dispatch given {} (roundOf answer send control) msg)
      (fun report after => Watched after ∧ report = none ∧ verdict answer send control = none)
      (fun failure after => Watched after ∧ verdict answer send control = some failure) loop := by
  have reports (action : Raw) (after : Loop) (count : Loop → Loop) (kept : ∀ loop, Watched loop → Watched (count loop))
      (ended : Watched after ∧ verdict answer send control = none) :
      Ends (do
          withEvidence MatchedEvidenceTracker.reported
          withProgress (·.reported action)
          modify count
          return none : Looped (Outside ω) (Option CompiledReplayReport))
        (fun report after => Watched after ∧ report = none ∧ verdict answer send control = none)
        (fun failure after => Watched after ∧ verdict answer send control = some failure) after := by
    simp only [ends_bind, withEvidence_watched ended.1, withProgress_ends, ends_modify, ends_pure]
    exact ⟨kept _ (ended.1.progress _), True.intro, ended.2⟩
  cases msg with
  | initialState action payload =>
    simp only [dispatch, onInitialState, bind_assoc]
    rw [ends_bind, withEvidence_watched watched]
    simp only [ends_bind, withProgress_ends, ends_modify]
    apply (reportStep_ends answer send control _ action payload []).mono
    · intro _ after ended
      have told := reports action after (fun loop => { loop with acceptedTraces := loop.acceptedTraces + 1 })
        (fun _ kept => ⟨kept.untracked, kept.recorded⟩) ended
      simp only [ends_bind] at told
      exact told
    · intro failure after ended
      exact ended
    · exact ⟨watched.untracked, (watched.progress _).recorded⟩
  | nextStep action payload =>
    simp only [dispatch, onNextStep, bind_assoc]
    rw [ends_bind, withEvidence_watched watched]
    simp only [ends_bind, withProgress_ends, ends_modify, ends_get]
    apply (reportStep_ends answer send control _ action payload _).mono
    · intro _ after ended
      have told := reports action after (fun loop => { loop with acceptedSteps := loop.acceptedSteps + 1 })
        (fun _ kept => ⟨kept.untracked, kept.recorded⟩) ended
      simp only [ends_bind] at told
      exact told
    · intro failure after ended
      exact ended
    · exact ⟨watched.untracked, (watched.progress _).recorded⟩
  | _ => cases asked

/-- What any other message makes of it: only an acknowledgement lets it go on, and it fails with an error of its own. -/
theorem dispatch_unasked (answer : Answer ω) (send : Calling ω Unit) (control : ReplayControl ω) (watched : Watched loop) {msg : AnyMessage} (unasked : (stimulus msg).isSome = false) :
    Ends (dispatch given {} (roundOf answer send control) msg)
      (fun report after => Watched after ∧ (report = none ↔ final msg = false))
      (fun failure after => Watched after ∧ Own failure ∧ final msg = true) loop := by
  cases msg with
  | initialState action payload => cases unasked
  | nextStep action payload => cases unasked
  | stepOk =>
    simp only [dispatch, ends_bind, withEvidence_watched watched, withProgress_ends, ends_pure]
    exact ⟨watched.progress _, by simp [final]⟩
  | allStepsDone =>
    simp only [dispatch, ends_bind, withEvidence_watched watched, ends_get, ends_pure]
    exact ⟨watched, by simp [final]⟩
  | stepMismatch action expected actual hints =>
    simp only [dispatch, ends_bind]
    apply (onStepMismatch_ends watched action expected actual hints).mono
    · intro _ _ never
      exact never.elim
    · intro failure after ended
      exact ⟨ended.1, ended.2, rfl⟩
  | protocolError error => exact ⟨watched, own_errorOf error, rfl⟩
  | registerError error =>
    simp only [dispatch]
    cases (rawText error : Except Thrown JsString) <;> exact ⟨watched, True.intro, rfl⟩
  | _ => exact ⟨watched, True.intro, rfl⟩

theorem turn_asked {s : Replaying ω} (answer : Answer ω) (send : Calling ω Unit) (watched : Watched s.loop) {msg : AnyMessage} (asked : (stimulus msg).isSome = true) :
    Watched (turn msg answer send s).2 ∧
      (turn msg answer send s).1 = match verdict answer send s.control with
        | none => .ok none
        | some failure => .error failure := by
  have ended := dispatch_asked answer send s.control watched asked
  unfold Ends at ended
  unfold turn
  split at ended
  · rename_i report after run
    rw [run, ended.2.2, ended.2.1]
    exact ⟨ended.1, rfl⟩
  · rename_i failure after run
    rw [run, ended.2]
    exact ⟨ended.1, rfl⟩

theorem turn_unasked {s : Replaying ω} (answer : Answer ω) (send : Calling ω Unit) (watched : Watched s.loop) {msg : AnyMessage}
    (unasked : (stimulus msg).isSome = false) :
    Watched (turn msg answer send s).2 ∧
      ((turn msg answer send s).1 = .ok none ∧ final msg = false ∨
        (∃ report, (turn msg answer send s).1 = .ok (some report)) ∧ final msg = true ∨
        (∃ failure, (turn msg answer send s).1 = .error failure ∧ Own failure) ∧ final msg = true) := by
  have ended := dispatch_unasked answer send s.control watched unasked
  unfold Ends at ended
  unfold turn
  split at ended
  · rename_i report after run
    rw [run]
    refine ⟨ended.1, ?_⟩
    cases report with
    | none => exact .inl ⟨rfl, ended.2.mp rfl⟩
    | some report =>
      have last : final msg = true := by
        cases last : final msg with
        | true => rfl
        | false => cases ended.2.mpr last
      exact .inr (.inl ⟨⟨report, rfl⟩, last⟩)
  · rename_i failure after run
    rw [run]
    exact ⟨ended.1, .inr (.inr ⟨⟨failure, rfl, ended.2.1⟩, ended.2.2⟩)⟩

end

/-! ### What holds in every state -/

/-- What is awaited has been rejected. -/
def Failing : Phase ω → Prop
  | .receiving _ race => ∃ thrown, race.winner = some (.call (.error thrown))
  | .computing _ _ race => ∃ thrown, race.winner = some (.call (.error thrown))
  | _ => False

def Over : Phase ω → Prop
  | .finished _ => True
  | _ => False

/-- A computer has not taken too long. -/
def InTime (control : ReplayControl ω) (took : Rat) : Prop :=
  ∀ timeout, control.actionTimeout = some timeout → took < timeout.ms

/-- A race is over once the signal is aborted. -/
structure Attended {ρ : Type} (control : ReplayControl ω) (race : Machine.Race (Outside ω) ρ) : Prop where
  sound : race.Sound
  heard : control.reason.isSome = true → race.winner.isSome = true

def ProperPhase (control : ReplayControl ω) : Phase ω → Prop
  | .receiving _ race => Attended control race
  | .computing msg _ race => (stimulus msg).isSome = true ∧ Attended control race ∧
    ∀ state came, race.settled = some (.ok (state, came)) → came ≤ control.clock
  | .computed msg _ took => (stimulus msg).isSome = true ∧ InTime control took
  | _ => True

structure Proper (s : Replaying ω) : Prop where
  watched : Watched s.loop
  phase : ProperPhase s.control s.phase

def finale : Phase ω → List (Event ω)
  | .finished ended => [.ended ended]
  | _ => []

/-- What comes of code that leaves the signal as it is. -/
structure Settled (s : Replaying ω) (next : Next ω) : Prop where
  control : next.1.control = s.control
  proper : Proper next.1
  seen : next.2 = finale next.1.phase
  goes : ¬ Over next.1.phase → s.control.reason = none ∧ ¬ Failing next.1.phase

theorem start_attended {ρ : Type} {control : ReplayControl ω} (active : control.reason = none) :
    Attended control (.start : Machine.Race (Outside ω) ρ) :=
  ⟨Machine.Race.start_sound, fun aborted => by simp [active] at aborted⟩

theorem fail_settled {s : Replaying ω} (watched : Watched s.loop) (failure : Failure (Outside ω)) :
    Settled s (fail failure s) :=
  ⟨rfl, ⟨interrupted_watched watched, True.intro⟩, rfl, fun unfinished => absurd True.intro unfinished⟩

theorem receive_settled {s : Replaying ω} (watched : Watched s.loop) : Settled s (receive s) := by
  unfold receive
  split
  · exact fail_settled watched _
  · rename_i active
    have open_ : s.control.reason = none := by simpa using active
    refine ⟨rfl, ⟨watched, start_attended open_⟩, rfl, fun _ => ⟨open_, fun failing => ?_⟩⟩
    rcases failing with ⟨thrown, won⟩
    cases won

theorem conclude_settled {s : Replaying ω} {ended : Except (Failure (Outside ω)) (Option CompiledReplayReport) × Loop}
    (watched : Watched ended.2) : Settled s (conclude s ended) := by
  rcases ended with ⟨failure | report, loop⟩
  · have settled := fail_settled (s := { s with loop }) watched failure
    exact ⟨settled.control, settled.proper, settled.seen, settled.goes⟩
  · cases report with
    | none =>
      have settled := receive_settled (s := { s with loop }) watched
      exact ⟨settled.control, settled.proper, settled.seen, settled.goes⟩
    | some report => exact ⟨rfl, ⟨watched, True.intro⟩, rfl, fun unfinished => absurd True.intro unfinished⟩

/-- An abort is heard by the next receive. -/
theorem receive_aborted {s : Replaying ω} {reason : ReplayControlError ω} (aborted : s.control.reason = some reason) :
    (receive s).1.phase = .finished (.threw (.thrown (.control reason))) := by
  simp [receive, aborted, fail, finish, ReplayControl.thrown]

end Mirror.Replay.Controlled
