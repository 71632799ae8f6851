import MirrorECMA.Machine.History
import MirrorECMA.Replay.DeadlineRace

namespace Mirror.Replay.DeadlineRace

open Machine (AtMostOnce Run Transition exists_last reaches reaches_run)

variable {ω α : Type}

abbrev Trace (ω α : Type) := List (Transition (World ω α) (Event ω α) (Option (Outcome ω α)))

/-- The outcome is the abort. -/
def Reports (reason : AbortReason ω) : Outcome ω α → Prop
  | .threw failure => failure = .cancelled reason
  | .settled result => result = .error reason.failure

/-- Why a step ends the wait as it does, with the signal and the clock as they are then. -/
inductive Justified (timeoutMs : Nat) (stage : ReplayDeadlineStage) (deadline : Rat) (event : Event ω α)
    (before after : World ω α) : Outcome ω α → Prop
  | aborted {reason : AbortReason ω} {outcome : Outcome ω α} : after.reason = some reason → Reports reason outcome →
    Justified timeoutMs stage deadline event before after outcome
  | late : after.reason = none → (event = .timer ∨ ∃ now, event = .react now ∧ deadline ≤ now) →
    Justified timeoutMs stage deadline event before after (.settled (.error (.deadline stage timeoutMs)))
  | delivered {now : Rat} {result : Except (Failure ω) α} : after.reason = none → event = .react now → now < deadline →
    before.operation = some result → Justified timeoutMs stage deadline event before after (.settled result)

/-- While nothing has settled the promise, the timer is set, and an abort is on its way. -/
structure Wait.Proper (wait : Wait) (world : World ω α) : Prop where
  pending : wait.settled = false → wait.armed = true ∧ wait.listening = world.signal.isSome ∧ wait.dispatched = world.reason.isSome
  past : wait.settled = true → wait.armed = false ∧ wait.listening = false ∧ wait.dispatched = false

def Proper (world : World ω α) : Prop :=
  match world.phase with
  | .idle => True
  | .threw => world.handled = true
  | .returned wait => world.handled = true ∧ wait.Proper world

section

variable {timeoutMs : Nat} {stage : ReplayDeadlineStage} {world after : World ω α} {event : Event ω α}
  {outcome : Option (Outcome ω α)}

/-- An end that has been reached is kept, and it is reached once. -/
theorem finish_spec {wait : Wait} {result : Except (Failure ω) α} (handled : world.handled = true)
    (past : wait.settled = true → wait.armed = false ∧ wait.listening = false ∧ wait.dispatched = false)
    (finished : (after, outcome) = finish world wait result) :
    Proper after ∧ after.Ended ∧ after.reason = world.reason ∧ (∃ last, after.phase = .returned last ∧ last.deadline = wait.deadline) ∧
      ((wait.settled = true ∧ outcome = none) ∨ (wait.settled = false ∧ outcome = some (.settled result))) := by
  unfold finish at finished
  cases settled : wait.settled with
  | true =>
    rw [settled, if_pos rfl] at finished
    cases finished
    have kept : wait.Proper world := ⟨fun pending => absurd (settled.symm.trans pending) (by simp), past⟩
    exact ⟨⟨handled, kept.pending, kept.past⟩, settled, rfl, ⟨_, rfl, rfl⟩, .inl ⟨rfl, rfl⟩⟩
  | false =>
    rw [settled, if_neg Bool.false_ne_true] at finished
    cases finished
    exact ⟨⟨handled, fun pending => absurd pending (by simp), fun _ => ⟨rfl, rfl, rfl⟩⟩, rfl, rfl, ⟨_, rfl, rfl⟩,
      .inr ⟨rfl, rfl⟩⟩

/-- What a step keeps, and how it ends a wait. -/
structure Stepped (timeoutMs : Nat) (stage : ReplayDeadlineStage) (world : World ω α) (event : Event ω α) (after : World ω α)
    (outcome : Option (Outcome ω α)) : Prop where
  proper : Proper after
  silent : outcome = none → (after.Ended ↔ world.Ended)
  ends : outcome.isSome = true → ¬ world.Ended ∧ after.Ended
  justified : ∀ made, outcome = some made →
    (∃ wait, world.phase = .returned wait ∧ Justified timeoutMs stage wait.deadline event world after made) ∨
    (∃ reason, after.reason = some reason ∧ Reports reason made)
  due : event = .timer ∨ event = .notify → after.Ended
  /-- Where the deadline of a wait comes from. -/
  deadline : ∀ last, after.phase = .returned last → (∃ wait, world.phase = .returned wait ∧ last.deadline = wait.deadline) ∨
    ∃ start now during, event = .call start now during ∧ last.deadline = start + timeoutMs
  called : (∃ start now during, event = .call start now during) → world.phase = .idle
  idle : after.phase = .idle ↔ world.phase = .idle ∧ ¬ ∃ start now during, event = .call start now during

theorem ended_returned {wait : Wait} (phase : world.phase = .returned wait) : world.Ended ↔ wait.settled = true := by
  unfold World.Ended
  rw [phase]

/-- A step of a handler. -/
theorem stepped_finish {base : World ω α} {wait consumed : Wait} {result : Except (Failure ω) α} (proper : Proper world)
    (phase : world.phase = .returned wait) (finished : (after, outcome) = finish base consumed result)
    (handled : base.handled = world.handled) (same : consumed.settled = wait.settled)
    (sameDeadline : consumed.deadline = wait.deadline)
    (past : wait.armed = false ∧ wait.listening = false ∧ wait.dispatched = false →
      consumed.armed = false ∧ consumed.listening = false ∧ consumed.dispatched = false)
    (justified : wait.settled = false → after.reason = base.reason →
      Justified timeoutMs stage wait.deadline event world after (.settled result))
    (other : ∀ start now during, event ≠ .call start now during) : Stepped timeoutMs stage world event after outcome := by
  simp only [Proper, phase] at proper
  rcases finish_spec (handled.trans proper.1) (fun settled => past (proper.2.past (same ▸ settled))) finished with
    ⟨kept, ended, reason, ⟨last, lastPhase, lastDeadline⟩, made⟩
  have before := ended_returned phase
  rw [← same] at before
  refine ⟨kept, fun silent => ?_, fun loud => ?_, fun outcome' made' => .inl ⟨wait, phase, ?_⟩, fun _ => ended, fun other' at_ => ?_,
    fun called => ?_, ?_⟩
  · rcases made with ⟨settled, _⟩ | ⟨_, some_⟩
    · exact iff_of_true ended (before.mpr settled)
    · rw [silent] at some_
      cases some_
  · rcases made with ⟨_, none⟩ | ⟨pending, _⟩
    · rw [none] at loud
      cases loud
    · exact ⟨fun ended => absurd (pending.symm.trans (before.mp ended)) (by simp), ended⟩
  · rcases made with ⟨_, none⟩ | ⟨pending, some_⟩
    · rw [none] at made'
      cases made'
    · cases made'.symm.trans some_
      exact justified (same.symm.trans pending) reason
  · cases lastPhase.symm.trans at_
    exact .inl ⟨wait, phase, lastDeadline.trans sameDeadline⟩
  · rcases called with ⟨start, now, during, call⟩
    exact absurd call (other start now during)
  · rw [phase, lastPhase]
    simp

/-- A step that only changes what the wait is for. -/
theorem stepped_quiet (proper : Proper after) (ended : after.Ended ↔ world.Ended)
    (quiet : (∃ result, event = .settle result) ∨ ∃ reason, event = .abort reason)
    (idle : after.phase = .idle ↔ world.phase = .idle)
    (deadline : ∀ last, after.phase = .returned last → ∃ wait, world.phase = .returned wait ∧ last.deadline = wait.deadline) :
    Stepped timeoutMs stage world event after none := by
  refine ⟨proper, fun _ => ended, fun loud => (by cases loud), fun _ made => (by cases made), fun due => ?_,
    fun last phase => .inl (deadline last phase), fun called => ?_, ?_⟩
  · rcases quiet with ⟨_, rfl⟩ | ⟨_, rfl⟩ <;> rcases due with same | same <;> cases same
  · rcases called with ⟨_, _, _, call⟩
    rcases quiet with ⟨_, rfl⟩ | ⟨_, rfl⟩ <;> cases call
  · rw [idle]
    rcases quiet with ⟨_, rfl⟩ | ⟨_, rfl⟩ <;> simp

theorem stepped_call (start now : Rat) (during : Option (AbortReason ω)) (idle : world.phase = .idle)
    (called : (after, outcome) = awaitReplayOperation world timeoutMs start now during) :
    Stepped timeoutMs stage world (.call start now during) after outcome := by
  have unended : ¬ world.Ended := by
    unfold World.Ended
    rw [idle]
    exact id
  rcases call_cases world timeoutMs start now during with ⟨reason, aborted, same⟩ | ⟨reason, _, _, same⟩ | ⟨free, same⟩
  · cases called.trans same
    exact ⟨rfl, fun silent => (by cases silent), fun _ => ⟨unended, trivial⟩,
      fun _ made => (by cases made; exact .inr ⟨reason, aborted, rfl⟩), fun due => (by rcases due with due | due <;> cases due),
      fun _ phase => (by cases phase), fun _ => idle, by simp⟩
  · rcases finish_spec rfl (fun settled => (by cases settled)) (called.trans same) with
      ⟨proper, ended, reasons, ⟨last, lastPhase, lastDeadline⟩, made⟩
    have shown : outcome = some (.settled (.error reason.failure)) := by
      rcases made with ⟨settled, _⟩ | ⟨_, made⟩
      · cases settled
      · exact made
    refine ⟨proper, fun silent => ?_, fun _ => ⟨unended, ended⟩, fun made same' => .inr ⟨reason, reasons, ?_⟩, fun _ => ended,
      fun at_ phase => .inr ⟨start, now, during, rfl, ?_⟩, fun _ => idle, ?_⟩
    · rw [shown] at silent
      cases silent
    · cases shown.symm.trans same'
      rfl
    · cases lastPhase.symm.trans phase
      exact lastDeadline
    · rw [lastPhase]
      simp
  · cases called.trans same
    refine ⟨⟨rfl, fun _ => ⟨rfl, rfl, ?_⟩, fun settled => (by cases settled)⟩, fun _ => iff_of_false ?_ unended,
      fun loud => (by cases loud), fun _ made => (by cases made), fun due => (by rcases due with due | due <;> cases due),
      fun _ phase => .inr ⟨start, now, during, rfl, (by cases phase; rfl)⟩, fun _ => idle, by simp⟩
    · exact (Option.isSome_eq_false_iff.mpr (Option.isNone_iff_eq_none.mpr free)).symm
    · exact Bool.false_ne_true

theorem step_stepped (proper : Proper world) (taken : step timeoutMs stage world event = some (after, outcome)) :
    Stepped timeoutMs stage world event after outcome := by
  rcases step_cases taken with ⟨start, now, during, rfl, idle, _, _, called⟩ | ⟨result, rfl, _, rfl, ⟨wait, phase, rfl⟩ | ⟨other, rfl⟩⟩ |
    ⟨reason, rfl, quiet, rfl, ⟨wait, phase, rfl⟩ | ⟨other, rfl⟩⟩ | ⟨wait, reason, rfl, phase, _, aborted, finished⟩ |
    ⟨wait, now, result, rfl, phase, settled, finished⟩ | ⟨wait, rfl, phase, calm, finished⟩
  · exact stepped_call start now during idle called
  · have kept := proper
    simp only [Proper, phase] at kept
    exact stepped_quiet ⟨kept.1, kept.2.pending, kept.2.past⟩ (ended_returned phase).symm (.inl ⟨result, rfl⟩) (by simp [phase])
      fun last same => (by cases same; exact ⟨wait, phase, rfl⟩)
  · refine stepped_quiet ?_ Iff.rfl (.inl ⟨result, rfl⟩) Iff.rfl fun last same => absurd same (other last)
    unfold Proper at proper ⊢
    split
    · trivial
    · rename_i threw
      rw [threw] at proper
      exact proper
    · rename_i wait phase
      exact absurd phase (other wait)
  · have kept := proper
    simp only [Proper, phase] at kept
    refine stepped_quiet ⟨kept.1, fun pending => ?_, fun past => ?_⟩ (ended_returned phase).symm (.inr ⟨reason, rfl⟩)
      (by simp [phase]) fun last same => (by cases same; exact ⟨wait, phase, rfl⟩)
    · rcases kept.2.pending pending with ⟨armed, listening, _⟩
      rw [quiet] at listening
      exact ⟨armed, listening, listening⟩
    · rcases kept.2.past past with ⟨armed, listening, _⟩
      exact ⟨armed, listening, listening⟩
  · refine stepped_quiet ?_ Iff.rfl (.inr ⟨reason, rfl⟩) Iff.rfl fun last same => absurd same (other last)
    unfold Proper at proper ⊢
    split
    · trivial
    · rename_i threw
      rw [threw] at proper
      exact proper
    · rename_i wait phase
      exact absurd phase (other wait)
  · exact stepped_finish proper phase finished rfl rfl rfl (fun past => ⟨past.1, past.2.1, rfl⟩)
      (fun _ same => .aborted (same.trans aborted) rfl) (fun _ _ _ call => by cases call)
  · refine stepped_finish proper phase finished rfl rfl rfl id (fun _ same => ?_) (fun _ _ _ call => by cases call)
    have same : after.reason = world.reason := same
    unfold reaction
    cases aborted : world.reason with
    | some reason => exact .aborted (same.trans aborted) rfl
    | none =>
      dsimp only
      split
      · rename_i passed
        exact .late (same.trans aborted) (.inr ⟨now, rfl, passed⟩)
      · rename_i early
        exact .delivered (same.trans aborted) rfl (Rat.not_le.mp early) settled
  · have kept := proper
    simp only [Proper, phase] at kept
    refine stepped_finish proper phase finished rfl rfl rfl (fun past => ⟨rfl, past.2⟩) (fun pending same => ?_)
      (fun _ _ _ call => by cases call)
    -- an abort would be on its way, and no timer fires then
    have none : world.reason = none := by
      rcases kept.2.pending pending with ⟨_, _, onItsWay⟩
      rw [calm] at onItsWay
      exact Option.isNone_iff_eq_none.mp (Option.isSome_eq_false_iff.mp onItsWay.symm)
    exact .late (same.trans none) (.inl rfl)

/-! ### Whole runs -/

/-- The wait was asked for at this time. -/
def CalledAt (start : Rat) (trace : Trace ω α) : Prop := ∃ t ∈ trace, ∃ now during, t.input = .call start now during

structure Held (timeoutMs : Nat) (trace : Trace ω α) (world : World ω α) : Prop where
  proper : Proper world
  ended : world.Ended ↔ ∃ t ∈ trace, t.output.isSome = true
  idle : world.phase = .idle ↔ ¬ ∃ start, CalledAt start trace
  deadline : ∀ wait, world.phase = .returned wait → ∃ start, CalledAt start trace ∧ wait.deadline = start + timeoutMs

end

section

variable {timeoutMs : Nat} {stage : ReplayDeadlineStage} {signal : Option (Option (AbortReason ω))}
  {operation : Option (Except (Failure ω) α)} {clock : Rat} {trace : Trace ω α} {world : World ω α}

theorem calledAt_snoc {t : Transition (World ω α) (Event ω α) (Option (Outcome ω α))} {start : Rat} :
    CalledAt start (trace ++ [t]) ↔ CalledAt start trace ∨ ∃ now during, t.input = .call start now during := exists_last

theorem run_held (run : Run (step timeoutMs stage) (initial signal operation clock) trace world) :
    Held timeoutMs trace world := by
  refine run.invariant (P := Held timeoutMs) ?_ ?_
  · exact ⟨trivial, by simp [initial, World.Ended], by simp [initial, CalledAt], fun _ phase => (by cases phase)⟩
  · intro trace world event outcome after held taken
    have stepped := step_stepped held.proper taken
    refine ⟨stepped.proper, ?_, ?_, fun last phase => ?_⟩
    · rw [exists_last, ← held.ended]
      cases outcome with
      | none => simpa using stepped.silent rfl
      | some made => simpa using (stepped.ends rfl).2
    · rw [stepped.idle, held.idle, ← not_or]
      simp only [calledAt_snoc, exists_or]
    · rcases stepped.deadline last phase with ⟨wait, before, same⟩ | ⟨start, now, during, call, same⟩
      · rcases held.deadline wait before with ⟨start, called, due⟩
        exact ⟨start, calledAt_snoc.mpr (.inl called), same.trans due⟩
      · exact ⟨start, calledAt_snoc.mpr (.inr ⟨now, during, call⟩), same⟩

theorem ended_step {after : World ω α} {event : Event ω α} {outcome : Option (Outcome ω α)} (held : Held timeoutMs trace world)
    (taken : step timeoutMs stage world event = some (after, outcome)) (ended : world.Ended) : outcome = none ∧ after.Ended := by
  have stepped := step_stepped held.proper taken
  cases outcome with
  | none => exact ⟨rfl, (stepped.silent rfl).mpr ended⟩
  | some made => exact absurd ended (stepped.ends rfl).1

theorem finish_ended (world : World ω α) (wait : Wait) (result : Except (Failure ω) α) : (finish world wait result).1.Ended := by
  unfold finish
  split
  · assumption
  · exact rfl

/-- An open wait whose signal is not aborted ends with its timer. -/
theorem timer_ends {wait : Wait} (proper : Proper world) (phase : world.phase = .returned wait) (pending : wait.settled = false)
    (free : world.reason = none) : ∃ next, step timeoutMs stage world .timer = some next ∧ next.1.Ended := by
  simp only [Proper, phase] at proper
  rcases proper.2.pending pending with ⟨armed, _, calm⟩
  rw [free] at calm
  refine ⟨finish world { wait with armed := false } (.error (.deadline stage timeoutMs)), ?_, ?_⟩
  · simp only [step, phase, armed, calm]
    rfl
  · exact finish_ended _ _ _

/-- An open wait whose signal is aborted ends with the event that is on its way. -/
theorem notify_ends {wait : Wait} {reason : AbortReason ω} (proper : Proper world) (phase : world.phase = .returned wait)
    (pending : wait.settled = false) (aborted : world.reason = some reason) :
    ∃ next, step timeoutMs stage world .notify = some next ∧ next.1.Ended := by
  simp only [Proper, phase] at proper
  rcases proper.2.pending pending with ⟨_, _, onItsWay⟩
  rw [aborted] at onItsWay
  refine ⟨finish world { wait with dispatched := false } (.error reason.failure), ?_, ?_⟩
  · simp only [step, phase, onItsWay, aborted]
    rfl
  · exact finish_ended _ _ _

/-- The wait ends once, with the operation only in time and with the abort before the deadline; an abort and the timer end it,
and one of them is due as long as it is open. -/
structure Raced (timeoutMs : Nat) (stage : ReplayDeadlineStage) (trace : Trace ω α) (world : World ω α) : Prop where
  called : AtMostOnce (fun t => ∃ start now during, t.input = .call start now during) trace
  once : AtMostOnce (fun t => t.output.isSome = true) trace
  ended : world.Ended ↔ ∃ t ∈ trace, t.output.isSome = true
  justified : ∀ t ∈ trace, ∀ outcome, t.output = some outcome →
    ∃ start, CalledAt start trace ∧ Justified timeoutMs stage (start + timeoutMs) t.input t.before t.after outcome
  due : ∀ t ∈ trace, t.input = .timer ∨ t.input = .notify → world.Ended
  waiting : (∃ start, CalledAt start trace) → ¬ world.Ended →
    ∃ next, step timeoutMs stage world (if world.reason.isSome then .notify else .timer) = some next ∧ next.1.Ended
  handled : (∃ start, CalledAt start trace) → world.handled = true

theorem awaitReplayOperation_races (run : Run (step timeoutMs stage) (initial signal operation clock) trace world) :
    Raced timeoutMs stage trace world := by
  have held := run_held run
  refine ⟨?_, ?_, held.ended, ?_, ?_, ?_, ?_⟩
  · intro earlier t later whole call u member again
    subst whole
    rcases run.split with ⟨before, taken⟩
    have early := run_held before
    rcases again with ⟨start, now, during, input⟩
    exact early.idle.mp ((step_stepped early.proper taken).called call) ⟨start, u, member, now, during, input⟩
  · intro earlier t later whole made u member before
    subst whole
    rcases run.split with ⟨earlierRun, taken⟩
    have early := run_held earlierRun
    exact ((step_stepped early.proper taken).ends made).1 (early.ended.mpr ⟨u, member, before⟩)
  · intro t member outcome made
    rcases List.append_of_mem member with ⟨earlier, later, rfl⟩
    rcases run.split with ⟨earlierRun, taken⟩
    have early := run_held earlierRun
    have stepped := step_stepped early.proper taken
    rcases stepped.justified outcome made with ⟨wait, phase, justified⟩ | ⟨reason, aborted, reports⟩
    · rcases early.deadline wait phase with ⟨start, ⟨u, inside, call⟩, same⟩
      exact ⟨start, ⟨u, List.mem_append_left _ inside, call⟩, same ▸ justified⟩
    · have ended : world.Ended := held.ended.mpr ⟨t, member, by rw [made]; rfl⟩
      have called : ∃ start, CalledAt start (earlier ++ t :: later) := by
        by_contra none
        have idle := held.idle.mpr none
        unfold World.Ended at ended
        rw [idle] at ended
        exact ended
      rcases called with ⟨start, called⟩
      exact ⟨start, called, .aborted aborted reports⟩
  · intro t member due
    rcases List.append_of_mem member with ⟨earlier, later, rfl⟩
    rcases run.split with ⟨earlierRun, taken⟩
    have stepped := step_stepped (run_held earlierRun).proper taken
    have reached : ∃ u ∈ earlier ++ t :: later, u.output.isSome = true := by
      cases output : t.output with
      | some made => exact ⟨t, member, by rw [output]; rfl⟩
      | none =>
        have before := (run_held earlierRun).ended.mp ((stepped.silent output).mp (stepped.due due))
        rcases before with ⟨u, inside, made⟩
        exact ⟨u, List.mem_append_left _ inside, made⟩
    exact held.ended.mpr reached
  · intro called unended
    cases phase : world.phase with
    | idle => exact absurd called (held.idle.mp phase)
    | threw => exact absurd (by unfold World.Ended; rw [phase]; trivial) unended
    | returned wait =>
      have pending : wait.settled = false := by
        rw [ended_returned phase] at unended
        exact Bool.eq_false_iff.mpr unended
      cases aborted : world.reason with
      | none => exact timer_ends held.proper phase pending aborted
      | some reason => exact notify_ends held.proper phase pending aborted
  · intro called
    have proper := held.proper
    unfold Proper at proper
    split at proper
    · rename_i idle
      exact absurd called (held.idle.mp idle)
    · exact proper
    · exact proper.1

end

/-! ### A value in time -/

def inTime : List (Event Unit Nat) := [.call 0 0 none, .settle (.ok 7), .react 3]

def delivers (value : Nat) (trace : Trace Unit Nat) : Bool :=
  trace.any fun t =>
    match t.output with
    | some (.settled (.ok found)) => found == value
    | _ => false

theorem inTime_delivers : reaches (step 5 .step) (.ok (initial (some none) none 0) : Except Unit (World Unit Nat)) inTime
    (fun trace _ => delivers 7 trace) = true := by
  decide +kernel

theorem inTime_races : ∃ (trace : Trace Unit Nat) (world : World Unit Nat),
    Run (step 5 .step) (initial (some none) none 0) trace world ∧ Raced 5 .step trace world ∧ delivers 7 trace = true := by
  rcases reaches_run inTime_delivers with ⟨begun, trace, world, same, run, delivered⟩
  cases same
  exact ⟨trace, world, run, awaitReplayOperation_races run, delivered⟩

end Mirror.Replay.DeadlineRace
