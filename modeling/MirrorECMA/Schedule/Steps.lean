import MirrorECMA.Schedule.Effects

namespace Mirror.Schedule

open ECMA

/-- The tasks of an execution that has not stopped. -/
def Task.ongoing : Task → Bool
  | .idle | .acquiring | .starting none | .starting (some true) | .advancing _ _ none | .advancing _ _ (some true) => true
  | _ => false

/-- The tasks of an execution that has been stopped by its cleanup. -/
def Task.closing : Task → Bool
  | .idle | .cleaning _ _ | .tearing => true
  | _ => false

namespace Execution

variable {run middle after : Execution}

structure Sane (run : Execution) : Prop where
  failed : run.outcome ≠ .completed → run.stopped = true
  past : run.stopped = true → run.outcome = .completed →
    run.scheduleCompleted = true ∧ run.next = run.schedule.steps.length ∧ run.task.closing = true
  completed : run.scheduleCompleted = true → run.stopped = true
  closed : run.closed = true → run.stopped = true
  task : run.stopped = false → run.task.ongoing = true
  policy : run.stopped = false → budget run.policy.cleanupTimeoutMs = true

theorem Sane.ongoing (sane : Sane run) (going : run.stopped = false) :
    run.outcome = .completed ∧ run.scheduleCompleted = false ∧ run.closed = false := by
  refine ⟨?_, ?_, ?_⟩
  · by_cases completed : run.outcome = .completed
    · exact completed
    · rw [sane.failed completed] at going
      cases going
  · cases completed : run.scheduleCompleted with
    | false => rfl
    | true =>
      rw [sane.completed completed] at going
      cases going
  · cases closed : run.closed with
    | false => rfl
    | true =>
      rw [sane.closed closed] at going
      cases going

/-- An execution that stops during its schedule has failed. -/
theorem Sane.unended (sane : Sane run) (stopped : run.stopped = true) (open_ : run.task.closing = false) :
    run.outcome ≠ .completed := by
  intro completed
  rw [(sane.past stopped completed).2.2] at open_
  cases open_

/-- An execution that is not at work has stopped. -/
theorem Sane.stopped (sane : Sane run) (past : run.task.ongoing = false) : run.stopped = true := by
  cases stopped : run.stopped with
  | true => rfl
  | false =>
    rw [sane.task stopped] at past
    cases past

theorem Halted.sane (halted : Halted run after) : Sane after where
  failed _ := halted.stopped
  past _ completed := (halted.failed completed).elim
  completed _ := halted.stopped
  closed _ := halted.stopped
  task going := by rw [halted.stopped] at going; cases going
  policy going := by rw [halted.stopped] at going; cases going

/-- All that a step may do to a sane execution. -/
inductive Effect [NumberText] (run : Execution) : Input → Execution → Prop
  | halted {input : Input} {after : Execution} : Halted run after → Effect run input after
  | faulted {observed : Observed} {i : Nat} {step : ScheduleStep} {actor : Actor} {after : Execution} :
    run.task = .advancing i step (some true) → run.actors[i]? = some actor →
    Halted { run with events := run.events ++ [run.eventRow .arrival run.next actor] } after →
    Effect run (.resume observed) after
  | late {input : Input} {after : Execution} : run.stopped = true → after.stopped = true → run.outcome = .completed →
    Kept run after → after.task.closing = true → Effect run input after
  | passed {input : Input} {now : Nat} {aborted : Bool} : run.stopped = false → input.sent = false →
    Effect run input { run with now := now, signalAborted := aborted }
  | acquired {program : Program} {spawn : Nat → Except JsString Nat} {threads : Nat → Nat} {actors : List Actor} :
    run.stopped = false → run.task = .acquiring → (∀ i < run.actors.length, spawn i = .ok (threads i)) →
    (∀ j, actors[j]? = (run.actors[j]?).map fun (actor : Actor) => { actor with port := true, worker := some (threads j) }) →
    Effect run (.factory (.ok (some program)) spawn)
      { run with program := some program, actors := actors, task := .starting none }
  | ready {i : Nat} {actor : Actor} {threadId : Option Nat} : run.stopped = false → run.actors[i]? = some actor →
    actor.port = true → actor.phase = .starting → Effect run (.message i (.ready threadId))
      (run.update i fun actor => { actor with threadId := threadId, phase := .parked })
  | arrived {i : Nat} {actor : Actor} {name : JsString} : run.stopped = false → run.actors[i]? = some actor →
    actor.port = true → actor.phase = .running → actor.requestPending = none →
    Effect run (.message i (.arrival (some name)))
      (run.update i fun actor => { actor with checkpoint := name, phase := .parked })
  | finished {i : Nat} {actor : Actor} : run.stopped = false → run.actors[i]? = some actor →
    actor.port = true → actor.phase = .running → actor.requestPending = none → Effect run (.message i .finished)
      ({ run with posted := run.posted ++ [(i, Post.completionAck)] }.update i fun actor =>
        { actor with reportedFinish := true, phase := .finishing, checkpoint := SCHEDULE_COMPLETION })
  | requested {i : Nat} {actor : Actor} {input : Json} : run.stopped = false → run.actors[i]? = some actor →
    actor.port = true → actor.phase = .running → actor.requestPending = none →
    Effect run (.message i (.request (some actor.requestId) (.ok input)))
      { run.update i fun other =>
          { other with requestId := other.requestId + 1, requestPending := some actor.requestId } with
        pendingRequests := run.pendingRequests + 1 }
  | settled {i id : Nat} {actor : Actor} {value : Json} : run.stopped = false → run.actors[i]? = some actor →
    actor.requestPending = some id → Effect run (.settle i (.ok value))
      { (run.post i (.reply id (.ok value))).update i fun actor => { actor with requestPending := none } with
        pendingRequests := run.pendingRequests - 1 }
  | exited {i : Nat} {actor : Actor} {code : Int} : run.stopped = false → run.actors[i]? = some actor →
    actor.reportedFinish = true → Effect run (.exit i code)
      (run.update i fun actor => { actor with exited := true, phase := .finished, checkpoint := SCHEDULE_COMPLETION })
  | parked {observed : Observed} : run.stopped = false → run.task = .starting none → run.parkedAll = true →
    Effect run (.resume observed) { run with task := .starting (some true) }
  | opened {observed : Observed} {state : Json} {bytes now : Nat} {aborted : Bool} : run.stopped = false →
    run.task = .starting (some true) → run.quiescent = true → Effect run (.resume observed)
      { run with
        observing := false, signalAborted := aborted, now := now, evidenceBytes := bytes
        observations := run.observations ++ [Observation.mk run.next state], task := .idle }
  | permitted {step : ScheduleStep} {i bytes : Nat} {actor : Actor} : run.stopped = false → run.task = .idle →
    run.schedule.steps[run.next]? = some step → run.actors[i]? = some actor → actor.declaration.actor = step.actor →
    actor.phase = .parked → Effect run (.call (.advance step) false)
      { ({ run with evidenceBytes := bytes, events := run.events ++ [run.eventRow .permit run.next actor] }.update i
          fun actor => { actor with phase := .running }).post i .permit with
        task := .advancing i step none }
  | reached {observed : Observed} {i : Nat} {step : ScheduleStep} {actor : Actor} : run.stopped = false →
    run.task = .advancing i step none → run.actors[i]? = some actor → (actor.phase = .parked ∨ actor.phase = .finished) →
    Effect run (.resume observed) { run with task := .advancing i step (some true) }
  | advanced {observed : Observed} {i : Nat} {step : ScheduleStep} {actor : Actor} {state : Json} {bytes now : Nat}
    {aborted : Bool} : run.stopped = false → run.task = .advancing i step (some true) → run.actors[i]? = some actor →
    actor.checkpoint = step.checkpoint → run.quiescent = true → run.next + 1 ≠ run.schedule.steps.length →
    Effect run (.resume observed)
      { run with
        observing := false, signalAborted := aborted, now := now, evidenceBytes := bytes
        events := run.events ++ [run.eventRow .arrival run.next actor], next := run.next + 1
        observations := run.observations ++ [Observation.mk (run.next + 1) state], task := .idle }
  | completed {observed : Observed} {i : Nat} {step : ScheduleStep} {actor : Actor} {state : Json} {after : Execution} :
    run.stopped = false → run.task = .advancing i step (some true) → run.actors[i]? = some actor →
    actor.checkpoint = step.checkpoint → run.quiescent = true → run.next + 1 = run.schedule.steps.length →
    Kept { run with
      scheduleCompleted := true, events := run.events ++ [run.eventRow .arrival run.next actor], next := run.next + 1
      observations := run.observations ++ [Observation.mk (run.next + 1) state] } after →
    after.stopped = true → after.task.closing = true → Effect run (.resume observed) after

/-! ### Operations -/

theorem cleanupInternal_late (run : Execution) (timeoutMs : Nat) (stopped : run.stopped = true) :
    Leads run (run.cleanupInternal timeoutMs).1 ∧ (run.cleanupInternal timeoutMs).1.stopped = true ∨
      Halted run (run.cleanupInternal timeoutMs).1 := by
  unfold cleanupInternal
  dsimp only
  split
  · exact .inl ⟨⟨rfl, rfl, rfl, rfl, .refl _⟩, stopped⟩
  · split
    · exact .inl ⟨⟨rfl, rfl, rfl, rfl, .refl _⟩, stopped⟩
    · split
      · have halted := fail_halted run .cancelled (js "cleanup requested before completion") (by simp)
        exact .inr (halted.leads ⟨rfl, rfl, rfl, rfl, cancelAll_posted _⟩ rfl)
      · exact .inl ⟨⟨rfl, rfl, rfl, rfl, cancelAll_posted _⟩, rfl⟩

/-- The cleanup of an execution that has failed. -/
theorem cleanupInternal_halted (halted : Halted run middle) (timeoutMs : Nat) :
    Halted run (middle.cleanupInternal timeoutMs).1 := by
  rcases cleanupInternal_late middle timeoutMs halted.stopped with ⟨leads, stopped⟩ | failed
  · exact halted.leads leads stopped
  · exact halted.again failed

/-- The cleanup of an execution that has run its schedule. -/
theorem cleanupInternal_kept (run : Execution) (timeoutMs : Nat) (completed : run.scheduleCompleted = true) :
    Kept run (run.cleanupInternal timeoutMs).1 ∧ (run.cleanupInternal timeoutMs).1.task.closing = true ∧
      (run.stopped = true ∨ (budget timeoutMs = true ∧ run.closed = false) →
        (run.cleanupInternal timeoutMs).1.stopped = true) := by
  unfold cleanupInternal
  dsimp only
  split
  · rename_i refused
    refine ⟨⟨⟨rfl, rfl, rfl, rfl, .refl _⟩, rfl, rfl, fun tidy => ⟨tidy.confirmed, nofun⟩⟩, rfl, ?_⟩
    rintro (stopped | ⟨valid, -⟩)
    · exact stopped
    · rw [valid] at refused
      cases refused
  · split
    · rename_i closed
      refine ⟨⟨⟨rfl, rfl, rfl, rfl, .refl _⟩, rfl, rfl, fun tidy => ⟨tidy.confirmed, nofun⟩⟩, rfl, ?_⟩
      rintro (stopped | ⟨-, opened⟩)
      · exact stopped
      · rw [opened] at closed
        cases closed
    · have normal : ¬ (run.outcome = .completed ∧ run.scheduleCompleted = false) := by
        rw [completed]
        simp
      rw [if_neg normal]
      exact ⟨⟨⟨rfl, rfl, rfl, rfl, cancelAll_posted _⟩, rfl, rfl, fun tidy => ⟨tidy.confirmed, nofun⟩⟩, rfl, fun _ => rfl⟩

theorem idle_eq (idle : run.task = .idle) : { run with task := .idle } = run := by rw [← idle]

/-- A cleanup that is asked for before the schedule has been run. -/
theorem cleanupInternal_early (going : run.stopped = false) (idle : run.task = .idle) (sane : Sane run) (timeoutMs : Nat) :
    (run.cleanupInternal timeoutMs).1 = run ∨ Halted run (run.cleanupInternal timeoutMs).1 := by
  rcases sane.ongoing going with ⟨completed, unfinished, closed⟩
  unfold cleanupInternal
  dsimp only
  split
  · exact .inl (idle_eq idle)
  · rw [closed, if_neg (by simp), if_pos ⟨completed, unfinished⟩]
    have halted := fail_halted run .cancelled (js "cleanup requested before completion") (by simp)
    exact .inr (halted.leads ⟨rfl, rfl, rfl, rfl, cancelAll_posted _⟩ rfl)

theorem advanced_halted (halted : Halted run middle) : Halted run middle.advanced.1 := by
  unfold advanced
  have unfinished : ¬ (middle.stopped = false ∧ middle.next = middle.schedule.steps.length) := by
    rw [halted.stopped]
    simp
  rw [if_neg unfinished]
  dsimp only
  rw [if_pos (.inl halted.stopped)]
  exact cleanupInternal_halted halted _

theorem opened_halted (halted : Halted run middle) : Halted run middle.opened.1 := by
  unfold opened
  rw [if_pos halted.stopped]
  exact cleanupInternal_halted halted _

theorem update_update (run : Execution) (i : Nat) (f g : Actor → Actor) :
    (run.update i f).update i g = run.update i (g ∘ f) := by
  unfold update
  simp only [List.modify_modify_eq]

theorem cleaned_kept (run : Execution) :
    Kept run run.cleaned.1 ∧ run.cleaned.1.stopped = run.stopped ∧ run.cleaned.1.task.closing = true := by
  unfold cleaned
  dsimp only
  split
  · exact ⟨⟨⟨rfl, rfl, rfl, rfl, .refl _⟩, rfl, rfl, fun _ => ⟨nofun, nofun⟩⟩, rfl, rfl⟩
  · split
    · exact ⟨⟨⟨rfl, rfl, rfl, rfl, .refl _⟩, rfl, rfl, fun _ => ⟨nofun, nofun⟩⟩, rfl, rfl⟩
    · exact ⟨⟨⟨rfl, rfl, rfl, rfl, .refl _⟩, rfl, rfl, fun _ => ⟨fun _ => rfl, fun _ => rfl⟩⟩, rfl, rfl⟩

theorem tornDown_kept (tearing : run.task = .tearing) (result : Except JsString Unit) :
    Kept run (run.tornDown result) ∧ (run.tornDown result).stopped = run.stopped ∧
      (run.tornDown result).task.closing = true := by
  cases result with
  | ok done =>
    exact ⟨⟨⟨rfl, rfl, rfl, rfl, .refl _⟩, rfl, rfl, fun tidy => ⟨fun _ => tidy.tearing tearing, nofun⟩⟩, rfl, rfl⟩
  | error text => exact ⟨⟨⟨rfl, rfl, rfl, rfl, .refl _⟩, rfl, rfl, fun _ => ⟨nofun, nofun⟩⟩, rfl, rfl⟩

/-- The end of `advance` when there are more steps. -/
theorem advanced_next (going : run.stopped = false) (unfinished : run.scheduleCompleted = false)
    (more : run.next ≠ run.schedule.steps.length) : run.advanced.1 = { run with task := .idle } := by
  have early : ¬ (run.stopped = false ∧ run.next = run.schedule.steps.length) := fun both => more both.2
  have open_ : ¬ (run.stopped = true ∨ run.scheduleCompleted = true) := by
    rw [going, unfinished]
    simp
  unfold advanced
  rw [if_neg early]
  dsimp only
  rw [if_neg open_]

/-- The end of `advance` after the last step. -/
theorem advanced_last (run : Execution) (going : run.stopped = false) (last : run.next = run.schedule.steps.length)
    (closed : run.closed = false) (policy : budget run.policy.cleanupTimeoutMs = true) :
    Kept { run with scheduleCompleted := true } run.advanced.1 ∧ run.advanced.1.task.closing = true ∧
      run.advanced.1.stopped = true := by
  have ends : run.stopped = false ∧ run.next = run.schedule.steps.length := ⟨going, last⟩
  unfold advanced
  rw [if_pos ends]
  dsimp only
  rw [if_pos (Or.inr rfl)]
  have kept := cleanupInternal_kept { run with scheduleCompleted := true } run.policy.cleanupTimeoutMs rfl
  exact ⟨kept.1, kept.2.1, kept.2.2 (.inr ⟨policy, closed⟩)⟩

/-- Every actor gets a port and a worker, unless a worker cannot be made. -/
theorem spawnWorkers_effect {spawn : Nat → Except JsString Nat} {threads : Nat → Nat}
    (named : ∀ i threadId, spawn i = .ok threadId → threads i = threadId) (run : Execution) (indices : List Nat) :
    Halted run (spawnWorkers spawn run indices) ∨ ((∀ i ∈ indices, spawn i = .ok (threads i)) ∧
      ∃ actors, spawnWorkers spawn run indices = { run with actors := actors } ∧ ∀ j, actors[j]? =
        (run.actors[j]?).map fun (actor : Actor) =>
          if j ∈ indices then { actor with port := true, worker := some (threads j) } else actor) := by
  induction indices generalizing run with
  | nil => exact .inr ⟨by simp, run.actors, rfl, by simp⟩
  | cons i rest ih =>
    unfold spawnWorkers
    cases made : spawn i with
    | error text =>
      have opened := update_kept run i fun actor => { actor with port := true }
      exact .inl (opened.toLeads.halted (fail_halted _ _ _ (by simp)))
    | ok threadId =>
      dsimp only
      have employed := update_kept run i fun actor => { actor with port := true, worker := some threadId }
      rcases ih (run.update i fun actor => { actor with port := true, worker := some threadId }) with
        halted | ⟨others, actors, same, each⟩
      · exact .inl (employed.toLeads.halted halted)
      · have thread := named i threadId made
        refine .inr ⟨?_, actors, same, ?_⟩
        · intro j member
          rcases List.mem_cons.mp member with rfl | member
          · rw [thread]
            exact made
          · exact others j member
        · intro j
          rw [each j, update, List.getElem?_modify, Option.map_eq_map, Option.map_map]
          congr 1
          funext actor
          by_cases here : i = j
          · subst here
            by_cases again : i ∈ rest <;> simp [again, thread]
          · simp [here, Ne.symm here, List.mem_cons]

/-! ### Steps -/

section

variable [NumberText] {input : Input}

/-- What happens to an execution that has stopped. -/
theorem Effect.stays (sane : Sane run) (stopped : run.stopped = true) (kept : Kept run after)
    (stoppedAfter : after.stopped = true) (task : after.task = run.task) : Effect run input after := by
  by_cases completed : run.outcome = .completed
  · have closing := (sane.past stopped completed).2.2
    exact .late stopped stoppedAfter completed kept (task ▸ closing)
  · exact .halted (kept.toLeads.late stoppedAfter completed)

theorem Effect.closes (stopped : run.stopped = true) (kept : Kept run after)
    (stoppedAfter : after.stopped = true) (closing : after.task.closing = true) : Effect run input after := by
  by_cases completed : run.outcome = .completed
  · exact .late stopped stoppedAfter completed kept closing
  · exact .halted (kept.toLeads.late stoppedAfter completed)

theorem Effect.fails (run : Execution) {outcome : ScheduleOutcome} (detail : JsString)
    (failure : outcome ≠ .completed) : Effect run input (run.fail outcome detail) :=
  .halted (fail_halted run _ detail failure)

theorem message_effect (sane : Sane run) {i : Nat} {actor : Actor} (found : run.actors[i]? = some actor)
    (port : actor.port = true) (message : WorkerMessage) : Effect run (.message i message) (run.message i actor message) := by
  cases message with
  | ready threadId =>
    rw [Execution.message]
    split
    · exact .fails _ _ (by simp)
    · rename_i expected
      rw [not_or, not_or, Decidable.not_not] at expected
      rcases Bool.eq_false_or_eq_true run.stopped with stopped | going
      · exact .stays sane stopped (update_kept run i _) stopped rfl
      · exact .ready going found port expected.1
  | arrival checkpoint =>
    rw [Execution.message]
    split
    · rename_i stopped
      exact .stays sane stopped (.refl _) stopped rfl
    · rename_i going
      split
      · exact .fails _ _ (by simp)
      · rename_i owned
        rw [not_or, Decidable.not_not, Bool.not_eq_true, Option.isSome_eq_false_iff, Option.isNone_iff_eq_none] at owned
        split
        · exact .fails _ _ (by simp)
        · rename_i name known
          have same := (Option.filter_eq_some_iff.mp known).1
          rw [same]
          exact .arrived (Bool.not_eq_true _ ▸ going) found port owned.1 owned.2
  | finished =>
    rw [Execution.message]
    split
    · exact .fails _ _ (by simp)
    · rename_i owned
      rcases Bool.eq_false_or_eq_true run.stopped with stopped | going
      · have kept := (post_kept run i .completionAck (by simp)).trans (update_kept _ i fun actor =>
          { actor with reportedFinish := true, phase := .finishing, checkpoint := SCHEDULE_COMPLETION })
        exact .stays sane stopped kept ((post_stopped run i _).trans stopped) (post_task run i _)
      · rw [not_and, not_or, Decidable.not_not, Bool.not_eq_true, Option.isSome_eq_false_iff,
          Option.isNone_iff_eq_none] at owned
        rw [post_eq found port]
        exact .finished going found port (owned going).1 (owned going).2
  | failure error =>
    rw [Execution.message]
    split
    · rename_i stopped
      exact .stays sane stopped (.refl _) stopped rfl
    · exact .fails _ _ (by simp)
  | request id input =>
    rw [Execution.message]
    split
    · rename_i stopped
      exact .stays sane stopped (.refl _) stopped rfl
    · rename_i going
      split
      · exact .fails _ _ (by simp)
      · rename_i owned
        rw [not_or, Decidable.not_not, Bool.not_eq_true, Option.isSome_eq_false_iff, Option.isNone_iff_eq_none] at owned
        dsimp only
        have counted := update_kept run i fun actor => { actor with requestId := actor.requestId + 1 }
        split
        · exact .halted (counted.toLeads.halted (fail_halted _ _ _ (by simp)))
        · rename_i matching
          rw [not_or, Decidable.not_not] at matching
          cases input with
          | error text => exact .halted (counted.toLeads.halted (fail_halted _ _ _ (by simp)))
          | ok value =>
            dsimp only
            rw [update_update, matching.1]
            exact .requested (Bool.not_eq_true _ ▸ going) found port owned.1 owned.2
  | unknown => exact .fails _ _ (by simp)
  | invalid => exact .fails _ _ (by simp)

theorem settle_effect (sane : Sane run) {i id : Nat} {actor : Actor} (found : run.actors[i]? = some actor)
    (pending : actor.requestPending = some id) (result : Except JsString Json) :
    Effect run (.settle i result) (run.settle i id result) := by
  unfold settle
  rcases Bool.eq_false_or_eq_true run.stopped with stopped | going
  · have kept : Kept run { run.update i fun actor => { actor with requestPending := none } with
        pendingRequests := run.pendingRequests - 1 } :=
      ⟨⟨rfl, rfl, rfl, rfl, .refl _⟩, rfl, rfl, fun tidy => tidy.same rfl rfl rfl⟩
    simp only [if_pos stopped]
    cases result <;> exact .stays sane stopped kept stopped rfl
  · simp only [going, Bool.false_eq_true, ↓reduceIte]
    cases result with
    | ok value => exact .settled going found pending
    | error text =>
      have posted := (post_kept run i (.reply id (.error text)) (by simp)).toLeads
      have failed := posted.halted (fail_halted (run.post i (.reply id (.error text))) .application_failed text (by simp))
      exact .halted (failed.leads ⟨rfl, rfl, rfl, rfl, .refl _⟩ failed.stopped)

theorem exit_effect (sane : Sane run) {i : Nat} {actor : Actor} (found : run.actors[i]? = some actor) (code : Int) :
    Effect run (.exit i code) (run.exit i actor code) := by
  unfold exit
  dsimp only
  have marked := update_kept run i fun actor => { actor with exited := true }
  split
  · have failed := marked.toLeads.halted (fail_halted (run.update i fun actor => { actor with exited := true })
      .application_failed (js "worker exited without successful completion") (by simp))
    exact .halted (failed.leads (update_kept _ i _).toLeads failed.stopped)
  · rename_i normal
    rw [update_update]
    rcases Bool.eq_false_or_eq_true run.stopped with stopped | going
    · exact .stays sane stopped (update_kept run i _) stopped rfl
    · have reported : actor.reportedFinish = true := by
        by_cases reported : actor.reportedFinish = true
        · exact reported
        · exact (normal ⟨going, .inr (Bool.not_eq_true _ ▸ reported)⟩).elim
      exact .exited going found reported

theorem abort_step (sane : Sane run) : Effect run .abort run.abort := by
  rcases abort_effect run with unheard | halted
  · rw [unheard]
    rcases Bool.eq_false_or_eq_true run.stopped with stopped | going
    · exact .stays sane stopped ⟨⟨rfl, rfl, rfl, rfl, .refl _⟩, rfl, rfl, fun tidy => tidy.same rfl rfl rfl⟩ stopped rfl
    · exact .passed going rfl
  · exact .halted halted

theorem tick_step (sane : Sane run) (elapsed : Nat) : Effect run (.tick elapsed) { run with now := run.now + elapsed } := by
  rcases Bool.eq_false_or_eq_true run.stopped with stopped | going
  · exact .stays sane stopped ⟨⟨rfl, rfl, rfl, rfl, .refl _⟩, rfl, rfl, fun tidy => tidy.same rfl rfl rfl⟩ stopped rfl
  · exact .passed going rfl

theorem acquire_effect (acquiring : run.task = .acquiring) (sane : Sane run) (program : Except JsString (Option Program))
    (spawn : Nat → Except JsString Nat) : Effect run (.factory program spawn) (run.acquire program spawn) := by
  unfold acquire
  cases program with
  | error text =>
    have failed := fail_halted run .application_failed text (by simp)
    exact .halted (failed.leads ⟨rfl, rfl, rfl, rfl, .refl _⟩ failed.stopped)
  | ok program =>
    dsimp only
    have stored : Leads run { run with program := program } := ⟨rfl, rfl, rfl, rfl, .refl _⟩
    cases checked : ({ run with program := program } : Execution).checkProgram program with
    | error text =>
      have failed := stored.halted (fail_halted { run with program := program } .application_failed text (by simp))
      exact .halted (failed.leads ⟨rfl, rfl, rfl, rfl, .refl _⟩ failed.stopped)
    | ok done =>
      cases program with
      | none => cases checked
      | some program =>
        let threads : Nat → Nat := fun i => match spawn i with
          | .ok threadId => threadId
          | .error _ => 0
        have named : ∀ i threadId, spawn i = .ok threadId → threads i = threadId := by
          intro i threadId made
          simp only [threads, made]
        rcases spawnWorkers_effect named { run with program := some program } (List.range run.actors.length) with
          failed | ⟨made, actors, same, each⟩
        · have halted := stored.halted failed
          exact .halted (halted.leads ⟨rfl, rfl, rfl, rfl, .refl _⟩ halted.stopped)
        · dsimp only
          rw [same]
          have manned : ∀ j, actors[j]? = (run.actors[j]?).map fun (actor : Actor) =>
              { actor with port := true, worker := some (threads j) } := by
            intro j
            rw [each j]
            by_cases inside : j < run.actors.length
            · simp [inside]
            · simp [List.getElem?_eq_none (Nat.not_lt.mp inside)]
          rcases Bool.eq_false_or_eq_true run.stopped with stopped | going
          · have failed := sane.unended stopped (by rw [acquiring]; rfl)
            exact .halted (Leads.late ⟨rfl, rfl, rfl, rfl, .refl _⟩ stopped failed)
          · exact .acquired going acquiring (fun i inside => made i (List.mem_range.mpr inside)) manned

theorem advance_effect (sane : Sane run) (idle : run.task = .idle) (step : ScheduleStep) :
    Effect run (.call (.advance step) false) (run.advance step).1 := by
  have unchanged : Effect run (.call (.advance step) false) run := by
    rcases Bool.eq_false_or_eq_true run.stopped with stopped | going
    · exact .stays sane stopped (.refl _) stopped rfl
    · exact .passed going rfl
  unfold advance
  split
  · exact unchanged
  split
  · exact unchanged
  rename_i going
  have going : run.stopped = false := Bool.not_eq_true _ ▸ going
  split
  · exact .halted (advanced_halted (fail_halted _ _ _ (by simp)))
  split
  · exact .halted (advanced_halted (fail_halted _ _ _ (by simp)))
  split
  · exact .halted (advanced_halted (fail_halted _ _ _ (by simp)))
  rename_i expected
  rw [ne_eq, Decidable.not_not] at expected
  split
  · exact unchanged
  rename_i i selected
  split
  · exact unchanged
  rename_i actor found
  have named : actor.declaration.actor = step.actor := by
    rcases List.findIdx?_eq_some_iff_getElem.mp selected with ⟨inside, same, -⟩
    rw [List.getElem?_eq_getElem inside, Option.some.injEq] at found
    rw [found] at same
    exact of_decide_eq_true same
  unfold permit
  split
  · exact .halted (advanced_halted (fail_halted _ _ _ (by simp)))
  rename_i parked
  rw [ne_eq, Decidable.not_not] at parked
  dsimp only
  rcases event_effect run .permit run.next actor with halted | ⟨bytes, recorded⟩
  · rw [if_pos halted.stopped]
    exact .halted (advanced_halted halted)
  · rw [recorded, if_neg (by rw [going]; decide)]
    exact .permitted going idle expected found named parked

theorem call_effect (sane : Sane run) (idle : run.task = .idle) (call : Call) :
    Effect run (.call call false) (run.call call).1 := by
  have cleans : ∀ timeoutMs, Effect run (.call call false) (run.cleanupInternal timeoutMs).1 := by
    intro timeoutMs
    rcases Bool.eq_false_or_eq_true run.stopped with stopped | going
    · by_cases completed : run.outcome = .completed
      · have kept := cleanupInternal_kept run timeoutMs (sane.past stopped completed).1
        exact .late stopped (kept.2.2 (.inl stopped)) completed kept.1 kept.2.1
      · rcases cleanupInternal_late run timeoutMs stopped with ⟨leads, stoppedAfter⟩ | halted
        · exact .halted (leads.late stoppedAfter completed)
        · exact .halted halted
    · rcases cleanupInternal_early going idle sane timeoutMs with same | halted
      · rw [same]
        exact .passed going rfl
      · exact .halted halted
  cases call with
  | advance step => exact advance_effect sane idle step
  | finish =>
    rw [Execution.call, Execution.finish]
    split
    · rename_i closed
      have stopped := sane.closed closed
      exact .stays sane stopped (.refl _) stopped rfl
    · dsimp only
      split
      · exact .halted (cleanupInternal_halted (fail_halted _ _ _ (by simp)) _)
      · exact cleans _
  | cleanup timeoutMs => exact cleans _

theorem arrive_effect (sane : Sane run) {i : Nat} {step : ScheduleStep} {actor : Actor}
    (task : run.task = .advancing i step (some true)) (found : run.actors[i]? = some actor) (observed : Observed) :
    Effect run (.resume observed) (run.arrive step actor observed).1 := by
  unfold arrive
  dsimp only
  rcases event_effect run .arrival run.next actor with halted | ⟨bytes, recorded⟩
  · -- the evidence was too large: nothing is observed
    have kept : ∀ failed, Halted run failed → Halted run (if failed.stopped = true then failed else
        observe { failed with next := failed.next + 1 } observed) := by
      intro failed halted
      rw [if_pos halted.stopped]
      exact halted
    split
    · exact .halted (advanced_halted (kept _ (halted.again (fail_halted _ _ _ (by simp)))))
    · exact .halted (advanced_halted (kept _ halted))
  rw [recorded]
  have pushed : Leads { run with events := run.events ++ [run.eventRow .arrival run.next actor] } { run with
      evidenceBytes := bytes, events := run.events ++ [run.eventRow .arrival run.next actor] } :=
    ⟨rfl, rfl, rfl, rfl, .refl _⟩
  split
  · have failed := pushed.halted (fail_halted { run with
      evidenceBytes := bytes, events := run.events ++ [run.eventRow .arrival run.next actor] }
      .unexpected_checkpoint (js "expected " ++ step.checkpoint ++ js ", arrived at " ++ actor.checkpoint) (by simp))
    rw [if_pos failed.stopped]
    exact .faulted task found (advanced_halted failed)
  rename_i expected
  rw [ne_eq, Decidable.not_not] at expected
  rcases Bool.eq_false_or_eq_true run.stopped with stopped | going
  · rw [if_pos (by exact stopped)]
    have failed := sane.unended stopped (by rw [task]; rfl)
    exact .faulted task found (advanced_halted (pushed.late stopped failed))
  · rw [if_neg (by rw [going]; decide)]
    have counted : Leads { run with events := run.events ++ [run.eventRow .arrival run.next actor] } { run with
        evidenceBytes := bytes, events := run.events ++ [run.eventRow .arrival run.next actor], next := run.next + 1 } :=
      ⟨rfl, rfl, rfl, rfl, .refl _⟩
    rcases observe_effect { run with
        evidenceBytes := bytes, events := run.events ++ [run.eventRow .arrival run.next actor], next := run.next + 1 }
      observed with ⟨-, stopped⟩ | failed | ⟨-, quiet, state, bytes, now, aborted, observes⟩
    · dsimp only at stopped
      rw [going] at stopped
      cases stopped
    · exact .faulted task found (advanced_halted (counted.halted failed))
    · rw [observes]
      rcases sane.ongoing going with ⟨-, unfinished, closed⟩
      by_cases last : run.next + 1 = run.schedule.steps.length
      · have ends := advanced_last { run with
            observing := false, signalAborted := aborted, now := now, evidenceBytes := bytes
            events := run.events ++ [run.eventRow .arrival run.next actor], next := run.next + 1
            observations := run.observations ++ [Observation.mk (run.next + 1) state] }
          going last closed (sane.policy going)
        have recorded : Kept { run with
            scheduleCompleted := true, events := run.events ++ [run.eventRow .arrival run.next actor]
            next := run.next + 1
            observations := run.observations ++ [Observation.mk (run.next + 1) state] } { run with
            scheduleCompleted := true, observing := false, signalAborted := aborted, now := now, evidenceBytes := bytes
            events := run.events ++ [run.eventRow .arrival run.next actor], next := run.next + 1
            observations := run.observations ++ [Observation.mk (run.next + 1) state] } :=
          ⟨⟨rfl, rfl, rfl, rfl, .refl _⟩, rfl, rfl, fun tidy => tidy.same rfl rfl rfl⟩
        exact .completed going task found expected quiet last (recorded.trans ends.1) ends.2.2 ends.2.1
      · rw [advanced_next (by exact going) (by exact unfinished) (by exact last)]
        exact .advanced going task found expected quiet last

theorem resume_effect (sane : Sane run) {observed : Observed} {after : Execution} {output : Output}
    (resumed : run.resume observed = some (after, output)) : Effect run (.resume observed) after := by
  unfold resume at resumed
  split at resumed
  · rename_i task
    have same : run.wait run.parkedAll .starting = after := by rw [(Prod.mk.inj (Option.some.inj resumed)).1]
    rw [← same]
    rcases wait_effect run run.parkedAll .starting with ⟨stopped, waits⟩ | failed | ⟨going, waits⟩
    · rw [waits]
      exact .halted (Leads.late ⟨rfl, rfl, rfl, rfl, .refl _⟩ stopped (sane.unended stopped (by rw [task]; rfl)))
    · exact .halted failed
    · rw [waits]
      by_cases parked : run.parkedAll = true
      · rw [if_pos parked]
        exact .parked going task parked
      · have unchanged : { run with task := .starting none } = run := by rw [← task]
        rw [if_neg parked, unchanged]
        exact .passed going rfl
  · rename_i ready task
    have resumed := Option.some.inj resumed
    have late : run.stopped = true → Halted run run := fun stopped =>
      (Leads.refl run).late stopped (sane.unended stopped (by rw [task]; rfl))
    cases ready with
    | false =>
      have same : run.opened.1 = after := by rw [if_neg (by simp)] at resumed; rw [resumed]
      exact same ▸ .halted (opened_halted (late (sane.stopped (by rw [task]; rfl))))
    | true =>
      have same : (run.observe observed).opened.1 = after := by rw [if_pos rfl] at resumed; rw [resumed]
      rw [← same]
      rcases observe_effect run observed with ⟨unseen, stopped⟩ | failed | ⟨going, quiet, state, bytes, now, aborted, observes⟩
      · rw [unseen]
        exact .halted (opened_halted (late stopped))
      · exact .halted (opened_halted failed)
      · rw [observes, Execution.opened, if_neg (by rw [going]; decide)]
        exact .opened going task quiet
  · rename_i i step task
    have same : run.wait (run.reached i) (.advancing i step) = after := by rw [(Prod.mk.inj (Option.some.inj resumed)).1]
    rw [← same]
    rcases wait_effect run (run.reached i) (.advancing i step) with ⟨stopped, waits⟩ | failed | ⟨going, waits⟩
    · rw [waits]
      exact .halted (Leads.late ⟨rfl, rfl, rfl, rfl, .refl _⟩ stopped (sane.unended stopped (by rw [task]; rfl)))
    · exact .halted failed
    · rw [waits]
      by_cases reached : run.reached i = true
      · rcases (Option.any_eq_true _ _).mp reached with ⟨actor, found, phase⟩
        rw [Bool.or_eq_true, decide_eq_true_eq, decide_eq_true_eq] at phase
        rw [if_pos reached]
        exact .reached going task found phase
      · have unchanged : { run with task := .advancing i step none } = run := by rw [← task]
        rw [if_neg reached, unchanged]
        exact .passed going rfl
  · rename_i i step task
    have same : run.advanced.1 = after := by rw [Option.some.inj resumed]
    rcases Bool.eq_false_or_eq_true run.stopped with stopped | going
    · have failed := sane.unended stopped (by rw [task]; rfl)
      have halted : Halted run run := (Leads.refl run).late stopped failed
      exact .halted (same ▸ advanced_halted halted)
    · have ongoing := sane.task going
      rw [task] at ongoing
      cases ongoing
  · rename_i i step task
    simp only [Option.bind_eq_bind, Option.bind_eq_some_iff] at resumed
    rcases resumed with ⟨actor, found, resumed⟩
    have same : (run.arrive step actor observed).1 = after := by rw [Option.some.inj resumed]
    exact same ▸ arrive_effect sane task found observed
  · rename_i limit task
    cases Option.some.inj resumed
    have stopped := sane.stopped (by rw [task]; rfl)
    exact .closes stopped ⟨⟨rfl, rfl, rfl, rfl, .refl _⟩, rfl, rfl, fun tidy => ⟨tidy.confirmed, nofun⟩⟩ stopped rfl
  · rename_i limit task
    have same : run.cleaned.1 = after := by rw [Option.some.inj resumed]
    have stopped := sane.stopped (by rw [task]; rfl)
    have cleaned := cleaned_kept run
    exact same ▸ .closes stopped cleaned.1 (cleaned.2.1.trans stopped) cleaned.2.2
  · cases resumed

theorem step_effect (sane : Sane run) {output : Output} (taken : run.step input = some (after, output)) :
    Effect run input after := by
  cases input with
  | factory program spawn =>
    simp only [Execution.step] at taken
    split at taken
    · rename_i acquiring
      cases taken
      exact acquire_effect acquiring sane program spawn
    · cases taken
  | message i message =>
    simp only [Execution.step, Option.bind_eq_bind, Option.bind_eq_some_iff] at taken
    rcases taken with ⟨actor, found, taken⟩
    split at taken
    · rename_i port
      cases taken
      exact message_effect sane found port message
    · cases taken
  | messageError i =>
    simp only [Execution.step, Option.bind_eq_bind, Option.bind_eq_some_iff] at taken
    rcases taken with ⟨actor, found, taken⟩
    split at taken
    · cases taken
      exact .fails _ _ (by simp)
    · cases taken
  | error i text =>
    simp only [Execution.step, Option.bind_eq_bind, Option.bind_eq_some_iff] at taken
    rcases taken with ⟨actor, found, taken⟩
    split at taken
    · cases taken
      exact .fails _ _ (by simp)
    · cases taken
  | exit i code =>
    simp only [Execution.step, Option.bind_eq_bind, Option.bind_eq_some_iff] at taken
    rcases taken with ⟨actor, found, taken⟩
    split at taken
    · cases taken
      exact exit_effect sane found code
    · cases taken
  | settle i result =>
    simp only [Execution.step, Option.bind_eq_bind, Option.bind_eq_some_iff] at taken
    rcases taken with ⟨actor, found, id, pending, taken⟩
    cases taken
    exact settle_effect sane found pending result
  | abort =>
    simp only [Execution.step] at taken
    split at taken
    · cases taken
    · cases taken
      exact abort_step sane
  | tick elapsed =>
    cases taken
    exact tick_step sane elapsed
  | resume observed => exact resume_effect sane taken
  | teardown result =>
    simp only [Execution.step] at taken
    split at taken
    · rename_i tearing
      cases taken
      have stopped := sane.stopped (by rw [tearing]; rfl)
      have torn := tornDown_kept tearing result
      exact .closes stopped torn.1 (torn.2.1.trans stopped) torn.2.2
    · cases taken
  | call call reentrant =>
    simp only [Execution.step] at taken
    split at taken
    · cases taken
      rcases Bool.eq_false_or_eq_true run.stopped with stopped | going
      · exact .stays sane stopped (.refl _) stopped rfl
      · exact .passed going rfl
    · rename_i free
      rw [not_or, ne_eq, Decidable.not_not, Bool.not_eq_true] at free
      have same : (run.call call).1 = after := by rw [Option.some.inj taken]
      rw [free.2, ← same]
      exact call_effect sane free.1 call

end

end Execution

end Mirror.Schedule
