import MirrorECMA.Schedule.Evidence
import MirrorECMA.Schedule.SingleRunner

namespace Mirror.Schedule

open ECMA

/-! ### Receipts -/

def ScheduleOutcome.text : ScheduleOutcome → JsString
  | .completed => js "completed"
  | .invalid_schedule => js "invalid_schedule"
  | .incompatible_identity => js "incompatible_identity"
  | .cancelled => js "cancelled"
  | .timed_out => js "timed_out"
  | .unexpected_checkpoint => js "unexpected_checkpoint"
  | .uncontrolled_actor => js "uncontrolled_actor"
  | .application_failed => js "application_failed"
  | .observation_failed => js "observation_failed"
  | .resource_failed => js "resource_failed"

def ScheduleCleanup.text : ScheduleCleanup → JsString
  | .not_started => js "not_started"
  | .confirmed => js "confirmed"
  | .incomplete => js "incomplete"
  | .teardown_failed => js "teardown_failed"

def SchedulePolicy.json (policy : SchedulePolicy) : Json :=
  .object [(js "maxActors", .number (.ofNat policy.maxActors)), (js "maxSteps", .number (.ofNat policy.maxSteps)),
    (js "executionTimeoutMs", .number (.ofNat policy.executionTimeoutMs)),
    (js "cleanupTimeoutMs", .number (.ofNat policy.cleanupTimeoutMs))]

def Observation.json (observation : Observation) : Json :=
  .object [(js "afterSteps", .number (.ofNat observation.afterSteps)), (js "state", observation.state)]

namespace Execution

/-- The state is inert data, of which the report is a copy. -/
def report (run : Execution) : Fields Json :=
  [(js "outcome", .string run.outcome.text), (js "detail", .string run.detail),
    (js "scheduleCompleted", .bool run.scheduleCompleted), (js "cleanup", .string run.cleanup.text),
    (js "remainingActors", .array (run.remainingActors.map .string)),
    (js "generation", .number (.ofNat run.generation)), (js "executionId", .string run.executionId),
    (js "events", .array (run.events.map Event.json)),
    (js "observations", .array (run.observations.map Observation.json)),
    (js "cleanupAttempts", .array run.cleanupAttempts)]

def passed (run : Execution) : Bool :=
  decide (run.outcome = .completed) && run.scheduleCompleted && decide (run.cleanup = .confirmed)

def actorThread (actor : Actor) : JsString × Json :=
  (actor.declaration.actor, match actor.threadId with
    | some threadId => .number (.ofNat threadId)
    | none => .null)

def receipt (run : Execution) : Fields Json :=
  run.report ++
    [(js "schema", .string (js "mirrors.checkpoint-execution/v1")), (js "schedule", run.schedule.json),
      (js "actors", .array (run.actors.map fun actor => actor.declaration.json)),
      (js "checkpoints", .array (run.checkpoints.map .string)), (js "policy", run.policy.json),
      (js "coverage", .string (js "recorded-schedule-only")),
      (js "actorThreads", .object (Fields.ofEntries (run.actors.map actorThread))), (js "passed", .bool run.passed)]

end Execution

/-! ### What has been recorded -/

/-- The row that is due at place `k`. -/
structure Due (schedule : CheckpointSchedule) (k : Nat) (event : Event) : Prop where
  ordinal : event.ordinal = k
  step : event.step = k / 2
  kind : event.kind = if k % 2 = 0 then .permit else .arrival
  planned : ∃ step, schedule.steps[k / 2]? = some step ∧ event.actor = step.actor ∧
    (k % 2 = 1 → event.checkpoint = step.checkpoint)

/-- How many rows of an unfinished interval have been recorded. -/
def Task.permits : Task → Nat
  | .advancing _ _ _ => 1
  | _ => 0

/-- Whether the initial state is still to be observed. -/
def Task.unobserved : Task → Bool
  | .acquiring | .starting _ => true
  | _ => false

theorem Task.closing_permits {task : Task} (closing : task.closing = true) : task.permits = 0 ∧ task.unobserved = false := by
  cases task <;> first | exact ⟨rfl, rfl⟩ | cases closing

namespace Execution

variable {run after : Execution}

structure Recorded (run : Execution) : Prop where
  rows : ∀ k event, run.events[k]? = some event → Due run.schedule k event
  count : run.events.length = 2 * run.next + run.task.permits
  observed : run.observations.map (·.afterSteps) = List.range (if run.task.unobserved then run.next else run.next + 1)
  interval : ∀ {i step wait}, run.task = .advancing i step wait → run.schedule.steps[run.next]? = some step ∧
    ∃ actor, run.actors[i]? = some actor ∧ actor.declaration.actor = step.actor

theorem rows_append {schedule : CheckpointSchedule} {events : List Event} {event : Event}
    (rows : ∀ k event, events[k]? = some event → Due schedule k event) (due : Due schedule events.length event) :
    ∀ k other, (events ++ [event])[k]? = some other → Due schedule k other := by
  intro k other found
  rcases Nat.lt_trichotomy k events.length with before | here | beyond
  · rw [List.getElem?_append_left before] at found
    exact rows k other found
  · subst here
    rw [List.getElem?_concat_length, Option.some.injEq] at found
    exact found ▸ due
  · rw [List.getElem?_eq_none (by rw [List.length_append, List.length_singleton]; omega)] at found
    cases found

/-- An actor may change, but not its declaration. -/
theorem Recorded.change (recorded : Recorded run) {i : Nat} {change : Actor → Actor}
    (actors : after.actors = run.actors.modify i change)
    (declared : ∀ actor, (change actor).declaration = actor.declaration) (schedule : after.schedule = run.schedule)
    (events : after.events = run.events) (observations : after.observations = run.observations)
    (next : after.next = run.next) (task : after.task = run.task) : Recorded after where
  rows := by rw [events, schedule]; exact recorded.rows
  count := by rw [events, next, task]; exact recorded.count
  observed := by rw [observations, next, task]; exact recorded.observed
  interval {j step wait} advancing := by
    rcases recorded.interval (task ▸ advancing) with ⟨expected, actor, found, named⟩
    have changed : after.actors[j]? = (run.update i change).actors[j]? := by rw [actors, update_actors]
    rw [updated, found] at changed
    rw [schedule, next]
    refine ⟨expected, ?_⟩
    by_cases same : i = j
    · rw [if_pos same] at changed
      exact ⟨change actor, changed, (congrArg _ (declared actor)).trans named⟩
    · rw [if_neg same] at changed
      exact ⟨actor, changed, named⟩

/-- An interval begins. -/
theorem Recorded.permit [NumberText] (recorded : Recorded run) (idle : run.task = .idle) {i : Nat} {step : ScheduleStep}
    {actor : Actor} (expected : run.schedule.steps[run.next]? = some step) (found : run.actors[i]? = some actor)
    (named : actor.declaration.actor = step.actor) {change : Actor → Actor}
    (actors : after.actors = run.actors.modify i change)
    (declared : ∀ actor, (change actor).declaration = actor.declaration) (schedule : after.schedule = run.schedule)
    (events : after.events = run.events ++ [run.eventRow .permit run.next actor])
    (observations : after.observations = run.observations) (next : after.next = run.next)
    (task : after.task = .advancing i step none) : Recorded after where
  rows := by
    have count : run.events.length = 2 * run.next := by
      have count := recorded.count
      rw [idle] at count
      exact count
    have half : run.events.length / 2 = run.next := by omega
    have even : run.events.length % 2 = 0 := by omega
    have due : Due run.schedule run.events.length (run.eventRow .permit run.next actor) :=
      ⟨rfl, half.symm, by rw [if_pos even]; rfl, step, by rw [half]; exact expected, named, fun odd => by omega⟩
    rw [events, schedule]
    exact rows_append recorded.rows due
  count := by
    have count := recorded.count
    rw [idle] at count
    rw [events, next, task, List.length_append, count]
    rfl
  observed := by
    have observed := recorded.observed
    rw [idle] at observed
    rw [observations, next, task]
    exact observed
  interval {j other wait} advancing := by
    rw [task, Task.advancing.injEq] at advancing
    rcases advancing with ⟨rfl, rfl, -⟩
    have changed : after.actors[i]? = (run.update i change).actors[i]? := by rw [actors, update_actors]
    rw [updated, if_pos rfl, found] at changed
    rw [schedule, next]
    exact ⟨expected, change actor, changed, (congrArg _ (declared actor)).trans named⟩

/-- The row of the arrival. -/
theorem Recorded.arrival [NumberText] (recorded : Recorded run) {i : Nat} {step : ScheduleStep} {wait : Option Bool}
    (advancing : run.task = .advancing i step wait) {actor : Actor} (found : run.actors[i]? = some actor)
    (arrived : actor.checkpoint = step.checkpoint) :
    Due run.schedule run.events.length (run.eventRow .arrival run.next actor) := by
  have count : run.events.length = 2 * run.next + 1 := by
    have count := recorded.count
    rw [advancing] at count
    exact count
  rcases recorded.interval advancing with ⟨expected, owner, known, named⟩
  rw [found, Option.some.injEq] at known
  have half : run.events.length / 2 = run.next := by omega
  have odd : run.events.length % 2 ≠ 0 := by omega
  exact ⟨rfl, half.symm, by rw [if_neg odd]; rfl, step, by rw [half]; exact expected, known ▸ named, fun _ => arrived⟩

/-- An interval has been recorded and the state after it observed. -/
theorem Recorded.advance [NumberText] (recorded : Recorded run) {i : Nat} {step : ScheduleStep} {wait : Option Bool}
    (advancing : run.task = .advancing i step wait) {actor : Actor} (found : run.actors[i]? = some actor)
    (arrived : actor.checkpoint = step.checkpoint) {state : Json} (schedule : after.schedule = run.schedule)
    (events : after.events = run.events ++ [run.eventRow .arrival run.next actor])
    (observations : after.observations = run.observations ++ [Observation.mk (run.next + 1) state])
    (next : after.next = run.next + 1) (closing : after.task.closing = true) : Recorded after where
  rows := by
    rw [events, schedule]
    exact rows_append recorded.rows (recorded.arrival advancing found arrived)
  count := by
    have count := recorded.count
    rw [advancing] at count
    rw [events, next, (Task.closing_permits closing).1, List.length_append, count]
    rfl
  observed := by
    have observed := recorded.observed
    rw [advancing] at observed
    rw [observations, next, (Task.closing_permits closing).2, List.map_append, observed]
    exact List.range_succ.symm
  interval task := by rw [task] at closing; cases closing

section

variable [NumberText] {input : Input}

theorem Effect.recorded (sane : Sane run) (recorded : run.outcome = .completed → Recorded run)
    (effect : Effect run input after) : after.outcome = .completed → Recorded after := by
  intro completed
  have ongoing : run.stopped = false → Recorded run := fun going => recorded (sane.ongoing going).1
  cases effect with
  | halted halted => exact (halted.failed completed).elim
  | faulted _ _ halted => exact (halted.failed completed).elim
  | late stopped _ done kept closing =>
    have before := recorded done
    have resting := Task.closing_permits (sane.past stopped done).2.2
    have restingAfter := Task.closing_permits closing
    refine ⟨?_, ?_, ?_, ?_⟩
    · rw [kept.events, kept.schedule]
      exact before.rows
    · rw [kept.events, kept.next, restingAfter.1, ← resting.1]
      exact before.count
    · rw [kept.observations, kept.next, restingAfter.2, ← resting.2]
      exact before.observed
    · intro i step wait task
      rw [task] at closing
      cases closing
  | passed going => exact ⟨(ongoing going).rows, (ongoing going).count, (ongoing going).observed, (ongoing going).interval⟩
  | acquired going acquiring =>
    have before := ongoing going
    have count := before.count
    have observed := before.observed
    rw [acquiring] at count observed
    exact ⟨before.rows, count, observed, nofun⟩
  | ready going => exact (ongoing going).change rfl (fun _ => rfl) rfl rfl rfl rfl rfl
  | arrived going => exact (ongoing going).change rfl (fun _ => rfl) rfl rfl rfl rfl rfl
  | finished going => exact (ongoing going).change rfl (fun _ => rfl) rfl rfl rfl rfl rfl
  | requested going => exact (ongoing going).change rfl (fun _ => rfl) rfl rfl rfl rfl rfl
  | settled going =>
    rw [post_as]
    exact (ongoing going).change rfl (fun _ => rfl) rfl rfl rfl rfl rfl
  | exited going => exact (ongoing going).change rfl (fun _ => rfl) rfl rfl rfl rfl rfl
  | parked going starting =>
    have before := ongoing going
    have count := before.count
    have observed := before.observed
    rw [starting] at count observed
    exact ⟨before.rows, count, observed, nofun⟩
  | opened going starting =>
    have before := ongoing going
    have count := before.count
    have observed := before.observed
    rw [starting] at count observed
    refine ⟨before.rows, count, ?_, nofun⟩
    rw [List.map_append, observed]
    exact List.range_succ.symm
  | permitted going idle expected found named =>
    rw [post_as]
    exact (ongoing going).permit idle expected found named rfl (fun _ => rfl) rfl rfl rfl rfl rfl
  | reached going advancing =>
    have before := ongoing going
    have count := before.count
    have observed := before.observed
    rw [advancing] at count observed
    refine ⟨before.rows, count, observed, ?_⟩
    intro j step wait task
    cases task
    exact before.interval advancing
  | advanced going advancing found arrived =>
    exact (ongoing going).advance advancing found arrived rfl rfl rfl rfl rfl
  | completed going advancing found arrived quiet last kept stopped closing =>
    exact (ongoing going).advance advancing found arrived kept.schedule kept.events kept.observations kept.next closing

theorem Effect.tidy (sane : Sane run) (tidy : run.outcome = .completed → Tidy run) (effect : Effect run input after) :
    after.outcome = .completed → Tidy after := by
  intro completed
  have ongoing : run.stopped = false → Tidy run := fun going => tidy (sane.ongoing going).1
  cases effect with
  | halted halted => exact (halted.failed completed).elim
  | faulted _ _ halted => exact (halted.failed completed).elim
  | late _ _ done kept => exact kept.tidy (tidy done)
  | acquired going => exact ⟨(ongoing going).confirmed, nofun⟩
  | settled going =>
    rw [post_as]
    exact (ongoing going).same rfl rfl rfl
  | parked going => exact ⟨(ongoing going).confirmed, nofun⟩
  | opened going => exact ⟨(ongoing going).confirmed, nofun⟩
  | permitted going =>
    rw [post_as]
    exact ⟨(ongoing going).confirmed, nofun⟩
  | reached going => exact ⟨(ongoing going).confirmed, nofun⟩
  | advanced going => exact ⟨(ongoing going).confirmed, nofun⟩
  | completed going advancing found arrived quiet last kept => exact kept.tidy ((ongoing going).same rfl rfl rfl)
  | _ going => exact (ongoing going).same rfl rfl rfl

end

end Execution

section

variable [NumberText]

theorem run_recorded {setup : Setup} {trace : List Step} {run : Execution} (reached : Run setup trace run) :
    run.outcome = .completed → run.Recorded ∧ run.Tidy := by
  apply run_invariant (P := fun _ run => run.outcome = .completed → run.Recorded ∧ run.Tidy) ?_ ?_ reached
  · intro completed
    rcases setup.start_effect with fresh | ⟨-, failed⟩
    · have rows : ∀ k event, setup.start.events[k]? = some event → Due setup.start.schedule k event := by
        rw [fresh.events]
        intro k event found
        cases found
      have count : setup.start.events.length = 2 * setup.start.next + setup.start.task.permits := by
        rw [fresh.events, fresh.next, fresh.task]
        rfl
      have observed : setup.start.observations.map (·.afterSteps) =
          List.range (if setup.start.task.unobserved then setup.start.next else setup.start.next + 1) := by
        rw [fresh.observations, fresh.next, fresh.task]
        rfl
      refine ⟨⟨rows, count, observed, ?_⟩, ⟨?_, ?_⟩⟩
      · intro i step wait task
        rw [fresh.task] at task
        cases task
      · intro confirmed
        rw [fresh.cleanup] at confirmed
        cases confirmed
      · intro tearing
        rw [fresh.task] at tearing
        cases tearing
    · exact (failed completed).elim
  · intro trace run input output after before sane effect completed
    exact ⟨effect.recorded sane (fun done => (before done).1) completed,
      effect.tidy sane (fun done => (before done).2) completed⟩

end

/-! ### The checker -/

theorem Event.get (event : Event) : ∃ fields, event.json = .object fields ∧
    Fields.get fields (js "ordinal") = some (.number (.ofNat event.ordinal)) ∧
    Fields.get fields (js "step") = some (.number (.ofNat event.step)) ∧
    Fields.get fields (js "actor") = some (.string event.actor) ∧
    Fields.get fields (js "kind") = some (.string event.kind.text) ∧
    Fields.get fields (js "checkpoint") = some (.string event.checkpoint) := ⟨_, rfl, rfl, rfl, rfl, rfl, rfl⟩

theorem isNumber_ofNat (n : Nat) : isNumber (some (.number (.ofNat n))) n = true := by simp [isNumber]

theorem isString_self (text : JsString) : isString (some (.string text)) text = true := by simp [isString]

theorem validateEvent_due {schedule : CheckpointSchedule} {rows : List Event} {step : ScheduleStep} {i offset : Nat}
    (due : ∀ k row, rows[k]? = some row → Due schedule k row) (planned : schedule.steps[i]? = some step)
    (bit : offset < 2) (inside : i * 2 + offset < rows.length) :
    validateEvent (rows.map Event.json) step i offset = .ok () := by
  have found := List.getElem?_eq_getElem inside
  rcases due _ _ found with ⟨ordinal, index, kind, other, known, named, checkpoint⟩
  have half : (i * 2 + offset) / 2 = i := by omega
  have rest : (i * 2 + offset) % 2 = offset := by omega
  rw [half] at index known
  rw [planned, Option.some.injEq] at known
  subst known
  rw [rest] at kind checkpoint
  rcases (rows[i * 2 + offset]).get with ⟨fields, same, atOrdinal, atStep, atActor, atKind, atCheckpoint⟩
  have kindText : (rows[i * 2 + offset]).kind.text = if offset = 0 then js "permit" else js "arrival" := by
    rw [kind]
    split <;> rfl
  unfold validateEvent
  rw [List.getElem?_map, found, Option.map_some, same, object, ok_bind, atOrdinal, atStep, atActor, atKind, ordinal, index,
    named, kindText, isNumber_ofNat, isNumber_ofNat, isString_self, isString_self]
  by_cases last : offset = 1
  · rw [if_pos last, atCheckpoint, checkpoint last, isString_self]
    rfl
  · rw [if_neg last]
    rfl

theorem validateSuccess_due {schedule : CheckpointSchedule} {rows : List Event} {observations : List Observation}
    {e : Fields Json} (completed : Fields.get e (js "scheduleCompleted") = some (.bool true))
    (outcome : Fields.get e (js "outcome") = some (.string (js "completed")))
    (events : Fields.get e (js "events") = some (.array (rows.map Event.json)))
    (due : ∀ k row, rows[k]? = some row → Due schedule k row) (count : rows.length = 2 * schedule.steps.length)
    (observed : Fields.get e (js "observations") = some (.array (observations.map Observation.json)))
    (states : observations.length = schedule.steps.length + 1) : validateSuccess e schedule = .ok () := by
  have done : (isBool (Fields.get e (js "scheduleCompleted")) true &&
      isString (Fields.get e (js "outcome")) (js "completed")) = true := by
    rw [completed, outcome]
    decide
  have length : decide ((rows.map Event.json).length = schedule.steps.length * 2) = true := by
    rw [List.length_map, count]
    exact decide_eq_true (Nat.mul_comm _ _)
  have valid : (schedule.steps.zipIdx.forM fun step => do
      validateEvent (rows.map Event.json) step.1 step.2 0
      validateEvent (rows.map Event.json) step.1 step.2 1) = .ok () := by
    rw [forM_eq_ok]
    intro step member
    have planned := List.mem_zipIdx_iff_getElem?.mp member
    have inside : step.2 < schedule.steps.length := (List.getElem?_eq_some_iff.mp planned).1
    rw [validateEvent_due due planned (by omega) (by omega), ok_bind]
    exact validateEvent_due due planned (by omega) (by omega)
  have states : decide ((observations.map Observation.json).length = schedule.steps.length + 1) = true := by
    rw [List.length_map]
    exact decide_eq_true states
  unfold validateSuccess
  rw [requireValue_eq_ok.mpr done, ok_bind, events, array, ok_bind, requireValue_eq_ok.mpr length, ok_bind, valid, ok_bind,
    observed, array, ok_bind]
  exact requireValue_eq_ok.mpr states

/-- What the receipt of a successful execution says. -/
structure Certified (schedule : CheckpointSchedule) (e : Fields Json) : Prop where
  accepted : validateSuccess e schedule = .ok ()
  events : ∃ rows : List Event, Fields.get e (js "events") = some (.array (rows.map Event.json)) ∧
    rows.length = 2 * schedule.steps.length ∧ ∀ k row, rows[k]? = some row → Due schedule k row
  observations : ∃ rows : List Observation,
    Fields.get e (js "observations") = some (.array (rows.map Observation.json)) ∧
    rows.map (·.afterSteps) = List.range (schedule.steps.length + 1)
  cleanup : Fields.get e (js "cleanup") = some (.string (js "confirmed")) ∧
    Fields.get e (js "remainingActors") = some (.array [])

theorem passed_receipt_validates [NumberText] (setup : Setup) {trace : List Step} {run : Execution}
    (reached : Run setup trace run) (passed : Fields.get run.receipt (js "passed") = some (.bool true)) :
    Certified setup.schedule run.receipt := by
  have passes : run.passed = true := by
    have read : Fields.get run.receipt (js "passed") = some (.bool run.passed) := rfl
    rw [read, Option.some.injEq, Json.bool.injEq] at passed
    exact passed
  simp only [Execution.passed, Bool.and_eq_true, decide_eq_true_eq] at passes
  rcases passes with ⟨⟨completed, finished⟩, confirmed⟩
  have sane := run_sane reached
  rcases run_recorded reached completed with ⟨recorded, tidy⟩
  rcases sane.past (sane.completed finished) completed with ⟨-, next, closing⟩
  have schedule := run_schedule reached
  have resting := Task.closing_permits closing
  have count := recorded.count
  have observed := recorded.observed
  rw [resting.1, next, schedule, Nat.add_zero] at count
  rw [resting.2, if_neg (by decide), next, schedule] at observed
  have states : run.observations.length = setup.schedule.steps.length + 1 := by
    rw [← List.length_map (·.afterSteps), observed, List.length_range]
  have rows := recorded.rows
  rw [schedule] at rows
  have atCompleted : Fields.get run.receipt (js "scheduleCompleted") = some (.bool true) := finished ▸ rfl
  have atOutcome : Fields.get run.receipt (js "outcome") = some (.string (js "completed")) := by
    have read : Fields.get run.receipt (js "outcome") = some (.string run.outcome.text) := rfl
    rw [read, completed]
    rfl
  have atCleanup : Fields.get run.receipt (js "cleanup") = some (.string run.cleanup.text) := rfl
  have atRemaining : Fields.get run.receipt (js "remainingActors") = some (.array (run.remainingActors.map .string)) := rfl
  rw [confirmed] at atCleanup
  rw [tidy.confirmed confirmed] at atRemaining
  exact
    { accepted := validateSuccess_due atCompleted atOutcome rfl rows count rfl states
      events := ⟨run.events, rfl, count, rows⟩
      observations := ⟨run.observations, rfl, observed⟩
      cleanup := ⟨atCleanup, atRemaining⟩ }

set_option maxRecDepth 4000 in
theorem solo_receipt_validates :
    letI := integerTexts
    ∃ trace run, Run soloSetup trace run ∧ Fields.get run.receipt (js "passed") = some (.bool true) ∧
      Certified soloSetup.schedule run.receipt := by
  let _ := integerTexts
  have reached : Run soloSetup _ _ := Machine.Run.follow .start solo_followed
  exact ⟨_, _, reached, rfl, passed_receipt_validates soloSetup reached rfl⟩

end Mirror.Schedule
