import MirrorECMA.Schedule.Steps

namespace Mirror.Schedule

open ECMA

/-! ### The start -/

theorem Execution.admit_policy {run : Execution} {adapter : WorkerScheduleAdapter} {reentrant : Bool}
    (admitted : run.admit adapter reentrant = .ok ()) : budget run.policy.cleanupTimeoutMs = true := by
  unfold Execution.admit at admitted
  cases reentrant with
  | true => cases admitted
  | false =>
    cases valid : budget run.policy.cleanupTimeoutMs with
    | true => rfl
    | false =>
      rw [if_neg (by decide)] at admitted
      dsimp only at admitted
      rw [if_pos (.inr (.inl valid))] at admitted
      cases admitted

/-- An execution that waits for its factory. -/
structure Fresh (setup : Setup) (run : Execution) : Prop where
  schedule : run.schedule = setup.schedule
  actors : run.actors = setup.adapter.actors.map fun declaration => { declaration := declaration }
  policy : budget run.policy.cleanupTimeoutMs = true
  task : run.task = .acquiring
  stopped : run.stopped = false
  closed : run.closed = false
  outcome : run.outcome = .completed
  scheduleCompleted : run.scheduleCompleted = false
  cleanup : run.cleanup = .not_started
  events : run.events = []
  observations : run.observations = []
  next : run.next = 0
  pendingRequests : run.pendingRequests = 0
  posted : run.posted = []

/-- An execution waits for its factory or is refused. -/
theorem Setup.start_effect (setup : Setup) : Fresh setup setup.start ∨
    (setup.start.stopped = true ∧ setup.start.outcome ≠ .completed) := by
  have refused : ∀ (run : Execution) {outcome : ScheduleOutcome} (detail : JsString), outcome ≠ .completed →
      ({ run.fail outcome detail with closed := true } : Execution).stopped = true ∧
        ({ run.fail outcome detail with closed := true } : Execution).outcome ≠ .completed := by
    intro run outcome detail failure
    have failed := Execution.fail_halted run _ detail failure
    exact ⟨failed.stopped, failed.failed⟩
  unfold Setup.start Execution.start
  dsimp only
  split
  · exact .inr (refused _ _ (by decide))
  · rename_i admitted
    have policy := Execution.admit_policy admitted
    split
    · exact .inr (refused _ _ (by decide))
    · split
      · exact .inr (refused _ _ (by decide))
      · exact .inl ⟨rfl, rfl, policy, rfl, rfl, rfl, rfl, rfl, rfl, rfl, rfl, rfl, rfl, rfl⟩

theorem Fresh.sane {setup : Setup} {run : Execution} (fresh : Fresh setup run) : run.Sane where
  failed other := (other fresh.outcome).elim
  past stopped := by rw [fresh.stopped] at stopped; cases stopped
  completed done := by rw [fresh.scheduleCompleted] at done; cases done
  closed closed := by rw [fresh.closed] at closed; cases closed
  task _ := by rw [fresh.task]; rfl
  policy _ := fresh.policy

namespace Execution

variable {run after : Execution}

theorem post_as (run : Execution) (i : Nat) (message : Post) :
    run.post i message = { run with posted := (run.post i message).posted } := by
  unfold post
  split <;> rfl

/-- A sane execution that goes on. -/
theorem Sane.further (sane : Sane run) (going : run.stopped = false) (stopped : after.stopped = run.stopped)
    (outcome : after.outcome = run.outcome) (completed : after.scheduleCompleted = run.scheduleCompleted)
    (closed : after.closed = run.closed) (policy : after.policy = run.policy) (task : after.task.ongoing = true) :
    Sane after where
  failed other := stopped ▸ sane.failed (outcome ▸ other)
  past ended := by rw [stopped, going] at ended; cases ended
  completed done := stopped ▸ sane.completed (completed ▸ done)
  closed shut := stopped ▸ sane.closed (closed ▸ shut)
  task _ := task
  policy _ := policy ▸ sane.policy going

theorem Effect.sane [NumberText] {input : Input} (sane : Sane run) (effect : Effect run input after) : Sane after := by
  cases effect with
  | halted halted => exact halted.sane
  | faulted _ _ halted => exact halted.sane
  | late stopped stoppedAfter completed kept closing =>
    have past := sane.past stopped completed
    have next : after.next = after.schedule.steps.length := by rw [kept.next, kept.schedule, past.2.1]
    exact
      { failed := fun _ => stoppedAfter
        past := fun _ _ => ⟨kept.scheduleCompleted.trans past.1, next, closing⟩
        completed := fun _ => stoppedAfter
        closed := fun _ => stoppedAfter
        task := fun going => by rw [stoppedAfter] at going; cases going
        policy := fun going => by rw [stoppedAfter] at going; cases going }
  | passed going => exact sane.further going rfl rfl rfl rfl rfl (sane.task going)
  | acquired going => exact sane.further going rfl rfl rfl rfl rfl rfl
  | ready going => exact sane.further going rfl rfl rfl rfl rfl (sane.task going)
  | arrived going => exact sane.further going rfl rfl rfl rfl rfl (sane.task going)
  | finished going => exact sane.further going rfl rfl rfl rfl rfl (sane.task going)
  | requested going => exact sane.further going rfl rfl rfl rfl rfl (sane.task going)
  | settled going =>
    rw [post_as]
    exact sane.further going rfl rfl rfl rfl rfl (sane.task going)
  | exited going => exact sane.further going rfl rfl rfl rfl rfl (sane.task going)
  | parked going => exact sane.further going rfl rfl rfl rfl rfl rfl
  | opened going => exact sane.further going rfl rfl rfl rfl rfl rfl
  | permitted going =>
    rw [post_as]
    exact sane.further going rfl rfl rfl rfl rfl rfl
  | reached going => exact sane.further going rfl rfl rfl rfl rfl rfl
  | advanced going => exact sane.further going rfl rfl rfl rfl rfl rfl
  | completed going task found arrived quiet last kept stopped closing =>
    have next : after.next = after.schedule.steps.length := by rw [kept.next, kept.schedule]; exact last
    exact
      { failed := fun _ => stopped
        past := fun _ _ => ⟨kept.scheduleCompleted, next, closing⟩
        completed := fun _ => stopped
        closed := fun _ => stopped
        task := fun going => by rw [stopped] at going; cases going
        policy := fun going => by rw [stopped] at going; cases going }

/-- An execution that has stopped does not go on. -/
theorem Effect.going [NumberText] {input : Input} (effect : Effect run input after) (further : after.stopped = false) :
    run.stopped = false := by
  cases effect with
  | halted halted => rw [halted.stopped] at further; cases further
  | faulted _ _ halted => rw [halted.stopped] at further; cases further
  | late _ stopped => rw [stopped] at further; cases further
  | _ going => exact going

theorem Effect.schedule [NumberText] {input : Input} (effect : Effect run input after) : after.schedule = run.schedule := by
  cases effect with
  | halted halted => exact halted.schedule
  | faulted _ _ halted => exact halted.schedule
  | late _ _ _ kept => exact kept.schedule
  | completed going task found arrived quiet last kept => exact kept.schedule
  | settled => rw [post_as]; rfl
  | permitted => rw [post_as]; rfl
  | _ => rfl

/-- What failed first is the outcome. -/
theorem Effect.outcome [NumberText] {input : Input} (sane : Sane run) (effect : Effect run input after)
    (failed : run.outcome ≠ .completed) : after.outcome = run.outcome := by
  have stopped := sane.failed failed
  cases effect with
  | halted halted => exact halted.outcome failed
  | faulted _ _ halted => exact halted.outcome failed
  | late _ _ completed => exact (failed completed).elim
  | _ going => cases stopped.symm.trans going

end Execution

theorem Setup.start_schedule (setup : Setup) : setup.start.schedule = setup.schedule := by
  have refused : ∀ (run : Execution) {outcome : ScheduleOutcome} (detail : JsString), outcome ≠ .completed →
      ({ run.fail outcome detail with closed := true } : Execution).schedule = run.schedule :=
    fun run _ detail failure => (Execution.fail_halted run _ detail failure).schedule
  unfold Setup.start Execution.start
  dsimp only
  split
  · exact refused _ _ (by decide)
  · split
    · exact refused _ _ (by decide)
    · split
      · exact refused _ _ (by decide)
      · rfl

theorem Setup.start_sane (setup : Setup) : setup.start.Sane := by
  rcases setup.start_effect with fresh | ⟨stopped, failed⟩
  · exact fresh.sane
  · have halted : Execution.Halted setup.start setup.start := (Execution.Leads.refl _).late stopped failed
    exact halted.sane

variable [NumberText]

theorem run_sane {setup : Setup} {trace : List Step} {run : Execution} (reached : Run setup trace run) : run.Sane := by
  apply Machine.Run.invariant (P := fun _ run => run.Sane) setup.start_sane ?_ reached
  intro trace run input output after sane taken
  exact (Execution.step_effect sane taken).sane sane

/-- What holds initially and is kept by every effect holds in every run. -/
theorem run_invariant {setup : Setup} {P : List Step → Execution → Prop} (start : P [] setup.start)
    (keeps : ∀ trace run input output after, P trace run → run.Sane → Execution.Effect run input after →
      P (trace ++ [⟨run, input, output, after⟩]) after)
    {trace : List Step} {run : Execution} (reached : Run setup trace run) : P trace run := by
  have both : run.Sane ∧ P trace run := by
    apply Machine.Run.invariant (P := fun trace run => run.Sane ∧ P trace run) ⟨setup.start_sane, start⟩ ?_ reached
    intro trace run input output after holds taken
    have effect := Execution.step_effect holds.1 taken
    exact ⟨effect.sane holds.1, keeps trace run input output after holds.2 holds.1 effect⟩
  exact both.2

theorem run_schedule {setup : Setup} {trace : List Step} {run : Execution} (reached : Run setup trace run) :
    run.schedule = setup.schedule := by
  apply run_invariant (P := fun _ run => run.schedule = setup.schedule) setup.start_schedule ?_ reached
  intro trace run input output after same sane effect
  exact effect.schedule.trans same

/-- A step of a run is taken by a sane execution. -/
theorem run_effect {setup : Setup} {trace : List Step} {run : Execution} (reached : Run setup trace run) {s : Step}
    (member : s ∈ trace) : s.before.Sane ∧ Execution.Effect s.before s.input s.after := by
  rcases List.append_of_mem member with ⟨earlier, later, rfl⟩
  have parts := reached.split
  have sane := run_sane parts.1
  exact ⟨sane, Execution.step_effect sane parts.2⟩

end Mirror.Schedule
