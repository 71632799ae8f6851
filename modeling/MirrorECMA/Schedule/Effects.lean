import MirrorECMA.Schedule.Execution

namespace Mirror.Schedule.Execution

open ECMA

variable {run middle after : Execution}

/-! ### What the parts of a step do -/

def Unpermitted (run after : Execution) : Prop :=
  ∃ posts, after.posted = run.posted ++ posts ∧ ∀ p ∈ posts, p.2 ≠ .permit

theorem Unpermitted.refl (run : Execution) : Unpermitted run run := ⟨[], (List.append_nil _).symm, by simp⟩

theorem Unpermitted.trans (first : Unpermitted run middle) (second : Unpermitted middle after) : Unpermitted run after := by
  rcases first with ⟨posts, grown, none⟩
  rcases second with ⟨later, grownLater, noneLater⟩
  have whole : after.posted = run.posted ++ (posts ++ later) := by rw [grownLater, grown, List.append_assoc]
  refine ⟨posts ++ later, whole, ?_⟩
  intro p member
  rcases List.mem_append.mp member with member | member
  · exact none p member
  · exact noneLater p member

/-- The outcome and the evidence stay, and no permit is posted. -/
structure Leads (run after : Execution) : Prop where
  schedule : after.schedule = run.schedule
  outcome : after.outcome = run.outcome
  events : after.events = run.events
  observations : after.observations = run.observations
  posts : Unpermitted run after

theorem Leads.refl (run : Execution) : Leads run run := ⟨rfl, rfl, rfl, rfl, .refl run⟩

theorem Leads.trans (first : Leads run middle) (second : Leads middle after) : Leads run after :=
  ⟨second.schedule.trans first.schedule, second.outcome.trans first.outcome, second.events.trans first.events,
    second.observations.trans first.observations, first.posts.trans second.posts⟩

/-- No actor remains at the teardown nor after it. -/
structure Tidy (run : Execution) : Prop where
  confirmed : run.cleanup = .confirmed → run.remainingActors = []
  tearing : run.task = .tearing → run.remainingActors = []

/-- Nothing is recorded at all. -/
structure Kept (run after : Execution) : Prop extends Leads run after where
  scheduleCompleted : after.scheduleCompleted = run.scheduleCompleted
  next : after.next = run.next
  tidy : run.Tidy → after.Tidy

theorem Tidy.same (tidy : Tidy run) (cleanup : after.cleanup = run.cleanup)
    (remaining : after.remainingActors = run.remainingActors) (task : after.task = run.task) : Tidy after where
  confirmed done := remaining.trans (tidy.confirmed (cleanup ▸ done))
  tearing torn := remaining.trans (tidy.tearing (task ▸ torn))

theorem Kept.refl (run : Execution) : Kept run run := ⟨.refl run, rfl, rfl, id⟩

theorem Kept.trans (first : Kept run middle) (second : Kept middle after) : Kept run after :=
  ⟨first.toLeads.trans second.toLeads, second.scheduleCompleted.trans first.scheduleCompleted,
    second.next.trans first.next, second.tidy ∘ first.tidy⟩

/-- The execution has stopped with a failure, and keeps the one it had. -/
structure Halted (run after : Execution) : Prop where
  schedule : after.schedule = run.schedule
  stopped : after.stopped = true
  failed : after.outcome ≠ .completed
  outcome : run.outcome ≠ .completed → after.outcome = run.outcome
  events : after.events = run.events
  observations : after.observations = run.observations
  posts : Unpermitted run after

theorem Leads.halted (leads : Leads run middle) (halted : Halted middle after) : Halted run after where
  schedule := halted.schedule.trans leads.schedule
  stopped := halted.stopped
  failed := halted.failed
  outcome other := (halted.outcome (leads.outcome ▸ other)).trans leads.outcome
  events := halted.events.trans leads.events
  observations := halted.observations.trans leads.observations
  posts := leads.posts.trans halted.posts

theorem Halted.leads (halted : Halted run middle) (leads : Leads middle after) (stopped : after.stopped = true) :
    Halted run after where
  schedule := leads.schedule.trans halted.schedule
  stopped := stopped
  failed := leads.outcome ▸ halted.failed
  outcome other := leads.outcome.trans (halted.outcome other)
  events := leads.events.trans halted.events
  observations := leads.observations.trans halted.observations
  posts := halted.posts.trans leads.posts

theorem Halted.again (first : Halted run middle) (second : Halted middle after) : Halted run after where
  schedule := second.schedule.trans first.schedule
  stopped := second.stopped
  failed := second.failed
  outcome other := (second.outcome first.failed).trans (first.outcome other)
  events := second.events.trans first.events
  observations := second.observations.trans first.observations
  posts := first.posts.trans second.posts

/-- A stopped execution that has failed stays so, whatever leads on. -/
theorem Leads.late (leads : Leads run after) (stopped : after.stopped = true) (failed : run.outcome ≠ .completed) :
    Halted run after where
  schedule := leads.schedule
  stopped := stopped
  failed := leads.outcome ▸ failed
  outcome _ := leads.outcome
  events := leads.events
  observations := leads.observations
  posts := leads.posts

@[simp] theorem cancelAll_posted (run : Execution) : Unpermitted run run.cancelAll := by
  refine ⟨_, rfl, ?_⟩
  intro p member
  rcases List.mem_map.mp member with ⟨i, -, rfl⟩
  simp

theorem cancelAll_kept (run : Execution) : Kept run run.cancelAll :=
  ⟨⟨rfl, rfl, rfl, rfl, cancelAll_posted run⟩, rfl, rfl, fun tidy => tidy.same rfl rfl rfl⟩

theorem update_kept (run : Execution) (i : Nat) (change : Actor → Actor) : Kept run (run.update i change) :=
  ⟨⟨rfl, rfl, rfl, rfl, .refl _⟩, rfl, rfl, fun tidy => tidy.same rfl rfl rfl⟩

theorem post_kept (run : Execution) (i : Nat) (message : Post) (other : message ≠ .permit) :
    Kept run (run.post i message) := by
  unfold post
  split
  · have posts : Unpermitted run { run with posted := run.posted ++ [(i, message)] } := by
      refine ⟨[(i, message)], rfl, ?_⟩
      intro p member
      rw [List.mem_singleton.mp member]
      exact other
    exact ⟨⟨rfl, rfl, rfl, rfl, posts⟩, rfl, rfl, fun tidy => tidy.same rfl rfl rfl⟩
  · exact .refl _

@[simp] theorem post_stopped (run : Execution) (i : Nat) (message : Post) : (run.post i message).stopped = run.stopped := by
  unfold post
  split <;> rfl

@[simp] theorem post_task (run : Execution) (i : Nat) (message : Post) : (run.post i message).task = run.task := by
  unfold post
  split <;> rfl

theorem post_eq {i : Nat} {actor : Actor} (found : run.actors[i]? = some actor) (port : actor.port = true)
    (message : Post) : run.post i message = { run with posted := run.posted ++ [(i, message)] } := by
  unfold post
  rw [found, Option.any_some, if_pos port]

theorem fail_halted (run : Execution) (outcome : ScheduleOutcome) (detail : JsString)
    (failure : outcome ≠ .completed) : Halted run (run.fail outcome detail) := by
  unfold fail
  by_cases failed : run.outcome = .completed
  · rw [if_pos failed]
    dsimp only
    split
    · exact ⟨rfl, rfl, failure, fun other => (other failed).elim, rfl, rfl, .refl _⟩
    · exact ⟨rfl, rfl, failure, fun other => (other failed).elim, rfl, rfl, cancelAll_posted _⟩
  · rw [if_neg failed]
    dsimp only
    split
    · exact ⟨rfl, rfl, failed, fun _ => rfl, rfl, rfl, .refl _⟩
    · exact ⟨rfl, rfl, failed, fun _ => rfl, rfl, rfl, cancelAll_posted _⟩

@[simp] theorem fail_actors (run : Execution) (outcome : ScheduleOutcome) (detail : JsString) :
    (run.fail outcome detail).actors = run.actors := by
  unfold fail
  split <;> dsimp only <;> split <;> rfl

@[simp] theorem fail_pendingRequests (run : Execution) (outcome : ScheduleOutcome) (detail : JsString) :
    (run.fail outcome detail).pendingRequests = run.pendingRequests := by
  unfold fail
  split <;> dsimp only <;> split <;> rfl

@[simp] theorem fail_stopped (run : Execution) (outcome : ScheduleOutcome) (detail : JsString) :
    (run.fail outcome detail).stopped = true := by
  unfold fail
  split <;> dsimp only <;> split <;> rfl

theorem wait_effect (run : Execution) (predicate : Bool) (task : Option Bool → Task) :
    (run.stopped = true ∧ run.wait predicate task = { run with task := task (some false) }) ∨
      Halted run (run.wait predicate task) ∨
      (run.stopped = false ∧ run.wait predicate task = { run with task := task (if predicate then some true else none) }) := by
  have fails : ∀ {outcome : ScheduleOutcome} (detail : JsString), outcome ≠ .completed →
      Halted run { run.fail outcome detail with task := task (some false) } := fun detail failure =>
    (fail_halted run _ detail failure).leads ⟨rfl, rfl, rfl, rfl, .refl _⟩ (fail_stopped run _ detail)
  unfold wait waitUntil
  split
  · rename_i stopped
    exact .inl ⟨stopped, rfl⟩
  · rename_i going
    split
    · exact .inr (.inl (fails _ (by simp)))
    · split
      · exact .inr (.inl (fails _ (by simp)))
      · refine .inr (.inr ⟨Bool.not_eq_true _ ▸ going, ?_⟩)
        cases predicate <;> rfl

theorem abort_effect (run : Execution) :
    run.abort = { run with signalAborted := true } ∨ Halted run run.abort := by
  unfold abort
  simp only
  split
  · have leads : Leads run { run with signalAborted := true } := ⟨rfl, rfl, rfl, rfl, .refl _⟩
    exact .inr (leads.halted (fail_halted _ _ _ (by simp)))
  · exact .inl rfl

theorem abort_leads (run : Execution) : Leads run run.abort ∨ Halted run run.abort := by
  rcases abort_effect run with same | halted
  · exact .inl (same ▸ ⟨rfl, rfl, rfl, rfl, .refl _⟩)
  · exact .inr halted

theorem openObserver_effect (run : Execution) (observed : Observed) : Halted run (run.openObserver observed) ∨
    ∃ now aborted, run.openObserver observed = { run with observing := true, now := now, signalAborted := aborted } := by
  unfold openObserver
  dsimp only
  split
  · rcases abort_effect { run with observing := true, now := run.now + observed.elapsed } with unheard | halted
    · exact .inr ⟨_, _, unheard⟩
    · have leads : Leads run { run with observing := true, now := run.now + observed.elapsed } := ⟨rfl, rfl, rfl, rfl, .refl _⟩
      exact .inl (leads.halted halted)
  · exact .inr ⟨_, _, rfl⟩

theorem closeObserver_leads (run : Execution) : Leads run run.closeObserver := by
  unfold closeObserver
  dsimp only
  split
  · exact ⟨rfl, rfl, rfl, rfl, cancelAll_posted _⟩
  · exact ⟨rfl, rfl, rfl, rfl, .refl _⟩

theorem closeObserver_stopped (run : Execution) : run.closeObserver.stopped = run.stopped := by
  unfold closeObserver
  dsimp only
  split <;> rfl

theorem closeObserver_going {run : Execution} (going : run.stopped = false) :
    run.closeObserver = { run with observing := false } := by
  unfold closeObserver
  simp [going]

section

variable [NumberText]

theorem event_effect (run : Execution) (kind : EventKind) (index : Nat) (actor : Actor) :
    Halted run (run.event kind index actor) ∨ ∃ bytes, run.event kind index actor =
      { run with evidenceBytes := bytes, events := run.events ++ [run.eventRow kind index actor] } := by
  unfold event
  dsimp only
  generalize run.evidenceBytes + utf8Length (jsonStringify (run.eventRow kind index actor).json) = bytes
  split
  · have leads : Leads run { run with evidenceBytes := bytes } := ⟨rfl, rfl, rfl, rfl, .refl _⟩
    exact .inl (leads.halted (fail_halted _ _ _ (by simp)))
  · exact .inr ⟨bytes, rfl⟩

theorem recordState_effect (run : Execution) (value : Except JsString Json) :
    (run.recordState value = run ∧ run.stopped = true) ∨ Halted run (run.recordState value) ∨
      (run.stopped = false ∧ ∃ state bytes, run.recordState value =
        { run with evidenceBytes := bytes, observations := run.observations ++ [Observation.mk run.next state] }) := by
  unfold recordState
  cases value with
  | error text => exact .inr (.inl (fail_halted _ _ _ (by simp)))
  | ok state =>
    dsimp only
    split
    · rename_i stopped
      exact .inl ⟨rfl, stopped⟩
    · rename_i going
      split
      · exact .inr (.inl (fail_halted _ _ _ (by simp)))
      · split
        · exact .inr (.inl (fail_halted _ _ _ (by simp)))
        · exact .inr (.inr ⟨Bool.not_eq_true _ ▸ going, state, _, rfl⟩)

theorem observe_effect (run : Execution) (observed : Observed) :
    (observe run observed = run ∧ run.stopped = true) ∨ Halted run (observe run observed) ∨
      (run.stopped = false ∧ run.quiescent = true ∧ ∃ state bytes now aborted,
        observe run observed = { run with
          observing := false, signalAborted := aborted, now := now, evidenceBytes := bytes
          observations := run.observations ++ [Observation.mk run.next state] }) := by
  unfold observe
  by_cases stopped : run.stopped = true
  · rw [if_pos stopped]
    exact .inl ⟨rfl, stopped⟩
  rw [if_neg stopped]
  have going : run.stopped = false := Bool.not_eq_true _ ▸ stopped
  by_cases restless : run.quiescent = false
  · rw [if_pos restless]
    exact .inr (.inl (fail_halted _ _ _ (by simp)))
  rw [if_neg restless]
  have quiet : run.quiescent = true := Bool.not_eq_false _ ▸ restless
  have closes : ∀ ended, Halted run ended → Halted run ended.closeObserver := fun ended halted =>
    halted.leads (closeObserver_leads ended) ((closeObserver_stopped ended).trans halted.stopped)
  rcases openObserver_effect run observed with halted | ⟨now, aborted, opened⟩
  · rcases recordState_effect (run.openObserver observed) observed.value with ⟨same, -⟩ | failed | ⟨further, -⟩
    · rw [same]
      exact .inr (.inl (closes _ halted))
    · exact .inr (.inl (closes _ (halted.again failed)))
    · rw [halted.stopped] at further
      cases further
  · rw [opened]
    have leads : Leads run { run with observing := true, now := now, signalAborted := aborted } :=
      ⟨rfl, rfl, rfl, rfl, .refl _⟩
    rcases recordState_effect { run with observing := true, now := now, signalAborted := aborted } observed.value with
      ⟨-, halted⟩ | failed | ⟨-, state, bytes, recorded⟩
    · exact (stopped halted).elim
    · exact .inr (.inl (closes _ (leads.halted failed)))
    · rw [recorded, closeObserver_going (by exact going)]
      exact .inr (.inr ⟨going, quiet, state, bytes, now, aborted, rfl⟩)

end

end Mirror.Schedule.Execution
