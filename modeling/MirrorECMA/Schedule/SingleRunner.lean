import MirrorECMA.ECMA.Integers
import MirrorECMA.Schedule.Runs

namespace Mirror.Schedule

open ECMA

/-! ### Permits -/

/-- A permit is posted to actor `i`. -/
def Permits (s : Step) (i : Nat) : Prop :=
  ∃ posts, s.after.posted = s.before.posted ++ posts ∧ (i, Post.permit) ∈ posts

/-- Actor `i` arrives or exits. -/
def Consumes (s : Step) (i : Nat) : Prop :=
  (∃ checkpoint, s.input = .message i (.arrival checkpoint)) ∨ ∃ code, s.input = .exit i code

/-- Actor `i` holds a permit. -/
def Holds (trace : List Step) (i : Nat) : Prop :=
  ∃ earlier s later, trace = earlier ++ s :: later ∧ Permits s i ∧ ∀ t ∈ later, ¬ Consumes t i

theorem holds_last {trace : List Step} {t : Step} {i : Nat} :
    Holds (trace ++ [t]) i ↔ Permits t i ∨ (Holds trace i ∧ ¬ Consumes t i) := by
  constructor
  · intro holds
    rcases holds with ⟨earlier, s, later, whole, permits, kept⟩
    rcases List.eq_nil_or_concat later with rfl | ⟨front, last, rfl⟩
    · have last := List.cons.inj (List.append_inj' whole rfl).2
      exact .inl (last.1 ▸ permits)
    · have shifted : trace ++ [t] = (earlier ++ s :: front) ++ [last] := by simpa using whole
      have parts := List.append_inj' shifted rfl
      have same := (List.cons.inj parts.2).1
      exact .inr ⟨⟨earlier, s, front, parts.1, permits, fun u member => kept u (by simp [member])⟩,
        same ▸ kept last (by simp)⟩
  · intro either
    rcases either with permits | ⟨⟨earlier, s, later, whole, permits, kept⟩, unconsumed⟩
    · exact ⟨trace, t, [], rfl, permits, by simp⟩
    · refine ⟨earlier, s, later ++ [t], by rw [whole]; simp, permits, ?_⟩
      intro u member
      rcases List.mem_append.mp member with member | member
      · exact kept u member
      · rw [List.mem_singleton.mp member]
        exact unconsumed

theorem not_permits {run after : Execution} {input : Input} {output : Output} {i : Nat}
    (kept : Execution.Unpermitted run after) : ¬ Permits ⟨run, input, output, after⟩ i := by
  intro permits
  rcases permits with ⟨posts, grown, member⟩
  rcases kept with ⟨others, same, none⟩
  have equal := List.append_cancel_left (grown.symm.trans same)
  exact none _ (equal ▸ member) rfl

/-! ### Phases -/

def Actor.rests (actor : Actor) : Prop := actor.phase = .parked ∨ actor.phase = .finished

def Actor.runs (actor : Actor) : Prop := actor.phase = .running ∨ actor.phase = .finishing

theorem Actor.rests.not_runs {actor : Actor} (rests : actor.rests) : ¬ actor.runs := by
  intro runs
  rcases rests with rests | rests <;> rcases runs with runs | runs <;> rw [rests] at runs <;> cases runs

/-- Whether actor `j` is at rest: the owner of an interval is when it has arrived. -/
def Task.parks (j : Nat) : Task → Prop
  | .idle => True
  | .advancing i _ arrived => j ≠ i ∨ arrived = some true
  | _ => False

/-- The actor whose interval is under way. -/
def Task.owner : Task → Option Nat
  | .advancing i _ _ => some i
  | _ => none

namespace Execution

variable {run after : Execution}

theorem update_actors (run : Execution) (i : Nat) (change : Actor → Actor) :
    (run.update i change).actors = run.actors.modify i change := rfl

theorem updated (run : Execution) (i j : Nat) (change : Actor → Actor) :
    (run.update i change).actors[j]? = if i = j then (run.actors[j]?).map change else run.actors[j]? := by
  rw [update_actors, List.getElem?_modify]
  by_cases same : i = j
  · simp only [if_pos same]
    rfl
  · simp only [if_neg same]
    exact Option.map_id'

/-- Only the owner of the interval runs, the others are at rest, and the requests are counted. -/
structure Owned (run : Execution) : Prop where
  rests : ∀ {j actor}, run.actors[j]? = some actor → run.task.parks j → actor.rests
  runs : ∀ {j actor}, run.actors[j]? = some actor → actor.runs → run.task.owner = some j
  pending : run.pendingRequests = run.actors.countP (·.requestPending.isSome)

theorem countP_modify {α : Type} (p : α → Bool) (change : α → α) (l : List α) (i : Nat) {x : α} (found : l[i]? = some x) :
    (l.modify i change).countP p + (if p x then 1 else 0) = l.countP p + if p (change x) then 1 else 0 := by
  induction l generalizing i with
  | nil => cases found
  | cons y rest ih =>
    cases i with
    | zero =>
      cases Option.some.inj found
      rw [List.modify_zero_cons, List.countP_cons, List.countP_cons]
      omega
    | succ i =>
      have same := ih i found
      rw [List.modify_succ_cons, List.countP_cons, List.countP_cons]
      omega

/-- One actor changes, to rest unless it may run. -/
theorem Owned.change (owned : Owned run) {i : Nat} {actor : Actor} (found : run.actors[i]? = some actor)
    {change : Actor → Actor} (actors : after.actors = run.actors.modify i change)
    (tasks : ∀ j, j ≠ i → after.task.parks j → run.task.parks j) (phase : after.task.parks i → (change actor).rests)
    (owners : ∀ j, j ≠ i → run.task.owner = some j → after.task.owner = some j)
    (owner : (change actor).runs → after.task.owner = some i)
    (pending : after.pendingRequests + (if actor.requestPending.isSome then 1 else 0) =
      run.pendingRequests + if (change actor).requestPending.isSome then 1 else 0) : Owned after where
  rests {j other} known parked := by
    have known : (run.update i change).actors[j]? = some other := by rw [update_actors, ← actors]; exact known
    rw [updated] at known
    by_cases same : i = j
    · subst same
      rw [if_pos rfl, found] at known
      cases known
      exact phase parked
    · rw [if_neg same] at known
      exact owned.rests known (tasks j (Ne.symm same) parked)
  runs {j other} known runs := by
    have known : (run.update i change).actors[j]? = some other := by rw [update_actors, ← actors]; exact known
    rw [updated] at known
    by_cases same : i = j
    · subst same
      rw [if_pos rfl, found] at known
      cases known
      exact owner runs
    · rw [if_neg same] at known
      exact owners j (Ne.symm same) (owned.runs known runs)
  pending := by
    have counted := countP_modify (·.requestPending.isSome) change run.actors i found
    have before := owned.pending
    rw [actors]
    omega

/-- An actor that rests neither starts nor runs. -/
theorem Owned.busy (owned : Owned run) {i : Nat} {actor : Actor} (found : run.actors[i]? = some actor)
    (phase : actor.phase = .starting ∨ actor.phase = .running) : ¬ run.task.parks i := by
  intro parked
  rcases owned.rests found parked with rests | rests <;> rcases phase with phase | phase <;> rw [rests] at phase <;>
    cases phase

theorem quiescent_iff (run : Execution) : run.quiescent = true ↔
    run.pendingRequests = 0 ∧ ∀ actor ∈ run.actors, actor.rests := by
  unfold quiescent Actor.rests
  simp

theorem quiescent_rests (quiet : run.quiescent = true) {j : Nat} {actor : Actor} (found : run.actors[j]? = some actor) :
    actor.rests :=
  ((quiescent_iff run).mp quiet).2 actor (List.mem_of_getElem? found)

/-- The interval ends when every actor is at rest. -/
theorem Owned.quiet (owned : Owned run) (quiet : run.quiescent = true) (actors : after.actors = run.actors)
    (pending : after.pendingRequests = run.pendingRequests) (task : after.task = .idle) : Owned after where
  rests {j actor} found _ := quiescent_rests quiet (actors ▸ found)
  runs {j actor} found runs := ((quiescent_rests quiet (actors ▸ found)).not_runs runs).elim
  pending := by rw [pending, actors]; exact owned.pending

section

variable [NumberText] {input : Input}

theorem Effect.owned (owned : run.stopped = false → Owned run) (effect : Effect run input after) :
    after.stopped = false → Owned after := by
  intro further
  cases effect with
  | halted halted => rw [halted.stopped] at further; cases further
  | faulted _ _ halted => rw [halted.stopped] at further; cases further
  | late _ stopped => rw [stopped] at further; cases further
  | passed going => exact ⟨(owned going).rests, (owned going).runs, (owned going).pending⟩
  | @acquired program spawn threads actors going acquiring made manned =>
    have same : actors.map (·.requestPending) = run.actors.map (·.requestPending) := by
      apply List.ext_getElem?
      intro j
      rw [List.getElem?_map, List.getElem?_map, manned j, Option.map_map]
      rfl
    have counted : ∀ others : List Actor, others.countP (·.requestPending.isSome) =
        (others.map (·.requestPending)).countP Option.isSome := fun others => by
      rw [List.countP_map]
      rfl
    have pending : run.pendingRequests = actors.countP (·.requestPending.isSome) := by
      rw [(owned going).pending, counted, counted, same]
    refine ⟨fun _ parked => parked.elim, ?_, pending⟩
    intro j actor known runs
    rw [manned, Option.map_eq_some_iff] at known
    rcases known with ⟨before, found, rfl⟩
    have owner := (owned going).runs found runs
    rw [acquiring] at owner
    cases owner
  | @ready i actor threadId going found =>
    have rests : Actor.rests { actor with threadId := threadId, phase := .parked } := .inl rfl
    exact (owned going).change found rfl (fun _ _ parked => parked) (fun _ => rests) (fun _ _ owner => owner)
      (fun runs => (rests.not_runs runs).elim) rfl
  | @arrived i actor name going found =>
    have rests : Actor.rests { actor with checkpoint := name, phase := .parked } := .inl rfl
    exact (owned going).change found rfl (fun _ _ parked => parked) (fun _ => rests) (fun _ _ owner => owner)
      (fun runs => (rests.not_runs runs).elim) rfl
  | finished going found port running =>
    have busy := (owned going).busy found (.inr running)
    exact (owned going).change found rfl (fun _ _ parked => parked) (fun parked => (busy parked).elim)
      (fun _ _ owner => owner) (fun _ => (owned going).runs found (.inl running)) rfl
  | requested going found port running idle =>
    have busy := (owned going).busy found (.inr running)
    exact (owned going).change found rfl (fun _ _ parked => parked) (fun parked => (busy parked).elim)
      (fun _ _ owner => owner) (fun _ => (owned going).runs found (.inl running)) (by rw [idle]; rfl)
  | @settled i id actor value going found pending =>
    have counted : 0 < run.pendingRequests := by
      rw [(owned going).pending, List.countP_pos_iff]
      exact ⟨actor, List.mem_of_getElem? found, by rw [pending]; rfl⟩
    have answered : run.pendingRequests - 1 + (if actor.requestPending.isSome then 1 else 0) = run.pendingRequests + 0 := by
      rw [pending, Option.isSome_some, if_pos rfl]
      omega
    have rests : run.task.parks i → ({ actor with requestPending := none } : Actor).rests := fun parked =>
      have rests : actor.rests := (owned going).rests found parked
      rests
    have owner : Actor.runs { actor with requestPending := none } → run.task.owner = some i := fun runs =>
      have runs : actor.runs := runs
      (owned going).runs found runs
    rw [post_as]
    exact (owned going).change found rfl (fun _ _ parked => parked) rests (fun _ _ owner => owner) owner answered
  | @exited i actor code going found =>
    have rests : Actor.rests { actor with exited := true, phase := .finished, checkpoint := SCHEDULE_COMPLETION } := .inr rfl
    exact (owned going).change found rfl (fun _ _ parked => parked) (fun _ => rests) (fun _ _ owner => owner)
      (fun runs => (rests.not_runs runs).elim) rfl
  | parked going starting =>
    refine ⟨fun _ parked => parked.elim, fun found runs => ?_, (owned going).pending⟩
    have owner := (owned going).runs found runs
    rw [starting] at owner
    cases owner
  | opened going task quiet => exact .quiet (owned going) quiet rfl rfl rfl
  | permitted going idle expected found =>
    rw [post_as]
    have parks : ∀ j, run.task.parks j := fun j => by rw [idle]; trivial
    have owners : ∀ j, run.task.owner ≠ some j := fun j => by rw [idle]; nofun
    exact (owned going).change found rfl (fun j _ _ => parks j) (fun other => other.elim (fun other => (other rfl).elim) nofun)
      (fun j _ owner => (owners j owner).elim) (fun _ => rfl) rfl
  | @reached observed i step actor going task found phase =>
    refine ⟨fun {j other} known _ => ?_, fun found runs => ?_, (owned going).pending⟩
    · by_cases same : j = i
      · rw [same, found, Option.some.injEq] at known
        exact known ▸ phase
      · exact (owned going).rests known (by rw [task]; exact .inl same)
    · have owner := (owned going).runs found runs
      rw [task] at owner
      exact owner
  | advanced going task found arrived quiet => exact .quiet (owned going) quiet rfl rfl rfl
  | completed going task found arrived quiet last kept stopped => rw [stopped] at further; cases further

/-- The only permit that a step posts goes to the actor of the next step. -/
theorem Effect.permits {output : Output} {i : Nat} (effect : Effect run input after)
    (permits : Permits ⟨run, input, output, after⟩ i) : run.stopped = false ∧ ∃ actor step,
      run.actors[i]? = some actor ∧ actor.phase = .parked ∧ run.schedule.steps[run.next]? = some step ∧
      actor.declaration.actor = step.actor ∧ input = .call (.advance step) false ∧
      after.posted = run.posted ++ [(i, .permit)] ∧ ∃ wait, after.task = .advancing i step wait := by
  have silent : Unpermitted run after → False := fun kept => not_permits kept permits
  cases effect with
  | halted halted => exact (silent halted.posts).elim
  | faulted _ _ halted => exact (silent halted.posts).elim
  | late _ _ _ kept => exact (silent kept.posts).elim
  | passed => exact (silent (.refl _)).elim
  | acquired => exact (silent (.refl _)).elim
  | ready => exact (silent (.refl _)).elim
  | arrived => exact (silent (.refl _)).elim
  | finished => exact (silent ⟨_, rfl, by simp⟩).elim
  | requested => exact (silent (.refl _)).elim
  | @settled j id actor value going found pending =>
    have posts := (post_kept run j (.reply id (.ok value)) (by simp)).posts
    exact (silent posts).elim
  | exited => exact (silent (.refl _)).elim
  | parked => exact (silent (.refl _)).elim
  | opened => exact (silent (.refl _)).elim
  | @permitted step j bytes actor going idle expected found named parked =>
    rcases permits with ⟨posts, grown, member⟩
    dsimp only at grown
    unfold post at grown ⊢
    split at grown
    · rename_i port
      have same := List.append_cancel_left grown
      rw [← same, List.mem_singleton, Prod.mk.injEq] at member
      rcases member with ⟨rfl, -⟩
      rw [if_pos port]
      exact ⟨going, actor, step, found, parked, expected, named, rfl, rfl, none, rfl⟩
    · have same := List.append_right_eq_self.mp grown.symm
      rw [same] at member
      cases member
  | reached => exact (silent (.refl _)).elim
  | advanced => exact (silent (.refl _)).elim
  | completed going task found arrived quiet last kept => exact (silent kept.posts).elim

/-- A state is observed at rest. -/
theorem Effect.observes (owned : run.stopped = false → Owned run) (effect : Effect run input after)
    (observed : after.observations ≠ run.observations) : run.stopped = false ∧
      ∀ actor ∈ run.actors, actor.rests ∧ actor.requestPending = none := by
  have rest : run.stopped = false → run.quiescent = true → run.stopped = false ∧
      ∀ actor ∈ run.actors, actor.rests ∧ actor.requestPending = none := by
    intro going quiet
    rcases (quiescent_iff run).mp quiet with ⟨answered, rests⟩
    have counted := (owned going).pending
    rw [answered, eq_comm, List.countP_eq_zero] at counted
    refine ⟨going, fun actor member => ⟨rests actor member, ?_⟩⟩
    have pending := counted actor member
    rwa [Bool.not_eq_true, Option.isSome_eq_false_iff, Option.isNone_iff_eq_none] at pending
  cases effect with
  | halted halted => exact (observed halted.observations).elim
  | faulted _ _ halted => exact (observed halted.observations).elim
  | late _ _ _ kept => exact (observed kept.observations).elim
  | passed => exact (observed rfl).elim
  | acquired => exact (observed rfl).elim
  | ready => exact (observed rfl).elim
  | arrived => exact (observed rfl).elim
  | finished => exact (observed rfl).elim
  | requested => exact (observed rfl).elim
  | @settled i id actor value => exact (observed (post_kept run i (.reply id (.ok value)) (by simp)).observations).elim
  | exited => exact (observed rfl).elim
  | parked => exact (observed rfl).elim
  | opened going task quiet => exact rest going quiet
  | permitted =>
    rw [post_as] at observed
    exact (observed rfl).elim
  | reached => exact (observed rfl).elim
  | advanced going task found arrived quiet => exact rest going quiet
  | completed going task found arrived quiet => exact rest going quiet

/-- Actor `i` runs in an interval of its own. -/
def Holding (run : Execution) (i : Nat) : Prop :=
  ∃ actor step wait, run.task = .advancing i step wait ∧ run.actors[i]? = some actor ∧ actor.runs

theorem Holding.change {i j : Nat} {actor : Actor} (holding : Holding run i) (found : run.actors[j]? = some actor)
    {change : Actor → Actor} (actors : after.actors = run.actors.modify j change) (task : after.task = run.task)
    (phase : i = j → actor.runs → (change actor).runs) : Holding after i := by
  rcases holding with ⟨owner, step, wait, advancing, known, runs⟩
  have changed : after.actors[i]? = (run.update j change).actors[i]? := by rw [actors, update_actors]
  rw [updated] at changed
  by_cases same : j = i
  · subst same
    rw [if_pos rfl, known] at changed
    rw [known, Option.some.injEq] at found
    exact ⟨change owner, step, wait, task.trans advancing, changed, found ▸ phase rfl (found ▸ runs)⟩
  · rw [if_neg same, known] at changed
    exact ⟨owner, step, wait, task.trans advancing, changed, runs⟩

theorem Effect.holding {output : Output} {i : Nat} (effect : Effect run input after) (further : after.stopped = false)
    (either : Permits ⟨run, input, output, after⟩ i ∨ (Holding run i ∧ ¬ Consumes ⟨run, input, output, after⟩ i)) :
    Holding after i := by
  have earlier : ¬ Permits ⟨run, input, output, after⟩ i → Holding run i ∧ ¬ Consumes ⟨run, input, output, after⟩ i :=
    fun silent => either.resolve_left silent
  have permits := fun permits : Permits ⟨run, input, output, after⟩ i => effect.permits permits
  cases effect with
  | halted halted => rw [halted.stopped] at further; cases further
  | faulted _ _ halted => rw [halted.stopped] at further; cases further
  | late _ stopped => rw [stopped] at further; cases further
  | passed => exact (earlier (not_permits (.refl _))).1
  | acquired going acquiring =>
    rcases (earlier (not_permits (.refl _))).1 with ⟨_, _, _, task, -⟩
    rw [acquiring] at task
    cases task
  | @ready j actor threadId going found port starting =>
    have holding := (earlier (not_permits (.refl _))).1
    refine holding.change found rfl rfl fun same runs => ?_
    rcases runs with runs | runs <;> rw [starting] at runs <;> cases runs
  | @arrived j actor name going found =>
    have parts := earlier (not_permits (.refl _))
    exact parts.1.change found rfl rfl fun same => (parts.2 (.inl ⟨some name, by rw [same]⟩)).elim
  | finished going found =>
    have holding := (earlier (not_permits ⟨_, rfl, by simp⟩)).1
    exact holding.change found rfl rfl fun _ _ => .inr rfl
  | requested going found =>
    have holding := (earlier (not_permits (.refl _))).1
    exact holding.change found rfl rfl fun _ runs => runs
  | @settled j id actor value going found =>
    have holding := (earlier (not_permits (post_kept run j (.reply id (.ok value)) (by simp)).posts)).1
    rw [post_as]
    exact holding.change found rfl rfl fun _ runs => runs
  | @exited j actor code going found =>
    have parts := earlier (not_permits (.refl _))
    exact parts.1.change found rfl rfl fun same => (parts.2 (.inr ⟨code, by rw [same]⟩)).elim
  | parked going starting =>
    rcases (earlier (not_permits (.refl _))).1 with ⟨_, _, _, task, -⟩
    rw [starting] at task
    cases task
  | opened going starting =>
    rcases (earlier (not_permits (.refl _))).1 with ⟨_, _, _, task, -⟩
    rw [starting] at task
    cases task
  | @permitted step j bytes actor going idle expected found =>
    rcases either with posted | ⟨⟨_, _, _, task, -⟩, -⟩
    · rcases permits posted with ⟨-, _, _, -, -, -, -, -, -, wait, task⟩
      have same := (Task.advancing.inj task).1
      subst same
      have runs : (run.update j fun actor => { actor with phase := .running }).actors[j]? =
          some { actor with phase := .running } := by rw [updated, if_pos rfl, found]; rfl
      rw [post_as]
      exact ⟨_, step, none, rfl, runs, .inl rfl⟩
    · rw [idle] at task
      cases task
  | reached going advancing found rests =>
    rcases (earlier (not_permits (.refl _))).1 with ⟨owner, step, wait, task, known, runs⟩
    rw [advancing, Task.advancing.injEq] at task
    rw [task.1, known, Option.some.injEq] at found
    exact (Actor.rests.not_runs (found ▸ rests) runs).elim
  | advanced going advancing found arrived quiet =>
    rcases (earlier (not_permits (.refl _))).1 with ⟨owner, step, wait, task, known, runs⟩
    exact ((quiescent_rests quiet known).not_runs runs).elim
  | completed going task found arrived quiet last kept stopped => rw [stopped] at further; cases further

end

end Execution

section

variable [NumberText]

theorem Fresh.owned {setup : Setup} {run : Execution} (fresh : Fresh setup run) : run.Owned where
  rests _ parked := by rw [fresh.task] at parked; exact parked.elim
  runs {j actor} found runs := by
    rw [fresh.actors, List.getElem?_map, Option.map_eq_some_iff] at found
    rcases found with ⟨declaration, -, rfl⟩
    rcases runs with runs | runs <;> cases runs
  pending := by
    rw [fresh.pendingRequests, fresh.actors, eq_comm, List.countP_eq_zero]
    intro actor member
    rcases List.mem_map.mp member with ⟨declaration, -, rfl⟩
    simp

theorem run_owned {setup : Setup} {trace : List Step} {run : Execution} (reached : Run setup trace run) :
    run.stopped = false → run.Owned := by
  apply run_invariant (P := fun _ run => run.stopped = false → run.Owned) ?_ ?_ reached
  · intro going
    rcases setup.start_effect with fresh | ⟨stopped, -⟩
    · exact fresh.owned
    · rw [stopped] at going
      cases going
  · intro trace run input output after owned sane effect
    exact effect.owned owned

theorem run_holding {setup : Setup} {trace : List Step} {run : Execution} (reached : Run setup trace run) :
    run.stopped = false → ∀ i, Holds trace i → run.Holding i := by
  apply run_invariant (P := fun trace run => run.stopped = false → ∀ i, Holds trace i → run.Holding i) ?_ ?_ reached
  · intro _ i holds
    rcases holds with ⟨earlier, s, later, whole, -⟩
    simp at whole
  · intro trace run input output after holding sane effect further i holds
    apply effect.holding further
    rcases holds_last.mp holds with permits | ⟨holds, kept⟩
    · exact .inl permits
    · exact .inr ⟨holding (effect.going further) i holds, kept⟩

/-- What the steps of an execution keep to. -/
structure SingleRunner (setup : Setup) (trace : List Step) (run : Execution) : Prop where
  permit : run.stopped = false → ∀ i j, Holds trace i → Holds trace j → i = j
  posted : ∀ s ∈ trace, ∀ i, Permits s i → s.before.stopped = false ∧ ∃ actor step,
    s.before.actors[i]? = some actor ∧ actor.phase = .parked ∧ setup.schedule.steps[s.before.next]? = some step ∧
    actor.declaration.actor = step.actor ∧ s.input = .call (.advance step) false ∧
    s.after.posted = s.before.posted ++ [(i, .permit)]
  observed : ∀ s ∈ trace, s.after.observations ≠ s.before.observations → s.before.stopped = false ∧
    ∀ actor ∈ s.before.actors, (actor.phase = .parked ∨ actor.phase = .finished) ∧ actor.requestPending = none
  outcome : ∀ s ∈ trace, s.before.outcome ≠ .completed → run.outcome = s.before.outcome

theorem execution_single_runner (setup : Setup) {trace : List Step} {run : Execution} (reached : Run setup trace run) :
    SingleRunner setup trace run := by
  refine ⟨?_, ?_, ?_, ?_⟩
  · intro going i j first second
    have holding := run_holding reached going
    rcases holding i first with ⟨_, _, _, task, -⟩
    rcases holding j second with ⟨_, _, _, other, -⟩
    rw [task, Task.advancing.injEq] at other
    exact other.1
  · intro s member i permits
    rcases (run_effect reached member).2.permits permits with
      ⟨going, actor, step, found, parked, expected, named, call, posted, -⟩
    rcases List.append_of_mem member with ⟨earlier, later, rfl⟩
    rw [run_schedule reached.split.1] at expected
    exact ⟨going, actor, step, found, parked, expected, named, call, posted⟩
  · intro s member observed
    have effect := (run_effect reached member).2
    rcases List.append_of_mem member with ⟨earlier, later, rfl⟩
    exact effect.observes (run_owned reached.split.1) observed
  · intro s member failed
    rcases List.append_of_mem member with ⟨earlier, later, rfl⟩
    have failure : run.Sane ∧ run.outcome = s.before.outcome := by
      apply Machine.Run.stable (P := fun run => run.Sane ∧ run.outcome = s.before.outcome) ?_ reached
        ⟨run_sane reached.split.1, rfl⟩
      intro run input output after holds taken
      have effect := Execution.step_effect holds.1 taken
      exact ⟨effect.sane holds.1, (effect.outcome holds.1 (holds.2 ▸ failed)).trans holds.2⟩
    exact failure.2

end

def soloIdentity : ScheduleIdentity where
  modelSemanticDigest := List.replicate 64 (unit 'a')
  mappingSha256 := List.replicate 64 (unit 'b')
  implementationSha256 := List.replicate 64 (unit 'c')

/-- One actor, whose only interval ends with its completion. -/
def soloSetup : Setup where
  schedule := ⟨soloIdentity, .null, [⟨js "solo", SCHEDULE_COMPLETION⟩]⟩
  adapter := ⟨soloIdentity, [⟨js "solo", js "walk"⟩], []⟩
  policy := {}
  generation := 1
  executionId := List.replicate 32 (unit '0')
  now := 0
  reentrant := false
  signalAborted := false

def soloInputs : List Input :=
  [.factory (.ok (some ⟨true, [(js "solo", true)], false⟩)) fun _ => .ok 1, .message 0 (.ready (some 1)),
    .resume ⟨false, 0, .ok .null⟩, .resume ⟨false, 0, .ok .null⟩, .call (.advance ⟨js "solo", SCHEDULE_COMPLETION⟩) false,
    .message 0 .finished, .exit 0 0, .resume ⟨false, 0, .ok .null⟩, .resume ⟨false, 0, .ok .null⟩,
    .resume ⟨false, 0, .ok .null⟩, .resume ⟨false, 0, .ok .null⟩, .teardown (.ok ())]

def soloRun : List Step × Execution :=
  letI := integerTexts
  (Machine.follow Execution.step soloSetup.start soloInputs).getD ([], soloSetup.start)

set_option maxRecDepth 4000 in
theorem solo_followed :
    letI := integerTexts
    Machine.follow Execution.step soloSetup.start soloInputs = some soloRun := by rfl

set_option maxRecDepth 4000 in
/-- A whole run under the theorem. -/
theorem solo_single_runner :
    letI := integerTexts
    ∃ trace run, Run soloSetup trace run ∧ trace.length = 12 ∧ SingleRunner soloSetup trace run := by
  let _ := integerTexts
  have reached : Run soloSetup _ _ := Machine.Run.follow .start solo_followed
  exact ⟨_, _, reached, rfl, execution_single_runner soloSetup reached⟩

end Mirror.Schedule
