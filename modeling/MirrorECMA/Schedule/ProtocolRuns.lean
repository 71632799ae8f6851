import MirrorECMA.Schedule.Protocol

namespace Mirror.Schedule

open ECMA

section

variable [NumberText]

/-! ### Steps of the system -/

theorem System.control_some {system after : System} {input : Input} {up : Nat → List WorkerMessage}
    (taken : system.control input up = some after) : ∃ run output, system.run.step input = some (run, output) ∧
      after = { system with run := run, down := fun i => system.down i ++ posts system.run run i, up := up } := by
  simp only [System.control, Option.bind_eq_bind, Option.bind_eq_some_iff, Option.some.injEq, Prod.exists] at taken
  rcases taken with ⟨run, output, stepped, rfl⟩
  exact ⟨run, output, stepped, rfl⟩

/-- A step of the system is one of the controller or one of a worker. -/
theorem System.step_cases {system after : System} {input : SystemInput} (taken : system.step input = some (after, ())) :
    (∃ inner run output left, (∀ i action, input ≠ .worker i action) ∧ system.run.step inner = some (run, output) ∧
      Delivered inner system.up left ∧
      after = { system with run := run, down := fun i => system.down i ++ posts system.run run i, up := left }) ∨
    (∃ i action actor worker down posted, input = .worker i action ∧ system.run.actors[i]? = some actor ∧
      (system.workers i).act actor.worker (system.down i) action = some (worker, down, posted) ∧
      after = { system with
        workers := Function.update system.workers i worker
        down := Function.update system.down i down
        up := Function.update system.up i (system.up i ++ posted) }) := by
  cases input with
  | controller inner =>
    simp only [System.step] at taken
    split at taken
    · cases taken
    · rename_i unsent
      rcases Option.map_eq_some_iff.mp taken with ⟨next, controlled, same⟩
      cases same
      rcases System.control_some controlled with ⟨run, output, stepped, rfl⟩
      have delivered : Delivered inner system.up system.up := by
        cases inner with
        | message => exact (unsent rfl).elim
        | _ => rfl
      exact .inl ⟨inner, run, output, system.up, nofun, stepped, delivered, rfl⟩
  | deliver i =>
    simp only [System.step] at taken
    split at taken
    · cases taken
    · rename_i message rest queued
      rcases Option.map_eq_some_iff.mp taken with ⟨next, controlled, same⟩
      cases same
      rcases System.control_some controlled with ⟨run, output, stepped, rfl⟩
      have delivered : Delivered (.message i message) system.up (Function.update system.up i rest) :=
        ⟨by rw [queued, Function.update_self], fun j other => Function.update_of_ne other _ _⟩
      exact .inl ⟨_, run, output, _, nofun, stepped, delivered, rfl⟩
  | exited i =>
    simp only [System.step, Option.bind_eq_bind, Option.bind_eq_some_iff] at taken
    rcases taken with ⟨code, -, taken⟩
    rcases Option.map_eq_some_iff.mp taken with ⟨next, controlled, same⟩
    cases same
    rcases System.control_some controlled with ⟨run, output, stepped, rfl⟩
    exact .inl ⟨_, run, output, system.up, nofun, stepped, rfl, rfl⟩
  | worker i action =>
    simp only [System.step, Option.bind_eq_bind, Option.bind_eq_some_iff, Prod.exists, Option.some.injEq,
      Prod.mk.injEq, and_true] at taken
    rcases taken with ⟨actor, found, worker, down, posted, acted, rfl⟩
    exact .inr ⟨i, action, actor, worker, down, posted, rfl, found, acted, rfl⟩

/-! ### Runs -/

theorem system_reached {setup : Setup} {trace : List SystemStep} {system : System}
    (reached : SystemRun setup trace system) : ∃ steps, Run setup steps system.run := by
  apply Machine.Run.invariant (P := fun _ system => ∃ steps, Run setup steps system.run) ⟨[], .start⟩ ?_ reached
  intro trace system input output after before taken
  rcases before with ⟨steps, run⟩
  rcases System.step_cases taken with ⟨inner, next, answer, left, -, stepped, -, rfl⟩ |
    ⟨i, action, actor, worker, down, posted, -, -, -, rfl⟩
  · exact ⟨_, run.next stepped⟩
  · exact ⟨steps, run⟩

/-- What holds initially and is kept by the effects on the controller and the actions of the workers holds in every run. -/
theorem system_invariant {setup : Setup} {P : List SystemStep → System → Prop} (start : P [] { run := setup.start })
    (controlled : ∀ trace system input inner run left, SystemRun setup trace system → P trace system →
      (∀ i action, input ≠ .worker i action) → Execution.Effect system.run inner run → Delivered inner system.up left →
      ∀ after, after = { system with run := run, down := fun i => system.down i ++ System.posts system.run run i, up := left } →
        P (trace ++ [⟨system, input, (), after⟩]) after)
    (acted : ∀ trace system i action actor worker down posted, SystemRun setup trace system → P trace system →
      system.run.actors[i]? = some actor →
      (system.workers i).act actor.worker (system.down i) action = some (worker, down, posted) →
      ∀ after, after = { system with
          workers := Function.update system.workers i worker
          down := Function.update system.down i down
          up := Function.update system.up i (system.up i ++ posted) } →
        P (trace ++ [⟨system, .worker i action, (), after⟩]) after)
    {trace : List SystemStep} {system : System} (reached : SystemRun setup trace system) : P trace system := by
  have both : SystemRun setup trace system ∧ P trace system := by
    apply Machine.Run.invariant (P := fun trace system => SystemRun setup trace system ∧ P trace system) ⟨.start, start⟩ ?_
      reached
    intro trace system input output after holds taken
    refine ⟨holds.1.next taken, ?_⟩
    rcases system_reached holds.1 with ⟨steps, run⟩
    rcases System.step_cases taken with ⟨inner, next, answer, left, other, stepped, delivered, same⟩ |
      ⟨i, action, actor, worker, down, posted, rfl, found, did, same⟩
    · have effect := Execution.step_effect (run_sane run) stepped
      exact controlled trace system input inner next left holds.1 holds.2 other effect delivered after same
    · exact acted trace system i action actor worker down posted holds.1 holds.2 found did after same
  exact both.2

theorem system_linked {setup : Setup} {trace : List SystemStep} {system : System}
    (reached : SystemRun setup trace system) :
    system.run.stopped = false → system.run.AllLinked system.workers system.down system.up := by
  apply system_invariant (P := fun _ system => system.run.stopped = false →
    system.run.AllLinked system.workers system.down system.up) ?_ ?_ ?_ reached
  · intro going i actor found
    rcases setup.start_effect with fresh | ⟨stopped, -⟩
    · dsimp only at found
      rw [fresh.actors, List.getElem?_map, Option.map_eq_some_iff] at found
      rcases found with ⟨declaration, -, rfl⟩
      exact .unborn rfl rfl rfl rfl nofun ⟨⟨rfl, rfl⟩, rfl, rfl, rfl, rfl, rfl⟩
    · dsimp only at going
      rw [stopped] at going
      cases going
  · intro trace system input inner run left _ linked other effect delivered after same further
    rw [same] at further ⊢
    exact effect.linked further delivered (linked (effect.going further))
  · intro trace system i action actor worker down posted _ linked found acted after same going
    rw [same] at going ⊢
    intro j other known
    dsimp only
    by_cases here : j = i
    · subst here
      rw [Function.update_self, Function.update_self, Function.update_self]
      cases found.symm.trans known
      exact (linked going j actor found).act acted
    · rw [Function.update_of_ne here, Function.update_of_ne here, Function.update_of_ne here]
      exact linked going j other known

/-! ### Intervals -/

/-- The permit of actor `i` is recorded. -/
def RecordsPermit (s : SystemStep) (i : Nat) : Prop :=
  ∃ actor, s.before.run.actors[i]? = some actor ∧
    s.after.run.events = s.before.run.events ++ [s.before.run.eventRow .permit s.before.run.next actor]

/-- Worker `i` receives a permit. -/
def ReceivesPermit (s : SystemStep) (i : Nat) : Prop :=
  s.input = .worker i .receive ∧ ∃ rest, s.before.down i = .permit :: rest

/-- The application of worker `i` arrives at a checkpoint, or completes. -/
def Announces (s : SystemStep) (i : Nat) (checkpoint : JsString) : Prop :=
  (∃ cloned, s.input = .worker i (.arrive (some checkpoint) cloned)) ∨
    (checkpoint = SCHEDULE_COMPLETION ∧ s.input = .worker i (.complete (.ok ())))

def Received (i : Nat) (between : List SystemStep) : Prop := ∃ s ∈ between, ReceivesPermit s i

/-- The checkpoint is announced after the permit has been received. -/
def Announced (i : Nat) (checkpoint : JsString) (between : List SystemStep) : Prop :=
  ∃ earlier s later, between = earlier ++ s :: later ∧ Received i earlier ∧ Announces s i checkpoint

theorem Received.later {i : Nat} {between : List SystemStep} (received : Received i between) (s : SystemStep) :
    Received i (between ++ [s]) := Machine.earlier received s

theorem Announced.later {i : Nat} {checkpoint : JsString} {between : List SystemStep}
    (announced : Announced i checkpoint between) (s : SystemStep) : Announced i checkpoint (between ++ [s]) := by
  rcases announced with ⟨earlier, t, later, rfl, received, announces⟩
  exact ⟨earlier, t, later ++ [s], by simp, received, announces⟩

theorem Received.announces {i : Nat} {checkpoint : JsString} {between : List SystemStep} (received : Received i between)
    {s : SystemStep} (announces : Announces s i checkpoint) : Announced i checkpoint (between ++ [s]) :=
  ⟨between, s, [], rfl, received, announces⟩

/-- What has happened since the permit of actor `i` was recorded. -/
structure Progress (i : Nat) (between : List SystemStep) (system : System) : Prop where
  begun : ∀ actor, system.run.actors[i]? = some actor → actor.phase ≠ .starting
  received : (system.workers i).control = .executing ∨ (system.workers i).control = .asking → Received i between
  arrival : ∀ name, WorkerMessage.arrival (some name) ∈ system.up i → Announced i name between
  finished : WorkerMessage.finished ∈ system.up i → Announced i SCHEDULE_COMPLETION between
  parked : ∀ actor, system.run.actors[i]? = some actor → actor.phase = .parked → Announced i actor.checkpoint between
  ended : ∀ actor, system.run.actors[i]? = some actor → actor.phase = .finishing ∨ actor.phase = .finished →
    actor.checkpoint = SCHEDULE_COMPLETION ∧ Announced i SCHEDULE_COMPLETION between

def Interval (i : Nat) (trace : List SystemStep) (system : System) : Prop :=
  ∃ first p between, trace = first ++ p :: between ∧ RecordsPermit p i ∧
    (∀ s ∈ between, s.after.run.events = s.before.run.events) ∧ Progress i between system

theorem Interval.next {i : Nat} {trace : List SystemStep} {system after : System} {input : SystemInput}
    (interval : Interval i trace system) (events : after.run.events = system.run.events)
    (progress : ∀ between, Progress i between system → Progress i (between ++ [⟨system, input, (), after⟩]) after) :
    Interval i (trace ++ [⟨system, input, (), after⟩]) after := by
  rcases interval with ⟨first, p, between, rfl, records, quiet, before⟩
  refine ⟨first, p, between ++ [⟨system, input, (), after⟩], by simp, records, ?_, progress between before⟩
  intro s member
  rcases List.mem_append.mp member with member | member
  · exact quiet s member
  · rw [List.mem_singleton.mp member]
    exact events

/-- A step of the controller that changes one actor, or none. -/
theorem Progress.controlled {i j : Nat} {between : List SystemStep} {system after : System} {actor : Actor}
    {change : Actor → Actor} (progress : Progress i between system) (s : SystemStep)
    (found : system.run.actors[j]? = some actor) (actors : after.run.actors = system.run.actors.modify j change)
    (workers : after.workers = system.workers) (up : ∀ message ∈ after.up i, message ∈ system.up i)
    (phase : i = j → (change actor).phase ≠ .starting)
    (parked : i = j → (change actor).phase = .parked → Announced i (change actor).checkpoint between)
    (ended : i = j → (change actor).phase = .finishing ∨ (change actor).phase = .finished →
      (change actor).checkpoint = SCHEDULE_COMPLETION ∧ Announced i SCHEDULE_COMPLETION between) :
    Progress i (between ++ [s]) after := by
  have known : ∀ other, after.run.actors[i]? = some other →
      (i = j ∧ other = change actor) ∨ (i ≠ j ∧ system.run.actors[i]? = some other) := by
    intro other known
    have changed : (system.run.update j change).actors[i]? = some other := by rw [Execution.update_actors, ← actors]; exact known
    rw [Execution.updated] at changed
    by_cases same : j = i
    · subst same
      rw [if_pos rfl, found] at changed
      exact .inl ⟨rfl, (Option.some.inj changed).symm⟩
    · rw [if_neg same] at changed
      exact .inr ⟨Ne.symm same, changed⟩
  refine ⟨?_, ?_, ?_, ?_, ?_, ?_⟩
  · intro other found
    rcases known other found with ⟨same, rfl⟩ | ⟨-, found⟩
    · exact phase same
    · exact progress.begun other found
  · rw [workers]
    intro control
    exact (progress.received control).later s
  · intro name member
    exact (progress.arrival name (up _ member)).later s
  · intro member
    exact (progress.finished (up _ member)).later s
  · intro other found rests
    rcases known other found with ⟨same, rfl⟩ | ⟨-, found⟩
    · exact (parked same rests).later s
    · exact (progress.parked other found rests).later s
  · intro other found ends
    rcases known other found with ⟨same, rfl⟩ | ⟨-, found⟩
    · exact ⟨(ended same ends).1, (ended same ends).2.later s⟩
    · exact ⟨(progress.ended other found ends).1, (progress.ended other found ends).2.later s⟩

/-- A step of the controller that changes no actor. -/
theorem Progress.kept {i : Nat} {between : List SystemStep} {system after : System} (progress : Progress i between system)
    (s : SystemStep) (actors : after.run.actors = system.run.actors) (workers : after.workers = system.workers)
    (up : ∀ message ∈ after.up i, message ∈ system.up i) : Progress i (between ++ [s]) after where
  begun := by rw [actors]; exact progress.begun
  received := by rw [workers]; exact fun control => (progress.received control).later s
  arrival name member := (progress.arrival name (up _ member)).later s
  finished member := (progress.finished (up _ member)).later s
  parked := by rw [actors]; exact fun actor found rests => (progress.parked actor found rests).later s
  ended := by
    rw [actors]
    exact fun actor found ends => ⟨(progress.ended actor found ends).1, (progress.ended actor found ends).2.later s⟩

theorem interval_controlled {trace : List SystemStep} {system after : System} {input : SystemInput} {inner : Input}
    {run : Execution} {left : Nat → List WorkerMessage}
    (linked : system.run.stopped = false → system.run.AllLinked system.workers system.down system.up)
    (intervals : system.run.stopped = false → ∀ i, system.run.task.owner = some i → Interval i trace system)
    (effect : Execution.Effect system.run inner run) (delivered : Delivered inner system.up left)
    (same : after = { system with run := run, down := fun i => system.down i ++ System.posts system.run run i, up := left })
    (further : run.stopped = false) (i : Nat) (owner : run.task.owner = some i) :
    Interval i (trace ++ [⟨system, input, (), after⟩]) after := by
  have left_ : ∀ message ∈ after.up i, message ∈ system.up i := by
    rw [same]
    exact fun message member => delivered.mem member
  have workers : after.workers = system.workers := by rw [same]
  have run_ : after.run = run := by rw [same]
  cases effect with
  | halted halted => rw [halted.stopped] at further; cases further
  | faulted _ _ halted => rw [halted.stopped] at further; cases further
  | late _ stopped => rw [stopped] at further; cases further
  | completed _ _ _ _ _ _ _ stopped => rw [stopped] at further; cases further
  | acquired => cases owner
  | parked => cases owner
  | opened => cases owner
  | advanced => cases owner
  | passed going =>
    refine (intervals going i owner).next (by rw [run_]) fun between progress => ?_
    exact progress.kept _ (by rw [run_]) workers left_
  | @reached observed j step actor going task =>
    have before : system.run.task.owner = some i := by rw [task]; exact owner
    refine (intervals going i before).next (by rw [run_]) fun between progress => ?_
    exact progress.kept _ (by rw [run_]) workers left_
  | @ready j actor threadId going found port starting =>
    refine (intervals going i owner).next (by rw [run_]; rfl) fun between progress => ?_
    refine progress.controlled _ found (congrArg (·.actors) run_) workers left_ (fun _ => nofun) (fun here => ?_) (fun _ => nofun)
    exact (progress.begun actor (here ▸ found) starting).elim
  | @arrived j actor name going found =>
    refine (intervals going i owner).next (by rw [run_]; rfl) fun between progress => ?_
    refine progress.controlled _ found (congrArg (·.actors) run_) workers left_ (fun _ => nofun) (fun here _ => ?_) (fun _ => nofun)
    apply progress.arrival name
    rw [here, delivered.1]
    exact List.mem_cons_self
  | @finished j actor going found =>
    refine (intervals going i owner).next (by rw [run_]; rfl) fun between progress => ?_
    refine progress.controlled _ found (congrArg (·.actors) run_) workers left_ (fun _ => nofun) (fun _ => nofun)
      (fun here _ => ⟨rfl, ?_⟩)
    apply progress.finished
    rw [here, delivered.1]
    exact List.mem_cons_self
  | @requested j actor value going found =>
    refine (intervals going i owner).next (by rw [run_]; rfl) fun between progress => ?_
    exact progress.controlled _ found (congrArg (·.actors) run_) workers left_ (fun here => progress.begun actor (here ▸ found))
      (fun here => progress.parked actor (here ▸ found)) (fun here => progress.ended actor (here ▸ found))
  | @settled j id actor value going found =>
    rw [Execution.post_as] at run_ owner
    refine (intervals going i owner).next (by rw [run_]; rfl) fun between progress => ?_
    exact progress.controlled _ found (congrArg (·.actors) run_) workers left_ (fun here => progress.begun actor (here ▸ found))
      (fun here => progress.parked actor (here ▸ found)) (fun here => progress.ended actor (here ▸ found))
  | @exited j actor code going found reported =>
    have ended := (linked going j actor found).ended_of_reported reported
    refine (intervals going i owner).next (by rw [run_]; rfl) fun between progress => ?_
    exact progress.controlled _ found (congrArg (·.actors) run_) workers left_ (fun _ => nofun) (fun _ => nofun)
      (fun here _ => ⟨rfl, (progress.ended actor (here ▸ found) ended.phase).2⟩)
  | @permitted step j bytes actor going idle expected found named parked =>
    have here : j = i := Option.some.inj owner
    subst here
    rcases (linked going j actor found).of_parked parked with ⟨-, empty, at_, waits⟩
    rw [Execution.post_as] at run_
    have known : after.run.actors[j]? = some { actor with phase := .running } := by
      have changed := Execution.updated system.run j j fun actor => { actor with phase := .running }
      rw [if_pos rfl, found] at changed
      rw [run_]
      exact changed
    have running : ∀ other, after.run.actors[j]? = some other → other.phase = .running := by
      intro other found
      rw [known, Option.some.injEq] at found
      rw [← found]
    have silent : ∀ message, message ∉ after.up j := by
      intro message member
      have queued := left_ message member
      rw [empty] at queued
      cases queued
    have waiting : (after.workers j).control ≠ .executing ∧ (after.workers j).control ≠ .asking := by
      rw [workers]
      rcases waits.control with control | control <;> rw [control] <;> decide
    refine ⟨trace, _, [], rfl, ⟨actor, found, congrArg (·.events) run_⟩, by simp, ?_⟩
    refine ⟨?_, ?_, fun name member => (silent _ member).elim, fun member => (silent _ member).elim, ?_, ?_⟩
    · intro other found
      rw [running other found]
      decide
    · intro control
      rcases control with control | control
      · exact (waiting.1 control).elim
      · exact (waiting.2 control).elim
    · intro other found rests
      rw [running other found] at rests
      cases rests
    · intro other found ends
      rw [running other found] at ends
      rcases ends with ends | ends <;> cases ends

theorem Worker.arrive_posts {worker : Worker} {name : Option JsString} {cloned : Bool} {message : WorkerMessage}
    (member : message ∈ (worker.arrive name cloned).2) : message = .arrival name ∨ ∃ text, message = .failure text := by
  unfold Worker.arrive at member
  grind

theorem Worker.request_posts {worker : Worker} {input : Except JsString Json} {cloned : Bool} {message : WorkerMessage}
    (member : message ∈ (worker.request input cloned).2) :
    (∃ id, message = .request id input) ∨ ∃ text, message = .failure text := by
  unfold Worker.request at member
  grind

theorem Worker.complete_posts {worker : Worker} (sound : worker.Sound) {result : Except JsString Unit}
    {message : WorkerMessage} (member : message ∈ (worker.complete result).2) :
    (message = .finished ∧ result = .ok ()) ∨ ∃ text, message = .failure text := by
  have unaborted := sound.aborted
  unfold Worker.complete Worker.close at member
  grind

/-- How an action of a worker carries its interval on. -/
structure Worker.Carries (worker after : Worker) (down : List Post) (posted : List WorkerMessage) (action : Action) : Prop where
  control : after.control = .executing ∨ after.control = .asking →
    (worker.control = .executing ∨ worker.control = .asking) ∨ (action = .receive ∧ ∃ rest, down = .permit :: rest)
  arrives : ∀ name, WorkerMessage.arrival (some name) ∈ posted →
    worker.control = .executing ∧ ∃ cloned, action = .arrive (some name) cloned
  finishes : WorkerMessage.finished ∈ posted → worker.control = .executing ∧ action = .complete (.ok ())

theorem Linked.carries {worker after : Worker} {threadId : Option Nat} {down rest : List Post}
    {posted : List WorkerMessage} {action : Action} {actor : Actor} {up : List WorkerMessage}
    (linked : Linked actor worker down up) (acted : worker.act threadId down action = some (after, rest, posted)) :
    worker.Carries after down posted action := by
  unfold Worker.act at acted
  split at acted
  · cases acted
  cases action with
  | boot =>
    simp only [Option.bind_eq_bind, Option.bind_eq_some_iff] at acted
    rcases acted with ⟨id, -, acted⟩
    split at acted
    · cases acted
      exact ⟨nofun, by simp [Worker.boot], by simp [Worker.boot]⟩
    · cases acted
  | receive =>
    dsimp only at acted
    split at acted
    · cases acted
    · split at acted
      · cases acted
      · rename_i post rest_ born
        cases acted
        rcases linked.received with ⟨rfl, waits, -⟩ | ⟨id, result, rfl, asks, -⟩ | ⟨rfl, past, awaiting, -⟩
        · rw [Linked.receive_permit waits]
          exact ⟨fun _ => .inr ⟨rfl, _, rfl⟩, by simp, by simp⟩
        · rw [Linked.receive_reply asks]
          exact ⟨fun _ => .inl (.inr asks.control), by simp, by simp⟩
        · rw [Linked.receive_completionAck past awaiting]
          exact ⟨fun active => .inl active, by simp, by simp⟩
  | arrive name cloned =>
    dsimp only at acted
    split at acted
    · rename_i control
      cases acted
      rcases control with control | control
      · refine ⟨fun _ => .inl (.inl control), fun other member => ?_, fun member => ?_⟩
        · rcases Worker.arrive_posts member with same | ⟨text, same⟩
          · cases same
            exact ⟨control, cloned, rfl⟩
          · cases same
        · rcases Worker.arrive_posts member with same | ⟨text, same⟩ <;> cases same
      · have past := (linked.of_done control none).1
        rw [Worker.arrive, if_pos past.finished]
        exact ⟨fun active => .inl active, by simp, by simp⟩
    · cases acted
  | request input cloned =>
    dsimp only at acted
    split at acted
    · rename_i control
      cases acted
      rcases control with control | control
      · refine ⟨fun _ => .inl (.inl control), fun other member => ?_, fun member => ?_⟩
        · rcases Worker.request_posts member with ⟨id, same⟩ | ⟨text, same⟩ <;> cases same
        · rcases Worker.request_posts member with ⟨id, same⟩ | ⟨text, same⟩ <;> cases same
      · have past := (linked.of_done control none).1
        rw [Worker.request, if_pos past.finished]
        exact ⟨fun active => .inl active, by simp, by simp⟩
    · cases acted
  | complete result =>
    dsimp only at acted
    split at acted
    · rename_i control
      cases acted
      refine ⟨fun _ => .inl (.inl control), fun other member => ?_, fun member => ?_⟩
      · rcases Worker.complete_posts linked.sound member with ⟨same, -⟩ | ⟨text, same⟩ <;> cases same
      · rcases Worker.complete_posts linked.sound member with ⟨-, rfl⟩ | ⟨text, same⟩
        · exact ⟨control, rfl⟩
        · cases same
    · cases acted
  | exit code =>
    cases acted
    exact ⟨fun active => .inl active, by simp, by simp⟩

theorem interval_acted {trace : List SystemStep} {system after : System} {i : Nat} {action : Action} {actor : Actor}
    {worker : Worker} {down : List Post} {posted : List WorkerMessage}
    (linked : system.run.AllLinked system.workers system.down system.up)
    (intervals : ∀ j, system.run.task.owner = some j → Interval j trace system) (found : system.run.actors[i]? = some actor)
    (acted : (system.workers i).act actor.worker (system.down i) action = some (worker, down, posted))
    (same : after = { system with
      workers := Function.update system.workers i worker
      down := Function.update system.down i down
      up := Function.update system.up i (system.up i ++ posted) })
    (j : Nat) (owner : system.run.task.owner = some j) :
    Interval j (trace ++ [⟨system, .worker i action, (), after⟩]) after := by
  have run : after.run = system.run := by rw [same]
  refine (intervals j owner).next (by rw [run]) fun between progress => ?_
  by_cases here : j = i
  · subst here
    rcases (linked j actor found).carries acted with ⟨control, arrives, finishes⟩
    have worker_ : after.workers j = worker := by rw [same]; exact Function.update_self ..
    have up_ : after.up j = system.up j ++ posted := by rw [same]; exact Function.update_self ..
    refine ⟨by rw [run]; exact progress.begun, ?_, ?_, ?_, ?_, ?_⟩
    · rw [worker_]
      intro active
      rcases control active with before | ⟨rfl, permit⟩
      · exact (progress.received before).later _
      · exact ⟨_, List.mem_append_right _ (List.mem_singleton_self _), rfl, permit⟩
    · rw [up_]
      intro name member
      rcases List.mem_append.mp member with member | member
      · exact (progress.arrival name member).later _
      · rcases arrives name member with ⟨executing, cloned, rfl⟩
        exact (progress.received (.inl executing)).announces (.inl ⟨cloned, rfl⟩)
    · rw [up_]
      intro member
      rcases List.mem_append.mp member with member | member
      · exact (progress.finished member).later _
      · rcases finishes member with ⟨executing, rfl⟩
        exact (progress.received (.inl executing)).announces (.inr ⟨rfl, rfl⟩)
    · rw [run]
      exact fun actor found rests => (progress.parked actor found rests).later _
    · rw [run]
      exact fun actor found ends => ⟨(progress.ended actor found ends).1, (progress.ended actor found ends).2.later _⟩
  · have worker_ : after.workers j = system.workers j := by rw [same]; exact Function.update_of_ne here ..
    have up_ : after.up j = system.up j := by rw [same]; exact Function.update_of_ne here ..
    refine ⟨by rw [run]; exact progress.begun, ?_, ?_, ?_, ?_, ?_⟩
    · rw [worker_]
      exact fun control => (progress.received control).later _
    · rw [up_]
      exact fun name member => (progress.arrival name member).later _
    · rw [up_]
      exact fun member => (progress.finished member).later _
    · rw [run]
      exact fun actor found rests => (progress.parked actor found rests).later _
    · rw [run]
      exact fun actor found ends => ⟨(progress.ended actor found ends).1, (progress.ended actor found ends).2.later _⟩

theorem system_intervals {setup : Setup} {trace : List SystemStep} {system : System}
    (reached : SystemRun setup trace system) :
    system.run.stopped = false → ∀ i, system.run.task.owner = some i → Interval i trace system := by
  apply system_invariant (P := fun trace system => system.run.stopped = false →
    ∀ i, system.run.task.owner = some i → Interval i trace system) ?_ ?_ ?_ reached
  · intro going i owner
    rcases setup.start_effect with fresh | ⟨stopped, -⟩
    · dsimp only at owner
      rw [fresh.task] at owner
      cases owner
    · dsimp only at going
      rw [stopped] at going
      cases going
  · intro trace system input inner run left reached intervals other effect delivered after same further i owner
    rw [same] at further owner
    exact interval_controlled (system_linked reached) intervals effect delivered same further i owner
  · intro trace system i action actor worker down posted reached intervals found acted after same going j owner
    rw [same] at going owner
    exact interval_acted (system_linked reached going) (intervals going) found acted same j owner

/-! ### The protocol -/

theorem Execution.Effect.arrival {run after : Execution} {input : Input} (effect : Execution.Effect run input after)
    {row : Event} (kind : row.kind = .arrival) (recorded : after.events = run.events ++ [row]) :
    ∃ i step actor, run.task = .advancing i step (some true) ∧ run.actors[i]? = some actor ∧
      row = run.eventRow .arrival run.next actor := by
  have silent : after.events = run.events → False := fun same => by
    have longer := congrArg List.length (same.symm.trans recorded)
    rw [List.length_append, List.length_singleton] at longer
    omega
  have last : ∀ other, after.events = run.events ++ [other] → row = other := fun other same =>
    (List.cons.inj (List.append_cancel_left (recorded.symm.trans same))).1
  cases effect with
  | halted halted => exact (silent halted.events).elim
  | faulted task found halted => exact ⟨_, _, _, task, found, last _ halted.events⟩
  | late _ _ _ kept => exact (silent kept.events).elim
  | settled =>
    rw [Execution.post_as] at silent
    exact (silent rfl).elim
  | permitted =>
    rw [Execution.post_as] at last
    have other : row.kind = .permit := by rw [last _ rfl]; rfl
    rw [other] at kind
    cases kind
  | advanced going task found => exact ⟨_, _, _, task, found, last _ rfl⟩
  | completed going task found _ _ _ kept => exact ⟨_, _, _, task, found, last _ kept.events⟩
  | _ => exact (silent rfl).elim

/-- What the message handler of a worker takes without an error, before it is cancelled. -/
def Worker.Expects (worker : Worker) : Post → Prop
  | .cancel => False
  | .permit => worker.waiter = true ∧ (worker.control = .starting ∨ worker.control = .parked)
  | .completionAck => worker.finished = true ∧ worker.awaitingCompletionAck = true
  | .reply id _ => worker.rpc = some id ∧ worker.control = .asking

theorem Linked.expects {actor : Actor} {worker : Worker} {post : Post} {rest : List Post} {up : List WorkerMessage}
    (linked : Linked actor worker (post :: rest) up) : worker.Expects post := by
  rcases linked.received with ⟨rfl, waits, -⟩ | ⟨id, result, rfl, asks, -⟩ | ⟨rfl, past, awaiting, -⟩
  · exact ⟨waits.waiter, waits.control⟩
  · exact ⟨asks.rpc, asks.control⟩
  · exact ⟨past.finished, awaiting⟩

theorem Linked.active {actor : Actor} {worker : Worker} {down : List Post} {up : List WorkerMessage}
    (linked : Linked actor worker down up) (active : worker.active) : actor.phase = .running := by
  rcases active with ⟨-, control⟩
  cases linked with
  | works running => exact running.phase
  | asks running => exact running.phase
  | asked running => exact running.phase
  | answered running => exact running.phase
  | _ => grind [Worker.Fresh.control, Worker.Waits.control, Worker.Over.control]

/-- What holds of a controller and its workers before the execution stops. -/
structure Protocol (trace : List SystemStep) (system : System) : Prop where
  exclusive : system.run.stopped = false → ∀ i j, i < system.run.actors.length → j < system.run.actors.length →
    (system.workers i).active → (system.workers j).active → i = j
  expected : ∀ s ∈ trace, s.before.run.stopped = false → ∀ i, s.input = .worker i .receive →
    ∃ post rest, s.before.down i = post :: rest ∧ (s.before.workers i).Expects post ∧ (s.after.workers i).thrown = none
  unthrown : system.run.stopped = false → ∀ i, i < system.run.actors.length → (system.workers i).thrown = none
  announced : ∀ earlier s later, trace = earlier ++ s :: later → s.before.run.stopped = false → ∀ row,
    row.kind = .arrival → s.after.run.events = s.before.run.events ++ [row] → ∃ i actor first p between,
      s.before.run.actors[i]? = some actor ∧ row.actor = actor.declaration.actor ∧ earlier = first ++ p :: between ∧
      RecordsPermit p i ∧ (∀ t ∈ between, t.after.run.events = t.before.run.events) ∧ Announced i row.checkpoint between

theorem worker_protocol (setup : Setup) {trace : List SystemStep} {system : System}
    (reached : SystemRun setup trace system) : Protocol trace system := by
  refine ⟨?_, ?_, ?_, ?_⟩
  · intro going i j inside insideOther active other
    rcases system_reached reached with ⟨steps, run⟩
    have owned := run_owned run going
    have linked := system_linked reached going
    have running := (linked i _ (List.getElem?_eq_getElem inside)).active active
    have runningOther := (linked j _ (List.getElem?_eq_getElem insideOther)).active other
    have owner := owned.runs (List.getElem?_eq_getElem inside) (.inl running)
    have ownerOther := owned.runs (List.getElem?_eq_getElem insideOther) (.inl runningOther)
    exact Option.some.inj (owner.symm.trans ownerOther)
  · intro s member going i input
    rcases List.append_of_mem member with ⟨earlier, later, rfl⟩
    have parts := reached.split
    have linked := system_linked parts.1 going
    rcases System.step_cases parts.2 with ⟨inner, run, output, left, other, -⟩ |
      ⟨j, action, actor, worker, down, posted, same, found, acted, after⟩
    · exact (other i .receive input).elim
    · rw [input, SystemInput.worker.injEq] at same
      rcases same with ⟨rfl, rfl⟩
      have before := linked i actor found
      have kept := before.act acted
      have worker_ : s.after.workers i = worker := by rw [after]; exact Function.update_self ..
      cases queued : s.before.down i with
      | nil =>
        unfold Worker.act at acted
        rw [queued] at acted
        split at acted <;> cases acted
      | cons post rest =>
        rw [queued] at before
        exact ⟨post, rest, rfl, before.expects, by rw [worker_]; exact kept.sound.thrown⟩
  · intro going i inside
    exact (system_linked reached going i _ (List.getElem?_eq_getElem inside)).sound.thrown
  · intro earlier s later whole going row kind recorded
    subst whole
    have parts := reached.split
    rcases system_reached parts.1 with ⟨steps, run⟩
    rcases System.step_cases parts.2 with ⟨inner, next, output, left, -, stepped, -, after⟩ |
      ⟨j, action, actor, worker, down, posted, -, -, -, after⟩
    · rw [after] at recorded
      rcases (Execution.step_effect (run_sane run) stepped).arrival kind recorded with ⟨i, step, actor, task, found, rfl⟩
      have owner : s.before.run.task.owner = some i := by rw [task]; rfl
      have rests := (run_owned run going).rests found (by rw [task]; exact .inr rfl)
      rcases system_intervals parts.1 going i owner with ⟨first, p, between, split, records, quiet, progress⟩
      refine ⟨i, actor, first, p, between, found, rfl, split, records, quiet, ?_⟩
      rcases rests with parked | finished
      · exact progress.parked actor found parked
      · rcases progress.ended actor found (.inr finished) with ⟨completion, announced⟩
        have checkpoint : (s.before.run.eventRow .arrival s.before.run.next actor).checkpoint = SCHEDULE_COMPLETION := completion
        rw [checkpoint]
        exact announced
    · rw [after] at recorded
      have longer := congrArg List.length recorded
      dsimp only at longer
      rw [List.length_append, List.length_singleton] at longer
      omega

end

def soloSystemInputs : List SystemInput :=
  [.controller (.factory (.ok (some ⟨true, [(js "solo", true)], false⟩)) fun _ => .ok 1), .worker 0 .boot, .deliver 0,
    .controller (.resume ⟨false, 0, .ok .null⟩), .controller (.resume ⟨false, 0, .ok .null⟩),
    .controller (.call (.advance ⟨js "solo", SCHEDULE_COMPLETION⟩) false), .worker 0 .receive,
    .worker 0 (.complete (.ok ())), .deliver 0, .worker 0 .receive, .worker 0 (.exit 0), .exited 0,
    .controller (.resume ⟨false, 0, .ok .null⟩), .controller (.resume ⟨false, 0, .ok .null⟩)]

def soloSystemRun : List SystemStep × System :=
  letI := integerTexts
  (Machine.follow System.step { run := soloSetup.start } soloSystemInputs).getD ([], { run := soloSetup.start })

theorem solo_system_followed :
    letI := integerTexts
    Machine.follow System.step { run := soloSetup.start } soloSystemInputs =
      some (soloSystemRun.1, soloSystemRun.2) := by
  let _ := integerTexts
  have runs : (Machine.follow System.step { run := soloSetup.start } soloSystemInputs).isSome = true := by decide +kernel
  rcases Option.isSome_iff_exists.mp runs with ⟨run, followed⟩
  rw [soloSystemRun, followed]
  rfl

/-- A worker that runs to its completion, under the theorem. -/
theorem solo_worker_protocol :
    letI := integerTexts
    ∃ trace system, SystemRun soloSetup trace system ∧ system.run.events.length = 2 ∧ Protocol trace system := by
  let _ := integerTexts
  have reached : SystemRun soloSetup ([] ++ soloSystemRun.1) soloSystemRun.2 := Machine.Run.follow .start solo_system_followed
  have recorded : soloSystemRun.2.run.events.length = 2 := by decide +kernel
  exact ⟨_, _, reached, recorded, worker_protocol soloSetup reached⟩

end Mirror.Schedule
