import MirrorECMA.Schedule.SingleRunner
import MirrorECMA.Schedule.Worker

namespace Mirror.Schedule

open ECMA

/-! ### What the two sides know of each other -/

namespace Worker

/-- Neither cancelled nor failed. -/
structure Sound (worker : Worker) : Prop where
  aborted : worker.aborted = false
  thrown : worker.thrown = none

structure Fresh (worker : Worker) : Prop extends Sound worker where
  control : worker.control = .unborn
  rpc : worker.rpc = none
  nextRequest : worker.nextRequest = 0
  permitted : worker.permitted = false
  finished : worker.finished = false

/-- It waits for a permit. -/
structure Waits (worker : Worker) (next : Nat) : Prop extends Sound worker where
  control : worker.control = .starting ∨ worker.control = .parked
  waiter : worker.waiter = true
  rpc : worker.rpc = none
  nextRequest : worker.nextRequest = next
  permitted : worker.permitted = false
  finished : worker.finished = false

/-- It executes the application. After a message that could not be cloned it can neither arrive nor ask. -/
structure Works (worker : Worker) (next : Nat) : Prop extends Sound worker where
  control : worker.control = .executing
  nextRequest : worker.permitted = true → worker.rpc = none → worker.waiter = false → worker.nextRequest = next
  finished : worker.finished = false

/-- It waits for a reply. -/
structure Asks (worker : Worker) (id : Nat) : Prop extends Sound worker where
  control : worker.control = .asking
  waiter : worker.waiter = false
  rpc : worker.rpc = some id
  nextRequest : worker.nextRequest = id + 1
  finished : worker.finished = false

structure Over (worker : Worker) : Prop extends Sound worker where
  control : worker.control = .done
  finished : worker.finished = true

variable {worker : Worker}

theorem Waits.exit {next : Nat} (waits : worker.Waits next) (code : Option Int) :
    Waits { worker with exited := code } next :=
  ⟨⟨waits.aborted, waits.thrown⟩, waits.control, waits.waiter, waits.rpc, waits.nextRequest, waits.permitted, waits.finished⟩

theorem Asks.exit {id : Nat} (asks : worker.Asks id) (code : Option Int) : Asks { worker with exited := code } id :=
  ⟨⟨asks.aborted, asks.thrown⟩, asks.control, asks.waiter, asks.rpc, asks.nextRequest, asks.finished⟩

theorem Over.exit (past : worker.Over) (code : Option Int) : Over { worker with exited := code } :=
  ⟨⟨past.aborted, past.thrown⟩, past.control, past.finished⟩

end Worker

namespace Actor

/-- The state of an actor that has not reported its end. -/
structure At (actor : Actor) (phase : Phase) (pending : Option Nat) : Prop where
  phase : actor.phase = phase
  pending : actor.requestPending = pending
  reported : actor.reportedFinish = false
  port : actor.port = true

structure Ended (actor : Actor) : Prop where
  phase : actor.phase = .finishing ∨ actor.phase = .finished
  pending : actor.requestPending = none

end Actor

/-- What a worker posts that has come to its end. -/
def Late (up : List WorkerMessage) : Prop := ∀ message ∈ up, ∃ text, message = .failure text

theorem Late.head {message : WorkerMessage} {up : List WorkerMessage} (late : Late (message :: up)) :
    ∃ text, message = .failure text := late message List.mem_cons_self

/-- An actor, its worker and the messages under way between them, before the execution stops. -/
inductive Linked (actor : Actor) (worker : Worker) : List Post → List WorkerMessage → Prop
  | unborn : actor.phase = .starting → actor.requestPending = none → actor.reportedFinish = false → actor.requestId = 0 →
    (actor.worker.isSome → actor.port = true) → worker.Fresh → Linked actor worker [] []
  | ready {threadId : Option Nat} : actor.At .starting none → worker.Waits actor.requestId →
    Linked actor worker [] [.ready threadId]
  | parked : actor.At .parked none → worker.Waits actor.requestId → Linked actor worker [] []
  | permitted : actor.At .running none → worker.Waits actor.requestId → Linked actor worker [.permit] []
  | works : actor.At .running none → worker.Works actor.requestId → Linked actor worker [] []
  | arrived {name : Option JsString} : actor.At .running none → worker.Waits actor.requestId →
    Linked actor worker [] [.arrival name]
  | asks {input : Except JsString Json} : actor.At .running none → worker.Asks actor.requestId →
    Linked actor worker [] [.request (some actor.requestId) input]
  | asked {id : Nat} : actor.At .running (some id) → actor.requestId = id + 1 → worker.Asks id → Linked actor worker [] []
  | answered {id : Nat} {result : Except JsString Json} : actor.At .running none → actor.requestId = id + 1 →
    worker.Asks id → Linked actor worker [.reply id result] []
  | finished {up : List WorkerMessage} : actor.At .running none → worker.Over → worker.awaitingCompletionAck = true →
    Late up → Linked actor worker [] (.finished :: up)
  | failed {up : List WorkerMessage} : actor.At .running none → worker.Over → Late up → Linked actor worker [] up
  | ended {up : List WorkerMessage} : actor.Ended → worker.Over → worker.awaitingCompletionAck = true → Late up →
    Linked actor worker [.completionAck] up
  | past {up : List WorkerMessage} : actor.Ended → worker.Over → Late up → Linked actor worker [] up

/-! ### Steps of a worker -/

namespace Linked

variable {actor : Actor} {worker after : Worker} {down rest : List Post} {up posted : List WorkerMessage}

theorem late_append {up : List WorkerMessage} (late : Late up) (text : Option JsString) : Late (up ++ [.failure text]) := by
  intro message member
  rcases List.mem_append.mp member with member | member
  · exact late message member
  · exact ⟨text, List.mem_singleton.mp member⟩

theorem sound (linked : Linked actor worker down up) : worker.Sound := by
  cases linked with
  | unborn _ _ _ _ _ fresh => exact fresh.toSound
  | ready _ waits => exact waits.toSound
  | parked _ waits => exact waits.toSound
  | permitted _ waits => exact waits.toSound
  | works _ works => exact works.toSound
  | arrived _ waits => exact waits.toSound
  | asks _ asks => exact asks.toSound
  | asked _ _ asks => exact asks.toSound
  | answered _ _ asks => exact asks.toSound
  | finished _ past => exact past.toSound
  | failed _ past => exact past.toSound
  | ended _ past => exact past.toSound
  | past _ past => exact past.toSound

theorem of_unborn (linked : Linked actor worker down up) (control : worker.control = .unborn) :
    worker.Fresh ∧ down = [] ∧ up = [] ∧ actor.phase = .starting ∧ actor.requestPending = none ∧
      actor.reportedFinish = false ∧ actor.requestId = 0 ∧ (actor.worker.isSome → actor.port = true) := by
  cases linked with
  | unborn starting idle unreported fresh_ ported fresh => exact ⟨fresh, rfl, rfl, starting, idle, unreported, fresh_, ported⟩
  | _ => grind [Worker.Waits.control, Worker.Works.control, Worker.Asks.control, Worker.Over.control]

theorem of_executing (linked : Linked actor worker down up) (control : worker.control = .executing) :
    worker.Works actor.requestId ∧ down = [] ∧ up = [] ∧ actor.At .running none := by
  cases linked with
  | works running works => exact ⟨works, rfl, rfl, running⟩
  | _ => grind [Worker.Fresh.control, Worker.Waits.control, Worker.Asks.control, Worker.Over.control]

/-- A worker that has come to its end may go on to post failures. -/
theorem of_done (linked : Linked actor worker down up) (control : worker.control = .done) (text : Option JsString) :
    worker.Over ∧ Linked actor worker down (up ++ [.failure text]) := by
  cases linked with
  | finished running past awaiting late => exact ⟨past, .finished running past awaiting (late_append late text)⟩
  | failed running past late => exact ⟨past, .failed running past (late_append late text)⟩
  | ended ended past awaiting late => exact ⟨past, .ended ended past awaiting (late_append late text)⟩
  | past ended past late => exact ⟨past, .past ended past (late_append late text)⟩
  | _ => grind [Worker.Fresh.control, Worker.Waits.control, Worker.Works.control, Worker.Asks.control]

/-- What reaches a worker is what it waits for. -/
theorem received {post : Post} (linked : Linked actor worker (post :: rest) up) :
    (post = .permit ∧ worker.Waits actor.requestId ∧ rest = [] ∧ up = [] ∧ actor.At .running none) ∨
      (∃ id result, post = .reply id result ∧ worker.Asks id ∧ rest = [] ∧ up = [] ∧ actor.At .running none ∧
        actor.requestId = id + 1) ∨
      (post = .completionAck ∧ worker.Over ∧ worker.awaitingCompletionAck = true ∧ rest = [] ∧ Late up ∧ actor.Ended) := by
  cases linked with
  | permitted running waits => exact .inl ⟨rfl, waits, rfl, rfl, running⟩
  | @answered id result running counted asks => exact .inr (.inl ⟨id, result, rfl, asks, rfl, rfl, running, counted⟩)
  | ended ended past awaiting late => exact .inr (.inr ⟨rfl, past, awaiting, rfl, late, ended⟩)

theorem receive_permit {next : Nat} (waits : worker.Waits next) :
    worker.receive .permit = ({ worker with permitted := true, waiter := false, control := .executing }, []) := by
  rw [Worker.receive, waits.aborted, if_neg (by decide), waits.waiter, if_neg (by decide)]

theorem receive_reply {id : Nat} (asks : worker.Asks id) (result : Except JsString Json) :
    worker.receive (.reply id result) = ({ worker with rpc := none, control := .executing }, []) := by
  rw [Worker.receive, asks.rpc, if_neg (by simp)]

theorem receive_completionAck (past : worker.Over) (awaiting : worker.awaitingCompletionAck = true) :
    worker.receive .completionAck = ({ worker with awaitingCompletionAck := false }, []) := by
  rw [Worker.receive, past.finished, awaiting, if_neg (by decide)]

theorem receive {post : Post} (linked : Linked actor worker (post :: rest) up) :
    Linked actor (worker.receive post).1 rest (up ++ (worker.receive post).2) := by
  rcases linked.received with ⟨rfl, waits, rfl, rfl, running⟩ | ⟨id, result, rfl, asks, rfl, rfl, running, counted⟩ |
    ⟨rfl, past, awaiting, rfl, late, ended⟩
  · rw [receive_permit waits]
    exact .works running ⟨⟨waits.aborted, waits.thrown⟩, rfl, fun _ _ _ => waits.nextRequest, waits.finished⟩
  · rw [receive_reply asks]
    exact .works running
      ⟨⟨asks.aborted, asks.thrown⟩, rfl, fun _ _ _ => asks.nextRequest.trans counted.symm, asks.finished⟩
  · rw [receive_completionAck past awaiting, List.append_nil]
    exact .past ended ⟨⟨past.aborted, past.thrown⟩, past.control, past.finished⟩ late

theorem arrive (running : actor.At .running none) (works : worker.Works actor.requestId) (name : Option JsString)
    (cloned : Bool) : Linked actor (worker.arrive name cloned).1 [] (worker.arrive name cloned).2 := by
  have unfinished : ¬ worker.finished = true := by rw [works.finished]; decide
  unfold Worker.arrive
  rw [if_neg unfinished]
  split
  · exact .works running works
  · rename_i owned
    rw [not_or, not_or, Bool.not_eq_false, Bool.not_eq_true, Option.isSome_eq_false_iff, Option.isNone_iff_eq_none,
      Bool.not_eq_true] at owned
    rcases owned with ⟨permitted, rpc, waiter⟩
    have counted := works.nextRequest permitted rpc waiter
    have sound : ¬ worker.aborted = true := by rw [works.aborted]; decide
    dsimp only
    rw [if_neg sound]
    cases cloned with
    | true =>
      have waits : Worker.Waits { worker with permitted := false, waiter := true, control := .parked } actor.requestId :=
        ⟨⟨works.aborted, works.thrown⟩, .inr rfl, rfl, rpc, counted, rfl, works.finished⟩
      simp only [↓reduceIte]
      exact .arrived running waits
    | false =>
      have stuck : Worker.Works { worker with permitted := false, waiter := true } actor.requestId :=
        ⟨⟨works.aborted, works.thrown⟩, works.control, nofun, works.finished⟩
      simp only [Bool.false_eq_true, ↓reduceIte]
      exact .works running stuck

theorem request (running : actor.At .running none) (works : worker.Works actor.requestId) (input : Except JsString Json)
    (cloned : Bool) : Linked actor (worker.request input cloned).1 [] (worker.request input cloned).2 := by
  have unfinished : ¬ worker.finished = true := by rw [works.finished]; decide
  have sound : ¬ worker.aborted = true := by rw [works.aborted]; decide
  unfold Worker.request
  rw [if_neg unfinished, if_neg sound]
  split
  · exact .works running works
  · rename_i owned
    rw [not_or, not_or, Bool.not_eq_false, Bool.not_eq_true, Option.isSome_eq_false_iff, Option.isNone_iff_eq_none,
      Bool.not_eq_true] at owned
    rcases owned with ⟨permitted, rpc, waiter⟩
    have counted := works.nextRequest permitted rpc waiter
    rw [counted]
    cases cloned with
    | true =>
      have asks : Worker.Asks { worker with
          nextRequest := actor.requestId + 1, rpc := some actor.requestId, control := .asking } actor.requestId :=
        ⟨⟨works.aborted, works.thrown⟩, rfl, waiter, rfl, rfl, works.finished⟩
      simp only [↓reduceIte]
      exact .asks running asks
    | false =>
      have stuck : Worker.Works { worker with
          nextRequest := actor.requestId + 1, rpc := some actor.requestId } actor.requestId :=
        ⟨⟨works.aborted, works.thrown⟩, works.control, nofun, works.finished⟩
      simp only [Bool.false_eq_true, ↓reduceIte]
      exact .works running stuck

theorem complete (running : actor.At .running none) (works : worker.Works actor.requestId)
    (result : Except JsString Unit) : Linked actor (worker.complete result).1 [] (worker.complete result).2 := by
  have past : Worker.Over { worker with finished := true, control := .done } :=
    ⟨⟨works.aborted, works.thrown⟩, rfl, rfl⟩
  have ended : Worker.Over { worker with finished := true, control := .done, awaitingCompletionAck := true } :=
    ⟨⟨works.aborted, works.thrown⟩, rfl, rfl⟩
  have fails : ∀ text, Linked actor { worker with finished := true, control := .done } [] [.failure text] := fun text =>
    .failed running past fun message member => ⟨text, List.mem_singleton.mp member⟩
  have sound : ¬ worker.aborted = true := by rw [works.aborted]; decide
  have closes : ∀ text, Linked actor (worker.close (.error text)).1 [] (worker.close (.error text)).2 := by
    intro text
    rw [Worker.close, if_neg sound]
    exact fails _
  unfold Worker.complete
  cases result with
  | ok done =>
    dsimp only
    split
    · exact closes _
    · exact .finished running ended rfl (by simp [Late])
  | error text => exact closes text

/-- The two sides do not hear of an exit at once. -/
theorem exit (linked : Linked actor worker down up) (code : Option Int) :
    Linked actor { worker with exited := code } down up := by
  cases linked with
  | unborn starting idle unreported uncounted ported fresh =>
    exact .unborn starting idle unreported uncounted ported
      ⟨⟨fresh.aborted, fresh.thrown⟩, fresh.control, fresh.rpc, fresh.nextRequest, fresh.permitted, fresh.finished⟩
  | ready at_ waits => exact .ready at_ (waits.exit code)
  | parked at_ waits => exact .parked at_ (waits.exit code)
  | permitted at_ waits => exact .permitted at_ (waits.exit code)
  | works at_ works =>
    exact .works at_ ⟨⟨works.aborted, works.thrown⟩, works.control, works.nextRequest, works.finished⟩
  | arrived at_ waits => exact .arrived at_ (waits.exit code)
  | asks at_ asks => exact .asks at_ (asks.exit code)
  | asked at_ counted asks => exact .asked at_ counted (asks.exit code)
  | answered at_ counted asks => exact .answered at_ counted (asks.exit code)
  | finished at_ past awaiting late => exact .finished at_ (past.exit code) awaiting late
  | failed at_ past late => exact .failed at_ (past.exit code) late
  | ended at_ past awaiting late => exact .ended at_ (past.exit code) awaiting late
  | past at_ past late => exact .past at_ (past.exit code) late

/-- An action of the worker keeps the two sides together. -/
theorem act (linked : Linked actor worker down up) {action : Action}
    (acted : worker.act actor.worker down action = some (after, rest, posted)) : Linked actor after rest (up ++ posted) := by
  unfold Worker.act at acted
  split at acted
  · cases acted
  cases action with
  | boot =>
    simp only [Option.bind_eq_bind, Option.bind_eq_some_iff] at acted
    rcases acted with ⟨id, threadId, acted⟩
    split at acted
    · rename_i unborn
      cases acted
      rcases linked.of_unborn unborn with ⟨fresh, rfl, rfl, starting, idle, unreported, uncounted, ported⟩
      have port := ported (by rw [threadId]; rfl)
      exact .ready ⟨starting, idle, unreported, port⟩ ⟨⟨fresh.aborted, fresh.thrown⟩, .inl rfl, rfl, fresh.rpc,
        fresh.nextRequest.trans uncounted.symm, fresh.permitted, fresh.finished⟩
    · cases acted
  | receive =>
    dsimp only at acted
    split at acted
    · cases acted
    · split at acted
      · cases acted
      · cases acted
        exact linked.receive
  | arrive name cloned =>
    dsimp only at acted
    split at acted
    · rename_i control
      cases acted
      rcases control with control | control
      · rcases linked.of_executing control with ⟨works, rfl, rfl, running⟩
        exact arrive running works name cloned
      · rcases linked.of_done control (js "checkpoint after worker callback completion") with ⟨past, later⟩
        rw [Worker.arrive, if_pos past.finished]
        exact later
    · cases acted
  | request input cloned =>
    dsimp only at acted
    split at acted
    · rename_i control
      cases acted
      rcases control with control | control
      · rcases linked.of_executing control with ⟨works, rfl, rfl, running⟩
        exact request running works input cloned
      · rcases linked.of_done control (js "request after worker callback completion") with ⟨past, later⟩
        rw [Worker.request, if_pos past.finished]
        exact later
    · cases acted
  | complete result =>
    dsimp only at acted
    split at acted
    · rename_i control
      cases acted
      rcases linked.of_executing control with ⟨works, rfl, rfl, running⟩
      exact complete running works result
    · cases acted
  | exit code =>
    cases acted
    rw [List.append_nil]
    exact linked.exit (some code)

/-! ### Steps of the controller -/

theorem of_ready {threadId : Option Nat} (linked : Linked actor worker down (.ready threadId :: up)) :
    down = [] ∧ up = [] ∧ actor.At .starting none ∧ worker.Waits actor.requestId := by
  cases linked with
  | ready starting waits => exact ⟨rfl, rfl, starting, waits⟩
  | _ => grind [Late.head]

theorem of_arrival {name : Option JsString} (linked : Linked actor worker down (.arrival name :: up)) :
    down = [] ∧ up = [] ∧ actor.At .running none ∧ worker.Waits actor.requestId := by
  cases linked with
  | arrived running waits => exact ⟨rfl, rfl, running, waits⟩
  | _ => grind [Late.head]

theorem of_request {id : Option Nat} {input : Except JsString Json}
    (linked : Linked actor worker down (.request id input :: up)) :
    down = [] ∧ up = [] ∧ actor.At .running none ∧ worker.Asks actor.requestId := by
  cases linked with
  | asks running asks => exact ⟨rfl, rfl, running, asks⟩
  | _ => grind [Late.head]

theorem of_finished (linked : Linked actor worker down (.finished :: up)) :
    down = [] ∧ actor.At .running none ∧ worker.Over ∧ worker.awaitingCompletionAck = true ∧ Late up := by
  cases linked with
  | finished running past awaiting late => exact ⟨rfl, running, past, awaiting, late⟩
  | _ => grind [Late.head]

theorem of_pending {id : Nat} (linked : Linked actor worker down up) (pending : actor.requestPending = some id) :
    down = [] ∧ up = [] ∧ actor.At .running (some id) ∧ actor.requestId = id + 1 ∧ worker.Asks id := by
  cases linked with
  | @asked other running counted asks =>
    cases running.pending.symm.trans pending
    exact ⟨rfl, rfl, running, counted, asks⟩
  | _ => grind [Actor.At.pending, Actor.Ended.pending]

theorem of_parked (linked : Linked actor worker down up) (parked : actor.phase = .parked) :
    down = [] ∧ up = [] ∧ actor.At .parked none ∧ worker.Waits actor.requestId := by
  cases linked with
  | parked at_ waits => exact ⟨rfl, rfl, at_, waits⟩
  | _ => grind [Actor.At.phase, Actor.Ended.phase]

theorem ended_of_reported (linked : Linked actor worker down up) (reported : actor.reportedFinish = true) :
    actor.Ended := by
  cases linked with
  | ended ended => exact ended
  | past ended => exact ended
  | _ => grind [Actor.At.reported]

/-- The end of an actor that has reported it. -/
theorem of_reported (linked : Linked actor worker down up) (reported : actor.reportedFinish = true) {later : Actor}
    (ends : actor.requestPending = none → later.Ended) : Linked later worker down up := by
  cases linked with
  | ended ended past awaiting late => exact .ended (ends ended.pending) past awaiting late
  | past ended past late => exact .past (ends ended.pending) past late
  | _ => grind [Actor.At.reported]

theorem manned (linked : Linked actor worker down up) (threadId : Nat) :
    Linked { actor with port := true, worker := some threadId } worker down up := by
  have at_ : ∀ {phase pending}, actor.At phase pending →
      Actor.At { actor with port := true, worker := some threadId } phase pending := fun at_ =>
    ⟨at_.phase, at_.pending, at_.reported, rfl⟩
  have ended_ : actor.Ended → Actor.Ended { actor with port := true, worker := some threadId } := fun ended =>
    ⟨ended.phase, ended.pending⟩
  cases linked with
  | unborn starting idle unreported uncounted ported fresh =>
    exact .unborn starting idle unreported uncounted (fun _ => rfl) fresh
  | ready starting waits => exact .ready (at_ starting) waits
  | parked parked waits => exact .parked (at_ parked) waits
  | permitted running waits => exact .permitted (at_ running) waits
  | works running works => exact .works (at_ running) works
  | arrived running waits => exact .arrived (at_ running) waits
  | asks running asks => exact .asks (at_ running) asks
  | asked running counted asks => exact .asked (at_ running) counted asks
  | answered running counted asks => exact .answered (at_ running) counted asks
  | finished running past awaiting late => exact .finished (at_ running) past awaiting late
  | failed running past late => exact .failed (at_ running) past late
  | ended ended past awaiting late => exact .ended (ended_ ended) past awaiting late
  | past ended past late => exact .past (ended_ ended) past late

end Linked

/-- What the controller takes from the channels. -/
def Delivered (input : Input) (up left : Nat → List WorkerMessage) : Prop :=
  match input with
  | .message i message => up i = message :: left i ∧ ∀ j, j ≠ i → left j = up j
  | _ => left = up

theorem Delivered.mem {input : Input} {up left : Nat → List WorkerMessage} (delivered : Delivered input up left) {i : Nat}
    {message : WorkerMessage} (member : message ∈ left i) : message ∈ up i := by
  cases input with
  | message j taken =>
    rcases delivered with ⟨head, others⟩
    by_cases same : i = j
    · subst same
      rw [head]
      exact List.mem_cons_of_mem _ member
    · rw [← others i same]
      exact member
  | _ =>
    have same : left = up := delivered
    exact same ▸ member

namespace Execution

variable {run after : Execution} {workers : Nat → Worker} {down : Nat → List Post} {up left : Nat → List WorkerMessage}

theorem posts_grown {i : Nat} {posts : List Post} (grown : after.posted = run.posted ++ posts.map (Prod.mk i)) (j : Nat) :
    System.posts run after j = if i = j then posts else [] := by
  unfold System.posts
  rw [grown, List.drop_left]
  by_cases same : i = j
  · subst same
    rw [if_pos rfl, List.filter_eq_self.mpr (by simp), List.map_map]
    exact List.map_id posts
  · rw [if_neg same, List.filter_eq_nil_iff.mpr (by simp [same])]
    rfl

/-- Every actor stands to its worker as `Linked` says. -/
def AllLinked (run : Execution) (workers : Nat → Worker) (down : Nat → List Post) (up : Nat → List WorkerMessage) : Prop :=
  ∀ i actor, run.actors[i]? = some actor → Linked actor (workers i) (down i) (up i)

theorem AllLinked.kept (linked : AllLinked run workers down up) (actors : after.actors = run.actors)
    (posted : after.posted = run.posted) (same : left = up) :
    AllLinked after workers (fun i => down i ++ System.posts run after i) left := by
  intro i actor found
  have none := @posts_grown run after i [] (by simp [posted]) i
  rw [if_pos rfl] at none
  dsimp only
  rw [none, List.append_nil, same]
  exact linked i actor (actors ▸ found)

/-- One actor changes, with what is posted to it and taken from it. -/
theorem AllLinked.change (linked : AllLinked run workers down up) {i : Nat} {actor : Actor} (posts : List Post)
    (found : run.actors[i]? = some actor) {change : Actor → Actor} (actors : after.actors = run.actors.modify i change)
    (grown : after.posted = run.posted ++ posts.map (Prod.mk i)) (others : ∀ j, j ≠ i → left j = up j)
    (new : Linked (change actor) (workers i) (down i ++ posts) (left i)) :
    AllLinked after workers (fun i => down i ++ System.posts run after i) left := by
  intro j other known
  have changed : (run.update i change).actors[j]? = some other := by rw [update_actors, ← actors]; exact known
  rw [updated] at changed
  dsimp only
  rw [posts_grown grown]
  by_cases same : i = j
  · subst same
    rw [if_pos rfl, found] at changed
    cases changed
    rw [if_pos rfl]
    exact new
  · rw [if_neg same] at changed
    rw [if_neg same, List.append_nil, others j (Ne.symm same)]
    exact linked j other changed

section

variable [NumberText] {input : Input}

theorem Effect.linked (effect : Effect run input after) (further : after.stopped = false)
    (delivered : Delivered input up left) (linked : AllLinked run workers down up) :
    AllLinked after workers (fun i => down i ++ System.posts run after i) left := by
  cases effect with
  | halted halted => rw [halted.stopped] at further; cases further
  | faulted _ _ halted => rw [halted.stopped] at further; cases further
  | late _ stopped => rw [stopped] at further; cases further
  | completed _ _ _ _ _ _ _ stopped => rw [stopped] at further; cases further
  | passed going unsent =>
    have same : left = up := by
      cases input with
      | message => cases unsent
      | _ => exact delivered
    exact linked.kept rfl rfl same
  | @acquired program spawn threads actors going acquiring made manned =>
    intro i actor found
    dsimp only at found
    rw [manned, Option.map_eq_some_iff] at found
    rcases found with ⟨before, known, rfl⟩
    have none := @posts_grown run { run with program := some program, actors := actors, task := .starting none } i []
      (by simp) i
    rw [if_pos rfl] at none
    dsimp only
    rw [none, List.append_nil, delivered]
    exact (linked i before known).manned (threads i)
  | @ready i actor threadId going found port starting =>
    rcases delivered with ⟨taken, others⟩
    have before := linked i actor found
    rw [taken] at before
    rcases before.of_ready with ⟨silent, rest, at_, waits⟩
    refine linked.change [] found rfl (List.append_nil _).symm others ?_
    rw [silent, rest]
    exact .parked ⟨rfl, at_.pending, at_.reported, at_.port⟩ waits
  | @arrived i actor name going found port running =>
    rcases delivered with ⟨taken, others⟩
    have before := linked i actor found
    rw [taken] at before
    rcases before.of_arrival with ⟨silent, rest, at_, waits⟩
    refine linked.change [] found rfl (List.append_nil _).symm others ?_
    rw [silent, rest]
    exact .parked ⟨rfl, at_.pending, at_.reported, at_.port⟩ waits
  | @finished i actor going found port running =>
    rcases delivered with ⟨taken, others⟩
    have before := linked i actor found
    rw [taken] at before
    rcases before.of_finished with ⟨silent, at_, past, awaiting, late⟩
    refine linked.change [.completionAck] found rfl rfl others ?_
    rw [silent]
    exact .ended ⟨.inl rfl, at_.pending⟩ past awaiting late
  | @requested i actor value going found port running =>
    rcases delivered with ⟨taken, others⟩
    have before := linked i actor found
    rw [taken] at before
    rcases before.of_request with ⟨silent, rest, at_, asks⟩
    refine linked.change [] found rfl (List.append_nil _).symm others ?_
    rw [silent, rest]
    exact .asked ⟨at_.phase, rfl, at_.reported, at_.port⟩ rfl asks
  | @settled i id actor value going found pending =>
    rcases (linked i actor found).of_pending pending with ⟨silent, rest, at_, counted, asks⟩
    have same : left = up := delivered
    rw [post_eq found at_.port]
    refine linked.change [.reply id (.ok value)] found rfl rfl (fun j _ => by rw [same]) ?_
    rw [same, silent, rest]
    exact .answered ⟨at_.phase, rfl, at_.reported, at_.port⟩ counted asks
  | @exited i actor code going found reported =>
    have same : left = up := delivered
    have before := linked i actor found
    refine linked.change [] found rfl (List.append_nil _).symm (fun j _ => by rw [same]) ?_
    rw [same, List.append_nil]
    exact before.of_reported reported fun pending => ⟨.inr rfl, pending⟩
  | parked => exact linked.kept rfl rfl delivered
  | opened => exact linked.kept rfl rfl delivered
  | @permitted step i bytes actor going idle expected found named parked =>
    rcases (linked i actor found).of_parked parked with ⟨silent, rest, at_, waits⟩
    have same : left = up := delivered
    have port : ({ run with
        evidenceBytes := bytes, events := run.events ++ [run.eventRow .permit run.next actor] }.update i
        fun actor => { actor with phase := .running }).actors[i]? = some { actor with phase := .running } := by
      rw [updated, if_pos rfl]
      exact congrArg (Option.map _) found
    rw [post_eq port at_.port]
    refine linked.change [.permit] found rfl rfl (fun j _ => by rw [same]) ?_
    rw [same, silent, rest]
    exact .permitted ⟨rfl, at_.pending, at_.reported, at_.port⟩ waits
  | reached => exact linked.kept rfl rfl delivered
  | advanced => exact linked.kept rfl rfl delivered

end

end Execution

end Mirror.Schedule
