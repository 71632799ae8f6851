import Mathlib.Logic.Function.Basic
import MirrorECMA.Schedule.Execution

namespace Mirror.Schedule

open ECMA

/-- Where the worker is: before its bootstrap, at its first wait, in the module or its callback, at an `arrive` or a
`request` that it awaits, or past the end of `run`. -/
inductive Control where
  | unborn
  | starting
  | executing
  | parked
  | asking
  | done
  deriving DecidableEq

/-- `thrown` is what the message handler has thrown, and `exited` the exit code. -/
structure Worker where
  control : Control := .unborn
  aborted : Bool := false
  waiter : Bool := false
  rpc : Option Nat := none
  nextRequest : Nat := 0
  permitted : Bool := false
  finished : Bool := false
  awaitingCompletionAck : Bool := false
  thrown : Option JsString := none
  exited : Option Int := none

/-- What a worker does next. `cloned` tells whether `postMessage` can clone its argument, and the result of `complete` is
that of the import and of the callback. -/
inductive Action where
  | boot
  | receive
  | arrive (name : Option JsString) (cloned : Bool)
  | request (input : Except JsString Json) (cloned : Bool)
  | complete (result : Except JsString Unit)
  | exit (code : Int)

namespace Worker

/-- The start of `run`. -/
def boot (worker : Worker) (threadId : Nat) : Worker × List WorkerMessage :=
  ({ worker with waiter := true, control := .starting }, [.ready (some threadId)])

/-- What follows `run`. -/
def close (worker : Worker) : Except JsString Unit → Worker × List WorkerMessage
  | .ok () => ({ worker with finished := true, control := .done, awaitingCompletionAck := true }, [.finished])
  | .error text =>
    if worker.aborted then ({ worker with finished := true, control := .done, awaitingCompletionAck := true }, [.finished])
    else ({ worker with finished := true, control := .done }, [.failure (some text)])

/-- The end of `run`. -/
def complete (worker : Worker) : Except JsString Unit → Worker × List WorkerMessage
  | .ok () =>
    if worker.waiter ∨ worker.rpc.isSome then
      worker.close (.error (js "worker completed with an unawaited checkpoint or request"))
    else worker.close (.ok ())
  | .error text => worker.close (.error text)

/-- The message handler of the port. -/
def receive (worker : Worker) : Post → Worker × List WorkerMessage
  | .cancel =>
    let cancelled := { worker with aborted := true, waiter := false, rpc := none }
    match worker.control with
    | .starting => cancelled.close (.error (js "scheduled worker cancelled"))
    | .parked | .asking => ({ cancelled with control := .executing }, [])
    | _ => (cancelled, [])
  | .permit =>
    if worker.aborted then (worker, [])
    else if worker.waiter = false then ({ worker with thrown := some (js "permit outside parked worker") }, [])
    else ({ worker with permitted := true, waiter := false, control := .executing }, [])
  | .completionAck =>
    if worker.finished = false ∨ worker.awaitingCompletionAck = false then
      ({ worker with thrown := some (js "unexpected completion acknowledgement") }, [])
    else ({ worker with awaitingCompletionAck := false }, [])
  | .reply id _ =>
    if worker.rpc ≠ some id then
      if worker.aborted then (worker, []) else ({ worker with thrown := some (js "unexpected worker RPC reply") }, [])
    else ({ worker with rpc := none, control := .executing }, [])

def arrive (worker : Worker) (name : Option JsString) (cloned : Bool) : Worker × List WorkerMessage :=
  if worker.finished then (worker, [.failure (some (js "checkpoint after worker callback completion"))])
  else if worker.permitted = false ∨ worker.rpc.isSome ∨ worker.waiter then (worker, [])
  else
    let worker := { worker with permitted := false }
    let posts := if cloned then [.arrival name] else []
    -- a wait that is rejected at once leaves no waiter
    if worker.aborted then (worker, posts)
    else ({ worker with waiter := true, control := if cloned then .parked else worker.control }, posts)

def request (worker : Worker) (input : Except JsString Json) (cloned : Bool) : Worker × List WorkerMessage :=
  if worker.finished then (worker, [.failure (some (js "request after worker callback completion"))])
  else if worker.aborted then (worker, [])
  else if worker.permitted = false ∨ worker.rpc.isSome ∨ worker.waiter then (worker, [])
  else
    ({ worker with
        nextRequest := worker.nextRequest + 1, rpc := some worker.nextRequest
        control := if cloned then .asking else worker.control },
      if cloned then [.request (some worker.nextRequest) input] else [])

/-- An action of a worker that has neither exited nor thrown, with what is left for it to receive and what it posts. The
application acts while it has the control, and calls on after its end. -/
def act (worker : Worker) (threadId : Option Nat) (down : List Post) (action : Action) :
    Option (Worker × List Post × List WorkerMessage) :=
  if worker.exited.isSome ∨ worker.thrown.isSome then none
  else match action with
    | .boot => do
      let id ← threadId
      if worker.control = .unborn then some ((worker.boot id).1, down, (worker.boot id).2) else none
    | .receive =>
      match down with
      | [] => none
      | post :: rest =>
        if worker.control = .unborn then none else some ((worker.receive post).1, rest, (worker.receive post).2)
    | .arrive name cloned =>
      if worker.control = .executing ∨ worker.control = .done then
        some ((worker.arrive name cloned).1, down, (worker.arrive name cloned).2)
      else none
    | .request input cloned =>
      if worker.control = .executing ∨ worker.control = .done then
        some ((worker.request input cloned).1, down, (worker.request input cloned).2)
      else none
    | .complete result =>
      if worker.control = .executing then some ((worker.complete result).1, down, (worker.complete result).2) else none
    | .exit code => some ({ worker with exited := some code }, down, [])

/-- The application of the worker is at work or awaits the answer to its request. -/
def active (worker : Worker) : Prop :=
  worker.exited = none ∧ (worker.control = .executing ∨ worker.control = .asking)

end Worker

/-! ### The controller and its workers -/

/-- `down i` and `up i` are the messages under way to worker `i` and from it. -/
structure System where
  run : Execution
  workers : Nat → Worker := fun _ => {}
  down : Nat → List Post := fun _ => []
  up : Nat → List WorkerMessage := fun _ => []

/-- The inputs of `controller` are those that no worker sends. -/
inductive SystemInput where
  | controller (input : Input)
  | deliver (actor : Nat)
  | exited (actor : Nat)
  | worker (actor : Nat) (action : Action)

namespace System

/-- What a step of the controller posts to an actor. -/
def posts (run after : Execution) (i : Nat) : List Post :=
  ((after.posted.drop run.posted.length).filter fun p => p.1 = i).map (·.2)

section

variable [NumberText]

/-- A step of the controller, which leaves `up` to be delivered. -/
def control (system : System) (input : Input) (up : Nat → List WorkerMessage) : Option System := do
  let (after, _) ← system.run.step input
  some { system with run := after, down := fun i => system.down i ++ posts system.run after i, up := up }

def step (system : System) : SystemInput → Option (System × Unit)
  | .controller input => if input.sent then none else (system.control input system.up).map (·, ())
  | .deliver i =>
    match system.up i with
    | [] => none
    | message :: rest => (system.control (.message i message) (Function.update system.up i rest)).map (·, ())
  | .exited i => do
    let code ← (system.workers i).exited
    (system.control (.exit i code) system.up).map (·, ())
  | .worker i action => do
    let actor ← system.run.actors[i]?
    let (worker, down, posted) ← (system.workers i).act actor.worker (system.down i) action
    some ({ system with
      workers := Function.update system.workers i worker
      down := Function.update system.down i down
      up := Function.update system.up i (system.up i ++ posted) }, ())

end

end System

abbrev SystemStep := Machine.Transition System SystemInput Unit

abbrev SystemRun [NumberText] (setup : Setup) : List SystemStep → System → Prop :=
  Machine.Run System.step { run := setup.start }

end Mirror.Schedule
