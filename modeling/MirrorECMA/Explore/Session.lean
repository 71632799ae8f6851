import MirrorECMA.Machine.Run
import MirrorECMA.Replay.Core

namespace Mirror.Explore

open ECMA Mirror.Protocol
open Mirror.Replay (Failure Received errorOf protoStep receiveReplayMessage)

variable {ω : Type}

/-- The methods of `ExploreSession`. -/
inductive Command where
  | assumeTransition (transitionId : Double)
  | nextStep
  | queryState
  | checkInvariant (invariantId : Double)
  | assumeState (eqs : State)
  | rollback (snapshotId : Double)
  | done

/-- What the methods return. -/
inductive Reply where
  | status (status : Raw)
  | stepNo (stepNo : Raw)
  | state (state : Payload Any)
  | snapshotId (snapshotId : Raw)
  | done

/-- The message that a method sends. -/
def Command.message : Command → Fields Json
  | .assumeTransition transitionId =>
    [(js "proto_step", .string (js "explore_assume_transition")), (js "transitionId", .number transitionId)]
  | .nextStep => [(js "proto_step", .string (js "explore_next_step"))]
  | .queryState => [(js "proto_step", .string (js "explore_query_state"))]
  | .checkInvariant invariantId =>
    [(js "proto_step", .string (js "explore_check_invariant")), (js "invariantId", .number invariantId)]
  | .assumeState eqs => [(js "proto_step", .string (js "explore_assume_state")), (js "state", .object (encodeState eqs))]
  | .rollback snapshotId =>
    [(js "proto_step", .string (js "explore_rollback")), (js "snapshotId", .number snapshotId)]
  | .done => [(js "proto_step", .string (js "explore_done"))]

/-- The kind of reply that a method accepts. -/
def Command.accept : Command → AnyMessage → Option Reply
  | .assumeTransition _, .exploreTransitionStatus status => some (.status status)
  | .nextStep, .exploreStepDone stepNo => some (.stepNo stepNo)
  | .queryState, .exploreState state => some (.state state)
  | .checkInvariant _, .exploreInvariantStatus status => some (.status status)
  | .assumeState _, .exploreAssumeStatus status => some (.status status)
  | .rollback _, .exploreRollbackDone snapshotId => some (.snapshotId snapshotId)
  | .done, .exploreSessionDone => some .done
  | _, _ => none

/-- A method that waits: `id` counts the pulls of the iterator before its own, and `received` is what `cmd` has returned to
it. -/
structure Exchange where
  id : Nat
  command : Command
  received : Option AnyMessage

/-- `replies` are the answers of the iterator to its pulls, in their order. -/
structure Session (ω : Type) where
  closed : Bool := false
  pulls : Nat := 0
  pending : List Exchange := []
  replies : List (Received ω) := []

/-- What happens next: a method is called, with what `send` throws; the next pull is answered; a method goes on with the
answer to its pull; a method goes on with what `cmd` returns. -/
inductive Input (ω : Type) where
  | call (command : Command) (sendFailure : Option ω)
  | arrive (reply : Received ω)
  | read (id : Nat)
  | check (id : Nat)

/-- `closes` says whether `close` of the transport is called. The method settles after that call has. -/
inductive Output (ω : Type) where
  | sent (command : Command) (line : JsString)
  | refused (failure : Failure ω)
  | past
  | silent
  | rejected (id : Nat) (failure : Failure ω) (closes : Bool)
  | completed (id : Nat) (reply : Reply) (closes : Bool)

def Session.find (session : Session ω) (id : Nat) : Option Exchange := session.pending.find? fun exchange => exchange.id = id

def Session.without (session : Session ω) (id : Nat) : List Exchange :=
  session.pending.filter fun exchange => exchange.id ≠ id

/-- `abort`, and the error that is thrown after it. -/
def abort (session : Session ω) (id : Nat) (failure : Failure ω) : Session ω × Output ω :=
  ({ session with closed := true, pending := session.without id }, .rejected id failure !session.closed)

section

variable [NumberText]

def call (session : Session ω) (command : Command) (sendFailure : Option ω) : Session ω × Output ω :=
  if session.closed then
    match command with
    | .done => (session, .past)
    | _ => (session, .refused (.error (js "explore session is closed")))
  else
    match sendFailure with
    | some error => (session, .refused (.thrown error))
    | none =>
      ({ session with pulls := session.pulls + 1, pending := session.pending ++ [⟨session.pulls, command, none⟩] },
        .sent command (jsonStringify (.object command.message)))

/-- The method looks at the kind of its reply. -/
def check (session : Session ω) (exchange : Exchange) (msg : AnyMessage) : Session ω × Output ω :=
  match exchange.command.accept msg with
  | none => abort session exchange.id (.error (js "unexpected reply: " ++ protoStep msg))
  | some reply =>
    match exchange.command with
    | .done => ({ session with closed := true, pending := session.without exchange.id }, .completed exchange.id reply true)
    | _ => ({ session with pending := session.without exchange.id }, .completed exchange.id reply false)

variable [NumberConversion]

/-- `cmd` goes on with the answer to its pull; `assumeState` does its work itself. -/
def read (session : Session ω) (exchange : Exchange) (reply : Received ω) : Session ω × Output ω :=
  match receiveReplayMessage reply with
  | .error failure => abort session exchange.id failure
  | .ok (.protocolError error) => abort session exchange.id (errorOf error)
  | .ok msg =>
    match exchange.command with
    | .assumeState _ => check session exchange msg
    | _ => ({ session with pending := session.pending.map fun other =>
        if other.id = exchange.id then { other with received := some msg } else other }, .silent)

def step (session : Session ω) : Input ω → Option (Session ω × Output ω)
  | .call command sendFailure => some (call session command sendFailure)
  | .arrive reply => some ({ session with replies := session.replies ++ [reply] }, .silent)
  | .read id => do
    let exchange ← session.find id
    if exchange.received.isSome then none
    else do
      let reply ← session.replies[id]?
      some (read session exchange reply)
  | .check id => do
    let exchange ← session.find id
    let msg ← exchange.received
    some (check session exchange msg)

abbrev Step (ω : Type) := Machine.Transition (Session ω) (Input ω) (Output ω)

/-- A session after its handshake. -/
abbrev Run : List (Step ω) → Session ω → Prop := Machine.Run step {}

end

end Mirror.Explore
