import MirrorECMA.ECMA.Integers
import MirrorECMA.LockStep.Connection

namespace Mirror.LockStep

open ECMA Mirror.Protocol
open Mirror.Replay (Failure Received protoStep)

variable {ω : Type}

/-! ### Replies and their verdicts -/

/-- The errors of an operation that is not sent. -/
def ConnectionFailure.isRefusal : ConnectionFailure ω → Bool
  | .range _ | .connectionClosed _ | .asyncOnStdio _ => true
  | _ => false

def Verdict.result : Verdict ω → Except (ConnectionFailure ω) Answer
  | .answer value => .ok value
  | .failed error | .poison error => .error error

def Verdict.isPoison : Verdict ω → Bool
  | .poison _ => true
  | _ => false

/-- The kinds of reply that an operation has a use for. -/
def Operation.expects : Operation → AnyMessage → Bool
  | _, .registerError _ => true
  | .validate _ _ _, .specValidated _ => true
  | .submitValidateAsync _ _ _, .jobAccepted _ _ | .submitTraceGenAsync _ _ _ _, .jobAccepted _ _ => true
  | .queryJob _, .jobStatus _ _ | .awaitJob _ _, .jobStatus _ _ | .cancelJob _, .jobStatus _ _ | .ping, .jobStatus _ _ => true
  | .queryJob _, .jobResult _ _ | .awaitJob _ _, .jobResult _ _ | .cancelJob _, .jobResult _ _ | .ping, .jobResult _ _ => true
  | _, _ => false

def isRefused : Except (ConnectionFailure ω) Answer → Bool
  | .error failure => failure.isRefusal
  | .ok _ => false

theorem returned_refused (operation : Operation) {result : Except (ConnectionFailure ω) Answer}
    (sent : isRefused result = false) : isRefused (operation.returned result) = false := by
  cases operation with
  | ping =>
    unfold Operation.returned
    split <;> first | rfl | contradiction
  | _ => exact sent

section

variable [NumberText]

theorem thrownAs_refusal (error : Raw) {make : JsString → ConnectionFailure ω}
    (sent : ∀ text, (make text).isRefusal = false) : (thrownAs error make).isRefusal = false := by
  unfold thrownAs
  split
  · exact sent []
  · split
    · exact sent _
    · rfl

theorem verdict_poison (operation : Operation) (reply : AnyMessage) :
    (operation.verdict reply : Verdict ω).isPoison = !operation.expects reply := by
  cases operation <;> cases reply <;> rfl

theorem verdict_refused (operation : Operation) (reply : AnyMessage) :
    isRefused (operation.verdict reply : Verdict ω).result = false := by
  have texts (error : Raw) : (thrownAs error .registerFailed : ConnectionFailure ω).isRefusal = false ∧
      (thrownAs error .protocolFailure : ConnectionFailure ω).isRefusal = false :=
    ⟨thrownAs_refusal error fun _ => rfl, thrownAs_refusal error fun _ => rfl⟩
  have submitted (error : Raw) : (thrownAs error fun text =>
      if queueFull text then .jobQueueFull text else .registerFailed text : ConnectionFailure ω).isRefusal = false := by
    apply thrownAs_refusal
    intro text
    split <;> rfl
  cases operation <;> cases reply <;> first | rfl | exact (texts _).1 | exact (texts _).2 | exact submitted _

variable [NumberConversion]

/-- An answer of the iterator that is an error, or a line that is no message. -/
def Unreadable (reply : Received ω) : Prop :=
  match reply with
  | .done => False
  | .failed _ => True
  | .line text => ∃ thrown, decodeMirrorMessage text = .error thrown

/-- What an operation makes of the answer to its pull. -/
def Operation.outcome (operation : Operation) (closed : Bool) (reply : Received ω) :
    Except (ConnectionFailure ω) Answer :=
  operation.returned (match roundTrip closed reply with
    | .ok reply => (operation.verdict reply).result
    | .error verdict => verdict.result)

theorem roundTrip_ok {closed : Bool} {reply : Received ω} {message : AnyMessage}
    (returned : roundTrip closed reply = .ok message) : reply ≠ .done ∧ ¬ Unreadable reply := by
  cases reply with
  | done => cases returned
  | failed error => cases returned
  | line text =>
    have decoded := mapError_eq_ok.mp returned
    constructor
    · intro same
      cases same
    · intro unreadable
      rcases unreadable with ⟨thrown, failed⟩
      rw [decoded] at failed
      cases failed

theorem exchangeFailed_poison (closed : Bool) (cause : Cause ω) : (exchangeFailed closed cause).isPoison = !closed := by
  cases closed <;> rfl

theorem roundTrip_error {closed : Bool} {reply : Received ω} {verdict : Verdict ω}
    (threw : roundTrip closed reply = .error verdict) : isRefused verdict.result = false ∧
      (reply = .done ∧ verdict.isPoison = true ∨ reply ≠ .done ∧ Unreadable reply ∧ verdict.isPoison = !closed) := by
  have caught (cause : Cause ω) : isRefused (exchangeFailed closed cause).result = false := by
    cases closed <;> rfl
  cases reply with
  | done =>
    cases threw
    exact ⟨rfl, .inl ⟨rfl, rfl⟩⟩
  | failed error =>
    cases threw
    exact ⟨caught _, .inr ⟨by simp, trivial, exchangeFailed_poison closed _⟩⟩
  | line text =>
    cases decoded : decodeMirrorMessage text with
    | ok message =>
      rw [roundTrip, decoded] at threw
      cases threw
    | error thrown =>
      rw [roundTrip, decoded] at threw
      cases threw
      exact ⟨caught _, .inr ⟨by simp, ⟨thrown, decoded⟩, exchangeFailed_poison closed _⟩⟩

end

/-! ### What a step can do -/

/-- An operation of an open exchange ends, or it poisons the connection. -/
inductive Concludes (connection : Connection ω) (ticket : Nat) (operation : Operation) (verdict : Verdict ω) :
    Connection ω → Output ω → Prop
  | finished : verdict.isPoison = false → Concludes connection ticket operation verdict
      { connection with current := none } (.settled ticket (operation.returned verdict.result))
  | poisoned {failure : ConnectionFailure ω} : verdict = .poison failure → Concludes connection ticket operation verdict
      { connection with flowConsumed := true, closed := true, current := some ⟨ticket, operation, .poisoned failure⟩ }
      (.poisoned ticket !connection.closed)

theorem conclude_concludes (connection : Connection ω) (ticket : Nat) (operation : Operation) (verdict : Verdict ω) :
    Concludes connection ticket operation verdict (conclude connection ticket operation verdict).1
      (conclude connection ticket operation verdict).2 := by
  cases verdict with
  | answer answer => exact .finished rfl
  | failed failure => exact .finished rfl
  | poison failure => exact .poisoned rfl

section

variable [NumberText] [NumberConversion]

/-- All that a step may do to a connection. -/
inductive Effect (connection : Connection ω) : Input ω → Connection ω → Output ω → Prop
  | turnedAway {operation : Operation} {result : Except (ConnectionFailure ω) Answer} :
    Effect connection (.call operation) { connection with calls := connection.calls + 1 }
      (.settled connection.calls result)
  | queued {operation : Operation} : (assertValidateBound operation : Except (ConnectionFailure ω) Unit) = .ok () →
    Effect connection (.call operation) { connection with
      calls := connection.calls + 1, queue := connection.queue ++ [(connection.calls, operation)] }
      (.queued connection.calls)
  | refused {sendFailure : Option ω} {ticket : Nat} {operation : Operation} {rest : List (Nat × Operation)}
      {failure : ConnectionFailure ω} {result : Except (ConnectionFailure ω) Answer} :
    connection.current = none → connection.queue = (ticket, operation) :: rest →
    assertAllowed connection operation = .error failure →
    Effect connection (.run sendFailure) { connection with queue := rest, current := none } (.settled ticket result)
  | sent {ticket : Nat} {operation : Operation} {rest : List (Nat × Operation)} {line : JsString} :
    connection.current = none → connection.queue = (ticket, operation) :: rest →
    assertAllowed connection operation = .ok () →
    Effect connection (.run none) { connection with
      queue := rest, pulls := connection.pulls + 1, current := some ⟨ticket, operation, .requested⟩ }
      (.sent ticket operation line)
  | sendFailed {error : ω} {ticket : Nat} {operation : Operation} {rest : List (Nat × Operation)} :
    connection.current = none → connection.queue = (ticket, operation) :: rest →
    assertAllowed connection operation = .ok () →
    Effect connection (.run (some error)) { connection with
      queue := rest, flowConsumed := true, closed := true
      current := some ⟨ticket, operation, .poisoned (.failedExchange (.failure (.thrown error)))⟩ }
      (.poisoned ticket !connection.closed)
  | arrived {reply : Received ω} :
    Effect connection (.arrive reply) { connection with replies := connection.replies ++ [reply] } .silent
  | received {ticket : Nat} {operation : Operation} {reply : Received ω} {message : AnyMessage} :
    connection.current = some ⟨ticket, operation, .requested⟩ → connection.answer? = some reply →
    roundTrip connection.closed reply = .ok message →
    Effect connection .read { connection with current := some ⟨ticket, operation, .replied message⟩ } .silent
  | failed {ticket : Nat} {operation : Operation} {reply : Received ω} {verdict : Verdict ω} {after : Connection ω}
      {output : Output ω} :
    connection.current = some ⟨ticket, operation, .requested⟩ → connection.answer? = some reply →
    roundTrip connection.closed reply = .error verdict → Concludes connection ticket operation verdict after output →
    Effect connection .read after output
  | checked {ticket : Nat} {operation : Operation} {message : AnyMessage} {flow : Bool} {after : Connection ω}
      {output : Output ω} :
    connection.current = some ⟨ticket, operation, .replied message⟩ →
    flow = (connection.flowConsumed || !operation.isAsync) →
    Concludes { connection with flowConsumed := flow } ticket operation (operation.verdict message) after output →
    Effect connection .check after output
  | settled {ticket : Nat} {operation : Operation} {failure : ConnectionFailure ω} :
    connection.current = some ⟨ticket, operation, .poisoned failure⟩ →
    Effect connection .settle { connection with current := none } (.settled ticket (operation.returned (.error failure)))
  | closed : Effect connection .close { connection with closed := true } (.closed !connection.closed)

theorem assertFlowOpen_ok {connection : Connection ω} (allowed : assertFlowOpen connection = .ok ()) :
    connection.closed = false ∧ connection.flowConsumed = false := by
  unfold assertFlowOpen at allowed
  split at allowed
  · cases allowed
  · rename_i opened
    split at allowed
    · cases allowed
    · rename_i going
      exact ⟨Bool.not_eq_true _ ▸ opened, Bool.not_eq_true _ ▸ going⟩

theorem assertAllowed_ok {connection : Connection ω} {operation : Operation}
    (allowed : assertAllowed connection operation = .ok ()) :
    connection.closed = false ∧ connection.flowConsumed = false ∧ (connection.mode = .stdio → operation.isAsync = false) := by
  unfold assertAllowed at allowed
  split at allowed
  · rename_i isAsync
    rcases bind_eq_ok.mp allowed with ⟨_, opened, network⟩
    rcases assertFlowOpen_ok opened with ⟨closed, flowConsumed⟩
    refine ⟨closed, flowConsumed, fun stdio => ?_⟩
    rw [if_pos stdio] at network
    cases network
  · rename_i plain
    rcases assertFlowOpen_ok allowed with ⟨closed, flowConsumed⟩
    exact ⟨closed, flowConsumed, fun _ => Bool.not_eq_true _ ▸ plain⟩

theorem call_effect (connection : Connection ω) (operation : Operation) :
    Effect connection (.call operation) (call connection operation).1 (call connection operation).2 := by
  simp only [call]
  cases callable : assertCallable { connection with calls := connection.calls + 1 } operation with
  | error failure => exact .turnedAway
  | ok nothing =>
    rcases bind_eq_ok.mp callable with ⟨_, bound, -⟩
    exact .queued bound

theorem run_effect {connection : Connection ω} {ticket : Nat} {operation : Operation} {rest : List (Nat × Operation)}
    (idle : connection.current = none) (first : connection.queue = (ticket, operation) :: rest)
    (sendFailure : Option ω) : Effect connection (.run sendFailure)
      (runNext { connection with queue := rest } ticket operation sendFailure).1
      (runNext { connection with queue := rest } ticket operation sendFailure).2 := by
  have same : assertAllowed { connection with queue := rest } operation = assertAllowed connection operation := rfl
  unfold runNext
  rw [same]
  cases allowed : assertAllowed connection operation with
  | error failure => exact .refused idle first allowed
  | ok nothing =>
    cases sendFailure with
    | none => exact .sent idle first allowed
    | some error =>
      have poisons : exchangeFailed connection.closed (.failure (.thrown error)) =
          .poison (.failedExchange (.failure (.thrown error))) := by
        rw [(assertAllowed_ok allowed).1]
        rfl
      simp only [poisons]
      exact .sendFailed idle first allowed

theorem read_effect {connection : Connection ω} {ticket : Nat} {operation : Operation} {reply : Received ω}
    (running : connection.current = some ⟨ticket, operation, .requested⟩) (answered : connection.answer? = some reply) :
    Effect connection .read (read connection ticket operation reply).1 (read connection ticket operation reply).2 := by
  unfold read
  cases returned : roundTrip connection.closed reply with
  | ok message => exact .received running answered returned
  | error verdict => exact .failed running answered returned (conclude_concludes connection ticket operation verdict)

theorem check_effect {connection : Connection ω} {ticket : Nat} {operation : Operation} {message : AnyMessage}
    (running : connection.current = some ⟨ticket, operation, .replied message⟩) :
    Effect connection .check (check connection ticket operation message).1 (check connection ticket operation message).2 := by
  refine .checked running rfl ?_
  cases operation with
  | validate apalacheConfig bound spec =>
    have flow : (connection.flowConsumed || !(Operation.validate apalacheConfig bound spec).isAsync) = true :=
      Bool.or_true _
    rw [flow]
    exact conclude_concludes { connection with flowConsumed := true } ticket _ _
  | _ =>
    simp only [Operation.isAsync, Bool.not_true, Bool.or_false]
    exact conclude_concludes connection ticket _ _

theorem step_effect {connection after : Connection ω} {input : Input ω} {output : Output ω}
    (taken : step connection input = some (after, output)) : Effect connection input after output := by
  unfold step at taken
  split at taken
  · have effect := call_effect connection ‹Operation›
    rw [Option.some.inj taken] at effect
    exact effect
  · rename_i sendFailure ticket operation rest idle first
    have effect := run_effect idle first sendFailure
    rw [Option.some.inj taken] at effect
    exact effect
  · cases taken
    exact .arrived
  · rename_i ticket operation running
    rcases Option.map_eq_some_iff.mp taken with ⟨reply, answered, same⟩
    have effect := read_effect running answered
    rw [same] at effect
    exact effect
  · rename_i ticket operation message running
    have effect := check_effect running
    rw [Option.some.inj taken] at effect
    exact effect
  · rename_i ticket operation failure running
    cases taken
    exact .settled running
  · cases taken
    exact .closed
  · cases taken

end

/-! ### Tickets -/

def sentRequest (t : Step ω) : Option (Nat × Operation) :=
  match t.output with
  | .sent ticket operation _ => some (ticket, operation)
  | _ => none

def Sends (ticket : Nat) (t : Step ω) : Prop := ∃ operation, sentRequest t = some (ticket, operation)

def Settles (ticket : Nat) (t : Step ω) : Prop := ∃ result, t.output = .settled ticket result

/-- An operation is rejected before its turn or when it comes: for its bound, for stdio mode or for a spent session. -/
def Refuses (ticket : Nat) (t : Step ω) : Prop := ∃ result, t.output = .settled ticket result ∧ isRefused result = true

/-- An operation waits in the queue before it runs, and runs before it settles. -/
structure Tickets (trace : List (Step ω)) (connection : Connection ω) : Prop where
  known : ∀ t ∈ trace, ∀ ticket, Sends ticket t ∨ Settles ticket t → ticket < connection.calls
  running : ∀ exchange, connection.current = some exchange → exchange.ticket < connection.calls
  bounded : ∀ entry ∈ connection.queue, entry.1 < connection.calls
  waiting : ∀ entry ∈ connection.queue, ∀ t ∈ trace, ¬ Sends entry.1 t ∧ ¬ Settles entry.1 t
  apart : ∀ entry ∈ connection.queue, ∀ exchange, connection.current = some exchange → exchange.ticket ≠ entry.1
  distinct : (connection.queue.map Prod.fst).Nodup
  refused : ∀ t ∈ trace, ∀ ticket, Refuses ticket t → ∀ u ∈ trace, ¬ Sends ticket u
  once : ((trace.filterMap sentRequest).map Prod.fst).Nodup

theorem refuses_settles {ticket : Nat} {t : Step ω} (refuses : Refuses ticket t) : Settles ticket t := by
  rcases refuses with ⟨result, settled, -⟩
  exact ⟨result, settled⟩

theorem mem_requests {trace : List (Step ω)} {ticket : Nat} :
    ticket ∈ (trace.filterMap sentRequest).map Prod.fst ↔ ∃ t ∈ trace, Sends ticket t := by
  simp only [List.mem_map, List.mem_filterMap, Prod.exists, Sends]
  constructor
  · intro found
    rcases found with ⟨_, operation, ⟨t, member, sent⟩, rfl⟩
    exact ⟨t, member, operation, sent⟩
  · intro found
    rcases found with ⟨t, member, operation, sent⟩
    exact ⟨ticket, operation, ⟨t, member, sent⟩, rfl⟩

theorem sentRequest_sends {ticket : Nat} {t : Step ω} (silent : sentRequest t = none) : ¬ Sends ticket t := by
  intro sends
  rcases sends with ⟨operation, sent⟩
  rw [silent] at sent
  cases sent

/-- Where a step takes the operations of a connection. -/
structure Moves (connection after : Connection ω) (t : Step ω) : Prop where
  calls : connection.calls ≤ after.calls
  queue : after.queue = connection.queue ∨
    (∃ operation, after.queue = connection.queue ++ [(connection.calls, operation)] ∧ connection.calls < after.calls) ∨
    ∃ entry, connection.queue = entry :: after.queue
  sends : ∀ ticket, Sends ticket t →
    (∃ operation, connection.queue = (ticket, operation) :: after.queue) ∧ ∀ other, ¬ Settles other t
  settles : ∀ ticket, Settles ticket t →
    (ticket = connection.calls ∧ connection.calls < after.calls ∧ after.queue = connection.queue) ∨
    (∃ operation, connection.queue = (ticket, operation) :: after.queue) ∨
    (∃ exchange, connection.current = some exchange ∧ exchange.ticket = ticket) ∧ after.queue = connection.queue ∧
      ¬ Refuses ticket t
  current : ∀ exchange, after.current = some exchange →
    (∃ before, connection.current = some before ∧ before.ticket = exchange.ticket) ∨
    ∃ operation, connection.queue = (exchange.ticket, operation) :: after.queue

section

variable {trace : List (Step ω)} {connection after : Connection ω} {t : Step ω}

theorem Tickets.entry (tickets : Tickets trace connection) (moves : Moves connection after t) {entry : Nat × Operation}
    (member : entry ∈ after.queue) :
    entry ∈ connection.queue ∨ entry.1 = connection.calls ∧ connection.calls < after.calls := by
  rcases moves.queue with same | ⟨operation, more, fresh⟩ | ⟨first, popped⟩
  · exact .inl (same ▸ member)
  · rw [more] at member
    rcases List.mem_append.mp member with member | member
    · exact .inl member
    · cases List.mem_singleton.mp member
      exact .inr ⟨rfl, fresh⟩
  · rw [popped]
    exact .inl (List.mem_cons_of_mem first member)

/-- The operation that leaves the queue is not in it any more. -/
theorem Tickets.popped (tickets : Tickets trace connection) {ticket : Nat} {operation : Operation}
    (popped : connection.queue = (ticket, operation) :: after.queue) {entry : Nat × Operation}
    (member : entry ∈ after.queue) : entry.1 ≠ ticket := by
  have distinct := tickets.distinct
  rw [popped, List.map_cons, List.nodup_cons] at distinct
  intro same
  apply distinct.1
  rw [← same]
  exact List.mem_map.mpr ⟨entry, member, rfl⟩

theorem Tickets.known_last (tickets : Tickets trace connection) (moves : Moves connection after t) {ticket : Nat}
    (used : Sends ticket t ∨ Settles ticket t) : ticket < after.calls := by
  have first {operation : Operation} (popped : connection.queue = (ticket, operation) :: after.queue) :
      ticket < after.calls := by
    have bound := tickets.bounded (ticket, operation) (popped ▸ List.mem_cons_self)
    exact Nat.lt_of_lt_of_le bound moves.calls
  rcases used with sends | settles
  · rcases moves.sends ticket sends with ⟨⟨operation, popped⟩, -⟩
    exact first popped
  · rcases moves.settles ticket settles with ⟨rfl, fresh, -⟩ | ⟨operation, popped⟩ | ⟨⟨exchange, running, rfl⟩, -⟩
    · exact fresh
    · exact first popped
    · exact Nat.lt_of_lt_of_le (tickets.running exchange running) moves.calls

theorem Tickets.waiting_last (tickets : Tickets trace connection) (moves : Moves connection after t)
    {entry : Nat × Operation} (member : entry ∈ after.queue) : ¬ Sends entry.1 t ∧ ¬ Settles entry.1 t := by
  constructor
  · intro sends
    rcases moves.sends entry.1 sends with ⟨⟨operation, popped⟩, -⟩
    exact tickets.popped popped member rfl
  · intro settles
    rcases moves.settles entry.1 settles with ⟨last, -, same⟩ | ⟨operation, popped⟩ | ⟨⟨exchange, running, last⟩, same, -⟩
    · exact Nat.ne_of_lt (tickets.bounded entry (same ▸ member)) last
    · exact tickets.popped popped member rfl
    · exact tickets.apart entry (same ▸ member) exchange running last

theorem Tickets.refused_last (tickets : Tickets trace connection) (moves : Moves connection after t) {ticket : Nat} :
    (Refuses ticket t → ∀ u ∈ trace, ¬ Sends ticket u) ∧
      (Sends ticket t → ∀ u ∈ trace ++ [t], ¬ Refuses ticket u) := by
  constructor
  · intro refuses u member sends
    rcases moves.settles ticket (refuses_settles refuses) with ⟨rfl, -, -⟩ | ⟨operation, popped⟩ | ⟨-, -, accepted⟩
    · exact Nat.lt_irrefl _ (tickets.known u member _ (.inl sends))
    · exact (tickets.waiting (ticket, operation) (popped ▸ List.mem_cons_self) u member).1 sends
    · exact accepted refuses
  · intro sends u member refuses
    rcases moves.sends ticket sends with ⟨⟨operation, popped⟩, unsettled⟩
    rcases List.mem_append.mp member with member | member
    · exact (tickets.waiting (ticket, operation) (popped ▸ List.mem_cons_self) u member).2 (refuses_settles refuses)
    · cases List.mem_singleton.mp member
      exact unsettled ticket (refuses_settles refuses)

theorem Tickets.moves (tickets : Tickets trace connection) (moves : Moves connection after t) :
    Tickets (trace ++ [t]) after where
  known u member ticket used := by
    rcases List.mem_append.mp member with member | member
    · exact Nat.lt_of_lt_of_le (tickets.known u member ticket used) moves.calls
    · cases List.mem_singleton.mp member
      exact tickets.known_last moves used
  running exchange current := by
    rcases moves.current exchange current with ⟨before, running, same⟩ | ⟨operation, popped⟩
    · rw [← same]
      exact Nat.lt_of_lt_of_le (tickets.running before running) moves.calls
    · have bound := tickets.bounded (exchange.ticket, operation) (popped ▸ List.mem_cons_self)
      exact Nat.lt_of_lt_of_le bound moves.calls
  bounded entry member := by
    rcases tickets.entry moves member with inside | ⟨last, fresh⟩
    · exact Nat.lt_of_lt_of_le (tickets.bounded entry inside) moves.calls
    · rw [last]
      exact fresh
  waiting entry member u inside := by
    rcases List.mem_append.mp inside with inside | inside
    · rcases tickets.entry moves member with queued | ⟨last, -⟩
      · exact tickets.waiting entry queued u inside
      · rw [last]
        constructor
        · intro sends
          exact Nat.lt_irrefl _ (tickets.known u inside _ (.inl sends))
        · intro settles
          exact Nat.lt_irrefl _ (tickets.known u inside _ (.inr settles))
    · cases List.mem_singleton.mp inside
      exact tickets.waiting_last moves member
  apart entry member exchange current := by
    rcases moves.current exchange current with ⟨before, running, same⟩ | ⟨operation, popped⟩
    · rw [← same]
      rcases tickets.entry moves member with queued | ⟨last, -⟩
      · exact tickets.apart entry queued before running
      · rw [last]
        exact Nat.ne_of_lt (tickets.running before running)
    · exact (tickets.popped popped member).symm
  distinct := by
    have distinct := tickets.distinct
    rcases moves.queue with same | ⟨operation, more, -⟩ | ⟨first, popped⟩
    · rw [same]
      exact distinct
    · rw [more, List.map_append, List.nodup_append]
      refine ⟨distinct, List.nodup_singleton _, ?_⟩
      intro ticket member other last
      rcases List.mem_map.mp member with ⟨entry, inside, rfl⟩
      cases List.mem_singleton.mp last
      exact Nat.ne_of_lt (tickets.bounded entry inside)
    · rw [popped, List.map_cons, List.nodup_cons] at distinct
      exact distinct.2
  refused u member ticket refuses v inside sends := by
    rcases List.mem_append.mp inside with inside | inside
    · rcases List.mem_append.mp member with member | member
      · exact tickets.refused u member ticket refuses v inside sends
      · cases List.mem_singleton.mp member
        exact (tickets.refused_last moves).1 refuses v inside sends
    · cases List.mem_singleton.mp inside
      exact (tickets.refused_last moves).2 sends u member refuses
  once := by
    cases sent : sentRequest t with
    | none =>
      rw [List.filterMap_append, List.filterMap_cons_none sent, List.filterMap_nil, List.append_nil]
      exact tickets.once
    | some request =>
      rcases request with ⟨ticket, operation⟩
      rcases moves.sends ticket ⟨operation, sent⟩ with ⟨⟨_, popped⟩, -⟩
      rw [List.filterMap_append, List.filterMap_cons_some sent, List.map_append, List.nodup_append]
      refine ⟨tickets.once, List.nodup_singleton _, ?_⟩
      intro earlier member last same
      cases List.mem_singleton.mp same
      rcases mem_requests.mp member with ⟨u, inside, sends⟩
      rintro rfl
      exact (tickets.waiting _ (popped ▸ List.mem_cons_self) u inside).1 sends

end

/-! ### Runs -/

def arrivedReply (t : Step ω) : Option (Received ω) :=
  match t.input with
  | .arrive reply => some reply
  | _ => none

/-- The answer to a request is read. -/
def isRead (t : Step ω) : Bool :=
  match t.input with
  | .read => true
  | _ => false

/-- `close` of the transport is called. -/
def Closes (t : Step ω) : Prop := (∃ ticket, t.output = .poisoned ticket true) ∨ t.output = .closed true

def Poisons (t : Step ω) : Prop := ∃ ticket closes, t.output = .poisoned ticket closes

/-- The caller closes the connection, it is poisoned, or the request of a `validate` is sent. -/
def Ends (t : Step ω) : Prop :=
  t.input = .close ∨ Poisons t ∨ ∃ ticket operation, sentRequest t = some (ticket, operation) ∧ operation.isAsync = false

/-- The last request that has been sent. -/
def lastRequest (trace : List (Step ω)) (connection : Connection ω) : Option (Nat × Operation) :=
  (trace.filterMap sentRequest)[connection.pulls - 1]?

def CallerCloses (trace : List (Step ω)) : Prop := ∃ t ∈ trace, t.input = .close

section

variable {trace : List (Step ω)} {connection after : Connection ω} {t : Step ω}

theorem lastRequest_kept (silent : sentRequest t = none) (pulls : after.pulls = connection.pulls) :
    lastRequest (trace ++ [t]) after = lastRequest trace connection := by
  rw [lastRequest, lastRequest, List.filterMap_append, List.filterMap_cons_none silent, List.filterMap_nil,
    List.append_nil, pulls]

theorem CallerCloses.later (closes : CallerCloses trace) (t : Step ω) : CallerCloses (trace ++ [t]) :=
  Machine.earlier closes t

end

section

variable [NumberText] [NumberConversion] {trace : List (Step ω)} {connection after : Connection ω} {input : Input ω}
  {output : Output ω} {t : Step ω}

theorem concludes_moves {ticket : Nat} {operation : Operation} {phase : Phase ω} {verdict : Verdict ω} {flow : Bool}
    (running : connection.current = some ⟨ticket, operation, phase⟩) (sent : isRefused verdict.result = false)
    (concludes : Concludes { connection with flowConsumed := flow } ticket operation verdict after output) :
    Moves connection after ⟨connection, input, output, after⟩ := by
  cases concludes with
  | finished plain =>
    exact
      { calls := Nat.le_refl _
        queue := .inl rfl
        sends := by
          intro other sends
          exact absurd sends (sentRequest_sends rfl)
        settles := by
          intro other settles
          rcases settles with ⟨result, settled⟩
          cases settled
          refine .inr (.inr ⟨⟨_, running, rfl⟩, rfl, fun refuses => ?_⟩)
          rcases refuses with ⟨result, settled, refused⟩
          cases settled
          rw [returned_refused operation sent] at refused
          cases refused
        current := by
          intro exchange current
          cases current }
  | poisoned _ =>
    exact
      { calls := Nat.le_refl _
        queue := .inl rfl
        sends := by
          intro other sends
          exact absurd sends (sentRequest_sends rfl)
        settles := by
          intro other settles
          rcases settles with ⟨result, settled⟩
          cases settled
        current := by
          intro exchange current
          cases current
          exact .inl ⟨_, running, rfl⟩ }

/-- A step that leaves the queue and the running operation alone. -/
theorem quiet_moves (calls : connection.calls = after.calls) (queue : after.queue = connection.queue)
    (current : ∀ exchange, after.current = some exchange → ∃ before, connection.current = some before ∧
      before.ticket = exchange.ticket)
    (silent : sentRequest t = none) (unsettled : ∀ ticket, ¬ Settles ticket t) : Moves connection after t where
  calls := Nat.le_of_eq calls
  queue := .inl queue
  sends ticket sends := absurd sends (sentRequest_sends silent)
  settles ticket settles := absurd settles (unsettled ticket)
  current exchange running := .inl (current exchange running)

theorem unsettled {before after : Connection ω} (other : ∀ ticket result, output ≠ .settled ticket result) (ticket : Nat) :
    ¬ Settles ticket ⟨before, input, output, after⟩ := by
  intro settles
  rcases settles with ⟨result, settled⟩
  exact other ticket result settled

theorem effect_moves (effect : Effect connection input after output)
    (poisoned : ∀ ticket operation failure, connection.current = some ⟨ticket, operation, .poisoned failure⟩ →
      failure.isRefusal = false) : Moves connection after ⟨connection, input, output, after⟩ := by
  cases effect with
  | turnedAway =>
    exact
      { calls := Nat.le_succ _
        queue := .inl rfl
        sends := by
          intro ticket sends
          exact absurd sends (sentRequest_sends rfl)
        settles := by
          intro ticket settles
          rcases settles with ⟨result, settled⟩
          cases settled
          exact .inl ⟨rfl, Nat.lt_succ_self _, rfl⟩
        current := by
          intro exchange running
          exact .inl ⟨exchange, running, rfl⟩ }
  | queued bound =>
    exact
      { calls := Nat.le_succ _
        queue := .inr (.inl ⟨_, rfl, Nat.lt_succ_self _⟩)
        sends := by
          intro ticket sends
          exact absurd sends (sentRequest_sends rfl)
        settles := by
          intro ticket settles
          rcases settles with ⟨result, settled⟩
          cases settled
        current := by
          intro exchange running
          exact .inl ⟨exchange, running, rfl⟩ }
  | refused idle first _ =>
    exact
      { calls := Nat.le_refl _
        queue := .inr (.inr ⟨_, first⟩)
        sends := by
          intro ticket sends
          exact absurd sends (sentRequest_sends rfl)
        settles := by
          intro ticket settles
          rcases settles with ⟨result, settled⟩
          cases settled
          exact .inr (.inl ⟨_, first⟩)
        current := by
          intro exchange running
          cases running }
  | sent idle first _ =>
    exact
      { calls := Nat.le_refl _
        queue := .inr (.inr ⟨_, first⟩)
        sends := by
          intro ticket sends
          rcases sends with ⟨operation, sent⟩
          cases sent
          exact ⟨⟨_, first⟩, unsettled (by simp)⟩
        settles := by
          intro ticket settles
          exact absurd settles (unsettled (by simp) ticket)
        current := by
          intro exchange running
          cases running
          exact .inr ⟨_, first⟩ }
  | sendFailed idle first _ =>
    exact
      { calls := Nat.le_refl _
        queue := .inr (.inr ⟨_, first⟩)
        sends := by
          intro ticket sends
          exact absurd sends (sentRequest_sends rfl)
        settles := by
          intro ticket settles
          exact absurd settles (unsettled (by simp) ticket)
        current := by
          intro exchange running
          cases running
          exact .inr ⟨_, first⟩ }
  | arrived => exact quiet_moves rfl rfl (fun exchange running => ⟨exchange, running, rfl⟩) rfl (unsettled (by simp))
  | received running _ _ =>
    refine quiet_moves rfl rfl (fun exchange current => ?_) rfl (unsettled (by simp))
    cases current
    exact ⟨_, running, rfl⟩
  | failed running _ threw concludes => exact concludes_moves running (roundTrip_error threw).1 concludes
  | checked running _ concludes => exact concludes_moves running (verdict_refused _ _) concludes
  | @settled ticket operation failure running =>
    have sent : isRefused (Verdict.failed failure).result = false := poisoned _ _ _ running
    exact concludes_moves running sent (.finished rfl)
  | closed => exact quiet_moves rfl rfl (fun exchange running => ⟨exchange, running, rfl⟩) rfl (unsettled (by simp))

/-- The running operation and the request that it has sent; one that could not send is poisoned. -/
inductive Running (trace : List (Step ω)) (connection : Connection ω) : Exchange ω → Prop
  | requested {ticket : Nat} {operation : Operation} : lastRequest trace connection = some (ticket, operation) →
    (connection.closed = true → CallerCloses trace) → Running trace connection ⟨ticket, operation, .requested⟩
  | replied {ticket : Nat} {operation : Operation} {reply : Received ω} {message : AnyMessage} {closed : Bool} :
    lastRequest trace connection = some (ticket, operation) → connection.answer? = some reply →
    roundTrip closed reply = .ok message → (closed = true → CallerCloses trace) →
    Running trace connection ⟨ticket, operation, .replied message⟩
  | unsent {ticket : Nat} {operation : Operation} {failure : ConnectionFailure ω} : failure.isRefusal = false →
    connection.closed = true → (∀ t ∈ trace, ¬ Sends ticket t) →
    Running trace connection ⟨ticket, operation, .poisoned failure⟩
  | poisoned {ticket : Nat} {operation : Operation} {failure : ConnectionFailure ω} {reply : Received ω} {closed : Bool} :
    failure.isRefusal = false → connection.closed = true →
    lastRequest trace connection = some (ticket, operation) → connection.answer? = some reply →
    operation.outcome closed reply = operation.returned (.error failure) → (closed = true → CallerCloses trace) →
    Running trace connection ⟨ticket, operation, .poisoned failure⟩

/-- A running operation that the step leaves as it is. -/
theorem Running.kept {exchange : Exchange ω} (running : Running trace connection exchange)
    (silent : sentRequest t = none) (pulls : after.pulls = connection.pulls)
    (answer : ∀ reply, connection.answer? = some reply → after.answer? = some reply)
    (closed : after.closed = connection.closed ∨ after.closed = true ∧ t.input = .close) :
    Running (trace ++ [t]) after exchange := by
  have last : lastRequest (trace ++ [t]) after = lastRequest trace connection := lastRequest_kept silent pulls
  have stays (before : connection.closed = true) : after.closed = true := by
    rcases closed with same | ⟨now, -⟩
    · exact same.trans before
    · exact now
  cases running with
  | requested sent caller =>
    refine .requested (last.trans sent) fun now => ?_
    rcases closed with same | ⟨-, input⟩
    · exact (caller (same ▸ now)).later t
    · exact ⟨t, List.mem_append_right _ (List.mem_singleton_self t), input⟩
  | replied sent answered returned caller =>
    exact .replied (last.trans sent) (answer _ answered) returned fun before => (caller before).later t
  | unsent plain before none =>
    refine .unsent plain (stays before) fun u member => ?_
    rcases List.mem_append.mp member with member | member
    · exact none u member
    · cases List.mem_singleton.mp member
      exact sentRequest_sends silent
  | poisoned plain before sent answered outcome caller =>
    exact .poisoned plain (stays before) (last.trans sent) (answer _ answered) outcome fun before =>
      (caller before).later t

/-- A connection that is closed or spent, or whose last exchange is that of a `validate`. -/
def Ended (connection : Connection ω) : Prop :=
  connection.closed = true ∨ connection.flowConsumed = true ∨
    ∃ exchange, connection.current = some exchange ∧ exchange.operation.isAsync = false

/-- At most one of the requests has an answer that is not read. -/
def Unread (trace : List (Step ω)) (connection : Connection ω) : Prop :=
  connection.pulls ≤ trace.countP isRead ∨ connection.pulls ≤ trace.countP isRead + 1 ∧
    ∃ ticket operation, connection.current = some ⟨ticket, operation, .requested⟩

/-- What every reachable state satisfies. -/
structure Invariant (mode : Mode) (trace : List (Step ω)) (connection : Connection ω) : Prop where
  tickets : Tickets trace connection
  mode : connection.mode = mode
  pulls : connection.pulls = (trace.filterMap sentRequest).length
  replies : connection.replies = trace.filterMap arrivedReply
  unread : Unread trace connection
  bounded : ∀ entry ∈ connection.queue, (assertValidateBound entry.2 : Except (ConnectionFailure ω) Unit) = .ok ()
  running : ∀ exchange, connection.current = some exchange → Running trace connection exchange
  closed : connection.closed = true ↔ ∃ t ∈ trace, Closes t
  ended : (∃ t ∈ trace, Ends t) → Ended connection

theorem initial_invariant (mode : Mode) : Invariant mode ([] : List (Step ω)) { mode } where
  tickets :=
    { known := fun _ member => by cases member
      running := fun _ running => by cases running
      bounded := fun _ member => by cases member
      waiting := fun _ member => by cases member
      apart := fun _ member => by cases member
      distinct := List.nodup_nil
      refused := fun _ member => by cases member
      once := List.nodup_nil }
  mode := rfl
  pulls := rfl
  replies := rfl
  unread := .inl (Nat.le_refl 0)
  bounded _ member := by cases member
  running _ running := by cases running
  closed := by simp
  ended found := by
    rcases found with ⟨_, member, -⟩
    cases member

theorem concludes_kept {ticket : Nat} {operation : Operation} {verdict : Verdict ω}
    (concludes : Concludes connection ticket operation verdict after output) :
    after.mode = connection.mode ∧ after.pulls = connection.pulls ∧ after.replies = connection.replies ∧
      after.queue = connection.queue ∧ ∀ before input, sentRequest ⟨before, input, output, after⟩ = none := by
  cases concludes <;> exact ⟨rfl, rfl, rfl, rfl, fun _ _ => rfl⟩

/-- What a step sends. -/
theorem sent_after (effect : Effect connection input after output) :
    (sentRequest ⟨connection, input, output, after⟩ = none ∧ after.pulls = connection.pulls) ∨
      ∃ ticket operation, sentRequest ⟨connection, input, output, after⟩ = some (ticket, operation) ∧
        after.pulls = connection.pulls + 1 ∧ connection.current = none ∧ (ticket, operation) ∈ connection.queue ∧
        assertAllowed connection operation = .ok () ∧ after.current = some ⟨ticket, operation, .requested⟩ := by
  cases effect with
  | sent idle first allowed =>
    exact .inr ⟨_, _, rfl, rfl, idle, first ▸ List.mem_cons_self, allowed, rfl⟩
  | failed _ _ _ concludes =>
    rcases concludes_kept concludes with ⟨-, pulls, -, -, silent⟩
    exact .inl ⟨silent _ _, pulls⟩
  | checked _ _ concludes =>
    rcases concludes_kept concludes with ⟨-, pulls, -, -, silent⟩
    exact .inl ⟨silent _ _, pulls⟩
  | _ => exact .inl ⟨rfl, rfl⟩

theorem kept_after (effect : Effect connection input after output) :
    after.mode = connection.mode ∧
      after.replies = connection.replies ++ (arrivedReply ⟨connection, input, output, after⟩).toList := by
  cases effect with
  | arrived => exact ⟨rfl, rfl⟩
  | failed _ _ _ concludes =>
    rcases concludes_kept concludes with ⟨mode, -, replies, -⟩
    exact ⟨mode, by rw [replies]; exact (List.append_nil _).symm⟩
  | checked _ _ concludes =>
    rcases concludes_kept concludes with ⟨mode, -, replies, -⟩
    exact ⟨mode, by rw [replies]; exact (List.append_nil _).symm⟩
  | _ => exact ⟨rfl, (List.append_nil _).symm⟩

theorem bounded_after (effect : Effect connection input after output)
    (bounded : ∀ entry ∈ connection.queue, (assertValidateBound entry.2 : Except (ConnectionFailure ω) Unit) = .ok ()) :
    ∀ entry ∈ after.queue, (assertValidateBound entry.2 : Except (ConnectionFailure ω) Unit) = .ok () := by
  have popped {first : Nat × Operation} {rest : List (Nat × Operation)} (same : connection.queue = first :: rest)
      (entry : Nat × Operation) (member : entry ∈ rest) :
      (assertValidateBound entry.2 : Except (ConnectionFailure ω) Unit) = .ok () := by
    apply bounded
    rw [same]
    exact List.mem_cons_of_mem first member
  cases effect with
  | queued bound =>
    intro entry member
    rcases List.mem_append.mp member with member | member
    · exact bounded entry member
    · cases List.mem_singleton.mp member
      exact bound
  | refused _ first _ => exact popped first
  | sent _ first _ => exact popped first
  | sendFailed _ first _ => exact popped first
  | failed _ _ _ concludes =>
    rw [(concludes_kept concludes).2.2.2.1]
    exact bounded
  | checked _ _ concludes =>
    rw [(concludes_kept concludes).2.2.2.1]
    exact bounded
  | _ => exact bounded

/-- When the connection is closed, and when `close` of the transport is called. -/
theorem closed_after (effect : Effect connection input after output) :
    (after.closed = connection.closed ∧ ¬ Closes ⟨connection, input, output, after⟩ ∧
        ¬ Poisons ⟨connection, input, output, after⟩ ∧ input ≠ .close) ∨
      after.closed = true ∧ (connection.closed = false ↔ Closes ⟨connection, input, output, after⟩) := by
  have poisoned {ticket : Nat} (same : output = .poisoned ticket !connection.closed) :
      connection.closed = false ↔ Closes ⟨connection, input, output, after⟩ := by
    cases closed : connection.closed <;> simp [Closes, same, closed]
  have concluded {ticket : Nat} {operation : Operation} {verdict : Verdict ω} {flow : Bool} (input : Input ω)
      (other : input ≠ .close)
      (concludes : Concludes { connection with flowConsumed := flow } ticket operation verdict after output) :
      (after.closed = connection.closed ∧ ¬ Closes ⟨connection, input, output, after⟩ ∧
        ¬ Poisons ⟨connection, input, output, after⟩ ∧ input ≠ .close) ∨
      after.closed = true ∧ (connection.closed = false ↔ Closes ⟨connection, input, output, after⟩) := by
    cases concludes with
    | finished _ => exact .inl ⟨rfl, by simp [Closes], by simp [Poisons], other⟩
    | poisoned _ => exact .inr ⟨rfl, poisoned rfl⟩
  cases effect with
  | sendFailed _ _ _ => exact .inr ⟨rfl, poisoned rfl⟩
  | failed _ _ _ concludes => exact concluded .read (by simp) concludes
  | checked _ _ concludes => exact concluded .check (by simp) concludes
  | closed =>
    refine .inr ⟨rfl, ?_⟩
    cases closed : connection.closed <;> simp [Closes, closed]
  | _ => exact .inl ⟨rfl, by simp [Closes], by simp [Poisons], by simp⟩

theorem closed_stays (effect : Effect connection input after output) (closed : connection.closed = true) :
    after.closed = true := by
  rcases closed_after effect with ⟨same, -⟩ | ⟨now, -⟩
  · exact same.trans closed
  · exact now

theorem flow_stays (effect : Effect connection input after output) (flow : connection.flowConsumed = true) :
    after.flowConsumed = true := by
  cases effect with
  | sendFailed _ _ _ => rfl
  | failed _ _ _ concludes =>
    cases concludes with
    | finished _ => exact flow
    | poisoned _ => rfl
  | checked _ consumed concludes =>
    cases concludes with
    | finished _ =>
      rw [flow] at consumed
      exact consumed
    | poisoned _ => rfl
  | _ => exact flow

theorem ended_after (effect : Effect connection input after output)
    (running : ∀ exchange, connection.current = some exchange → Running trace connection exchange)
    (ended : Ended connection) : Ended after := by
  rcases ended with closed | flow | ⟨exchange, current, plain⟩
  · exact .inl (closed_stays effect closed)
  · exact .inr (.inl (flow_stays effect flow))
  cases effect with
  | refused idle _ _ =>
    rw [idle] at current
    cases current
  | sent idle _ _ =>
    rw [idle] at current
    cases current
  | sendFailed _ _ _ => exact .inl rfl
  | received same _ _ =>
    rw [same] at current
    cases current
    exact .inr (.inr ⟨_, rfl, plain⟩)
  | failed _ _ threw concludes =>
    cases concludes with
    | finished unpoisoned =>
      rcases (roundTrip_error threw).2 with ⟨-, poisons⟩ | ⟨-, -, poisons⟩
      · rw [unpoisoned] at poisons
        cases poisons
      · rw [unpoisoned] at poisons
        exact .inl (by simpa using poisons.symm)
    | poisoned _ => exact .inl rfl
  | checked same consumed concludes =>
    cases concludes with
    | finished _ =>
      rw [same] at current
      cases current
      refine .inr (.inl ?_)
      rw [consumed]
      simpa using .inr plain
    | poisoned _ => exact .inl rfl
  | settled same =>
    left
    cases running _ same with
    | unsent _ closed _ => exact closed
    | poisoned _ closed _ _ _ _ => exact closed
  | closed => exact .inl rfl
  | _ => exact .inr (.inr ⟨exchange, current, plain⟩)

/-- What ends a connection has ended it after the step. -/
theorem ends_ended (effect : Effect connection input after output) (ends : Ends ⟨connection, input, output, after⟩) :
    Ended after := by
  rcases ends with close | poisons | ⟨ticket, operation, sent, plain⟩
  · rcases closed_after effect with ⟨-, -, -, other⟩ | ⟨closed, -⟩
    · exact absurd close other
    · exact .inl closed
  · rcases closed_after effect with ⟨-, -, other, -⟩ | ⟨closed, -⟩
    · exact absurd poisons other
    · exact .inl closed
  · rcases sent_after effect with ⟨silent, -⟩ | ⟨other, request, same, -, -, -, -, current⟩
    · rw [silent] at sent
      cases sent
    · rw [same] at sent
      cases sent
      exact .inr (.inr ⟨_, current, plain⟩)

theorem answer_kept (effect : Effect connection input after output) (pulls : after.pulls = connection.pulls)
    (reply : Received ω) (answered : connection.answer? = some reply) : after.answer? = some reply := by
  have bound := (List.getElem?_eq_some_iff.mp answered).1
  rw [Connection.answer?, pulls, (kept_after effect).2, List.getElem?_append_left bound]
  exact answered

theorem lastRequest_sent {ticket : Nat} {operation : Operation} (pulls : connection.pulls = (trace.filterMap sentRequest).length)
    (sent : sentRequest t = some (ticket, operation)) (more : after.pulls = connection.pulls + 1) :
    lastRequest (trace ++ [t]) after = some (ticket, operation) := by
  rw [lastRequest, List.filterMap_append, List.filterMap_cons_some sent, more, Nat.add_sub_cancel, pulls]
  exact List.getElem?_concat_length

theorem outcome_failed {closed : Bool} {reply : Received ω} {verdict : Verdict ω} (operation : Operation)
    (threw : roundTrip closed reply = .error verdict) :
    operation.outcome closed reply = operation.returned verdict.result := by
  rw [Operation.outcome, threw]

theorem outcome_checked {closed : Bool} {reply : Received ω} {message : AnyMessage} (operation : Operation)
    (returned : roundTrip closed reply = .ok message) :
    (operation.outcome closed reply : Except (ConnectionFailure ω) Answer) =
      operation.returned (operation.verdict message).result := by
  rw [Operation.outcome, returned]

theorem poisoned_after {trace : List (Step ω)} {verdict : Verdict ω} {reply : Received ω} {closed flow : Bool}
    {ticket : Nat} {operation : Operation}
    (concludes : Concludes { connection with flowConsumed := flow } ticket operation verdict after output)
    (sent : lastRequest trace connection = some (ticket, operation)) (answered : connection.answer? = some reply)
    (plain : isRefused verdict.result = false)
    (outcome : operation.outcome closed reply = operation.returned verdict.result)
    (caller : closed = true → CallerCloses trace) (exchange : Exchange ω) (current : after.current = some exchange) :
    Running (trace ++ [⟨connection, input, output, after⟩]) after exchange := by
  cases concludes with
  | finished _ => cases current
  | @poisoned failure same =>
    cases current
    subst same
    refine .poisoned plain rfl ?_ answered outcome fun before => (caller before).later _
    exact (lastRequest_kept rfl rfl).trans sent

theorem running_after (invariant : Invariant mode trace connection) (effect : Effect connection input after output)
    (exchange : Exchange ω) (current : after.current = some exchange) :
    Running (trace ++ [⟨connection, input, output, after⟩]) after exchange := by
  have answer (pulls : after.pulls = connection.pulls) := answer_kept effect pulls
  cases effect with
  | turnedAway => exact (invariant.running exchange current).kept rfl rfl (answer rfl) (.inl rfl)
  | queued _ => exact (invariant.running exchange current).kept rfl rfl (answer rfl) (.inl rfl)
  | arrived => exact (invariant.running exchange current).kept rfl rfl (answer rfl) (.inl rfl)
  | closed => exact (invariant.running exchange current).kept rfl rfl (answer rfl) (.inr ⟨rfl, rfl⟩)
  | refused _ _ _ => cases current
  | settled _ => cases current
  | sent _ _ allowed =>
    cases current
    refine .requested (lastRequest_sent invariant.pulls rfl rfl) fun closed => ?_
    have opened := (assertAllowed_ok allowed).1
    rw [show connection.closed = true from closed] at opened
    cases opened
  | sendFailed _ first _ =>
    cases current
    refine .unsent rfl rfl fun u member => ?_
    rcases List.mem_append.mp member with member | member
    · exact (invariant.tickets.waiting _ (first ▸ List.mem_cons_self) u member).1
    · cases List.mem_singleton.mp member
      exact sentRequest_sends rfl
  | received running answered returned =>
    cases current
    cases invariant.running _ running with
    | requested sent caller =>
      exact .replied ((lastRequest_kept rfl rfl).trans sent) answered returned fun before => (caller before).later _
  | failed running answered threw concludes =>
    cases invariant.running _ running with
    | requested sent caller =>
      exact poisoned_after concludes sent answered (roundTrip_error threw).1 (outcome_failed _ threw) caller exchange current
  | checked running _ concludes =>
    cases invariant.running _ running with
    | replied sent answered returned caller =>
      exact poisoned_after concludes sent answered (verdict_refused _ _) (outcome_checked _ returned) caller exchange current

theorem unread_idle (unread : Unread trace connection)
    (idle : ∀ ticket operation, connection.current ≠ some ⟨ticket, operation, .requested⟩)
    (pulls : after.pulls = connection.pulls) : Unread (trace ++ [t]) after := by
  left
  rw [pulls, List.countP_append]
  rcases unread with done | ⟨-, ticket, operation, current⟩
  · exact Nat.le_add_right_of_le done
  · exact absurd current (idle ticket operation)

theorem unread_kept (unread : Unread trace connection) (current : after.current = connection.current)
    (pulls : after.pulls = connection.pulls) : Unread (trace ++ [t]) after := by
  rw [Unread, current, pulls, List.countP_append]
  rcases unread with done | ⟨bound, running⟩
  · exact .inl (Nat.le_add_right_of_le done)
  · exact .inr ⟨by omega, running⟩

theorem unread_read (unread : Unread trace connection) (read : isRead t = true) (pulls : after.pulls = connection.pulls) :
    Unread (trace ++ [t]) after := by
  left
  rw [pulls, List.countP_append, List.countP_singleton, read, if_pos rfl]
  rcases unread with done | ⟨bound, -⟩
  · exact Nat.le_succ_of_le done
  · exact bound

theorem unread_after (unread : Unread trace connection) (effect : Effect connection input after output) :
    Unread (trace ++ [⟨connection, input, output, after⟩]) after := by
  cases effect with
  | refused idle _ _ => exact unread_idle unread (by simp [idle]) rfl
  | sendFailed idle _ _ => exact unread_idle unread (by simp [idle]) rfl
  | checked running _ concludes =>
    exact unread_idle unread (by simp [running]) (concludes_kept concludes).2.1
  | settled running => exact unread_idle unread (by simp [running]) rfl
  | received _ _ _ => exact unread_read unread rfl rfl
  | failed _ _ _ concludes => exact unread_read unread rfl (concludes_kept concludes).2.1
  | sent idle _ _ =>
    refine .inr ⟨?_, _, _, rfl⟩
    rcases unread with done | ⟨-, ticket, operation, current⟩
    · rw [List.countP_append]
      exact Nat.succ_le_succ (Nat.le_add_right_of_le done)
    · rw [idle] at current
      cases current
  | _ => exact unread_kept unread rfl rfl

theorem effect_invariant (invariant : Invariant mode trace connection) (effect : Effect connection input after output) :
    Invariant mode (trace ++ [⟨connection, input, output, after⟩]) after where
  tickets := by
    refine invariant.tickets.moves (effect_moves effect fun ticket operation failure running => ?_)
    cases invariant.running _ running with
    | unsent plain _ _ => exact plain
    | poisoned plain _ _ _ _ _ => exact plain
  mode := (kept_after effect).1.trans invariant.mode
  pulls := by
    rw [List.filterMap_append, List.length_append, ← invariant.pulls]
    rcases sent_after effect with ⟨silent, same⟩ | ⟨ticket, operation, sent, more, -⟩
    · rw [same, List.filterMap_cons_none silent]
      rfl
    · rw [more, List.filterMap_cons_some sent]
      rfl
  replies := by
    rw [(kept_after effect).2, invariant.replies, List.filterMap_append]
    congr 1
  unread := unread_after invariant.unread effect
  bounded := bounded_after effect invariant.bounded
  running := running_after invariant effect
  closed := by
    rw [Machine.exists_last, ← invariant.closed]
    rcases closed_after effect with ⟨same, silent, -⟩ | ⟨closed, closes⟩
    · rw [same]
      simp [silent]
    · rw [← closes, closed]
      cases connection.closed <;> simp
  ended found := by
    rcases Machine.exists_last.mp found with found | ends
    · exact ended_after effect invariant.running (invariant.ended found)
    · exact ends_ended effect ends

theorem run_invariant {mode : Mode} (run : Run mode trace connection) : Invariant mode trace connection :=
  run.invariant (initial_invariant mode) fun _ _ _ _ _ invariant taken => effect_invariant invariant (step_effect taken)

/-! ### What runs satisfy -/

/-- The exchange of a step fails, or its reply is a `protocol_error` or of a kind that is not expected. -/
def Fails (t : Step ω) : Prop :=
  match t.input, t.before.current with
  | .run (some _), none => ∃ ticket operation rest, t.before.queue = (ticket, operation) :: rest ∧
      assertAllowed t.before operation = .ok ()
  | .read, some ⟨_, _, .requested⟩ => ∃ reply, t.before.answer? = some reply ∧ (reply = .done ∨ Unreadable reply)
  | .check, some ⟨_, operation, .replied reply⟩ => operation.expects reply = false
  | _, _ => False

/-- An exchange fails with an error when the connection has been closed. -/
def Surfaces (t : Step ω) : Prop :=
  t.before.closed = true ∧ t.input = .read ∧ ∃ reply, t.before.answer? = some reply ∧ Unreadable reply

/-- The operations of a connection, its requests and the lines of the mirror are in lock-step. -/
structure Serialized (mode : Mode) (trace : List (Step ω)) : Prop where
  outstanding : ∀ earlier later, trace = earlier ++ later →
    (earlier.filterMap sentRequest).length ≤ earlier.countP isRead + 1
  paired : ∀ earlier t later, trace = earlier ++ t :: later → ∀ (k ticket : Nat) (operation : Operation),
    (earlier.filterMap sentRequest)[k]? = some (ticket, operation) → ∀ result, t.output = .settled ticket result →
    ∃ reply closed, (earlier.filterMap arrivedReply)[k]? = some reply ∧ result = operation.outcome closed reply ∧
      (closed = true → CallerCloses earlier)
  silent : ∀ earlier t later, trace = earlier ++ t :: later → Ends t → ∀ u ∈ later, sentRequest u = none
  refused : ∀ t ∈ trace, ∀ ticket, Refuses ticket t → ∀ u ∈ trace, ¬ Sends ticket u
  allowed : ∀ t ∈ trace, ∀ ticket operation, sentRequest t = some (ticket, operation) →
    (assertValidateBound operation : Except (ConnectionFailure ω) Unit) = .ok () ∧
      (mode = .stdio → operation.isAsync = false) ∧ t.before.closed = false ∧ t.before.flowConsumed = false
  closedOnce : Machine.AtMostOnce Closes trace

theorem poisons_iff (effect : Effect connection input after output) : Poisons ⟨connection, input, output, after⟩ ↔
    Fails ⟨connection, input, output, after⟩ ∧ ¬ Surfaces ⟨connection, input, output, after⟩ := by
  have concluded {ticket : Nat} {operation : Operation} {verdict : Verdict ω} {flow : Bool} (input : Input ω)
      (concludes : Concludes { connection with flowConsumed := flow } ticket operation verdict after output) :
      Poisons ⟨connection, input, output, after⟩ ↔ verdict.isPoison = true := by
    cases concludes with
    | finished plain => simp [Poisons, plain]
    | poisoned same => simp [Poisons, same, Verdict.isPoison]
  cases effect with
  | turnedAway => simp [Poisons, Fails]
  | queued _ => simp [Poisons, Fails]
  | arrived => simp [Poisons, Fails]
  | closed => simp [Poisons, Fails]
  | settled _ => simp [Poisons, Fails]
  | sent _ _ _ => simp [Poisons, Fails]
  | @refused sendFailure ticket operation rest failure result idle first stopped =>
    cases sendFailure <;> simp [Poisons, Fails, idle, first, stopped]
  | sendFailed idle first allowed => simp [Poisons, Fails, Surfaces, idle, first, allowed]
  | received running answered returned =>
    have readable := roundTrip_ok returned
    simp [Poisons, Fails, running, answered, readable]
  | failed running answered threw concludes =>
    rw [concluded .read concludes]
    rcases (roundTrip_error threw).2 with ⟨done, poisons⟩ | ⟨other, unreadable, poisons⟩
    · simp [Fails, Surfaces, running, answered, done, poisons, Unreadable]
    · simp [Fails, Surfaces, running, answered, unreadable, poisons]
  | checked running _ concludes =>
    rw [concluded .check concludes, verdict_poison]
    simp [Fails, Surfaces, running]

/-- The running operation has sent the last request, and no other request has its ticket. -/
theorem lastRequest_at (tickets : Tickets trace connection) {k ticket : Nat} {operation other : Operation}
    (sent : (trace.filterMap sentRequest)[k]? = some (ticket, operation))
    (last : lastRequest trace connection = some (ticket, other)) : connection.pulls - 1 = k ∧ other = operation := by
  have bound := (List.getElem?_eq_some_iff.mp last).1
  have same : connection.pulls - 1 = k := by
    apply (List.getElem?_inj (by simpa using bound) tickets.once).mp
    rw [List.getElem?_map, List.getElem?_map, sent, show (trace.filterMap sentRequest)[connection.pulls - 1]? = _ from last]
    rfl
  rw [lastRequest, same, sent] at last
  cases last
  exact ⟨same, rfl⟩

theorem settled_outcome (invariant : Invariant mode trace connection) (effect : Effect connection input after output)
    {k ticket : Nat} {operation : Operation} (sent : (trace.filterMap sentRequest)[k]? = some (ticket, operation))
    {result : Except (ConnectionFailure ω) Answer} (settled : output = .settled ticket result) :
    ∃ reply closed, connection.replies[k]? = some reply ∧ result = operation.outcome closed reply ∧
      (closed = true → CallerCloses trace) := by
  have member : ∃ t ∈ trace, Sends ticket t := by
    apply mem_requests.mp
    exact List.mem_map.mpr ⟨_, List.mem_of_getElem? sent, rfl⟩
  rcases member with ⟨t, member, sends⟩
  have reach {other : Operation} {reply : Received ω} (last : lastRequest trace connection = some (ticket, other))
      (answered : connection.answer? = some reply) : connection.replies[k]? = some reply ∧ other = operation := by
    rcases lastRequest_at invariant.tickets sent last with ⟨same, rfl⟩
    rw [← same]
    exact ⟨answered, rfl⟩
  cases effect with
  | turnedAway =>
    cases settled
    exact absurd (invariant.tickets.known t member _ (.inl sends)) (Nat.lt_irrefl _)
  | refused _ first _ =>
    cases settled
    exact absurd sends (invariant.tickets.waiting _ (first ▸ List.mem_cons_self) t member).1
  | failed running answered threw concludes =>
    cases concludes with
    | poisoned _ => cases settled
    | finished _ =>
      cases settled
      cases invariant.running _ running with
      | requested last caller =>
        rcases reach last answered with ⟨arrived, rfl⟩
        exact ⟨_, _, arrived, (outcome_failed _ threw).symm, caller⟩
  | checked running _ concludes =>
    cases concludes with
    | poisoned _ => cases settled
    | finished _ =>
      cases settled
      cases invariant.running _ running with
      | replied last answered returned caller =>
        rcases reach last answered with ⟨arrived, rfl⟩
        exact ⟨_, _, arrived, (outcome_checked _ returned).symm, caller⟩
  | settled running =>
    cases settled
    cases invariant.running _ running with
    | unsent _ _ none => exact absurd sends (none t member)
    | poisoned _ _ last answered outcome caller =>
      rcases reach last answered with ⟨arrived, rfl⟩
      exact ⟨_, _, arrived, outcome.symm, caller⟩
  | _ => cases settled

theorem run_serialized {mode : Mode} (run : Run mode trace connection) : Serialized mode trace where
  outstanding earlier later same := by
    have waits {state : Connection ω} (run : Run mode earlier state) :
        (earlier.filterMap sentRequest).length ≤ earlier.countP isRead + 1 := by
      have invariant := run_invariant run
      rw [← invariant.pulls]
      rcases invariant.unread with done | ⟨bound, -⟩
      · exact Nat.le_succ_of_le done
      · exact bound
    cases later with
    | nil =>
      rw [List.append_nil] at same
      exact waits (same ▸ run)
    | cons t rest =>
      rw [same] at run
      exact waits run.split.1
  paired earlier t later same k ticket operation sent result settled := by
    rw [same] at run
    have invariant := run_invariant run.split.1
    rw [← invariant.replies]
    exact settled_outcome invariant (step_effect run.split.2) sent settled
  silent earlier t later same ends u member := by
    rcases List.append_of_mem member with ⟨front, back, rfl⟩
    rw [same, ← List.cons_append, ← List.append_assoc] at run
    have invariant := run_invariant run.split.1
    have ended := invariant.ended ⟨t, by simp, ends⟩
    rcases sent_after (step_effect run.split.2) with ⟨silent, -⟩ | ⟨ticket, operation, -, -, idle, -, allowed, -⟩
    · exact silent
    · rcases assertAllowed_ok allowed with ⟨opened, going, -⟩
      rcases ended with closed | flow | ⟨exchange, current, -⟩
      · rw [closed] at opened
        cases opened
      · rw [flow] at going
        cases going
      · rw [idle] at current
        cases current
  refused t member ticket refuses u inside := (run_invariant run).tickets.refused t member ticket refuses u inside
  allowed t member ticket operation sent := by
    rcases List.append_of_mem member with ⟨earlier, later, same⟩
    rw [same] at run
    have invariant := run_invariant run.split.1
    rcases sent_after (step_effect run.split.2) with ⟨silent, -⟩ | ⟨_, _, request, -, -, queued, allowed, -⟩
    · rw [show sentRequest t = none from silent] at sent
      cases sent
    · rw [show sentRequest t = _ from request] at sent
      cases sent
      rcases assertAllowed_ok allowed with ⟨opened, going, network⟩
      rw [invariant.mode] at network
      exact ⟨invariant.bounded _ queued, network, opened, going⟩
  closedOnce earlier t later same closes u member closed := by
    rw [same] at run
    have before := (run_invariant run.split.1).closed.mpr ⟨u, member, closed⟩
    rcases closed_after (step_effect run.split.2) with ⟨-, silent, -⟩ | ⟨-, once⟩
    · exact silent closes
    · rw [once.mpr closes] at before
      cases before

/-- Whatever the order of operations, lines and calls of `close`, the exchanges of a connection are serialized. It is
poisoned by a reply that is a `protocol_error` or of an unexpected kind, by the end of the stream and by an exchange that
fails, unless that has failed with an error because the connection has been closed; a `register_error` does not poison it. -/
theorem connection_runs {mode : Mode} (run : Run mode trace connection) :
    Serialized mode trace ∧ (∀ t ∈ trace, Poisons t ↔ Fails t ∧ ¬ Surfaces t) ∧
      ∀ t ∈ trace, ∀ ticket operation error, t.input = .check →
        t.before.current = some ⟨ticket, operation, .replied (.registerError error)⟩ → ¬ Poisons t := by
  have poisoned (t : Step ω) (member : t ∈ trace) : Poisons t ↔ Fails t ∧ ¬ Surfaces t :=
    poisons_iff (step_effect (run.taken member))
  refine ⟨run_serialized run, poisoned, ?_⟩
  intro t member ticket operation error checked current poisons
  have fails := ((poisoned t member).mp poisons).1
  rw [Fails, checked, current] at fails
  cases operation <;> cases fails

end

/-! ### An exchange that fails after `close` -/

/-- The error of the iterator is thrown as it is, and the connection is not poisoned. -/
theorem closed_exchange_surfaces : letI : NumberText := integerTexts; letI : NumberConversion := safeIntegers.toNumberConversion
    ∃ (trace : List (Step Unit)) (connection : Connection Unit), Run .network trace connection ∧
      (∃ t ∈ trace, Fails t) ∧ ∀ t ∈ trace, ¬ Poisons t := by
  let _ : NumberText := integerTexts
  let _ : NumberConversion := safeIntegers.toNumberConversion
  have first : step ({ mode := .network } : Connection Unit) (.call (.queryJob [])) = some (_, _) := rfl
  have second := (Machine.Run.start.next first).next (show step _ (.run none) = some (_, _) from rfl)
  have third := (second.next (show step _ .close = some (_, _) from rfl)).next
    (show step _ (.arrive (.failed (.thrown ()))) = some (_, _) from rfl)
  have run : Run .network _ _ := third.next (show step _ .read = some (_, _) from rfl)
  refine ⟨_, _, run, ⟨_, List.mem_append_right _ (List.mem_singleton_self _), ?_⟩, ?_⟩
  · exact ⟨_, rfl, .inr trivial⟩
  · simp [Poisons]

/-- A query whose stream ends, under the theorem: it poisons the connection. -/
theorem ended_query : letI : NumberText := integerTexts; letI : NumberConversion := safeIntegers.toNumberConversion
    ∃ (trace : List (Step Unit)) (connection : Connection Unit), trace.length = 5 ∧ Run .network trace connection ∧
      Serialized .network trace ∧ (∀ t ∈ trace, Poisons t ↔ Fails t ∧ ¬ Surfaces t) ∧
      ∀ t ∈ trace, ∀ ticket operation error, t.input = .check →
        t.before.current = some ⟨ticket, operation, .replied (.registerError error)⟩ → ¬ Poisons t := by
  let _ : NumberText := integerTexts
  let _ : NumberConversion := safeIntegers.toNumberConversion
  have first : step ({ mode := .network } : Connection Unit) (.call (.queryJob [])) = some (_, _) := rfl
  have second := (Machine.Run.start.next first).next (show step _ (.run none) = some (_, _) from rfl)
  have third := (second.next (show step _ (.arrive .done) = some (_, _) from rfl)).next
    (show step _ .read = some (_, _) from rfl)
  have run : Run .network _ _ := third.next (show step _ .settle = some (_, _) from rfl)
  exact ⟨_, _, by rfl, run, connection_runs run⟩

end Mirror.LockStep
