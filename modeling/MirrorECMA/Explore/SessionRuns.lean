import MirrorECMA.ECMA.Integers
import MirrorECMA.Explore.Session

namespace Mirror.Explore

open ECMA Mirror.Protocol
open Mirror.Replay (Failure Received errorOf protoStep receiveReplayMessage)

variable {ω : Type}

/-! ### What a step can do -/

/-- What a method makes of a message that is no protocol error. -/
def Command.judge (command : Command) (msg : AnyMessage) : Except (Failure ω) Reply :=
  match command.accept msg with
  | some reply => .ok reply
  | none => .error (.error (js "unexpected reply: " ++ protoStep msg))

/-- What a method makes of the answer to its pull. -/
def Command.outcome [NumberText] [NumberConversion] (command : Command) (reply : Received ω) : Except (Failure ω) Reply :=
  match receiveReplayMessage reply with
  | .error failure => .error failure
  | .ok (.protocolError error) => .error (errorOf error)
  | .ok msg => command.judge msg

/-- The method that settles, and how. -/
def Output.outcome : Output ω → Option (Nat × Except (Failure ω) Reply)
  | .rejected id failure _ => some (id, .error failure)
  | .completed id reply _ => some (id, .ok reply)
  | _ => none

/-- A method settles and is no longer pending. -/
inductive Settles (session : Session ω) (exchange : Exchange) : Session ω → Output ω → Prop
  | rejected {failure : Failure ω} : Settles session exchange
      { session with closed := true, pending := session.without exchange.id }
      (.rejected exchange.id failure !session.closed)
  | done {reply : Reply} : exchange.command = .done → Settles session exchange
      { session with closed := true, pending := session.without exchange.id } (.completed exchange.id reply true)
  | completed {reply : Reply} : exchange.command ≠ .done → Settles session exchange
      { session with pending := session.without exchange.id } (.completed exchange.id reply false)

theorem check_settles (session : Session ω) (exchange : Exchange) (msg : AnyMessage) :
    Settles session exchange (check session exchange msg).1 (check session exchange msg).2 ∧
      (check session exchange msg).2.outcome = some (exchange.id, exchange.command.judge msg) := by
  unfold check Command.judge
  cases accepted : exchange.command.accept msg with
  | none => exact ⟨.rejected, rfl⟩
  | some reply =>
    cases command : exchange.command with
    | done => exact ⟨.done command, rfl⟩
    | _ => exact ⟨.completed (by rw [command]; simp), rfl⟩

theorem find_exchange {session : Session ω} {id : Nat} {exchange : Exchange} (found : session.find id = some exchange) :
    exchange ∈ session.pending ∧ exchange.id = id :=
  ⟨List.mem_of_find?_eq_some found, by simpa using List.find?_some found⟩

theorem mem_without {session : Session ω} {id : Nat} {exchange : Exchange} (member : exchange ∈ session.without id) :
    exchange ∈ session.pending := List.mem_of_mem_filter member

def sentCommand (t : Step ω) : Option Command :=
  match t.output with
  | .sent command _ => some command
  | _ => none

theorem settles_unsent (input : Input ω) {session after : Session ω} {exchange : Exchange} {output : Output ω}
    (settles : Settles session exchange after output) : sentCommand ⟨session, input, output, after⟩ = none := by
  cases settles <;> rfl

theorem settles_kept {session after : Session ω} {exchange : Exchange} {output : Output ω}
    (settles : Settles session exchange after output) :
    after.pending = session.without exchange.id ∧ after.pulls = session.pulls ∧ after.replies = session.replies := by
  cases settles <;> exact ⟨rfl, rfl, rfl⟩

section

variable [NumberText] [NumberConversion]

/-- All that a step may do to a session. -/
inductive Effect (session : Session ω) : Input ω → Session ω → Output ω → Prop
  | refused {command : Command} {sendFailure : Option ω} {output : Output ω} :
    output = .past ∨ (∃ failure, output = .refused failure) → session.closed = true ∨ sendFailure.isSome →
    Effect session (.call command sendFailure) session output
  | sent {command : Command} {line : JsString} : session.closed = false → Effect session (.call command none)
      { session with pulls := session.pulls + 1, pending := session.pending ++ [⟨session.pulls, command, none⟩] }
      (.sent command line)
  | arrived {reply : Received ω} :
    Effect session (.arrive reply) { session with replies := session.replies ++ [reply] } .silent
  | received {id : Nat} {exchange : Exchange} {reply : Received ω} {msg : AnyMessage} :
    session.find id = some exchange → session.replies[id]? = some reply →
    exchange.command.outcome reply = exchange.command.judge msg →
    Effect session (.read id) { session with pending := session.pending.map fun other =>
      if other.id = exchange.id then { other with received := some msg } else other } .silent
  | read {id : Nat} {exchange : Exchange} {reply : Received ω} {after : Session ω} {output : Output ω} :
    session.find id = some exchange → session.replies[id]? = some reply →
    output.outcome = some (exchange.id, exchange.command.outcome reply) →
    (exchange.command = .done → ∃ failure, output = .rejected exchange.id failure !session.closed) →
    Settles session exchange after output → Effect session (.read id) after output
  | checked {id : Nat} {exchange : Exchange} {msg : AnyMessage} {after : Session ω} {output : Output ω} :
    session.find id = some exchange → exchange.received = some msg →
    output.outcome = some (exchange.id, exchange.command.judge msg) →
    Settles session exchange after output → Effect session (.check id) after output

theorem call_effect (session : Session ω) (command : Command) (sendFailure : Option ω) :
    Effect session (.call command sendFailure) (call session command sendFailure).1
      (call session command sendFailure).2 := by
  unfold call
  by_cases closed : session.closed = true
  · rw [if_pos closed]
    cases command with
    | done => exact .refused (.inl rfl) (.inl closed)
    | _ => exact .refused (.inr ⟨_, rfl⟩) (.inl closed)
  · rw [if_neg closed]
    cases sendFailure with
    | some error => exact .refused (.inr ⟨_, rfl⟩) (.inr rfl)
    | none => exact .sent (Bool.not_eq_true _ ▸ closed)

theorem read_effect {session : Session ω} {id : Nat} {exchange : Exchange} {reply : Received ω}
    (found : session.find id = some exchange) (arrived : session.replies[id]? = some reply) :
    Effect session (.read id) (read session exchange reply).1 (read session exchange reply).2 := by
  have outcome : exchange.command.outcome reply = match receiveReplayMessage reply with
      | .error failure => .error failure
      | .ok (.protocolError error) => .error (errorOf error)
      | .ok msg => exchange.command.judge msg := rfl
  unfold read
  split
  · rename_i failure decoded
    rw [decoded] at outcome
    exact .read found arrived (by rw [outcome]; rfl) (fun _ => ⟨_, rfl⟩) .rejected
  · rename_i error decoded
    rw [decoded] at outcome
    exact .read found arrived (by rw [outcome]; rfl) (fun _ => ⟨_, rfl⟩) .rejected
  · rename_i msg other decoded
    have judged : exchange.command.outcome reply = exchange.command.judge msg := by
      rw [outcome, decoded]
      cases msg with
      | protocolError error => exact (other error rfl).elim
      | _ => rfl
    split
    · rename_i eqs command
      have settles := check_settles session exchange msg
      exact .read found arrived (by rw [judged]; exact settles.2) (fun done => by rw [command] at done; cases done)
        settles.1
    · exact .received found arrived judged

theorem step_effect {session after : Session ω} {input : Input ω} {output : Output ω}
    (taken : step session input = some (after, output)) : Effect session input after output := by
  cases input with
  | call command sendFailure =>
    have same : call session command sendFailure = (after, output) := Option.some.inj taken
    have effect := call_effect session command sendFailure
    rw [same] at effect
    exact effect
  | arrive reply =>
    cases taken
    exact .arrived
  | read id =>
    simp only [step, Option.bind_eq_bind, Option.bind_eq_some_iff] at taken
    rcases taken with ⟨exchange, found, taken⟩
    split at taken
    · cases taken
    · simp only [Option.bind_eq_some_iff] at taken
      rcases taken with ⟨reply, arrived, taken⟩
      have same : read session exchange reply = (after, output) := Option.some.inj taken
      have effect := read_effect found arrived
      rw [same] at effect
      exact effect
  | check id =>
    simp only [step, Option.bind_eq_bind, Option.bind_eq_some_iff] at taken
    rcases taken with ⟨exchange, found, msg, received, taken⟩
    have same : check session exchange msg = (after, output) := Option.some.inj taken
    have settles := check_settles session exchange msg
    rw [same] at settles
    exact .checked found received settles.2 settles.1

/-! ### Runs -/

def arrivedReply (t : Step ω) : Option (Received ω) :=
  match t.input with
  | .arrive reply => some reply
  | _ => none

def SendsDone (t : Step ω) : Prop := sentCommand t = some .done

/-- `close` of the transport is called. -/
def Closes (t : Step ω) : Prop :=
  (∃ id failure, t.output = .rejected id failure true) ∨ ∃ id reply, t.output = .completed id reply true

/-- A reply that is malformed, a protocol error or of the wrong kind, or no reply. -/
def Rejects (t : Step ω) : Prop := ∃ id failure closes, t.output = .rejected id failure closes

/-- What every reachable state satisfies. -/
structure Invariant (trace : List (Step ω)) (session : Session ω) : Prop where
  pulls : session.pulls = (trace.filterMap sentCommand).length
  replies : session.replies = trace.filterMap arrivedReply
  pending : ∀ exchange ∈ session.pending, (trace.filterMap sentCommand)[exchange.id]? = some exchange.command
  received : ∀ exchange ∈ session.pending, ∀ msg, exchange.received = some msg →
    ∃ reply, session.replies[exchange.id]? = some reply ∧ exchange.command.outcome reply = exchange.command.judge msg
  rejected : (∃ t ∈ trace, Rejects t) → session.closed = true
  closed : session.closed = true ↔ ∃ t ∈ trace, Closes t
  done : (∃ t ∈ trace, SendsDone t) → session.closed = true ∨ ∃ exchange ∈ session.pending, exchange.command = .done

theorem initial_invariant : Invariant ([] : List (Step ω)) {} where
  pulls := rfl
  replies := rfl
  pending _ member := by cases member
  received _ member := by cases member
  rejected found := by
    rcases found with ⟨_, member, -⟩
    cases member
  closed := by simp
  done found := by
    rcases found with ⟨_, member, -⟩
    cases member

section

variable {trace : List (Step ω)} {session after : Session ω} {input : Input ω} {output : Output ω}

/-- What a step sends, and the pull that goes with it. -/
theorem sent_after (effect : Effect session input after output) :
    (sentCommand ⟨session, input, output, after⟩ = none ∧ after.pulls = session.pulls) ∨
      ∃ command, sentCommand ⟨session, input, output, after⟩ = some command ∧ after.pulls = session.pulls + 1 ∧
        session.closed = false ∧ after.closed = false ∧
        after.pending = session.pending ++ [⟨session.pulls, command, none⟩] := by
  cases effect with
  | refused quiet _ => rcases quiet with rfl | ⟨failure, rfl⟩ <;> exact .inl ⟨rfl, rfl⟩
  | sent opened => exact .inr ⟨_, rfl, rfl, opened, opened, rfl⟩
  | arrived => exact .inl ⟨rfl, rfl⟩
  | received _ _ _ => exact .inl ⟨rfl, rfl⟩
  | read _ _ _ _ settles => exact .inl ⟨settles_unsent _ settles, (settles_kept settles).2.1⟩
  | checked _ _ _ settles => exact .inl ⟨settles_unsent _ settles, (settles_kept settles).2.1⟩

theorem replies_after (effect : Effect session input after output) :
    after.replies = session.replies ++ (arrivedReply ⟨session, input, output, after⟩).toList := by
  cases effect with
  | arrived => rfl
  | refused _ _ => exact (List.append_nil _).symm
  | sent _ => exact (List.append_nil _).symm
  | received _ _ _ => exact (List.append_nil _).symm
  | read _ _ _ _ settles => exact (settles_kept settles).2.2.trans (List.append_nil _).symm
  | checked _ _ _ settles => exact (settles_kept settles).2.2.trans (List.append_nil _).symm

/-- Where a pending method comes from. -/
theorem pending_after (invariant : Invariant trace session) (effect : Effect session input after output)
    {exchange : Exchange} (member : exchange ∈ after.pending) :
    (∃ before ∈ session.pending, before.id = exchange.id ∧ before.command = exchange.command ∧
      ∀ msg, exchange.received = some msg → before.received = some msg ∨
        ∃ reply, session.replies[exchange.id]? = some reply ∧
          exchange.command.outcome reply = exchange.command.judge msg) ∨
      sentCommand ⟨session, input, output, after⟩ = some exchange.command ∧ exchange.id = session.pulls ∧
        exchange.received = none := by
  have same (member : exchange ∈ session.pending) : ∃ before ∈ session.pending, before.id = exchange.id ∧
      before.command = exchange.command ∧ ∀ msg, exchange.received = some msg → before.received = some msg ∨
        ∃ reply, session.replies[exchange.id]? = some reply ∧
          exchange.command.outcome reply = exchange.command.judge msg :=
    ⟨exchange, member, rfl, rfl, fun _ => .inl⟩
  cases effect with
  | refused _ _ => exact .inl (same member)
  | arrived => exact .inl (same member)
  | sent _ =>
    rcases List.mem_append.mp member with member | member
    · exact .inl (same member)
    · cases List.mem_singleton.mp member
      exact .inr ⟨rfl, rfl, rfl⟩
  | read _ _ _ _ settles =>
    rw [(settles_kept settles).1] at member
    exact .inl (same (mem_without member))
  | checked _ _ _ settles =>
    rw [(settles_kept settles).1] at member
    exact .inl (same (mem_without member))
  | @received id current reply msg found arrived judged =>
    rcases List.mem_map.mp member with ⟨before, inside, rfl⟩
    rcases find_exchange found with ⟨member, rfl⟩
    by_cases hit : before.id = current.id
    · have command : before.command = current.command := by
        have first := invariant.pending before inside
        rw [hit, invariant.pending current member] at first
        exact (Option.some.inj first).symm
      simp only [hit, if_true]
      refine .inl ⟨before, inside, hit, rfl, fun other received => .inr ⟨reply, arrived, ?_⟩⟩
      cases received
      rw [command]
      exact judged
    · simp only [hit, if_false]
      exact .inl ⟨before, inside, rfl, rfl, fun _ => .inl⟩

/-- When the session is closed, and when `close` is called. -/
theorem closed_after (effect : Effect session input after output) :
    (after.closed = session.closed ∧ ¬ Closes ⟨session, input, output, after⟩) ∨
      (after.closed = true ∧ ¬ Closes ⟨session, input, output, after⟩ ∧ session.closed = true) ∨
      (after.closed = true ∧ Closes ⟨session, input, output, after⟩) := by
  have settled {exchange : Exchange} (settles : Settles session exchange after output) :
      (after.closed = session.closed ∧ ¬ Closes ⟨session, input, output, after⟩) ∨
        (after.closed = true ∧ ¬ Closes ⟨session, input, output, after⟩ ∧ session.closed = true) ∨
        (after.closed = true ∧ Closes ⟨session, input, output, after⟩) := by
    cases settles with
    | rejected =>
      cases closed : session.closed with
      | true => exact .inr (.inl ⟨rfl, by simp [Closes], rfl⟩)
      | false => exact .inr (.inr ⟨rfl, .inl ⟨_, _, rfl⟩⟩)
    | done _ => exact .inr (.inr ⟨rfl, .inr ⟨_, _, rfl⟩⟩)
    | completed _ => exact .inl ⟨rfl, by simp [Closes]⟩
  cases effect with
  | refused quiet _ =>
    refine .inl ⟨rfl, ?_⟩
    rcases quiet with rfl | ⟨failure, rfl⟩ <;> simp [Closes]
  | sent _ => exact .inl ⟨rfl, by simp [Closes]⟩
  | arrived => exact .inl ⟨rfl, by simp [Closes]⟩
  | received _ _ _ => exact .inl ⟨rfl, by simp [Closes]⟩
  | read _ _ _ _ settles => exact settled settles
  | checked _ _ _ settles => exact settled settles

theorem rejects_closed (effect : Effect session input after output) (rejects : Rejects ⟨session, input, output, after⟩) :
    after.closed = true := by
  rcases rejects with ⟨id, failure, closes, rejects⟩
  have settled {exchange : Exchange} (settles : Settles session exchange after output) : after.closed = true := by
    cases settles with
    | rejected => rfl
    | done _ => rfl
    | completed _ => cases rejects
  cases effect with
  | refused quiet _ =>
    rcases quiet with rfl | ⟨failure, rfl⟩ <;> cases rejects
  | sent _ => cases rejects
  | arrived => cases rejects
  | received _ _ _ => cases rejects
  | read _ _ _ _ settles => exact settled settles
  | checked _ _ _ settles => exact settled settles

theorem closed_stays (effect : Effect session input after output) (closed : session.closed = true) :
    after.closed = true := by
  rcases closed_after effect with ⟨same, -⟩ | ⟨closed, -⟩ | ⟨closed, -⟩
  · exact same.trans closed
  · exact closed
  · exact closed

theorem done_after (invariant : Invariant trace session) (effect : Effect session input after output)
    (done : session.closed = true ∨ ∃ exchange ∈ session.pending, exchange.command = .done) :
    after.closed = true ∨ ∃ exchange ∈ after.pending, exchange.command = .done := by
  rcases done with closed | ⟨exchange, member, done⟩
  · exact .inl (closed_stays effect closed)
  have settled {id : Nat} {other : Exchange} (found : session.find id = some other)
      (settles : Settles session other after output) :
      after.closed = true ∨ ∃ exchange ∈ after.pending, exchange.command = .done := by
    by_cases hit : exchange.id = other.id
    · have command : other.command = .done := by
        have first := invariant.pending exchange member
        rw [hit, invariant.pending other (find_exchange found).1, done] at first
        exact Option.some.inj first
      cases settles with
      | rejected => exact .inl rfl
      | done _ => exact .inl rfl
      | completed other => exact absurd command other
    · refine .inr ⟨exchange, ?_, done⟩
      rw [(settles_kept settles).1]
      exact List.mem_filter.mpr ⟨member, by simpa using hit⟩
  cases effect with
  | refused _ _ => exact .inr ⟨exchange, member, done⟩
  | sent _ => exact .inr ⟨exchange, List.mem_append_left _ member, done⟩
  | arrived => exact .inr ⟨exchange, member, done⟩
  | received _ _ _ =>
    refine .inr ⟨_, List.mem_map_of_mem member, ?_⟩
    split <;> exact done
  | read found _ _ _ settles => exact settled found settles
  | checked found _ _ settles => exact settled found settles

theorem effect_invariant (invariant : Invariant trace session) (effect : Effect session input after output) :
    Invariant (trace ++ [⟨session, input, output, after⟩]) after where
  pulls := by
    rw [List.filterMap_append, List.length_append, ← invariant.pulls]
    rcases sent_after effect with ⟨silent, same⟩ | ⟨command, sent, more, -⟩
    · rw [same, List.filterMap_cons_none silent]
      rfl
    · rw [more, List.filterMap_cons_some sent]
      rfl
  replies := by
    rw [replies_after effect, invariant.replies, List.filterMap_append]
    congr 1
  pending exchange member := by
    rw [List.filterMap_append]
    rcases pending_after invariant effect member with ⟨before, inside, id, command, -⟩ | ⟨sent, id, -⟩
    · have known := invariant.pending before inside
      rw [id, command] at known
      exact List.getElem?_append_left (List.getElem?_eq_some_iff.mp known).1 ▸ known
    · rw [id, invariant.pulls, List.getElem?_append_right (le_refl _), Nat.sub_self, List.filterMap_cons_some sent]
      rfl
  received exchange member msg received := by
    have kept {reply : Received ω} (found : session.replies[exchange.id]? = some reply) :
        after.replies[exchange.id]? = some reply := by
      rw [replies_after effect, List.getElem?_append_left (List.getElem?_eq_some_iff.mp found).1]
      exact found
    rcases pending_after invariant effect member with ⟨before, inside, id, command, came⟩ | ⟨-, -, none⟩
    · rcases came msg received with earlier | ⟨reply, found, judged⟩
      · rcases invariant.received before inside msg earlier with ⟨reply, found, judged⟩
        rw [id] at found
        rw [command] at judged
        exact ⟨reply, kept found, judged⟩
      · exact ⟨reply, kept found, judged⟩
    · rw [none] at received
      cases received
  rejected found := by
    rcases Machine.exists_last.mp found with found | rejects
    · exact closed_stays effect (invariant.rejected found)
    · exact rejects_closed effect rejects
  closed := by
    rw [Machine.exists_last, ← invariant.closed]
    rcases closed_after effect with ⟨same, silent⟩ | ⟨closed, silent, before⟩ | ⟨closed, closes⟩
    · rw [same]
      simp [silent]
    · simp [closed, before]
    · simp [closed, closes]
  done found := by
    rcases Machine.exists_last.mp found with found | sends
    · exact done_after invariant effect (invariant.done found)
    · rcases sent_after effect with ⟨silent, -⟩ | ⟨command, sent, -, -, -, pending⟩
      · rw [SendsDone, silent] at sends
        cases sends
      · rw [SendsDone, sent] at sends
        refine .inr ⟨⟨session.pulls, command, none⟩, ?_, Option.some.inj sends⟩
        rw [pending]
        exact List.mem_append_right _ (List.mem_singleton_self _)

end

theorem run_invariant {trace : List (Step ω)} {session : Session ω} (run : Run trace session) : Invariant trace session :=
  run.invariant initial_invariant fun _ _ _ _ _ invariant taken => effect_invariant invariant (step_effect taken)

/-! ### What runs satisfy -/

/-- No method `done` is called while another one is in progress, unless the session is closed, and none receives the end of
a session that has been closed. -/
structure Regular (t : Step ω) : Prop where
  alone : t.input = .call .done none → t.before.closed = false → ∀ exchange ∈ t.before.pending, exchange.command ≠ .done
  opened : ∀ id exchange msg, t.input = .check id → t.before.find id = some exchange → exchange.command = .done →
    exchange.received = some msg → (Command.done.accept msg).isSome → t.before.closed = false

/-- A method settles as the answer to its own pull has it. -/
def Paired (trace : List (Step ω)) : Prop :=
  ∀ earlier t later, trace = earlier ++ t :: later → ∀ id outcome, t.output.outcome = some (id, outcome) →
    ∃ command reply, (earlier.filterMap sentCommand)[id]? = some command ∧
      (earlier.filterMap arrivedReply)[id]? = some reply ∧ outcome = command.outcome reply

def SilentAfterRejection (trace : List (Step ω)) : Prop :=
  ∀ earlier t later, trace = earlier ++ t :: later → Rejects t → ∀ u ∈ later, sentCommand u = none

theorem run_paired {trace : List (Step ω)} {session : Session ω} (run : Run trace session) : Paired trace := by
  intro earlier t later same id outcome settled
  rw [same] at run
  have invariant := run_invariant run.split.1
  rcases t with ⟨before, input, output, after⟩
  have effect : Effect before input after output := step_effect run.split.2
  have settled : output.outcome = some (id, outcome) := settled
  cases effect with
  | refused quiet _ =>
    rcases quiet with rfl | ⟨failure, rfl⟩ <;> cases settled
  | sent _ => cases settled
  | arrived => cases settled
  | received _ _ _ => cases settled
  | @read _ exchange reply _ _ found arrived judged _ _ =>
    rcases find_exchange found with ⟨member, rfl⟩
    rw [judged] at settled
    cases settled
    rw [invariant.replies] at arrived
    exact ⟨exchange.command, reply, invariant.pending exchange member, arrived, rfl⟩
  | @checked _ exchange msg _ _ found received judged _ =>
    rcases find_exchange found with ⟨member, rfl⟩
    rw [judged] at settled
    cases settled
    rcases invariant.received exchange member msg received with ⟨reply, arrived, same⟩
    rw [invariant.replies] at arrived
    exact ⟨exchange.command, reply, invariant.pending exchange member, arrived, same.symm⟩

theorem run_silent {trace : List (Step ω)} {session : Session ω} (run : Run trace session) : SilentAfterRejection trace := by
  intro earlier t later same rejects u member
  rcases List.append_of_mem member with ⟨front, back, rfl⟩
  rw [same, ← List.cons_append, ← List.append_assoc] at run
  have closed := (run_invariant run.split.1).rejected ⟨t, by simp, rejects⟩
  rcases sent_after (step_effect run.split.2) with ⟨silent, -⟩ | ⟨command, -, -, opened, -⟩
  · exact silent
  · rw [closed] at opened
    cases opened

section

variable {earlier : List (Step ω)} {before after : Session ω} {input : Input ω} {output : Output ω}

theorem regular_once (invariant : Invariant earlier before) (effect : Effect before input after output)
    (regular : Regular ⟨before, input, output, after⟩) :
    (SendsDone ⟨before, input, output, after⟩ → ∀ u ∈ earlier, ¬ SendsDone u) ∧
      (Closes ⟨before, input, output, after⟩ → ∀ u ∈ earlier, ¬ Closes u) := by
  have opened (opened : before.closed = false) : ∀ u ∈ earlier, ¬ Closes u := by
    intro u member closes
    rw [invariant.closed.mpr ⟨u, member, closes⟩] at opened
    cases opened
  constructor
  · intro sends u member sent
    cases effect with
    | @sent command line closed =>
      cases sends
      rcases invariant.done ⟨u, member, sent⟩ with past | ⟨exchange, pending, done⟩
      · rw [past] at closed
        cases closed
      · exact regular.alone rfl closed exchange pending done
    | refused quiet _ => rcases quiet with rfl | ⟨failure, rfl⟩ <;> cases sends
    | arrived => cases sends
    | received _ _ _ => cases sends
    | read _ _ _ _ settles =>
      rw [SendsDone, settles_unsent _ settles] at sends
      cases sends
    | checked _ _ _ settles =>
      rw [SendsDone, settles_unsent _ settles] at sends
      cases sends
  · intro closes
    have rejected {id : Nat} {failure : Failure ω} (same : output = .rejected id failure !before.closed) :
        before.closed = false := by
      rw [same] at closes
      cases closed : before.closed with
      | false => rfl
      | true => simp [Closes, closed] at closes
    cases effect with
    | refused quiet _ => rcases quiet with rfl | ⟨failure, rfl⟩ <;> simp [Closes] at closes
    | sent _ => simp [Closes] at closes
    | arrived => simp [Closes] at closes
    | received _ _ _ => simp [Closes] at closes
    | read _ _ _ aborts settles =>
      cases settles with
      | rejected => exact opened (rejected rfl)
      | done command =>
        rcases aborts command with ⟨failure, same⟩
        cases same
      | completed _ => simp [Closes] at closes
    | @checked id exchange msg _ _ found received judged settles =>
      cases settles with
      | rejected => exact opened (rejected rfl)
      | @done reply command =>
        apply opened
        apply regular.opened id exchange msg rfl found command received
        rw [Command.judge, command] at judged
        cases kind : Command.done.accept msg with
        | none => simp [kind, Output.outcome] at judged
        | some reply => rfl
      | completed _ => simp [Closes] at closes

theorem once_regular (invariant : Invariant earlier before) (effect : Effect before input after output)
    (doneOnce : SendsDone ⟨before, input, output, after⟩ → ∀ u ∈ earlier, ¬ SendsDone u)
    (closedOnce : Closes ⟨before, input, output, after⟩ → ∀ u ∈ earlier, ¬ Closes u) :
    Regular ⟨before, input, output, after⟩ where
  alone called closed exchange pending done := by
    have called : input = .call .done none := called
    have sent : SendsDone ⟨before, input, output, after⟩ := by
      cases effect with
      | refused _ blocked =>
        cases called
        rcases blocked with past | failure
        · have closed : before.closed = false := closed
          rw [closed] at past
          cases past
        · cases failure
      | sent _ =>
        cases called
        rfl
      | _ => cases called
    have known := invariant.pending exchange pending
    rw [done] at known
    rcases List.mem_filterMap.mp (List.mem_of_getElem? known) with ⟨u, member, sends⟩
    exact doneOnce sent u member sends
  opened id exchange msg checked found command received accepted := by
    have checked : input = .check id := checked
    have found : before.find id = some exchange := found
    cases closed : before.closed with
    | false => rfl
    | true =>
      rcases invariant.closed.mp closed with ⟨u, member, closes⟩
      refine absurd closes (closedOnce ?_ u member)
      cases effect with
      | @checked other current message _ _ same got judged settles =>
        cases checked
        rw [found] at same
        cases same
        rw [received] at got
        cases got
        rcases Option.isSome_iff_exists.mp accepted with ⟨reply, kind⟩
        rw [Command.judge, command, kind] at judged
        cases settles with
        | rejected => simp [Output.outcome] at judged
        | done _ => exact .inr ⟨_, _, rfl⟩
        | completed other => exact absurd command other
      | _ => cases checked

end

end

/-! ### Two overlapping calls of `done` -/

end Mirror.Explore
