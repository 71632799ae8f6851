import Mathlib.Algebra.Field.Rat
import MirrorECMA.ECMA.Coerced
import MirrorECMA.Machine.History
import MirrorECMA.Replay.Heeded

namespace Mirror.Replay.Controlled

open ECMA Mirror.Protocol
open Machine (Transition)
open ReplayControl (externalAbort)

variable {ω : Type}

abbrev Trace (ω : Type) := List (Transition (Replaying ω) (Input ω) (List (Event ω)))

/-- What is seen of a run, and of the control before it. -/
def happened (control : ReplayControl ω) (trace : Trace ω) : List (Event ω) :=
  (control.reason.map Event.aborted).toList ++ trace.flatMap (·.output)

theorem happened_snoc (control : ReplayControl ω) (trace : Trace ω) (t : Transition (Replaying ω) (Input ω) (List (Event ω))) :
    happened control (trace ++ [t]) = happened control trace ++ t.output := by
  simp [happened]

/-- Nothing is reported after an abort, and nothing that took too long; a replay that has not failed before the abort ends
with the reason of the signal. -/
structure Heeds [NumberText] [NumberConversion] (control : ReplayControl ω) (events : List (Event ω)) (final : Replaying ω) :
    Prop where
  silent : ∀ before reason after, events = before ++ .aborted reason :: after → ∀ line took, .reported line took ∉ after
  inTime : ∀ line took, .reported line took ∈ events → InTime control took
  reason : ∀ before reason after, events = before ++ .aborted reason :: after → .failed ∉ before →
    ∀ ended, .ended ended ∈ after → ended = .threw (.thrown (.control reason))
  /-- It does end, as soon as the loop goes on. -/
  ends : final.control.reason.isSome = true → ¬ Over final.phase →
    ∀ compute send, ∃ next, resume compute send final = some next ∧ Over next.1.phase

/-! ### What holds in every run -/

/-- Neither a report nor a rejection follows an abort. -/
def Quiet (first second : Event ω) : Prop :=
  ∀ reason, first = .aborted reason → second ≠ .failed ∧ ∀ line took, second ≠ .reported line took

/-- The end after an abort has the reason of the signal. -/
def Concluded (events : List (Event ω)) : Prop :=
  ∀ before reason after, events = before ++ .aborted reason :: after → .failed ∉ before →
    ∀ ended, .ended ended ∈ after → ended = .threw (.thrown (.control reason))

structure Held (control : ReplayControl ω) (events : List (Event ω)) (s : Replaying ω) : Prop where
  proper : Proper s
  timeout : s.control.actionTimeout = control.actionTimeout
  aborted : ∀ reason, .aborted reason ∈ events ↔ s.control.reason = some reason
  quiet : events.Pairwise Quiet
  inTime : ∀ line took, .reported line took ∈ events → InTime control took
  unfinished : ¬ Over s.phase → (.failed ∈ events ↔ Failing s.phase) ∧ ∀ ended, .ended ended ∉ events

theorem concluded_open {events : List (Event ω)} (unended : ∀ ended, .ended ended ∉ events) : Concluded events := by
  intro before reason after whole _ ended member
  refine absurd ?_ (unended ended)
  rw [whole]
  exact List.mem_append_right _ (List.mem_cons_of_mem _ member)

/-- An event that is no end changes nothing of it. -/
theorem concluded_snoc {events : List (Event ω)} {event : Event ω} (going : ∀ ended, event ≠ .ended ended) :
    Concluded (events ++ [event]) ↔ Concluded events := by
  constructor
  · intro concluded before reason after whole unfailed ended member
    apply concluded before reason (after ++ [event]) (by rw [whole]; simp) unfailed
    exact List.mem_append_left _ member
  · intro concluded before reason after whole unfailed ended member
    rcases List.eq_nil_or_concat after with rfl | ⟨front, last, rfl⟩
    · cases member
    · rw [List.concat_eq_append] at whole member
      have shifted : events ++ [event] = (before ++ .aborted reason :: front) ++ [last] := by simpa using whole
      rcases List.append_inj' shifted rfl with ⟨inner, same⟩
      cases same
      rcases List.mem_append.mp member with member | member
      · exact concluded before reason front inner unfailed ended member
      · exact absurd (List.mem_singleton.mp member).symm (going ended)

theorem concluded_append {events more : List (Event ω)} (going : ∀ ended, .ended ended ∉ more) :
    Concluded (events ++ more) ↔ Concluded events := by
  induction more generalizing events with
  | nil => rw [List.append_nil]
  | cons event more ih =>
    have first : ∀ ended, event ≠ .ended ended := by
      intro ended same
      exact going ended (by rw [same]; exact List.mem_cons_self)
    rw [← List.singleton_append, ← List.append_assoc, ih (fun ended member => going ended (List.mem_cons_of_mem _ member)),
      concluded_snoc first]

section

variable {control : ReplayControl ω} {events : List (Event ω)} {s after : Replaying ω}

/-- A step that nothing is seen of. -/
theorem Held.unseen (held : Held control events s) (proper : Proper after)
    (timeout : after.control.actionTimeout = s.control.actionTimeout) (reason : after.control.reason = s.control.reason)
    (past : ¬ Over after.phase → ¬ Over s.phase ∧ (Failing s.phase ↔ Failing after.phase)) : Held control events after where
  proper := proper
  timeout := timeout.trans held.timeout
  aborted r := by rw [reason, held.aborted]
  quiet := held.quiet
  inTime := held.inTime
  unfinished going := by
    rcases past going with ⟨before, same⟩
    rcases held.unfinished before with ⟨failed, unended⟩
    exact ⟨failed.trans same, unended⟩

theorem quiet_active {more : List (Event ω)} (held : Held control events s) (active : s.control.reason = none)
    (quiet : more.Pairwise Quiet) : (events ++ more).Pairwise Quiet := by
  rw [List.pairwise_append]
  refine ⟨held.quiet, quiet, fun first member second _ reason same => ?_⟩
  rw [same, held.aborted, active] at member
  cases member

theorem abort_proper {error : ReplayControlError ω} (proper : Proper s) :
    Proper { s with control := s.control.abort error, phase := s.phase.abort } := by
  refine ⟨proper.watched, ?_⟩
  have holds := proper.phase
  have past {ρ : Type} (race : Machine.Race (Outside ω) ρ) : race.abort.winner.isSome = true := by
    unfold Machine.Race.abort
    cases race.winner <;> rfl
  cases phase : s.phase with
  | receiving started race =>
    rw [phase] at holds
    exact ⟨holds.sound.abort, fun _ => past race⟩
  | computing msg started race =>
    rw [phase] at holds
    exact ⟨holds.1, ⟨holds.2.1.sound.abort, fun _ => past race⟩, holds.2.2⟩
  | computed msg state took =>
    rw [phase] at holds
    exact holds
  | _ => exact True.intro

theorem abort_failing (phase : Phase ω) : Failing phase.abort ↔ Failing phase := by
  have same {ρ : Type} (race : Machine.Race (Outside ω) ρ) :
      (∃ thrown, race.abort.winner = some (.call (.error thrown))) ↔ ∃ thrown, race.winner = some (.call (.error thrown)) := by
    unfold Machine.Race.abort
    cases race.winner with
    | none => simp
    | some winner => simp
  cases phase with
  | receiving started race => exact same race
  | computing msg started race => exact same race
  | _ => exact Iff.rfl

theorem abort_over (phase : Phase ω) : Over phase.abort ↔ Over phase := by
  cases phase <;> exact Iff.rfl

theorem Held.abort (held : Held control events s) (error : ReplayControlError ω) :
    Held control (events ++ (Controlled.abort error s).2) (Controlled.abort error s).1 := by
  unfold Controlled.abort
  cases reason : s.control.reason with
  | some _ =>
    dsimp only
    rw [List.append_nil]
    exact held
  | none =>
    refine ⟨abort_proper held.proper, held.timeout, ?_, quiet_active held reason (List.pairwise_singleton _ _), ?_, ?_⟩
    · intro other
      have before := held.aborted other
      rw [reason] at before
      simp only [List.mem_append, before, List.mem_singleton, ReplayControl.abort, reason]
      constructor
      · intro same
        rcases same with same | same
        · cases same
        · cases same
          rfl
      · intro same
        cases same
        exact .inr rfl
    · intro line took member
      rcases List.mem_append.mp member with member | member
      · exact held.inTime line took member
      · cases List.mem_singleton.mp member
    · intro going
      rcases held.unfinished (fun past => going ((abort_over s.phase).mpr past)) with ⟨failed, unended⟩
      constructor
      · rw [abort_failing, ← failed]
        simp
      · intro ended member
        rcases List.mem_append.mp member with member | member
        · exact unended ended member
        · cases List.mem_singleton.mp member

theorem abort_unended (error : ReplayControlError ω) (s : Replaying ω) (ended : Ended ω) :
    .ended ended ∉ (Controlled.abort error s).2 := by
  unfold Controlled.abort
  cases s.control.reason <;> simp

/-- What is awaited is rejected. -/
theorem Held.failed {phase : Phase ω} (held : Held control events s) (proper : Proper { s with phase })
    (active : s.control.reason = none) (going : ¬ Over s.phase) (failing : Failing phase) :
    Held control (events ++ [.failed]) { s with phase } := by
  have unended := (held.unfinished going).2
  refine ⟨proper, held.timeout, ?_, quiet_active held active (List.pairwise_singleton _ _), ?_, ?_⟩
  · intro reason
    rw [← held.aborted]
    simp
  · intro line took member
    rcases List.mem_append.mp member with member | member
    · exact held.inTime line took member
    · cases List.mem_singleton.mp member
  · intro _
    refine ⟨⟨fun _ => failing, fun _ => List.mem_append_right _ (List.mem_singleton_self _)⟩, fun ended member => ?_⟩
    rcases List.mem_append.mp member with member | member
    · exact unended ended member
    · cases List.mem_singleton.mp member

/-! ### The races -/

theorem Attended.step {ρ : Type} {race next : Machine.Race (Outside ω) ρ} {refusal : Outside ω}
    {event : Machine.Race.Event (Outside ω) ρ} {calls : Bool} (attended : Attended control race)
    (stepped : race.step refusal event = some (next, calls)) : Attended control next := by
  refine ⟨attended.sound.step stepped, fun aborted => ?_⟩
  rcases Option.isSome_iff_exists.mp (attended.heard aborted) with ⟨winner, won⟩
  rw [Machine.Race.won_step won stepped]
  rfl

/-- What an event makes of a race: it is rejected where its call was. -/
theorem raceStep_cases {ρ : Type} {phase : Machine.Race (Outside ω) ρ → Phase ω} {race : Machine.Race (Outside ω) ρ}
    {event : Machine.Race.Event (Outside ω) ρ} {next : Next ω} (stepped : raceStep s phase race event = some next) :
    ∃ race' calls, race.step s.control.thrown event = some (race', calls) ∧ next.1 = { s with phase := phase race' } ∧
      ((next.2 = [] ∧ ((∃ thrown, race.winner = some (.call (.error thrown))) ↔
          ∃ thrown, race'.winner = some (.call (.error thrown)))) ∨
        (next.2 = [.failed] ∧ race.winner = none ∧ ∃ thrown, race'.winner = some (.call (.error thrown)))) := by
  unfold raceStep at stepped
  split at stepped
  · cases stepped
  · rename_i untimed
    rcases Option.map_eq_some_iff.mp stepped with ⟨⟨race', calls⟩, taken, rfl⟩
    refine ⟨race', calls, taken, rfl, ?_⟩
    rcases Machine.Race.step_cases taken with ⟨rfl, _, _, _, rfl⟩ | ⟨rfl, _, _, _, rfl⟩ | ⟨_, rfl, _, _, rfl⟩ |
      ⟨result, rfl, settled, undecided, _, rfl⟩ | ⟨rfl, _⟩
    · exact .inl ⟨rfl, Iff.rfl⟩
    · exact .inl ⟨rfl, Iff.rfl⟩
    · exact .inl ⟨rfl, Iff.rfl⟩
    · cases result with
      | ok value => exact .inl ⟨by simp only [settled], by simp [undecided]⟩
      | error thrown => exact .inr ⟨by simp only [settled], undecided, thrown, rfl⟩
    · exact absurd rfl untimed

/-- An event of a race in progress, in a phase that has the race. -/
theorem raceStep_held {ρ : Type} {phase : Machine.Race (Outside ω) ρ → Phase ω} {race : Machine.Race (Outside ω) ρ}
    {event : Machine.Race.Event (Outside ω) ρ} {next : Next ω} (held : Held control events s) (current : s.phase = phase race)
    (attended : Attended s.control race)
    (failing : ∀ race, Failing (phase race) ↔ ∃ thrown, race.winner = some (.call (.error thrown)))
    (going : ∀ race, ¬ Over (phase race))
    (keeps : ∀ race' calls, race.step s.control.thrown event = some (race', calls) → ProperPhase s.control (phase race'))
    (stepped : raceStep s phase race event = some next) : Held control (events ++ next.2) next.1 := by
  rcases raceStep_cases stepped with ⟨race', calls, taken, same, kind⟩
  have proper : Proper { s with phase := phase race' } := ⟨held.proper.watched, keeps race' calls taken⟩
  rcases kind with ⟨silent, still⟩ | ⟨rejected, undecided, fails⟩
  · rw [silent, same, List.append_nil]
    apply held.unseen proper rfl rfl
    intro _
    rw [current, failing race, failing race']
    exact ⟨going race, still⟩
  · rw [rejected, same]
    have active : s.control.reason = none := by
      cases reason : s.control.reason with
      | none => rfl
      | some _ =>
        have won := attended.heard (by rw [reason]; rfl)
        rw [undecided] at won
        cases won
    apply held.failed proper active
    · rw [current]
      exact going race
    · exact (failing race').mpr fails

/-- A state that has come before now has come before any later time. -/
theorem stamp_came {race race' : Machine.Race (Outside ω) (State × Rat)} {refusal : Outside ω} {clock : Rat}
    {event : Machine.Race.Event (Outside ω) State} {calls : Bool}
    (before : ∀ state came, race.settled = some (.ok (state, came)) → came ≤ clock)
    (stepped : race.step refusal (stamp clock event) = some (race', calls)) :
    ∀ state came, race'.settled = some (.ok (state, came)) → came ≤ clock := by
  intro state came settled
  rcases Machine.Race.step_cases stepped with ⟨_, _, _, _, rfl⟩ | ⟨_, _, _, _, rfl⟩ | ⟨result, kind, _, _, rfl⟩ |
    ⟨_, _, _, _, _, rfl⟩ | ⟨_, _, _, _, rfl⟩
  · cases settled
  · exact before state came settled
  · cases settled
    cases event with
    | settle result =>
      cases result with
      | ok value =>
        cases kind
        exact le_refl _
      | error thrown => cases kind
    | begin => cases kind
    | deliver => cases kind
    | timer => cases kind
  · exact before state came settled
  · exact before state came settled

/-! ### The code of the loop -/

theorem mem_finale {phase : Phase ω} {event : Event ω} (member : event ∈ finale phase) :
    ∃ ended, phase = .finished ended ∧ event = .ended ended := by
  cases phase with
  | finished ended => exact ⟨ended, rfl, List.mem_singleton.mp member⟩
  | _ => cases member

theorem mem_noticed {before after : ReplayControl ω} {event : Event ω} (member : event ∈ noticed before after) :
    ∃ reason, before.reason = none ∧ after.reason = some reason ∧ event = .aborted reason := by
  unfold noticed at member
  split at member
  · rename_i reason active aborted
    exact ⟨reason, active, aborted, List.mem_singleton.mp member⟩
  · cases member

theorem noticed_mem {before after : ReplayControl ω} {reason : ReplayControlError ω} (active : before.reason = none)
    (aborted : after.reason = some reason) : .aborted reason ∈ noticed before after := by
  simp [noticed, active, aborted]

/-- What a step of the loop is seen to do. -/
theorem Resumed.mem {heard : Prop} {next : Next ω} (resumed : Resumed s heard next) {event : Event ω} (member : event ∈ next.2) :
    (∃ line took, event = .reported line took ∧ s.control.reason = none ∧ InTime s.control took) ∨
    (∃ reason, event = .aborted reason ∧ s.control.reason = none ∧ next.1.control.reason = some reason) ∨
    ∃ ended, event = .ended ended ∧ next.1.phase = .finished ended := by
  rcases resumed.seen with ⟨said, seen, reports⟩
  rw [seen, List.mem_append, List.mem_append] at member
  rcases member with (member | member) | member
  · rcases reports with rfl | ⟨line, took, rfl, active, inTime⟩
    · cases member
    · exact .inl ⟨line, took, List.mem_singleton.mp member, active, inTime⟩
  · rcases mem_noticed member with ⟨reason, active, aborted, same⟩
    exact .inr (.inl ⟨reason, same, active, aborted⟩)
  · rcases mem_finale member with ⟨ended, finished, same⟩
    exact .inr (.inr ⟨ended, same, finished⟩)

theorem Resumed.quiet {heard : Prop} {next : Next ω} (resumed : Resumed s heard next) : next.2.Pairwise Quiet := by
  rcases resumed.seen with ⟨said, seen, reports⟩
  rw [seen, List.append_assoc, List.pairwise_append, List.pairwise_append]
  have single {more : List (Event ω)} (short : more.length ≤ 1) : more.Pairwise Quiet := by
    cases more with
    | nil => exact .nil
    | cons event more =>
      cases more with
      | nil => exact List.pairwise_singleton _ _
      | cons other more => simp at short
  refine ⟨?_, ⟨?_, ?_, ?_⟩, ?_⟩
  · apply single
    rcases reports with rfl | ⟨line, took, rfl, _⟩ <;> simp
  · apply single
    unfold noticed
    split <;> simp
  · apply single
    cases next.1.phase <;> simp [finale]
  · intro first _ second member reason _
    rcases mem_finale member with ⟨ended, _, rfl⟩
    exact ⟨nofun, nofun⟩
  · intro first member second _ reason same
    rcases reports with rfl | ⟨line, took, rfl, _⟩
    · cases member
    · cases List.mem_singleton.mp member
      cases same

theorem Held.resumed {heard : Prop} {next : Next ω} (held : Held control events s) (resumed : Resumed s heard next)
    (going : ¬ Over s.phase) (failing : Failing s.phase → Over next.1.phase) : Held control (events ++ next.2) next.1 := by
  have timeout : next.1.control.actionTimeout = s.control.actionTimeout := resumed.later.actionTimeout
  refine ⟨resumed.proper, timeout.trans held.timeout, ?_, ?_, ?_, ?_⟩
  · intro reason
    rw [List.mem_append, held.aborted]
    constructor
    · intro member
      rcases member with same | member
      · exact resumed.later.reason reason same
      · rcases resumed.mem member with ⟨_, _, same, _⟩ | ⟨_, same, _, aborted⟩ | ⟨_, same, _⟩
        · cases same
        · cases same
          exact aborted
        · cases same
    · intro aborted
      cases before : s.control.reason with
      | some other =>
        have still := resumed.later.reason other before
        rw [aborted] at still
        exact .inl (by rw [still])
      | none =>
        rcases resumed.seen with ⟨said, seen, _⟩
        refine .inr ?_
        rw [seen, List.mem_append, List.mem_append]
        exact .inl (.inr (noticed_mem before aborted))
  · rw [List.pairwise_append]
    refine ⟨held.quiet, resumed.quiet, fun first before second member reason same => ?_⟩
    rw [same, held.aborted] at before
    rcases resumed.mem member with ⟨_, _, _, active, _⟩ | ⟨_, _, active, _⟩ | ⟨_, rfl, _⟩
    · rw [active] at before
      cases before
    · rw [active] at before
      cases before
    · exact ⟨nofun, nofun⟩
  · intro line took member
    rcases List.mem_append.mp member with member | member
    · exact held.inTime line took member
    · rcases resumed.mem member with ⟨_, _, same, _, inTime⟩ | ⟨_, same, _⟩ | ⟨_, same, _⟩
      · cases same
        intro timeout found
        exact inTime timeout (held.timeout ▸ found)
      · cases same
      · cases same
  · intro unfinished
    rcases held.unfinished going with ⟨failed, unended⟩
    have still := (resumed.goes unfinished).2
    refine ⟨⟨fun member => ?_, fun fails => absurd fails still⟩, fun ended member => ?_⟩
    · rcases List.mem_append.mp member with member | member
      · exact absurd (failing (failed.mp member)) unfinished
      · rcases resumed.mem member with ⟨_, _, same, _⟩ | ⟨_, same, _⟩ | ⟨_, same, _⟩ <;> cases same
    · rcases List.mem_append.mp member with member | member
      · exact unended ended member
      · rcases resumed.mem member with ⟨_, _, same, _⟩ | ⟨_, same, _⟩ | ⟨_, _, finished⟩
        · cases same
        · cases same
        · apply unfinished
          rw [finished]
          exact True.intro

/-- The end is the one that the signal asks for, exactly where the loop has looked at it. -/
theorem Held.concluded {heard : Prop} {next : Next ω} (held : Held control events s) (resumed : Resumed s heard next)
    (going : ¬ Over s.phase) (after : Held control (events ++ next.2) next.1) (failing : Failing s.phase → heard) :
    Concluded (events ++ next.2) ↔ heard := by
  rcases held.unfinished going with ⟨failed, unended⟩
  have ends {ended : Ended ω} (member : .ended ended ∈ events ++ next.2) : next.1.phase = .finished ended := by
    rcases List.mem_append.mp member with member | member
    · exact absurd member (unended ended)
    · rcases resumed.mem member with ⟨_, _, same, _⟩ | ⟨_, same, _⟩ | ⟨_, same, finished⟩
      · cases same
      · cases same
      · cases same
        exact finished
  cases aborted : next.1.control.reason with
  | none =>
    refine ⟨fun _ => resumed.active aborted, fun _ before reason later whole _ _ _ => ?_⟩
    have member : .aborted reason ∈ events ++ next.2 := by
      rw [whole]
      exact List.mem_append_right _ List.mem_cons_self
    rw [after.aborted, aborted] at member
    cases member
  | some reason =>
    by_cases fails : Failing s.phase
    · refine ⟨fun _ => failing fails, fun _ before reason' later whole unfailed => ?_⟩
      -- It had failed before the abort.
      have member : .failed ∈ events ++ next.2 := List.mem_append_left _ (failed.mpr fails)
      rw [whole] at member
      rcases List.mem_append.mp member with member | member
      · exact absurd member unfailed
      · have quiet := after.quiet
        rw [whole, List.pairwise_append, List.pairwise_cons] at quiet
        rcases List.mem_cons.mp member with same | member
        · cases same
        · exact absurd rfl (quiet.2.1.1 _ member reason' rfl).1
    · constructor
      · intro concluded
        by_cases past : Over next.1.phase
        · have found : .aborted reason ∈ events ++ next.2 := (after.aborted reason).mpr aborted
          cases finished : next.1.phase with
          | finished ended =>
            rw [← resumed.heard fails reason ended aborted finished]
            rcases resumed.seen with ⟨said, seen, _⟩
            -- The end is the last that is seen.
            rw [seen, finished, finale, ← List.append_assoc] at found concluded
            have inner : .aborted reason ∈ events ++ (said ++ noticed s.control next.1.control) := by
              rcases List.mem_append.mp found with inner | last
              · exact inner
              · cases List.mem_singleton.mp last
            rcases List.append_of_mem inner with ⟨before, later, whole⟩
            apply concluded before reason (later ++ [.ended ended]) (by rw [whole]; simp) _ ended
              (List.mem_append_right _ (List.mem_singleton_self _))
            intro member
            have early : .failed ∈ events ++ (said ++ noticed s.control next.1.control) := by
              rw [whole]
              exact List.mem_append_left _ member
            rcases List.mem_append.mp early with early | early
            · exact fails (failed.mp early)
            · have listed : .failed ∈ next.2 := by
                rw [seen]
                exact List.mem_append_left _ early
              rcases resumed.mem listed with ⟨_, _, same, _⟩ | ⟨_, same, _⟩ | ⟨_, same, _⟩ <;> cases same
          | _ =>
            rw [finished] at past
            cases past
        · have active := (resumed.goes past).1
          rw [aborted] at active
          cases active
      · intro heard before reason' later whole _ ended member
        have found : .aborted reason' ∈ events ++ next.2 := by
          rw [whole]
          exact List.mem_append_right _ List.mem_cons_self
        rw [after.aborted] at found
        have last : .ended ended ∈ events ++ next.2 := by
          rw [whole]
          exact List.mem_append_right _ (List.mem_cons_of_mem _ member)
        exact (resumed.heard fails reason' ended found (ends last)).mpr heard

section

variable [NumberText] [NumberConversion] {compute : Calling ω Computed} {send : Calling ω Unit} {next : Next ω}

theorem resume_going (resumed : resume compute send s = some next) : ¬ Over s.phase := by
  intro past
  unfold resume at resumed
  cases phase : s.phase with
  | finished ended =>
    rw [phase] at resumed
    cases resumed
  | _ =>
    rw [phase] at past
    cases past

/-- What has been rejected ends the loop. -/
theorem resume_failing (proper : Proper s) (failing : Failing s.phase) (resumed : resume compute send s = some next) :
    Over next.1.phase := by
  have holds := proper.phase
  have watched := proper.watched
  rcases s with ⟨current, loop, phase⟩
  cases phase with
  | receiving started race =>
    rcases failing with ⟨thrown, won⟩
    simp only [resume, won, Option.map_some, ReplayControl.awaited] at resumed
    cases resumed
    exact True.intro
  | computing msg started race =>
    rcases failing with ⟨thrown, won⟩
    simp only [resume, won, Option.map_some, ReplayControl.awaited] at resumed
    cases resumed
    show Over (report msg _ 0 send _).1.phase
    rw [(report_unstated _ _ watched holds.1 (.inr rfl)).2]
    exact True.intro
  | _ => cases failing

/-- Once the signal is aborted, the loop ends as soon as it goes on. -/
theorem resume_aborted (proper : Proper s) (aborted : s.control.reason.isSome = true) (going : ¬ Over s.phase)
    (compute : Calling ω Computed) (send : Calling ω Unit) :
    ∃ next, resume compute send s = some next ∧ Over next.1.phase := by
  have enabled : ∃ next, resume compute send s = some next := by
    have holds := proper.phase
    unfold resume
    cases phase : s.phase with
    | starting => exact ⟨_, rfl⟩
    | receiving started race =>
      rw [phase] at holds
      rcases Option.isSome_iff_exists.mp (holds.heard aborted) with ⟨winner, won⟩
      simp only [won]
      exact ⟨_, rfl⟩
    | received line => exact ⟨_, rfl⟩
    | computing msg started race =>
      rw [phase] at holds
      rcases Option.isSome_iff_exists.mp (holds.2.1.heard aborted) with ⟨winner, won⟩
      simp only [won]
      exact ⟨_, rfl⟩
    | computed msg state took => exact ⟨_, rfl⟩
    | finished ended =>
      rw [phase] at going
      exact absurd True.intro going
  rcases enabled with ⟨next, resumed⟩
  refine ⟨next, resumed, ?_⟩
  have comes := resume_resumed proper resumed
  by_contra unfinished
  have active := comes.later.active (comes.goes unfinished).1
  rw [active] at aborted
  cases aborted

theorem unheard_resume {input : Input ω} (unheard : Unheard s input) : ∃ compute send, input = .resume compute send := by
  cases unheard <;> exact ⟨_, _, rfl⟩

theorem Failing.heard (failing : Failing s.phase) : ¬ Unheard s (.resume compute send) := by
  intro unheard
  rcases unheard.phase with ⟨_, phase⟩ | ⟨_, _, _, phase⟩
  · rw [phase] at failing
    cases failing
  · rw [phase] at failing
    cases failing

theorem expire_abort {ρ : Type} {kind : ControlledKind} {race : Machine.Race (Outside ω) ρ} (expired : expire kind race s = some next) :
    ∃ error, next = Controlled.abort error s := by
  unfold expire at expired
  split at expired
  · rcases Option.map_eq_some_iff.mp expired with ⟨timeout, _, rfl⟩
    exact ⟨_, rfl⟩
  · cases expired

/-- Where the code of the loop does not go on, the run does not end. -/
theorem outer_held {input : Input ω} (held : Held control events s) (stepped : step s input = some next)
    (outer : ∀ compute send, input ≠ .resume compute send) :
    Held control (events ++ next.2) next.1 ∧ ∀ ended, .ended ended ∉ next.2 := by
  have holds := held.proper.phase
  have unended {ρ : Type} {phase : Machine.Race (Outside ω) ρ → Phase ω} {race : Machine.Race (Outside ω) ρ}
      {event : Machine.Race.Event (Outside ω) ρ} (taken : raceStep s phase race event = some next) (ended : Ended ω) :
      .ended ended ∉ next.2 := by
    rcases raceStep_cases taken with ⟨_, _, _, _, ⟨silent, _⟩ | ⟨rejected, _⟩⟩
    · rw [silent]
      exact List.not_mem_nil
    · rw [rejected]
      simp
  cases input with
  | abort cause =>
    cases stepped
    exact ⟨held.abort _, abort_unended _ s⟩
  | pass elapsed =>
    cases stepped
    have proper : Proper { s with control := { s.control with clock := s.control.clock + elapsed } } := by
      refine ⟨held.proper.watched, ?_⟩
      show ProperPhase { s.control with clock := s.control.clock + elapsed } s.phase
      cases phase : s.phase with
      | receiving started race =>
        rw [phase] at holds
        exact ⟨holds.sound, holds.heard⟩
      | computing msg started race =>
        rw [phase] at holds
        refine ⟨holds.1, ⟨holds.2.1.sound, holds.2.1.heard⟩, fun state came settled => ?_⟩
        have before := holds.2.2 state came settled
        have later : s.control.clock ≤ s.control.clock + elapsed := le_add_of_nonneg_right elapsed.2
        exact le_trans before later
      | computed msg state took =>
        rw [phase] at holds
        exact holds
      | _ => exact True.intro
    refine ⟨?_, fun ended => List.not_mem_nil⟩
    rw [List.append_nil]
    exact held.unseen proper rfl rfl fun going => ⟨going, Iff.rfl⟩
  | expire =>
    simp only [step] at stepped
    split at stepped
    · rcases expire_abort stepped with ⟨error, rfl⟩
      exact ⟨held.abort error, abort_unended error s⟩
    · rcases expire_abort stepped with ⟨error, rfl⟩
      exact ⟨held.abort error, abort_unended error s⟩
    · cases stepped
  | line event =>
    simp only [step] at stepped
    split at stepped
    · rename_i started race phase
      rw [phase] at holds
      refine ⟨raceStep_held held phase holds ?_ ?_ ?_ stepped, unended stepped⟩
      · exact fun _ => Iff.rfl
      · exact fun _ past => past
      · exact fun race' calls taken => holds.step taken
    · cases stepped
  | state event =>
    simp only [step] at stepped
    split at stepped
    · rename_i msg started race phase
      rw [phase] at holds
      refine ⟨raceStep_held held phase holds.2.1 ?_ ?_ ?_ stepped, unended stepped⟩
      · exact fun _ => Iff.rfl
      · exact fun _ past => past
      · exact fun race' calls taken => ⟨holds.1, holds.2.1.step taken, stamp_came holds.2.2 taken⟩
    · cases stepped
  | resume compute send => exact absurd rfl (outer compute send)

theorem step_held {input : Input ω} (held : Held control events s) (stepped : step s input = some next) :
    Held control (events ++ next.2) next.1 ∧
      (Concluded (events ++ next.2) ↔ Concluded events ∧ ¬ Unheard s input) := by
  by_cases inner : ∃ compute send, input = .resume compute send
  · rcases inner with ⟨compute, send, rfl⟩
    have going := resume_going stepped
    have resumed := resume_resumed held.proper stepped
    have after := held.resumed resumed going (fun failing => resume_failing held.proper failing stepped)
    refine ⟨after, ?_⟩
    rw [held.concluded resumed going after Failing.heard]
    exact ⟨fun heard => ⟨concluded_open (held.unfinished going).2, heard⟩, And.right⟩
  · rcases outer_held held stepped (fun compute send same => inner ⟨compute, send, same⟩) with ⟨after, unended⟩
    refine ⟨after, ?_⟩
    rw [concluded_append unended]
    exact ⟨fun concluded => ⟨concluded, fun unheard => inner (unheard_resume unheard)⟩, And.left⟩

theorem replayLoop_held (control : ReplayControl ω) : Held control (happened control []) (replayLoop control) := by
  have seen : happened control [] = (control.reason.map Event.aborted).toList := by simp [happened]
  rw [seen]
  cases reason : control.reason with
  | none =>
    refine ⟨⟨⟨rfl, rfl⟩, True.intro⟩, rfl, fun other => ?_, .nil, fun _ _ member => ?_, fun _ => ⟨⟨fun member => ?_, fun failing => ?_⟩, fun _ member => ?_⟩⟩
    · simp [replayLoop, reason]
    · cases member
    · cases member
    · cases failing
    · cases member
  | some error =>
    refine ⟨⟨⟨rfl, rfl⟩, True.intro⟩, rfl, fun other => ?_, List.pairwise_singleton _ _, fun _ _ member => ?_,
      fun _ => ⟨⟨fun member => ?_, fun failing => ?_⟩, fun _ member => ?_⟩⟩
    · simp only [Option.map_some, Option.toList_some, List.mem_singleton, Event.aborted.injEq, replayLoop, reason,
        Option.some.injEq]
      exact eq_comm
    · cases List.mem_singleton.mp member
    · cases List.mem_singleton.mp member
    · cases failing
    · cases List.mem_singleton.mp member

theorem run_held {trace : Trace ω} (run : Machine.Run step (replayLoop control) trace s) :
    Held control (happened control trace) s ∧
      (Concluded (happened control trace) ↔ ∀ t ∈ trace, ¬ Unheard t.before t.input) := by
  apply run.invariant (P := fun trace s => Held control (happened control trace) s ∧
    (Concluded (happened control trace) ↔ ∀ t ∈ trace, ¬ Unheard t.before t.input))
  · refine ⟨replayLoop_held control, fun _ _ member => absurd member List.not_mem_nil, fun _ => ?_⟩
    exact concluded_open ((replayLoop_held control).unfinished fun past => past).2
  · intro trace state input output after before stepped
    rcases step_held before.1 stepped with ⟨held, concluded⟩
    rw [happened_snoc]
    refine ⟨held, concluded.trans ?_⟩
    rw [before.2]
    constructor
    · intro heard t member
      rcases List.mem_append.mp member with member | member
      · exact heard.1 t member
      · rw [List.mem_singleton.mp member]
        exact heard.2
    · intro heard
      exact ⟨fun t member => heard t (List.mem_append_left _ member),
        heard _ (List.mem_append_right _ (List.mem_singleton_self _))⟩

end

end

/-! ### An abort before the last message -/

/-- A call that does not take any time. -/
def instantly {ρ : Type} (value : ρ) : Calling Unit ρ := ⟨0, none, .ok value⟩

def goOn : Input Unit := .resume (instantly .promise) (instantly ())

/-- The message has been received when the signal is aborted. -/
def lastMessage : List (Input Unit) :=
  [goOn, .line .begin, .line (.settle (.ok (some (js "\x7b\"proto_step\":\"all_steps_done\"\x7d")))), .line .deliver, goOn, .abort (), goOn]

/-- The signal is aborted, and the replay has passed. -/
def passed (trace : Trace Unit) (s : Replaying Unit) : Bool :=
  match (trace.flatMap (·.output) : List (Event Unit)) with
  | [.aborted _, .ended (.returned _)] => s.control.reason.isSome
  | _ => false

theorem last_message : letI := integerNumbers.toNumberConversion; letI := integerNotation
    Machine.reaches step ((ReplayControl.new {}).map replayLoop) lastMessage passed = true := by
  decide +kernel

end Mirror.Replay.Controlled
