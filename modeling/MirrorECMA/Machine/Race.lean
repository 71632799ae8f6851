namespace Machine

/-- What a race is won by: the call, by the way it ended, the timer, or the abort of a signal. -/
inductive Winner (ε ρ : Type) where
  | call (result : Except ε ρ)
  | timer
  | abort

/-- `Promise.race` of a call, which is made in a microtask, with a timer and a signal. -/
structure Race (ε ρ : Type) where
  /-- The microtask has run. -/
  begun : Bool
  called : Bool
  settled : Option (Except ε ρ)
  /-- The signal that the call gets has been aborted. -/
  stopped : Bool
  winner : Option (Winner ε ρ)

namespace Race

variable {ε ρ : Type}

def start : Race ε ρ := ⟨false, false, none, false, none⟩

/-- A later race for the same call. -/
def again (race : Race ε ρ) : Race ε ρ := { race with winner := none }

inductive Event (ε ρ : Type) where
  | begin
  | settle (result : Except ε ρ)
  | deliver
  | timer

/-- What an event makes of a race, and whether the function is called by it. -/
def step (refusal : ε) (race : Race ε ρ) : Event ε ρ → Option (Race ε ρ × Bool)
  | .begin =>
    if race.begun then none
    else if race.stopped then some ({ race with begun := true, settled := some (.error refusal) }, false)
    else some ({ race with begun := true, called := true }, true)
  | .settle result =>
    if race.called && race.settled.isNone then some ({ race with settled := some result }, false) else none
  | .deliver =>
    match race.settled, race.winner with
    | some result, none => some ({ race with winner := some (.call result) }, false)
    | _, _ => none
  -- Timers fire after the microtasks.
  | .timer => if race.begun && race.winner.isNone then some ({ race with winner := some .timer }, false) else none

/-- The listeners of the signal that the race is told about. -/
def abort (race : Race ε ρ) : Race ε ρ :=
  { race with stopped := true, winner := race.winner <|> some .abort }

/-- The call has been made and has not settled. -/
def pending (race : Race ε ρ) : Bool := race.called && race.settled.isNone

/-- What is won by the call has been returned by it. -/
structure Sound (race : Race ε ρ) : Prop where
  begun : race.called = true → race.begun = true
  answered : ∀ result, race.settled = some result → race.begun = true
  called : ∀ value, race.settled = some (.ok value) → race.called = true
  won : ∀ result, race.winner = some (.call result) → race.settled = some result
  /-- The call is not made any more once the race is over. -/
  past : ∀ winner, race.winner = some winner → race.begun = true ∨ race.stopped = true

theorem start_sound : Sound (start : Race ε ρ) where
  begun called := by cases called
  answered _ settled := by cases settled
  called _ settled := by cases settled
  won _ won := by cases won
  past _ won := by cases won

theorem Sound.again {race : Race ε ρ} (sound : race.Sound) : race.again.Sound where
  begun := sound.begun
  answered := sound.answered
  called := sound.called
  won _ won := by cases won
  past _ won := by cases won

theorem Sound.abort {race : Race ε ρ} (sound : race.Sound) : race.abort.Sound where
  begun := sound.begun
  answered := sound.answered
  called := sound.called
  won result won := by
    apply sound.won result
    unfold Race.abort at won
    cases found : race.winner with
    | none =>
      rw [found] at won
      cases won
    | some winner =>
      rw [found] at won
      exact won
  past _ _ := .inr rfl

theorem Sound.uncalled {race : Race ε ρ} (sound : race.Sound) (waiting : race.begun = false) : race.called = false := by
  cases called : race.called with
  | false => rfl
  | true =>
    have begun := sound.begun called
    rw [waiting] at begun
    cases begun

theorem Sound.unsettled {race : Race ε ρ} (sound : race.Sound) (waiting : race.begun = false) : race.settled = none := by
  cases settled : race.settled with
  | none => rfl
  | some result =>
    have begun := sound.answered result settled
    rw [waiting] at begun
    cases begun

theorem Sound.undecided {race : Race ε ρ} (sound : race.Sound) (waiting : race.begun = false) (running : race.stopped = false) :
    race.winner = none := by
  cases won : race.winner with
  | none => rfl
  | some winner =>
    have past := sound.past winner won
    rw [waiting, running] at past
    simp at past

/-- What an event does, by its kind. -/
theorem step_cases {refusal : ε} {race after : Race ε ρ} {event : Event ε ρ} {calls : Bool}
    (stepped : race.step refusal event = some (after, calls)) :
    (event = .begin ∧ race.begun = false ∧ race.stopped = true ∧ calls = false ∧
      after = { race with begun := true, settled := some (.error refusal) }) ∨
    (event = .begin ∧ race.begun = false ∧ race.stopped = false ∧ calls = true ∧
      after = { race with begun := true, called := true }) ∨
    (∃ result, event = .settle result ∧ race.pending = true ∧ calls = false ∧ after = { race with settled := some result }) ∨
    (∃ result, event = .deliver ∧ race.settled = some result ∧ race.winner = none ∧ calls = false ∧
      after = { race with winner := some (.call result) }) ∨
    (event = .timer ∧ race.begun = true ∧ race.winner = none ∧ calls = false ∧ after = { race with winner := some .timer }) := by
  cases event with
  | begin =>
    simp only [step] at stepped
    cases begun : race.begun with
    | true => simp [begun] at stepped
    | false =>
      cases stopped : race.stopped with
      | true =>
        simp only [begun, stopped, Bool.false_eq_true, ↓reduceIte, Option.some.injEq, Prod.mk.injEq] at stepped
        exact .inl ⟨rfl, rfl, rfl, stepped.2.symm, stepped.1.symm⟩
      | false =>
        simp only [begun, stopped, Bool.false_eq_true, ↓reduceIte, Option.some.injEq, Prod.mk.injEq] at stepped
        exact .inr (.inl ⟨rfl, rfl, rfl, stepped.2.symm, stepped.1.symm⟩)
  | settle result =>
    simp only [step] at stepped
    split at stepped
    · rename_i open_
      simp only [Option.some.injEq, Prod.mk.injEq] at stepped
      exact .inr (.inr (.inl ⟨result, rfl, open_, stepped.2.symm, stepped.1.symm⟩))
    · cases stepped
  | deliver =>
    simp only [step] at stepped
    split at stepped
    · rename_i result settled none
      simp only [Option.some.injEq, Prod.mk.injEq] at stepped
      exact .inr (.inr (.inr (.inl ⟨result, rfl, settled, none, stepped.2.symm, stepped.1.symm⟩)))
    · cases stepped
  | timer =>
    simp only [step] at stepped
    split at stepped
    · rename_i ready
      simp only [Bool.and_eq_true, Option.isNone_iff_eq_none] at ready
      simp only [Option.some.injEq, Prod.mk.injEq] at stepped
      exact .inr (.inr (.inr (.inr ⟨rfl, ready.1, ready.2, stepped.2.symm, stepped.1.symm⟩)))
    · cases stepped

theorem stopped_step {refusal : ε} {race after : Race ε ρ} {event : Event ε ρ} {calls : Bool}
    (stepped : race.step refusal event = some (after, calls)) : after.stopped = race.stopped := by
  rcases step_cases stepped with ⟨_, _, _, _, rfl⟩ | ⟨_, _, _, _, rfl⟩ | ⟨_, _, _, _, rfl⟩ | ⟨_, _, _, _, _, rfl⟩ |
    ⟨_, _, _, _, rfl⟩
  all_goals rfl

theorem won_step {refusal : ε} {race after : Race ε ρ} {event : Event ε ρ} {calls : Bool} {winner : Winner ε ρ}
    (won : race.winner = some winner) (stepped : race.step refusal event = some (after, calls)) : after.winner = some winner := by
  rcases step_cases stepped with ⟨_, _, _, _, rfl⟩ | ⟨_, _, _, _, rfl⟩ | ⟨_, _, _, _, rfl⟩ | ⟨_, _, _, none, _, _⟩ |
    ⟨_, _, none, _, _⟩
  · exact won
  · exact won
  · exact won
  · rw [won] at none
    cases none
  · rw [won] at none
    cases none

theorem won_abort {race : Race ε ρ} {winner : Winner ε ρ} (won : race.winner = some winner) : race.abort.winner = some winner := by
  rw [Race.abort, won]
  rfl

theorem deliver_won {refusal : ε} {race after : Race ε ρ} {calls : Bool} {result : Except ε ρ}
    (settled : race.settled = some result) (stepped : race.step refusal .deliver = some (after, calls)) :
    after.winner = some (.call result) := by
  rcases step_cases stepped with ⟨other, _⟩ | ⟨other, _⟩ | ⟨_, other, _⟩ | ⟨found, _, same, _, _, rfl⟩ | ⟨other, _⟩
  · cases other
  · cases other
  · cases other
  · rw [settled] at same
    cases same
    rfl
  · cases other

theorem call_waits {refusal : ε} {race after : Race ε ρ} {event : Event ε ρ} (stepped : race.step refusal event = some (after, true)) :
    race.begun = false ∧ race.stopped = false := by
  rcases step_cases stepped with ⟨_, _, _, quiet, _⟩ | ⟨_, waiting, running, _, _⟩ | ⟨_, _, _, quiet, _⟩ |
    ⟨_, _, _, _, quiet, _⟩ | ⟨_, _, _, quiet, _⟩
  · cases quiet
  · exact ⟨waiting, running⟩
  · cases quiet
  · cases quiet
  · cases quiet

/-- Once it is over, a race makes no call. -/
theorem over_step {refusal : ε} {race after : Race ε ρ} {event : Event ε ρ} {calls : Bool}
    (past : race.begun = true ∨ race.stopped = true) (stepped : race.step refusal event = some (after, calls)) :
    calls = false ∧ (after.begun = true ∨ after.stopped = true) := by
  rcases step_cases stepped with ⟨_, _, _, quiet, rfl⟩ | ⟨_, waiting, running, _, _⟩ | ⟨_, _, _, quiet, rfl⟩ |
    ⟨_, _, _, _, quiet, rfl⟩ | ⟨_, _, _, quiet, rfl⟩
  · exact ⟨quiet, .inl rfl⟩
  · rw [waiting, running] at past
    simp at past
  · exact ⟨quiet, past⟩
  · exact ⟨quiet, past⟩
  · exact ⟨quiet, past⟩

theorem Sound.step {refusal : ε} {race after : Race ε ρ} {event : Event ε ρ} {calls : Bool} (sound : race.Sound)
    (stepped : race.step refusal event = some (after, calls)) : after.Sound := by
  rcases step_cases stepped with ⟨_, waiting, _, _, rfl⟩ | ⟨_, waiting, _, _, rfl⟩ | ⟨result, _, pending, _, rfl⟩ |
    ⟨result, _, settled, _, _, rfl⟩ | ⟨_, _, _, _, rfl⟩
  · refine ⟨fun _ => rfl, fun _ _ => rfl, fun _ settled => (by cases settled), fun r won => ?_, fun _ _ => .inl rfl⟩
    have early := sound.answered r (sound.won r won)
    rw [waiting] at early
    cases early
  · exact ⟨fun _ => rfl, fun _ _ => rfl, fun _ _ => rfl, fun r won => sound.won r won, fun _ _ => .inl rfl⟩
  · rw [Race.pending, Bool.and_eq_true, Option.isNone_iff_eq_none] at pending
    refine ⟨sound.begun, fun _ _ => sound.begun pending.1, fun _ _ => pending.1, fun r won => ?_, sound.past⟩
    have early := sound.won r won
    rw [pending.2] at early
    cases early
  · refine ⟨sound.begun, sound.answered, sound.called, fun r won => ?_, fun _ _ => .inl (sound.answered result settled)⟩
    cases won
    exact settled
  · rename_i begun _ _
    exact ⟨sound.begun, sound.answered, sound.called, fun r won => (by cases won), fun _ _ => .inl begun⟩

end Race

end Machine
