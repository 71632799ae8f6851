import MirrorECMA.Machine.Race
import MirrorECMA.Machine.Run

namespace Machine

variable {σ ι ο : Type} {trace : List (Transition σ ι ο)} {t : Transition σ ι ο}

/-- Every step that asks is followed by one that answers. -/
def Answered (asks answers : Transition σ ι ο → Prop) (trace : List (Transition σ ι ο)) : Prop :=
  ∀ before t after, trace = before ++ t :: after → asks t → ∃ u ∈ after, answers u

section

variable {asks answers : Transition σ ι ο → Prop}

theorem answered_nil : Answered asks answers [] := by
  intro before t after whole
  simp at whole

/-- The last step of a trace, or one before it. -/
theorem split_last {before after : List (Transition σ ι ο)} {u : Transition σ ι ο}
    (whole : trace ++ [t] = before ++ u :: after) :
    (after = [] ∧ u = t ∧ before = trace) ∨ ∃ front, after = front ++ [t] ∧ trace = before ++ u :: front := by
  rcases List.eq_nil_or_concat after with rfl | ⟨front, last, rfl⟩
  · rcases List.append_inj' whole rfl with ⟨same, last⟩
    exact .inl ⟨rfl, (List.cons.inj last).1.symm, same.symm⟩
  · have shifted : trace ++ [t] = (before ++ u :: front) ++ [last] := by simpa using whole
    rcases List.append_inj' shifted rfl with ⟨same, last⟩
    exact .inr ⟨front, by rw [(List.cons.inj last).1, List.concat_eq_append], same⟩

theorem Answered.quiet (answered : Answered asks answers trace) (silent : ¬ asks t) : Answered asks answers (trace ++ [t]) := by
  intro before u after whole asked
  rcases split_last whole with ⟨_, rfl, _⟩ | ⟨front, rfl, inner⟩
  · exact absurd asked silent
  · rcases answered before u front inner asked with ⟨v, member, answer⟩
    exact ⟨v, List.mem_append_left _ member, answer⟩

theorem answered_last (answer : answers t) (silent : ¬ asks t) : Answered asks answers (trace ++ [t]) := by
  intro before u after whole asked
  rcases split_last whole with ⟨_, rfl, _⟩ | ⟨front, rfl, _⟩
  · exact absurd asked silent
  · exact ⟨t, List.mem_append_right _ (List.mem_singleton_self t), answer⟩

end

/-- A step with this output, after which no output has been seen. -/
def LastOutput (silent output : ο) (later : List (Transition σ ι ο) → Prop) (trace : List (Transition σ ι ο)) : Prop :=
  ∃ before t after, trace = before ++ t :: after ∧ t.output = output ∧ (∀ u ∈ after, u.output = silent) ∧ later after

section

variable {silent output : ο} {later next : List (Transition σ ι ο) → Prop}

theorem lastOutput_of (same : t.output = output) (holds : later []) : LastOutput silent output later (trace ++ [t]) :=
  ⟨trace, t, [], rfl, same, fun _ member => (List.not_mem_nil member).elim, holds⟩

theorem LastOutput.snoc (last : LastOutput silent output later trace) (quiet : t.output = silent)
    (keeps : ∀ after, later after → next (after ++ [t])) : LastOutput silent output next (trace ++ [t]) := by
  rcases last with ⟨before, u, after, rfl, same, none, holds⟩
  refine ⟨before, u, after ++ [t], by simp, same, ?_, keeps after holds⟩
  intro v member
  rcases List.mem_append.mp member with member | member
  · exact none v member
  · rw [List.mem_singleton.mp member]
    exact quiet

theorem LastOutput.mono (last : LastOutput silent output later trace) (weaker : ∀ after, later after → next after) :
    LastOutput silent output next trace := by
  rcases last with ⟨before, t, after, whole, same, none, holds⟩
  exact ⟨before, t, after, whole, same, none, weaker after holds⟩

end

/-- Where no step decreases a measure, it orders the steps of a run. -/
theorem Run.ordered {step : σ → ι → Option (σ × ο)} {initial state : σ} {P : σ → Prop} {measure : σ → Nat} (begins : P initial)
    (keeps : ∀ state input output after, P state → step state input = some (after, output) →
      P after ∧ measure state ≤ measure after)
    (run : Run step initial trace state) :
    P state ∧ trace.Pairwise (fun t u => measure t.after ≤ measure u.before) ∧ ∀ t ∈ trace, measure t.after ≤ measure state := by
  induction run with
  | start => exact ⟨begins, .nil, fun _ member => by cases member⟩
  | @next trace state after input output run taken ih =>
    rcases ih with ⟨holds, ordered, below⟩
    rcases keeps state input output after holds taken with ⟨kept, larger⟩
    refine ⟨kept, ?_, ?_⟩
    · rw [List.pairwise_append]
      refine ⟨ordered, List.pairwise_singleton _ _, fun t member u last => ?_⟩
      rw [List.mem_singleton.mp last]
      exact below t member
    · intro t member
      rcases List.mem_append.mp member with member | member
      · exact Nat.le_trans (below t member) larger
      · cases List.mem_singleton.mp member
        exact Nat.le_refl _

/-- What a step brings about, and every step keeps, holds to the end. -/
theorem Run.lasting {step : σ → ι → Option (σ × ο)} {initial state : σ} {P : σ → Prop} {earlier later : List (Transition σ ι ο)}
    (keeps : ∀ state input output after, P state → step state input = some (after, output) → P after)
    (run : Run step initial (earlier ++ t :: later) state) (reached : P t.after) : P state := by
  generalize whole : earlier ++ t :: later = trace at run
  induction run generalizing later with
  | start => simp at whole
  | @next trace state after input output run taken ih =>
    rcases split_last whole.symm with ⟨_, rfl, _⟩ | ⟨front, _, inner⟩
    · exact reached
    · exact keeps _ _ _ _ (ih inner.symm) taken

/-- These inputs lead a machine that has begun to a run that passes a test. -/
def reaches {ε : Type} (step : σ → ι → Option (σ × ο)) (begun : Except ε σ) (inputs : List ι)
    (test : List (Transition σ ι ο) → σ → Bool) : Bool :=
  match begun with
  | .error _ => false
  | .ok initial => (follow step initial inputs).any fun run => test run.1 run.2

theorem reaches_run {ε : Type} {step : σ → ι → Option (σ × ο)} {begun : Except ε σ} {inputs : List ι}
    {test : List (Transition σ ι ο) → σ → Bool} (reached : reaches step begun inputs test = true) :
    ∃ initial trace final, begun = .ok initial ∧ Run step initial trace final ∧ test trace final = true := by
  unfold reaches at reached
  split at reached
  · cases reached
  · rename_i initial
    rw [Option.any_eq_true] at reached
    rcases reached with ⟨⟨trace, final⟩, followed, passed⟩
    exact ⟨initial, trace, final, rfl, Run.start.follow followed, passed⟩

namespace Race

variable {ε ρ : Type}

/-- How far a race has come. -/
def stage (race : Race ε ρ) : Nat := if race.winner.isSome then 2 else if race.begun then 1 else 0

theorem stage_le (race : Race ε ρ) : race.stage ≤ 2 := by
  unfold stage
  split
  · omega
  · split <;> omega

theorem stage_won {race : Race ε ρ} {winner : Winner ε ρ} (won : race.winner = some winner) : race.stage = 2 := by
  simp [stage, won]

theorem stage_open {race : Race ε ρ} (undecided : race.winner = none) : race.stage ≤ 1 := by
  simp only [stage, undecided, Option.isSome_none, Bool.false_eq_true, if_false]
  split <;> omega

theorem stage_abort {race : Race ε ρ} : race.stage ≤ race.abort.stage := by
  have past : race.abort.winner.isSome = true := by
    unfold Race.abort
    cases race.winner <;> rfl
  have last : race.abort.stage = 2 := if_pos past
  rw [last]
  exact stage_le race

theorem stage_step {refusal : ε} {race next : Race ε ρ} {event : Event ε ρ} {calls : Bool}
    (taken : race.step refusal event = some (next, calls)) : race.stage ≤ next.stage := by
  rcases step_cases taken with ⟨_, waiting, _, _, rfl⟩ | ⟨_, waiting, _, _, rfl⟩ | ⟨_, _, _, _, rfl⟩ |
    ⟨_, _, _, undecided, _, rfl⟩ | ⟨_, _, undecided, _, rfl⟩
  · simp only [stage, waiting]
    split <;> simp
  · simp only [stage, waiting]
    split <;> simp
  · exact Nat.le_refl _
  · exact stage_le race
  · exact stage_le race

/-- A call is the first thing that a race does. -/
theorem stage_call {refusal : ε} {race next : Race ε ρ} {event : Event ε ρ} (sound : race.Sound)
    (taken : race.step refusal event = some (next, true)) : race.stage = 0 ∧ next.stage = 1 := by
  rcases step_cases taken with ⟨_, _, _, quiet, _⟩ | ⟨_, waiting, running, _, rfl⟩ | ⟨_, _, _, quiet, _⟩ |
    ⟨_, _, _, _, quiet, _⟩ | ⟨_, _, _, quiet, _⟩
  · cases quiet
  · have undecided := sound.undecided waiting running
    simp [stage, undecided, waiting]
  · cases quiet
  · cases quiet
  · cases quiet

theorem stage_deliver {refusal : ε} {race next : Race ε ρ} {calls : Bool}
    (taken : race.step refusal .deliver = some (next, calls)) : race.stage ≤ 1 ∧ next.stage = 2 := by
  rcases step_cases taken with ⟨other, _⟩ | ⟨other, _⟩ | ⟨_, other, _⟩ | ⟨_, _, _, undecided, _, rfl⟩ | ⟨other, _⟩
  · cases other
  · cases other
  · cases other
  · exact ⟨stage_open undecided, rfl⟩
  · cases other

/-- What a history tells of a race: its call, the value that the call returned, and that this value was awaited. -/
structure Told (called : Prop) (returned awaited : ρ → Prop) (race : Race ε ρ) : Prop where
  called : race.called = true → called
  returned : ∀ value, race.settled = some (.ok value) → returned value
  awaited : ∀ value, race.winner = some (.call (.ok value)) → awaited value

variable {called called' : Prop} {returned returned' awaited awaited' : ρ → Prop}

theorem start_told : Told called returned awaited (start : Race ε ρ) where
  called made := by cases made
  returned _ settled := by cases settled
  awaited _ won := by cases won

theorem Told.mono {race : Race ε ρ} (told : Told called returned awaited race) (c : called → called')
    (r : ∀ value, returned value → returned' value) (a : ∀ value, awaited value → awaited' value) :
    Told called' returned' awaited' race where
  called made := c (told.called made)
  returned value settled := r value (told.returned value settled)
  awaited value won := a value (told.awaited value won)

theorem Told.abort {race : Race ε ρ} (told : Told called returned awaited race) : Told called returned awaited race.abort where
  called := told.called
  returned := told.returned
  awaited value won := by
    apply told.awaited value
    unfold Race.abort at won
    cases found : race.winner with
    | none =>
      rw [found] at won
      cases won
    | some winner =>
      rw [found] at won
      exact won

/-- What a history has to tell after an event. -/
theorem Told.step {refusal : ε} {race after : Race ε ρ} {event : Event ε ρ} {calls : Bool}
    (told : Told called returned awaited race) (stepped : race.step refusal event = some (after, calls))
    (call : calls = true → called) (settle : ∀ value, event = .settle (.ok value) → race.called = true → returned value)
    (deliver : ∀ value, event = .deliver → race.settled = some (.ok value) → race.winner = none → awaited value) :
    Told called returned awaited after := by
  rcases step_cases stepped with ⟨_, _, _, _, rfl⟩ | ⟨_, _, _, rfl, rfl⟩ | ⟨result, event, pending, _, rfl⟩ |
    ⟨result, event, settled, none, _, rfl⟩ | ⟨_, _, _, _, rfl⟩
  · exact ⟨told.called, fun _ settled => (by cases settled), told.awaited⟩
  · exact ⟨fun _ => call rfl, told.returned, told.awaited⟩
  · rw [Race.pending, Bool.and_eq_true] at pending
    refine ⟨told.called, fun value settled => ?_, told.awaited⟩
    cases settled
    exact settle value event pending.1
  · refine ⟨told.called, told.returned, fun value won => ?_⟩
    cases won
    exact deliver value event settled none
  · exact ⟨told.called, told.returned, fun _ won => by cases won⟩

/-- Nothing has gone wrong with a call, as far as it has come. -/
structure Fine (good : ρ → Prop) (race : Race ε ρ) : Prop where
  inTime : race.winner ≠ some .timer
  returned : ∀ failure, race.settled ≠ some (.error failure)
  good : ∀ value, race.settled = some (.ok value) → good value

/-- The timer, a failure, or a value that is not good. -/
inductive Event.Spoils (good : ρ → Prop) : Event ε ρ → Prop
  | timedOut : Spoils good .timer
  | threw (failure : ε) : Spoils good (.settle (.error failure))
  | bad {value : ρ} (bad : ¬ good value) : Spoils good (.settle (.ok value))

variable {good : ρ → Prop}

theorem Fine.start {race : Race ε ρ} (undecided : race.winner = none) (unsettled : race.settled = none) : Fine good race where
  inTime timer := by
    rw [undecided] at timer
    cases timer
  returned failure same := by
    rw [unsettled] at same
    cases same
  good value same := by
    rw [unsettled] at same
    cases same

/-- Where nothing has gone wrong after an event, nothing had before it, and the event is none of the bad ones. -/
theorem Fine.before {refusal : ε} {race next : Race ε ρ} {event : Event ε ρ} {calls : Bool}
    (fine : Fine good next) (taken : race.step refusal event = some (next, calls)) : Fine good race ∧ ¬ event.Spoils good := by
  rcases step_cases taken with ⟨rfl, _, _, _, rfl⟩ | ⟨rfl, _, _, _, rfl⟩ | ⟨result, rfl, pending, _, rfl⟩ |
    ⟨result, rfl, _, none, _, rfl⟩ | ⟨rfl, _, _, _, rfl⟩
  · exact absurd rfl (fine.returned refusal)
  · refine ⟨⟨fine.inTime, fine.returned, fine.good⟩, fun spoils => ?_⟩
    cases spoils
  · rw [Race.pending, Bool.and_eq_true, Option.isNone_iff_eq_none] at pending
    refine ⟨⟨fine.inTime, fun _ same => ?_, fun _ same => ?_⟩, fun spoils => ?_⟩
    · rw [pending.2] at same
      cases same
    · rw [pending.2] at same
      cases same
    · cases spoils with
      | threw failure => exact fine.returned failure rfl
      | bad bad => exact bad (fine.good _ rfl)
  · refine ⟨⟨fun timer => ?_, fine.returned, fine.good⟩, fun spoils => ?_⟩
    · rw [none] at timer
      cases timer
    · cases spoils
  · exact absurd rfl fine.inTime

/-- What won the race was good. -/
theorem Fine.of_won {race : Race ε ρ} {value : ρ} (sound : race.Sound) (won : race.winner = some (.call (.ok value)))
    (holds : good value) : Fine good race where
  inTime timer := by
    rw [won] at timer
    cases timer
  returned failure same := by
    rw [sound.won _ won] at same
    cases same
  good other same := by
    rw [sound.won _ won] at same
    cases same
    exact holds

end Race

end Machine
