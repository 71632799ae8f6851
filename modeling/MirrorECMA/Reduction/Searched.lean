import MirrorECMA.Reduction.Order

namespace Mirror.Reduction

open ECMA Machine
open Mirror.Reproduction (Checked Platform ReplayStatus ReproductionReplayResult replayCleanup)

section

variable {α : Type} [NumberText] {now : Nat → Rat} {trace more : Trace α} {s after : Reducing α} {bundle : Json}
  {tried : List α}

/-! ### What a history tells of a candidate -/

section

variable {ρ : Type} {phase : Race Unit ρ → Phase} {input : Race.Event Unit ρ → Input} {call : List α → Output α} {value : ρ}

/-- A callback has returned a value for a candidate. -/
def Returned (phase : Race Unit ρ → Phase) (input : Race.Event Unit ρ → Input) (trace : Trace α) (tried : List α) (value : ρ) : Prop :=
  ∃ t ∈ trace, t.input = input (.settle (.ok value)) ∧ candidate t.before = tried ∧ ∃ race, t.before.phase = phase race

/-- The value is awaited before the timer and before an abort. -/
def InTime (phase : Race Unit ρ → Phase) (input : Race.Event Unit ρ → Input) (trace : Trace α) (tried : List α) (value : ρ) : Prop :=
  ∃ t ∈ trace, t.input = input .deliver ∧ candidate t.before = tried ∧
    ∃ race, t.before.phase = phase race ∧ race.settled = some (.ok value) ∧ race.winner = none

structure Answered (phase : Race Unit ρ → Phase) (input : Race.Event Unit ρ → Input) (call : List α → Output α) (trace : Trace α)
    (tried : List α) (value : ρ) : Prop where
  called : ∃ t ∈ trace, t.output = call tried
  returned : Returned phase input trace tried value
  inTime : InTime phase input trace tried value

omit [NumberText] in
theorem Answered.append (answered : Answered phase input call trace tried value) :
    Answered phase input call (trace ++ more) tried value := by
  rcases answered.called with ⟨t, called, asks⟩
  rcases answered.returned with ⟨u, returned, settles⟩
  rcases answered.inTime with ⟨v, inTime, delivers⟩
  exact ⟨⟨t, List.mem_append_left _ called, asks⟩, ⟨u, List.mem_append_left _ returned, settles⟩,
    ⟨v, List.mem_append_left _ inTime, delivers⟩⟩

/-- What the history of a candidate tells of the race in progress. -/
abbrev TheRace (phase : Race Unit ρ → Phase) (input : Race.Event Unit ρ → Input) (call : List α → Output α) (trace : Trace α)
    (tried : List α) (race : Race Unit ρ) : Prop :=
  race.Told (∃ t ∈ trace, t.output = call tried) (Returned phase input trace tried) (InTime phase input trace tried)

omit [NumberText] in
theorem TheRace.append {race : Race Unit ρ} (told : TheRace phase input call trace tried race) :
    TheRace phase input call (trace ++ more) tried race := by
  apply Race.Told.mono told
  · intro called
    rcases called with ⟨t, member, asks⟩
    exact ⟨t, List.mem_append_left _ member, asks⟩
  · intro value returned
    rcases returned with ⟨t, member, settles⟩
    exact ⟨t, List.mem_append_left _ member, settles⟩
  · intro value inTime
    rcases inTime with ⟨t, member, delivers⟩
    exact ⟨t, List.mem_append_left _ member, delivers⟩

omit [NumberText] in
theorem TheRace.event {race next : Race Unit ρ} {event : Race.Event Unit ρ} {calls : Bool}
    (told : TheRace phase input call trace (candidate s) race) (current : s.phase = phase race)
    (taken : race.step () event = some (next, calls)) :
    TheRace phase input call (trace ++ [⟨s, input event, if calls then call (candidate s) else .silent, after⟩]) (candidate s)
      next := by
  apply Race.Told.step (told.append) taken
  · intro asks
    exact ⟨_, List.mem_append_right _ (List.mem_singleton_self _), if_pos asks⟩
  · intro value settle _
    exact ⟨_, List.mem_append_right _ (List.mem_singleton_self _), congrArg input settle, rfl, race, current⟩
  · intro value deliver settled none
    exact ⟨_, List.mem_append_right _ (List.mem_singleton_self _), congrArg input deliver, rfl, race, current, settled, none⟩

omit [NumberText] in
theorem TheRace.won {race : Race Unit ρ} (told : TheRace phase input call trace tried race) (sound : race.Sound)
    (won : race.winner = some (.call (.ok value))) : Answered phase input call trace tried value := by
  have settled := sound.won _ won
  exact ⟨told.called (sound.called _ settled), told.returned _ settled, told.awaited _ won⟩

end

abbrev Validated (trace : Trace α) : List α → CandidateValidation → Prop := Answered .validating .validation .validate trace

abbrev Evaluated (trace : Trace α) : List α → ReproductionReplayResult → Prop := Answered .evaluating .evaluation .evaluate trace

def Valid (trace : Trace α) (tried : List α) : Prop := ∃ validation, Validated trace tried validation ∧ validation.valid = true

def Invalid (trace : Trace α) (tried : List α) : Prop := ∃ validation, Validated trace tried validation ∧ validation.valid = false

/-- The candidate was valid, and its evaluation is one of this bundle that ended cleanly with this status. -/
structure Concluded (trace : Trace α) (bundle : Json) (tried : List α) (status : ReplayStatus) : Prop where
  valid : Valid trace tried
  shown : ∃ replay, Evaluated trace tried replay ∧ stale bundle replay = false ∧ replayCleanup replay = .succeeded ∧
    replay.status = status

omit [NumberText] in
theorem Valid.append (valid : Valid trace tried) : Valid (trace ++ more) tried := by
  rcases valid with ⟨validation, answered, holds⟩
  exact ⟨validation, answered.append, holds⟩

omit [NumberText] in
theorem Invalid.append (invalid : Invalid trace tried) : Invalid (trace ++ more) tried := by
  rcases invalid with ⟨validation, answered, holds⟩
  exact ⟨validation, answered.append, holds⟩

theorem Concluded.append {status : ReplayStatus} (concluded : Concluded trace bundle tried status) :
    Concluded (trace ++ more) bundle tried status := by
  rcases concluded.shown with ⟨replay, answered, shown⟩
  exact ⟨concluded.valid.append, replay, answered.append, shown⟩

/-! ### What has been searched -/

/-- The candidates above the length in progress. -/
structure Searched (trace : Trace α) (s : Reducing α) : Prop where
  best : ∀ b, s.best = some b → s.length < b ∧ b ≤ s.steps.length ∧ Concluded trace s.bundle (s.steps.take b) .reproduced
  others : ∀ n, s.length < n → n ≤ s.steps.length → (∀ b, s.best = some b → n < b) →
    Concluded trace s.bundle (s.steps.take n) .notReproduced ∨
      (Invalid trace (s.steps.take n) ∧ ∃ c ∈ s.candidates, c.validity = .invalid ∧ c.prefixLength = n)

theorem Searched.append (searched : Searched trace s) : Searched (trace ++ more) s where
  best b same := by
    rcases searched.best b same with ⟨above, within, concluded⟩
    exact ⟨above, within, concluded.append⟩
  others n above within below := by
    rcases searched.others n above within below with concluded | ⟨invalid, listed⟩
    · exact .inl concluded.append
    · exact .inr ⟨invalid.append, listed⟩

theorem Searched.moved {phase : Phase} (searched : Searched trace s) : Searched trace { s with phase := phase } :=
  ⟨searched.best, searched.others⟩

/-- The search has ended before it was complete, and no minimality is claimed. -/
def Early (s : Reducing α) : Prop :=
  ∃ result, s.phase = .finished (.ok result) ∧ result.stopReason ≠ .complete ∧ result.claim ≠ .shortestReproducingPrefix ∧
    result.minimalityComplete = false

/-- What holds in every state of a run. -/
def Reduced (trace : Trace α) (s : Reducing α) : Prop :=
  match s.phase with
  | .validating race => Searched trace s ∧ TheRace .validating .validation .validate trace (candidate s) race
  | .evaluating race =>
    Searched trace s ∧ Valid trace (candidate s) ∧ TheRace .evaluating .evaluation .evaluate trace (candidate s) race
  | .cleaning _ _ => True
  | .finished _ => Early s ∨ (s.length = 0 ∧ Searched trace s ∧ s.phase = (complete s).phase)

omit [NumberText] in
theorem Stopped.early (ended : Stopped s after) : Early after ∧ ∃ outcome, after.phase = .finished outcome := by
  rcases ended with ⟨reason, other, early, _, rfl⟩
  refine ⟨⟨_, rfl, early, ?_, rfl⟩, _, rfl⟩
  show (if other.best = none then ReductionClaim.notReduced else .smallestObservedReproducingPrefix) ≠ _
  split <;> decide

theorem Stopped.reduced (ended : Stopped s after) : Reduced trace after := by
  rcases ended.early with ⟨early, outcome, finished⟩
  unfold Reduced
  rw [finished]
  exact .inl early

theorem Tried.reduced (tried : Tried now s after) (searched : Searched trace s) : Reduced trace after := by
  cases tried with
  | stopped ended => exact ended.reduced
  | complete last => exact .inr ⟨last, ⟨searched.best, searched.others⟩, rfl⟩
  | validating left open_ => exact ⟨⟨searched.best, searched.others⟩, Race.start_told⟩

/-- A candidate that is invalid is behind the search. -/
theorem Searched.invalid {code : Option JsString} (searched : Searched trace s) (invalid : Invalid trace (candidate s)) :
    Searched trace (turnTo (s.length - 1) (push now .invalid .notRun code s)) := by
  refine ⟨fun b same => ?_, fun n above within below => ?_⟩
  · rcases searched.best b same with ⟨higher, rest⟩
    refine ⟨?_, rest⟩
    show s.length - 1 < b
    omega
  · have lower : s.length - 1 < n := above
    by_cases here : n = s.length
    · subst here
      exact .inr ⟨invalid, _, List.mem_append_right _ (List.mem_singleton_self _), rfl, rfl⟩
    · rcases searched.others n (by omega) within below with concluded | ⟨other, c, listed, shown⟩
      · exact .inl concluded
      · exact .inr ⟨other, c, List.mem_append_left _ listed, shown⟩

theorem Searched.concluded {status : ReplayStatus} (searched : Searched trace s) (within : Within s)
    (concluded : Concluded trace s.bundle (candidate s) status) :
    Searched trace (turnTo (s.length - 1) (Reduction.concluded now status s)) := by
  have positive := within.positive
  cases status with
  | reproduced =>
    refine ⟨fun b same => ?_, fun n above _ below => ?_⟩
    · cases same
      refine ⟨?_, within.bounded, concluded⟩
      show s.length - 1 < s.length
      omega
    · have lower : s.length - 1 < n := above
      have smaller : n < s.length := below s.length rfl
      omega
  | notReproduced =>
    refine ⟨fun b same => ?_, fun n above bounded below => ?_⟩
    · rcases searched.best b same with ⟨higher, rest⟩
      refine ⟨?_, rest⟩
      show s.length - 1 < b
      omega
    · have lower : s.length - 1 < n := above
      by_cases here : n = s.length
      · subst here
        exact .inl concluded
      · rcases searched.others n (by omega) bounded below with concluded | ⟨other, c, listed, shown⟩
        · exact .inl concluded
        · exact .inr ⟨other, c, List.mem_append_left _ listed, shown⟩

theorem resume_reduced (proper : Proper s) (reduced : Reduced trace s) (resumed : resume now s = some after) :
    Reduced trace after := by
  cases resume_cases resumed with
  | stopped ended => exact ended.reduced
  | valid phase won valid open_ =>
    simp only [Proper, phase] at proper
    simp only [Reduced, phase] at reduced
    exact ⟨⟨reduced.1.best, reduced.1.others⟩, ⟨_, reduced.2.won proper.2.1 won, valid⟩, Race.start_told⟩
  | invalid phase won invalid =>
    simp only [Proper, phase] at proper
    simp only [Reduced, phase] at reduced
    exact tryLength_cases.reduced (reduced.1.invalid ⟨_, reduced.2.won proper.2.1 won, invalid⟩)
  | @concluded race replay phase won fresh clean =>
    simp only [Proper, phase] at proper
    simp only [Reduced, phase] at reduced
    have searched : Searched trace (turnTo (s.length - 1) (Reduction.concluded now replay.status s)) :=
      reduced.1.concluded proper.1 ⟨reduced.2.1, replay, reduced.2.2.won proper.2.1 won, fresh, clean, rfl⟩
    unfold goOn
    rw [concluded_place.2]
    exact tryLength_cases.reduced searched
  | cleaning cancelled phase won => exact True.intro

theorem Reduced.append (reduced : Reduced trace s) : Reduced (trace ++ more) s := by
  unfold Reduced at *
  cases phase : s.phase with
  | validating race =>
    simp only [phase] at reduced ⊢
    exact ⟨reduced.1.append, reduced.2.append⟩
  | evaluating race =>
    simp only [phase] at reduced ⊢
    exact ⟨reduced.1.append, reduced.2.1.append, reduced.2.2.append⟩
  | cleaning cancelled race => trivial
  | finished outcome =>
    simp only [phase] at reduced ⊢
    rcases reduced with early | ⟨last, searched, same⟩
    · exact .inl early
    · exact .inr ⟨last, searched.append, same⟩

theorem Reduced.aborted (reduced : Reduced trace s) : Reduced trace { s with aborted := true, phase := s.phase.abort } := by
  unfold Reduced at *
  cases phase : s.phase with
  | validating race =>
    simp only [phase, Phase.abort] at reduced ⊢
    exact ⟨⟨reduced.1.best, reduced.1.others⟩, reduced.2.abort⟩
  | evaluating race =>
    simp only [phase, Phase.abort] at reduced ⊢
    exact ⟨⟨reduced.1.best, reduced.1.others⟩, reduced.2.1, reduced.2.2.abort⟩
  | cleaning cancelled race => trivial
  | finished outcome =>
    simp only [phase, Phase.abort] at reduced ⊢
    rcases reduced with ⟨result, finished, shown⟩ | ⟨last, searched, same⟩
    · exact .inl ⟨result, phase.symm.trans finished, shown⟩
    · exact .inr ⟨last, ⟨searched.best, searched.others⟩, same⟩

theorem Reduced.step {input : Input} {output : Output α} (proper : Proper s) (reduced : Reduced trace s)
    (stepped : step now s input = some (after, output)) : Reduced (trace ++ [⟨s, input, output, after⟩]) after := by
  cases step_cases stepped with
  | abort first => exact reduced.append.aborted
  | validation phase taken =>
    simp only [Reduced, phase] at reduced
    exact ⟨reduced.1.append.moved, reduced.2.event phase taken⟩
  | evaluation phase taken =>
    simp only [Reduced, phase] at reduced
    exact ⟨reduced.1.append.moved, reduced.2.1.append, reduced.2.2.event phase taken⟩
  | cleanup phase taken => exact True.intro
  | resume resumed => exact resume_reduced proper reduced.append resumed

end

end Mirror.Reduction
