import Mathlib.Data.List.Pairwise
import MirrorECMA.Machine.History
import MirrorECMA.Reduction.Reduce

namespace Mirror.Reduction

open ECMA Machine
open Mirror.Reproduction (ReplayStatus ReproductionReplayResult replayCleanup)

section

variable {α : Type} [NumberText] {now : Nat → Rat} {s after : Reducing α}

/-! ### Steps -/

/-- What a step does, by its input. -/
inductive Stepped (now : Nat → Rat) (s : Reducing α) : Input → Output α → Reducing α → Prop
  | abort (first : s.aborted = false) : Stepped now s .abort .silent { s with aborted := true, phase := s.phase.abort }
  | validation {race next : Race Unit CandidateValidation} {event : Race.Event Unit CandidateValidation} {calls : Bool}
    (phase : s.phase = .validating race) (taken : race.step () event = some (next, calls)) :
    Stepped now s (.validation event) (if calls then .validate (candidate s) else .silent) { s with phase := .validating next }
  | evaluation {race next : Race Unit ReproductionReplayResult} {event : Race.Event Unit ReproductionReplayResult} {calls : Bool}
    (phase : s.phase = .evaluating race) (taken : race.step () event = some (next, calls)) :
    Stepped now s (.evaluation event) (if calls then .evaluate (candidate s) else .silent) { s with phase := .evaluating next }
  | cleanup {cancelled : Bool} {race next : Race Unit ReproductionReplayResult}
    {event : Race.Event Unit ReproductionReplayResult} {calls : Bool} (phase : s.phase = .cleaning cancelled race)
    (taken : race.step () event = some (next, calls)) :
    Stepped now s (.evaluation event) (if calls then .evaluate (candidate s) else .silent)
      { s with phase := .cleaning cancelled next }
  | resume {after : Reducing α} (resumed : resume now s = some after) : Stepped now s .resume .silent after

theorem step_cases {input : Input} {output : Output α} (stepped : step now s input = some (after, output)) :
    Stepped now s input output after := by
  cases input with
  | abort =>
    simp only [step] at stepped
    split at stepped
    · cases stepped
    · rename_i first
      cases stepped
      exact .abort (Bool.eq_false_iff.mpr first)
  | validation event =>
    simp only [step] at stepped
    split at stepped
    · rename_i race phase
      rcases Option.map_eq_some_iff.mp stepped with ⟨⟨next, calls⟩, taken, same⟩
      cases same
      exact .validation phase taken
    · cases stepped
  | evaluation event =>
    simp only [step] at stepped
    split at stepped
    · rename_i race phase
      rcases Option.map_eq_some_iff.mp stepped with ⟨⟨next, calls⟩, taken, same⟩
      cases same
      exact .evaluation phase taken
    · rename_i cancelled race phase
      rcases Option.map_eq_some_iff.mp stepped with ⟨⟨next, calls⟩, taken, same⟩
      cases same
      exact .cleanup phase taken
    · cases stepped
  | resume =>
    rcases Option.map_eq_some_iff.mp stepped with ⟨next, resumed, same⟩
    cases same
    exact .resume resumed

/-! ### What the code between two awaits does -/

/-- What it leaves as it is. -/
structure Same (s after : Reducing α) : Prop where
  bundle : after.bundle = s.bundle
  steps : after.steps = s.steps
  aborted : after.aborted = s.aborted

omit [NumberText] in
theorem Same.trans {t : Reducing α} (first : Same s t) (second : Same t after) : Same s after where
  bundle := second.bundle.trans first.bundle
  steps := second.steps.trans first.steps
  aborted := second.aborted.trans first.aborted

/-- The search has ended before it was complete. -/
def Stopped (s after : Reducing α) : Prop :=
  ∃ reason other, reason ≠ .complete ∧ Same s other ∧ after = stop reason other

omit [NumberText] in
theorem stopped {reason : StopReason} {other : Reducing α} (early : reason ≠ .complete) (same : Same s other) :
    Stopped s (stop reason other) := ⟨reason, other, early, same, rfl⟩

omit [NumberText] in
theorem Stopped.of_same {t : Reducing α} (ended : Stopped t after) (same : Same s t) : Stopped s after := by
  rcases ended with ⟨reason, other, early, kept, rfl⟩
  exact stopped early (same.trans kept)

omit [NumberText] in
theorem unvalidated_stopped {cancelled : Bool} : Stopped s (unvalidated now cancelled s) := by
  apply stopped
  · cases cancelled <;> decide
  · exact ⟨rfl, rfl, rfl⟩

omit [NumberText] in
theorem fails_stopped {code : Option JsString} : Stopped s (fails now code s) := stopped (by decide) ⟨rfl, rfl, rfl⟩

omit [NumberText] in
theorem loseIndependence_stopped : Stopped s (loseIndependence now s) := stopped (by decide) ⟨rfl, rfl, rfl⟩

omit [NumberText] in
theorem unevaluated_stopped {cancelled : Bool} {replay : Option ReproductionReplayResult} :
    Stopped s (unevaluated now cancelled replay s) := by
  unfold unevaluated
  dsimp only
  split
  · apply stopped
    · cases cancelled <;> decide
    · exact ⟨rfl, rfl, rfl⟩
  · exact loseIndependence_stopped

/-- How the head of the loop leaves a reduction. -/
inductive Tried (now : Nat → Rat) (s : Reducing α) : Reducing α → Prop
  | stopped {after : Reducing α} (ended : Stopped s after) : Tried now s after
  | complete (last : s.length = 0) : Tried now s (complete s)
  | validating (left : s.length ≠ 0) (open_ : s.aborted = false) :
    Tried now s { tick (tick s) with started := now (s.reads + 1), phase := .validating .start }

omit [NumberText] in
theorem tryLength_cases : Tried now s (tryLength now s) := by
  unfold tryLength
  split
  · rename_i last
    exact .complete last
  · rename_i left
    split
    · exact .stopped (stopped (by decide) ⟨rfl, rfl, rfl⟩)
    · rename_i open_
      split
      · exact .stopped (stopped (by decide) ⟨rfl, rfl, rfl⟩)
      · split
        · exact .stopped (stopped (by decide) ⟨rfl, rfl, rfl⟩)
        · have begun : validateCandidate now { tick (tick s) with started := now (s.reads + 1) } =
              { tick (tick s) with started := now (s.reads + 1), phase := .validating .start } := if_neg open_
          rw [begun]
          exact .validating left (Bool.eq_false_iff.mpr open_)

omit [NumberText] in
theorem Stopped.same (ended : Stopped s after) : Same s after := by
  rcases ended with ⟨reason, other, _, same, rfl⟩
  exact same.trans ⟨rfl, rfl, rfl⟩

omit [NumberText] in
theorem Tried.same (tried : Tried now s after) : Same s after := by
  cases tried with
  | stopped ended => exact ended.same
  | complete last => exact ⟨rfl, rfl, rfl⟩
  | validating left open_ => exact ⟨rfl, rfl, rfl⟩

omit [NumberText] in
theorem goOn_same : Same s (goOn now s) := Same.trans (t := turnTo (s.length - 1) s) ⟨rfl, rfl, rfl⟩ tryLength_cases.same

/-- A candidate that is judged to have this status. -/
def concluded (now : Nat → Rat) (status : ReplayStatus) (s : Reducing α) : Reducing α :=
  let s := push now .valid (outcomeOf status) none s
  if status = .reproduced then { s with best := some s.length } else s

/-- How an await leaves a reduction. -/
inductive Resumed (now : Nat → Rat) (s : Reducing α) : Reducing α → Prop
  | stopped {after : Reducing α} (ended : Stopped s after) : Resumed now s after
  | valid {race : Race Unit CandidateValidation} {validation : CandidateValidation} (phase : s.phase = .validating race)
    (won : race.winner = some (.call (.ok validation))) (valid : validation.valid = true) (open_ : s.aborted = false) :
    Resumed now s { tick s with phase := .evaluating .start }
  | invalid {race : Race Unit CandidateValidation} {validation : CandidateValidation} (phase : s.phase = .validating race)
    (won : race.winner = some (.call (.ok validation))) (invalid : validation.valid = false) :
    Resumed now s (goOn now (push now .invalid .notRun (validation.code.filter fun code => !code.isEmpty) s))
  | concluded {race : Race Unit ReproductionReplayResult} {replay : ReproductionReplayResult} (phase : s.phase = .evaluating race)
    (won : race.winner = some (.call (.ok replay))) (fresh : stale s.bundle replay = false)
    (clean : replayCleanup replay = .succeeded) : Resumed now s (goOn now (concluded now replay.status s))
  | cleaning {race : Race Unit ReproductionReplayResult} {winner : Winner Unit ReproductionReplayResult} (cancelled : Bool)
    (phase : s.phase = .evaluating race) (won : race.winner = some winner) :
    Resumed now s { s with phase := .cleaning cancelled race.again }

omit [NumberText] in
theorem concluded_same {status : ReplayStatus} : Same s (concluded now status s) := by
  unfold concluded
  dsimp only
  split <;> exact ⟨rfl, rfl, rfl⟩

theorem resume_cases (resumed : resume now s = some after) : Resumed now s after := by
  unfold resume at resumed
  split at resumed
  · rename_i race phase
    rcases Option.map_eq_some_iff.mp resumed with ⟨winner, won, rfl⟩
    unfold validated
    split
    · rename_i validation
      split
      · rename_i valid
        split
        · exact .stopped (stopped (by decide) ⟨rfl, rfl, rfl⟩)
        · rename_i open_
          have begun : evaluateCandidate now (tick s) = { tick s with phase := .evaluating .start } := if_neg open_
          rw [begun]
          exact .valid phase won valid (Bool.eq_false_iff.mpr open_)
      · rename_i invalid
        exact .invalid phase won (Bool.eq_false_iff.mpr invalid)
    · exact .stopped fails_stopped
    · exact .stopped unvalidated_stopped
    · exact .stopped unvalidated_stopped
  · rename_i race phase
    rcases Option.map_eq_some_iff.mp resumed with ⟨winner, won, rfl⟩
    unfold evaluated
    split
    · rename_i replay
      unfold judgeReplay
      split
      · exact .stopped fails_stopped
      · rename_i fresh
        split
        · exact .stopped loseIndependence_stopped
        · rename_i clean
          exact .concluded phase won (Bool.eq_false_iff.mpr fresh) (not_not.mp clean)
    · exact .stopped fails_stopped
    · exact .cleaning false phase won
    · exact .cleaning true phase won
  · rename_i cancelled race phase
    rcases Option.map_eq_some_iff.mp resumed with ⟨winner, _, rfl⟩
    unfold settled
    split
    · exact .stopped unevaluated_stopped
    · exact .stopped unevaluated_stopped
  · cases resumed

/-! ### The order of the steps -/

/-- A length that is being tried. -/
structure Within (s : Reducing α) : Prop where
  positive : 1 ≤ s.length
  bounded : s.length ≤ s.steps.length

/-- What holds of the state by itself. -/
def Proper (s : Reducing α) : Prop :=
  match s.phase with
  | .validating race => Within s ∧ race.Sound ∧ race.stopped = s.aborted
  | .evaluating race => Within s ∧ race.Sound ∧ race.stopped = s.aborted
  | .cleaning _ race => Within s ∧ (race.begun = true ∨ race.stopped = true)
  | .finished _ => True

/-- How far a reduction has come. -/
def place (s : Reducing α) : Nat :=
  match s.phase with
  | .validating race => 8 * (s.steps.length - s.length) + race.stage
  | .evaluating race => 8 * (s.steps.length - s.length) + 3 + race.stage
  | .cleaning _ _ => 8 * (s.steps.length - s.length) + 6
  | .finished _ => 8 * (s.steps.length + 1)

omit [NumberText] in
theorem place_le : place s ≤ 8 * (s.steps.length + 1) := by
  unfold place
  split
  · rename_i race _
    have bound := race.stage_le
    omega
  · rename_i race _
    have bound := race.stage_le
    omega
  · omega
  · omega

omit [NumberText] in
theorem Stopped.proper (ended : Stopped s after) : Proper after ∧ place s ≤ place after := by
  rcases ended with ⟨reason, other, _, same, rfl⟩
  refine ⟨True.intro, ?_⟩
  have last : place (stop reason other) = 8 * (other.steps.length + 1) := rfl
  rw [last, same.steps]
  exact place_le

omit [NumberText] in
theorem Tried.proper (tried : Tried now s after) (bounded : s.length ≤ s.steps.length) :
    Proper after ∧ 8 * (s.steps.length - s.length) ≤ place after := by
  cases tried with
  | stopped ended =>
    refine ⟨ended.proper.1, ?_⟩
    rcases ended with ⟨reason, other, _, same, rfl⟩
    have last : place (stop reason other) = 8 * (other.steps.length + 1) := rfl
    rw [last, same.steps]
    omega
  | complete last =>
    refine ⟨True.intro, ?_⟩
    show _ ≤ 8 * (s.steps.length + 1)
    omega
  | validating left open_ =>
    refine ⟨⟨⟨?_, bounded⟩, Race.start_sound, open_.symm⟩, ?_⟩
    · show 1 ≤ s.length
      omega
    · show _ ≤ 8 * (s.steps.length - s.length) + 0
      omega

omit [NumberText] in
theorem goOn_proper (within : Within s) : Proper (goOn now s) ∧ 8 * (s.steps.length - s.length + 1) ≤ place (goOn now s) := by
  have positive := within.positive
  have bounded := within.bounded
  have lower : (turnTo (s.length - 1) s).length ≤ (turnTo (s.length - 1) s).steps.length := by
    show s.length - 1 ≤ s.steps.length
    omega
  rcases tryLength_cases.proper lower with ⟨proper, later⟩
  refine ⟨proper, Nat.le_trans ?_ later⟩
  show _ ≤ 8 * (s.steps.length - (s.length - 1))
  omega

theorem concluded_within {status : ReplayStatus} (within : Within s) : Within (concluded now status s) := by
  unfold concluded
  dsimp only
  split
  · exact ⟨within.positive, within.bounded⟩
  · exact ⟨within.positive, within.bounded⟩

theorem concluded_place {status : ReplayStatus} :
    (concluded now status s).steps = s.steps ∧ (concluded now status s).length = s.length := by
  unfold concluded
  dsimp only
  split <;> exact ⟨rfl, rfl⟩

theorem resume_proper (proper : Proper s) (resumed : resume now s = some after) : Proper after ∧ place s ≤ place after := by
  cases resume_cases resumed with
  | stopped ended => exact ended.proper
  | valid phase won valid open_ =>
    simp only [Proper, phase] at proper
    refine ⟨⟨⟨proper.1.positive, proper.1.bounded⟩, Race.start_sound, open_.symm⟩, ?_⟩
    have before : place s = 8 * (s.steps.length - s.length) + 2 := by
      simp only [place, phase, Race.stage_won won]
    rw [before]
    show _ ≤ 8 * (s.steps.length - s.length) + 3 + 0
    omega
  | invalid phase won invalid =>
    simp only [Proper, phase] at proper
    rcases goOn_proper (s := push now .invalid .notRun _ s) ⟨proper.1.positive, proper.1.bounded⟩ with ⟨kept, later⟩
    refine ⟨kept, Nat.le_trans ?_ later⟩
    have before : place s = 8 * (s.steps.length - s.length) + 2 := by
      simp only [place, phase, Race.stage_won won]
    rw [before]
    show _ ≤ 8 * (s.steps.length - s.length + 1)
    omega
  | concluded phase won fresh clean =>
    simp only [Proper, phase] at proper
    rcases goOn_proper (concluded_within proper.1) with ⟨kept, later⟩
    refine ⟨kept, Nat.le_trans ?_ later⟩
    have before : place s = 8 * (s.steps.length - s.length) + 3 + 2 := by
      simp only [place, phase, Race.stage_won won]
    rw [before, concluded_place.1, concluded_place.2]
    omega
  | cleaning cancelled phase won =>
    simp only [Proper, phase] at proper
    refine ⟨⟨⟨proper.1.positive, proper.1.bounded⟩, proper.2.1.past _ won⟩, ?_⟩
    have before : place s = 8 * (s.steps.length - s.length) + 3 + 2 := by
      simp only [place, phase, Race.stage_won won]
    rw [before]
    show _ ≤ 8 * (s.steps.length - s.length) + 6
    omega

theorem abort_proper (proper : Proper s) :
    Proper { s with aborted := true, phase := s.phase.abort } ∧ place s ≤ place { s with aborted := true, phase := s.phase.abort } := by
  unfold Proper at *
  unfold place
  cases phase : s.phase with
  | validating race =>
    simp only [phase, Phase.abort] at proper ⊢
    have later := race.stage_abort
    refine ⟨⟨⟨proper.1.positive, proper.1.bounded⟩, proper.2.1.abort, rfl⟩, ?_⟩
    omega
  | evaluating race =>
    simp only [phase, Phase.abort] at proper ⊢
    have later := race.stage_abort
    refine ⟨⟨⟨proper.1.positive, proper.1.bounded⟩, proper.2.1.abort, rfl⟩, ?_⟩
    omega
  | cleaning cancelled race =>
    simp only [phase, Phase.abort] at proper ⊢
    exact ⟨⟨⟨proper.1.positive, proper.1.bounded⟩, proper.2⟩, le_refl _⟩
  | finished outcome => exact ⟨True.intro, le_refl _⟩

theorem step_proper {input : Input} {output : Output α} (proper : Proper s) (stepped : step now s input = some (after, output)) :
    Proper after ∧ place s ≤ place after := by
  cases step_cases stepped with
  | abort first => exact abort_proper proper
  | @validation race next event calls phase taken =>
    simp only [Proper, phase] at proper
    have later := Race.stage_step taken
    have before : place s = 8 * (s.steps.length - s.length) + race.stage := by simp only [place, phase]
    refine ⟨⟨⟨proper.1.positive, proper.1.bounded⟩, proper.2.1.step taken, ?_⟩, ?_⟩
    · rw [Race.stopped_step taken]
      exact proper.2.2
    · rw [before]
      show _ ≤ 8 * (s.steps.length - s.length) + next.stage
      omega
  | @evaluation race next event calls phase taken =>
    simp only [Proper, phase] at proper
    have later := Race.stage_step taken
    have before : place s = 8 * (s.steps.length - s.length) + 3 + race.stage := by simp only [place, phase]
    refine ⟨⟨⟨proper.1.positive, proper.1.bounded⟩, proper.2.1.step taken, ?_⟩, ?_⟩
    · rw [Race.stopped_step taken]
      exact proper.2.2
    · rw [before]
      show _ ≤ 8 * (s.steps.length - s.length) + 3 + next.stage
      omega
  | @cleanup cancelled race next event calls phase taken =>
    simp only [Proper, phase] at proper
    have before : place s = 8 * (s.steps.length - s.length) + 6 := by simp only [place, phase]
    exact ⟨⟨⟨proper.1.positive, proper.1.bounded⟩, (Race.over_step proper.2 taken).2⟩, before.le⟩
  | resume resumed => exact resume_proper proper resumed

/-- The bundle and the steps of a run stay the same. -/
theorem step_same {input : Input} {output : Output α} (stepped : step now s input = some (after, output)) :
    after.bundle = s.bundle ∧ after.steps = s.steps := by
  cases step_cases stepped with
  | abort first => exact ⟨rfl, rfl⟩
  | validation phase taken => exact ⟨rfl, rfl⟩
  | evaluation phase taken => exact ⟨rfl, rfl⟩
  | cleanup phase taken => exact ⟨rfl, rfl⟩
  | resume resumed =>
    have same : Same s after := by
      cases resume_cases resumed with
      | stopped ended => exact ended.same
      | valid phase won valid open_ => exact ⟨rfl, rfl, rfl⟩
      | invalid phase won invalid => exact Same.trans (t := push now .invalid .notRun _ s) ⟨rfl, rfl, rfl⟩ goOn_same
      | concluded phase won fresh clean => exact concluded_same.trans goOn_same
      | cleaning cancelled phase won => exact ⟨rfl, rfl, rfl⟩
    exact ⟨same.bundle, same.steps⟩

/-! ### Calls and answers of a run -/

abbrev Trace (α : Type) := List (Transition (Reducing α) Input (Output α))

variable {trace : Trace α} {t u : Transition (Reducing α) Input (Output α)} {initial final : Reducing α}

theorem run_ordered (proper : Proper initial) (run : Run (step now) initial trace final) :
    Proper final ∧ trace.Pairwise (fun t u => place t.after ≤ place u.before) := by
  have ordered := run.ordered (P := Proper) proper fun _ _ _ _ proper taken => step_proper proper taken
  exact ⟨ordered.1, ordered.2.1⟩

/-- A step that comes at a stage of the candidate in progress, and leaves this stage. -/
def Marks (stage : Nat) (t : Transition (Reducing α) Input (Output α)) : Prop :=
  Within t.before ∧ t.after.steps = t.before.steps ∧ place t.before ≤ 8 * (t.before.steps.length - t.before.length) + stage ∧
    8 * (t.before.steps.length - t.before.length) + stage < place t.after

omit [NumberText] in
/-- Of two steps that mark the same stage, the later one is at a smaller length. -/
theorem Marks.descends {stage : Nat} (first : Marks stage t) (second : Marks stage u) (same : u.before.steps = t.before.steps)
    (ordered : place t.after ≤ place u.before) : u.before.length < t.before.length := by
  rcases first with ⟨within, _, _, left⟩
  rcases second with ⟨within', _, reached, _⟩
  have bounded := within.bounded
  have bounded' := within'.bounded
  rw [same] at reached bounded'
  omega

/-- What is known of a step of a run. -/
structure Taken (now : Nat → Rat) (t : Transition (Reducing α) Input (Output α)) : Prop where
  proper : Proper t.before
  taken : step now t.before t.input = some (t.after, t.output)

/-- A candidate is given to the validator first. -/
theorem validate_marks {called : List α} (taken : Taken now t) (output : t.output = .validate called) :
    Marks 0 t ∧ called = candidate t.before := by
  rcases taken with ⟨proper, taken⟩
  rcases t with ⟨before, input, out, after⟩
  simp only at proper taken output
  subst output
  generalize same : Output.validate called = out at taken
  cases step_cases taken with
  | abort first => cases same
  | @validation race next event calls phase moved =>
    cases calls with
    | false => cases same
    | true =>
      cases same
      simp only [Proper, phase] at proper
      rcases Race.stage_call proper.2.1 moved with ⟨first, second⟩
      refine ⟨⟨proper.1, rfl, ?_, ?_⟩, rfl⟩
      · simp only [place, phase, first, le_refl]
      · simp only [place, second]
        omega
  | @evaluation race next event calls phase moved => cases calls <;> cases same
  | @cleanup cancelled race next event calls phase moved => cases calls <;> cases same
  | resume resumed => cases same

theorem evaluate_marks {called : List α} (taken : Taken now t) (output : t.output = .evaluate called) :
    Marks 3 t ∧ called = candidate t.before ∧ ∃ race, t.before.phase = .evaluating race ∧ race.begun = false ∧ race.stopped = false := by
  rcases taken with ⟨proper, taken⟩
  rcases t with ⟨before, input, out, after⟩
  simp only at proper taken output
  subst output
  generalize same : Output.evaluate called = out at taken
  cases step_cases taken with
  | abort first => cases same
  | @validation race next event calls phase moved => cases calls <;> cases same
  | @evaluation race next event calls phase moved =>
    cases calls with
    | false => cases same
    | true =>
      cases same
      simp only [Proper, phase] at proper
      rcases Race.stage_call proper.2.1 moved with ⟨first, second⟩
      refine ⟨⟨proper.1, rfl, ?_, ?_⟩, rfl, race, phase, Race.call_waits moved⟩
      · simp only [place, phase, first]
        omega
      · simp only [place, second]
        omega
  | @cleanup cancelled race next event calls phase moved =>
    simp only [Proper, phase] at proper
    rw [(Race.over_step proper.2 moved).1] at same
    cases same
  | resume resumed => cases same

/-- A validation is awaited once. -/
theorem validated_marks (taken : Taken now t) (input : t.input = .validation .deliver) : Marks 1 t := by
  rcases taken with ⟨proper, taken⟩
  rcases t with ⟨before, _, out, after⟩
  simp only at proper taken input
  subst input
  generalize same : Input.validation .deliver = input at taken
  cases step_cases taken with
  | abort first => cases same
  | @validation race next event calls phase moved =>
    cases same
    simp only [Proper, phase] at proper
    rcases Race.stage_deliver moved with ⟨first, second⟩
    refine ⟨proper.1, rfl, ?_, ?_⟩
    · simp only [place, phase]
      omega
    · simp only [place, second]
      omega
  | evaluation phase moved => cases same
  | cleanup phase moved => cases same
  | resume resumed => cases same

theorem evaluated_marks {race : Race Unit ReproductionReplayResult} (taken : Taken now t) (input : t.input = .evaluation .deliver)
    (evaluating : t.before.phase = .evaluating race) : Marks 4 t := by
  rcases taken with ⟨proper, taken⟩
  rcases t with ⟨before, _, out, after⟩
  simp only at proper taken input evaluating
  subst input
  generalize same : Input.evaluation .deliver = input at taken
  cases step_cases taken with
  | abort first => cases same
  | validation phase moved => cases same
  | @evaluation race next event calls phase moved =>
    cases same
    simp only [Proper, phase] at proper
    rcases Race.stage_deliver moved with ⟨first, second⟩
    refine ⟨proper.1, rfl, ?_, ?_⟩
    · simp only [place, phase]
      omega
    · simp only [place, second]
      omega
  | cleanup phase moved =>
    rw [evaluating] at phase
    cases phase
  | resume resumed => cases same

/-- Two steps of a run that mark the same stage are the same one, or the later one is at a smaller length. -/
theorem run_taken (proper : Proper initial) (run : Run (step now) initial trace final) (member : t ∈ trace) :
    Taken now t ∧ t.before.steps = initial.steps ∧ t.before.bundle = initial.bundle := by
  rcases List.append_of_mem member with ⟨before, after, rfl⟩
  rcases run.split with ⟨run, taken⟩
  have same := run.invariant (P := fun _ state => state.bundle = initial.bundle ∧ state.steps = initial.steps) ⟨rfl, rfl⟩
    fun _ _ _ _ _ kept taken => ⟨(step_same taken).1.trans kept.1, (step_same taken).2.trans kept.2⟩
  exact ⟨⟨(run_ordered proper run).1, taken⟩, same.2, same.1⟩

theorem run_descends {stage : Nat} (proper : Proper initial) (run : Run (step now) initial trace final) :
    trace.Pairwise fun t u => Marks stage t → Marks stage u → u.before.length < t.before.length := by
  have ordered := (run_ordered proper run).2
  apply ordered.imp_of_mem
  intro t u first second later mark mark'
  have same := (run_taken proper run first).2.1
  have same' := (run_taken proper run second).2.1
  exact mark.descends mark' (same'.trans same.symm) later

theorem run_once {stage : Nat} (proper : Proper initial) (run : Run (step now) initial trace final) (first : t ∈ trace)
    (second : u ∈ trace) (mark : Marks stage t) (mark' : Marks stage u) (same : t.before.length = u.before.length) : t = u := by
  by_contra other
  let Apart (t u : Transition (Reducing α) Input (Output α)) : Prop :=
    Marks stage t → Marks stage u → t.before.length ≠ u.before.length
  have symmetric : Std.Symm Apart := ⟨fun _ _ apart mark mark' same => apart mark' mark same.symm⟩
  have apart : trace.Pairwise Apart := (run_descends proper run).imp fun descends mark mark' same => by
    have below := descends mark mark'
    omega
  exact apart.forall first second other mark mark' same

end

end Mirror.Reduction
