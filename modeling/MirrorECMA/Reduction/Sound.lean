import MirrorECMA.Reduction.Searched
import MirrorECMA.Reproduction.WellTyped

namespace Mirror.Reduction

open ECMA Machine
open Mirror.Reproduction (Platform ReplayStatus ReproductionReplayResult bundleOf object plainPlatform replayCleanup string)

section

variable {α : Type} [NumberText] {now : Nat → Rat} {trace : Trace α} {s after initial final : Reducing α} {bundle : Json}
  {tried : List α}

/-! ### Disturbances -/

abbrev Clean (replay : ReproductionReplayResult) : Prop := replayCleanup replay = .succeeded

/-- An abort, or an end of an evaluation after which the candidates are not independent. -/
inductive Spoils : Input → Prop
  | aborted : Spoils .abort
  | timedOut : Spoils (.evaluation .timer)
  | threw (failure : Unit) : Spoils (.evaluation (.settle (.error failure)))
  | unconfirmed {replay : ReproductionReplayResult} (left : ¬ Clean replay) : Spoils (.evaluation (.settle (.ok replay)))

def Undisturbed (trace : Trace α) : Prop := ∀ t ∈ trace, ¬ Spoils t.input

omit [NumberText] in
theorem Undisturbed.snoc {t : Transition (Reducing α) Input (Output α)} (undisturbed : Undisturbed trace)
    (fine : ¬ Spoils t.input) : Undisturbed (trace ++ [t]) := by
  intro u member
  rcases List.mem_append.mp member with member | member
  · exact undisturbed u member
  · rw [List.mem_singleton.mp member]
    exact fine

omit [NumberText] in
theorem spoils_evaluation {event : Race.Event Unit ReproductionReplayResult} (spoils : Spoils (.evaluation event)) :
    event.Spoils Clean := by
  cases spoils with
  | timedOut => exact .timedOut
  | threw failure => exact .threw failure
  | unconfirmed left => exact .bad left

/-- What holds in every state of a run. -/
def Guarded (trace : Trace α) (s : Reducing α) : Prop :=
  match s.phase with
  | .validating _ => s.aborted = false → Undisturbed trace
  | .evaluating race => s.aborted = false → race.Fine Clean → Undisturbed trace
  | .cleaning _ _ => True
  | .finished _ => True

omit [NumberText] in
theorem Tried.guarded (tried : Tried now s after) (undisturbed : s.aborted = false → Undisturbed trace) : Guarded trace after := by
  cases tried with
  | stopped ended =>
    rcases ended.early.2 with ⟨outcome, finished⟩
    unfold Guarded
    rw [finished]
    trivial
  | complete last => exact True.intro
  | validating left open_ => exact undisturbed

theorem resume_guarded (proper : Proper s) (guarded : Guarded trace s) (resumed : resume now s = some after) :
    Guarded trace after := by
  cases resume_cases resumed with
  | stopped ended =>
    rcases ended.early.2 with ⟨outcome, finished⟩
    unfold Guarded
    rw [finished]
    trivial
  | valid phase won valid open_ =>
    simp only [Guarded, phase] at guarded
    exact fun open_ _ => guarded open_
  | invalid phase won invalid =>
    simp only [Guarded, phase] at guarded
    exact tryLength_cases.guarded guarded
  | concluded phase won fresh clean =>
    simp only [Proper, phase] at proper
    simp only [Guarded, phase] at guarded
    apply tryLength_cases.guarded
    intro open_
    have same : s.aborted = false := by
      rw [← concluded_same.aborted]
      exact open_
    exact guarded same (.of_won proper.2.1 won clean)
  | cleaning cancelled phase won => exact True.intro

theorem Guarded.step {input : Input} {output : Output α} (proper : Proper s) (guarded : Guarded trace s)
    (stepped : step now s input = some (after, output)) : Guarded (trace ++ [⟨s, input, output, after⟩]) after := by
  cases step_cases stepped with
  | abort first =>
    unfold Guarded
    cases phase : s.phase with
    | validating race => exact fun open_ => by cases open_
    | evaluating race => exact fun open_ => by cases open_
    | cleaning cancelled race => trivial
    | finished outcome => trivial
  | validation phase taken =>
    simp only [Guarded, phase] at guarded
    intro open_
    apply (guarded open_).snoc
    intro spoils
    cases spoils
  | evaluation phase taken =>
    simp only [Guarded, phase] at guarded
    intro open_ fine
    rcases fine.before taken with ⟨before, harmless⟩
    apply (guarded open_ before).snoc
    intro spoils
    exact harmless (spoils_evaluation spoils)
  | cleanup phase taken => exact True.intro
  | resume resumed =>
    have quiet : Guarded (trace ++ [⟨s, .resume, .silent, after⟩]) s := by
      have harmless : ¬ Spoils Input.resume := by
        intro spoils
        cases spoils
      unfold Guarded at *
      cases phase : s.phase with
      | validating race =>
        simp only [phase] at guarded
        exact fun open_ => (guarded open_).snoc harmless
      | evaluating race =>
        simp only [phase] at guarded
        exact fun open_ fine => (guarded open_ fine).snoc harmless
      | cleaning cancelled race => trivial
      | finished outcome => trivial
    exact resume_guarded proper quiet resumed

/-! ### Runs -/

structure Invariant (trace : Trace α) (s : Reducing α) : Prop where
  proper : Proper s
  reduced : Reduced trace s
  guarded : Guarded trace s

theorem tryLength_invariant (fresh : s.best = none) (whole : s.length = s.steps.length) : Invariant [] (tryLength now s) where
  proper := (tryLength_cases.proper whole.le).1
  reduced := by
    apply tryLength_cases.reduced
    refine ⟨fun b same => ?_, fun n above within _ => ?_⟩
    · rw [fresh] at same
      cases same
    · omega
  guarded := tryLength_cases.guarded fun _ _ member => by cases member

theorem Invariant.step {input : Input} {output : Output α} (invariant : Invariant trace s)
    (stepped : step now s input = some (after, output)) : Invariant (trace ++ [⟨s, input, output, after⟩]) after where
  proper := (step_proper invariant.proper stepped).1
  reduced := invariant.reduced.step invariant.proper stepped
  guarded := invariant.guarded.step invariant.proper stepped

/-! ### Answers are unique -/

omit [NumberText] in
/-- The length of a candidate. -/
theorem candidate_length (within : Within s) : (candidate s).length = s.length := by
  rw [candidate, List.length_take]
  exact Nat.min_eq_left within.bounded

theorem answered_unique {ρ : Type} {phase : Race Unit ρ → Phase} {input : Race.Event Unit ρ → Input} {call : List α → Output α}
    {stage : Nat} {first second : ρ} (proper : Proper initial) (run : Run (step now) initial trace final)
    (injective : ∀ race other, phase race = phase other → race = other)
    (marks : ∀ t ∈ trace, ∀ race, t.input = input .deliver → t.before.phase = phase race → Marks stage t)
    (one : Answered phase input call trace tried first) (other : Answered phase input call trace tried second) :
    first = second := by
  rcases one.inTime with ⟨t, member, delivers, same, race, current, settled, _⟩
  rcases other.inTime with ⟨u, member', delivers', same', race', current', settled', _⟩
  have mark := marks t member race delivers current
  have mark' := marks u member' race' delivers' current'
  have length : t.before.length = u.before.length := by
    rw [← candidate_length mark.1, ← candidate_length mark'.1, same, same']
  cases run_once proper run member member' mark mark' length
  cases injective race race' (current.symm.trans current')
  cases settled.symm.trans settled'
  rfl

theorem validated_unique (proper : Proper initial) (run : Run (step now) initial trace final)
    {first second : CandidateValidation} (one : Validated trace tried first) (other : Validated trace tried second) :
    first = second := by
  have marks (t) (member : t ∈ trace) (race) (delivers : t.input = .validation .deliver) (_ : t.before.phase = .validating race) :
      Marks 1 t := validated_marks (run_taken proper run member).1 delivers
  exact answered_unique proper run (fun _ _ => Phase.validating.inj) marks one other

theorem evaluated_unique (proper : Proper initial) (run : Run (step now) initial trace final)
    {first second : ReproductionReplayResult} (one : Evaluated trace tried first) (other : Evaluated trace tried second) :
    first = second := by
  have marks (t) (member : t ∈ trace) (race) (delivers : t.input = .evaluation .deliver)
      (current : t.before.phase = .evaluating race) : Marks 4 t :=
    evaluated_marks (run_taken proper run member).1 delivers current
  exact answered_unique proper run (fun _ _ => Phase.evaluating.inj) marks one other

theorem not_invalid (proper : Proper initial) (run : Run (step now) initial trace final) (valid : Valid trace tried) :
    ¬ Invalid trace tried := by
  intro invalid
  rcases valid with ⟨first, one, holds⟩
  rcases invalid with ⟨second, other, fails⟩
  rw [validated_unique proper run one other, fails] at holds
  cases holds

theorem concluded_unique (proper : Proper initial) (run : Run (step now) initial trace final) {first second : ReplayStatus}
    (one : Concluded trace bundle tried first) (other : Concluded trace bundle tried second) : first = second := by
  rcases one.shown with ⟨replay, evaluated, _, _, rfl⟩
  rcases other.shown with ⟨replay', evaluated', _, _, rfl⟩
  rw [evaluated_unique proper run evaluated evaluated']

/-! ### The last candidate -/

/-- The candidate of length one has been decided, or the search is complete. -/
inductive Decided (s : Reducing α) : Prop
  | invalid {race : Race Unit CandidateValidation} {validation : CandidateValidation} (last : s.length = 1)
    (phase : s.phase = .validating race) (won : race.winner = some (.call (.ok validation))) (invalid : validation.valid = false)
  | concluded {race : Race Unit ReproductionReplayResult} {replay : ReproductionReplayResult} (last : s.length = 1)
    (phase : s.phase = .evaluating race) (won : race.winner = some (.call (.ok replay))) (fresh : stale s.bundle replay = false)
    (clean : Clean replay)
  | complete {result : PrefixReductionResult} (phase : s.phase = .finished (.ok result)) (reason : result.stopReason = .complete)

theorem goOn_last (last : s.length = 1) : Decided (goOn now s) := by
  have done : goOn now s = complete (turnTo (s.length - 1) s) := by
    apply if_pos
    show s.length - 1 = 0
    omega
  rw [done]
  exact .complete rfl rfl

theorem Decided.step {input : Input} {output : Output α} (decided : Decided s)
    (stepped : Reduction.step now s input = some (after, output)) : Decided after := by
  cases decided with
  | invalid last phase won invalid =>
    cases step_cases stepped with
    | abort first => exact .invalid last (congrArg Phase.abort phase) (Race.won_abort won) invalid
    | validation current taken =>
      cases phase.symm.trans current
      exact .invalid last rfl (Race.won_step won taken) invalid
    | evaluation current taken => cases phase.symm.trans current
    | cleanup current taken => cases phase.symm.trans current
    | resume resumed =>
      simp only [resume, phase, won, Option.map_some, validated, invalid, Bool.false_eq_true, if_false, Option.some.injEq] at resumed
      rw [← resumed]
      exact goOn_last last
  | @concluded race replay last phase won fresh clean =>
    cases step_cases stepped with
    | abort first => exact .concluded last (congrArg Phase.abort phase) (Race.won_abort won) fresh clean
    | validation current taken => cases phase.symm.trans current
    | evaluation current taken =>
      cases phase.symm.trans current
      exact .concluded last rfl (Race.won_step won taken) fresh clean
    | cleanup current taken => cases phase.symm.trans current
    | resume resumed =>
      have proceeds : resume now s = some (goOn now (Reduction.concluded now replay.status s)) := by
        simp only [resume, phase, won, Option.map_some, evaluated, judgeReplay, fresh, Bool.false_eq_true, if_false]
        rw [if_neg (not_not.mpr clean)]
        rfl
      cases proceeds.symm.trans resumed
      apply goOn_last
      rw [concluded_place.2]
      exact last
  | complete phase reason =>
    cases step_cases stepped with
    | abort first => exact .complete (congrArg Phase.abort phase) reason
    | validation current taken => cases phase.symm.trans current
    | evaluation current taken => cases phase.symm.trans current
    | cleanup current taken => cases phase.symm.trans current
    | resume resumed =>
      simp only [resume, phase] at resumed
      cases resumed

omit [NumberText] in
theorem length_one (within : Within s) (same : candidate s = s.steps.take 1) : s.length = 1 := by
  have bounded := within.bounded
  have positive := within.positive
  have lengths : (candidate s).length = (s.steps.take 1).length := congrArg List.length same
  rw [candidate_length within, List.length_take] at lengths
  omega

theorem decided_of_invalid (proper : Proper initial) (run : Run (Reduction.step now) initial trace final)
    (invalid : Invalid trace (initial.steps.take 1)) : Decided final := by
  rcases invalid with ⟨validation, answered, fails⟩
  rcases answered.inTime with ⟨t, member, delivers, same, race, phase, settled, _⟩
  rcases run_taken proper run member with ⟨taken, steps, _⟩
  have last := length_one (validated_marks taken delivers).1 (by rw [same, steps])
  rcases List.append_of_mem member with ⟨before, later, rfl⟩
  apply run.lasting (P := Decided) (fun _ _ _ _ decided taken => decided.step taken)
  rcases t with ⟨s, input, output, after⟩
  have moved := taken.taken
  simp only at delivers phase last moved
  subst delivers
  cases step_cases moved with
  | validation current taken =>
    cases phase.symm.trans current
    exact .invalid last rfl (Race.deliver_won settled taken) fails

theorem decided_of_concluded {status : ReplayStatus} (proper : Proper initial) (run : Run (Reduction.step now) initial trace final)
    (concluded : Concluded trace initial.bundle (initial.steps.take 1) status) : Decided final := by
  rcases concluded.shown with ⟨replay, answered, fresh, clean, _⟩
  rcases answered.inTime with ⟨t, member, delivers, same, race, phase, settled, _⟩
  rcases run_taken proper run member with ⟨taken, steps, bundle⟩
  have last := length_one (evaluated_marks taken delivers phase).1 (by rw [same, steps])
  rcases List.append_of_mem member with ⟨before, later, rfl⟩
  apply run.lasting (P := Decided) (fun _ _ _ _ decided taken => decided.step taken)
  rcases t with ⟨s, input, output, after⟩
  have moved := taken.taken
  simp only at delivers phase last moved bundle
  subst delivers
  rw [← bundle] at fresh
  cases step_cases moved with
  | evaluation current taken =>
    cases phase.symm.trans current
    exact .concluded last rfl (Race.deliver_won settled taken) fresh clean
  | cleanup current taken => cases phase.symm.trans current

/-! ### The result of a run -/

/-- No length reproduces, and a candidate is invalid. -/
structure Defeated (trace : Trace α) (bundle : Json) (steps : List α) : Prop where
  exhausted : ∀ n, 1 ≤ n → n ≤ steps.length →
    Invalid trace (steps.take n) ∨ Concluded trace bundle (steps.take n) .notReproduced
  invalid : ∃ n, 1 ≤ n ∧ n ≤ steps.length ∧ Invalid trace (steps.take n)

/-- What a result says is so, and the candidates were tried as they should be. -/
structure Sound (trace : Trace α) (bundle : Json) (steps : List α) (result : PrefixReductionResult) : Prop where
  shortest : result.claim = .shortestReproducingPrefix →
    ∃ b, result.bestPrefixLength = some b ∧ Concluded trace bundle (steps.take b) .reproduced
  minimal : result.minimalityComplete = true → ∀ n, 1 ≤ n → n ≤ steps.length →
    (∀ b, result.bestPrefixLength = some b → n < b) → Concluded trace bundle (steps.take n) .notReproduced
  validatedOnce : trace.Pairwise fun t u =>
    ∀ first second, t.output = .validate first → u.output = .validate second → second.length < first.length
  evaluatedOnce : trace.Pairwise fun t u =>
    ∀ first second, t.output = .evaluate first → u.output = .evaluate second → second.length < first.length
  guarded : ∀ before t after tried, trace = before ++ t :: after → t.output = .evaluate tried → Undisturbed before

theorem run_validatedOnce (proper : Proper initial) (run : Run (Reduction.step now) initial trace final) :
    trace.Pairwise fun t u =>
      ∀ first second, t.output = .validate first → u.output = .validate second → second.length < first.length := by
  apply (run_descends proper run).imp_of_mem
  intro t u member member' descends first second output output'
  rcases validate_marks (run_taken proper run member).1 output with ⟨mark, rfl⟩
  rcases validate_marks (run_taken proper run member').1 output' with ⟨mark', rfl⟩
  rw [candidate_length mark.1, candidate_length mark'.1]
  exact descends mark mark'

theorem run_evaluatedOnce (proper : Proper initial) (run : Run (Reduction.step now) initial trace final) :
    trace.Pairwise fun t u =>
      ∀ first second, t.output = .evaluate first → u.output = .evaluate second → second.length < first.length := by
  apply (run_descends proper run).imp_of_mem
  intro t u member member' descends first second output output'
  rcases evaluate_marks (run_taken proper run member).1 output with ⟨mark, rfl, _⟩
  rcases evaluate_marks (run_taken proper run member').1 output' with ⟨mark', rfl, _⟩
  rw [candidate_length mark.1, candidate_length mark'.1]
  exact descends mark mark'

theorem complete_sound (searched : Searched trace s) (last : s.length = 0) {result : PrefixReductionResult}
    (finished : (complete s).phase = .finished (.ok result)) (undefeated : ¬ Defeated trace s.bundle s.steps) :
    (result.claim = .shortestReproducingPrefix →
      ∃ b, result.bestPrefixLength = some b ∧ Concluded trace s.bundle (s.steps.take b) .reproduced) ∧
    (result.minimalityComplete = true → ∀ n, 1 ≤ n → n ≤ s.steps.length →
      (∀ b, result.bestPrefixLength = some b → n < b) → Concluded trace s.bundle (s.steps.take n) .notReproduced) := by
  cases finished
  constructor
  · intro claim
    cases best : s.best with
    | none =>
      have other : (if s.best = none then ReductionClaim.notReduced else _) = .shortestReproducingPrefix := claim
      rw [if_pos best] at other
      cases other
    | some b => exact ⟨b, rfl, (searched.best b best).2.2⟩
  · intro minimal n positive within below
    have noneShorter : invalidShorter s = false := (Bool.not_eq_true' _).mp minimal
    rcases searched.others n (by omega) within below with concluded | ⟨invalid, c, listed, kind, length⟩
    · exact concluded
    · cases best : s.best with
      | none =>
        apply absurd _ undefeated
        refine ⟨fun m positive within => ?_, n, positive, within, invalid⟩
        rcases searched.others m (by omega) within (fun b same => by rw [best] at same; cases same) with concluded | ⟨invalid, _⟩
        · exact .inr concluded
        · exact .inl invalid
      | some b =>
        have shorter : invalidShorter s = true := by
          rw [invalidShorter, best, Option.any_some, List.any_eq_true]
          exact ⟨c, listed, decide_eq_true ⟨kind, length ▸ below b best⟩⟩
        rw [noneShorter] at shorter
        cases shorter

/-- Where no length reproduces and one of them is invalid, minimality is claimed although that one was not evaluated. -/
theorem complete_unsound (proper : Proper initial) (run : Run (Reduction.step now) initial trace final)
    (sameBundle : final.bundle = initial.bundle) (sameSteps : final.steps = initial.steps)
    (searched : Searched trace final) {result : PrefixReductionResult} (finished : final.phase = .finished (.ok result))
    (same : final.phase = (complete final).phase) (sound : Sound trace initial.bundle initial.steps result)
    (defeated : Defeated trace initial.bundle initial.steps) : False := by
  have none : final.best = none := by
    cases best : final.best with
    | none => rfl
    | some b =>
      rcases searched.best b best with ⟨above, within, reproduced⟩
      rw [sameSteps] at within reproduced
      rw [sameBundle] at reproduced
      rcases defeated.exhausted b (by omega) within with invalid | other
      · exact absurd invalid (not_invalid proper run reproduced.valid)
      · cases concluded_unique proper run reproduced other
  rw [same] at finished
  cases finished
  rcases defeated.invalid with ⟨n, positive, within, invalid⟩
  have minimal : (!invalidShorter final) = true := by
    rw [invalidShorter, none]
    rfl
  have concluded := sound.minimal minimal n positive within (fun b best => by
    have found : final.best = some b := best
    rw [none] at found
    cases found)
  exact not_invalid proper run concluded.valid invalid

variable [Platform] {options : ReduceOptions α} {aborted : Bool}

theorem run_begins (begun : reduceReproductionPrefix now bundle options aborted = .ok initial) :
    initial.bundle = bundle ∧ initial.steps = options.steps ∧ Invariant [] initial := by
  simp only [reduceReproductionPrefix, bind_eq_ok] at begun
  rcases begun with ⟨limits, _, bundleSha256, _, begun⟩
  split at begun
  · cases begun
    exact ⟨tryLength_cases.same.bundle, tryLength_cases.same.steps, tryLength_invariant rfl rfl⟩
  · cases begun
    refine ⟨rfl, rfl, True.intro, .inl ⟨_, rfl, ?_, ?_, rfl⟩, True.intro⟩
    · exact fun same : StopReason.notEligible = .complete => by cases same
    · exact fun same : ReductionClaim.notReduced = .shortestReproducingPrefix => by cases same

theorem run_invariant (begun : reduceReproductionPrefix now bundle options aborted = .ok initial)
    (run : Run (step now) initial trace final) :
    final.bundle = bundle ∧ final.steps = options.steps ∧ Invariant trace final := by
  rcases run_begins begun with ⟨sameBundle, sameSteps, invariant⟩
  apply run.invariant (P := fun trace state => state.bundle = bundle ∧ state.steps = options.steps ∧ Invariant trace state)
  · exact ⟨sameBundle, sameSteps, invariant⟩
  · intro trace state input output after holds taken
    rcases holds with ⟨bundle, steps, invariant⟩
    rcases step_same taken with ⟨sameBundle, sameSteps⟩
    exact ⟨sameBundle.trans bundle, sameSteps.trans steps, invariant.step taken⟩

/-- The evaluator is called for a candidate before anything has gone wrong. -/
theorem run_guarded {before later : Trace α} {t : Transition (Reducing α) Input (Output α)}
    (begun : reduceReproductionPrefix now bundle options aborted = .ok initial)
    (run : Run (Reduction.step now) initial (before ++ t :: later) final) (called : t.output = .evaluate tried) :
    Undisturbed before := by
  rcases run.split with ⟨run, taken⟩
  have invariant := (run_invariant begun run).2.2
  rcases evaluate_marks ⟨invariant.proper, taken⟩ called with ⟨_, _, race, phase, waiting, running⟩
  have proper := invariant.proper
  have guarded := invariant.guarded
  simp only [Proper, phase] at proper
  simp only [Guarded, phase] at guarded
  apply guarded
  · rw [← proper.2.2]
    exact running
  · exact .start (proper.2.1.undecided waiting running) (proper.2.1.unsettled waiting)

end

/-! ### An invalid candidate -/

/-- A bundle of a mismatch. -/
def mismatchBundle : Json :=
  match bundleOf (string "diagnostic") with
  | .object fields => .object (Fields.set fields (js "signature") (object [
      ("primary", object [("kind", string "behavioral_mismatch"), ("code", string "replay_mismatch"),
        ("traceIndex", .number (.ofNat 0)), ("stateIndex", .number (.ofNat 1)), ("action", string "a")]),
      ("cleanup", object [("status", string "succeeded")])]))
  | other => other

/-- One step to reduce. -/
def oneStep : ReduceOptions Nat where
  traceIndex := .ofNat 0
  steps := [0]
  stability := ⟨js "r", [], .stable, .confirmed⟩
  resettable := true
  policy := ⟨.ofNat 1, .ofNat 9, .ofNat 9, .ofNat 9⟩

/-- The only candidate is invalid. -/
def invalidInputs : List Input :=
  [.validation .begin, .validation (.settle (.ok ⟨false, none⟩)), .validation .deliver, .resume]

/-- Minimality is claimed, and no candidate was evaluated. -/
def claimsMinimal (trace : Trace Nat) (s : Reducing Nat) : Bool :=
  trace.all (fun t => match t.output with
    | .evaluate _ => false
    | _ => true) &&
  match s.phase with
  | .finished (.ok result) => result.minimalityComplete && decide (result.bestPrefixLength = none)
  | _ => false

theorem claimsMinimal_result {trace : Trace Nat} {s : Reducing Nat} (claims : claimsMinimal trace s = true) :
    (∀ t ∈ trace, ∀ tried, t.output ≠ .evaluate tried) ∧
      ∃ result, s.phase = .finished (.ok result) ∧ result.minimalityComplete = true ∧ result.bestPrefixLength = none := by
  rw [claimsMinimal, Bool.and_eq_true, List.all_eq_true] at claims
  constructor
  · intro t member tried same
    have other := claims.1 t member
    rw [same] at other
    cases other
  · have returned := claims.2
    split at returned
    · rename_i result phase
      rw [Bool.and_eq_true, decide_eq_true_eq] at returned
      exact ⟨result, phase, returned⟩
    · cases returned

theorem invalid_run : letI := integerNotation; letI := plainPlatform
    reaches (step fun _ => 0) (reduceReproductionPrefix (fun _ => 0) mismatchBundle oneStep false) invalidInputs claimsMinimal = true := by
  decide +kernel

end Mirror.Reduction
