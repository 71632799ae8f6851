import MirrorECMA.Mutation.Accounting

namespace Mirror.Mutation

open ECMA Machine
open Mirror.Reproduction (canonical string)

section

variable [NumberText] {now : Nat → Rat} {trace more : Trace} {s : Campaigning} {turn : Turn} {path : TestedPath}
  {campaign : MutationCampaign} {t : Transition Campaigning Input Output}

/-! ### What a history tells of the runs before it -/

/-- An input after which an evaluation of the campaign has been disturbed. -/
inductive Spoils (path : TestedPath) : Input → Prop
  | timedOut : Spoils path (.evaluation .timer)
  | threw (failure : CampaignFailure) : Spoils path (.evaluation (.settle (.error failure)))
  | cancelled : Spoils path .abort
  | unconfirmed {evaluation : MutationEvaluation} (left : cleanupConfirmed (cleanupOf evaluation) path = false) :
    Spoils path (.evaluation (.settle (.ok evaluation)))

def Undisturbed (trace : Trace) (path : TestedPath) : Prop := ∀ t ∈ trace, ¬ Spoils path t.input

/-- Every evaluation that has been started has settled. -/
def Settled (trace : Trace) : Prop :=
  Answered (fun t => ∃ turn, t.output = .evaluate turn) (fun t => ∃ result, t.input = .evaluation (.settle result)) trace

/-- The observer has been called after the last evaluation, and has returned these inputs. -/
def Observed (trace : Trace) (inputs : Json) : Prop :=
  LastOutput .silent .observe (fun after => ∃ t ∈ after, t.input = .observation (.settle (.ok inputs))) trace

/-- The last observation agrees with what the campaign has recorded. -/
def Agrees (trace : Trace) (campaign : MutationCampaign) : Prop :=
  ∃ inputs, Observed trace inputs ∧ canonical campaign.protectedInputs = canonical inputs

theorem Undisturbed.snoc (undisturbed : Undisturbed trace path) (fine : ¬ Spoils path t.input) :
    Undisturbed (trace ++ [t]) path := by
  intro u member
  rcases List.mem_append.mp member with member | member
  · exact undisturbed u member
  · rw [List.mem_singleton.mp member]
    exact fine

/-- What holds while no evaluation is in progress. -/
structure Calm (trace : Trace) (s : Campaigning) : Prop where
  settled : Settled trace
  undisturbed : s.aborted = false → Undisturbed trace s.path

theorem Calm.same {other : Campaigning} (calm : Calm trace s) (same : Same s other) : Calm trace other where
  settled := calm.settled
  undisturbed := by
    rw [same.aborted, same.path]
    exact calm.undisturbed

omit [NumberText] in
theorem no_evaluation (quiet : t.output = .silent) : ¬ ∃ turn, t.output = .evaluate turn := by
  rw [quiet]
  intro found
  rcases found with ⟨turn, same⟩
  cases same

theorem Calm.silent (calm : Calm trace s) (quiet : t.output = .silent ∨ t.output = .observe)
    (fine : s.aborted = false → ¬ Spoils s.path t.input) : Calm (trace ++ [t]) s where
  settled := by
    apply calm.settled.quiet
    rcases quiet with silent | observes
    · exact no_evaluation silent
    · rw [observes]
      intro asks
      rcases asks with ⟨turn, same⟩
      cases same
  undisturbed open_ := (calm.undisturbed open_).snoc (fine open_)

/-- What the history of an observation tells of its race. -/
abbrev Observation (trace : Trace) (race : Race CampaignFailure Json) : Prop :=
  race.Told (LastOutput .silent .observe (fun _ => True) trace) (Observed trace) (fun _ => True)

/-- An evaluation of the path that leaves nothing behind. -/
abbrev Clean (path : TestedPath) (evaluation : MutationEvaluation) : Prop := cleanupConfirmed (cleanupOf evaluation) path = true

/-- An evaluation that has not been disturbed. -/
structure Good (s : Campaigning) (race : Race CampaignFailure MutationEvaluation) : Prop where
  open_ : s.aborted = false
  fine : race.Fine (Clean s.path)

omit [NumberText] in
theorem spoils_evaluation {event : Race.Event CampaignFailure MutationEvaluation} (spoils : Spoils path (.evaluation event)) :
    event.Spoils (Clean path) := by
  cases spoils with
  | timedOut => exact .timedOut
  | threw failure => exact .threw failure
  | unconfirmed left => exact .bad (Bool.eq_false_iff.mp left)

/-- What holds while an evaluation is in progress. -/
structure Evaluating (trace : Trace) (s : Campaigning) (race : Race CampaignFailure MutationEvaluation) : Prop where
  sound : race.Sound
  stopped : race.stopped = s.aborted
  settled : race.pending = false → Settled trace
  undisturbed : Good s race → Undisturbed trace s.path
  agrees : race.called = false → Agrees trace s.campaign

/-- What holds in every state of a run. -/
def Gated (trace : Trace) (s : Campaigning) : Prop :=
  match s.phase with
  | .observing _ race => Calm trace s ∧ race.Sound ∧ Observation trace race
  | .evaluating _ race => Evaluating trace s race
  | .cleaning _ _ race => race.begun = true ∨ race.stopped = true
  | .finished _ => True

/-! ### What follows an await -/

theorem failCheck_gated {failure : CampaignFailure} : Gated trace (failCheck turn failure s) := by
  cases turn <;> exact True.intro

theorem beginCheck_gated (calm : Calm trace s) : Gated trace (beginCheck now turn s) := by
  unfold beginCheck
  split
  · exact failCheck_gated
  · exact ⟨calm.same ⟨rfl, rfl, rfl⟩, Race.start_sound, Race.start_told⟩

theorem nextMutant_gated (calm : Calm trace s) : Gated trace (nextMutant now s) := by
  unfold nextMutant
  split
  · exact True.intro
  · rename_i rest _
    split
    · exact True.intro
    · split
      · exact True.intro
      · exact beginCheck_gated (s := { tick s with rest := rest }) (calm.same ⟨rfl, rfl, rfl⟩)

/-- The run goes on only after an evaluation whose cleanup was confirmed. -/
theorem concluded_gated {bounded : Option Bounded} (calm : ∀ evaluation, bounded = some (.evaluated evaluation true) → Calm trace s) :
    Gated trace (concluded now turn bounded s) := by
  cases turn with
  | baseline =>
    simp only [concluded, afterBaseline]
    split
    · rename_i survived
      rcases judgeBaseline_survived survived with ⟨evaluation, same, _⟩
      exact nextMutant_gated (s := { tick s with baseline := _, results := _, rest := _ }) ((calm evaluation same).same ⟨rfl, rfl, rfl⟩)
    · exact True.intro
  | mutant mutant =>
    have judged : Judged s.path mutant bounded
        (judge mutant s.path (now s.reads - s.started) (now (s.reads + 1) - s.started) bounded) := judge_judged bounded
    simp only [concluded, afterMutant]
    split
    · exact True.intro
    · rename_i goesOn
      rcases judged.goesOn goesOn with ⟨evaluation, same⟩
      exact nextMutant_gated (s := { tick s with results := _ }) ((calm evaluation same).same ⟨rfl, rfl, rfl⟩)

theorem evaluateTurn_gated (calm : Calm trace s) (agrees : Agrees trace s.campaign) : Gated trace (evaluateTurn now turn s) := by
  unfold evaluateTurn
  dsimp only
  split
  · exact concluded_gated (fun _ same => by cases same)
  · rename_i open_
    refine ⟨Race.start_sound, (Bool.eq_false_iff.mpr open_).symm, fun _ => calm.settled, fun good => ?_, fun _ => agrees⟩
    exact calm.undisturbed good.open_

theorem afterCheck_gated (calm : Calm trace s) (agrees : Agrees trace s.campaign) : Gated trace (afterCheck now turn s) := by
  unfold afterCheck
  split
  · split
    · exact True.intro
    · exact evaluateTurn_gated calm agrees
  · exact evaluateTurn_gated calm agrees

theorem observed_gated {winner : Winner CampaignFailure Json} (calm : Calm trace s)
    (returned : ∀ inputs, winner = .call (.ok inputs) → Observed trace inputs) : Gated trace (observed now turn winner s) := by
  unfold observed
  split
  · rename_i inputs
    split
    · rename_i passed
      apply afterCheck_gated calm
      refine ⟨inputs, returned inputs rfl, ?_⟩
      unfold assertMutationProtectedInputs at passed
      split at passed
      · assumption
      · cases passed
    · exact failCheck_gated
  · exact failCheck_gated
  · exact failCheck_gated
  · exact failCheck_gated

theorem evaluated_gated {race : Race CampaignFailure MutationEvaluation} {winner : Winner CampaignFailure MutationEvaluation}
    (evaluating : Evaluating trace s race) (won : race.winner = some winner) : Gated trace (evaluated now turn race winner s) := by
  unfold evaluated
  split
  · rename_i evaluation
    apply concluded_gated
    intro other same
    have settled := evaluating.sound.won _ won
    simp only [boundedResult, Option.some.injEq, Bounded.evaluated.injEq] at same
    refine ⟨evaluating.settled (by rw [Race.pending, settled]; simp), fun open_ => ?_⟩
    exact evaluating.undisturbed ⟨open_, .of_won evaluating.sound won same.2⟩
  · exact concluded_gated (fun _ same => by cases same)
  · exact evaluating.sound.past _ won
  · exact evaluating.sound.past _ won

theorem settled_gated {cancelled : Bool} {winner : Winner CampaignFailure MutationEvaluation} :
    Gated trace (settled now turn cancelled winner s) := by
  unfold Mutation.settled
  split
  · exact concluded_gated (fun _ same => by cases same)
  · exact concluded_gated (fun _ same => by cases same)

theorem resume_gated {next : Campaigning} (gated : Gated trace s) (resumed : resume now s = some next) : Gated trace next := by
  unfold Gated at gated
  unfold resume at resumed
  cases phase : s.phase with
  | observing turn race =>
    simp only [phase] at gated resumed
    rcases Option.map_eq_some_iff.mp resumed with ⟨winner, won, rfl⟩
    rcases gated with ⟨calm, sound, told⟩
    apply observed_gated calm
    intro inputs same
    rw [same] at won
    exact told.returned inputs (sound.won _ won)
  | evaluating turn race =>
    simp only [phase] at gated resumed
    rcases Option.map_eq_some_iff.mp resumed with ⟨winner, won, rfl⟩
    exact evaluated_gated gated won
  | cleaning turn cancelled race =>
    simp only [phase] at resumed
    rcases Option.map_eq_some_iff.mp resumed with ⟨winner, _, rfl⟩
    exact settled_gated
  | finished outcome =>
    simp only [phase] at resumed
    cases resumed

/-! ### Steps -/

theorem Observed.silent {inputs : Json} (observed : Observed trace inputs) (quiet : t.output = .silent) :
    Observed (trace ++ [t]) inputs := by
  apply LastOutput.snoc observed quiet
  intro after holds
  exact earlier holds t

theorem Observation.silent {race : Race CampaignFailure Json} (told : Observation trace race) (quiet : t.output = .silent) :
    Observation (trace ++ [t]) race := by
  apply Race.Told.mono told
  · intro last
    exact last.snoc quiet fun _ _ => trivial
  · intro inputs observed
    exact observed.silent quiet
  · intro _ _
    trivial

theorem Agrees.silent (agrees : Agrees trace campaign) (quiet : t.output = .silent) : Agrees (trace ++ [t]) campaign := by
  rcases agrees with ⟨inputs, observed, same⟩
  exact ⟨inputs, observed.silent quiet, same⟩

theorem Gated.abort {output : Output} {after : Campaigning} (gated : Gated trace s) (silent : output = .silent) :
    Gated (trace ++ [⟨s, .abort, output, after⟩]) { s with aborted := true, phase := s.phase.abort } := by
  unfold Gated at *
  have quiet : (⟨s, .abort, output, after⟩ : Transition Campaigning Input Output).output = .silent := silent
  have asks := no_evaluation quiet
  cases phase : s.phase with
  | observing turn race =>
    simp only [phase, Phase.abort] at gated ⊢
    rcases gated with ⟨calm, sound, told⟩
    exact ⟨⟨calm.settled.quiet asks, fun open_ => by cases open_⟩, sound.abort, (told.silent quiet).abort⟩
  | evaluating turn race =>
    simp only [phase, Phase.abort] at gated ⊢
    refine ⟨gated.sound.abort, rfl, fun past => (gated.settled past).quiet asks, fun good => ?_, fun waiting => ?_⟩
    · cases good.open_
    · exact (gated.agrees waiting).silent quiet
  | cleaning turn cancelled race =>
    simp only [phase, Phase.abort] at gated ⊢
    exact gated
  | finished outcome => trivial

theorem Observation.first {race next : Race CampaignFailure Json} {event : Race.Event CampaignFailure Json}
    (sound : race.Sound) (taken : race.step cancelledBefore event = some (next, true)) (observes : t.output = .observe) :
    Observation (trace ++ [t]) next := by
  rcases Race.step_cases taken with ⟨_, _, _, quiet, _⟩ | ⟨_, waiting, _, _, rfl⟩ | ⟨_, _, _, quiet, _⟩ |
    ⟨_, _, _, _, quiet, _⟩ | ⟨_, _, _, quiet, _⟩
  · cases quiet
  · refine ⟨fun _ => lastOutput_of observes trivial, fun inputs settled => ?_, fun _ _ => trivial⟩
    rw [sound.unsettled waiting] at settled
    cases settled
  · cases quiet
  · cases quiet
  · cases quiet

theorem Observation.event {race next : Race CampaignFailure Json} {event : Race.Event CampaignFailure Json}
    (told : Observation trace race) (taken : race.step cancelledBefore event = some (next, false))
    (input : t.input = .observation event) (quiet : t.output = .silent) : Observation (trace ++ [t]) next := by
  apply Race.Told.step (told.silent quiet) taken
  · intro calls
    cases calls
  · intro inputs settle called
    apply LastOutput.snoc (told.called called) quiet
    intro after _
    exact ⟨t, List.mem_append_right _ (List.mem_singleton_self t), input.trans (congrArg Input.observation settle)⟩
  · intro _ _ _ _
    trivial

theorem Gated.observation {race next : Race CampaignFailure Json} {event : Race.Event CampaignFailure Json} {calls : Bool}
    (calm : Calm trace s) (sound : race.Sound) (told : Observation trace race)
    (taken : race.step cancelledBefore event = some (next, calls)) (input : t.input = .observation event)
    (output : t.output = if calls then .observe else .silent) :
    Gated (trace ++ [t]) { s with phase := .observing turn next } := by
  have fine : s.aborted = false → ¬ Spoils s.path t.input := by
    intro _ spoils
    rw [input] at spoils
    cases spoils
  cases calls with
  | true =>
    have observes : t.output = .observe := output
    exact ⟨(calm.silent (.inr observes) fine).same ⟨rfl, rfl, rfl⟩, sound.step taken, Observation.first sound taken observes⟩
  | false =>
    have quiet : t.output = .silent := output
    exact ⟨(calm.silent (.inl quiet) fine).same ⟨rfl, rfl, rfl⟩, sound.step taken, told.event taken input quiet⟩

theorem Gated.evaluation {race next : Race CampaignFailure MutationEvaluation}
    {event : Race.Event CampaignFailure MutationEvaluation} {calls : Bool} (evaluating : Evaluating trace s race)
    (taken : race.step beforeEvaluator event = some (next, calls)) (input : t.input = .evaluation event)
    (output : t.output = if calls then .evaluate turn else .silent) :
    Gated (trace ++ [t]) { s with phase := .evaluating turn next } := by
  have undisturbed (good : Good s next) : Undisturbed (trace ++ [t]) s.path := by
    rcases good.fine.before taken with ⟨fine, harmless⟩
    apply (evaluating.undisturbed ⟨good.open_, fine⟩).snoc
    rw [input]
    intro spoils
    exact harmless (spoils_evaluation spoils)
  have kept : Evaluating (trace ++ [t]) s next := by
    rcases Race.step_cases taken with ⟨_, waiting, _, quiet, same⟩ | ⟨_, waiting, _, _, same⟩ | ⟨result, settles, pending, quiet, same⟩ |
      ⟨_, _, _, _, quiet, same⟩ | ⟨_, _, _, quiet, same⟩
    · rw [quiet] at output
      refine ⟨evaluating.sound.step taken, same ▸ evaluating.stopped, fun _ => ?_, undisturbed, fun _ => ?_⟩
      · apply (evaluating.settled _).quiet (no_evaluation output)
        rw [Race.pending, evaluating.sound.uncalled waiting, Bool.false_and]
      · exact (evaluating.agrees (evaluating.sound.uncalled waiting)).silent output
    · refine ⟨evaluating.sound.step taken, same ▸ evaluating.stopped, fun past => ?_, undisturbed, fun idle => ?_⟩
      · rw [same, Race.pending, evaluating.sound.unsettled waiting] at past
        cases past
      · rw [same] at idle
        cases idle
    · rw [quiet] at output
      rw [Race.pending, Bool.and_eq_true] at pending
      refine ⟨evaluating.sound.step taken, same ▸ evaluating.stopped, fun _ => ?_, undisturbed, fun idle => ?_⟩
      · exact answered_last ⟨result, input.trans (congrArg Input.evaluation settles)⟩ (no_evaluation output)
      · rw [same, pending.1] at idle
        cases idle
    · rw [quiet] at output
      exact ⟨evaluating.sound.step taken, same ▸ evaluating.stopped,
        fun past => (evaluating.settled (by rw [same] at past; exact past)).quiet (no_evaluation output), undisturbed,
        fun idle => (evaluating.agrees (by rw [same] at idle; exact idle)).silent output⟩
    · rw [quiet] at output
      exact ⟨evaluating.sound.step taken, same ▸ evaluating.stopped,
        fun past => (evaluating.settled (by rw [same] at past; exact past)).quiet (no_evaluation output), undisturbed,
        fun idle => (evaluating.agrees (by rw [same] at idle; exact idle)).silent output⟩
  exact ⟨kept.sound, kept.stopped, kept.settled, fun good => kept.undisturbed ⟨good.open_, good.fine⟩, kept.agrees⟩

/-- A step that leaves the state as it is. -/
theorem Gated.silent (gated : Gated trace s) (quiet : t.output = .silent) (fine : ¬ Spoils s.path t.input) :
    Gated (trace ++ [t]) s := by
  unfold Gated at *
  cases phase : s.phase with
  | observing turn race =>
    simp only [phase] at gated ⊢
    exact ⟨gated.1.silent (.inl quiet) fun _ => fine, gated.2.1, gated.2.2.silent quiet⟩
  | evaluating turn race =>
    simp only [phase] at gated ⊢
    exact ⟨gated.sound, gated.stopped, fun past => (gated.settled past).quiet (no_evaluation quiet),
      fun good => (gated.undisturbed good).snoc fine, fun idle => (gated.agrees idle).silent quiet⟩
  | cleaning turn cancelled race =>
    simp only [phase] at gated ⊢
    exact gated
  | finished outcome => trivial

theorem Gated.step {input : Input} {output : Output} {after : Campaigning} (gated : Gated trace s)
    (stepped : step now s input = some (after, output)) : Gated (trace ++ [⟨s, input, output, after⟩]) after := by
  cases step_cases stepped with
  | abort first => exact gated.abort rfl
  | observation phase taken =>
    simp only [Gated, phase] at gated
    exact Gated.observation gated.1 gated.2.1 gated.2.2 taken rfl rfl
  | evaluation phase taken =>
    simp only [Gated, phase] at gated
    exact Gated.evaluation gated taken rfl rfl
  | cleanup phase taken =>
    simp only [Gated, phase] at gated
    exact (Race.over_step gated taken).2
  | resume resumed =>
    apply resume_gated (gated.silent rfl _) resumed
    intro spoils
    cases spoils

theorem run_gated {campaignInput : Json} {policy : MutationCampaignPolicy} {aborted : Bool} {initial final : Campaigning}
    (begun : runMutationCampaign now campaignInput path policy aborted = .ok initial) (run : Run (Mutation.step now) initial trace final) :
    Gated trace final := by
  rcases runMutationCampaign_ok begun with ⟨_, _, _, s, rfl⟩
  apply run.invariant (P := Gated)
  · exact beginCheck_gated ⟨answered_nil, fun _ _ member => by cases member⟩
  · intro trace state input output after gated taken
    exact gated.step taken

/-- When the evaluator is called for a mutant. -/
structure Gate (earlier : Trace) (campaign : MutationCampaign) (path : TestedPath) : Prop where
  baseline : BaselineAccepted earlier path
  agrees : Agrees earlier campaign
  settled : Settled earlier
  undisturbed : Undisturbed earlier path

/-- The state before a call of the evaluator. -/
theorem evaluate_called {turn : Turn} {input : Input} {after : Campaigning} (gated : Gated trace s)
    (stepped : Mutation.step now s input = some (after, .evaluate turn)) :
    ∃ race, s.phase = .evaluating turn race ∧ race.begun = false ∧ race.stopped = false := by
  generalize output : Output.evaluate turn = out at stepped
  cases step_cases stepped with
  | abort first => cases output
  | @observation _ _ _ _ calls phase taken => cases calls <;> cases output
  | @evaluation turn' race next event calls phase taken =>
    cases calls with
    | false => cases output
    | true =>
      cases output
      exact ⟨race, phase, Race.call_waits taken⟩
  | @cleanup turn' cancelled race next event calls phase taken =>
    simp only [Gated, phase] at gated
    rw [(Race.over_step gated taken).1] at output
    cases output
  | resume resumed => cases output

/-- Whatever the evaluator and the observer do, a mutant is evaluated only behind its gate. -/
theorem runMutationCampaign_gates {campaignInput : Json} {policy : MutationCampaignPolicy} {aborted : Bool}
    {initial final : Campaigning} {mutant : MutationDefinition} {before after : Trace}
    (begun : runMutationCampaign now campaignInput path policy aborted = .ok initial)
    (run : Run (Mutation.step now) initial (before ++ t :: after) final) (called : t.output = .evaluate (.mutant mutant)) :
    ∃ campaign, validateMutationCampaign none campaignInput = .ok campaign ∧ Gate before campaign path := by
  rcases run.split with ⟨run, taken⟩
  have gated := run_gated begun run
  rcases run_accounted begun run with ⟨campaign, samePath, _, accounted⟩
  rw [called] at taken
  rcases evaluate_called gated taken with ⟨race, phase, waiting, running⟩
  simp only [Gated, phase] at gated
  simp only [Accounted, phase] at accounted
  rcases accounted.1 with ⟨done, progress, _⟩
  have idle := gated.sound.uncalled waiting
  have fine : race.Fine (Clean t.before.path) :=
    Race.Fine.start (gated.sound.undecided waiting running) (gated.sound.unsettled waiting)
  refine ⟨initial.campaign, (runMutationCampaign_ok begun).1, ?_, ?_, gated.settled ?_, ?_⟩
  · rw [← samePath]
    exact progress.baseline
  · rw [← campaign]
    exact gated.agrees idle
  · rw [Race.pending, idle, Bool.false_and]
  · rw [← samePath]
    exact gated.undisturbed ⟨gated.stopped ▸ running, fine⟩

end

/-- The next input calls the evaluator for a mutant. -/
def callsNext [NumberText] (input : Input) (_ : Trace) (s : Campaigning) : Bool :=
  match step (fun _ => 0) s input with
  | some (_, .evaluate (.mutant _)) => true
  | _ => false

theorem callsNext_step [NumberText] {input : Input} {trace : Trace} {s : Campaigning} (calls : callsNext input trace s = true) :
    ∃ after mutant, step (fun _ => 0) s input = some (after, .evaluate (.mutant mutant)) := by
  unfold callsNext at calls
  split at calls
  · rename_i after mutant taken
    exact ⟨after, mutant, taken⟩
  · cases calls

theorem second_call : letI := integerNotation
    reaches (step fun _ => 0) (runMutationCampaign (fun _ => 0) (campaignOf (string "required")) .onLocal wide false)
      (turnInputs passing ++ (turnInputs mismatching).take 4) (callsNext (.evaluation .begin)) = true := by
  decide +kernel

theorem second_call_gated : letI := integerNotation
    ∃ before campaign, validateMutationCampaign none (campaignOf (string "required")) = .ok campaign ∧
      Gate before campaign .onLocal := by
  let := integerNotation
  rcases reaches_run second_call with ⟨initial, before, s, begun, run, calls⟩
  rcases callsNext_step calls with ⟨after, mutant, taken⟩
  exact ⟨before, runMutationCampaign_gates begun (run.next taken) rfl⟩

end Mirror.Mutation
