import MirrorECMA.Machine.History
import MirrorECMA.Mutation.Support

namespace Mirror.Mutation

open ECMA Machine
open Mirror.Reproduction (Signature signaturesEqual)

/-! ### Steps -/

section

variable [NumberText] {now : Nat → Rat} {s after : Campaigning} {turn : Turn}

/-- What a step does, by its input. -/
inductive Stepped (now : Nat → Rat) (s : Campaigning) : Input → Output → Campaigning → Prop
  | abort (first : s.aborted = false) : Stepped now s .abort .silent { s with aborted := true, phase := s.phase.abort }
  | observation {turn : Turn} {race next : Race CampaignFailure Json} {event : Race.Event CampaignFailure Json} {calls : Bool}
    (phase : s.phase = .observing turn race) (taken : race.step cancelledBefore event = some (next, calls)) :
    Stepped now s (.observation event) (if calls then .observe else .silent) { s with phase := .observing turn next }
  | evaluation {turn : Turn} {race next : Race CampaignFailure MutationEvaluation}
    {event : Race.Event CampaignFailure MutationEvaluation} {calls : Bool}
    (phase : s.phase = .evaluating turn race) (taken : race.step beforeEvaluator event = some (next, calls)) :
    Stepped now s (.evaluation event) (if calls then .evaluate turn else .silent) { s with phase := .evaluating turn next }
  | cleanup {turn : Turn} {cancelled : Bool} {race next : Race CampaignFailure MutationEvaluation}
    {event : Race.Event CampaignFailure MutationEvaluation} {calls : Bool}
    (phase : s.phase = .cleaning turn cancelled race) (taken : race.step beforeEvaluator event = some (next, calls)) :
    Stepped now s (.evaluation event) (if calls then .evaluate turn else .silent) { s with phase := .cleaning turn cancelled next }
  | resume {after : Campaigning} (resumed : resume now s = some after) : Stepped now s .resume .silent after

theorem step_cases {input : Input} {output : Output} (stepped : step now s input = some (after, output)) :
    Stepped now s input output after := by
  cases input with
  | abort =>
    simp only [step] at stepped
    split at stepped
    · cases stepped
    · rename_i first
      cases stepped
      exact .abort (Bool.eq_false_iff.mpr first)
  | observation event =>
    simp only [step] at stepped
    split at stepped
    · rename_i turn race phase
      rcases Option.map_eq_some_iff.mp stepped with ⟨⟨next, calls⟩, taken, same⟩
      cases same
      exact .observation phase taken
    · cases stepped
  | evaluation event =>
    simp only [step] at stepped
    split at stepped
    · rename_i turn race phase
      rcases Option.map_eq_some_iff.mp stepped with ⟨⟨next, calls⟩, taken, same⟩
      cases same
      exact .evaluation phase taken
    · rename_i turn cancelled race phase
      rcases Option.map_eq_some_iff.mp stepped with ⟨⟨next, calls⟩, taken, same⟩
      cases same
      exact .cleanup phase taken
    · cases stepped
  | resume =>
    rcases Option.map_eq_some_iff.mp stepped with ⟨next, resumed, same⟩
    cases same
    exact .resume resumed

/-! ### What the code between two awaits leaves as it is -/

structure Same (s after : Campaigning) : Prop where
  campaign : after.campaign = s.campaign
  path : after.path = s.path
  aborted : after.aborted = s.aborted

theorem Same.trans {t : Campaigning} (first : Same s t) (second : Same t after) : Same s after where
  campaign := second.campaign.trans first.campaign
  path := second.path.trans first.path
  aborted := second.aborted.trans first.aborted

omit [NumberText] in
theorem finish_same {status : CampaignStatus} {reason : JsString} : Same s (finish s status reason) := ⟨rfl, rfl, rfl⟩

omit [NumberText] in
theorem failCheck_same {failure : CampaignFailure} : Same s (failCheck turn failure s) := by
  cases turn with
  | baseline => exact ⟨rfl, rfl, rfl⟩
  | mutant => exact finish_same

theorem beginCheck_same : Same s (beginCheck now turn s) := by
  unfold beginCheck
  split
  · exact Same.trans (t := tick s) ⟨rfl, rfl, rfl⟩ failCheck_same
  · exact ⟨rfl, rfl, rfl⟩

theorem nextMutant_same : Same s (nextMutant now s) := by
  unfold nextMutant
  split
  · exact finish_same
  · rename_i rest _
    split
    · exact finish_same
    · split
      · exact Same.trans (t := tick s) ⟨rfl, rfl, rfl⟩ finish_same
      · exact Same.trans (t := { tick s with rest := rest }) ⟨rfl, rfl, rfl⟩ beginCheck_same

theorem concluded_same {bounded : Option Bounded} : Same s (concluded now turn bounded s) := by
  cases turn with
  | baseline =>
    simp only [concluded, afterBaseline]
    split
    · exact Same.trans (t := { tick s with baseline := _, results := _, rest := _ }) ⟨rfl, rfl, rfl⟩ nextMutant_same
    · exact ⟨rfl, rfl, rfl⟩
  | mutant mutant =>
    simp only [concluded, afterMutant]
    split
    · exact Same.trans (t := { tick s with results := _ }) ⟨rfl, rfl, rfl⟩ finish_same
    · exact Same.trans (t := { tick s with results := _ }) ⟨rfl, rfl, rfl⟩ nextMutant_same

theorem evaluateTurn_same : Same s (evaluateTurn now turn s) := by
  unfold evaluateTurn
  dsimp only
  split
  · exact Same.trans (t := { tick s with started := _ }) ⟨rfl, rfl, rfl⟩ concluded_same
  · exact ⟨rfl, rfl, rfl⟩

theorem afterCheck_same : Same s (afterCheck now turn s) := by
  unfold afterCheck
  split
  · split
    · exact ⟨rfl, rfl, rfl⟩
    · exact evaluateTurn_same
  · exact evaluateTurn_same

theorem observed_same {winner : Winner CampaignFailure Json} : Same s (observed now turn winner s) := by
  unfold observed
  split
  · split
    · exact afterCheck_same
    · exact failCheck_same
  · exact failCheck_same
  · exact failCheck_same
  · exact failCheck_same

theorem evaluated_same {race : Race CampaignFailure MutationEvaluation} {winner : Winner CampaignFailure MutationEvaluation} :
    Same s (evaluated now turn race winner s) := by
  unfold evaluated
  split
  · exact concluded_same
  · exact concluded_same
  · exact ⟨rfl, rfl, rfl⟩
  · exact ⟨rfl, rfl, rfl⟩

theorem settled_same {cancelled : Bool} {winner : Winner CampaignFailure MutationEvaluation} :
    Same s (settled now turn cancelled winner s) := by
  unfold settled
  split
  · exact concluded_same
  · exact concluded_same

theorem resume_same (resumed : resume now s = some after) : Same s after := by
  unfold resume at resumed
  split at resumed
  · rcases Option.map_eq_some_iff.mp resumed with ⟨winner, _, rfl⟩
    exact observed_same
  · rcases Option.map_eq_some_iff.mp resumed with ⟨winner, _, rfl⟩
    exact evaluated_same
  · rcases Option.map_eq_some_iff.mp resumed with ⟨winner, _, rfl⟩
    exact settled_same
  · cases resumed

/-- The campaign and the path of a run stay the same. -/
theorem step_same {input : Input} {output : Output} (stepped : step now s input = some (after, output)) :
    after.campaign = s.campaign ∧ after.path = s.path := by
  cases step_cases stepped with
  | abort first => exact ⟨rfl, rfl⟩
  | observation phase taken => exact ⟨rfl, rfl⟩
  | evaluation phase taken => exact ⟨rfl, rfl⟩
  | cleanup phase taken => exact ⟨rfl, rfl⟩
  | resume resumed => exact ⟨(resume_same resumed).campaign, (resume_same resumed).path⟩

end

/-! ### What a history tells of an evaluation -/

abbrev Trace := List (Transition Campaigning Input Output)

/-- The evaluator has been called for a turn. -/
def Called (trace : Trace) (turn : Turn) : Prop := ∃ t ∈ trace, t.output = .evaluate turn

def Returned (trace : Trace) (turn : Turn) (evaluation : MutationEvaluation) : Prop :=
  ∃ t ∈ trace, t.input = .evaluation (.settle (.ok evaluation)) ∧ ∃ race, t.before.phase = .evaluating turn race

/-- An evaluation is awaited before the timer and before an abort. -/
def InTime (trace : Trace) (turn : Turn) (evaluation : MutationEvaluation) : Prop :=
  ∃ t ∈ trace, t.input = .evaluation .deliver ∧
    ∃ race, t.before.phase = .evaluating turn race ∧ race.settled = some (.ok evaluation) ∧ race.winner = none

structure Evaluated (trace : Trace) (turn : Turn) (evaluation : MutationEvaluation) : Prop where
  called : Called trace turn
  returned : Returned trace turn evaluation
  inTime : InTime trace turn evaluation

def BaselineAccepted (trace : Trace) (path : TestedPath) : Prop :=
  ∃ evaluation, Evaluated trace .baseline evaluation ∧ evaluation.suiteResult.outcome = .passed ∧
    cleanupConfirmed (cleanupOf evaluation) path = true ∧ evaluation.probe.status = .passed

variable {trace more : Trace} {turn : Turn} {evaluation : MutationEvaluation} {path : TestedPath}

theorem Evaluated.append (evaluated : Evaluated trace turn evaluation) : Evaluated (trace ++ more) turn evaluation := by
  rcases evaluated.called with ⟨t, called, asks⟩
  rcases evaluated.returned with ⟨u, returned, settles⟩
  rcases evaluated.inTime with ⟨v, inTime, delivers⟩
  exact ⟨⟨t, List.mem_append_left _ called, asks⟩, ⟨u, List.mem_append_left _ returned, settles⟩,
    ⟨v, List.mem_append_left _ inTime, delivers⟩⟩

theorem BaselineAccepted.append (accepted : BaselineAccepted trace path) : BaselineAccepted (trace ++ more) path := by
  rcases accepted with ⟨evaluation, evaluated, shown⟩
  exact ⟨evaluation, evaluated.append, shown⟩

/-- What the history of an evaluation tells of its race. -/
abbrev TheRace (trace : Trace) (turn : Turn) (race : Race CampaignFailure MutationEvaluation) : Prop :=
  race.Told (Called trace turn) (Returned trace turn) (InTime trace turn)

theorem TheRace.append {race : Race CampaignFailure MutationEvaluation} (told : TheRace trace turn race) :
    TheRace (trace ++ more) turn race := by
  apply Race.Told.mono told
  · intro called
    rcases called with ⟨t, member, asks⟩
    exact ⟨t, List.mem_append_left _ member, asks⟩
  · intro value returned
    rcases returned with ⟨t, member, settles⟩
    exact ⟨t, List.mem_append_left _ member, settles⟩
  · intro value inTime
    rcases inTime with ⟨t, member, delivers⟩
    exact ⟨t, List.mem_append_left _ member, delivers⟩

/-- An event of the evaluation that is in progress. -/
theorem TheRace.event {s after : Campaigning} {race next : Race CampaignFailure MutationEvaluation}
    {event : Race.Event CampaignFailure MutationEvaluation} {calls : Bool} (told : TheRace trace turn race)
    (phase : s.phase = .evaluating turn race) (taken : race.step beforeEvaluator event = some (next, calls)) :
    TheRace (trace ++ [⟨s, .evaluation event, if calls then .evaluate turn else .silent, after⟩]) turn next := by
  apply Race.Told.step (told.append) taken
  · intro asks
    exact ⟨_, List.mem_append_right _ (List.mem_singleton_self _), if_pos asks⟩
  · intro value settle _
    exact ⟨_, List.mem_append_right _ (List.mem_singleton_self _), congrArg Input.evaluation settle, race, phase⟩
  · intro value deliver settled none
    exact ⟨_, List.mem_append_right _ (List.mem_singleton_self _), congrArg Input.evaluation deliver, race, phase, settled, none⟩

/-- What won the race was called for, returned and awaited in time. -/
theorem TheRace.won {race : Race CampaignFailure MutationEvaluation} (told : TheRace trace turn race) (sound : race.Sound)
    (won : race.winner = some (.call (.ok evaluation))) : Evaluated trace turn evaluation := by
  have settled := sound.won _ won
  have called := sound.called _ settled
  exact ⟨told.called called, told.returned _ settled, told.awaited _ won⟩

/-! ### What a result of a mutant shows -/

section

variable [NumberText]

/-- The expected signature, a confirmed cleanup and a passed probe. -/
structure Kills (path : TestedPath) (mutant : MutationDefinition) (evaluation : MutationEvaluation) : Prop where
  signature : ∃ signature, mismatchSignature evaluation = .ok (some signature) ∧
    signaturesEqual signature.json (expectedSignature mutant) = true
  cleanup : cleanupConfirmed (cleanupOf evaluation) path = true
  probe : evaluation.probe.status = .passed

variable {mutant : MutationDefinition} {signature : Option Signature} {durationMs laterMs : Rat}

theorem classification_killed (killed : classification mutant evaluation signature path = .killedByBehavioralMismatch) :
    showsExpected mutant signature = true ∧ settledWell evaluation path = true := by
  unfold classification at killed
  split at killed
  · rename_i both
    rwa [Bool.and_eq_true] at both
  · split at killed
    · cases killed
    · split at killed
      · cases killed
      · split at killed <;> cases killed

theorem classify_ok {result : MutationCaseResult} (classified : classify mutant evaluation path durationMs = .ok result) :
    result.id = mutant.id ∧ result.disposition = .attempted ∧
      (result.classification = some .killedByBehavioralMismatch → Kills path mutant evaluation) := by
  simp only [classify, bind_eq_ok, pure_eq_ok, Except.ok.injEq] at classified
  rcases classified with ⟨signature, taken, rfl⟩
  refine ⟨rfl, rfl, fun killed => ?_⟩
  rcases classification_killed (Option.some.inj killed) with ⟨shows, well⟩
  rw [showsExpected, Option.any_eq_true] at shows
  rcases shows with ⟨found, rfl, equal⟩
  rw [settledWell, Bool.and_eq_true, decide_eq_true_eq] at well
  exact ⟨⟨found, taken, equal⟩, well.1, well.2⟩

theorem interruptedResult_ok {reason : JsString} {evaluation : Option MutationEvaluation} {result : MutationCaseResult}
    (interrupted : interruptedResult mutant path reason durationMs evaluation = .ok result) :
    result.id = mutant.id ∧ result.disposition = .attempted ∧ result.classification = some .inconclusive := by
  unfold interruptedResult at interrupted
  split at interrupted
  · cases interrupted
    exact ⟨rfl, rfl, rfl⟩
  · simp only [bind_eq_ok, pure_eq_ok, Except.ok.injEq] at interrupted
    rcases interrupted with ⟨_, _, rfl⟩
    exact ⟨rfl, rfl, rfl⟩

/-- What the loop makes of an evaluation. -/
structure Judged (path : TestedPath) (mutant : MutationDefinition) (bounded : Option Bounded)
    (judged : MutationCaseResult × Option (CampaignStatus × JsString)) : Prop where
  id : judged.1.id = mutant.id
  attempted : judged.1.disposition = .attempted
  killed : judged.1.classification = some .killedByBehavioralMismatch →
    ∃ evaluation confirmed, bounded = some (.evaluated evaluation confirmed) ∧ Kills path mutant evaluation
  goesOn : judged.2 = none → ∃ evaluation, bounded = some (.evaluated evaluation true)
  stops : ∀ status reason, judged.2 = some (status, reason) → status ≠ .complete

theorem threw_judged {bounded : Option Bounded} :
    Judged path mutant bounded (threw mutant path durationMs, some (.incomplete, js "evaluator_threw")) where
  id := rfl
  attempted := rfl
  killed killed := by cases killed
  goesOn stop := by cases stop
  stops status reason stop := by
    cases stop
    decide

theorem judge_judged (bounded : Option Bounded) : Judged path mutant bounded (judge mutant path durationMs laterMs bounded) := by
  unfold judge
  split
  · exact threw_judged
  · rename_i cancelled evaluation _
    split
    · exact threw_judged
    · rename_i result interrupted
      rcases interruptedResult_ok interrupted with ⟨id, attempted, inconclusive⟩
      refine ⟨id, attempted, fun killed => ?_, fun stop => (by cases stop), fun status reason stop => ?_⟩
      · rw [inconclusive] at killed
        cases killed
      · cases stop
        cases cancelled <;> decide
  · rename_i evaluation confirmed
    split
    · exact threw_judged
    · rename_i result classified
      rcases classify_ok classified with ⟨id, attempted, killed⟩
      refine ⟨id, attempted, fun shown => ⟨evaluation, confirmed, rfl, killed shown⟩, fun stop => ?_, fun status reason stop => ?_⟩
      · cases confirmed
        · cases stop
        · exact ⟨evaluation, rfl⟩
      · cases confirmed
        · cases stop
          decide
        · cases stop

/-- A result tells of a mutant. -/
structure Entry (trace : Trace) (path : TestedPath) (mutant : MutationDefinition) (result : MutationCaseResult) : Prop where
  id : result.id = mutant.id
  disposition : result.disposition = .unsupported ↔ (mutant.paths path).support = .string (js "unsupported")
  killed : result.classification = some .killedByBehavioralMismatch →
    ∃ evaluation, Evaluated trace (.mutant mutant) evaluation ∧ Kills path mutant evaluation

theorem Entry.append {result : MutationCaseResult} (entry : Entry trace path mutant result) :
    Entry (trace ++ more) path mutant result where
  id := entry.id
  disposition := entry.disposition
  killed shown := by
    rcases entry.killed shown with ⟨evaluation, evaluated, kills⟩
    exact ⟨evaluation, evaluated.append, kills⟩

theorem unsupported_entry {campaign : MutationCampaign} (member : mutant ∈ unsupported campaign path) : Entry trace path mutant (unsupportedResult path mutant) where
  id := rfl
  disposition := ⟨fun _ => (mem_unsupported.mp member).2, fun _ => rfl⟩
  killed shown := by cases shown

theorem notRun_entry {s : Campaigning} {reason : JsString} (member : mutant ∈ selected s.campaign s.path) :
    Entry trace s.path mutant (notRun s reason mutant) where
  id := rfl
  disposition := by
    constructor
    · intro same
      cases same
    · intro same
      exact absurd same (mem_selected.mp member).2
  killed shown := by cases shown

theorem judged_entry {bounded : Option Bounded} {judged : MutationCaseResult × Option (CampaignStatus × JsString)}
    (made : Judged path mutant bounded judged) (supported : (mutant.paths path).support ≠ .string (js "unsupported"))
    (evaluated : ∀ evaluation confirmed, bounded = some (.evaluated evaluation confirmed) →
      Evaluated trace (.mutant mutant) evaluation) : Entry trace path mutant judged.1 where
  id := made.id
  disposition := by
    rw [made.attempted]
    constructor
    · intro same
      cases same
    · intro same
      exact absurd same supported
  killed shown := by
    rcases made.killed shown with ⟨evaluation, confirmed, same, kills⟩
    exact ⟨evaluation, evaluated evaluation confirmed same, kills⟩

end

end Mirror.Mutation
