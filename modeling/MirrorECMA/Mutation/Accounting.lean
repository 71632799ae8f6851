import MirrorECMA.Mutation.Progress
import MirrorECMA.Reproduction.WellTyped

namespace Mirror.Mutation

open ECMA Machine
open Mirror.Reproduction (Platform object string zeros)

section

variable [NumberText] {now : Nat → Rat} {trace more : Trace} {s : Campaigning} {turn : Turn} {path : TestedPath}
  {campaign : MutationCampaign} {done left : List MutationDefinition} {mutant : MutationDefinition}

/-! ### The loop over the mutants -/

/-- What has been done when the mutants `done` are behind the loop. -/
structure Progress (trace : Trace) (s : Campaigning) (done : List MutationDefinition) : Prop where
  baseline : BaselineAccepted trace s.path
  entries : List.Forall₂ (Entry trace s.path) (unsupported s.campaign s.path ++ done) s.results
  evaluated : ∀ mutant ∈ done, ∃ evaluation, Evaluated trace (.mutant mutant) evaluation

theorem Progress.append (progress : Progress trace s done) : Progress (trace ++ more) s done where
  baseline := progress.baseline.append
  entries := progress.entries.imp fun _ _ entry => entry.append
  evaluated mutant member := by
    rcases progress.evaluated mutant member with ⟨evaluation, evaluated⟩
    exact ⟨evaluation, evaluated.append⟩

/-- A turn of the loop has the mutants before it behind it, and those that are left after it. -/
def Ready (trace : Trace) (s : Campaigning) : Turn → Prop
  | .baseline => True
  | .mutant mutant => ∃ done, Progress trace s done ∧ selected s.campaign s.path = done ++ mutant :: s.rest

theorem Ready.append (ready : Ready trace s turn) : Ready (trace ++ more) s turn := by
  cases turn with
  | baseline => trivial
  | mutant mutant =>
    rcases ready with ⟨done, progress, whole⟩
    exact ⟨done, progress.append, whole⟩

/-- Only these four fields matter to it. -/
theorem Ready.same {other : Campaigning} (ready : Ready trace s turn) (campaign : other.campaign = s.campaign)
    (path : other.path = s.path) (results : other.results = s.results) (rest : other.rest = s.rest) :
    Ready trace other turn := by
  cases turn with
  | baseline => trivial
  | mutant mutant =>
    rcases ready with ⟨done, progress, whole⟩
    refine ⟨done, ⟨?_, ?_, progress.evaluated⟩, ?_⟩
    · rw [path]
      exact progress.baseline
    · rw [campaign, path, results]
      exact progress.entries
    · rw [campaign, path, rest]
      exact whole

/-- What a result tells of a campaign. -/
structure Reported (trace : Trace) (campaign : MutationCampaign) (path : TestedPath) (result : MutationCampaignResult) : Prop where
  entries : List.Forall₂ (Entry trace path) (unsupported campaign path ++ selected campaign path) result.mutants
  requiredOnPath : result.requiredOnPath = (required campaign path).length
  met : result.acceptance.1 = .met → BaselineAccepted trace path ∧
    ∀ case ∈ result.mutants, case.id ∈ (required campaign path).map MutationDefinition.id →
      case.disposition = .attempted ∧ case.classification = some .killedByBehavioralMismatch
  complete : result.status = .complete →
    ∀ mutant ∈ selected campaign path, ∃ evaluation, Evaluated trace (.mutant mutant) evaluation

/-- What holds in every state of a run. -/
def Accounted (trace : Trace) (s : Campaigning) : Prop :=
  match s.phase with
  | .observing turn _ => Ready trace s turn
  | .evaluating turn race => Ready trace s turn ∧ race.Sound ∧ TheRace trace turn race
  | .cleaning turn _ _ => Ready trace s turn
  | .finished (.ok result) => Reported trace s.campaign s.path result
  | .finished (.error _) => True

/-! ### The end -/

theorem entries_ids {mutants : List MutationDefinition} {results : List MutationCaseResult}
    (entries : List.Forall₂ (Entry trace path) mutants results) :
    results.map MutationCaseResult.id = mutants.map MutationDefinition.id := by
  induction entries with
  | nil => rfl
  | cons entry _ ih => rw [List.map_cons, List.map_cons, entry.id, ih]

theorem distinct_ids (declared : Declared campaign.mutants) :
    ((unsupported campaign path ++ selected campaign path).map MutationDefinition.id).Nodup :=
  (unsupported_selected_perm.map MutationDefinition.id).nodup_iff.mpr declared.distinct

/-- The mutants that have no result are those that the loop has left. -/
theorem filter_left (declared : Declared campaign.mutants) (whole : selected campaign path = done ++ left)
    {results : List MutationCaseResult} (entries : List.Forall₂ (Entry trace path) (unsupported campaign path ++ done) results) :
    ((selected campaign path).filter fun mutant => !decide (mutant.id ∈ results.map MutationCaseResult.id)) = left := by
  have distinct : ((unsupported campaign path ++ selected campaign path).map MutationDefinition.id).Nodup := distinct_ids declared
  rw [entries_ids entries, whole, List.filter_append]
  rw [whole, ← List.append_assoc, List.map_append, List.nodup_append] at distinct
  have behind : (done.filter fun mutant =>
      !decide (mutant.id ∈ (unsupported campaign path ++ done).map MutationDefinition.id)) = [] := by
    rw [List.filter_eq_nil_iff]
    intro mutant member
    have among : mutant.id ∈ (unsupported campaign path ++ done).map MutationDefinition.id :=
      List.mem_map_of_mem (List.mem_append_right _ member)
    simp only [among, decide_true, Bool.not_true, Bool.false_eq_true, not_false_eq_true]
  have ahead : (left.filter fun mutant =>
      !decide (mutant.id ∈ (unsupported campaign path ++ done).map MutationDefinition.id)) = left := by
    rw [List.filter_eq_self]
    intro mutant member
    have other : mutant.id ∉ (unsupported campaign path ++ done).map MutationDefinition.id := fun among =>
      distinct.2.2 _ among _ (List.mem_map_of_mem member) rfl
    simp only [other, decide_false, Bool.not_false]
  rw [behind, ahead, List.nil_append]

theorem acceptance_met {results : List MutationCaseResult} {status : CampaignStatus} {stopReason : JsString}
    (met : (acceptance s results status stopReason).1 = .met) :
    ∀ case ∈ results, case.id ∈ (required s.campaign s.path).map MutationDefinition.id →
      case.disposition = .attempted ∧ case.classification = some .killedByBehavioralMismatch := by
  intro case member among
  have counted : case ∈ requiredResults s results := List.mem_filter.mpr ⟨member, decide_eq_true among⟩
  unfold acceptance at met
  dsimp only at met
  split at met
  · cases met
  · rename_i whole
    split at met
    · cases met
    · split at met
      · cases met
      · rename_i killed
        constructor
        · by_contra other
          exact whole (.inr (.inr (List.any_eq_true.mpr ⟨case, counted, decide_eq_true other⟩)))
        · by_contra other
          exact killed (List.any_eq_true.mpr ⟨case, counted, decide_eq_true other⟩)

theorem unsupported_entries : List.Forall₂ (Entry trace path) (unsupported campaign path)
    ((unsupported campaign path).map (unsupportedResult path)) := by
  rw [List.forall₂_map_right_iff, List.forall₂_same]
  intro mutant member
  exact unsupported_entry member

theorem notRun_entries {reason : JsString} (among : ∀ mutant ∈ left, mutant ∈ selected s.campaign s.path) :
    List.Forall₂ (Entry trace s.path) left (left.map (notRun s reason)) := by
  rw [List.forall₂_map_right_iff, List.forall₂_same]
  intro mutant member
  exact notRun_entry (among mutant member)

theorem finish_accounted {status : CampaignStatus} {reason : JsString} (declared : Declared s.campaign.mutants)
    (baseline : BaselineAccepted trace s.path)
    (entries : List.Forall₂ (Entry trace s.path) (unsupported s.campaign s.path ++ done) s.results)
    (whole : selected s.campaign s.path = done ++ left)
    (complete : status = .complete → ∀ mutant ∈ selected s.campaign s.path, ∃ evaluation, Evaluated trace (.mutant mutant) evaluation) :
    Accounted trace (finish s status reason) := by
  have others := filter_left declared whole entries
  refine ⟨?_, rfl, fun met => ⟨baseline, acceptance_met met⟩, complete⟩
  show List.Forall₂ (Entry trace s.path) (unsupported s.campaign s.path ++ selected s.campaign s.path) (s.results ++ _)
  have split : unsupported s.campaign s.path ++ selected s.campaign s.path = (unsupported s.campaign s.path ++ done) ++ left := by
    rw [whole, List.append_assoc]
  rw [others, split]
  apply List.rel_append entries
  apply notRun_entries
  intro mutant member
  rw [whole]
  exact List.mem_append_right _ member

/-! ### What follows an await -/

theorem failCheck_accounted {failure : CampaignFailure} (declared : Declared s.campaign.mutants) (ready : Ready trace s turn) :
    Accounted trace (failCheck turn failure s) := by
  cases turn with
  | baseline => exact True.intro
  | mutant mutant =>
    rcases ready with ⟨done, progress, whole⟩
    exact finish_accounted declared progress.baseline progress.entries whole (fun same => by cases same)

theorem beginCheck_accounted (declared : Declared s.campaign.mutants) (ready : Ready trace s turn) :
    Accounted trace (beginCheck now turn s) := by
  unfold beginCheck
  split
  · exact failCheck_accounted (s := tick s) declared (ready.same rfl rfl rfl rfl)
  · exact ready.same rfl rfl rfl rfl

theorem nextMutant_accounted (declared : Declared s.campaign.mutants) (progress : Progress trace s done)
    (whole : selected s.campaign s.path = done ++ s.rest) : Accounted trace (nextMutant now s) := by
  unfold nextMutant
  split
  · rename_i none
    rw [none] at whole
    apply finish_accounted declared progress.baseline progress.entries whole
    intro _ mutant member
    rw [whole, List.append_nil] at member
    exact progress.evaluated mutant member
  · rename_i mutant rest some
    rw [some] at whole
    split
    · exact finish_accounted declared progress.baseline progress.entries whole (fun same => by cases same)
    · split
      · exact finish_accounted (s := tick s) declared progress.baseline progress.entries whole (fun same => by cases same)
      · apply beginCheck_accounted (s := { tick s with rest := rest }) declared
        exact ⟨done, ⟨progress.baseline, progress.entries, progress.evaluated⟩, whole⟩

/-- The evaluation that is bounded has been made in time. -/
def Bounds (trace : Trace) (turn : Turn) (bounded : Option Bounded) : Prop :=
  ∀ evaluation confirmed, bounded = some (.evaluated evaluation confirmed) → Evaluated trace turn evaluation

theorem afterMutant_accounted {bounded : Option Bounded} (declared : Declared s.campaign.mutants)
    (ready : Ready trace s (.mutant mutant)) (bounds : Bounds trace (.mutant mutant) bounded) :
    Accounted trace (afterMutant now mutant bounded s) := by
  rcases ready with ⟨done, progress, whole⟩
  have judged : Judged s.path mutant bounded
      (judge mutant s.path (now s.reads - s.started) (now (s.reads + 1) - s.started) bounded) := judge_judged bounded
  have supported : mutant ∈ selected s.campaign s.path := by
    rw [whole]
    exact List.mem_append_right _ List.mem_cons_self
  have entry := judged_entry judged (mem_selected.mp supported).2 bounds
  have entries : List.Forall₂ (Entry trace s.path) (unsupported s.campaign s.path ++ (done ++ [mutant])) (s.results ++
      [(judge mutant s.path (now s.reads - s.started) (now (s.reads + 1) - s.started) bounded).1]) := by
    rw [← List.append_assoc]
    exact List.rel_append progress.entries (.cons entry .nil)
  have split : selected s.campaign s.path = (done ++ [mutant]) ++ s.rest := by rw [whole, List.append_assoc, List.singleton_append]
  unfold afterMutant
  dsimp only
  split
  · rename_i status reason stop
    exact finish_accounted (s := { tick s with results := _ }) declared progress.baseline entries split
      (fun same => absurd same (judged.stops status reason stop))
  · rename_i goesOn
    refine nextMutant_accounted (s := { tick s with results := _ }) declared ⟨progress.baseline, entries, ?_⟩ split
    intro other member
    rcases List.mem_append.mp member with member | member
    · exact progress.evaluated other member
    · rw [List.mem_singleton.mp member]
      rcases judged.goesOn goesOn with ⟨evaluation, same⟩
      exact ⟨evaluation, bounds evaluation true same⟩

omit [NumberText] in
theorem judgeBaseline_survived {durationMs : Rat} {bounded : Option Bounded}
    (survived : (judgeBaseline path durationMs bounded).classification = some .survived) :
    ∃ evaluation, bounded = some (.evaluated evaluation true) ∧ evaluation.suiteResult.outcome = .passed ∧
      cleanupConfirmed (cleanupOf evaluation) path = true ∧ evaluation.probe.status = .passed := by
  unfold judgeBaseline at survived
  split at survived
  · rename_i evaluation confirmed
    cases accepted : baselineAccepted evaluation path && confirmed with
    | false =>
      rw [accepted] at survived
      cases survived
    | true =>
      rw [Bool.and_eq_true, baselineAccepted, Bool.and_eq_true, Bool.and_eq_true, decide_eq_true_eq,
        decide_eq_true_eq] at accepted
      exact ⟨evaluation, by rw [accepted.2], accepted.1.1.1, accepted.1.1.2, accepted.1.2⟩
  · cases survived
  · cases survived
  · cases survived
  · cases survived

theorem afterBaseline_accounted {bounded : Option Bounded} (declared : Declared s.campaign.mutants)
    (bounds : Bounds trace .baseline bounded) : Accounted trace (afterBaseline now bounded s) := by
  unfold afterBaseline
  dsimp only
  split
  · rename_i survived
    rcases judgeBaseline_survived survived with ⟨evaluation, same, shown⟩
    have whole : selected s.campaign s.path = [] ++ selected s.campaign s.path := rfl
    refine nextMutant_accounted (s := { tick s with baseline := _, results := _, rest := _ }) declared
      ⟨⟨evaluation, bounds evaluation true same, shown⟩, ?_, fun _ member => by cases member⟩ whole
    rw [List.append_nil]
    exact unsupported_entries
  · refine ⟨?_, rfl, fun met => (by cases met), fun complete => ?_⟩
    · exact List.rel_append unsupported_entries (notRun_entries (s := s) fun _ member => member)
    · revert complete
      show (if s.aborted then CampaignStatus.cancelled else .baselineFailed) = .complete → _
      split <;> intro same <;> cases same

theorem concluded_accounted {bounded : Option Bounded} (declared : Declared s.campaign.mutants) (ready : Ready trace s turn)
    (bounds : Bounds trace turn bounded) : Accounted trace (concluded now turn bounded s) := by
  cases turn with
  | baseline => exact afterBaseline_accounted declared bounds
  | mutant mutant => exact afterMutant_accounted declared ready bounds

theorem evaluateTurn_accounted (declared : Declared s.campaign.mutants) (ready : Ready trace s turn) :
    Accounted trace (evaluateTurn now turn s) := by
  unfold evaluateTurn
  dsimp only
  split
  · exact concluded_accounted (s := { tick s with started := now s.reads }) declared (ready.same rfl rfl rfl rfl)
      (fun _ _ same => by cases same)
  · exact ⟨ready.same rfl rfl rfl rfl, Race.start_sound, Race.start_told⟩

theorem afterCheck_accounted (declared : Declared s.campaign.mutants) (ready : Ready trace s turn) :
    Accounted trace (afterCheck now turn s) := by
  unfold afterCheck
  split
  · split
    · exact True.intro
    · exact evaluateTurn_accounted declared ready
  · exact evaluateTurn_accounted declared ready

theorem observed_accounted {winner : Winner CampaignFailure Json} (declared : Declared s.campaign.mutants)
    (ready : Ready trace s turn) : Accounted trace (observed now turn winner s) := by
  unfold observed
  split
  · split
    · exact afterCheck_accounted declared ready
    · exact failCheck_accounted declared ready
  · exact failCheck_accounted declared ready
  · exact failCheck_accounted declared ready
  · exact failCheck_accounted declared ready

theorem resume_accounted {next : Campaigning} (declared : Declared s.campaign.mutants) (accounted : Accounted trace s)
    (resumed : resume now s = some next) : Accounted trace next := by
  unfold Accounted at accounted
  unfold resume at resumed
  cases phase : s.phase with
  | observing turn race =>
    simp only [phase] at accounted resumed
    rcases Option.map_eq_some_iff.mp resumed with ⟨winner, _, rfl⟩
    exact observed_accounted declared accounted
  | evaluating turn race =>
    simp only [phase] at accounted resumed
    rcases Option.map_eq_some_iff.mp resumed with ⟨winner, won, rfl⟩
    rcases accounted with ⟨ready, sound, told⟩
    unfold evaluated
    split
    · rename_i evaluation
      apply concluded_accounted declared ready
      intro other confirmed same
      cases same
      exact told.won sound won
    · exact concluded_accounted declared ready (fun _ _ same => by cases same)
    · exact ready.same rfl rfl rfl rfl
    · exact ready.same rfl rfl rfl rfl
  | cleaning turn cancelled race =>
    simp only [phase] at accounted resumed
    rcases Option.map_eq_some_iff.mp resumed with ⟨winner, _, rfl⟩
    unfold settled
    split
    · exact concluded_accounted declared accounted (fun _ _ same => by cases same)
    · exact concluded_accounted declared accounted (fun _ _ same => by cases same)
  | finished outcome =>
    simp only [phase] at resumed
    cases resumed

/-! ### Runs -/

theorem Reported.append {result : MutationCampaignResult} (reported : Reported trace campaign path result) :
    Reported (trace ++ more) campaign path result where
  entries := reported.entries.imp fun _ _ entry => entry.append
  requiredOnPath := reported.requiredOnPath
  met met := ⟨(reported.met met).1.append, (reported.met met).2⟩
  complete complete mutant member := by
    rcases reported.complete complete mutant member with ⟨evaluation, evaluated⟩
    exact ⟨evaluation, evaluated.append⟩

theorem Accounted.append (accounted : Accounted trace s) : Accounted (trace ++ more) s := by
  unfold Accounted at *
  cases phase : s.phase with
  | observing turn race =>
    simp only [phase] at accounted ⊢
    exact accounted.append
  | evaluating turn race =>
    simp only [phase] at accounted ⊢
    exact ⟨accounted.1.append, accounted.2.1, accounted.2.2.append⟩
  | cleaning turn cancelled race =>
    simp only [phase] at accounted ⊢
    exact accounted.append
  | finished outcome =>
    simp only [phase] at accounted ⊢
    cases outcome with
    | error failure => trivial
    | ok result => exact accounted.append

theorem Accounted.aborted (accounted : Accounted trace s) :
    Accounted trace { s with aborted := true, phase := s.phase.abort } := by
  unfold Accounted at *
  cases phase : s.phase with
  | observing turn race =>
    simp only [phase, Phase.abort] at accounted ⊢
    exact accounted.same rfl rfl rfl rfl
  | evaluating turn race =>
    simp only [phase, Phase.abort] at accounted ⊢
    exact ⟨accounted.1.same rfl rfl rfl rfl, accounted.2.1.abort, accounted.2.2.abort⟩
  | cleaning turn cancelled race =>
    simp only [phase, Phase.abort] at accounted ⊢
    exact accounted.same rfl rfl rfl rfl
  | finished outcome =>
    simp only [phase, Phase.abort] at accounted ⊢
    cases outcome <;> exact accounted

theorem Accounted.step {input : Input} {output : Output} {after : Campaigning} (declared : Declared s.campaign.mutants)
    (accounted : Accounted trace s) (stepped : step now s input = some (after, output)) :
    Accounted (trace ++ [⟨s, input, output, after⟩]) after := by
  cases step_cases stepped with
  | abort first => exact accounted.append.aborted
  | observation phase taken =>
    simp only [Accounted, phase] at accounted
    exact accounted.append.same rfl rfl rfl rfl
  | evaluation phase taken =>
    simp only [Accounted, phase] at accounted
    exact ⟨accounted.1.append.same rfl rfl rfl rfl, accounted.2.1.step taken, accounted.2.2.event phase taken⟩
  | cleanup phase taken =>
    simp only [Accounted, phase] at accounted
    exact accounted.append.same rfl rfl rfl rfl
  | resume resumed => exact resume_accounted declared accounted.append resumed

/-- The state that a run begins with. -/
theorem runMutationCampaign_ok {campaignInput : Json} {policy : MutationCampaignPolicy} {aborted : Bool} {initial : Campaigning}
    (begun : runMutationCampaign now campaignInput path policy aborted = .ok initial) :
    validateMutationCampaign none campaignInput = .ok initial.campaign ∧ initial.path = path ∧ initial.aborted = aborted ∧
      ∃ s, initial = beginCheck now .baseline s := by
  simp only [runMutationCampaign, bind_eq_ok, pure_eq_ok, Except.ok.injEq] at begun
  rcases begun with ⟨campaign, valid, checked, _, rfl⟩
  have same (s : Campaigning) : Same s (beginCheck now .baseline s) := beginCheck_same
  refine ⟨?_, (same _).path, (same _).aborted, _, rfl⟩
  rw [(same _).campaign]
  exact valid

theorem run_accounted {campaignInput : Json} {policy : MutationCampaignPolicy} {aborted : Bool} {initial final : Campaigning}
    (begun : runMutationCampaign now campaignInput path policy aborted = .ok initial) (run : Run (step now) initial trace final) :
    final.campaign = initial.campaign ∧ final.path = path ∧ Declared final.campaign.mutants ∧ Accounted trace final := by
  rcases runMutationCampaign_ok begun with ⟨valid, samePath, _, s, rfl⟩
  have declared := validateMutationCampaign_ok valid
  apply run.invariant (P := fun trace state => state.campaign = (beginCheck now .baseline s).campaign ∧ state.path = path ∧
    Declared state.campaign.mutants ∧ Accounted trace state)
  · have same : Same s (beginCheck now .baseline s) := beginCheck_same
    refine ⟨rfl, samePath, declared, beginCheck_accounted ?_ trivial⟩
    rw [← same.campaign]
    exact declared
  · intro trace state input output after holds taken
    rcases holds with ⟨campaign, path, declared, accounted⟩
    rcases step_same taken with ⟨sameCampaign, samePath⟩
    refine ⟨sameCampaign.trans campaign, samePath.trans path, ?_, accounted.step declared taken⟩
    rw [sameCampaign]
    exact declared

/-- Every mutant has one result, and no required one is missing where acceptance is met. -/
structure Accounting (trace : Trace) (campaign : MutationCampaign) (path : TestedPath) (result : MutationCampaignResult) : Prop where
  distinct : (campaign.mutants.map MutationDefinition.id).Nodup
  once : (result.mutants.map MutationCaseResult.id).Perm (campaign.mutants.map MutationDefinition.id)
  disposition : ∀ mutant ∈ campaign.mutants, ∀ case ∈ result.mutants, case.id = mutant.id →
    (case.disposition = .unsupported ↔ (mutant.paths path).support = .string (js "unsupported"))
  baseline : result.acceptance.1 = .met → BaselineAccepted trace path
  required : result.acceptance.1 = .met → ∀ mutant ∈ campaign.mutants, (mutant.paths path).support = .string (js "required") →
    (∃ case ∈ result.mutants, case.id = mutant.id ∧ case.disposition = .attempted) ∧
      ∃ evaluation, Evaluated trace (.mutant mutant) evaluation ∧ Kills path mutant evaluation

/-- The result with the id of a mutant tells of this mutant. -/
theorem entry_of_id {result : MutationCampaignResult} {case : MutationCaseResult} (declared : Declared campaign.mutants)
    (reported : Reported trace campaign path result) (member : mutant ∈ campaign.mutants) (among : case ∈ result.mutants)
    (same : case.id = mutant.id) : Entry trace path mutant case := by
  rcases forall₂_right reported.entries among with ⟨other, found, entry⟩
  have other_member := unsupported_selected_perm.subset found
  rw [← List.inj_on_of_nodup_map declared.distinct other_member member (entry.id.symm.trans same)]
  exact entry

theorem Reported.accounting {result : MutationCampaignResult} (declared : Declared campaign.mutants)
    (reported : Reported trace campaign path result) : Accounting trace campaign path result where
  distinct := declared.distinct
  once := by
    rw [entries_ids reported.entries]
    exact unsupported_selected_perm.map _
  disposition mutant member case among same := (entry_of_id declared reported member among same).disposition
  baseline met := (reported.met met).1
  required met mutant member support := by
    have counted : mutant.id ∈ (Mutation.required campaign path).map MutationDefinition.id :=
      List.mem_map_of_mem (mem_required.mpr ⟨member, support⟩)
    have listed : mutant.id ∈ result.mutants.map MutationCaseResult.id := by
      rw [entries_ids reported.entries]
      exact List.mem_map_of_mem (unsupported_selected_perm.symm.subset member)
    rcases List.mem_map.mp listed with ⟨case, among, same⟩
    rcases (reported.met met).2 case among (same ▸ counted) with ⟨attempted, killed⟩
    exact ⟨⟨case, among, same, attempted⟩, (entry_of_id declared reported member among same).killed killed⟩

/-- Whatever the evaluator and the observer do, a result accounts for every mutant of the campaign. -/
theorem runMutationCampaign_accounts {campaignInput : Json} {policy : MutationCampaignPolicy} {aborted : Bool}
    {initial final : Campaigning} {result : MutationCampaignResult}
    (begun : runMutationCampaign now campaignInput path policy aborted = .ok initial) (run : Run (step now) initial trace final)
    (finished : final.phase = .finished (.ok result)) :
    ∃ campaign, validateMutationCampaign none campaignInput = .ok campaign ∧ Accounting trace campaign path result := by
  rcases run_accounted begun run with ⟨campaign, samePath, declared, accounted⟩
  simp only [Accounted, finished] at accounted
  rw [samePath] at accounted
  refine ⟨initial.campaign, (runMutationCampaign_ok begun).1, ?_⟩
  rw [← campaign]
  exact accounted.accounting declared

end

/-! ### A run -/

def identityOf (id : String) : Json := object [("id", string id), ("sha256", zeros 64)]

def protectedOf : Json :=
  object (PROTECTED_IDENTITIES.map (fun key => (key, identityOf key)) ++
    [("probes", .array [identityOf "p"]), ("executionProfiles", .array [identityOf "e"])])

/-- A campaign of one mutant with this support on both paths. -/
def campaignOf (support : Json) : Json :=
  object [
    ("schema", string "mirrorecma.mutation-campaign/v1"), ("id", string "c"), ("revision", .number (.ofNat 1)),
    ("evidenceLinks", object [("catalogSelectionRef", object [("schemaVersion", string "mirrors.framework-catalog/v1"),
      ("selectionKind", string "sha256"), ("selectionValue", zeros 64)])]),
    ("denominator", .number (.ofNat 1)), ("protected", protectedOf),
    ("mutants", .array [object [
      ("id", string "m"), ("implementation", identityOf "i"),
      ("expected", object [("kind", string "behavioral_mismatch"), ("code", string "replay_mismatch"),
        ("traceIndex", .number (.ofNat 0)), ("stateIndex", .number (.ofNat 1)), ("action", string "a")]),
      ("resetPlanId", string "r"), ("probeIds", .array [string "p"]),
      ("paths", object [("local", object [("support", support)]), ("gate", object [("support", support)])])]])]

def wide : MutationCampaignPolicy := ⟨.ofNat 1, .ofNat 9, .ofNat 9, .ofNat 9⟩

/-- An evaluation that passes. -/
def passing : MutationEvaluation := ⟨⟨.passed, .succeeded, none, none⟩, none, ⟨.passed, none⟩⟩

/-- The mismatch that the mutant is expected to show. -/
def mismatching : MutationEvaluation :=
  ⟨⟨.mismatch, .succeeded, some ⟨.replay, .mismatch, js "replay_mismatch", some (.ofNat 0), some (.ofNat 1)⟩, some (js "a")⟩,
    none, ⟨.passed, none⟩⟩

/-- One turn: the inputs are observed as they were recorded, and the evaluation returns at once. -/
def turnInputs (evaluation : MutationEvaluation) : List Input :=
  [.observation .begin, .observation (.settle (.ok protectedOf)), .observation .deliver, .resume,
    .evaluation .begin, .evaluation (.settle (.ok evaluation)), .evaluation .deliver, .resume]

/-- The run has returned a result that passes a test. -/
def returns (test : MutationCampaignResult → Bool) (_ : Trace) (s : Campaigning) : Bool :=
  match s.phase with
  | .finished (.ok result) => test result
  | _ => false

theorem returns_result {test : MutationCampaignResult → Bool} {trace : Trace} {s : Campaigning} (returned : returns test trace s = true) :
    ∃ result, s.phase = .finished (.ok result) ∧ test result = true := by
  unfold returns at returned
  split at returned
  · rename_i result phase
    exact ⟨result, phase, returned⟩
  · cases returned

theorem killed_run : letI := integerNotation
    reaches (step fun _ => 0) (runMutationCampaign (fun _ => 0) (campaignOf (string "required")) .onLocal wide false)
      (turnInputs passing ++ turnInputs mismatching) (returns fun result => decide (result.acceptance.1 = .met)) = true := by
  decide +kernel

theorem killed_run_accounts : letI := integerNotation
    ∃ trace campaign result, validateMutationCampaign none (campaignOf (string "required")) = .ok campaign ∧
      result.acceptance.1 = .met ∧ Accounting trace campaign .onLocal result := by
  let := integerNotation
  rcases reaches_run killed_run with ⟨initial, trace, final, begun, run, returned⟩
  rcases returns_result returned with ⟨result, finished, met⟩
  rcases runMutationCampaign_accounts begun run finished with ⟨campaign, valid, accounting⟩
  exact ⟨trace, campaign, result, valid, of_decide_eq_true met, accounting⟩

end Mirror.Mutation
