import MirrorECMA.Machine.Race
import MirrorECMA.Machine.Run
import MirrorECMA.Mutation.Evaluate

namespace Mirror.Mutation

open ECMA Machine
open Mirror.Reproduction (canonical)

/-! ### Results -/

inductive CampaignStatus where
  | complete
  | incomplete
  | cancelled
  | baselineFailed
  deriving DecidableEq

inductive AcceptanceStatus where
  | met
  | unmet
  | incomplete
  deriving DecidableEq

structure MutationCampaignResult where
  campaignId : JsString
  revision : Double
  testedPath : TestedPath
  denominator : Double
  requiredOnPath : Nat
  status : CampaignStatus
  acceptance : AcceptanceStatus × List JsString
  baseline : MutationCaseResult
  mutants : List MutationCaseResult

structure MutationCampaignPolicy where
  maxMutants : Double
  totalBudgetMs : Double
  perRunBudgetMs : Double
  cleanupBudgetMs : Double

/-- A policy that has passed its checks; what the timers wait for is not observed. -/
structure Policy where
  maxMutants : Nat
  totalBudgetMs : Nat

def policyInteger (high : Nat) (value : Double) : Validated Nat := do
  let value ← Reading.integer .typeError 1 high (.number value)
  return (value.toInt?.getD 0).toNat

def validatePolicy (value : MutationCampaignPolicy) : Validated Policy := do
  let maxMutants ← policyInteger 256 value.maxMutants
  let totalBudgetMs ← policyInteger 0x7fffffff value.totalBudgetMs
  let _ ← policyInteger 0x7fffffff value.perRunBudgetMs
  let _ ← policyInteger 0x7fffffff value.cleanupBudgetMs
  return ⟨maxMutants, totalBudgetMs⟩

/-! ### Support on a path -/

/-- `mutant.paths[path].support === literal`. -/
def supportIs (path : TestedPath) (literal : String) (mutant : MutationDefinition) : Bool :=
  Reading.equalsText (mutant.paths path).support literal

def selected (campaign : MutationCampaign) (path : TestedPath) : List MutationDefinition :=
  campaign.mutants.filter fun mutant => !supportIs path "unsupported" mutant

def unsupported (campaign : MutationCampaign) (path : TestedPath) : List MutationDefinition :=
  campaign.mutants.filter (supportIs path "unsupported")

def required (campaign : MutationCampaign) (path : TestedPath) : List MutationDefinition :=
  (selected campaign path).filter (supportIs path "required")

/-! ### The state of a run -/

/-- The unmutated implementation, or a mutant. -/
inductive Turn where
  | baseline
  | mutant (mutant : MutationDefinition)

inductive Phase where
  | observing (turn : Turn) (race : Race CampaignFailure Json)
  | evaluating (turn : Turn) (race : Race CampaignFailure MutationEvaluation)
  /-- After a timeout or a cancellation, until the evaluation settles or the time for that is over. -/
  | cleaning (turn : Turn) (cancelled : Bool) (race : Race CampaignFailure MutationEvaluation)
  | finished (outcome : Validated MutationCampaignResult)

structure Campaigning where
  campaign : MutationCampaign
  path : TestedPath
  policy : Policy
  began : Rat
  started : Rat
  reads : Nat
  aborted : Bool
  baseline : MutationCaseResult
  results : List MutationCaseResult
  rest : List MutationDefinition
  phase : Phase

/-- What `boundedEvaluation` returns. -/
inductive Bounded where
  | evaluated (evaluation : MutationEvaluation) (cleanupConfirmed : Bool)
  | interrupted (cancelled : Bool) (evaluation : Option MutationEvaluation) (cleanupConfirmed : Bool)

/-- The result of a case that has shown nothing. -/
def bareResult (id : JsString) (path : TestedPath) (disposition : Disposition) (classification : Option MutationClassification)
    (expected : Option Json) (reasonCode : JsString) (durationMs : Rat) : MutationCaseResult :=
  ⟨id, path, disposition, classification, expected, none, none, none, some reasonCode, durationMs, none⟩

/-! ### The end of a run -/

def requiredResults (s : Campaigning) (results : List MutationCaseResult) : List MutationCaseResult :=
  let requiredIds := (required s.campaign s.path).map MutationDefinition.id
  results.filter fun result => decide (result.id ∈ requiredIds)

def acceptance (s : Campaigning) (results : List MutationCaseResult) (status : CampaignStatus) (stopReason : JsString) :
    AcceptanceStatus × List JsString :=
  let requiredResults := requiredResults s results
  if status ≠ .complete ∨ requiredResults.length ≠ ((required s.campaign s.path).map MutationDefinition.id).dedup.length ∨
      requiredResults.any (fun result => decide (result.disposition ≠ .attempted)) then
    (.incomplete, [stopReason])
  else if requiredResults.any (fun result => decide (result.classification = some .survived)) then
    (.unmet, [js "required_mutant_survived"])
  else if requiredResults.any (fun result => decide (result.classification ≠ some .killedByBehavioralMismatch)) then
    (.incomplete, [js "required_mutant_inconclusive"])
  else (.met, [])

def notRun (s : Campaigning) (reason : JsString) (mutant : MutationDefinition) : MutationCaseResult :=
  bareResult mutant.id s.path .notRun none (some mutant.expected) reason 0

def unsupportedResult (path : TestedPath) (mutant : MutationDefinition) : MutationCaseResult :=
  { bareResult mutant.id path .unsupported none (some mutant.expected) [] 0 with
    reasonCode := (mutant.paths path).reason.bind fun reason => match reason with
      | .string text => some text
      | _ => none }

def resultOf (s : Campaigning) (status : CampaignStatus) (acceptance : AcceptanceStatus × List JsString)
    (results : List MutationCaseResult) : MutationCampaignResult :=
  ⟨s.campaign.id, s.campaign.revision, s.path, s.campaign.denominator, (required s.campaign s.path).length, status, acceptance,
    s.baseline, results⟩

/-- What follows the loop over the mutants. -/
def finish (s : Campaigning) (status : CampaignStatus) (stopReason : JsString) : Campaigning :=
  let reason := if status = .cancelled then js "campaign_cancelled" else stopReason
  let left := (selected s.campaign s.path).filter fun mutant =>
    !decide (mutant.id ∈ s.results.map MutationCaseResult.id)
  let results := s.results ++ left.map (notRun s reason)
  { s with phase := .finished (.ok (resultOf s status (acceptance s results status stopReason) results)) }

/-! ### The protected inputs -/

def totalBudget : CampaignFailure :=
  campaignError "campaign_total_budget" (js "campaign budget expired during protected identity observation")

def cancelledBefore : CampaignFailure :=
  campaignError "campaign_cancelled" (js "campaign cancelled before identity observation")

def cancelledDuring : CampaignFailure :=
  campaignError "campaign_cancelled" (js "campaign cancelled during identity observation")

def observationTimeout : CampaignFailure :=
  campaignError "campaign_protected_timeout" (js "protected identity observation timed out")

def protectedDrift : CampaignFailure := campaignError "campaign_protected_drift" (js "protected campaign inputs drifted")

/-- The reason for which the loop stops when `checkProtected` throws. -/
def stopReasonOf : CampaignFailure → JsString
  | .campaign code _ => code
  | _ => js "campaign_protected_drift"

/-- `checkProtected` has thrown. -/
def failCheck (turn : Turn) (failure : CampaignFailure) (s : Campaigning) : Campaigning :=
  match turn with
  | .baseline => { s with phase := .finished (.error failure) }
  | .mutant _ => finish s .incomplete (stopReasonOf failure)

def assertMutationProtectedInputs [NumberText] (campaign : MutationCampaign) (observed : Json) : Validated Unit :=
  if canonical campaign.protectedInputs = canonical observed then .ok () else .error protectedDrift

section

variable [NumberText] (now : Nat → Rat)

def remaining (s : Campaigning) : Rat := s.policy.totalBudgetMs - (now s.reads - s.began)

def tick (s : Campaigning) : Campaigning := { s with reads := s.reads + 1 }

def beginCheck (turn : Turn) (s : Campaigning) : Campaigning :=
  if remaining now s ≤ 0 then failCheck turn totalBudget (tick s)
  else { tick s with phase := .observing turn .start }

/-! ### The mutants -/

/-- The head of the loop. -/
def nextMutant (s : Campaigning) : Campaigning :=
  match s.rest with
  | [] => finish s .complete (js "campaign_stopped")
  | mutant :: rest =>
    if s.aborted then finish s .cancelled (js "campaign_cancelled")
    else if remaining now s ≤ 0 then finish (tick s) .incomplete (js "total_budget_exhausted")
    else beginCheck now (.mutant mutant) { tick s with rest := rest }

def threw (mutant : MutationDefinition) (path : TestedPath) (durationMs : Rat) : MutationCaseResult :=
  bareResult mutant.id path .attempted (some .infrastructureFailure) (some mutant.expected) (js "evaluator_threw") durationMs

def interruptedResult (mutant : MutationDefinition) (path : TestedPath) (reason : JsString) (durationMs : Rat)
    (evaluation : Option MutationEvaluation) : Validated MutationCaseResult :=
  let bare := bareResult mutant.id path .attempted (some .inconclusive) (some mutant.expected) reason durationMs
  match evaluation with
  | none => .ok bare
  | some evaluation => do
    let signature ← mismatchSignature evaluation
    return { bare with
      observed := some (signature.bind Reproduction.Signature.primary), cleanup := some (cleanupOf evaluation),
      probe := some evaluation.probe, rawEvaluation := some evaluation }

def interruption (cancelled : Bool) : JsString := js (if cancelled then "campaign_cancelled" else "run_timeout")

/-- The result of a mutant, and the status and the reason with which the loop stops after it. -/
def judge (mutant : MutationDefinition) (path : TestedPath) (durationMs laterMs : Rat) (bounded : Option Bounded) :
    MutationCaseResult × Option (CampaignStatus × JsString) :=
  let stop := some (.incomplete, js "evaluator_threw")
  match bounded with
  | none => (threw mutant path durationMs, stop)
  | some (.interrupted cancelled evaluation _) =>
    match interruptedResult mutant path (interruption cancelled) durationMs evaluation with
    | .error _ => (threw mutant path durationMs, stop)
    | .ok result => (result, some (if cancelled then .cancelled else .incomplete, interruption cancelled))
  -- An evaluation that is no timeout and no cancellation has a result, as its type says.
  | some (.evaluated evaluation confirmed) =>
    match classify mutant evaluation path durationMs with
    -- The clock has been read for the result that was not made.
    | .error _ => (threw mutant path laterMs, stop)
    | .ok result => (result, if confirmed then none else some (.incomplete, js "cleanup_independence_lost"))

def afterMutant (mutant : MutationDefinition) (bounded : Option Bounded) (s : Campaigning) : Campaigning :=
  let judged := judge mutant s.path (now s.reads - s.started) (now (s.reads + 1) - s.started) bounded
  let s := { tick s with results := s.results ++ [judged.1] }
  match judged.2 with
  | some (status, stopReason) => finish s status stopReason
  | none => nextMutant now s

/-! ### The baseline -/

def baselineAccepted (evaluation : MutationEvaluation) (path : TestedPath) : Bool :=
  decide (evaluation.suiteResult.outcome = .passed) && cleanupConfirmed (cleanupOf evaluation) path &&
    decide (evaluation.probe.status = .passed)

def baselineResult (path : TestedPath) (evaluation : MutationEvaluation) (accepted : Bool) (durationMs : Rat) :
    MutationCaseResult :=
  ⟨js "correct", path, .attempted, some (if accepted then .survived else .inconclusive), none, none, some (cleanupOf evaluation),
    some evaluation.probe, if accepted then none else some (js "baseline_not_accepted"), durationMs, some evaluation⟩

def judgeBaseline (path : TestedPath) (durationMs : Rat) : Option Bounded → MutationCaseResult
  | some (.evaluated evaluation confirmed) =>
    baselineResult path evaluation (baselineAccepted evaluation path && confirmed) durationMs
  | some (.interrupted _ (some evaluation) _) => baselineResult path evaluation false durationMs
  | some (.interrupted false none _) =>
    bareResult (js "correct") path .attempted (some .inconclusive) none (js "baseline_timeout") durationMs
  | some (.interrupted true none _) | none =>
    bareResult (js "correct") path .attempted (some .infrastructureFailure) none (js "baseline_failed") durationMs

def afterBaseline (bounded : Option Bounded) (s : Campaigning) : Campaigning :=
  let s := { tick s with
    baseline := judgeBaseline s.path (now s.reads - s.started) bounded,
    results := (unsupported s.campaign s.path).map (unsupportedResult s.path),
    rest := selected s.campaign s.path }
  if s.baseline.classification = some .survived then nextMutant now s
  else { s with phase := .finished (.ok (resultOf s (if s.aborted then .cancelled else .baselineFailed)
    (.incomplete, [js "baseline_not_accepted"]) (s.results ++ s.rest.map (notRun s (js "baseline_not_accepted"))))) }

/-! ### Evaluations -/

/-- What follows an await of `boundedEvaluation`; nothing is bounded where it threw. -/
def concluded (turn : Turn) (bounded : Option Bounded) (s : Campaigning) : Campaigning :=
  match turn with
  | .baseline => afterBaseline now bounded s
  | .mutant mutant => afterMutant now mutant bounded s

/-- The start of `boundedEvaluation`. -/
def evaluateTurn (turn : Turn) (s : Campaigning) : Campaigning :=
  let s := { tick s with started := now s.reads }
  if s.aborted then concluded now turn (some (.interrupted true none true)) s
  else { s with phase := .evaluating turn .start }

/-- What follows `checkProtected`. -/
def afterCheck (turn : Turn) (s : Campaigning) : Campaigning :=
  match turn with
  | .baseline =>
    if s.campaign.mutants.length > s.policy.maxMutants then
      { s with phase := .finished (.error (campaignError "campaign_mutant_limit" (js "campaign exceeds configured mutant limit"))) }
    else evaluateTurn now turn s
  | .mutant _ => evaluateTurn now turn s

/-- The observation has been awaited. -/
def observed (turn : Turn) (winner : Winner CampaignFailure Json) (s : Campaigning) : Campaigning :=
  match winner with
  | .call (.ok inputs) => match assertMutationProtectedInputs s.campaign inputs with
    | .ok _ => afterCheck now turn s
    | .error failure => failCheck turn failure s
  | .call (.error failure) => failCheck turn failure s
  | .timer => failCheck turn observationTimeout s
  | .abort => failCheck turn cancelledDuring s

def boundedResult (s : Campaigning) (evaluation : MutationEvaluation) : Bounded :=
  .evaluated evaluation (cleanupConfirmed (cleanupOf evaluation) s.path)

/-- The first race of an evaluation has been awaited. -/
def evaluated (turn : Turn) (race : Race CampaignFailure MutationEvaluation) (winner : Winner CampaignFailure MutationEvaluation)
    (s : Campaigning) : Campaigning :=
  match winner with
  | .call (.ok evaluation) => concluded now turn (some (boundedResult s evaluation)) s
  | .call (.error _) => concluded now turn none s
  | .timer => { s with phase := .cleaning turn false race.again }
  | .abort => { s with phase := .cleaning turn true race.again }

/-- The second race has been awaited. -/
def settled (turn : Turn) (cancelled : Bool) (winner : Winner CampaignFailure MutationEvaluation) (s : Campaigning) : Campaigning :=
  match winner with
  | .call (.ok evaluation) =>
    concluded now turn (some (.interrupted cancelled (some evaluation) (cleanupConfirmed (cleanupOf evaluation) s.path))) s
  | _ => concluded now turn (some (.interrupted cancelled none false)) s

/-! ### The machine -/

inductive Input where
  | abort
  | observation (event : Race.Event CampaignFailure Json)
  | evaluation (event : Race.Event CampaignFailure MutationEvaluation)
  /-- The await of the race in progress returns. -/
  | resume

inductive Output where
  | silent
  | observe
  | evaluate (turn : Turn)

/-- The evaluator's promise rejects when the signal was aborted before it was called. -/
def beforeEvaluator : CampaignFailure := .typeError

def Phase.abort : Phase → Phase
  | .observing turn race => .observing turn race.abort
  | .evaluating turn race => .evaluating turn race.abort
  | phase => phase

def stepObservation (s : Campaigning) (turn : Turn) (race : Race CampaignFailure Json)
    (event : Race.Event CampaignFailure Json) : Option (Campaigning × Output) :=
  (race.step cancelledBefore event).map fun next =>
    ({ s with phase := .observing turn next.1 }, if next.2 then .observe else .silent)

def stepEvaluation (s : Campaigning) (turn : Turn) (phase : Race CampaignFailure MutationEvaluation → Phase)
    (race : Race CampaignFailure MutationEvaluation) (event : Race.Event CampaignFailure MutationEvaluation) :
    Option (Campaigning × Output) :=
  (race.step beforeEvaluator event).map fun next =>
    ({ s with phase := phase next.1 }, if next.2 then .evaluate turn else .silent)

def resume (s : Campaigning) : Option Campaigning :=
  match s.phase with
  | .observing turn race => race.winner.map fun winner => observed now turn winner s
  | .evaluating turn race => race.winner.map fun winner => evaluated now turn race winner s
  | .cleaning turn cancelled race => race.winner.map fun winner => settled now turn cancelled winner s
  | .finished _ => none

def step (s : Campaigning) : Input → Option (Campaigning × Output)
  | .abort => if s.aborted then none else some ({ s with aborted := true, phase := s.phase.abort }, .silent)
  | .observation event =>
    match s.phase with
    | .observing turn race => stepObservation s turn race event
    | _ => none
  | .evaluation event =>
    match s.phase with
    | .evaluating turn race => stepEvaluation s turn (.evaluating turn) race event
    | .cleaning turn cancelled race => stepEvaluation s turn (.cleaning turn cancelled) race event
    | _ => none
  | .resume => (resume now s).map fun next => (next, .silent)

/-- The state before the first await, or what is thrown before it. -/
def runMutationCampaign (campaignInput : Json) (path : TestedPath) (policy : MutationCampaignPolicy) (aborted : Bool) :
    Validated Campaigning := do
  let campaign ← validateMutationCampaign none campaignInput
  let policy ← validatePolicy policy
  return beginCheck now .baseline ⟨campaign, path, policy, now 0, now 0, 1, aborted,
    bareResult (js "correct") path .notRun none none [] 0, [], [], .finished (.error totalBudget)⟩

end

end Mirror.Mutation
