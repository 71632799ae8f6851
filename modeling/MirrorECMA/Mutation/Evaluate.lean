import MirrorECMA.Mutation.Campaign
import MirrorECMA.Reproduction.Signature

namespace Mirror.Mutation

open ECMA
open Mirror.Reproduction (SuiteResult PrimarySignature Signature CleanupStatus SuiteNormalizationContext signatureFromSuiteResult
  signatureJson signaturesEqual CleanupSignature)

/-! ### What an evaluator returns -/

inductive CleanupScope where
  | localCooperative
  | gatePhysical
  deriving DecidableEq

inductive CleanupRequirement where
  | required
  | optional
  | notApplicable
  deriving DecidableEq

inductive CleanupOutcomeStatus where
  | confirmed
  | failed
  | unconfirmed
  | notApplicable
  deriving DecidableEq

structure MutationCleanupOutcome where
  scope : CleanupScope
  requirement : CleanupRequirement
  status : CleanupOutcomeStatus
  code : Option JsString

inductive ProbeStatus where
  | passed
  | failed
  | error
  | timedOut
  | notRun
  deriving DecidableEq

structure MutationProbeResult where
  status : ProbeStatus
  code : Option JsString

structure MutationEvaluation where
  suiteResult : SuiteResult
  cleanup : Option (List MutationCleanupOutcome)
  probe : MutationProbeResult

/-! ### Results of a case -/

inductive Disposition where
  | attempted
  | unsupported
  | notRun
  deriving DecidableEq

inductive MutationClassification where
  | killedByBehavioralMismatch
  | survived
  | invalidMutant
  | infrastructureFailure
  | inconclusive
  deriving DecidableEq

/-- The inner option of `observed` is a `null` of the source. -/
structure MutationCaseResult where
  id : JsString
  testedPath : TestedPath
  disposition : Disposition
  classification : Option MutationClassification
  expected : Option Json
  observed : Option (Option PrimarySignature)
  cleanup : Option (List MutationCleanupOutcome)
  probe : Option MutationProbeResult
  reasonCode : Option JsString
  durationMs : Rat
  rawEvaluation : Option MutationEvaluation

/-- The local outcome that stands in for a cleanup that is not given. -/
def localOutcome (status : CleanupStatus) : MutationCleanupOutcome :=
  match status with
  | .succeeded => ⟨.localCooperative, .required, .confirmed, none⟩
  | .failed => ⟨.localCooperative, .required, .failed, some (js "local_cleanup_failed")⟩
  | .unconfirmed => ⟨.localCooperative, .required, .unconfirmed, some (js "local_cleanup_unconfirmed")⟩

def cleanupOf (evaluation : MutationEvaluation) : List MutationCleanupOutcome :=
  evaluation.cleanup.getD [localOutcome evaluation.suiteResult.cleanup]

/-- An outcome does not contradict what is required of it. -/
def outcomeConsistent (item : MutationCleanupOutcome) : Bool :=
  (decide (item.requirement = .notApplicable) == decide (item.status = .notApplicable)) &&
    !(decide (item.requirement = .required) && !decide (item.status = .confirmed))

def requiredScope : TestedPath → CleanupScope
  | .onLocal => .localCooperative
  | .onGate => .gatePhysical

def cleanupConfirmed (cleanup : List MutationCleanupOutcome) (path : TestedPath) : Bool :=
  !cleanup.isEmpty && decide (cleanup.map MutationCleanupOutcome.scope).Nodup && cleanup.all outcomeConsistent &&
    cleanup.any fun item => decide (item.scope = requiredScope path ∧ item.requirement = .required ∧ item.status = .confirmed)

/-- The signature that is taken from a mismatch. -/
def mismatchSignature (evaluation : MutationEvaluation) : Validated (Option Signature) :=
  match evaluation.suiteResult.failure with
  | some failure =>
    if failure.kind = .mismatch then
      (signatureFromSuiteResult evaluation.suiteResult .empty).mapError CampaignFailure.bundle
    else .ok none
  | none => .ok none

/-- The signature that a mutant is expected to show. -/
def expectedSignature (mutant : MutationDefinition) : Json := signatureJson mutant.expected CleanupSignature.succeeded.json

section

variable [NumberText]

def showsExpected (mutant : MutationDefinition) (signature : Option Signature) : Bool :=
  signature.any fun signature => signaturesEqual signature.json (expectedSignature mutant)

/-- The cleanup is confirmed and the probe passed. -/
def settledWell (evaluation : MutationEvaluation) (path : TestedPath) : Bool :=
  cleanupConfirmed (cleanupOf evaluation) path && decide (evaluation.probe.status = .passed)

def failedBy (evaluation : MutationEvaluation) (kinds : List Reproduction.FailureKind) : Bool :=
  evaluation.suiteResult.failure.any fun failure => decide (failure.kind ∈ kinds)

def failedAt (evaluation : MutationEvaluation) (stage : Reproduction.SuiteStage) : Bool :=
  evaluation.suiteResult.failure.any fun failure => decide (failure.stage = stage)

def classification (mutant : MutationDefinition) (evaluation : MutationEvaluation) (signature : Option Signature)
    (path : TestedPath) : MutationClassification :=
  if showsExpected mutant signature && settledWell evaluation path then .killedByBehavioralMismatch
  else if decide (evaluation.suiteResult.outcome = .passed) && settledWell evaluation path then .survived
  else if failedBy evaluation [.configuration, .negotiation] || failedAt evaluation .factory then .invalidMutant
  else if failedBy evaluation [.transport, .unknown] then .infrastructureFailure
  else .inconclusive

def classify (mutant : MutationDefinition) (evaluation : MutationEvaluation) (path : TestedPath) (durationMs : Rat) :
    Validated MutationCaseResult := do
  let signature ← mismatchSignature evaluation
  return ⟨mutant.id, path, .attempted, some (classification mutant evaluation signature path), some mutant.expected,
    some (signature.bind Signature.primary), some (cleanupOf evaluation), some evaluation.probe, none, durationMs,
    some evaluation⟩

end

end Mirror.Mutation
