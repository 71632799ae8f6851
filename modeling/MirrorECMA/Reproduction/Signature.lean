import MirrorECMA.ECMA.Alike
import MirrorECMA.Reproduction.Bundle

namespace Mirror.Reproduction

open ECMA

/-! ### Results of a suite -/

inductive SuiteStage where
  | configuration
  | negotiation
  | factory
  | replay
  | acceptance
  | cleanup
  deriving DecidableEq

inductive FailureKind where
  | configuration
  | negotiation
  | transport
  | implementation
  | codec
  | acceptance
  | evidence
  | cleanup
  | mismatch
  | cancellation
  | timeout
  | unknown
  deriving DecidableEq

inductive SuiteOutcome where
  | passed
  | mismatch
  | failed
  | cancelled
  | timedOut
  deriving DecidableEq

inductive CleanupStatus where
  | succeeded
  | failed
  | unconfirmed
  deriving DecidableEq

structure SuiteFailure where
  stage : SuiteStage
  kind : FailureKind
  code : JsString
  traceIndex : Option Double
  stateIndex : Option Double

/-- What is read of a `SuiteResult`; `action` is what `safeAction` finds on the trusted error. -/
structure SuiteResult where
  outcome : SuiteOutcome
  cleanup : CleanupStatus
  failure : Option SuiteFailure
  action : Option JsString

def CleanupStatus.text : CleanupStatus → String
  | .succeeded => "succeeded"
  | .failed => "failed"
  | .unconfirmed => "unconfirmed"

/-! ### Signatures -/

inductive Stage where
  | registration
  | factory
  | action
  | receive
  | cleanup
  deriving DecidableEq

inductive Origin where
  | observer
  | implementation
  deriving DecidableEq

inductive ExecutionStage where
  | factory
  | action
  | observation
  deriving DecidableEq

inductive CodecStage where
  | input
  | observation
  | protocol
  deriving DecidableEq

inductive PrimarySignature where
  | behavioralMismatch (traceIndex stateIndex : Double) (action : JsString)
  | timeout (stage : Stage) (budgetMs : Double)
  | executionError (origin : Origin) (stage : ExecutionStage) (code : JsString)
  | codecError (stage : CodecStage) (code : JsString)
  | coverageUnmet (requirements : List JsString)
  | cancellation (stage : Stage) (code : JsString)
  deriving DecidableEq

inductive CleanupSignature where
  | succeeded
  | failed (code : JsString)
  | unconfirmed (code : JsString)
  deriving DecidableEq

structure Signature where
  primary : Option PrimarySignature
  cleanup : CleanupSignature
  deriving DecidableEq

def Stage.text : Stage → String
  | .registration => "registration"
  | .factory => "factory"
  | .action => "action"
  | .receive => "receive"
  | .cleanup => "cleanup"

def Origin.text : Origin → String
  | .observer => "observer"
  | .implementation => "implementation"

def ExecutionStage.text : ExecutionStage → String
  | .factory => "factory"
  | .action => "action"
  | .observation => "observation"

def CodecStage.text : CodecStage → String
  | .input => "input"
  | .observation => "observation"
  | .protocol => "protocol"

def PrimarySignature.json : PrimarySignature → Json
  | .behavioralMismatch traceIndex stateIndex action =>
    .object [(js "kind", .string (js "behavioral_mismatch")), (js "code", .string (js "replay_mismatch")),
      (js "traceIndex", .number traceIndex), (js "stateIndex", .number stateIndex), (js "action", .string action)]
  | .timeout stage budgetMs =>
    .object [(js "kind", .string (js "timeout")), (js "stage", .string (js stage.text)), (js "budgetMs", .number budgetMs)]
  | .executionError origin stage code =>
    .object [(js "kind", .string (js "execution_error")), (js "origin", .string (js origin.text)),
      (js "stage", .string (js stage.text)), (js "code", .string code)]
  | .codecError stage code =>
    .object [(js "kind", .string (js "codec_error")), (js "stage", .string (js stage.text)), (js "code", .string code)]
  | .coverageUnmet requirements =>
    .object [(js "kind", .string (js "coverage_unmet")), (js "requirements", .array (requirements.map Json.string))]
  | .cancellation stage code =>
    .object [(js "kind", .string (js "cancellation")), (js "stage", .string (js stage.text)), (js "code", .string code)]

def CleanupSignature.json : CleanupSignature → Json
  | .succeeded => .object [(js "status", .string (js "succeeded"))]
  | .failed code => .object [(js "status", .string (js "failed")), (js "code", .string code)]
  | .unconfirmed code => .object [(js "status", .string (js "unconfirmed")), (js "code", .string code)]

/-- A signature of these two parts. -/
def signatureJson (primary cleanup : Json) : Json := .object [(js "primary", primary), (js "cleanup", cleanup)]

def Signature.json (signature : Signature) : Json :=
  signatureJson ((signature.primary.map PrimarySignature.json).getD .null) signature.cleanup.json

/-! ### Normalization -/

structure SuiteNormalizationContext where
  timeoutBudgetMs : Option Double
  executionErrorOrigin : Option Origin
  executionErrorStage : Option ExecutionStage
  codecStage : Option CodecStage
  unmetRequirements : Option (List JsString)

def SuiteNormalizationContext.empty : SuiteNormalizationContext := ⟨none, none, none, none, none⟩

def cleanupOf (result : SuiteResult) : CleanupSignature :=
  let failureCode := fun (otherwise : String) =>
    match result.failure with
    | some failure => if failure.kind = .cleanup then failure.code else js otherwise
    | none => js otherwise
  match result.cleanup with
  | .succeeded => .succeeded
  | .failed => .failed (failureCode "cleanup_failed")
  | .unconfirmed => .unconfirmed (failureCode "cleanup_unconfirmed")

def normalizedStage : SuiteStage → Stage
  | .factory => .factory
  | .cleanup => .cleanup
  | .configuration | .negotiation => .registration
  | .replay | .acceptance => .action

def mismatchSignature (result : SuiteResult) (failure : SuiteFailure) : Checked PrimarySignature :=
  match failure.traceIndex, failure.stateIndex, result.action with
  | some traceIndex, some stateIndex, some action =>
    if action = [] then fail (js "suite_result_incomplete") (js "mismatch coordinates/action unavailable")
    else .ok (.behavioralMismatch traceIndex stateIndex action)
  | _, _, _ => fail (js "suite_result_incomplete") (js "mismatch coordinates/action unavailable")

def coverageSignature (context : SuiteNormalizationContext) : Checked PrimarySignature :=
  match sort compareCodeUnits (context.unmetRequirements.getD []) with
  | [] => fail (js "normalization_context_missing") (js "unmet requirements required")
  | requirements => .ok (.coverageUnmet requirements)

def executionSignature (failure : SuiteFailure) (context : SuiteNormalizationContext) : PrimarySignature :=
  .executionError (context.executionErrorOrigin.getD .implementation)
    (context.executionErrorStage.getD (if failure.stage = .factory then .factory else .action)) failure.code

/-- `primary`, by the kind of the failure. -/
def primaryOf (result : SuiteResult) (failure : SuiteFailure) (context : SuiteNormalizationContext) :
    Checked (Option PrimarySignature) :=
  match failure.kind with
  | .mismatch => some <$> mismatchSignature result failure
  | .timeout => match context.timeoutBudgetMs with
    | some budgetMs => .ok (some (.timeout (normalizedStage failure.stage) budgetMs))
    | none => fail (js "normalization_context_missing") (js "timeout budget required")
  | .cancellation => .ok (some (.cancellation (normalizedStage failure.stage) failure.code))
  | .codec => .ok (some (.codecError (context.codecStage.getD .observation) failure.code))
  | .acceptance =>
    if failure.code = js "coverage_unmet" then some <$> coverageSignature context
    else .ok (some (executionSignature failure context))
  | .cleanup => .ok none
  | _ => .ok (some (executionSignature failure context))

def signatureFromSuiteResult (result : SuiteResult) (context : SuiteNormalizationContext) : Checked (Option Signature) :=
  match result.failure with
  | none =>
    if result.outcome = .passed then .ok none
    else fail (js "suite_result_unsupported") (js "suite result lacks normalized failure")
  | some failure => do
    let primary ← primaryOf result failure context
    return some ⟨primary, cleanupOf result⟩

/-- `JSON.stringify` of the value with the keys of every object in order. -/
def canonical [NumberText] (value : Json) : JsString := jsonStringify value.sorted

def signaturesEqual [NumberText] (left right : Json) : Bool := decide (canonical left = canonical right)

end Mirror.Reproduction
