import Mathlib.Data.Rat.Floor
import MirrorECMA.Machine.Race
import MirrorECMA.Machine.Run
import MirrorECMA.Reproduction.Encode

namespace Mirror.Reduction

open ECMA Machine
open Mirror.Reproduction (Checked Platform ReplayStatus ReproductionReplayResult SuiteResult bundleSignature
  replayResultMatchesBundle replayCleanup reproductionBundleSha256 signaturesEqual)

/-! ### Results -/

structure PrefixReductionPolicy where
  candidateLimit : Double
  totalBudgetMs : Double
  perCandidateBudgetMs : Double
  cleanupBudgetMs : Double

inductive Validity where
  | valid
  | invalid
  deriving DecidableEq

inductive CandidateOutcome where
  | reproduced
  | notReproduced
  | timedOut
  | cancelled
  | failed
  | cleanupUnconfirmed
  | notRun
  deriving DecidableEq

structure PrefixCandidateResult where
  order : Nat
  prefixLength : Nat
  validity : Validity
  outcome : CandidateOutcome
  code : Option JsString
  durationMs : Int

inductive ReductionClaim where
  | shortestReproducingPrefix
  | smallestObservedReproducingPrefix
  | notReduced
  deriving DecidableEq

inductive StopReason where
  | complete
  | candidateLimit
  | totalBudget
  | cancelled
  | cleanupIndependenceLost
  | candidateFailure
  | notEligible
  deriving DecidableEq

structure PrefixReductionResult where
  originalRunId : Json
  originalBundleSha256 : JsString
  traceIndex : Double
  originalLength : Nat
  bestPrefixLength : Option Nat
  claim : ReductionClaim
  minimalityComplete : Bool
  stopReason : StopReason
  candidates : List PrefixCandidateResult

/-! ### What a reduction is given -/

inductive StabilityClass where
  | stable
  | notReproduced
  | unstable
  | inconclusive
  | cancelled
  deriving DecidableEq

inductive Independence where
  | confirmed
  | lost
  | notEstablished
  deriving DecidableEq

/-- What is read of a `ReproductionStabilityRecord`. -/
structure StabilityRecord where
  runId : JsString
  bundleSha256 : JsString
  classification : StabilityClass
  independence : Independence

structure ReduceOptions (α : Type) where
  traceIndex : Double
  steps : List α
  stability : StabilityRecord
  resettable : Bool
  policy : PrefixReductionPolicy

/-- What is read of a policy whose bounds hold. -/
structure ReductionLimits where
  candidateLimit : Nat
  totalBudgetMs : Nat

def limit (high : Nat) (value : Double) : Checked Nat := do
  let value ← Reading.integer .typeError 1 high (.number value)
  return (value.toInt?.getD 0).toNat

def policy (value : PrefixReductionPolicy) : Checked ReductionLimits := do
  let candidateLimit ← limit 4096 value.candidateLimit
  let totalBudgetMs ← limit 0x7fffffff value.totalBudgetMs
  let _ ← limit 0x7fffffff value.perCandidateBudgetMs
  let _ ← limit 0x7fffffff value.cleanupBudgetMs
  return ⟨candidateLimit, totalBudgetMs⟩

/-- What a validator returns for a candidate. -/
structure CandidateValidation where
  valid : Bool
  code : Option JsString

/-! ### The state of a reduction -/

/-- What is thrown by a callback is caught and not looked at. -/
inductive Phase where
  | validating (race : Race Unit CandidateValidation)
  | evaluating (race : Race Unit ReproductionReplayResult)
  /-- After a timeout or a cancellation, until the evaluation settles or the time for that is over. -/
  | cleaning (cancelled : Bool) (race : Race Unit ReproductionReplayResult)
  | finished (outcome : Checked PrefixReductionResult)

structure Reducing (α : Type) where
  bundle : Json
  bundleSha256 : JsString
  traceIndex : Double
  steps : List α
  limits : ReductionLimits
  began : Rat
  started : Rat
  reads : Nat
  aborted : Bool
  best : Option Nat
  candidates : List PrefixCandidateResult
  /-- The length of the candidate in progress. -/
  length : Nat
  phase : Phase

section

variable {α : Type}

def candidate (s : Reducing α) : List α := s.steps.take s.length

def finish (claim : ReductionClaim) (minimalityComplete : Bool) (stopReason : StopReason) (s : Reducing α) : Reducing α :=
  { s with phase := .finished (.ok ⟨(s.bundle.path ["evidenceLinks", "runRef", "runId"]).getD .null, s.bundleSha256, s.traceIndex,
      s.steps.length, s.best, claim, minimalityComplete, stopReason, s.candidates⟩) }

/-- The search ends before it is complete. -/
def stop (stopReason : StopReason) (s : Reducing α) : Reducing α :=
  finish (if s.best = none then .notReduced else .smallestObservedReproducingPrefix) false stopReason s

/-- An invalid candidate below the best one. -/
def invalidShorter (s : Reducing α) : Bool :=
  s.best.any fun best => s.candidates.any fun candidate =>
    decide (candidate.validity = .invalid ∧ candidate.prefixLength < best)

def complete (s : Reducing α) : Reducing α :=
  finish (if s.best = none then .notReduced
    else if invalidShorter s then .smallestObservedReproducingPrefix else .shortestReproducingPrefix)
    (!invalidShorter s) .complete s

/-- `===` on numbers. -/
def sameNumber (a b : Double) : Bool :=
  decide (a ≠ .nan) && (decide (a = b) || decide (a.toInt? = some 0 ∧ b.toInt? = some 0))

def eligible (bundle : Json) (bundleSha256 : JsString) (options : ReduceOptions α) : Bool :=
  options.resettable &&
    decide (bundle.path ["signature", "primary", "kind"] = some (.string (js "behavioral_mismatch"))) &&
    decide (bundle.path ["signature", "cleanup", "status"] = some (.string (js "succeeded"))) &&
    decide (options.stability.classification = .stable) && decide (options.stability.independence = .confirmed) &&
    decide (bundle.path ["evidenceLinks", "runRef", "runId"] = some (.string options.stability.runId)) &&
    decide (options.stability.bundleSha256 = bundleSha256) &&
    (match bundle.path ["signature", "primary", "traceIndex"] with
      | some (.number traceIndex) => sameNumber traceIndex options.traceIndex
      | _ => false) &&
    !options.steps.isEmpty

variable (now : Nat → Rat)

def tick (s : Reducing α) : Reducing α := { s with reads := s.reads + 1 }

/-- The result of a candidate is appended. -/
def push (validity : Validity) (outcome : CandidateOutcome) (code : Option JsString) (s : Reducing α) : Reducing α :=
  { tick s with candidates := s.candidates ++
      [⟨s.candidates.length + 1, s.length, validity, outcome, code, round (now s.reads - s.started)⟩] }

/-! ### The candidates -/

/-- The length of the next candidate is set. -/
def turnTo (length : Nat) (s : Reducing α) : Reducing α := { s with length := length }

/-- What follows the validation of a candidate that timed out or was cancelled. -/
def unvalidated (cancelled : Bool) (s : Reducing α) : Reducing α :=
  stop (if cancelled then .cancelled else .candidateFailure) (push now .valid (if cancelled then .cancelled else .timedOut) none s)

/-- `bounded` with the validator. -/
def validateCandidate (s : Reducing α) : Reducing α :=
  if s.aborted then unvalidated now true s else { s with phase := .validating .start }

/-- The head of the loop for the length that is set. -/
def tryLength (s : Reducing α) : Reducing α :=
  if s.length = 0 then complete s
  else if s.aborted then stop .cancelled s
  else if s.limits.candidateLimit ≤ s.candidates.length then stop .candidateLimit s
  else if (s.limits.totalBudgetMs : Rat) - (now s.reads - s.began) ≤ 0 then stop .totalBudget (tick s)
  else validateCandidate now { tick (tick s) with started := now (s.reads + 1) }

/-- `continue`. -/
def goOn (s : Reducing α) : Reducing α := tryLength now (turnTo (s.length - 1) s)

def fails (code : Option JsString) (s : Reducing α) : Reducing α := stop .candidateFailure (push now .valid .failed code s)

def loseIndependence (s : Reducing α) : Reducing α :=
  stop .cleanupIndependenceLost (push now .valid .cleanupUnconfirmed none s)

/-- What follows an evaluation that timed out or was cancelled, and what it settled with. -/
def unevaluated (cancelled : Bool) (replay : Option ReproductionReplayResult) (s : Reducing α) : Reducing α :=
  let cleanup := ((replay.bind ReproductionReplayResult.suiteResult).map SuiteResult.cleanup).getD .unconfirmed
  if cleanup = .succeeded then
    stop (if cancelled then .cancelled else .candidateFailure)
      (push now .valid (if cancelled then .cancelled else .timedOut) none s)
  else loseIndependence now s

/-- `bounded` with the evaluator. -/
def evaluateCandidate (s : Reducing α) : Reducing α :=
  if s.aborted then unevaluated now true none s else { s with phase := .evaluating .start }

/-- The validation has been awaited. -/
def validated (winner : Winner Unit CandidateValidation) (s : Reducing α) : Reducing α :=
  match winner with
  | .call (.ok validation) =>
    if validation.valid then
      if s.aborted then stop .cancelled s else evaluateCandidate now (tick s)
    else goOn now (push now .invalid .notRun (validation.code.filter fun code => !code.isEmpty) s)
  | .call (.error _) => fails now none s
  | .timer => unvalidated now false s
  | .abort => unvalidated now true s

variable [NumberText]

/-- The replay is of another signature, or claims what it does not show. -/
def stale (bundle : Json) (replay : ReproductionReplayResult) : Bool :=
  !signaturesEqual (bundleSignature bundle) replay.expected.json ||
    (decide (replay.status = .reproduced) && !replayResultMatchesBundle bundle replay)

def outcomeOf : ReplayStatus → CandidateOutcome
  | .reproduced => .reproduced
  | .notReproduced => .notReproduced

def judgeReplay (replay : ReproductionReplayResult) (s : Reducing α) : Reducing α :=
  if stale s.bundle replay then fails now (some (js "stale_replay_result")) s
  else if replayCleanup replay ≠ .succeeded then loseIndependence now s
  else
    let s := push now .valid (outcomeOf replay.status) none s
    goOn now (if replay.status = .reproduced then { s with best := some s.length } else s)

/-- The first race of an evaluation has been awaited. -/
def evaluated (race : Race Unit ReproductionReplayResult) (winner : Winner Unit ReproductionReplayResult) (s : Reducing α) :
    Reducing α :=
  match winner with
  | .call (.ok replay) => judgeReplay now replay s
  | .call (.error _) => fails now none s
  | .timer => { s with phase := .cleaning false race.again }
  | .abort => { s with phase := .cleaning true race.again }

/-- `awaitCleanupSettlement` has been awaited. -/
def settled (cancelled : Bool) (winner : Winner Unit ReproductionReplayResult) (s : Reducing α) : Reducing α :=
  match winner with
  | .call (.ok replay) => unevaluated now cancelled (some replay) s
  | _ => unevaluated now cancelled none s

/-! ### The machine -/

inductive Input where
  | abort
  | validation (event : Race.Event Unit CandidateValidation)
  | evaluation (event : Race.Event Unit ReproductionReplayResult)
  /-- The await of the race in progress returns. -/
  | resume

inductive Output (α : Type) where
  | silent
  | validate (candidate : List α)
  | evaluate (candidate : List α)

def Phase.abort : Phase → Phase
  | .validating race => .validating race.abort
  | .evaluating race => .evaluating race.abort
  | phase => phase

def resume (s : Reducing α) : Option (Reducing α) :=
  match s.phase with
  | .validating race => race.winner.map fun winner => validated now winner s
  | .evaluating race => race.winner.map fun winner => evaluated now race winner s
  | .cleaning cancelled race => race.winner.map fun winner => settled now cancelled winner s
  | .finished _ => none

/-- An event of the race in progress, which may call a callback. -/
def raceStep {ρ : Type} (s : Reducing α) (phase : Race Unit ρ → Phase) (call : Output α) (race : Race Unit ρ)
    (event : Race.Event Unit ρ) : Option (Reducing α × Output α) :=
  (race.step () event).map fun next => ({ s with phase := phase next.1 }, if next.2 then call else .silent)

def step (s : Reducing α) : Input → Option (Reducing α × Output α)
  | .abort => if s.aborted then none else some ({ s with aborted := true, phase := s.phase.abort }, .silent)
  | .validation event =>
    match s.phase with
    | .validating race => raceStep s .validating (.validate (candidate s)) race event
    | _ => none
  | .evaluation event =>
    match s.phase with
    | .evaluating race => raceStep s .evaluating (.evaluate (candidate s)) race event
    | .cleaning cancelled race => raceStep s (.cleaning cancelled) (.evaluate (candidate s)) race event
    | _ => none
  | .resume => (resume now s).map fun next => (next, .silent)

variable [Platform]

/-- The state before the first await, or what is thrown before it. -/
def reduceReproductionPrefix (bundle : Json) (options : ReduceOptions α) (aborted : Bool) : Checked (Reducing α) := do
  let limits ← policy options.policy
  let bundleSha256 ← reproductionBundleSha256 bundle
  let s := (⟨bundle, bundleSha256, options.traceIndex, options.steps, limits, 0, 0, 0, aborted, none, [], options.steps.length,
    .finished (.error .typeError)⟩ : Reducing α)
  if eligible bundle bundleSha256 options then return tryLength now { tick s with began := now 0 }
  else return finish .notReduced false .notEligible s

end

end Mirror.Reduction
