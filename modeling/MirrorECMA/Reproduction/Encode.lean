import MirrorECMA.Reproduction.Signature
import MirrorECMA.Reproduction.Validate

namespace Mirror.Reproduction

open ECMA Mirror.ModelInterface

variable [Platform] [NumberText]

def encodeReproductionBundle (bundle : Json) : Checked JsString := do
  let bundle ← validateReproductionBundle bundle
  return canonical bundle ++ js "\n"

def reproductionBundleSha256 (bundle : Json) : Checked JsString := do
  let encoded ← encodeReproductionBundle bundle
  return Sha256.hexDigest (utf8Bytes encoded)

/-! ### Replays -/

inductive ReplayStatus where
  | reproduced
  | notReproduced
  deriving DecidableEq

structure ReproductionReplayResult where
  status : ReplayStatus
  expected : Signature
  observed : Option Signature
  suiteResult : Option SuiteResult

/-- `bundle.signature`. -/
def bundleSignature (bundle : Json) : Json := (bundle.path ["signature"]).getD .null

omit [Platform] in
def replayResultMatchesBundle (bundle : Json) (replay : ReproductionReplayResult) : Bool :=
  signaturesEqual (bundleSignature bundle) replay.expected.json && decide (replay.status = .reproduced) &&
    replay.observed.any fun observed => signaturesEqual (bundleSignature bundle) observed.json

def CleanupSignature.status : CleanupSignature → CleanupStatus
  | .succeeded => .succeeded
  | .failed _ => .failed
  | .unconfirmed _ => .unconfirmed

/-- The status of the cleanup that a replay reports. -/
def replayCleanup (replay : ReproductionReplayResult) : CleanupStatus :=
  match replay.suiteResult, replay.observed with
  | some result, _ => result.cleanup
  | none, some observed => observed.cleanup.status
  | none, none => .unconfirmed

end Mirror.Reproduction
