import MirrorECMA.ECMA.Stringify

namespace Mirror.Schedule

open ECMA

def SCHEDULE_SCHEMA : JsString := js "mirrors.checkpoint-schedule/v1"
def WORKER_SCHEDULE_PROFILE : JsString := js "mirrorecma.worker-checkpoints/v1"
def SCHEDULE_COMPLETION : JsString := js "$done"

structure ScheduleIdentity where
  modelSemanticDigest : JsString
  mappingSha256 : JsString
  implementationSha256 : JsString
  deriving DecidableEq

structure ScheduleStep where
  actor : JsString
  checkpoint : JsString
  deriving DecidableEq

/-- What `parseCheckpointSchedule` returns, without its two constant fields. -/
structure CheckpointSchedule where
  identity : ScheduleIdentity
  inputs : Json
  steps : List ScheduleStep

structure ScheduleActor where
  actor : JsString
  operation : JsString
  deriving DecidableEq

def identifierUnit (u : CodeUnit) : Bool :=
  (0x41 ≤ u.toNat && u.toNat ≤ 0x5A) || (0x61 ≤ u.toNat && u.toNat ≤ 0x7A) || isDigit u || u = unit '_' || u = unit '.' ||
    u = unit '/' || u = unit '-'

/-- One to 128 letters, digits, underscores, dots, slashes and hyphens. -/
def scheduleIdentifier (v : JsString) : Bool := decide (1 ≤ v.length ∧ v.length ≤ 128) && v.all identifierUnit

/-- 64 lower-case hexadecimal digits. -/
def scheduleDigest (v : JsString) : Bool :=
  decide (v.length = 64) && v.all fun u => isDigit u || (0x61 ≤ u.toNat && u.toNat ≤ 0x66)

def ScheduleIdentity.values (identity : ScheduleIdentity) : List JsString :=
  [identity.modelSemanticDigest, identity.mappingSha256, identity.implementationSha256]

def ScheduleIdentity.json (identity : ScheduleIdentity) : Json :=
  .object [(js "modelSemanticDigest", .string identity.modelSemanticDigest),
    (js "mappingSha256", .string identity.mappingSha256),
    (js "implementationSha256", .string identity.implementationSha256)]

def ScheduleStep.json (step : ScheduleStep) : Json :=
  .object [(js "actor", .string step.actor), (js "checkpoint", .string step.checkpoint)]

def ScheduleActor.json (actor : ScheduleActor) : Json :=
  .object [(js "actor", .string actor.actor), (js "operation", .string actor.operation)]

def CheckpointSchedule.json (schedule : CheckpointSchedule) : Json :=
  .object [(js "schema", .string SCHEDULE_SCHEMA), (js "profile", .string WORKER_SCHEDULE_PROFILE),
    (js "identity", schedule.identity.json), (js "inputs", schedule.inputs),
    (js "steps", .array (schedule.steps.map ScheduleStep.json))]

theorem completion_no_identifier : scheduleIdentifier SCHEDULE_COMPLETION = false := by decide

end Mirror.Schedule
