import MirrorECMA.ECMA.Sort
import MirrorECMA.ECMA.Throws
import MirrorECMA.ECMA.Utf8
import MirrorECMA.Schedule.Data

namespace Mirror.Schedule

open ECMA

/-! ### Reading evidence -/

def requireValue (condition : Bool) (message : String) : Except JsString Unit :=
  if condition then .ok () else .error (js message)

def object (value : Option Json) : Except JsString (Fields Json) :=
  match value with
  | some (.object fields) => .ok fields
  | _ => .error (js "expected evidence object")

def array (value : Option Json) : Except JsString (List Json) :=
  match value with
  | some (.array items) => .ok items
  | _ => .error (js "expected evidence array")

/-- `value === n`. -/
def isNumber (value : Option Json) (n : Nat) : Bool :=
  match value with
  | some (.number d) => decide (d.toInt? = some (n : Int))
  | _ => false

/-- `value === text`. -/
def isString (value : Option Json) (text : JsString) : Bool := decide (value = some (.string text))

/-- `value === b`. -/
def isBool (value : Option Json) (b : Bool) : Bool := decide (value = some (.bool b))

theorem requireValue_eq_ok {condition : Bool} {message : String} :
    requireValue condition message = .ok () ↔ condition = true := by
  cases condition <;> simp [requireValue]

theorem object_eq_ok {value : Option Json} {fields : Fields Json} :
    object value = .ok fields ↔ value = some (.object fields) := by
  unfold object
  split <;> simp_all

theorem array_eq_ok {value : Option Json} {items : List Json} : array value = .ok items ↔ value = some (.array items) := by
  unfold array
  split <;> simp_all

/-! ### Completed executions -/

def validateEvent (events : List Json) (step : ScheduleStep) (i offset : Nat) : Except JsString Unit := do
  let event ← object events[i * 2 + offset]?
  requireValue (isNumber (Fields.get event (js "ordinal")) (i * 2 + offset) && isNumber (Fields.get event (js "step")) i &&
    isString (Fields.get event (js "actor")) step.actor &&
    isString (Fields.get event (js "kind")) (if offset = 0 then js "permit" else js "arrival")) "event identity/order differs"
  if offset = 1 then requireValue (isString (Fields.get event (js "checkpoint")) step.checkpoint) "arrival differs"

def validateSuccess (e : Fields Json) (schedule : CheckpointSchedule) : Except JsString Unit := do
  requireValue (isBool (Fields.get e (js "scheduleCompleted")) true && isString (Fields.get e (js "outcome")) (js "completed"))
    "false completed schedule"
  let events ← array (Fields.get e (js "events"))
  requireValue (events.length = schedule.steps.length * 2) "wrong event denominator"
  schedule.steps.zipIdx.forM fun step => do
    validateEvent events step.1 step.2 0
    validateEvent events step.1 step.2 1
  let observations ← array (Fields.get e (js "observations"))
  requireValue (observations.length = schedule.steps.length + 1) "wrong observation denominator"

/-! ### Categories -/

section

variable [NumberText]

def utf8 (a b : JsString) : Int :=
  if (utf8Bytes a).map UInt8.toNat < (utf8Bytes b).map UInt8.toNat then -1
  else if (utf8Bytes b).map UInt8.toNat < (utf8Bytes a).map UInt8.toNat then 1 else 0

mutual

def tag : Json → Json
  | .null => .array [.string (js "null")]
  | .bool b => .array [.string (js "boolean"), .bool b]
  | .number d => .array [.string (js "number"), .number d]
  | .string s => .array [.string (js "string"), .string s]
  | .array items => .array [.string (js "array"), .array (tagItems items)]
  | .object fields =>
    .array [.string (js "object"), .array ((sort (fun a b => utf8 a.1 b.1) (tagFields fields)).map fun entry =>
      .array [.string entry.1, entry.2])]

def tagItems : List Json → List Json
  | [] => []
  | item :: rest => tag item :: tagItems rest

def tagFields : List (JsString × Json) → List (JsString × Json)
  | [] => []
  | (key, value) :: rest => (key, tag value) :: tagFields rest

end

/-- The text of a value that may be `undefined`, which is written as `null`. -/
def stable (value : Option Json) : JsString :=
  jsonStringify (match value with
    | some json => tag json
    | none => .array [.string (js "undefined"), .null])

def category (e : Fields Json) (comparison : Option (Fields Json)) : Except JsString JsString := do
  let (mismatch, comparisonFailed) ← match comparison with
    | none => pure (false, false)
    | some comparison => do
      let bound ← if isString (Fields.get comparison (js "schema")) (js "mirrors.scheduled-comparison/v1") then do
          let binding ← object (Fields.get comparison (js "binding"))
          pure (decide (stable (Fields.get binding (js "executions")) = stable (some (.array [.object e]))))
        else pure false
      requireValue bound "comparison not bound to exact execution"
      if isString (Fields.get comparison (js "comparison")) (js "step_mismatch") then do
        let valid ← if isString (Fields.get comparison (js "peerTerminal")) (js "step_mismatch") &&
            isBool (Fields.get comparison (js "passed")) false then do
            let client ← object (Fields.get comparison (js "client"))
            pure (isString (Fields.get client (js "kind")) (js "step_mismatch"))
          else pure false
        requireValue valid "invalid mismatch evidence"
        pure (true, false)
      else
        pure (false, !isString (Fields.get comparison (js "comparison")) (js "matched") ||
          !isBool (Fields.get comparison (js "passed")) true)
  let unconfirmed ← if isString (Fields.get e (js "cleanup")) (js "confirmed") then do
      let remaining ← array (Fields.get e (js "remainingActors"))
      pure (decide (remaining.length ≠ 0))
    else pure true
  if unconfirmed then return js "cleanup_failed"
  if mismatch then return js "model_mismatch"
  if comparisonFailed then return js "comparison_failed"
  if isBool (Fields.get e (js "passed")) true then return js "passed"
  if isString (Fields.get e (js "outcome")) (js "timed_out") then return js "timed_out"
  if isString (Fields.get e (js "outcome")) (js "cancelled") then return js "cancelled"
  let outcome ← match Fields.get e (js "outcome") with
    | none => pure (js "undefined")
    | some outcome => match toText outcome with
      | none => throw (js "Cannot convert object to primitive value")
      | some text => pure text
  if outcome ∈ [js "unexpected_checkpoint", js "invalid_schedule", js "incompatible_identity"] then
    return js "schedule_failed"
  return js "execution_failed"

end

end Mirror.Schedule
