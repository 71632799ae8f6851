import MirrorECMA.Protocol.Prettify

namespace Mirror.Replay

open ECMA Mirror.Protocol

/-- An accepted replay. The other fields of a report are constants of the replay loop. -/
structure CompiledReplayReport where
  acceptedTraces : Nat
  acceptedSteps : Nat
  deriving DecidableEq

def replayReport (acceptedTraces acceptedSteps : Nat) : CompiledReplayReport := ⟨acceptedTraces, acceptedSteps⟩

/-! ### Mismatches -/

inductive MismatchCode where
  | step_mismatch
  | replay_mismatch
  deriving DecidableEq

/-- `stepIndex` is `stateIndex` again. -/
structure ReplayMismatchError where
  code : MismatchCode
  message : JsString
  action : Raw
  params : Payload Any
  expected : Payload Any
  actual : Payload Any
  hints : List (DiffHint Any)
  traceIndex : Int
  stateIndex : Nat

section

variable [NumberText]

def jsonOfPayload (state : Payload Any) : Except Thrown JsString := do
  return jsonStringify (.object (← encodePayload state))

/-- `detail` of the constructor. -/
def mismatchDetail (expected actual : Payload Any) (hints : List (DiffHint Any)) : Except Thrown JsString :=
  match hints with
  | [] => do return js "expected " ++ (← jsonOfPayload expected) ++ js ", got " ++ (← jsonOfPayload actual)
  | hints => renderDiffHints hints

/-- The constructor of a replay that reports its progress. -/
def stepMismatchError (action : Raw) (params expected actual : Payload Any) (hints : List (DiffHint Any))
    (traceIndex : Int) (stateIndex : Nat) : Except Thrown ReplayMismatchError := do
  let detail ← mismatchDetail expected actual hints
  let message := js "step mismatch on action \"" ++ (← rawText action) ++ js "\" with param " ++
    (← jsonOfPayload params) ++ js ": " ++ detail
  return { code := .step_mismatch, message, action, params, expected, actual, hints, traceIndex, stateIndex }

/-- The constructor of a compiled replay. Where the action is no string, the arguments are read as those of the other
signature, and a number is spread for the hints. -/
def replayMismatchError (text : JsString) (expected actual : Payload Any) (hints : List (DiffHint Any))
    (traceIndex : Int) (stepIndex : Nat) (action : Raw) : Except Thrown ReplayMismatchError :=
  match action with
  | some (.string name) => do
    let _ ← mismatchDetail expected actual hints
    return {
      code := .replay_mismatch, message := text, action := some (.string name), params := .fields [], expected, actual,
      hints, traceIndex, stateIndex := stepIndex }
  | _ => .error .typeError

/-- The text of a mismatch in a replay without progress. -/
def mismatchText (action : Raw) (lastParam expected actual : Payload Any) (hints : List (DiffHint Any)) :
    Except Thrown JsString := do
  let hintText ← match hints with
    | [] => do
      let expected := jsonStringify (.object (← prettifyState expected))
      let actual := jsonStringify (.object (← prettifyState actual))
      pure (js ": expected " ++ expected ++ js ", got " ++ actual)
    | hints => do pure (js ": " ++ (← renderDiffHints hints))
  return js "step mismatch on action \"" ++ (← rawText action) ++ js "\" with param \"" ++ (← payloadText lastParam) ++
    js "\"" ++ hintText

end

/-! ### Progress -/

def ACTION_LIMIT : Nat := 256
def SEQUENCE_LIMIT : Nat := 1024

/-- Whether two actions are one key of a `Map`. Every message has objects of its own. -/
def sameValueZero : Raw → Raw → Bool
  | none, none => true
  | some .null, some .null => true
  | some (.bool a), some (.bool b) => a = b
  | some (.string a), some (.string b) => a = b
  | some (.number a), some (.number b) => a = b || (a.toInt? = some 0 && b.toInt? = some 0)
  | _, _ => false

/-- An action that follows another one, under the JSON text of the pair. -/
structure ActionSequence where
  key : JsString
  source : Raw
  target : Raw
  count : Nat

/-- The fields of the class but its clock. -/
structure ReplayRecorder where
  tracesStarted : Nat := 0
  tracesCompleted : Nat := 0
  statesReported : Nat := 0
  statesMatched : Nat := 0
  stepsCompleted : Nat := 0
  stateIndex : Nat := 0
  pending : Bool := false
  previousAction : Raw := none
  droppedActionEvents : Nat := 0
  droppedSequenceEvents : Nat := 0
  actions : List (Raw × Nat) := []
  sequences : List ActionSequence := []

namespace ReplayRecorder

def acknowledge (recorder : ReplayRecorder) : ReplayRecorder :=
  if recorder.pending then
    { recorder with
      pending := false
      statesMatched := recorder.statesMatched + 1
      stepsCompleted := if recorder.stateIndex > 0 then recorder.stepsCompleted + 1 else recorder.stepsCompleted }
  else recorder

def begin (recorder : ReplayRecorder) (initial : Bool) : ReplayRecorder :=
  let recorder := recorder.acknowledge
  if initial then
    { recorder with
      tracesCompleted := if recorder.tracesStarted > 0 then recorder.tracesCompleted + 1 else recorder.tracesCompleted
      tracesStarted := recorder.tracesStarted + 1
      stateIndex := 0
      previousAction := none }
  else { recorder with stateIndex := recorder.stateIndex + 1 }

def countAction (recorder : ReplayRecorder) (action : Raw) : ReplayRecorder :=
  if recorder.actions.any fun entry => sameValueZero entry.1 action then
    { recorder with actions := recorder.actions.map fun entry =>
        if sameValueZero entry.1 action then (entry.1, entry.2 + 1) else entry }
  else if recorder.actions.length < ACTION_LIMIT then { recorder with actions := recorder.actions ++ [(action, 1)] }
  else { recorder with droppedActionEvents := recorder.droppedActionEvents + 1 }

def countSequence [NumberText] (recorder : ReplayRecorder) (action : Raw) : ReplayRecorder :=
  if recorder.previousAction.isNone then recorder
  else
    let key := jsonStringify (.array [recorder.previousAction.getD .null, action.getD .null])
    if recorder.sequences.any fun entry => entry.key = key then
      { recorder with sequences := recorder.sequences.map fun entry =>
          if entry.key = key then ⟨key, recorder.previousAction, action, entry.count + 1⟩ else entry }
    else if recorder.sequences.length < SEQUENCE_LIMIT then
      { recorder with sequences := recorder.sequences ++ [⟨key, recorder.previousAction, action, 1⟩] }
    else { recorder with droppedSequenceEvents := recorder.droppedSequenceEvents + 1 }

def reported [NumberText] (recorder : ReplayRecorder) (action : Raw) : ReplayRecorder :=
  let recorder := { recorder with statesReported := recorder.statesReported + 1, pending := true }
  { (recorder.countAction action).countSequence action with previousAction := action }

end ReplayRecorder

end Mirror.Replay
