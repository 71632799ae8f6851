import MirrorECMA.Machine.Throwing
import MirrorECMA.Schedule.CanonicalState
import MirrorECMA.Schedule.Exploration

namespace Mirror.Schedule

open ECMA Machine Mirror.Protocol

def WORKER_EXPLORATION_PROFILE : JsString := js "mirrorecma.finite-checkpoint-exploration/v1"

/-! ### What a runner returns -/

section

variable [NumberConversion]

/-- A value from outside: plain data, which is a value of the language, or the message with which `scheduleData` refuses it. -/
inductive Foreign where
  | plain (json : Json) (distinct : json.KeysDistinct) (literal : json.EveryNumber Double.Literal)
  | refused (message : JsString)

def truthy : Json → Bool
  | .null => false
  | .bool b => b
  | .number .nan | .number .negativeZero => false
  | .number d => decide (d ≠ .finite 0)
  | .string s => !s.isEmpty
  | .array _ | .object _ => true

def Foreign.truthy : Foreign → Bool
  | .plain json _ _ => Schedule.truthy json
  | .refused _ => true

/-- How a call of the runner settles; `none` is an absent `comparison`. -/
inductive Returned where
  | thrown (message : JsString)
  | sample (execution : Foreign) (comparison : Option Foreign)

/-- Everything that an exploration asks from outside: the readings of signal and clock, and the runner. -/
structure World where
  watch : Nat → Instant
  runner : Nat → CheckpointSchedule → Returned

end

/-! ### The result and the loop variables -/

structure Row where
  ordinal : Nat
  inputIndex : Nat
  schedule : CheckpointSchedule
  execution : Option (Fields Json)
  comparison : Option (Fields Json)
  error : Option JsString
  category : JsString

inductive RunEntry where
  | row (row : Row)
  | omitted (ordinal : Nat) (category : JsString)

structure Failure where
  ordinal : Nat
  category : JsString
  schedule : CheckpointSchedule

/-- The variables of the loop with the parts of the result that it changes; `calls` are the schedules given to the runner. -/
structure Exploring where
  runs : List RunEntry
  states : List (Nat × Option Json)
  categories : JsMap JsString Nat
  firstCounterexample : Option Failure
  firstFailure : Option Failure
  requested : Bool
  attempted : Nat
  completed : Nat
  evidenceBytes : Nat
  coverageBytes : Nat
  comparisonRuns : Nat
  halt : Bool
  stopReason : JsString
  known : JsMap JsString Nat
  edges : JsMap (Nat × Nat) Nat
  ids : List JsString
  reads : Nat
  calls : List CheckpointSchedule
  row : Row
  cleanupKnown : Bool

abbrev Attempt (α : Type) := Throwing JsString Exploring α

def lift {α : Type} : Except JsString α → Attempt α
  | .ok value => pure value
  | .error message => throw message

/-! ### The evidence of one run -/

def evidenceBound : Nat := 64 * 1048576

def hexadecimal32 (text : JsString) : Bool :=
  decide (text.length = 32) && text.all fun u => isDigit u || (0x61 ≤ u.toNat && u.toNat ≤ 0x66)

def declareExecuted (actual : List (JsString × JsString)) (item : Json) : Except JsString (List (JsString × JsString)) := do
  let a ← object (some item)
  match a.length, (Fields.get a (js "actor")) >>= stringValue, (Fields.get a (js "operation")) >>= stringValue with
  | 2, some actor, some operation =>
    if actor ∈ actual.map Prod.fst then throw (js "invalid execution actor")
    else return actual ++ [(actor, operation)]
  | _, _, _ => throw (js "invalid execution actor")

def sameActors (declarations actual : List (JsString × JsString)) : Bool :=
  decide (actual.length = declarations.length) && declarations.all fun declaration => decide (declaration ∈ actual)

def isConfirmed (e : Fields Json) : Except JsString Bool := do
  if isString (Fields.get e (js "cleanup")) (js "confirmed") then
    let remaining ← array (Fields.get e (js "remainingActors"))
    return decide (remaining.length = 0)
  else return false

def executedActors (e : Fields Json) : Except JsString (List (JsString × JsString)) := do
  let items ← array (Fields.get e (js "actors"))
  items.foldlM declareExecuted []

/-- An identifier of an execution that has not been seen. -/
def executionIdOf (e : Fields Json) (ids : List JsString) : Except JsString JsString :=
  match (Fields.get e (js "executionId")) >>= stringValue with
  | some id => if hexadecimal32 id && !decide (id ∈ ids) then .ok id else .error (js "stale/invalid execution id")
  | none => .error (js "stale/invalid execution id")

def mismatched : Option (Fields Json) → Bool
  | some comparison => isString (Fields.get comparison (js "comparison")) (js "step_mismatch")
  | none => false

section

variable [NumberText] [NumberConversion]

def foreignData : Foreign → Except JsString Json
  | .plain json _ _ => scheduleData json evidenceBound
  | .refused message => .error message

def comparisonData (comparison : Option Foreign) : Except JsString (Option (Fields Json)) :=
  match comparison.filter Foreign.truthy with
  | none => .ok none
  | some comparison => do
    let comparison ← foreignData comparison
    let comparison ← object (some comparison)
    return some comparison

def thrownText : Thrown → JsString
  | .syntaxError => js "SyntaxError"
  | .rangeError => js "RangeError"
  | .typeError => js "TypeError"
  | .error message => message

/-- The state of an observation as `decodeMirrorMessage` reads it. -/
def decodeState (state : Fields Json) : Except JsString (Payload Any) := do
  let decoded ← (decodeMirrorMessage (jsonStringify (.object [(js "proto_step", .string (js "initial_state")),
    (js "action", .string (js "init")), (js "state", .object state)]))).mapError thrownText
  match decoded with
  | .initialState _ state => return state
  | _ => throw (js "observation state decode failed")

/-- Delete the instrumentation variables one after another. -/
def withoutIgnored (payload : Payload Any) (state : OwnState) (ignored : List JsString) : Except JsString OwnState :=
  ignored.foldlM (fun state key => do
    requireValue (hasOwn payload state key) "instrumentation variable absent"
    if !deletable payload key then throw (js "TypeError")
    return state.filter fun field => decide (field.1 ≠ key)) state

/-- The canonical state of observation number `index`. -/
def observedState (d : Declaration) (index : Nat) (item : Json) : Except JsString JsString := do
  let observation ← object (some item)
  requireValue (isNumber (Fields.get observation (js "afterSteps")) index) "observation position differs"
  let fields ← object (Fields.get observation (js "state"))
  let payload ← decodeState fields
  let state ← ownState payload
  requireValue (decide (state.length = d.base.length + d.ignored.length)) "projection omits/adds variables"
  let state ← withoutIgnored payload state d.ignored
  d.base.forM fun key => requireValue (hasOwn payload state key) "base variable absent"
  canonicalScheduleState state

end

/-! ### Coverage -/

def coverageBound : Nat := 8 * 1048576

def spend (bytes : Nat) : Attempt Unit := do
  modify fun s => { s with coverageBytes := s.coverageBytes + bytes }
  let s ← get
  lift (requireValue (decide (s.coverageBytes ≤ coverageBound)) "coverage byte bound exceeded")

def discover [NumberConversion] (key : JsString) (s : Exploring) : Exploring :=
  { s with known := JsMap.set s.known key s.known.length, states := s.states ++ [(s.known.length, Grammar.jsonParse key)] }

/-- The number of a state, which is a new one where the state is. -/
def creditState [NumberConversion] (key : JsString) : Attempt Nat := do
  let s ← get
  match JsMap.get s.known key with
  | some id => pure id
  | none => do
    spend (utf8Length key + 128)
    modify (discover key)
    pure s.known.length

def cross (edge : Nat × Nat) (count : Nat) (s : Exploring) : Exploring := { s with edges := JsMap.set s.edges edge count }

/-- Count the transition from the state before. -/
def creditEdge (prior : Option Nat) (id : Nat) : Attempt Unit := do
  match prior with
  | none => pure ()
  | some prior => do
    let s ← get
    match JsMap.get s.edges (prior, id) with
    | some count => modify (cross (prior, id) (count + 1))
    | none => do
      spend 128
      modify (cross (prior, id) 1)

section

variable [NumberText] [NumberConversion]

def creditObservations (d : Declaration) : Option Nat → List (Json × Nat) → Attempt Unit
  | _, [] => pure ()
  | prior, (item, index) :: rest => do
    let key ← lift (observedState d index item)
    let id ← creditState key
    creditEdge prior id
    creditObservations d (some id) rest

/-! ### One run -/

def failureOf (s : Exploring) (category : JsString) : Failure := ⟨s.attempted - 1, category, s.row.schedule⟩

def noteSample (e : Fields Json) (comparison : Option (Fields Json)) (s : Exploring) : Exploring :=
  { s with row := { s.row with execution := some e, comparison := comparison } }

def noteMismatch (comparison : Option (Fields Json)) (s : Exploring) : Exploring :=
  if mismatched comparison then
    { s with firstCounterexample := s.firstCounterexample <|> some (failureOf s (js "model_mismatch")) }
  else s

def noteComparison (comparison : Option (Fields Json)) (s : Exploring) : Exploring :=
  if comparison.isSome then { s with comparisonRuns := s.comparisonRuns + 1, requested := true } else s

/-- The checks of what a runner returned: the execution, the comparison and the disposition. -/
def inspect (space : FiniteScheduleSpace) (d : Declaration) (returned : Returned) (candidate : CheckpointSchedule) :
    Attempt (Fields Json × JsString) := do
  match returned with
  | .thrown message => throw message
  | .sample execution comparison =>
    let execution ← lift (foreignData execution)
    let comparison ← lift (comparisonData comparison)
    let e ← lift (object (some execution))
    modify (noteSample e comparison)
    lift (requireValue (isString (Fields.get e (js "schema")) (js "mirrors.checkpoint-execution/v1") &&
      decide (stable (Fields.get e (js "schedule")) = stable (some candidate.json))) "execution not bound to exact candidate")
    let actual ← lift (executedActors e)
    lift (requireValue (sameActors d.declarations actual) "execution actor declarations differ")
    let s ← get
    let id ← lift (executionIdOf e s.ids)
    modify fun s => { s with ids := s.ids ++ [id] }
    let confirmed ← lift (isConfirmed e)
    modify fun s => { s with cleanupKnown := confirmed }
    let disposition ← lift (category e comparison)
    modify (noteMismatch comparison)
    modify (noteComparison comparison)
    return (e, if space.requireModelComparison && comparison.isNone then js "comparison_missing" else disposition)

/-- The body of the inner `try`, which gives the disposition. -/
def examine (space : FiniteScheduleSpace) (d : Declaration) (returned : Returned) (candidate : CheckpointSchedule) :
    Attempt JsString := do
  let (e, disposition) ← inspect space d returned candidate
  if disposition = js "passed" then
    lift (validateSuccess e candidate)
    let observations ← lift (array (Fields.get e (js "observations")))
    creditObservations d none observations.zipIdx
    modify fun s => { s with completed := s.completed + 1 }
  else
    modify fun s => if disposition = js "model_mismatch" then
      { s with firstCounterexample := s.firstCounterexample <|> some (failureOf s disposition) } else s
  return disposition

/-- The inner `try` with its `catch`. -/
def disposed (space : FiniteScheduleSpace) (d : Declaration) (returned : Returned) (candidate : CheckpointSchedule)
    (s : Exploring) : Exploring × JsString :=
  match (examine space d returned candidate).run.run s with
  | (.ok disposition, s) => (s, disposition)
  | (.error text, s) =>
    let s := { s with row := { s.row with error := some (text.take 1024) } }
    (if text = js "coverage byte bound exceeded" then { s with stopReason := js "coverage_limit", halt := true } else s,
      js "runner_or_evidence_failed")

def Row.json (row : Row) : Json :=
  .object ([(js "ordinal", .number (.ofNat row.ordinal)), (js "inputIndex", .number (.ofNat row.inputIndex)),
    (js "schedule", row.schedule.json)] ++ (row.execution.map fun e => (js "execution", Json.object e)).toList ++
    (row.comparison.map fun comparison => (js "comparison", Json.object comparison)).toList ++
    (row.error.map fun text => (js "error", Json.string text)).toList ++ [(js "category", .string row.category)])

def RunEntry.category : RunEntry → JsString
  | .row own => own.category
  | .omitted _ category => category

/-- The category of a run, in its row and in the tallies. -/
def categorised (s : Exploring) (disposition : JsString) : Exploring :=
  { s with
    row := { s.row with category := disposition },
    firstFailure := if disposition = js "passed" then s.firstFailure else s.firstFailure <|> some (failureOf s disposition),
    categories := JsMap.set s.categories disposition ((JsMap.get s.categories disposition).getD 0 + 1) }

/-- The stops after a run whose row has been listed. -/
def stopped (watch : Nat → Instant) (deadline : Rat) (s : Exploring) : Exploring :=
  if s.halt then s
  else if !s.cleanupKnown then { s with stopReason := js "unconfirmed_cleanup", halt := true }
  else
    let instant := watch s.reads
    let s := { s with reads := s.reads + 1 }
    if deadline ≤ instant.now then { s with stopReason := js "time_budget", halt := true } else s

/-- What follows the inner `try`. -/
def settle (d : Declaration) (watch : Nat → Instant) (deadline : Rat) (s : Exploring) (disposition : JsString) : Exploring :=
  let s := categorised s disposition
  let bytes := utf8Length (jsonStringify s.row.json)
  if s.evidenceBytes + bytes > d.bounds.maxEvidence then
    { s with runs := s.runs ++ [.omitted (s.attempted - 1) disposition], stopReason := js "evidence_limit", halt := true }
  else stopped watch deadline { s with evidenceBytes := s.evidenceBytes + bytes, runs := s.runs ++ [.row s.row] }

def late (deadline : Rat) (instant : Instant) : Bool := instant.aborted || decide (deadline ≤ instant.now)

/-- One turn of the loop; it throws where the candidate does not parse. -/
def attempt (space : FiniteScheduleSpace) (d : Declaration) (world : World) (deadline : Rat) (s : Exploring)
    (steps : List ScheduleStep) (input : Json × Nat) : Except JsString Exploring :=
  let first := world.watch s.reads
  let s := { s with reads := s.reads + 1 }
  if late deadline first || decide (s.attempted ≥ d.bounds.maxRuns) then
    let second := world.watch s.reads
    .ok { s with
      reads := s.reads + 1, halt := true,
      stopReason := if second.aborted then js "cancelled" else if deadline ≤ second.now then js "time_budget" else js "run_limit" }
  else do
    let candidate ← parseCheckpointSchedule (declarationText space input.1 steps)
    let s := { s with
      row := ⟨s.attempted, input.2, candidate, none, none, none, []⟩, attempted := s.attempted + 1,
      cleanupKnown := false, calls := s.calls ++ [candidate] }
    let examined := disposed space d (world.runner (s.attempted - 1) candidate) candidate s
    return settle d world.watch deadline examined.1 examined.2

/-- The loop over the candidates that are left, with what the outer `catch` receives. -/
def attempts (space : FiniteScheduleSpace) (d : Declaration) (world : World) (deadline : Rat) :
    List (List ScheduleStep × Json × Nat) → Exploring → Exploring × Option JsString
  | [], s => (s, none)
  | (steps, input) :: rest, s =>
    if s.halt then (s, none)
    else match attempt space d world deadline s steps input with
      | .ok s => attempts space d world deadline rest s
      | .error text => (s, some text)

/-! ### The exploration -/

structure Covered where
  fromState : Nat
  toState : Nat
  count : Nat

/-- What the result says once the declaration has passed and the schedules have been enumerated. -/
structure Denominator where
  enumeratedScheduleShapes : Nat
  inputAssignments : Nat
  maxPreemptions : Double
  declaredInputs : List Json
  eligibleRunsLowerBound : Nat
  limits : ExplorationBounds

structure FiniteExploration where
  complete : Bool
  enumerationExhausted : Bool
  denominatorKnown : Bool
  eligibleRuns : Option Nat
  attemptedRuns : Nat
  completedRuns : Nat
  runs : List RunEntry
  states : List (Nat × Option Json)
  transitions : List Covered
  categories : JsMap JsString Nat
  firstCounterexample : Option Failure
  firstFailure : Option Failure
  projection : List JsString × List JsString
  requested : Bool
  comparisonRequired : Bool
  comparisonRuns : Nat
  denominator : Option Denominator
  stopReason : JsString
  status : JsString
  error : Option JsString
  elapsedMs : Int

def invalidDeclaration (result : FiniteExploration) (text : JsString) : FiniteExploration :=
  { result with status := js "invalid_declaration", stopReason := js "invalid_declaration", error := some (text.take 1024) }

def Exploring.start (e : Enumeration) : Exploring :=
  ⟨[], [], [], none, none, false, 0, 0, 0, 0, 0, false, e.stopReason, [], [], [], e.reads, [],
    ⟨0, 0, ⟨⟨[], [], []⟩, .null, []⟩, none, none, none, []⟩, false⟩

def candidates (space : FiniteScheduleSpace) (e : Enumeration) : List (List ScheduleStep × Json × Nat) :=
  e.shapes.flatMap fun steps => space.inputs.zipIdx.map fun input => (steps, input)

def transitionsOf (edges : JsMap (Nat × Nat) Nat) : List Covered :=
  sort (fun a b => if a.fromState ≠ b.fromState then (a.fromState : Int) - b.fromState else (a.toState : Int) - b.toState)
    (edges.map fun edge => ⟨edge.1.1, edge.1.2, edge.2⟩)

/-- The parts of the result that the loop has changed. -/
def Exploring.apply (s : Exploring) (result : FiniteExploration) : FiniteExploration :=
  { result with
    runs := s.runs, states := s.states, categories := s.categories, firstCounterexample := s.firstCounterexample,
    firstFailure := s.firstFailure, requested := s.requested }

def elapsed (world : World) (start : Rat) (reads : Nat) (result : FiniteExploration) : FiniteExploration :=
  { result with elapsedMs := ((world.watch reads).now - start).floor }

/-- The loop of an exploration: what it left, and what the outer `catch` received. -/
def exploreRuns (space : FiniteScheduleSpace) (d : Declaration) (world : World) : Exploring × Option JsString :=
  let deadline := (world.watch 0).now + d.bounds.time
  let e := d.enumerate world.watch deadline 1
  attempts space d world deadline (candidates space e) (.start e)

def exploreFiniteSchedules (space : FiniteScheduleSpace) (limits : ScheduleExplorationLimits) (world : World) :
    FiniteExploration :=
  let start := (world.watch 0).now
  let result : FiniteExploration := ⟨false, false, false, none, 0, 0, [], [], [], [], none, none,
    (space.baseVariables, space.instrumentationVariables), false, space.requireModelComparison, 0, none, [], [], none, 0⟩
  match declare space limits with
  | .error text => elapsed world start 1 (invalidDeclaration result text)
  | .ok d =>
    let e := d.enumerate world.watch (start + d.bounds.time) 1
    let eligible := e.shapes.length * space.inputs.length
    let result := { result with
      denominatorKnown := e.exhausted, eligibleRuns := if e.exhausted then some eligible else none,
      denominator := some ⟨e.shapes.length, space.inputs.length, space.maxPreemptions, space.inputs, eligible, d.bounds⟩ }
    match exploreRuns space d world with
    | (s, some text) => elapsed world start s.reads (invalidDeclaration (s.apply result) text)
    | (s, none) =>
      let enumerationExhausted := e.exhausted && decide (s.attempted = eligible)
      let complete := enumerationExhausted && decide (s.completed = eligible) && !s.halt
      elapsed world start s.reads { s.apply result with
        transitions := transitionsOf s.edges, comparisonRuns := s.comparisonRuns, attemptedRuns := s.attempted,
        completedRuns := s.completed, enumerationExhausted := enumerationExhausted, complete := complete,
        stopReason := if s.stopReason ≠ [] then s.stopReason else if complete then js "complete" else js "non_pass_runs",
        status := if complete then js "complete" else js "incomplete" }

end

end Mirror.Schedule
