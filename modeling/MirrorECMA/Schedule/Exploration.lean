import MirrorECMA.Schedule.Evidence
import MirrorECMA.Schedule.ParseSchedule
import MirrorECMA.ECMA.Stringified

namespace Mirror.Schedule

open ECMA

structure ScheduleActorChain where
  actor : ScheduleActor
  checkpoints : List JsString

/-- The inputs are values of the language: no object repeats a key, and every number is a double. -/
structure FiniteScheduleSpace [NumberConversion] where
  identity : ScheduleIdentity
  actors : List ScheduleActorChain
  inputs : List Json
  maxPreemptions : Double
  requireModelComparison : Bool
  baseVariables : List JsString
  instrumentationVariables : List JsString
  distinct : ∀ input ∈ inputs, input.KeysDistinct
  literal : ∀ input ∈ inputs, input.EveryNumber Double.Literal

structure ScheduleExplorationLimits where
  maxEnumeratedSchedules : Option Double
  maxRuns : Option Double
  timeBudgetMs : Option Double
  maxEvidenceBytes : Option Double

/-! ### The checks of a declaration -/

/-- A safe integer between two bounds. -/
def integerWithin (d : Double) (low high : Nat) : Option Nat :=
  match d.toInt? with
  | some i => if d.isSafeInteger ∧ (low : Int) ≤ i ∧ i ≤ high then some i.toNat else none
  | none => none

structure ExplorationBounds where
  maxEnumerated : Nat
  maxRuns : Nat
  time : Nat
  maxEvidence : Nat
  maxPreemptions : Nat

def explorationBounds (limits : ScheduleExplorationLimits) (maxPreemptions : Double) : Option ExplorationBounds := do
  let maxEnumerated ← integerWithin (limits.maxEnumeratedSchedules.getD (.ofNat 4096)) 1 4096
  let maxRuns ← integerWithin (limits.maxRuns.getD (.ofNat 4096)) 0 65536
  let time ← integerWithin (limits.timeBudgetMs.getD (.ofNat 30000)) 1 86400000
  let maxEvidence ← integerWithin (limits.maxEvidenceBytes.getD (.ofNat (16 * 1048576))) 1 (64 * 1048576)
  let maxPreemptions ← integerWithin maxPreemptions 0 64
  return ⟨maxEnumerated, maxRuns, time, maxEvidence, maxPreemptions⟩

def ScheduleActorChain.steps (a : ScheduleActorChain) : List ScheduleStep :=
  a.checkpoints.map fun checkpoint => ⟨a.actor.actor, checkpoint⟩

/-- The maps `declarations` and `operations`, and `checkSteps`. -/
structure DeclaredActors where
  declarations : List (JsString × JsString)
  operations : List JsString
  checkSteps : List ScheduleStep

def declareCheckpoint (a : ScheduleActorChain) (steps : List ScheduleStep) (entry : JsString × Nat) :
    Except JsString (List ScheduleStep) := do
  requireValue (if entry.2 + 1 = a.checkpoints.length then decide (entry.1 = SCHEDULE_COMPLETION)
    else scheduleIdentifier entry.1) "invalid actor chain"
  return steps ++ [⟨a.actor.actor, entry.1⟩]

def declareActor (declared : DeclaredActors) (a : ScheduleActorChain) : Except JsString DeclaredActors := do
  requireValue (scheduleIdentifier a.actor.actor && scheduleIdentifier a.actor.operation &&
    !decide (a.actor.actor ∈ declared.declarations.map Prod.fst) && !decide (a.actor.operation ∈ declared.operations))
    "duplicate/invalid exploration actor"
  requireValue (decide (a.checkpoints.length > 0 ∧ a.checkpoints.getLast? = some SCHEDULE_COMPLETION))
    "chain requires terminal completion"
  let checkSteps ← a.checkpoints.zipIdx.foldlM (declareCheckpoint a) declared.checkSteps
  return ⟨declared.declarations ++ [(a.actor.actor, a.actor.operation)], declared.operations ++ [a.actor.operation], checkSteps⟩

def declareVariables (taken : List JsString) (message : String) (names : List JsString) :
    Except JsString (List JsString) :=
  names.foldlM (fun seen v => do
    requireValue (scheduleIdentifier v && !decide (v ∈ taken) && !decide (v ∈ seen)) message
    return seen ++ [v]) []

section

variable [NumberText] [NumberConversion]

/-- The text of `JSON.stringify` that is parsed for a candidate. -/
def declarationText (space : FiniteScheduleSpace) (input : Json) (steps : List ScheduleStep) : JsString :=
  jsonStringify (CheckpointSchedule.json ⟨space.identity, input, steps⟩)

def declareInput (space : FiniteScheduleSpace) (checkSteps : List ScheduleStep) (inputs : List JsString) (input : Json) :
    Except JsString (List JsString) := do
  let _ ← scheduleData input inputBytes
  let _ ← parseCheckpointSchedule (declarationText space input checkSteps)
  let key := stable (some input)
  requireValue (!decide (key ∈ inputs)) "duplicate finite input"
  return inputs ++ [key]

/-- What is known once a declaration has passed its checks. -/
structure Declaration where
  bounds : ExplorationBounds
  actors : List ScheduleActorChain
  declarations : List (JsString × JsString)
  checkSteps : List ScheduleStep
  base : List JsString
  ignored : List JsString

def declare (space : FiniteScheduleSpace) (limits : ScheduleExplorationLimits) : Except JsString Declaration := do
  requireValue (decide (space.actors.length > 0 ∧ space.actors.length ≤ 8 ∧ space.inputs.length > 0 ∧ space.inputs.length ≤ 64))
    "finite actor/input bound exceeded"
  match explorationBounds limits space.maxPreemptions with
  | none => throw (js "invalid exploration limits")
  | some bounds =>
    let actors := sort (fun a b => utf8 a.actor.actor b.actor.actor) space.actors
    let declared ← actors.foldlM declareActor ⟨[], [], []⟩
    requireValue (decide (declared.checkSteps.length ≤ 64)) "exploration step bound exceeded"
    let _ ← space.inputs.foldlM (declareInput space declared.checkSteps) []
    requireValue (decide (space.baseVariables.length > 0 ∧ space.baseVariables.length ≤ 1024 ∧
      space.instrumentationVariables.length ≤ 1024)) "bounded base variables required"
    let base ← declareVariables [] "invalid base variable" space.baseVariables
    let ignored ← declareVariables base "invalid instrumentation projection" space.instrumentationVariables
    return ⟨bounds, actors, declared.declarations, declared.checkSteps, base, ignored⟩

end

/-! ### The enumeration -/

/-- What the signal and the clock say at one reading. -/
structure Instant where
  aborted : Bool
  now : Rat

/-- The variables that `visit` works on; `reads` counts the readings of the clock. -/
structure Enumeration where
  positions : List Nat
  current : List ScheduleStep
  shapes : List (List ScheduleStep)
  exhausted : Bool
  stopReason : JsString
  reads : Nat

def Enumeration.push (e : Enumeration) (i : Nat) (step : ScheduleStep) : Enumeration :=
  { e with positions := e.positions.modify i (· + 1), current := e.current ++ [step] }

def Enumeration.pop (e : Enumeration) (i : Nat) : Enumeration :=
  { e with current := e.current.dropLast, positions := e.positions.modify i (· - 1) }

namespace Declaration

variable (d : Declaration)

def position (e : Enumeration) (i : Nat) : Nat := e.positions[i]?.getD 0

def chainLength (i : Nat) : Nat := (d.actors[i]?.map fun a => a.checkpoints.length).getD 0

/-- Whether a step of actor `i` leaves an actor that has steps left. -/
def extra (e : Enumeration) (prior : Option Nat) (i : Nat) : Nat :=
  match prior with
  | some p => if p ≠ i ∧ position e p < d.chainLength p then 1 else 0
  | none => 0

/-- One turn of the loop of `visit`. -/
def visitActor (visit : Option Nat → Nat → Enumeration → Enumeration) (prior : Option Nat) (preemptions : Nat)
    (e : Enumeration) (i : Nat) : Enumeration :=
  if !e.exhausted then e
  else match d.actors[i]? with
    | none => e
    | some a => match a.steps[position e i]? with
      | none => e
      | some step =>
        if preemptions + d.extra e prior i > d.bounds.maxPreemptions then e
        else (visit (some i) (preemptions + d.extra e prior i) (e.push i step)).pop i

/-- The first argument bounds the depth of the recursion. -/
def visit (watch : Nat → Instant) (deadline : Rat) : Nat → Option Nat → Nat → Enumeration → Enumeration
  | 0, _, _, e => e
  | fuel + 1, prior, preemptions, e =>
    if !e.exhausted then e
    else
      let instant := watch e.reads
      let e := { e with reads := e.reads + 1 }
      if instant.aborted ∨ deadline ≤ instant.now then
        { e with exhausted := false, stopReason := if instant.aborted then js "cancelled" else js "time_budget" }
      else if e.current.length = d.checkSteps.length then
        if e.shapes.length = d.bounds.maxEnumerated then { e with exhausted := false, stopReason := js "enumeration_limit" }
        else { e with shapes := e.shapes ++ [e.current] }
      else (List.range d.actors.length).foldl (d.visitActor (visit watch deadline fuel) prior preemptions) e

/-- The enumeration starts after `reads` readings of the clock. -/
def enumerate (watch : Nat → Instant) (deadline : Rat) (reads : Nat) : Enumeration :=
  d.visit watch deadline (d.checkSteps.length + 1) none 0
    ⟨d.actors.map fun _ => 0, [], [], true, [], reads⟩

end Declaration

end Mirror.Schedule
