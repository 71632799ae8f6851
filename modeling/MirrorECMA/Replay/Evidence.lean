import MirrorECMA.ECMA.JsMap
import MirrorECMA.Machine.Throwing
import MirrorECMA.ModelInterface.Plain

namespace Mirror.Replay

open ECMA
open Mirror.ModelInterface (SemanticDescriptor ModelInterfaceProtocolError Unknown decodeSemanticDescriptor)

inductive EvidenceUncertainty where
  | mapping
  | protocol
  | counter_overflow
  | missing_ack
  | missing_tracker
  deriving DecidableEq

structure MatchedEvidenceError where
  message : JsString
  deriving DecidableEq

def uncertaintyOrder : List EvidenceUncertainty := [.mapping, .protocol, .counter_overflow, .missing_ack, .missing_tracker]

/-- What a wire label stands for. -/
structure LabelledAction where
  id : JsString
  initial : Bool
  deriving DecidableEq

structure RequiredPair where
  source : JsString
  target : JsString
  count : Nat
  deriving DecidableEq

structure EvidenceOptions where
  strictAcknowledgements : Bool := false
  expectedActions : Option (List (List JsString)) := none

structure MatchedEvidence where
  replayEntered : Bool
  corpusCompleted : Bool
  exact : Bool
  tracesSelected : Nat
  tracesStarted : Nat
  tracesCompleted : Nat
  initialStatesMatched : Nat
  transitionsMatched : Nat
  statesReported : Nat
  requiredActionCounts : List (JsString × Nat)
  requiredPairCounts : List RequiredPair
  uncertainty : List EvidenceUncertainty

/-- The fields of the class. -/
structure MatchedEvidenceTracker where
  actions : JsMap JsString Nat
  pairs : List RequiredPair
  labels : JsMap JsString LabelledAction
  lengths : List Nat
  options : EvidenceOptions
  uncertain : List EvidenceUncertainty := []
  entered : Bool := false
  complete : Bool := false
  isSealed : Bool := false
  started : Nat := 0
  completed : Nat := 0
  initialMatched : Nat := 0
  transitionMatched : Nat := 0
  reportedCount : Nat := 0
  currentMatched : Nat := 0
  previous : Option JsString := none
  active : Option LabelledAction := none
  pending : Option LabelledAction := none

namespace MatchedEvidenceTracker

/-! ### The constructor -/

/-- What the constructor throws. -/
inductive ConstructionFailure where
  | evidence (error : MatchedEvidenceError)
  | protocol (error : ModelInterfaceProtocolError)

abbrev Constructed (α : Type) := Except ConstructionFailure α

def invalid {α : Type} (message : String) : Constructed α := .error (.evidence ⟨js message⟩)

def requireActions (ids : List JsString) (actions : JsMap JsString Nat) : List JsString → Constructed (JsMap JsString Nat)
  | [] => .ok actions
  | id :: rest =>
    if id ∉ ids ∨ (actions.get id).isSome then invalid "invalid required action"
    else requireActions ids (actions.set id 0) rest

/-- Distinct pairs of strings have distinct JSON texts, so the pairs stand for their keys. -/
def requirePairs (ids : List JsString) (pairKeys : List (JsString × JsString)) :
    List (JsString × JsString) → Constructed (List RequiredPair)
  | [] => .ok []
  | pair :: rest =>
    if pair.1 ∉ ids ∨ pair.2 ∉ ids then invalid "invalid required pair"
    else if pair ∈ pairKeys then invalid "duplicate required pair"
    else do return ⟨pair.1, pair.2, 0⟩ :: (← requirePairs ids (pair :: pairKeys) rest)

def labelActions (labels : JsMap JsString LabelledAction) :
    List (JsString × LabelledAction) → Constructed (JsMap JsString LabelledAction)
  | [] => .ok labels
  | (label, action) :: rest =>
    if (labels.get label).isSome then invalid "ambiguous action label"
    else labelActions (labels.set label action) rest

/-- The labels of the actions, in the order in which they are entered. -/
def actionLabels (descriptor : SemanticDescriptor) : List (JsString × LabelledAction) :=
  (descriptor.initializers ++ descriptor.actions).flatMap fun action =>
    (action.wireAction :: action.wireAliases).map fun label => (label, ⟨action.id, action.phase = .initialization⟩)

def create (descriptor : Unknown) (requiredActions : List JsString) (requiredPairs : List (JsString × JsString))
    (traceStateCounts : List Double) (options : EvidenceOptions) : Constructed MatchedEvidenceTracker := do
  let parsed ← (decodeSemanticDescriptor descriptor).mapError .protocol
  if traceStateCounts.length < 1 ∨ traceStateCounts.length > 4096 ∨
      traceStateCounts.any fun n => !n.isSafeInteger || decide (n.toInt?.getD 0 < 1) then
    invalid "invalid preflight trace state counts"
  else
    let ids := parsed.actions.map (·.id)
    if requiredActions.length > 1024 ∨ requiredPairs.length > 4096 then invalid "requirements exceed evidence limits"
    else
      let actions ← requireActions ids [] requiredActions
      let pairs ← requirePairs ids [] requiredPairs
      let labels ← labelActions [] (actionLabels parsed)
      let lengths := traceStateCounts.map fun n => (n.toInt?.getD 0).toNat
      return { actions, pairs, labels, lengths, options }

/-! ### The methods -/

abbrev Method (α : Type) := Machine.Throwing MatchedEvidenceError MatchedEvidenceTracker α

def fail {α : Type} (reason : EvidenceUncertainty) (message : String) : Method α := do
  modify fun tracker => { tracker with
    uncertain := if reason ∈ tracker.uncertain then tracker.uncertain else tracker.uncertain ++ [reason]
    isSealed := true }
  throw ⟨js message⟩

def increment (value : Nat) : Method Nat :=
  if value = maxSafeInteger then fail .counter_overflow "matched counter overflow" else return value + 1

def requireOpen : Method Unit := do
  if (← get).isSealed then fail .protocol "evidence tracker already sealed"

/-- The loop over the required pairs, from those that are left. -/
def countPairs (previous : Option JsString) (id : JsString) (seen : List RequiredPair) : List RequiredPair → Method Unit
  | [] => return
  | pair :: rest => do
    if some pair.source = previous ∧ pair.target = id then
      let count ← increment pair.count
      modify fun tracker => { tracker with pairs := seen ++ { pair with count } :: rest }
      countPairs previous id (seen ++ [{ pair with count }]) rest
    else countPairs previous id (seen ++ [pair]) rest

def countAction (id : JsString) : Method Unit := do
  match (← get).actions.get id with
  | some count =>
    let count ← increment count
    modify fun tracker => { tracker with actions := tracker.actions.set id count }
  | none => return

def commit : Method Unit := do
  match (← get).pending with
  | none => return
  | some pending =>
    modify fun tracker => { tracker with pending := none }
    let currentMatched ← increment (← get).currentMatched
    modify fun tracker => { tracker with currentMatched }
    if pending.initial then
      let initialMatched ← increment (← get).initialMatched
      modify fun tracker => { tracker with initialMatched, previous := none }
    else
      let transitionMatched ← increment (← get).transitionMatched
      modify fun tracker => { tracker with transitionMatched }
      countAction pending.id
      countPairs (← get).previous pending.id [] (← get).pairs
      modify fun tracker => { tracker with previous := some pending.id }

def finishTrace : Method Unit := do
  let tracker ← get
  if tracker.started = 0 ∨ some tracker.currentMatched ≠ tracker.lengths[tracker.started - 1]? then
    fail .protocol "trace does not match preflight state count"
  else
    let completed ← increment tracker.completed
    modify fun tracker => { tracker with completed }

/-- What the corpus has at the position that a new action takes. -/
def expected (tracker : MatchedEvidenceTracker) : Option JsString := do
  let expectedActions ← tracker.options.expectedActions
  if tracker.started = 0 then none else (← expectedActions[tracker.started - 1]?)[tracker.currentMatched]?

/-- The next trace, or the next state of the current one. -/
def advance (initial : Bool) : Method Unit := do
  if initial then
    if (← get).started > 0 then finishTrace
    if (← get).started = (← get).lengths.length then fail .protocol "extra trace"
    modify fun tracker => { tracker with started := tracker.started + 1, currentMatched := 0, previous := none }
  else if (← get).started = 0 ∨ (← get).currentMatched ≥ (← get).lengths.getD ((← get).started - 1) 0 then
    fail .protocol "transition outside preflight trace bounds"

/-- `wireAction` is none where the message has no string there. -/
def begin (initial : Bool) (wireAction : Option JsString) : Method Unit := do
  requireOpen
  if (← get).active.isSome then fail .protocol "new action before observation was reported"
  match wireAction.bind (← get).labels.get with
  | none => fail .mapping "unknown or wrong-phase action label"
  | some action =>
    if action.initial ≠ initial then fail .mapping "unknown or wrong-phase action label"
    if (← get).options.strictAcknowledgements ∧ (← get).pending.isSome then fail .missing_ack "new action before step_ok"
    commit
    advance initial
    if (← get).expected.any fun id => id ≠ action.id then
      fail .protocol "action disagrees with selected corpus occurrence"
    modify fun tracker => { tracker with entered := true, active := some action }

def reported : Method Unit := do
  requireOpen
  let tracker ← get
  match tracker.active, tracker.pending with
  | some active, none =>
    let reportedCount ← increment tracker.reportedCount
    modify fun tracker => { tracker with reportedCount, pending := some active, active := none }
  | _, _ => fail .protocol "unexpected report"

def acknowledge : Method Unit := do
  requireOpen
  if (← get).pending.isNone then fail .protocol "acknowledgement without pending observation"
  commit

def done : Method Unit := do
  requireOpen
  if (← get).active.isSome then fail .protocol "terminal before observation report"
  if (← get).options.strictAcknowledgements ∧ (← get).pending.isSome then
    fail .missing_ack "terminal before final step_ok"
  commit
  finishTrace
  if (← get).started ≠ (← get).lengths.length then fail .protocol "terminal before all selected traces"
  modify fun tracker => { tracker with complete := true, isSealed := true }

def interrupt (rejected : Bool) : Method Unit := do
  if (← get).isSealed then return
  if rejected ∧ (← get).pending.isNone then fail .protocol "rejection without pending observation"
  if (← get).pending.isSome ∧ ¬ rejected then
    modify fun tracker => { tracker with
      uncertain := if .missing_ack ∈ tracker.uncertain then tracker.uncertain else tracker.uncertain ++ [.missing_ack] }
  modify fun tracker => { tracker with pending := none, active := none, isSealed := true }

def snapshot (tracker : MatchedEvidenceTracker) : MatchedEvidence where
  replayEntered := tracker.entered
  corpusCompleted := tracker.complete
  exact := tracker.uncertain.length = 0
  tracesSelected := tracker.lengths.length
  tracesStarted := tracker.started
  tracesCompleted := tracker.completed
  initialStatesMatched := tracker.initialMatched
  transitionsMatched := tracker.transitionMatched
  statesReported := tracker.reportedCount
  requiredActionCounts := tracker.actions
  requiredPairCounts := tracker.pairs
  uncertainty := uncertaintyOrder.filter fun reason => reason ∈ tracker.uncertain

end MatchedEvidenceTracker

end Mirror.Replay
