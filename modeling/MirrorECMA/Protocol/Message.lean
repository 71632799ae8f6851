import MirrorECMA.ECMA.Json

namespace Mirror.Protocol

open ECMA

inductive Value where
  | int (val : Int)
  | bool (val : Bool)
  | str (val : JsString)
  | set (val : List Value)
  | seq (val : List Value)
  | tuple (val : List Value)
  | map (val : List (Value × Value))
  | record (val : List (JsString × Value))
  | variant (variantTag : JsString) (value : Value)
  | unserializable (val : JsString)
  | null

abbrev State := Fields Value

/-- A field the decoder casts without a look: its raw value, or `undefined`. -/
abbrev Raw := Option Json

inductive PathSeg where
  | field (name : JsString)
  | index (index : Raw)

inductive DiffHint (ν : Type) where
  | valueMismatch (path : List PathSeg) (expected actual : ν)
  | missing (path : List PathSeg) (expected : ν)
  | extra (path : List PathSeg) (actual : ν)
  | missingElem (path : List PathSeg) (expected : ν)
  | extraElem (path : List PathSeg) (actual : ν)
  | typeMismatch (path : List PathSeg) (expected actual : ν)
  | truncated (path : List PathSeg)

/-- The text of `invalid` is `undefined` where `JSON.stringify` returns nothing. -/
inductive ValidateResult where
  | valid
  | invalid (error : Option JsString)

inductive JobOutcome where
  | validate (result : ValidateResult)
  | genTraces (itfTracePaths itfTraces : Json)
  | error (error : Option JsString)

/-- The messages of the mirror, over what stands for a state and for a value in them. -/
inductive MirrorMessage (σ ν : Type) where
  | specValidated (result : ValidateResult)
  | initialState (action : Raw) (state : σ)
  | nextStep (action : Raw) (parameters : σ)
  | stepOk
  | stepMismatch (action : Raw) (expected actual : σ) (hints : Option (List (DiffHint ν)))
  | allStepsDone
  | genTracesDone (itfTracePaths : Json) (itfTraces : Raw)
  | protocolError (error : Raw)
  | registerError (error : Raw)
  | jobAccepted (jobId kind : Raw)
  | jobStatus (jobId phase : Raw)
  | jobResult (jobId : Raw) (outcome : JobOutcome)
  | explorerReady (initTransitions nextTransitions stateInvariants : Raw)
  | exploreTransitionStatus (status : Raw)
  | exploreStepDone (stepNo : Raw)
  | exploreState (state : σ)
  | exploreInvariantStatus (status : Raw)
  | exploreAssumeStatus (status : Raw)
  | exploreRollbackDone (snapshotId : Raw)
  | exploreSessionDone

/-- What reading `val` off a decoded value gives. -/
inductive Payload (α : Type) where
  | undefined
  | bigint (val : Int)
  | boolean (val : Bool)
  | text (val : JsString)
  | list (val : List α)
  | entries (val : List (α × α))
  | fields (val : List (JsString × α))

/-- The result of `walk`, typed `any` in the source: a value, or a message where an object has `proto_step`. -/
inductive Any where
  | int (val : Int)
  | bool (val : Bool)
  | str (val : JsString)
  | set (val : List Any)
  | seq (val : List Any)
  | tuple (val : List Any)
  | map (val : List (Any × Any))
  | record (val : List (JsString × Any))
  | variant (variantTag : JsString) (value : Any)
  | unserializable (val : JsString)
  | null
  | message (message : MirrorMessage (Payload Any) Any)

abbrev AnyMessage := MirrorMessage (Payload Any) Any

/-- `.val`, whatever the tag says. -/
def Any.val : Any → Payload Any
  | .int i => .bigint i
  | .bool b => .boolean b
  | .str s => .text s
  | .set vs | .seq vs | .tuple vs => .list vs
  | .map entries => .entries entries
  | .record fields => .fields fields
  | .unserializable s => .text s
  | .variant _ _ | .null | .message _ => .undefined

theorem val_record {decoded : Any} {fields : List (JsString × Any)} (same : decoded.val = .fields fields) :
    decoded = .record fields := by
  cases decoded with
  | record inner => cases same; rfl
  | _ => cases same

mutual

/-- A well-typed value among the results of `walk`. -/
def Value.toAny : Value → Any
  | .int i => .int i
  | .bool b => .bool b
  | .str s => .str s
  | .set vs => .set (Value.toAnys vs)
  | .seq vs => .seq (Value.toAnys vs)
  | .tuple vs => .tuple (Value.toAnys vs)
  | .map entries => .map (Value.toAnyEntries entries)
  | .record fields => .record (Value.toAnyFields fields)
  | .variant tag v => .variant tag v.toAny
  | .unserializable s => .unserializable s
  | .null => .null

def Value.toAnys : List Value → List Any
  | [] => []
  | v :: rest => v.toAny :: Value.toAnys rest

def Value.toAnyEntries : List (Value × Value) → List (Any × Any)
  | [] => []
  | (k, v) :: rest => (k.toAny, v.toAny) :: Value.toAnyEntries rest

def Value.toAnyFields : List (JsString × Value) → List (JsString × Any)
  | [] => []
  | (name, v) :: rest => (name, v.toAny) :: Value.toAnyFields rest

end

end Mirror.Protocol
