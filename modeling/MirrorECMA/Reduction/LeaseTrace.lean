import MirrorECMA.ECMA.BigInt
import MirrorECMA.ECMA.CodeUnitOrder
import MirrorECMA.ECMA.Places
import MirrorECMA.ECMA.Stringified
import MirrorECMA.Reproduction.Platform

namespace Mirror.Reduction.Lease

open ECMA ECMA.Json
open Mirror.Reproduction (SHA256)

def LEASE_REDUCTION_SCHEMA : String := "mirrors.reduction-candidate/lease-service-input-shrink/v1"

structure LeaseReductionError where
  code : String
  message : String
  deriving DecidableEq

structure LeaseReductionEdit where
  stateIndex : Double
  actionId : JsString
  inputId : JsString
  before : Double
  after : Double
  deriving DecidableEq

/-- A list that is no array is `none`. -/
structure LeaseReductionCandidate where
  schema : JsString
  modelSha256 : JsString
  interfaceDigest : JsString
  orderedCorpusSha256 : JsString
  originalBundleSha256 : JsString
  selectedTraceSha256 : JsString
  traceIndex : Double
  traceOccurrences : Option (List Double)
  edits : Option (List LeaseReductionEdit)
  deriving DecidableEq

/-! ### Candidates -/

/-- `d === n` -/
def isNumber (d : Double) (n : Nat) : Bool := decide (d.unsigned = .finite n)

/-- The integer of a state index that is a safe integer. -/
def LeaseReductionEdit.position (edit : LeaseReductionEdit) : Int := edit.stateIndex.toInt?.getD 0

def supportedEdit (edit : LeaseReductionEdit) : Bool :=
  if !edit.stateIndex.isSafeInteger || edit.position < 1 || !isNumber edit.before 2 || !isNumber edit.after 1 then false
  else if edit.actionId = js "Acquire" then decide (edit.inputId = js "Client")
  else decide (edit.actionId ∈ ["Renew", "Release", "Write"].map js) && decide (edit.inputId ∈ ["Client", "Token"].map js)

/-- `${edit.stateIndex}:${edit.actionId}:${edit.inputId}` -/
def LeaseReductionEdit.key (edit : LeaseReductionEdit) : JsString :=
  integerText edit.position ++ js ":" ++ edit.actionId ++ js ":" ++ edit.inputId

def validateLeaseReductionCandidate (candidate : LeaseReductionCandidate) : Except LeaseReductionError LeaseReductionCandidate := do
  if candidate.schema ≠ js LEASE_REDUCTION_SCHEMA then
    throw ⟨"reduction_schema_unsupported", "unsupported LeaseService reduction schema"⟩
  if !([candidate.modelSha256, candidate.interfaceDigest, candidate.orderedCorpusSha256, candidate.originalBundleSha256,
      candidate.selectedTraceSha256].all SHA256) then
    throw ⟨"reduction_identity_invalid", "candidate identities must be lowercase SHA-256"⟩
  if !isNumber candidate.traceIndex 0 then
    throw ⟨"reduction_trace_unsupported", "version 1 supports selected trace zero"⟩
  match candidate.traceOccurrences with
  | some [first, second] =>
    if !isNumber first 0 || !isNumber second 1 then
      throw ⟨"reduction_trace_unsupported", "version 1 requires the selected trace at ordered occurrences zero and one"⟩
  | _ => throw ⟨"reduction_trace_unsupported", "version 1 requires the selected trace at ordered occurrences zero and one"⟩
  match candidate.edits with
  | none => throw ⟨"reduction_transform_unsupported", "candidate contains an unsupported input transform"⟩
  | some edits =>
    if edits.length < 1 ∨ edits.length > 16 ∨ !edits.all supportedEdit then
      throw ⟨"reduction_transform_unsupported", "candidate contains an unsupported input transform"⟩
    if ¬ (edits.map LeaseReductionEdit.key).Nodup then
      throw ⟨"reduction_edit_duplicate", "candidate contains duplicate edits"⟩
    return candidate

/-! ### Values with identity -/

/-- The documents that are in memory; no two of them share a part. -/
abbrev Heap := List Json

/-- A reference to a part of a document. -/
structure Ref where
  document : Nat
  path : List Segment

def Ref.get (ref : Ref) (segment : Segment) : Ref := { ref with path := ref.path ++ [segment] }

def Ref.property (ref : Ref) (key : String) : Ref := ref.get (.field (js key))

def Heap.read (heap : Heap) (ref : Ref) : Option Json := place heap[ref.document]? ref.path

def Heap.structuredClone (heap : Heap) (json : Json) : Ref × Heap := (⟨heap.length, []⟩, heap ++ [json])

/-- `object[key] = value` -/
def Heap.assign (heap : Heap) (object : Ref) (key : JsString) (value : Json) : Heap :=
  heap.modify object.document (Json.assign object.path key value)

/-! ### Traces -/

def rawBigint (value : Option Json) : Option JsString :=
  match value with
  | some (.object [(key, .string text)]) => if key = js "#bigint" then some text else none
  | _ => none

/-- `[...new Set([...left, ...right])].sort()` -/
def unionKeys (left right : List JsString) : List JsString :=
  sort compareCodeUnits (left ++ right).dedup

mutual

/-- The differences of a value and another one, or `undefined`; no object or array of the one is one of the other. -/
def differences : Json → Option Json → JsString → List JsString
  | .array left, right, path =>
    match right with
    | some (.array right) => if left.length ≠ right.length then [path] else differencesItems left right path 0
    | _ => [path]
  | .object left, right, path =>
    match right with
    | some (.object right) => (unionKeys (Fields.keys left) (Fields.keys right)).flatMap fun key =>
      match Fields.get (differencesFields left) key with
      | some compare => compare (Fields.get right key) (path ++ js "/" ++ key)
      | none => [path ++ js "/" ++ key]
    | _ => [path]
  | left, right, path => if kind (some left) = kind right then [] else [path]

def differencesItems : List Json → List Json → JsString → Nat → List JsString
  | item :: left, right, path, index =>
    differences item right.head? (path ++ js "/" ++ decimal index) ++ differencesItems left right.tail path (index + 1)
  | [], _, _, _ => []

def differencesFields : List (JsString × Json) → Fields (Option Json → JsString → List JsString)
  | [] => []
  | (key, value) :: rest => (key, differences value) :: differencesFields rest

end

/-- The wire names of the actions. -/
def wireAction (actionId : JsString) : Option JsString :=
  Fields.get [(js "Acquire", js "acquire"), (js "Renew", js "renew"), (js "Release", js "release"), (js "Write", js "write")] actionId

/-- `edit.inputId === "Client" ? "client" : "token"` -/
def LeaseReductionEdit.input (edit : LeaseReductionEdit) : JsString :=
  if edit.inputId = js "Client" then js "client" else js "token"

def LeaseReductionEdit.stateOf (edit : LeaseReductionEdit) (trace : Ref) : Ref :=
  (trace.property "states").get (.index edit.position.toNat)

/-- `{ "#bigint": value }` -/
def bigintOf (value : Int) : Json := .object [(js "#bigint", .string (integerText value))]

/-- `/states/${edit.stateIndex}/parameters/${input}/#bigint` -/
def LeaseReductionEdit.allowedPath (edit : LeaseReductionEdit) : JsString :=
  js "/states/" ++ integerText edit.position ++ js "/parameters/" ++ edit.input ++ js "/#bigint"

def invalid (message : String) : LeaseReductionError := ⟨"reduction_candidate_invalid", message⟩

def isObject (value : Option Json) : Bool :=
  match value with
  | some (.object _) | some (.array _) => true
  | _ => false

/-- `Set.prototype.add` -/
def add (set : List JsString) (path : JsString) : List JsString := if path ∈ set then set else set ++ [path]

/-- The body of the loop over the edits, with what is allowed so far. -/
def applyEdit (source trace : Ref) (edit : LeaseReductionEdit) (allowed : List JsString) (heap : Heap) :
    Except LeaseReductionError (List JsString) × Heap :=
  let before := edit.stateOf source
  let after := edit.stateOf trace
  if !toBoolean (heap.read before) || !toBoolean (heap.read after) ||
      decide (heap.read (before.property "action_taken") ≠ (wireAction edit.actionId).map Json.string) then
    (.error (invalid "declared edit action does not match the original trace"), heap)
  else
    let beforeParameters := before.property "parameters"
    let afterParameters := after.property "parameters"
    if !isObject (heap.read beforeParameters) || !isObject (heap.read afterParameters) ||
        decide (rawBigint (heap.read (beforeParameters.get (.field edit.input))) ≠ some (js "2")) then
      (.error (invalid "declared before value does not match the original trace"), heap)
    else (.ok (add allowed edit.allowedPath), heap.assign afterParameters edit.input (bigintOf 1))

def applyEdits (source trace : Ref) : List LeaseReductionEdit → List JsString → Heap →
    Except LeaseReductionError (List JsString) × Heap
  | [], allowed, heap => (.ok allowed, heap)
  | edit :: rest, allowed, heap =>
    match applyEdit source trace edit allowed heap with
    | (.error error, heap) => (.error error, heap)
    | (.ok allowed, heap) => applyEdits source trace rest allowed heap

structure Materialized where
  trace : Ref
  changedPaths : List JsString

def materializeLeaseReductionTrace (original : Ref) (candidateInput : LeaseReductionCandidate) (heap : Heap) :
    Except LeaseReductionError Materialized × Heap :=
  match validateLeaseReductionCandidate candidateInput with
  | .error error => (.error error, heap)
  | .ok candidate =>
    match heap.read original, heap.read (original.property "states") with
    | some (.object fields), some (.array _) =>
      let (trace, heap) := heap.structuredClone (.object fields)
      match applyEdits original trace (candidate.edits.getD []) [] heap with
      | (.error error, heap) => (.error error, heap)
      | (.ok allowed, heap) =>
        let changedPaths := sort compareCodeUnits (differences (.object fields) (heap.read trace) [])
        if changedPaths.length ≠ allowed.length ∨ changedPaths.any fun path => decide (path ∉ allowed) then
          (.error (invalid "materialized trace contains an undeclared edit"), heap)
        else (.ok ⟨trace, changedPaths⟩, heap)
    | _, _ => (.error (invalid "original trace has no states"), heap)

end Mirror.Reduction.Lease
