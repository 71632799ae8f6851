import MirrorECMA.ECMA.BigInt
import MirrorECMA.ECMA.ParseExact
import MirrorECMA.ECMA.Stringify
import MirrorECMA.ECMA.Throws
import MirrorECMA.Protocol.Message

namespace Mirror.Protocol

open ECMA

inductive Thrown where
  | syntaxError
  | rangeError
  | typeError
  | error (message : JsString)
  deriving DecidableEq

/-- The branch of `walk` an object takes. -/
inductive Shape where
  | bigint (text : JsString)
  | tuple (items : List Json)
  | set (items : List Json)
  | map (items : List Json)
  | unserializable (text : JsString)
  | message
  | variant
  | record

/-- An object of one key that is a marker with a payload of the marker's type. -/
def markerShape : Fields Json → Option Shape
  | [(marker, .string text)] =>
    if marker = js "#bigint" then some (.bigint text)
    else if marker = js "#unserializable" then some (.unserializable text)
    else none
  | [(marker, .array items)] =>
    if marker = js "#tup" then some (.tuple items)
    else if marker = js "#set" then some (.set items)
    else if marker = js "#map" then some (.map items)
    else none
  | _ => none

def shape (obj : Fields Json) : Shape :=
  match markerShape obj with
  | some marked => marked
  | none =>
    if Fields.has obj (js "proto_step") then .message
    else if obj.length = 2 ∧ Fields.has obj (js "tag") ∧ Fields.has obj (js "value") then .variant
    else .record

/-- What `walk` returns for the parts of an object. -/
structure Parts where
  /-- `walk(obj[key])` -/
  field : JsString → Except Thrown Any
  /-- `walk` of every own property -/
  fields : Except Thrown (List (JsString × Any))
  /-- `walk` of the items behind a marker -/
  items : Except Thrown (List Any)
  entries : Except Thrown (List (Any × Any))
  /-- `decodeHints(obj.hints)` -/
  hints : Except Thrown (Option (List (DiffHint Any)))

def pathSeg : Json → Except Thrown PathSeg
  | .null => .error .typeError
  | .object s =>
    match Fields.get s (js "field") with
    | some (.string name) => .ok (.field name)
    | _ => .ok (.index (Fields.get s (js "index")))
  | _ => .ok (.index none)

def hintPath (o : Fields Json) : Except Thrown (List PathSeg) :=
  match Fields.get o (js "path") with
  | none | some .null => .ok []
  | some (.array segs) => segs.mapM pathSeg
  | some _ => .error .typeError

/-- One hint that is an object, with `field` for `walk(o[key])`. -/
def decodeHint (o : Fields Json) (field : JsString → Except Thrown Any) : Except Thrown (DiffHint Any) := do
  let path ← hintPath o
  match Fields.get o (js "kind") with
  | some (.string kind) =>
    if kind = js "value_mismatch" then
      return .valueMismatch path (← field (js "expected")) (← field (js "actual"))
    else if kind = js "missing" then return .missing path (← field (js "expected"))
    else if kind = js "extra" then return .extra path (← field (js "actual"))
    else if kind = js "missing_elem" then return .missingElem path (← field (js "expected"))
    else if kind = js "extra_elem" then return .extraElem path (← field (js "actual"))
    else if kind = js "type_mismatch" then
      return .typeMismatch path (← field (js "expected")) (← field (js "actual"))
    else return .truncated path
  | _ => return .truncated path

section

variable [NumberText]

/-- `JSON.stringify` of a property, which may be absent. -/
def stringifyRaw (raw : Raw) : Option JsString := raw.map jsonStringify

def decodeResult (result : Raw) : ValidateResult :=
  match result with
  | some (.string text) => if text = js "valid" then .valid else .invalid (some text)
  | some (.object fields) =>
    match Fields.get fields (js "invalid") with
    | some (.string text) => .invalid (some text)
    | _ => .invalid (stringifyRaw result)
  | _ => .invalid (stringifyRaw result)

/-- `value ?? []`. -/
def orEmpty : Raw → Json
  | none | some .null => .array []
  | some value => value

/-- A property of any value but `null` and `undefined`. -/
def property (value : Json) (key : JsString) : Raw :=
  match value with
  | .object fields => Fields.get fields key
  | _ => none

def decodeJobOutcome (raw : Raw) : Except Thrown JobOutcome :=
  match raw.getD .null with
  | .null => .ok (.error (stringifyRaw raw))
  | .object o =>
    if Fields.has o (js "validate") then .ok (.validate (decodeResult (Fields.get o (js "validate"))))
    else if Fields.has o (js "genTraces") then
      let g := (Fields.get o (js "genTraces")).getD .null
      .ok (.genTraces (orEmpty (property g (js "itfTracePaths"))) (orEmpty (property g (js "itfTraces"))))
    else
      match Fields.get o (js "error") with
      | some (.string text) => .ok (.error (some text))
      | _ => .ok (.error (stringifyRaw raw))
  | .array _ => .ok (.error (stringifyRaw raw))
  | _ => .error .typeError

/-- `walkMessage` of an object that has `proto_step`. -/
def walkMessage (obj : Fields Json) (parts : Parts) : Except Thrown AnyMessage :=
  let get (key : String) : Raw := Fields.get obj (js key)
  match get "proto_step" with
  | some (.string step) => switch step [
      ("spec_validated", .ok (.specValidated (decodeResult (get "result")))),
      ("initial_state", do return .initialState (get "action") (← parts.field (js "state")).val),
      ("next_step", do return .nextStep (get "action") (← parts.field (js "parameters")).val),
      ("step_ok", .ok .stepOk),
      ("step_mismatch", do
        return .stepMismatch (get "action") (← parts.field (js "expected")).val (← parts.field (js "actual")).val
          (← parts.hints)),
      ("all_steps_done", .ok .allStepsDone),
      ("gen_traces_done", .ok (.genTracesDone (orEmpty (get "itfTracePaths")) (get "itfTraces"))),
      ("protocol_error", .ok (.protocolError (get "error"))),
      ("register_error", .ok (.registerError (get "error"))),
      ("job_accepted", .ok (.jobAccepted (get "jobId") (get "kind"))),
      ("job_status", .ok (.jobStatus (get "jobId") (get "phase"))),
      ("job_result", do return .jobResult (get "jobId") (← decodeJobOutcome (get "outcome"))),
      ("explorer_ready", .ok (.explorerReady (get "initTransitions") (get "nextTransitions") (get "stateInvariants"))),
      ("explore_transition_status", .ok (.exploreTransitionStatus (get "status"))),
      ("explore_step_done", .ok (.exploreStepDone (get "stepNo"))),
      ("explore_state", do return .exploreState (← parts.field (js "state")).val),
      ("explore_invariant_status", .ok (.exploreInvariantStatus (get "status"))),
      ("explore_assume_status", .ok (.exploreAssumeStatus (get "status"))),
      ("explore_rollback_done", .ok (.exploreRollbackDone (get "snapshotId"))),
      ("explore_session_done", .ok .exploreSessionDone)]
      (.ok (.protocolError (some (.string (js "unknown proto_step: " ++ step)))))
  | other =>
    match toText (other.getD .null) with
    | some text => .ok (.protocolError (some (.string (js "unknown proto_step: " ++ text))))
    | none => .error .typeError

def walkObject (obj : Fields Json) (parts : Parts) : Except Thrown Any :=
  match shape obj with
  | .bigint text =>
    match bigIntOfString text with
    | some i => .ok (.int i)
    | none => .error .syntaxError
  | .tuple _ => do return .tuple (← parts.items)
  | .set _ => do return .set (← parts.items)
  | .map _ => do return .map (← parts.entries)
  | .unserializable text => .ok (.unserializable text)
  | .message => do return .message (← walkMessage obj parts)
  | .variant =>
    match Fields.get obj (js "tag") with
    | some (.string tag) => do return .variant tag (← parts.field (js "value"))
    | _ => .error (.error (js "invalid ITF variant: tag must be a string"))
  | .record => do return .record (Fields.ofEntries (← parts.fields))

/-- The entry of a string: its first two characters. -/
def textEntry (s : JsString) : Any × Any :=
  match codePoints s with
  | [] => (.null, .null)
  | [first] => (.str (fromCodePoint first), .null)
  | first :: second :: _ => (.str (fromCodePoint first), .str (fromCodePoint second))

mutual

def walk : Json → Except Thrown Any
  | .null => .ok .null
  | .bool b => .ok (.bool b)
  | .string s => .ok (.str s)
  | .number d =>
    match bigIntOfNumber d with
    | some i => .ok (.int i)
    | none => .error .rangeError
  | .array items => do return .seq (← walkItems items)
  | .object obj =>
    walkObject obj ⟨fun key => walkField key obj, walkFields obj, markedItems obj, markedEntries obj, hints obj⟩

def walkItems : List Json → Except Thrown (List Any)
  | [] => .ok []
  | item :: rest => do return (← walk item) :: (← walkItems rest)

def walkFields : List (JsString × Json) → Except Thrown (List (JsString × Any))
  | [] => .ok []
  | (key, value) :: rest => do return (key, ← walk value) :: (← walkFields rest)

/-- `walk(obj[key])`, which is `walk(undefined)` where the key is absent. -/
def walkField (key : JsString) : List (JsString × Json) → Except Thrown Any
  | [] => .ok .null
  | (k, value) :: rest => if k = key then walk value else walkField key rest

def markedItems : List (JsString × Json) → Except Thrown (List Any)
  | [(_, .array items)] => walkItems items
  | _ => .ok []

def markedEntries : List (JsString × Json) → Except Thrown (List (Any × Any))
  | [(_, .array items)] => walkEntries items
  | _ => .ok []

def walkEntries : List Json → Except Thrown (List (Any × Any))
  | [] => .ok []
  | item :: rest => do return (← walkPair item) :: (← walkEntries rest)

/-- An item taken apart as `[k, v]`. -/
def walkPair : Json → Except Thrown (Any × Any)
  | .array entry => walkEntry entry
  | .string s => .ok (textEntry s)
  | _ => .error .typeError

def walkEntry : List Json → Except Thrown (Any × Any)
  | [] => .ok (.null, .null)
  | [k] => do return (← walk k, .null)
  | k :: v :: _ => do return (← walk k, ← walk v)

def hints : List (JsString × Json) → Except Thrown (Option (List (DiffHint Any)))
  | [] => .ok none
  | (key, value) :: rest =>
    if key = js "hints" then
      match value with
      | .array items => do return some (← decodeHints items)
      | _ => .ok none
    else hints rest

def decodeHints : List Json → Except Thrown (List (DiffHint Any))
  | [] => .ok []
  | h :: rest => do return (← decodeHintItem h) :: (← decodeHints rest)

def decodeHintItem : Json → Except Thrown (DiffHint Any)
  | .null => .error .typeError
  | .object o => decodeHint o fun key => walkField key o
  | _ => .ok (.truncated [])

end

def decodeMirrorMessage [NumberConversion] (line : JsString) : Except Thrown AnyMessage :=
  match Grammar.jsonParse line with
  | none => .error .syntaxError
  | some raw => do
    match ← walk raw with
    | .message msg => return msg
    | _ => return .protocolError (some (.string (js "unknown step: undefined")))

end

end Mirror.Protocol
