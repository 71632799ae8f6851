import MirrorECMA.ECMA.BigInt
import MirrorECMA.Protocol.Walk

namespace Mirror.Protocol

open ECMA

/-- What a step that may throw a `TypeError` returns. -/
def orTypeError {α : Type} : Option α → Except Thrown α
  | some result => .ok result
  | none => .error .typeError

/-! ### Decoded values as JSON, with `none` for `undefined` -/

/-- A property of an object that is stringified: one that is undefined is left out. -/
def definedField (name : JsString) (value : Option Json) : List (JsString × Json) := (value.map fun json => (name, json)).toList

/-- `rec[k] = v`, entry after entry: assigning `__proto__` defines nothing. -/
def assignFields (entries : List (JsString × Json)) : Fields Json :=
  Fields.ofEntries (entries.filter fun entry => entry.1 ≠ js "__proto__")

mutual

def prettifyValue : Any → Option Json
  | .int val => some (.number (numberOfBigInt val))
  | .bool val => some (.bool val)
  | .str val => some (.string val)
  | .set val | .seq val | .tuple val => some (.array (prettifyValues val))
  | .map val => some (.array (prettifyEntries val))
  | .record val => some (.object (assignFields (prettifyFields val)))
  | .variant variantTag value => some (.object ((js "tag", .string variantTag) :: definedField (js "value") (prettifyValue value)))
  | .unserializable val => some (.string val)
  | .null => some .null
  | .message _ => none

def prettifyValues : List Any → List Json
  | [] => []
  | value :: rest => (prettifyValue value).getD .null :: prettifyValues rest

def prettifyEntries : List (Any × Any) → List Json
  | [] => []
  | (key, value) :: rest =>
    .array [(prettifyValue key).getD .null, (prettifyValue value).getD .null] :: prettifyEntries rest

def prettifyFields : List (JsString × Any) → List (JsString × Json)
  | [] => []
  | (name, value) :: rest => definedField name (prettifyValue value) ++ prettifyFields rest

end

mutual

/-- `encodeValue`, of whatever was decoded. -/
def encodeAny : Any → Option Json
  | .int val => some (.object [(js "#bigint", .string (integerText val))])
  | .bool val => some (.bool val)
  | .str val => some (.string val)
  | .set val => some (.object [(js "#set", .array (encodeAnys val))])
  | .seq val => some (.array (encodeAnys val))
  | .tuple val => some (.object [(js "#tup", .array (encodeAnys val))])
  | .map val => some (.object [(js "#map", .array (encodeAnyEntries val))])
  | .record val => some (.object (Fields.ofEntries (encodeAnyFields val)))
  | .variant variantTag value => some (.object ((js "tag", .string variantTag) :: definedField (js "value") (encodeAny value)))
  | .unserializable val => some (.object [(js "#unserializable", .string val)])
  | .null => some .null
  | .message _ => none

def encodeAnys : List Any → List Json
  | [] => []
  | value :: rest => (encodeAny value).getD .null :: encodeAnys rest

def encodeAnyEntries : List (Any × Any) → List Json
  | [] => []
  | (key, value) :: rest => .array [(encodeAny key).getD .null, (encodeAny value).getD .null] :: encodeAnyEntries rest

def encodeAnyFields : List (JsString × Any) → List (JsString × Json)
  | [] => []
  | (name, value) :: rest => definedField name (encodeAny value) ++ encodeAnyFields rest

end

/-- `Object.entries`, with `none` for its `TypeError`. Characters and pairs have no `tag`, so nothing comes of them. -/
def payloadEntries (encode : Any → Option Json) : Payload Any → Option (List (JsString × Json))
  | .undefined => none
  | .bigint _ | .boolean _ | .text _ | .entries _ => some []
  | .list val => some ((val.zipIdx.map fun (value, index) => definedField (decimal index) (encode value)).flatten)
  | .fields val => some ((val.map fun (name, value) => definedField name (encode value)).flatten)

def prettifyState (state : Payload Any) : Except Thrown (Fields Json) :=
  (orTypeError (payloadEntries prettifyValue state)).map assignFields

/-- `encodeState`, of whatever was decoded. -/
def encodePayload (state : Payload Any) : Except Thrown (Fields Json) :=
  (orTypeError (payloadEntries encodeAny state)).map Fields.ofEntries

section

variable [NumberText]

/-! ### Template literals -/

def rawText : Raw → Except Thrown JsString
  | none => .ok (js "undefined")
  | some value => orTypeError (toText value)

/-- The elements are objects of the decoder, without a `toString` of their own. -/
def payloadText : Payload Any → Except Thrown JsString
  | .undefined => .ok (js "undefined")
  | .bigint val => .ok (integerText val)
  | .boolean val => .ok (if val then js "true" else js "false")
  | .text val => .ok val
  | .list val => .ok ((js ",").intercalate (val.map fun _ => js "[object Object]"))
  | .entries val => .ok ((js ",").intercalate (val.map fun _ => js "[object Object],[object Object]"))
  | .fields val => orTypeError (if Fields.has val (js "toString") then none else some (js "[object Object]"))

/-! ### Hints -/

def renderPath (path : List PathSeg) : Except Thrown JsString := do
  let segs ← path.mapM fun seg =>
    match seg with
    | .field name => .ok (js "." ++ name)
    | .index index => do return js "[" ++ (← rawText index) ++ js "]"
  match segs.flatten with
  | [] => return js "<state>"
  | first :: rest => return if first = 0x2E then rest else first :: rest

def renderHintValue (v : Any) : JsString :=
  match prettifyValue v with
  | some json => jsonStringify json
  | none => js "undefined"

def renderDiffHint (h : DiffHint Any) : Except Thrown JsString :=
  let detail (path : List PathSeg) (text : JsString) : Except Thrown JsString := do
    return js "at " ++ (← renderPath path) ++ text
  match h with
  | .valueMismatch path expected actual =>
    detail path (js ": expected " ++ renderHintValue expected ++ js ", got " ++ renderHintValue actual)
  | .missing path expected => detail path (js ": missing " ++ renderHintValue expected)
  | .extra path actual => detail path (js ": unexpected " ++ renderHintValue actual)
  | .missingElem path expected => detail path (js ": missing element " ++ renderHintValue expected)
  | .extraElem path actual => detail path (js ": unexpected element " ++ renderHintValue actual)
  | .typeMismatch path expected actual =>
    detail path (js ": expected a value of shape " ++ renderHintValue expected ++ js ", got " ++ renderHintValue actual)
  | .truncated path => detail path (js ": further differences truncated")

def renderDiffHints (hints : List (DiffHint Any)) : Except Thrown JsString :=
  match hints with
  | [] => .ok (js "states differ")
  | hints => do return (js "; ").intercalate (← hints.mapM renderDiffHint)

end

end Mirror.Protocol
