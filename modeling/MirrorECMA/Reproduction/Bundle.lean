import MirrorECMA.ECMA.Reading
import MirrorECMA.ECMA.Scan
import MirrorECMA.Reproduction.Platform

namespace Mirror.Reproduction

open ECMA
open ECMA.Reading (equalsText)

def REPRODUCTION_BUNDLE_SCHEMA : JsString := js "mirrorecma.reproduction-bundle/v1"
def REPRODUCTION_MAX_BYTES : Nat := 8388608
def REPRODUCTION_MAX_DEPTH : Nat := 32
def REPRODUCTION_MAX_NODES : Nat := 100000
def REPRODUCTION_MAX_INLINE_BYTES : Nat := 262144
def REPRODUCTION_MAX_TOTAL_INLINE_BYTES : Nat := 1048576

def EXTERNAL_TYPES : List JsString := [js "evidence-blob/v1"]

def FORBIDDEN_KEYS : List JsString :=
  ["script", "command", "module", "entryPoint", "dependency", "url", "authorization", "cookie", "password", "secret", "token",
    "privateKey", "accessKey", "secretKey", "connectionString"].map js

/-- What the functions of the bundle throw: a `ReproductionBundleError`, or an error of the language. -/
inductive BundleFailure where
  | bundle (code message : JsString)
  | syntaxError
  | typeError
  deriving DecidableEq

abbrev Checked (α : Type) := Except BundleFailure α

def fail {α : Type} (code message : JsString) : Checked α := .error (.bundle code message)

/-- `if (!condition) fail(code, message)`. -/
abbrev ensure (condition : Bool) (code message : JsString) : Checked Unit := Reading.check (.bundle code message) condition

abbrev demand (condition : Bool) (code message : String) : Checked Unit := ensure condition (js code) (js message)

/-! ### Reading values -/

def schemaInvalid (message : JsString) : BundleFailure := .bundle (js "bundle_schema_invalid") message

abbrev own (value : Fields Json) (key : String) : Checked Json :=
  Reading.own (.bundle (js "bundle_non_data_property") (js key ++ js " must be a data property")) value key

abbrev record (value : Json) (location : String) : Checked (Fields Json) :=
  Reading.record (schemaInvalid (js location ++ js " must be an object")) value

abbrev array (value : Json) (low high : Nat) (code message : String) : Checked (List Json) :=
  Reading.array (.bundle (js code) (js message)) low high value

abbrev exact (value : Fields Json) (keys : List String) (location : String) : Checked Unit :=
  Reading.exact (schemaInvalid (js location ++ js " has unknown or missing fields")) value keys

abbrev text (value : Json) (location : JsString) (pattern : JsString → Bool) (maxBytes : Nat) : Checked JsString :=
  Reading.text (schemaInvalid (location ++ js " is invalid")) (fun s => decide (utf8Length s ≤ maxBytes) && pattern s) value

def anyText (_ : JsString) : Bool := true

/-- The default of `maxBytes`. -/
def TEXT_BYTES : Nat := 65536

/-- The text of an own property. -/
def textOf (value : Fields Json) (key location : String) (pattern : JsString → Bool) : Checked JsString := do
  text (← own value key) (js location) pattern TEXT_BYTES

abbrev integer (value : Json) (location : String) (min max : Nat) : Checked Double :=
  Reading.integer (schemaInvalid (js location ++ js " is invalid")) min max value

def integerOf (value : Fields Json) (key location : String) (min max : Nat) : Checked Double := do
  integer (← own value key) location min max

/-- `[…].includes(String(own(value, key)))`. -/
def coerced [NumberText] (value : Fields Json) (key : String) (members : List String) (code message : String) : Checked Unit := do
  Reading.coerced .typeError (.bundle (js code) (js message)) members (← own value key)

/-! ### The bounds of a text and of a tree -/

def checkBytes (value : JsString) (maxBytes : Nat) : Checked Unit :=
  demand (decide (utf8Length value ≤ maxBytes)) "bundle_string_too_large" "string exceeds limit"

/-- The bytes of a string under a key. -/
def bytesOf (key : JsString) : Nat := if key = js "base64" then 349528 else TEXT_BYTES

def scanFault : Scan.Fault → BundleFailure
  | .limits => .bundle (js "bundle_structure_limit") (js "bundle structure exceeds limit")
  | .expectedString => .bundle (js "bundle_json_invalid") (js "expected JSON string")
  | .control => .bundle (js "bundle_json_invalid") (js "control character in string")
  | .unterminated => .bundle (js "bundle_json_invalid") (js "unterminated string")
  | .duplicateKey key => .bundle (js "bundle_duplicate_key") (js "duplicate key " ++ key)
  | .members => .bundle (js "bundle_structure_limit") (js "object exceeds member limit")
  | .colon => .bundle (js "bundle_json_invalid") (js "missing colon")
  | .comma => .bundle (js "bundle_json_invalid") (js "missing comma")
  | .items => .bundle (js "bundle_structure_limit") (js "array exceeds element limit")
  | .value => .bundle (js "bundle_json_invalid") (js "invalid JSON value")
  | .trailing => .bundle (js "bundle_json_invalid") (js "trailing JSON content")

def scanRules : Scan.Rules BundleFailure where
  maxDepth := REPRODUCTION_MAX_DEPTH
  maxNodes := REPRODUCTION_MAX_NODES
  maxMembers := 256
  maxItems := 4096
  maxBytes := TEXT_BYTES
  bytesOf := bytesOf
  checkString := checkBytes
  fault := scanFault
  syntaxError := .syntaxError

def preflightJson [NumberConversion] (raw : JsString) : Checked Unit := do
  demand (decide (utf8Length raw ≤ REPRODUCTION_MAX_BYTES)) "bundle_too_large" "bundle exceeds byte limit"
  Scan.scan scanRules raw

def visitItems (visit : Nat → Nat → Json → Checked Nat) (nodes : Nat) : List Json → Checked Nat
  | [] => return nodes
  | item :: rest => do
    let nodes ← visit TEXT_BYTES nodes item
    visitItems visit nodes rest

def visitFields (visit : Nat → Nat → Json → Checked Nat) (nodes : Nat) : Fields Json → Checked Nat
  | [] => return nodes
  | (key, value) :: rest => do
    ensure (!decide (key ∈ FORBIDDEN_KEYS)) (js "bundle_ambient_authority") (js "forbidden field " ++ key)
    let nodes ← visit (bytesOf key) nodes value
    visitFields visit nodes rest

/-- `visit` with so many levels left; it returns the nodes so far. -/
def visit : Nat → Nat → Nat → Json → Checked Nat
  | 0, _, _, _ => fail (js "bundle_structure_limit") (js "structure exceeds limit")
  | levels + 1, maxBytes, nodes, item =>
    if nodes + 1 > REPRODUCTION_MAX_NODES then fail (js "bundle_structure_limit") (js "structure exceeds limit")
    else match item with
      | .string s => do
        let _ ← text (.string s) (js "string") anyText maxBytes
        return nodes + 1
      | .null | .number _ | .bool _ => return nodes + 1
      | .array items => do
        demand (decide (items.length ≤ 4096)) "bundle_structure_limit" "array exceeds limit"
        visitItems (visit levels) (nodes + 1) items
      | .object fields => do
        demand (decide (fields.length ≤ 256)) "bundle_structure_limit" "object exceeds limit"
        visitFields (visit levels) (nodes + 1) fields

def boundedGraph (value : Json) : Checked Unit := do
  let _ ← visit (REPRODUCTION_MAX_DEPTH + 1) TEXT_BYTES 0 value

end Mirror.Reproduction
