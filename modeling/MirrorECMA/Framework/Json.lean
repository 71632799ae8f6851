import MirrorECMA.ECMA.Sort
import MirrorECMA.ECMA.Scan
import MirrorECMA.ECMA.Utf8
import MirrorECMA.ModelInterface.Canonical
import MirrorECMA.Reproduction.Platform

namespace Mirror.Framework

open ECMA
open Mirror.ModelInterface (Sha256 compareScalars)
open Mirror.Reproduction (Platform RawText SHA256 GIT_REVISION splitAt)

/-! ### Refusals -/

inductive FrameworkRefusalCode where
  | catalog_invalid
  | catalog_selection_mismatch
  | combination_unsupported
  | component_identity_mismatch
  | distribution_identity_mismatch
  | artifact_identity_mismatch
  | package_identity_mismatch
  | executable_identity_mismatch
  | runtime_identity_mismatch
  | platform_identity_mismatch
  | capability_unsupported
  deriving DecidableEq

structure FrameworkCatalogError where
  code : FrameworkRefusalCode
  predicate : JsString
  message : JsString
  deriving DecidableEq

/-- What is thrown: a refusal, or an error of the language. -/
inductive Failure where
  | refused (error : FrameworkCatalogError)
  | syntaxError
  | typeError
  deriving DecidableEq

abbrev Checked (α : Type) := Except Failure α

def refuse {α : Type} (code : FrameworkRefusalCode) (predicate detail : JsString) : Checked α :=
  .error (.refused ⟨code, predicate, detail⟩)

def invalid {α : Type} (path : JsString) (detail : String) : Checked α := refuse .catalog_invalid path (js detail)

/-- `if (!condition) refuse(code, predicate, detail)`. -/
def demand (condition : Bool) (code : FrameworkRefusalCode) (predicate : JsString) (detail : String) : Checked Unit :=
  if condition then .ok () else refuse code predicate (js detail)

/-! ### `strictJson` -/

def MAX_BYTES : Nat := 4194304
def MAX_DEPTH : Nat := 32
def MAX_NODES : Nat := 65536

def scalarString (value path : JsString) : Checked JsString :=
  if isWellFormed value then .ok value else invalid path "lone Unicode surrogate is forbidden"

def checkString (label value : JsString) (maxBytes : Nat) : Checked Unit := do
  let value ← scalarString value label
  demand (decide (utf8Length value ≤ maxBytes)) .catalog_invalid label "string exceeds 65536 bytes"

def scanFault : Scan.Fault → JsString
  | .limits => js "JSON structure exceeds limits"
  | .expectedString => js "expected JSON string"
  | .control => js "control character in string"
  | .unterminated => js "unterminated string"
  | .duplicateKey key => js "duplicate key " ++ key
  | .members => js "object exceeds member limit"
  | .colon => js "missing colon"
  | .comma => js "missing comma"
  | .items => js "array exceeds element limit"
  | .value => js "invalid JSON value"
  | .trailing => js "trailing JSON content"

def scanRules (label : JsString) : Scan.Rules Failure where
  maxDepth := MAX_DEPTH
  maxNodes := MAX_NODES
  maxMembers := 4096
  maxItems := 4096
  maxBytes := 65536
  bytesOf _ := 65536
  checkString := checkString label
  fault fault := .refused ⟨.catalog_invalid, label, scanFault fault⟩
  syntaxError := .syntaxError

/-- What an item pushes on the stack, the last of it on top. -/
def children : Json → List Json
  | .array items => items.reverse
  | .object fields => (fields.map Prod.snd).reverse
  | _ => []

/-- The loop over the stack, which may check so many more items. -/
def checkNodes (label : JsString) : Nat → List Json → Checked Unit
  | _, [] => return ()
  | 0, _ :: _ => invalid label "JSON node limit exceeded"
  | left + 1, item :: stack => do
    match item with
    | .number d => demand d.isSafeInteger .catalog_invalid label "numbers must be safe integers"
    | _ => pure ()
    checkNodes label left (children item ++ stack)

/-- The text of an input; what is thrown for it is caught. -/
def inputText [Platform] (input : RawText) (label : JsString) : Checked JsString :=
  match input with
  | .text text => if isWellFormed text then .ok text else invalid label "invalid UTF-8 input"
  | .bytes bytes =>
    match Platform.decodeUtf8 bytes with
    | some text => .ok text
    | none => invalid label "invalid UTF-8 input"

def strictJson [Platform] [NumberConversion] (input : RawText) (label : String) : Checked Json := do
  let raw ← inputText input (js label)
  demand (decide (utf8Length raw ≤ MAX_BYTES)) .catalog_invalid (js label) (label ++ " exceeds 4 MiB")
  Scan.scan (scanRules (js label)) raw
  match Grammar.jsonParse raw with
  | some parsed =>
    checkNodes (js label) MAX_NODES [parsed]
    return parsed
  | none => invalid (js label) "invalid JSON"

def jsonInputBytes : RawText → List UInt8
  | .text text => utf8Bytes text
  | .bytes bytes => bytes

/-! ### Reading values -/

/-- `path[index]`. -/
def at_ (path : JsString) (index : Nat) : JsString := path ++ js "[" ++ decimal index ++ js "]"

/-- `value.map(read)` with the index of every item. -/
def mapIndexed {α β : Type} (read : α → Nat → Checked β) (items : List α) : Checked (List β) :=
  items.zipIdx.mapM fun entry => read entry.1 entry.2

def object (value : Option Json) (path : JsString) (keys required : List String) : Checked (Fields Json) :=
  match value with
  | some (.object fields) => do
    demand ((Fields.keys fields).all fun key => decide (key ∈ keys.map js)) .catalog_invalid path "missing or unknown field"
    demand (required.all fun key => Fields.has fields (js key)) .catalog_invalid path "missing or unknown field"
    return fields
  | _ => invalid path "object expected"

/-- A property, which may be `undefined`. -/
def property (fields : Fields Json) (key : String) : Option Json := Fields.get fields (js key)

def text (value : Option Json) (path : JsString) : Checked JsString :=
  match value with
  | some (.string s) =>
    if !s.isEmpty && decide (utf8Length s ≤ 65536) && !decide (0 ∈ s) then scalarString s path
    else invalid path "nonempty bounded string expected"
  | _ => invalid path "nonempty bounded string expected"

def id (value : Option Json) (path : JsString) : Checked JsString := do
  let result ← text value path
  demand (decide (utf8Length result ≤ 256)) .catalog_invalid path "identifier exceeds 256 bytes"
  return result

def array (value : Option Json) (path : JsString) (max : Nat) : Checked (List Json) :=
  match value with
  | some (.array items) => if items.length ≤ max then .ok items else invalid path "bounded array expected"
  | _ => invalid path "bounded array expected"

def strings (value : Option Json) (path : JsString) (max : Nat) : Checked (List JsString) := do
  let items ← array value path max
  let result ← mapIndexed (fun item index => id (some item) (at_ path index)) items
  demand (decide result.Nodup) .catalog_invalid path "duplicate identity"
  return result

def integer (value : Option Json) (path : JsString) (min max : Nat) : Checked Double :=
  match value with
  | some (.number d) =>
    match d.toInt? with
    | some i =>
      if d.isSafeInteger && decide ((min : Int) ≤ i) && decide (i ≤ max) then .ok d
      else refuse .distribution_identity_mismatch path (js "bounded integer expected")
    | none => refuse .distribution_identity_mismatch path (js "bounded integer expected")
  | _ => refuse .distribution_identity_mismatch path (js "bounded integer expected")

def digest (value : Option Json) (path : JsString) : Checked JsString := do
  let result ← text value path
  demand (SHA256 result) .catalog_invalid path "lowercase SHA-256 expected"
  return result

def isLetter (u : CodeUnit) : Bool :=
  (0x41 ≤ u.toNat && u.toNat ≤ 0x5A) || (0x61 ≤ u.toNat && u.toNat ≤ 0x7A)

def logicalPath (s : JsString) : Bool :=
  !(js "/").isPrefixOf s &&
    !(match s with
      | u :: v :: _ => isLetter u && decide (v = unit ':')
      | _ => false) &&
    !decide (unit '\\' ∈ s) && !(s.tails.any (js "//").isPrefixOf) && s.all (fun u => 0x20 ≤ u.toNat && decide (u.toNat ≠ 0x7F)) &&
    (splitAt (unit '/') s).all fun part => !part.isEmpty && decide (part ≠ js ".") && decide (part ≠ js "..")

def pathValue (value : Option Json) (path : JsString) : Checked JsString := do
  let result ← text value path
  demand (logicalPath result) .catalog_invalid path "normalized logical path expected"
  return result

/-- `value === literal`. -/
def isText (value : Option Json) (literal : String) : Bool := decide (value = some (.string (js literal)))

/-- `literals.includes(value)`. -/
def isOneOf (value : Option Json) (literals : List String) : Bool := literals.any (isText value)

/-! ### `canonicalFrameworkJson` -/

/-- Both units of a pair are written as they are. -/
def canonicalUnit (u : CodeUnit) : JsString :=
  if u = 0x22 then js "\\\"" else if u = 0x5C then js "\\\\"
  else if u.toNat < 0x20 then unicodeEscapeText u
  else [u]

def canonicalString (value : JsString) : Checked JsString := do
  let value ← scalarString value (js "canonical string")
  return Grammar.quote :: (value.flatMap canonicalUnit ++ [Grammar.quote])

/-- `Buffer.compare` of the bytes of two keys. -/
def compareBytes (left right : JsString) : Int :=
  compareScalars ((utf8Bytes left).map UInt8.toNat) ((utf8Bytes right).map UInt8.toNat)

mutual

def canonicalFrameworkJson : Json → Checked JsString
  | .null => .ok (js "null")
  | .string value => canonicalString value
  | .bool value => .ok (if value then js "true" else js "false")
  | .number value =>
    if value.isSafeInteger then .ok (integerText (value.toInt?.getD 0)) else invalid (js "canonical") "safe integer expected"
  | .array items => do
    let texts ← (canonicalItems items).mapM fun text => text
    return Grammar.openBracket :: ((js ",").intercalate texts ++ [Grammar.closeBracket])
  | .object fields => do
    let texts ← (sort (fun a b => compareBytes a.1 b.1) (canonicalFields fields)).mapM Prod.snd
    return Grammar.openBrace :: ((js ",").intercalate texts ++ [Grammar.closeBrace])

def canonicalItems : List Json → List (Checked JsString)
  | [] => []
  | item :: rest => canonicalFrameworkJson item :: canonicalItems rest

/-- The text of every member, or what is thrown for it, under its key. -/
def canonicalFields : List (JsString × Json) → List (JsString × Checked JsString)
  | [] => []
  | (key, value) :: rest =>
    (key, do return (← canonicalString key) ++ Grammar.colon :: (← canonicalFrameworkJson value)) :: canonicalFields rest

end

def frameworkCatalogDigest [Sha256] (value : Json) : Checked JsString := do
  return Sha256.hexDigest (utf8Bytes (← canonicalFrameworkJson value))

/-- `same`. -/
def same (left right : Json) : Checked Bool := do
  return decide ((← canonicalFrameworkJson left) = (← canonicalFrameworkJson right))

end Mirror.Framework
