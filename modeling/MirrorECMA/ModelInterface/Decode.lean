import MirrorECMA.ModelInterface.Canonical

namespace Mirror.ModelInterface

open ECMA ECMA.Grammar

/-- A value of type `unknown` that is plain data; `none` is `undefined`. -/
abbrev Unknown := Option Json

abbrev Decoded := Except ModelInterfaceProtocolError

def failWhen (bad : Prop) [Decidable bad] (path message : JsString) : Decoded Unit :=
  if bad then fail path message else .ok ()

def assertShortString (value path : JsString) : Decoded JsString := do
  failWhen (utf8Length value > 256) path (js "string exceeds 256 UTF-8 bytes")
  return value

def object (value : Unknown) (path : JsString) : Decoded (Fields Json) :=
  match value with
  | some (.object fields) => .ok fields
  | _ => fail path (js "expected an object")

def exactObject (value : Unknown) (path : JsString) (allowed required : List String) : Decoded (Fields Json) := do
  let result ← object value path
  match result.keys.find? fun key => decide (key ∉ allowed.map js) with
  | some key => fail path (js "unknown field '" ++ key ++ js "'")
  | none => match required.find? fun key => !result.has (js key) with
    | some key => fail path (js "missing required field '" ++ js key ++ js "'")
    | none => .ok result

/-- The loop over the code units is `isWellFormed`. -/
def string (value : Unknown) (path : JsString) : Decoded JsString :=
  match value with
  | some (.string text) => do
    failWhen (isWellFormed text = false) path (js "contains an unpaired UTF-16 surrogate")
    return text
  | _ => fail path (js "expected a string")

/-- `assertShortString(string(value, path), path)`. -/
def shortString (value : Unknown) (path : JsString) : Decoded JsString := do
  assertShortString (← string value path) path

def nonnegativeInteger (value : Unknown) (path : JsString) : Decoded Double :=
  match value with
  | some (.number number) => do
    failWhen (number.isSafeInteger = false ∨ number.toInt?.getD 0 < 0) path (js "expected a nonnegative safe integer")
    return number
  | _ => fail path (js "expected a nonnegative safe integer")

def array (value : Unknown) (path : JsString) : Decoded (List Json) :=
  match value with
  | some (.array items) => .ok items
  | _ => fail path (js "expected an array")

/-- `value === undefined || value === null ? undefined : decode(value)`. -/
def optional {α : Type} (value : Unknown) (decode : Unknown → Decoded α) : Decoded (Option α) :=
  match value with
  | none | some .null => .ok none
  | some value => some <$> decode (some value)

/-- `value === null ? null : string(value, path)`. -/
def nullableString (value : Unknown) (path : JsString) : Decoded (Option JsString) :=
  match value with
  | some .null => .ok none
  | other => some <$> string other path

/-- `items.map((item, index) => decode(item, path[index]))`. -/
def mapItems {m : Type → Type} [Monad m] {α : Type} (decode : Unknown → JsString → m α) (path : JsString) :
    Nat → List Json → m (List α)
  | _, [] => pure []
  | index, item :: rest => do
    let head ← decode (some item) (path ++ js "[" ++ decimal index ++ js "]")
    let tail ← mapItems decode path (index + 1) rest
    return head :: tail

/-! ### Structural types -/

/-- A decoder that counts structural type nodes against the budget they share. -/
abbrev Budgeted := StateT Nat Decoded

def spendNode (path : JsString) : Budgeted Unit := do
  set ((← get) + 1)
  failWhen ((← get) > 8192) path (js "structural type graph exceeds 8192 nodes")

section

variable (nested : Unknown → JsString → Budgeted ModelType)

def decodeScalarType (kind : ScalarKind) (value : Unknown) (path : JsString) : Budgeted ModelType := do
  let _ ← exactObject value path ["kind"] ["kind"]
  return .scalar kind

def decodeCollectionType (kind : ElementKind) (value : Unknown) (path : JsString) : Budgeted ModelType := do
  let fields ← exactObject value path ["kind", "element"] ["kind", "element"]
  return .collection kind (← nested (fields.get (js "element")) (path ++ js ".element"))

def decodeTupleType (value : Unknown) (path : JsString) : Budgeted ModelType := do
  let fields ← exactObject value path ["kind", "elements"] ["kind", "elements"]
  let elements ← array (fields.get (js "elements")) (path ++ js ".elements")
  return .tuple (← mapItems nested (path ++ js ".elements") 0 elements)

/-- A field of a record type, and a case of a variant type. -/
def decodeNamedType (name type : String) (value : Unknown) (path : JsString) : Budgeted (JsString × ModelType) := do
  let fields ← exactObject value path [name, type] [name, type]
  let label ← shortString (fields.get (js name)) (path ++ js "." ++ js name)
  return (label, ← nested (fields.get (js type)) (path ++ js "." ++ js type))

def decodeRecordType (value : Unknown) (path : JsString) : Budgeted ModelType := do
  let fields ← exactObject value path ["kind", "fields"] ["kind", "fields"]
  let items ← array (fields.get (js "fields")) (path ++ js ".fields")
  return .record (← mapItems (decodeNamedType nested "wireName" "type") (path ++ js ".fields") 0 items)

def decodeMapType (value : Unknown) (path : JsString) : Budgeted ModelType := do
  let fields ← exactObject value path ["kind", "key", "value"] ["kind", "key", "value"]
  let key ← nested (fields.get (js "key")) (path ++ js ".key")
  return .map key (← nested (fields.get (js "value")) (path ++ js ".value"))

def decodeVariantType (value : Unknown) (path : JsString) : Budgeted ModelType := do
  let fields ← exactObject value path ["kind", "cases"] ["kind", "cases"]
  let items ← array (fields.get (js "cases")) (path ++ js ".cases")
  return .variant (← mapItems (decodeNamedType nested "tag" "payload") (path ++ js ".cases") 0 items)

def decodeOpaqueItfType (value : Unknown) (path : JsString) : Budgeted ModelType := do
  let fields ← exactObject value path ["kind", "description"] ["kind", "description"]
  return .opaqueItf (← shortString (fields.get (js "description")) (path ++ js ".description"))

/-- The `switch` on the kind. -/
def decodeTypeOf (kind : JsString) (value : Unknown) (path : JsString) : Budgeted ModelType :=
  switch kind [
    ("int", decodeScalarType .int value path),
    ("bool", decodeScalarType .bool value path),
    ("str", decodeScalarType .str value path),
    ("null", decodeScalarType .null value path),
    ("set", decodeCollectionType nested .set value path),
    ("seq", decodeCollectionType nested .seq value path),
    ("tuple", decodeTupleType nested value path),
    ("record", decodeRecordType nested value path),
    ("map", decodeMapType nested value path),
    ("variant", decodeVariantType nested value path),
    ("opaqueItf", decodeOpaqueItfType value path)]
    (liftM (fail (path ++ js ".kind") (js "unknown structural type '" ++ kind ++ js "'") : Decoded ModelType))

end

/-- `decodeModelType` at the depth that leaves `levels` of the 32. -/
def decodeModelType : Nat → Unknown → JsString → Budgeted ModelType
  | 0, _, path => liftM (fail path (js "structural type nesting exceeds 32") : Decoded ModelType)
  | levels + 1, value, path => do
    spendNode path
    let tagged ← object value path
    let kind ← string (tagged.get (js "kind")) (path ++ js ".kind")
    decodeTypeOf (decodeModelType levels) kind value path

/-! ### Literals and paths -/

/-- `/^-?(0|[1-9][0-9]*)$/` -/
def isCanonicalInteger (text : JsString) : Bool :=
  let digits := if text.head? = some minus then text.tail else text
  decide (digits = js "0") || (digits.head?.any (fun u => isDigit u && u ≠ 0x30) && digits.all isDigit)

section

variable (nested : Unknown → JsString → Decoded CanonicalItfLiteral)

def decodeIntLiteral (value : Unknown) (path : JsString) : Decoded CanonicalItfLiteral := do
  let fields ← exactObject value path ["kind", "value"] ["kind", "value"]
  let literal ← string (fields.get (js "value")) (path ++ js ".value")
  failWhen (isCanonicalInteger literal = false) (path ++ js ".value") (js "expected a canonical decimal integer")
  return .int literal

def decodeBoolLiteral (value : Unknown) (path : JsString) : Decoded CanonicalItfLiteral := do
  let fields ← exactObject value path ["kind", "value"] ["kind", "value"]
  match fields.get (js "value") with
  | some (.bool value) => return .bool value
  | _ => fail (path ++ js ".value") (js "expected a boolean")

def decodeStrLiteral (value : Unknown) (path : JsString) : Decoded CanonicalItfLiteral := do
  let fields ← exactObject value path ["kind", "value"] ["kind", "value"]
  return .str (← string (fields.get (js "value")) (path ++ js ".value"))

def decodeNullLiteral (value : Unknown) (path : JsString) : Decoded CanonicalItfLiteral := do
  let _ ← exactObject value path ["kind"] ["kind"]
  return .null

def decodeCollectionLiteral (kind : ValuesKind) (value : Unknown) (path : JsString) :
    Decoded CanonicalItfLiteral := do
  let fields ← exactObject value path ["kind", "values"] ["kind", "values"]
  let items ← array (fields.get (js "values")) (path ++ js ".values")
  return .collection kind (← mapItems nested (path ++ js ".values") 0 items)

def decodeLiteralField (value : Unknown) (path : JsString) : Decoded (JsString × CanonicalItfLiteral) := do
  let entry ← exactObject value path ["name", "value"] ["name", "value"]
  let name ← string (entry.get (js "name")) (path ++ js ".name")
  return (name, ← nested (entry.get (js "value")) (path ++ js ".value"))

def decodeRecordLiteral (value : Unknown) (path : JsString) : Decoded CanonicalItfLiteral := do
  let fields ← exactObject value path ["kind", "fields"] ["kind", "fields"]
  let items ← array (fields.get (js "fields")) (path ++ js ".fields")
  return .record (← mapItems (decodeLiteralField nested) (path ++ js ".fields") 0 items)

def decodeLiteralEntry (value : Unknown) (path : JsString) :
    Decoded (CanonicalItfLiteral × CanonicalItfLiteral) := do
  let entry ← exactObject value path ["key", "value"] ["key", "value"]
  let key ← nested (entry.get (js "key")) (path ++ js ".key")
  return (key, ← nested (entry.get (js "value")) (path ++ js ".value"))

def decodeMapLiteral (value : Unknown) (path : JsString) : Decoded CanonicalItfLiteral := do
  let fields ← exactObject value path ["kind", "entries"] ["kind", "entries"]
  let items ← array (fields.get (js "entries")) (path ++ js ".entries")
  return .map (← mapItems (decodeLiteralEntry nested) (path ++ js ".entries") 0 items)

def decodeVariantLiteral (value : Unknown) (path : JsString) : Decoded CanonicalItfLiteral := do
  let fields ← exactObject value path ["kind", "tag", "payload"] ["kind", "tag", "payload"]
  let tag ← string (fields.get (js "tag")) (path ++ js ".tag")
  return .variant tag (← nested (fields.get (js "payload")) (path ++ js ".payload"))

/-- The `switch` on the kind. -/
def decodeLiteralOf (kind : JsString) (value : Unknown) (path : JsString) : Decoded CanonicalItfLiteral :=
  switch kind [
    ("int", decodeIntLiteral value path),
    ("bool", decodeBoolLiteral value path),
    ("str", decodeStrLiteral value path),
    ("null", decodeNullLiteral value path),
    ("set", decodeCollectionLiteral nested .set value path),
    ("seq", decodeCollectionLiteral nested .seq value path),
    ("tuple", decodeCollectionLiteral nested .tuple value path),
    ("record", decodeRecordLiteral nested value path),
    ("map", decodeMapLiteral nested value path),
    ("variant", decodeVariantLiteral nested value path)]
    (fail (path ++ js ".kind") (js "unknown canonical literal '" ++ kind ++ js "'"))

end

/-- `decodeLiteral` at the depth that leaves `levels` of the 128. -/
def decodeLiteral : Nat → Unknown → JsString → Decoded CanonicalItfLiteral
  | 0, _, path => fail path (js "literal nesting exceeds 128")
  | levels + 1, value, path => do
    let tagged ← object value path
    let kind ← string (tagged.get (js "kind")) (path ++ js ".kind")
    decodeLiteralOf (decodeLiteral levels) kind value path

def decodePathSelector (key : JsString) (value : Unknown) (path : JsString) : Decoded ContractPathSegment :=
  switch key [
    ("field", .field <$> shortString value (path ++ js ".field")),
    ("index", .index <$> nonnegativeInteger value (path ++ js ".index")),
    ("mapKey", .mapKey <$> decodeLiteral 128 value (path ++ js ".mapKey")),
    ("variantValue", .variantValue <$> shortString value (path ++ js ".variantValue"))]
    (fail path (js "unknown path selector '" ++ key ++ js "'"))

def decodePathSegment (value : Unknown) (path : JsString) : Decoded ContractPathSegment := do
  let fields ← object value path
  match fields with
  | [(key, value)] => decodePathSelector key (some value) path
  | _ => fail path (js "path segment must contain exactly one selector")

/-! ### Descriptors -/

/-- `/^[A-Z][A-Za-z0-9]*$/` -/
def validStableId (value : JsString) : Bool :=
  value.head?.any (fun u => 0x41 ≤ u.toNat && u.toNat ≤ 0x5A) &&
    value.all fun u => isDigit u || (0x41 ≤ u.toNat && u.toNat ≤ 0x5A) || (0x61 ≤ u.toNat && u.toNat ≤ 0x7A)

/-- `/^[A-Za-z_][A-Za-z0-9_]*$/` -/
def validModuleName (value : JsString) : Bool :=
  value.head?.any (fun u => !isDigit u) && value.all fun u => isDigit u || u = 0x5F ||
    (0x41 ≤ u.toNat && u.toNat ≤ 0x5A) || (0x61 ≤ u.toNat && u.toNat ≤ 0x7A)

/-- Runs of digits, with this many dots between them. -/
def decimalFields : Nat → JsString → Bool
  | 0, text => !text.isEmpty && text.all isDigit
  | dots + 1, text => !(text.takeWhile isDigit).isEmpty && (text.dropWhile isDigit).head? = some dot &&
      decimalFields dots (text.dropWhile isDigit).tail

/-- `/^[0-9]+\.[0-9]+\.[0-9]+$/` -/
def validInterfaceVersion (value : JsString) : Bool := decimalFields 2 value

def requireUnique (values : List JsString) (path : JsString) (label : String) : Decoded Unit :=
  failWhen (¬ values.Nodup) path (js "duplicate " ++ js label)

/-- The tests that precede the fields' own types, for the fields of a record and the cases of a variant. -/
def validateNames (names : List JsString) (path : JsString) (empty label : String) : Decoded Unit := do
  failWhen ([] ∈ names) path (js empty)
  requireUnique names path label

mutual

def validateModelType : ModelType → JsString → Decoded Unit
  | .scalar _, _ => .ok ()
  | .collection _ element, path => validateModelType element (path ++ js ".element")
  | .tuple elements, path => validateModelTypes elements (path ++ js ".elements") 0
  | .record fields, path => do
    validateNames (fields.map Prod.fst) (path ++ js ".fields") "record field names must not be empty" "record field name"
    validateNamedTypes fields (path ++ js ".fields") "type" 0
  | .map key value, path => do
    validateModelType key (path ++ js ".key")
    validateModelType value (path ++ js ".value")
  | .variant cases, path => do
    validateNames (cases.map Prod.fst) (path ++ js ".cases") "variant tags must not be empty" "variant tag"
    validateNamedTypes cases (path ++ js ".cases") "payload" 0
  | .opaqueItf description, path => failWhen (description = []) (path ++ js ".description") (js "must not be empty")

def validateModelTypes : List ModelType → JsString → Nat → Decoded Unit
  | [], _, _ => .ok ()
  | type :: rest, path, index => do
    validateModelType type (path ++ js "[" ++ decimal index ++ js "]")
    validateModelTypes rest path (index + 1)

def validateNamedTypes : List (JsString × ModelType) → JsString → String → Nat → Decoded Unit
  | [], _, _, _ => .ok ()
  | (_, type) :: rest, path, member, index => do
    validateModelType type (path ++ js "[" ++ decimal index ++ js "]." ++ js member)
    validateNamedTypes rest path member (index + 1)

end

def stableId (value : Unknown) (path : JsString) : Decoded JsString := do
  let id ← shortString value path
  failWhen (validStableId id = false) path (js "expected an uppercase ASCII stable ID")
  return id

def decodeValidType (value : Unknown) (path : JsString) : Budgeted ModelType := do
  let type ← decodeModelType 32 value path
  validateModelType type path
  return type

def Phase.root : Phase → PathRoot
  | .initialization => .initialState
  | .transition => .stepParameters

def decodeResolvedInput (phase : Phase) (value : Unknown) (path : JsString) : Budgeted ResolvedInput := do
  let fields ← exactObject value path ["id", "from", "type"] ["id", "from", "type"]
  let id ← stableId (fields.get (js "id")) (path ++ js ".id")
  let source ← exactObject (fields.get (js "from")) (path ++ js ".from") ["root", "path"] ["root", "path"]
  let root ← string (source.get (js "root")) (path ++ js ".from.root")
  failWhen (root ≠ js phase.root.name) (path ++ js ".from.root")
    (js "expected '" ++ js phase.root.name ++ js "' for " ++ js phase.name)
  let rawPath ← array (source.get (js "path")) (path ++ js ".from.path")
  failWhen (rawPath.length > 32) (path ++ js ".from.path") (js "path exceeds 32 segments")
  let decodedPath ← liftM (mapItems decodePathSegment (path ++ js ".from.path") 0 rawPath)
  let type ← decodeValidType (fields.get (js "type")) (path ++ js ".type")
  return { id, «from» := { root := phase.root, path := decodedPath }, type }

def decodeResolvedAction (requiredPhase : Phase) (value : Unknown) (path : JsString) : Budgeted ResolvedAction := do
  let fields ← exactObject value path ["id", "phase", "wireAction", "wireAliases", "inputs"]
    ["id", "phase", "wireAction", "wireAliases", "inputs"]
  let phase ← string (fields.get (js "phase")) (path ++ js ".phase")
  failWhen (phase ≠ js requiredPhase.name) (path ++ js ".phase") (js "expected '" ++ js requiredPhase.name ++ js "'")
  let id ← stableId (fields.get (js "id")) (path ++ js ".id")
  let wireAction ← shortString (fields.get (js "wireAction")) (path ++ js ".wireAction")
  failWhen (wireAction = []) (path ++ js ".wireAction") (js "must not be empty")
  let rawAliases ← array (fields.get (js "wireAliases")) (path ++ js ".wireAliases")
  failWhen (rawAliases.length > 16) (path ++ js ".wireAliases") (js "array exceeds 16 aliases")
  let wireAliases ← liftM (mapItems shortString (path ++ js ".wireAliases") 0 rawAliases)
  requireUnique (wireAction :: wireAliases) (path ++ js ".wireAliases") "wire label"
  let rawInputs ← array (fields.get (js "inputs")) (path ++ js ".inputs")
  failWhen (rawInputs.length > 128) (path ++ js ".inputs") (js "array exceeds 128 inputs")
  let inputs ← mapItems (decodeResolvedInput requiredPhase) (path ++ js ".inputs") 0 rawInputs
  requireUnique (inputs.map (·.id)) (path ++ js ".inputs") "input ID"
  return { id, phase := requiredPhase, wireAction, wireAliases, inputs }

def decodeResolvedObservation (value : Unknown) (path : JsString) : Budgeted ResolvedObservation := do
  let fields ← exactObject value path ["id", "wireName", "type", "provenance"] ["id", "wireName", "type", "provenance"]
  let id ← stableId (fields.get (js "id")) (path ++ js ".id")
  let wireName ← shortString (fields.get (js "wireName")) (path ++ js ".wireName")
  failWhen (wireName = []) (path ++ js ".wireName") (js "must not be empty")
  failWhen (fields.get (js "provenance") ≠ some (.string (js "implementation"))) (path ++ js ".provenance")
    (js "version 1 supports only 'implementation'")
  let type ← decodeValidType (fields.get (js "type")) (path ++ js ".type")
  return { id, wireName, type }

def sortedUnique (values : List JsString) : List JsString := sort compareUnicodeScalars values.eraseDups

/-- `fields[name] !== expected` fails. -/
def expectText (value : Unknown) (expected : String) (path : JsString) : Decoded Unit :=
  failWhen (value ≠ some (.string (js expected))) path (js "expected '" ++ js expected ++ js "'")

def decodeRunProfile (value : Unknown) (path : JsString) : Decoded ResolvedRunProfile := do
  let fields ← exactObject value path ["actionVariable", "configuredParamVar", "itfParamVars", "effectiveParamVars"]
    ["actionVariable", "configuredParamVar", "itfParamVars", "effectiveParamVars"]
  expectText (fields.get (js "actionVariable")) "action_taken" (path ++ js ".actionVariable")
  let configuredParamVar ← nullableString (fields.get (js "configuredParamVar")) (path ++ js ".configuredParamVar")
  let rawItf ← array (fields.get (js "itfParamVars")) (path ++ js ".itfParamVars")
  let itfParamVars ← mapItems string (path ++ js ".itfParamVars") 0 rawItf
  requireUnique itfParamVars (path ++ js ".itfParamVars") "parameter variable"
  let rawEffective ← array (fields.get (js "effectiveParamVars")) (path ++ js ".effectiveParamVars")
  let effectiveParamVars ← mapItems string (path ++ js ".effectiveParamVars") 0 rawEffective
  failWhen (effectiveParamVars ≠ sortedUnique (itfParamVars ++ configuredParamVar.toList))
    (path ++ js ".effectiveParamVars") (js "does not equal the sorted effective parameter variables")
  return { configuredParamVar, itfParamVars, effectiveParamVars }

def ResolvedAction.labels (action : ResolvedAction) : List JsString := action.wireAction :: action.wireAliases

/-- The arrays of a descriptor, in the order that shares the budget of type nodes. -/
def decodeMembers (fields : Fields Json) (path : JsString) :
    Budgeted (List ResolvedAction × List ResolvedAction × List ResolvedObservation) := do
  let rawInitializers ← array (fields.get (js "initializers")) (path ++ js ".initializers")
  failWhen (rawInitializers.length = 0) (path ++ js ".initializers") (js "at least one initializer is required")
  failWhen (rawInitializers.length > 32) (path ++ js ".initializers") (js "array exceeds 32 initializers")
  let initializers ← mapItems (decodeResolvedAction .initialization) (path ++ js ".initializers") 0 rawInitializers
  let rawActions ← array (fields.get (js "actions")) (path ++ js ".actions")
  failWhen (rawActions.length > 256) (path ++ js ".actions") (js "array exceeds 256 actions")
  let actions ← mapItems (decodeResolvedAction .transition) (path ++ js ".actions") 0 rawActions
  let allActions := initializers ++ actions
  requireUnique (allActions.map (·.id)) path "action ID"
  requireUnique (allActions.flatMap (·.labels)) path "action wire label"
  let rawObservations ← array (fields.get (js "observations")) (path ++ js ".observations")
  failWhen (rawObservations.length > 1024) (path ++ js ".observations") (js "array exceeds 1024 observations")
  let observations ← mapItems decodeResolvedObservation (path ++ js ".observations") 0 rawObservations
  requireUnique (observations.map (·.id)) (path ++ js ".observations") "observation ID"
  requireUnique (observations.map (·.wireName)) (path ++ js ".observations") "observation wire name"
  return (initializers, actions, observations)

def descriptorFields : List String :=
  ["schema", "interfaceVersion", "model", "resolverSemanticsVersion", "comparisonPolicyVersion", "runProfile",
    "initializers", "actions", "observations"]

def decodeSemanticDescriptorValue (value : Unknown) : Decoded SemanticDescriptor := do
  let path := js "descriptor"
  let fields ← exactObject value path descriptorFields descriptorFields
  expectText (fields.get (js "schema")) MODEL_INTERFACE_DESCRIPTOR_SCHEMA (path ++ js ".schema")
  let interfaceVersion ← shortString (fields.get (js "interfaceVersion")) (path ++ js ".interfaceVersion")
  failWhen (validInterfaceVersion interfaceVersion = false) (path ++ js ".interfaceVersion")
    (js "expected decimal major.minor.patch")
  let modelFields ← exactObject (fields.get (js "model")) (path ++ js ".model") ["module"] ["module"]
  let module ← shortString (modelFields.get (js "module")) (path ++ js ".model.module")
  failWhen (validModuleName module = false) (path ++ js ".model.module") (js "invalid TLA+ module name")
  expectText (fields.get (js "resolverSemanticsVersion")) MODEL_INTERFACE_RESOLVER_SEMANTICS_VERSION
    (path ++ js ".resolverSemanticsVersion")
  expectText (fields.get (js "comparisonPolicyVersion")) MODEL_INTERFACE_COMPARISON_POLICY_VERSION
    (path ++ js ".comparisonPolicyVersion")
  let runProfile ← decodeRunProfile (fields.get (js "runProfile")) (path ++ js ".runProfile")
  let ((initializers, actions, observations), _) ← (decodeMembers fields path).run 0
  let descriptor : SemanticDescriptor :=
    { interfaceVersion, module, runProfile, initializers, actions, observations }
  let canonicalBytes := utf8Length (← compressCanonicalJson (canonicalDescriptorValue descriptor))
  failWhen (canonicalBytes > MAX_MODEL_INTERFACE_DESCRIPTOR_BYTES) path
    (js "canonical descriptor is " ++ decimal canonicalBytes ++ js " UTF-8 bytes; maximum is " ++
      decimal MAX_MODEL_INTERFACE_DESCRIPTOR_BYTES)
  return descriptor

/-- Validate and clone a semantic descriptor. -/
def decodeSemanticDescriptor (value : Unknown) : Decoded SemanticDescriptor := decodeSemanticDescriptorValue value

def parseSemanticDescriptor [NumberConversion] (text : JsString) : Decoded SemanticDescriptor := do
  decodeSemanticDescriptorValue (some (← parseStrictJson text))

def canonicalSemanticDescriptorString (value : Unknown) : Decoded JsString := do
  let descriptor ← decodeSemanticDescriptorValue value
  compressCanonicalJson (canonicalDescriptorValue descriptor)

end Mirror.ModelInterface
