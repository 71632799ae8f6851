import MirrorECMA.ModelInterface.Decode
import MirrorECMA.OpaqueItf.Opaque

namespace Mirror.DynamicBinding

open ECMA Mirror.Protocol Mirror.OpaqueItf
open Mirror.ModelInterface (ModelType ScalarKind ElementKind)

/-- A native value; `other` is one of no model type, such as `undefined`, a number or a function. -/
inductive NativeModelValue where
  | bigint (value : Int)
  | boolean (value : Bool)
  | string (text : JsString)
  | null
  | array (items : List NativeModelValue)
  | object (fields : List (JsString × NativeModelValue))
  | wrapped (value : OpaqueItfValue)
  | other

def ownRecord (value : NativeModelValue) : Option (Fields NativeModelValue) :=
  match value with
  | .object fields => some fields
  | _ => none

def exactKeys (keys expected : List JsString) (path : JsString) : Checked Unit :=
  let actual := sort compareCodeUnits keys
  let wanted := sort compareCodeUnits expected
  if actual ≠ wanted then
    .error (path ++ js ": expected keys [" ++ (js ", ").intercalate wanted ++ js "], got [" ++
      (js ", ").intercalate actual ++ js "]")
  else .ok ()

def valueIdentity (value : Value) : Checked JsString := itfValueIdentity value

def assertUniqueAfter (path : JsString) (seen : List JsString) : List Value → Checked Unit
  | [] => .ok ()
  | value :: rest => do
    let identity ← valueIdentity value
    if identity ∈ seen then .error (path ++ js ": duplicate set element or map key")
    else assertUniqueAfter path (identity :: seen) rest

def assertUniqueValues (values : List Value) (path : JsString) : Checked Unit := assertUniqueAfter path [] values

/-- `items.map((item, index) => f(item, path[index]))`. -/
def mapItems {α β : Type} (f : α → JsString → Checked β) (path : JsString) : Nat → List α → Checked (List β)
  | _, [] => .ok []
  | index, item :: rest => do
    let head ← f item (itemPath path index)
    return head :: (← mapItems f path (index + 1) rest)

def kindName : ModelType → String
  | .scalar kind => kind.name
  | .collection kind _ => kind.name
  | .tuple _ => "tuple"
  | .record _ => "record"
  | .map _ _ => "map"
  | .variant _ => "variant"
  | .opaqueItf _ => "opaqueItf"

/-! ### Protocol values to native values -/

def decodeScalar (kind : ScalarKind) (value : Value) : Option NativeModelValue :=
  match kind, value with
  | .int, .int val => some (.bigint val)
  | .bool, .bool val => some (.boolean val)
  | .str, .str val => some (.string val)
  | .null, .null => some .null
  | _, _ => none

def decodeMismatch {α : Type} (shape : ModelType) (path : JsString) : Checked α :=
  .error (path ++ js ": value does not match " ++ js (kindName shape))

mutual

def decodeNative : Value → ModelType → JsString → Checked NativeModelValue
  | value, .scalar kind, path =>
    match decodeScalar kind value with
    | some native => .ok native
    | none => decodeMismatch (.scalar kind) path
  | value, .collection .set element, path =>
    match value with
    | .set val => do
      assertUniqueValues val path
      return .array (← mapItems (fun item path => decodeNative item element path) path 0 val)
    | _ => decodeMismatch (.collection .set element) path
  | value, .collection .seq element, path =>
    match value with
    | .seq val => return .array (← mapItems (fun item path => decodeNative item element path) path 0 val)
    | _ => decodeMismatch (.collection .seq element) path
  | value, .tuple elements, path =>
    match value with
    | .tuple val =>
      if val.length = elements.length then return .array (← decodeElements val elements path 0)
      else decodeMismatch (.tuple elements) path
    | _ => decodeMismatch (.tuple elements) path
  | value, .record fields, path =>
    match value with
    | .record val => do
      exactKeys (Fields.keys val) (fields.map Prod.fst) path
      return .object (Fields.ofEntries (← decodeFields val fields path))
    | _ => decodeMismatch (.record fields) path
  | value, .map keyType valueType, path =>
    match value with
    | .map val => do
      assertUniqueValues (val.map Prod.fst) path
      return .array (← mapItems (fun entry path => do
        let key ← decodeNative entry.1 keyType (path ++ js ".key")
        let item ← decodeNative entry.2 valueType (path ++ js ".value")
        return .array [key, item]) path 0 val)
    | _ => decodeMismatch (.map keyType valueType) path
  | value, .variant cases, path =>
    match value with
    | .variant variantTag payload => do
      match ← decodeCase variantTag payload cases path with
      | some native => return .object [(js "tag", .string variantTag), (js "value", native)]
      | none => decodeMismatch (.variant cases) path
    | _ => decodeMismatch (.variant cases) path
  | value, .opaqueItf _, _ => return .wrapped (← OpaqueItfValue.create value)

def decodeElements : List Value → List ModelType → JsString → Nat → Checked (List NativeModelValue)
  | item :: items, element :: elements, path, index => do
    let head ← decodeNative item element (itemPath path index)
    return head :: (← decodeElements items elements path (index + 1))
  | _, _, _, _ => .ok []

/-- The fields in the order of the type. A field that is not there, which `exactKeys` rules out, is read as `undefined`. -/
def decodeFields (val : Fields Value) : List (JsString × ModelType) → JsString → Checked (List (JsString × NativeModelValue))
  | [], _ => .ok []
  | (wireName, type) :: rest, path => do
    let native ← match val.get wireName with
      | some value => decodeNative value type (path ++ js "." ++ wireName)
      | none => .error (js "Cannot read properties of undefined (reading 'tag')")
    return (wireName, native) :: (← decodeFields val rest path)

/-- The payload at the first case with this tag. -/
def decodeCase (variantTag : JsString) (payload : Value) : List (JsString × ModelType) → JsString →
    Checked (Option NativeModelValue)
  | [], _ => .ok none
  | (tag, type) :: rest, path =>
    if tag = variantTag then some <$> decodeNative payload type (path ++ js ".value")
    else decodeCase variantTag payload rest path

end

/-! ### Native values to protocol values -/

def encodeScalar (kind : ScalarKind) (value : NativeModelValue) : Option Value :=
  match kind, value with
  | .int, .bigint value => some (.int value)
  | .bool, .boolean value => some (.bool value)
  | .str, .string text => some (.str text)
  | .null, .null => some .null
  | _, _ => none

def encodeMismatch {α : Type} (shape : ModelType) (path : JsString) : Checked α :=
  .error (path ++ js ": implementation value does not match " ++ js (kindName shape))

mutual

def encodeNative : NativeModelValue → ModelType → JsString → Checked Value
  | value, .scalar kind, path =>
    match encodeScalar kind value with
    | some encoded => .ok encoded
    | none => encodeMismatch (.scalar kind) path
  | value, .collection kind element, path =>
    match value with
    | .array items => do
      let val ← mapItems (fun item path => encodeNative item element path) path 0 items
      match kind with
      | .set => do
        assertUniqueValues val path
        return .set val
      | .seq => return .seq val
    | _ => encodeMismatch (.collection kind element) path
  | value, .tuple elements, path =>
    match value with
    | .array items =>
      if items.length = elements.length then return .tuple (← encodeElements items elements path 0)
      else encodeMismatch (.tuple elements) path
    | _ => encodeMismatch (.tuple elements) path
  | value, .record fields, path =>
    match ownRecord value with
    | some record => do
      exactKeys record.keys (fields.map Prod.fst) path
      return .record (Fields.ofEntries (← encodeFields record fields path))
    | none => encodeMismatch (.record fields) path
  | value, .map keyType valueType, path =>
    match value with
    | .array items => do
      let val ← mapItems (fun entry path =>
        match entry with
        | .array [key, item] => do
          let key ← encodeNative key keyType (path ++ js ".key")
          return (key, ← encodeNative item valueType (path ++ js ".value"))
        | _ => .error (path ++ js ": expected map entry")) path 0 items
      assertUniqueValues (val.map Prod.fst) path
      return .map val
    | _ => encodeMismatch (.map keyType valueType) path
  | value, .variant cases, path =>
    match ownRecord value with
    | some record =>
      match record.get (js "tag") with
      | some (.string tag) => do
        exactKeys record.keys [js "tag", js "value"] path
        match ← encodeCase tag ((record.get (js "value")).getD .other) cases path with
        | some payload => return .variant tag payload
        | none => encodeMismatch (.variant cases) path
      | _ => encodeMismatch (.variant cases) path
    | none => encodeMismatch (.variant cases) path
  | value, .opaqueItf _, _ =>
    match value with
    | .wrapped value => value.encode
    | _ => .error (js "opaqueItf requires an OpaqueItfValue wrapper")

def encodeElements : List NativeModelValue → List ModelType → JsString → Nat → Checked (List Value)
  | item :: items, element :: elements, path, index => do
    let head ← encodeNative item element (itemPath path index)
    return head :: (← encodeElements items elements path (index + 1))
  | _, _, _, _ => .ok []

def encodeFields (record : Fields NativeModelValue) : List (JsString × ModelType) → JsString →
    Checked (List (JsString × Value))
  | [], _ => .ok []
  | (wireName, type) :: rest, path => do
    let value ← encodeNative ((record.get wireName).getD .other) type (path ++ js "." ++ wireName)
    return (wireName, value) :: (← encodeFields record rest path)

def encodeCase (variantTag : JsString) (payload : NativeModelValue) : List (JsString × ModelType) → JsString →
    Checked (Option Value)
  | [], _ => .ok none
  | (tag, type) :: rest, path =>
    if tag = variantTag then some <$> encodeNative payload type (path ++ js ".value")
    else encodeCase variantTag payload rest path

end

end Mirror.DynamicBinding
