import MirrorECMA.ECMA.CodeUnitOrder
import MirrorECMA.ECMA.Stringify
import MirrorECMA.ECMA.Throws
import MirrorECMA.Protocol.Value

namespace Mirror.OpaqueItf

open ECMA Mirror.Protocol

def OPAQUE_ITF_MAX_DEPTH : Nat := 64
def OPAQUE_ITF_MAX_NODES : Nat := 10000

/-! ### Canonical values -/

inductive CanonicalValue where
  | string (text : JsString)
  | boolean (value : Bool)
  | array (items : List CanonicalValue)

mutual

/-- `JSON.stringify` of a canonical value. -/
def CanonicalValue.stringify : CanonicalValue → JsString
  | .string text => quoteJson text
  | .boolean value => if value then js "true" else js "false"
  | .array items => 0x5B :: ((js ",").intercalate (CanonicalValue.stringifyItems items) ++ [0x5D])

def CanonicalValue.stringifyItems : List CanonicalValue → List JsString
  | [] => []
  | item :: rest => item.stringify :: CanonicalValue.stringifyItems rest

end

def sorted (values : List CanonicalValue) : List CanonicalValue :=
  sort (fun left right => compareCodeUnits left.stringify right.stringify) values

def tagged (tag : String) (rest : List CanonicalValue) : CanonicalValue := .array (.string (js tag) :: rest)

mutual

def canonical : Value → CanonicalValue
  | .null => tagged "null" []
  | .int val => tagged "int" [.string (integerText val)]
  | .bool val => tagged "bool" [.boolean val]
  | .str val => tagged "str" [.string val]
  | .unserializable val => tagged "unserializable" [.string val]
  | .set val => tagged "set" [.array (sorted (canonicals val))]
  | .seq val => tagged "seq" [.array (canonicals val)]
  | .tuple val => tagged "tuple" [.array (canonicals val)]
  -- The keys are sorted and then read one by one; the sort compares nothing but keys, so the values may be there before.
  | .record val => tagged "record" [.array ((sort (fun a b => compareCodeUnits a.1 b.1) (canonicalFields val)).map
      fun field => .array [.string field.1, field.2])]
  | .map val => tagged "map" [.array (sorted (canonicalEntries val))]
  | .variant variantTag value => tagged "variant" [.string variantTag, canonical value]

def canonicals : List Value → List CanonicalValue
  | [] => []
  | value :: rest => canonical value :: canonicals rest

def canonicalFields : List (JsString × Value) → List (JsString × CanonicalValue)
  | [] => []
  | (key, value) :: rest => (key, canonical value) :: canonicalFields rest

def canonicalEntries : List (Value × Value) → List CanonicalValue
  | [] => []
  | (key, item) :: rest => .array [canonical key, canonical item] :: canonicalEntries rest

end

def identity (value : Value) : JsString := (canonical value).stringify

/-- What the checks throw is an `Error` with this message. -/
abbrev Checked := Except JsString

def uniqueAfter (path : JsString) (seen : List JsString) : List Value → Checked Unit
  | [] => .ok ()
  | value :: rest =>
    let key := identity value
    if key ∈ seen then .error (path ++ js ": duplicate set element or map key") else uniqueAfter path (key :: seen) rest

def unique (values : List Value) (path : JsString) : Checked Unit := uniqueAfter path [] values

/-! ### Checked snapshots -/

/-- How an array or an object is laid out: with what a literal has; with another prototype, or with holes or extra
properties in an array; with an own property that is no enumerable data property with a string key. -/
inductive Layout where
  | plain
  | irregular
  | accessor
  deriving DecidableEq

/-- A JavaScript value as the checks see it, with the own properties of an object. A value that contains itself, which
`visiting` is there to refuse, is no tree and has no such form. -/
inductive Foreign where
  | bigint (value : Int)
  | boolean (value : Bool)
  | string (text : JsString)
  | array (layout : Layout) (items : List Foreign)
  | object (layout : Layout) (fields : List (JsString × Foreign))
  | other

def dataRecord (value : Foreign) (path : JsString) : Checked (Fields Foreign) :=
  match value with
  | .object .plain fields => .ok fields
  | .object .accessor _ => .error (path ++ js ": only enumerable string data properties are allowed")
  | _ => .error (path ++ js ": expected a plain ITF object")

def keys (record : Fields Foreign) (expected : List String) (path : JsString) : Checked Unit :=
  if record.keys.length ≠ expected.length ∨ record.keys.any fun key => key ∉ expected.map js then
    .error (path ++ js ": unexpected ITF value fields")
  else .ok ()

def denseArray (value : Foreign) (path : JsString) : Checked (List Foreign) :=
  match value with
  | .array .plain items => .ok items
  | .array .accessor _ => .error (path ++ js ": expected array data elements")
  | _ => .error (path ++ js ": expected a dense plain array")

/-- The visit counts its nodes. -/
abbrev Visit := StateT Nat Checked

def spendNode (path : JsString) : Visit Unit := do
  set ((← get) + 1)
  if (← get) > OPAQUE_ITF_MAX_NODES then throw (path ++ js ": ITF value exceeds structural limits")

def itemPath (path : JsString) (index : Nat) : JsString := path ++ js "[" ++ decimal index ++ js "]"

section

variable (visit : Foreign → JsString → Visit Value)

def visitItems (path : JsString) : Nat → List Foreign → Visit (List Value)
  | _, [] => pure []
  | index, item :: rest => do
    let value ← visit item (itemPath path index)
    return value :: (← visitItems path (index + 1) rest)

def visitElements (val : Foreign) (path : JsString) : Visit (List Value) := do
  let items ← denseArray val (path ++ js ".val")
  visitItems visit path 0 items

def visitEntry (item : Foreign) (path : JsString) : Visit (Value × Value) := do
  let entry ← denseArray item path
  match entry with
  | [key, value] => do
    let key ← visit key (path ++ js ".key")
    return (key, ← visit value (path ++ js ".value"))
  | _ => throw (path ++ js ": expected map entry")

def visitEntries (path : JsString) : Nat → List Foreign → Visit (List (Value × Value))
  | _, [] => pure []
  | index, item :: rest => do
    let entry ← visitEntry visit item (itemPath path index)
    return entry :: (← visitEntries path (index + 1) rest)

def visitFields (path : JsString) (val : Fields Value) : List (JsString × Foreign) → Visit (Fields Value)
  | [] => pure val
  | (key, source) :: rest => do
    let value ← visit source (path ++ js "." ++ key)
    visitFields path (val.set key value) rest

/-- The cases of the `switch` on `record.tag`; `val`, `variantTag` and `value` are the properties so called. -/
def visitTagged (tag : JsString) (val variantTag value : Foreign) (path : JsString) : Visit Value :=
  switch tag [
    ("null", pure .null),
    ("int", match val with
      | .bigint val => pure (.int val)
      | _ => throw (path ++ js ": expected bigint")),
    ("bool", match val with
      | .boolean val => pure (.bool val)
      | _ => throw (path ++ js ": expected boolean")),
    ("str", match val with
      | .string val => pure (.str val)
      | _ => throw (path ++ js ": expected string")),
    ("unserializable", match val with
      | .string val => pure (.unserializable val)
      | _ => throw (path ++ js ": expected string")),
    ("set", do
      let val ← visitElements visit val path
      unique val path
      return .set val),
    ("seq", return .seq (← visitElements visit val path)),
    ("tuple", return .tuple (← visitElements visit val path)),
    ("record", do
      let source ← dataRecord val (path ++ js ".val")
      return .record (← visitFields visit path [] source)),
    ("map", do
      let items ← denseArray val (path ++ js ".val")
      let val ← visitEntries visit path 0 items
      unique (val.map Prod.fst) path
      return .map val),
    ("variant", match variantTag with
      | .string variantTag => return .variant variantTag (← visit value (path ++ js ".value"))
      | _ => throw (path ++ js ": expected variant tag"))]
    (throw (path ++ js ": unknown ITF value tag"))

end

/-- The properties that go with a tag. -/
def expectedKeys (tag : Option Foreign) : List String :=
  match tag with
  | some (.string tag) =>
    if tag = js "null" then ["tag"] else if tag = js "variant" then ["tag", "variantTag", "value"] else ["tag", "val"]
  | _ => ["tag", "val"]

/-- `levels` is how many levels `depth` may still go down. -/
def visit : Nat → Foreign → JsString → Visit Value
  | 0, _, path => throw (path ++ js ": ITF value exceeds structural limits")
  | levels + 1, value, path => do
    spendNode path
    let record ← dataRecord value path
    let read (name : String) := (record.get (js name)).getD .other
    keys record (expectedKeys (record.get (js "tag"))) path
    match record.get (js "tag") with
    | some (.string tag) =>
      visitTagged (visit levels) tag (read "val") (read "variantTag") (read "value") path
    | _ => throw (path ++ js ": unknown ITF value tag")

def snapshotItfValue (input : Foreign) : Checked Value :=
  Prod.fst <$> (visit (OPAQUE_ITF_MAX_DEPTH + 1) input (js "value")).run 0

mutual

/-- A protocol value as it is built: object and array literals. -/
def foreign : Value → Foreign
  | .null => .object .plain [(js "tag", .string (js "null"))]
  | .int val => .object .plain [(js "tag", .string (js "int")), (js "val", .bigint val)]
  | .bool val => .object .plain [(js "tag", .string (js "bool")), (js "val", .boolean val)]
  | .str val => .object .plain [(js "tag", .string (js "str")), (js "val", .string val)]
  | .unserializable val => .object .plain [(js "tag", .string (js "unserializable")), (js "val", .string val)]
  | .set val => .object .plain [(js "tag", .string (js "set")), (js "val", .array .plain (foreignItems val))]
  | .seq val => .object .plain [(js "tag", .string (js "seq")), (js "val", .array .plain (foreignItems val))]
  | .tuple val => .object .plain [(js "tag", .string (js "tuple")), (js "val", .array .plain (foreignItems val))]
  | .record val => .object .plain [(js "tag", .string (js "record")), (js "val", .object .plain (foreignFields val))]
  | .map val => .object .plain [(js "tag", .string (js "map")), (js "val", .array .plain (foreignEntries val))]
  | .variant variantTag value => .object .plain [(js "tag", .string (js "variant")),
      (js "variantTag", .string variantTag), (js "value", foreign value)]

def foreignItems : List Value → List Foreign
  | [] => []
  | value :: rest => foreign value :: foreignItems rest

def foreignFields : List (JsString × Value) → List (JsString × Foreign)
  | [] => []
  | (key, value) :: rest => (key, foreign value) :: foreignFields rest

def foreignEntries : List (Value × Value) → List Foreign
  | [] => []
  | (key, value) :: rest => .array .plain [foreign key, foreign value] :: foreignEntries rest

end

def itfValueIdentity (value : Value) : Checked JsString := identity <$> snapshotItfValue (foreign value)

example : itfValueIdentity (.set [.int 2, .bool true]) = .ok (js "[\"set\",[[\"bool\",true],[\"int\",\"2\"]]]") := by
  decide +kernel

end Mirror.OpaqueItf
