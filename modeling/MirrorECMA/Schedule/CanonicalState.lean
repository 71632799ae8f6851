import MirrorECMA.ECMA.JsMap
import MirrorECMA.Protocol.Walk
import MirrorECMA.Schedule.Evidence

namespace Mirror.Schedule

open ECMA Mirror.Protocol

/-! ### Values in the order in which they are visited -/

mutual

/-- The fields of every record by `Object.keys(..).sort(utf8)`. -/
def sortKeys : Any → Any
  | .record fields => .record (sort (fun a b => utf8 a.1 b.1) (sortFields fields))
  | .set vs => .set (sortItems vs)
  | .seq vs => .seq (sortItems vs)
  | .tuple vs => .tuple (sortItems vs)
  | .map entries => .map (sortEntries entries)
  | .variant variantTag v => .variant variantTag (sortKeys v)
  | .int i => .int i
  | .bool b => .bool b
  | .str s => .str s
  | .unserializable s => .unserializable s
  | .null => .null
  | .message m => .message m

def sortItems : List Any → List Any
  | [] => []
  | v :: rest => sortKeys v :: sortItems rest

def sortFields : List (JsString × Any) → List (JsString × Any)
  | [] => []
  | (key, v) :: rest => (key, sortKeys v) :: sortFields rest

def sortEntries : List (Any × Any) → List (Any × Any)
  | [] => []
  | (k, v) :: rest => (sortKeys k, sortKeys v) :: sortEntries rest

end

/-! ### Canonical values -/

def tagged (name : String) (parts : List Json) : Option Json := some (.array (.string (js name) :: parts))

/-- Whether a key of a map is an integer, where it is one or a string. -/
def keyKind : Any → Option Bool
  | .str _ => some false
  | .int _ => some true
  | _ => none

variable [NumberText]

/-- A `Map` by the texts of its keys, with `undefined` for a value that is not written. -/
abbrev Texts := JsMap (Option JsString) (Option Json)

/-- `undefined` is sorted to the end. -/
def Texts.sorted (texts : Texts) : List Json :=
  let written := texts.filter fun entry => entry.1.isSome
  let unwritten := texts.filter fun entry => entry.1.isNone
  (sort (fun a b => utf8 (a.1.getD []) (b.1.getD [])) written ++ unwritten).map fun entry => entry.2.getD .null

mutual

/-- `canonicalValue`, which returns nothing for what carries no tag; `nodes` counts the values visited. -/
def canonicalValue (depth nodes : Nat) (value : Any) : Except JsString (Option Json × Nat) :=
  if depth > 32 ∨ nodes + 1 > 65536 then .error (js "canonical value exceeds structure bound")
  else match value with
    | .null => .ok (tagged "null" [], nodes + 1)
    | .int i => .ok (tagged "integer" [.string (integerText i)], nodes + 1)
    | .bool b => .ok (tagged "boolean" [.bool b], nodes + 1)
    | .str s => .ok (tagged "string" [.string s], nodes + 1)
    | .unserializable s => .ok (tagged "unserializable" [.string s], nodes + 1)
    | .message _ => .ok (none, nodes + 1)
    | .variant variantTag v => do
      let (item, nodes) ← canonicalValue (depth + 1) (nodes + 1) v
      return (tagged "variant" [.string variantTag, item.getD .null], nodes)
    | .record fields => do
      let (items, nodes) ← canonicalFields (depth + 1) (nodes + 1) fields
      return (tagged "record" [.array items], nodes)
    | .seq vs => do
      let (items, nodes) ← canonicalItems (depth + 1) (nodes + 1) vs
      return (tagged "sequence" [.array (items.map (·.getD .null))], nodes)
    | .tuple vs => do
      let (items, nodes) ← canonicalItems (depth + 1) (nodes + 1) vs
      return (tagged "tuple" [.array (items.map (·.getD .null))], nodes)
    | .set vs => do
      let (items, nodes) ← canonicalItems (depth + 1) (nodes + 1) vs
      let unique := items.foldl (fun unique item => JsMap.set unique (item.map jsonStringify) item) ([] : Texts)
      return (tagged "set" [.array (Texts.sorted unique)], nodes)
    | .map entries => do
      let (texts, nodes) ← canonicalEntries (depth + 1) (nodes + 1) none [] entries
      return (tagged "map" [.array (Texts.sorted texts)], nodes)

def canonicalItems (depth nodes : Nat) : List Any → Except JsString (List (Option Json) × Nat)
  | [] => .ok ([], nodes)
  | v :: rest => do
    let (item, nodes) ← canonicalValue depth nodes v
    let (items, nodes) ← canonicalItems depth nodes rest
    return (item :: items, nodes)

def canonicalFields (depth nodes : Nat) : List (JsString × Any) → Except JsString (List Json × Nat)
  | [] => .ok ([], nodes)
  | (key, v) :: rest => do
    let (item, nodes) ← canonicalValue depth nodes v
    let (items, nodes) ← canonicalFields depth nodes rest
    return (.array [.string key, item.getD .null] :: items, nodes)

def canonicalEntries (depth nodes : Nat) (kind : Option Bool) (texts : Texts) :
    List (Any × Any) → Except JsString (Texts × Nat)
  | [] => .ok (texts, nodes)
  | (k, v) :: rest => do
    requireValue (keyKind k).isSome "unsupported canonical map key"
    requireValue (decide (kind = none ∨ kind = keyKind k)) "mixed canonical map keys"
    let (key, nodes) ← canonicalValue depth nodes k
    let id := key.map jsonStringify
    requireValue (!decide (id ∈ JsMap.keys texts)) "duplicate canonical map key"
    let (item, nodes) ← canonicalValue depth nodes v
    canonicalEntries depth nodes (keyKind k) (JsMap.set texts id (some (.array [key.getD .null, item.getD .null]))) rest

end

/-! ### Canonical states -/

/-- The own properties of what the decoder gives as a state, with nothing for a value that carries no tag. -/
abbrev OwnState := Fields (Option Any)

def indexed (values : List (Option Any)) : OwnState := values.zipIdx.map fun entry => (decimal entry.2, entry.1)

/-- `Object.keys` throws for `undefined`. -/
def ownState : Payload Any → Except JsString OwnState
  | .undefined => .error (js "TypeError")
  | .bigint _ | .boolean _ => .ok []
  | .text s => .ok (indexed (s.map fun _ => none))
  | .list vs => .ok (indexed (vs.map some))
  | .entries entries => .ok (indexed (entries.map fun _ => none))
  | .fields fields => .ok (fields.map fun field => (field.1, some field.2))

/-- Whether the state has an own `length` beside its keys. -/
def hasLength : Payload Any → Bool
  | .text _ | .list _ | .entries _ => true
  | _ => false

/-- The units of a string and a `length` cannot be deleted. -/
def deletable (payload : Payload Any) (key : JsString) : Bool :=
  match payload with
  | .text _ => false
  | payload => !(hasLength payload && decide (key = js "length"))

def hasOwn (payload : Payload Any) (state : OwnState) (key : JsString) : Bool :=
  Fields.has state key || (hasLength payload && decide (key = js "length"))

def canonicalOwn (nodes : Nat) : Option Any → Except JsString (Option Json × Nat)
  | some v => canonicalValue 0 nodes (sortKeys v)
  | none => if nodes + 1 > 65536 then .error (js "canonical value exceeds structure bound") else .ok (none, nodes + 1)

def canonicalStateEntries (nodes : Nat) : OwnState → Except JsString (List Json)
  | [] => .ok []
  | (key, v) :: rest => do
    let (item, nodes) ← canonicalOwn nodes v
    let items ← canonicalStateEntries nodes rest
    return .array [.string key, item.getD .null] :: items

def canonicalScheduleState (state : OwnState) : Except JsString JsString := do
  let entries ← canonicalStateEntries 0 (sort (fun a b => utf8 a.1 b.1) state)
  let text := jsonStringify (.array [.string (js "mirrors.canonical-state/v1"), .array entries])
  requireValue (decide (utf8Length text ≤ 1048576)) "canonical state exceeds byte bound"
  return text

end Mirror.Schedule
