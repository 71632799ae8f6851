import MirrorECMA.ECMA.Stringify
import MirrorECMA.Protocol.Message

namespace Mirror.Protocol

open ECMA

mutual

def encodeValue : Value → Json
  | .int i => .object [(js "#bigint", .string (integerText i))]
  | .bool b => .bool b
  | .str s => .string s
  | .set vs => .object [(js "#set", .array (encodeValues vs))]
  | .seq vs => .array (encodeValues vs)
  | .tuple vs => .object [(js "#tup", .array (encodeValues vs))]
  | .map entries => .object [(js "#map", .array (encodeEntries entries))]
  | .record fields => .object (Fields.ofEntries (encodeFields fields))
  | .variant tag v => .object [(js "tag", .string tag), (js "value", encodeValue v)]
  | .unserializable s => .object [(js "#unserializable", .string s)]
  | .null => .null

def encodeValues : List Value → List Json
  | [] => []
  | v :: rest => encodeValue v :: encodeValues rest

def encodeEntries : List (Value × Value) → List Json
  | [] => []
  | (k, v) :: rest => .array [encodeValue k, encodeValue v] :: encodeEntries rest

def encodeFields : List (JsString × Value) → List (JsString × Json)
  | [] => []
  | (name, v) :: rest => (name, encodeValue v) :: encodeFields rest

end

def encodeState (state : State) : Fields Json := Fields.ofEntries (encodeFields state)

/-- The object `encodeReportState` stringifies. -/
def reportState (state : State) : Fields Json :=
  [(js "proto_step", .string (js "report_state")), (js "state", .object (encodeState state))]

def encodeReportState [NumberText] (state : State) : JsString := jsonStringify (.object (reportState state))

theorem encodeFields_keys (fields : List (JsString × Value)) :
    Fields.keys (encodeFields fields) = Fields.keys fields := by
  induction fields with
  | nil => rfl
  | cons field rest ih => rw [encodeFields, Fields.keys_cons, Fields.keys_cons, ih]

theorem encodeFields_length (fields : List (JsString × Value)) : (encodeFields fields).length = fields.length := by
  induction fields with
  | nil => rfl
  | cons field rest ih => rw [encodeFields, List.length_cons, List.length_cons, ih]

/-- The fields of a record keep their names and their order. -/
theorem ofEntries_encodeFields {fields : List (JsString × Value)} (distinct : Fields.Distinct fields) :
    Fields.ofEntries (encodeFields fields) = encodeFields fields :=
  Fields.ofEntries_eq (by rw [Fields.Distinct, encodeFields_keys]; exact distinct)

end Mirror.Protocol
