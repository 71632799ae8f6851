import MirrorECMA.ECMA.Json

namespace ECMA

/-- The declared type of plain data. -/
inductive Shape where
  | any
  | boolean
  | number
  | string
  | null
  | anyRecord
  | oneOf (members : List String)
  | array (item : Shape)
  | record (fields : List (String × Shape))
  | either (first second : Shape)

namespace Shape

mutual

/-- A value is of the declared type. -/
def Holds : Shape → Json → Prop
  | .any, _ => True
  | .boolean, json => ∃ b, json = .bool b
  | .number, json => ∃ d, json = .number d
  | .string, json => ∃ s, json = .string s
  | .null, json => json = .null
  | .anyRecord, json => ∃ fields, json = .object fields
  | .oneOf members, json => ∃ m ∈ members, json = .string (js m)
  | .array item, json => ∃ items, json = .array items ∧ ∀ v ∈ items, Holds item v
  | .record declared, json => ∃ fields, json = .object fields ∧ FieldsHold declared fields
  | .either first second, json => Holds first json ∨ Holds second json

def FieldsHold : List (String × Shape) → Fields Json → Prop
  | [], _ => True
  | (key, shape) :: rest, fields => (∃ v, Fields.get fields (js key) = some v ∧ Holds shape v) ∧ FieldsHold rest fields

end

/-- An object has a property of the declared type. -/
def Has (fields : Fields Json) (key : String) (shape : Shape) : Prop :=
  ∃ v, Fields.get fields (js key) = some v ∧ Holds shape v

@[simp] theorem holds_record {declared : List (String × Shape)} {fields : Fields Json} :
    Holds (.record declared) (.object fields) ↔ FieldsHold declared fields := by
  simp [Holds]

@[simp] theorem holds_array {item : Shape} {items : List Json} :
    Holds (.array item) (.array items) ↔ ∀ v ∈ items, Holds item v := by
  simp [Holds]

@[simp] theorem holds_either {first second : Shape} {json : Json} :
    Holds (.either first second) json ↔ Holds first json ∨ Holds second json := by
  rw [Holds]

@[simp] theorem fieldsHold_nil (fields : Fields Json) : FieldsHold [] fields ↔ True := by
  rw [FieldsHold]

@[simp] theorem fieldsHold_cons {key : String} {shape : Shape} {rest : List (String × Shape)} {fields : Fields Json} :
    FieldsHold ((key, shape) :: rest) fields ↔ Has fields key shape ∧ FieldsHold rest fields := by
  rw [FieldsHold, Has]

theorem has_iff {fields : Fields Json} {key : String} {shape : Shape} {v : Json} (found : Fields.get fields (js key) = some v) :
    Has fields key shape ↔ Holds shape v := by
  rw [Has, found]
  simp

end Shape

namespace Json

/-- The value that a chain of properties leads to. -/
def path : Json → List String → Option Json
  | json, [] => some json
  | .object fields, key :: rest => (Fields.get fields (js key)).bind fun value => value.path rest
  | _, _ => none

theorem path_cons {fields : Fields Json} {key : String} {v : Json} (found : Fields.get fields (js key) = some v)
    (rest : List String) : (Json.object fields).path (key :: rest) = v.path rest := by
  rw [path, found, Option.bind_some]

theorem path_one {fields : Fields Json} {key : String} {v : Json} (found : Fields.get fields (js key) = some v) :
    (Json.object fields).path [key] = some v := by
  rw [path_cons found, path]

end Json

end ECMA
