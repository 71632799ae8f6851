import MirrorECMA.ECMA.Integers
import MirrorECMA.Protocol.Walked

namespace Mirror.Protocol

open ECMA Value

/-- The states a message carries, by the type of its step. -/
def stateFields {σ ν : Type} : MirrorMessage σ ν → List σ
  | .initialState _ state | .exploreState state => [state]
  | .nextStep _ parameters => [parameters]
  | .stepMismatch _ expected actual _ => [expected, actual]
  | _ => []

/-- The keys that hold the states of a step. -/
def stateKeys (step : Raw) : List JsString :=
  match step with
  | some (.string step) => switch step [("initial_state", [js "state"]), ("next_step", [js "parameters"]),
      ("step_mismatch", [js "expected", js "actual"]), ("explore_state", [js "state"])] []
  | _ => []

/-- A finite map from field names to values. -/
def IsState (payload : Payload Any) : Prop := ∃ state : State, payload = .fields (toAnyFields state)

/-- A key that holds an object read as a record, with no object under it that is read as a message. -/
def StateObject (raw : Raw) : Prop :=
  ∃ obj, raw = some (.object obj) ∧ shape obj = .record ∧ MessageFree (.object obj)

section

variable [NumberText]

/-- The states of a message are walked from the keys of its step. -/
theorem stateFields_walkMessage {obj : Fields Json} {parts : Parts} {msg : AnyMessage}
    (read : walkMessage obj parts = .ok msg) :
    ∃ walked, (stateKeys (Fields.get obj (js "proto_step"))).mapM parts.field = .ok walked ∧
      stateFields msg = walked.map Any.val := by
  unfold walkMessage at read
  simp only at read
  split at read
  · rename_i step found
    rw [found]
    rcases switch_eq read with ⟨case, member, rfl, result⟩ | ⟨none, result⟩
    · simp only [List.mem_cons, List.not_mem_nil, or_false] at member
      rcases member with rfl | rfl | rfl | rfl | rfl | rfl | rfl | rfl | rfl | rfl | rfl | rfl | rfl | rfl | rfl |
        rfl | rfl | rfl | rfl | rfl
      case inr.inr.inr.inr.inl =>
        simp only [bind_eq_ok, pure_eq_ok, Except.ok.injEq] at result
        obtain ⟨expected, readExpected, actual, readActual, hints, -, rfl⟩ := result
        exact ⟨[expected, actual], by simp [stateKeys, switch, readExpected, readActual], rfl⟩
      -- a step with one state, a step without, and `job_result`
      all_goals first
        | (cases result; exact ⟨[], by simp [stateKeys, switch], rfl⟩)
        | (obtain ⟨walked, returned, rfl⟩ := map_eq_ok.mp result
           first
           | exact ⟨[walked], by simp [stateKeys, switch, returned], rfl⟩
           | exact ⟨[], by simp [stateKeys, switch], rfl⟩)
    · cases result
      simp only [List.forall_mem_cons] at none
      exact ⟨[], by simp [stateKeys, switch, none], rfl⟩
  · rename_i other
    have none : stateKeys (Fields.get obj (js "proto_step")) = [] := by
      unfold stateKeys
      split
      · exact absurd ‹_› (other _)
      · rfl
    rw [none]
    split at read <;> cases read
    exact ⟨[], rfl, rfl⟩

theorem walk_object_record {obj : Fields Json} {fields : List (JsString × Any)}
    (read : walk (.object obj) = .ok (.record fields)) : shape obj = .record := by
  generalize whole : Any.record fields = decoded at read
  cases walk_object read with
  | record branch _ => exact branch
  | _ => cases whole

theorem walk_object_message {obj : Fields Json} {msg : AnyMessage}
    (read : walk (.object obj) = .ok (.message msg)) : shape obj = .message := by
  generalize whole : Any.message msg = decoded at read
  cases walk_object read with
  | message branch _ => exact branch
  | _ => cases whole

theorem walk_shape_record {obj : Fields Json} {decoded : Any} (read : walk (.object obj) = .ok decoded)
    (branch : shape obj = .record) : ∃ fields, decoded = .record fields := by
  cases walk_object read with
  | record _ _ => exact ⟨_, rfl⟩
  | _ => simp_all

theorem walk_val_isState {json : Json} {decoded : Any} (distinct : json.KeysDistinct)
    (read : walk json = .ok decoded) : IsState decoded.val ↔ StateObject (some json) := by
  have typed := walk_typedIff json distinct decoded read
  refine ⟨?_, ?_⟩
  · rintro ⟨state, same⟩
    obtain rfl := val_record same
    have free := typed.mp ⟨.record state, rfl⟩
    cases json with
    | object obj => exact ⟨obj, rfl, walk_object_record read, free⟩
    | number d =>
      rw [walk] at read
      split at read <;> cases read
    | array items =>
      simp only [walk, map_eq_ok] at read
      obtain ⟨walked, -, isRecord⟩ := read
      cases isRecord
    | null | bool b | string text => cases read
  · rintro ⟨obj, same, branch, free⟩
    cases same
    obtain ⟨fields, rfl⟩ := walk_shape_record read branch
    obtain ⟨v, whole⟩ := typed.mpr free
    cases v <;> cases whole
    exact ⟨_, rfl⟩

theorem walkField_isState {obj : Fields Json} (distinct : Json.KeysDistinct (.object obj)) {key : JsString}
    {decoded : Any} (read : walkField key obj = .ok decoded) :
    IsState decoded.val ↔ StateObject (Fields.get obj key) := by
  rw [walkField_get] at read
  split at read
  · rename_i absent
    cases read
    rw [absent]
    exact iff_of_false (by rintro ⟨state, same⟩; cases same) (by rintro ⟨inner, same, -⟩; cases same)
  · rename_i value found
    rw [found]
    exact walk_val_isState (keysDistinct_field distinct (Fields.mem_of_get found)) read

theorem mapM_walkField {obj : Fields Json} (distinct : Json.KeysDistinct (.object obj)) {keys : List JsString}
    {walked : List Any} (read : keys.mapM (fun key => walkField key obj) = .ok walked) :
    (∀ payload ∈ walked.map Any.val, IsState payload) ↔ ∀ key ∈ keys, StateObject (Fields.get obj key) := by
  induction keys generalizing walked with
  | nil => cases read; simp
  | cons key rest ih =>
    simp only [List.mapM_cons, bind_eq_ok, pure_eq_ok, Except.ok.injEq] at read
    obtain ⟨first, readFirst, more, readMore, rfl⟩ := read
    rw [List.map_cons, List.forall_mem_cons, List.forall_mem_cons, walkField_isState distinct readFirst, ih readMore]

/-- A property of the line as it was parsed. -/
def rawProperty [NumberConversion] (line key : JsString) : Raw :=
  (Grammar.jsonParse line).bind fun raw => property raw key

/-- The states of an accepted message are well typed exactly when the line holds a plain object for each of them. -/
theorem decodeMirrorMessage_typed [NumberConversion] (line : JsString) (msg : AnyMessage)
    (decoded : decodeMirrorMessage line = .ok msg) :
    (∀ payload ∈ stateFields msg, IsState payload) ↔
      ∀ key ∈ stateKeys (rawProperty line (js "proto_step")), StateObject (rawProperty line key) := by
  unfold decodeMirrorMessage at decoded
  split at decoded
  · cases decoded
  rename_i raw parsed
  have distinct := Grammar.jsonParse_keysDistinct parsed
  simp only [bind_eq_ok] at decoded
  obtain ⟨walked, read, decoded⟩ := decoded
  simp only [rawProperty, parsed, Option.bind_some]
  cases raw with
  | object obj =>
    simp only [property]
    by_cases branch : shape obj = .message
    · cases walk_object read with
      | message _ readMessage =>
        cases decoded
        obtain ⟨walked, readStates, states⟩ := stateFields_walkMessage readMessage
        rw [states]
        exact mapM_walkField distinct readStates
      | _ => simp_all
    · have notMessage : ∀ inner, walked ≠ .message inner := by
        rintro inner rfl
        exact branch (walk_object_message read)
      rw [shape_not_message branch]
      split at decoded
      · exact absurd rfl (notMessage _)
      · cases decoded
        simp [stateFields, stateKeys]
  | null | bool b | string text =>
    cases read
    cases decoded
    simp [stateFields, stateKeys, property]
  | number d =>
    rw [walk] at read
    split at read <;> cases read
    cases decoded
    simp [stateFields, stateKeys, property]
  | array items =>
    simp only [walk, map_eq_ok] at read
    obtain ⟨items, -, rfl⟩ := read
    cases decoded
    simp [stateFields, stateKeys, property]

end

theorem explore_state_typed :
    letI := safeIntegers.toNumberConversion
    letI := integerTexts
    (∀ payload ∈ stateFields (.exploreState (Any.record []).val : AnyMessage), IsState payload) ↔
      ∀ key ∈ stateKeys (rawProperty (js "\x7b\"proto_step\":\"explore_state\",\"state\":\x7b\x7d\x7d") (js "proto_step")),
        StateObject (rawProperty (js "\x7b\"proto_step\":\"explore_state\",\"state\":\x7b\x7d\x7d") key) := by
  letI := safeIntegers.toNumberConversion
  letI := integerTexts
  have parsed : Grammar.jsonParse (js "\x7b\"proto_step\":\"explore_state\",\"state\":\x7b\x7d\x7d") =
      some (.object [(js "proto_step", .string (js "explore_state")), (js "state", .object [])]) := by decide +kernel
  refine decodeMirrorMessage_typed _ (.exploreState (Any.record []).val) ?_
  rw [decodeMirrorMessage, parsed]
  rfl

/-- The cast to a record is not checked: a number is handed on as the state. -/
theorem number_as_state :
    letI := safeIntegers.toNumberConversion
    letI := integerTexts
    decodeMirrorMessage (js "\x7b\"proto_step\":\"initial_state\",\"action\":\"a\",\"state\":5\x7d") =
      .ok (.initialState (some (.string (js "a"))) (.bigint 5)) ∧ ¬ IsState (.bigint 5) := by
  letI := safeIntegers.toNumberConversion
  letI := integerTexts
  have parsed : Grammar.jsonParse (js "\x7b\"proto_step\":\"initial_state\",\"action\":\"a\",\"state\":5\x7d") =
      some (.object [(js "proto_step", .string (js "initial_state")), (js "action", .string (js "a")),
        (js "state", .number (.ofNat 5))]) := by decide +kernel
  refine ⟨?_, ?_⟩
  · rw [decodeMirrorMessage, parsed]
    rfl
  · rintro ⟨state, same⟩
    cases same

end Mirror.Protocol
