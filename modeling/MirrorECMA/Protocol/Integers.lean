import MirrorECMA.ECMA.Nearest
import MirrorECMA.Protocol.WellTyped

/-! ### The parts of a written value -/

namespace ECMA

namespace Fields

variable {α β : Type}

theorem map_set (f : α → β) (fields : Fields α) (key : JsString) (value : α) :
    (set fields key value).map (fun field => (field.1, f field.2)) =
      set (fields.map fun field => (field.1, f field.2)) key (f value) := by
  induction fields with
  | nil => rfl
  | cons field rest ih =>
    by_cases same : field.1 = key
    · simp [set, same]
    · simp [set, same, ih]

theorem ofEntries_map (f : α → β) (entries : List (JsString × α)) :
    ofEntries (entries.map fun entry => (entry.1, f entry.2)) =
      (ofEntries entries).map fun field => (field.1, f field.2) := by
  have folds (fields : Fields α) :
      (entries.map fun entry => (entry.1, f entry.2)).foldl (fun fields entry => set fields entry.1 entry.2)
        (fields.map fun field => (field.1, f field.2)) =
      (entries.foldl (fun fields entry => set fields entry.1 entry.2) fields).map fun field => (field.1, f field.2) := by
    induction entries generalizing fields with
    | nil => rfl
    | cons entry rest ih => rw [List.map_cons, List.foldl_cons, List.foldl_cons, ← ih, map_set]
  exact folds []

theorem get_map (f : α → β) (fields : Fields α) (key : JsString) :
    get (fields.map fun field => (field.1, f field.2)) key = (get fields key).map f := by
  induction fields with
  | nil => rfl
  | cons field rest ih =>
    by_cases same : field.1 = key
    · simp [get, same]
    · simp [get, same, ih]

end Fields

namespace Grammar

def Items.toList : Items → List Value
  | .last _ value _ => [value]
  | .cons _ value _ rest => value :: rest.toList

def Members.toList : Members → List (JsString × Value)
  | .last _ key _ _ value _ => [(key.decoded, value)]
  | .cons _ key _ _ value _ rest => (key.decoded, value) :: rest.toList

def Value.elements : Value → List Value
  | .array items => items.toList
  | _ => []

/-- The members that stand. -/
def Members.fields (members : Members) : Fields Value := Fields.ofEntries members.toList

variable [NumberConversion]

theorem Items.eval_toList : (items : Items) → items.eval = items.toList.map Value.eval
  | .last _ _ _ => rfl
  | .cons _ value _ rest => by rw [Items.eval, Items.toList, List.map_cons, rest.eval_toList]

theorem Members.eval_toList : (members : Members) →
    members.eval = members.toList.map fun member => (member.1, member.2.eval)
  | .last _ _ _ _ _ _ => rfl
  | .cons _ key _ _ value _ rest => by rw [Members.eval, Members.toList, List.map_cons, rest.eval_toList]

theorem Members.eval_fields (members : Members) :
    Fields.ofEntries members.eval = members.fields.map fun field => (field.1, field.2.eval) := by
  rw [members.eval_toList, Fields.ofEntries_map, Members.fields]

theorem Value.elements_eval {value : Value} {items : List Json} (array : value.eval = .array items) :
    items = value.elements.map Value.eval := by
  cases value with
  | array written =>
    rw [Value.eval, Json.array.injEq] at array
    rw [← array, Items.eval_toList, Value.elements]
  | emptyArray inner =>
    cases array
    rfl
  | _ => cases array

end Grammar

end ECMA

namespace Mirror.Protocol

open ECMA

/-! ### Where values stand -/

/-- From a value to one of its parts. -/
inductive Part where
  | item (index : Nat)
  | key (index : Nat)
  | value (index : Nat)
  | variant
  | field (name : JsString)

def marked : Fields Grammar.Value → List Grammar.Value
  | [(_, value)] => value.elements
  | _ => []

/-- A part of a value as it is written, where `walk` looks for it. -/
def writtenPart [NumberConversion] (part : Part) : Grammar.Value → Option Grammar.Value
  | .array items =>
    match part with
    | .item index => items.toList[index]?
    | _ => none
  | .object members =>
    match shape (members.fields.map fun field => (field.1, field.2.eval)), part with
    | .tuple _, .item index | .set _, .item index => (marked members.fields)[index]?
    | .map _, .key index => (marked members.fields)[index]?.bind fun entry => entry.elements[0]?
    | .map _, .value index => (marked members.fields)[index]?.bind fun entry => entry.elements[1]?
    | .variant, .variant => Fields.get members.fields (js "value")
    | .record, .field name => Fields.get members.fields name
    | _, _ => none
  | _ => none

def payloadPart (part : Part) (payload : Payload Any) : Option Any :=
  match part, payload with
  | .item index, .list val => val[index]?
  | .key index, .entries val => val[index]?.map Prod.fst
  | .value index, .entries val => val[index]?.map Prod.snd
  | .field name, .fields val => Fields.get val name
  | _, _ => none

/-- The same part of the decoded value. -/
def decodedPart (part : Part) : Any → Option Any
  | .variant _ value =>
    match part with
    | .variant => some value
    | _ => none
  | decoded => payloadPart part decoded.val

def writtenAt [NumberConversion] : List Part → Grammar.Value → Option Grammar.Value
  | [], value => some value
  | part :: path, value => (writtenPart part value).bind (writtenAt path)

def decodedAt : List Part → Any → Option Any
  | [], decoded => some decoded
  | part :: path, decoded => (decodedPart part decoded).bind (decodedAt path)

/-- A place in the states of a message: which of them, a variable in it, and the way to a value in that. -/
structure Place where
  state : Nat
  name : JsString
  path : List Part

def Place.written [NumberConversion] (place : Place) : Grammar.Value → Option Grammar.Value
  | .object members => do
    let step := (Fields.get members.fields (js "proto_step")).map Grammar.Value.eval
    let state ← Fields.get members.fields (← (stateKeys step)[place.state]?)
    writtenAt (.field place.name :: place.path) state
  | _ => none

def Place.decoded (place : Place) (msg : AnyMessage) : Option Any := do
  decodedAt place.path (← payloadPart (.field place.name) (← (stateFields msg)[place.state]?))

/-- An integer literal stands at a place of the line. -/
def WritesInteger [NumberConversion] (line : JsString) (place : Place) (text : JsString) : Prop :=
  ∃ (written : Grammar.Text) (valid : Grammar.IsNumber text), written.render = line ∧
    place.written written.value = some (.number text valid) ∧ IsIntegerLiteral text

section

variable [NumberText] [NumberConversion]

/-! ### The walk keeps the places -/

theorem walkItems_at {items : List Json} {decoded : List Any} (read : walkItems items = .ok decoded) {index : Nat}
    {item : Json} (found : items[index]? = some item) :
    ∃ below, decoded[index]? = some below ∧ walk item = .ok below := by
  induction items generalizing decoded index with
  | nil => cases found
  | cons first rest ih =>
    simp only [walkItems, bind_eq_ok, pure_eq_ok, Except.ok.injEq] at read
    obtain ⟨head, readHead, tail, readTail, rfl⟩ := read
    cases index with
    | zero =>
      cases found
      exact ⟨head, rfl, readHead⟩
    | succ index => exact ih readTail found

theorem walkEntries_at {items : List Json} {decoded : List (Any × Any)} (read : walkEntries items = .ok decoded)
    {index : Nat} {item : Json} (found : items[index]? = some item) :
    ∃ below, decoded[index]? = some below ∧ walkPair item = .ok below := by
  induction items generalizing decoded index with
  | nil => cases found
  | cons first rest ih =>
    simp only [walkEntries, bind_eq_ok, pure_eq_ok, Except.ok.injEq] at read
    obtain ⟨head, readHead, tail, readTail, rfl⟩ := read
    cases index with
    | zero =>
      cases found
      exact ⟨head, rfl, readHead⟩
    | succ index => exact ih readTail found

theorem walkEntry_at {entry : List Json} {decoded : Any × Any} (read : walkEntry entry = .ok decoded) {item : Json} :
    (entry[0]? = some item → walk item = .ok decoded.1) ∧ (entry[1]? = some item → walk item = .ok decoded.2) := by
  cases entry with
  | nil => exact ⟨fun found => (by cases found), fun found => by cases found⟩
  | cons first rest =>
    cases rest with
    | nil =>
      simp only [walkEntry, bind_eq_ok, pure_eq_ok, Except.ok.injEq] at read
      obtain ⟨key, readKey, rfl⟩ := read
      refine ⟨fun found => ?_, fun found => by cases found⟩
      cases found
      exact readKey
    | cons second rest =>
      simp only [walkEntry, bind_eq_ok, pure_eq_ok, Except.ok.injEq] at read
      obtain ⟨key, readKey, value, readValue, rfl⟩ := read
      constructor
      · intro found
        cases found
        exact readKey
      · intro found
        cases found
        exact readValue

theorem walkFields_get {fields : Fields Json} {decoded : List (JsString × Any)} (read : walkFields fields = .ok decoded)
    {name : JsString} {value : Json} (found : Fields.get fields name = some value) :
    ∃ below, Fields.get decoded name = some below ∧ walk value = .ok below := by
  induction fields generalizing decoded with
  | nil => cases found
  | cons field rest ih =>
    obtain ⟨key, first⟩ := field
    simp only [walkFields, bind_eq_ok, pure_eq_ok, Except.ok.injEq] at read
    obtain ⟨head, readHead, tail, readTail, rfl⟩ := read
    by_cases same : key = name
    · simp only [Fields.get, same, if_true, Option.some.injEq] at found ⊢
      subst found
      exact ⟨head, rfl, readHead⟩
    · simp only [Fields.get, same, if_false] at found ⊢
      exact ih readTail found

theorem marked_eval {members : Grammar.Members} {items : List Json} {marker : JsString}
    (shaped : members.fields.map (fun field => (field.1, field.2.eval)) = [(marker, .array items)]) :
    items = (marked members.fields).map Grammar.Value.eval := by
  obtain ⟨field, fields, same⟩ := List.map_eq_singleton_iff.mp shaped
  rw [fields]
  exact Grammar.Value.elements_eval (Prod.mk.inj same).2

/-- A part of a written value is decoded to the same part of its value. -/
theorem decodedPart_of_written {part : Part} {value next : Grammar.Value} {decoded : Any}
    (read : walk value.eval = .ok decoded) (found : writtenPart part value = some next) :
    ∃ below, decodedPart part decoded = some below ∧ walk next.eval = .ok below := by
  cases value with
  | array items =>
    cases part with
    | item index =>
      simp only [Grammar.Value.eval, walk, map_eq_ok] at read
      obtain ⟨walked, readItems, rfl⟩ := read
      have item : items.eval[index]? = some next.eval := by
        rw [items.eval_toList, List.getElem?_map]
        exact congrArg (Option.map Grammar.Value.eval) found
      exact walkItems_at readItems item
    | _ => cases found
  | object members =>
    rw [Grammar.Value.eval, members.eval_fields] at read
    unfold writtenPart at found
    dsimp only at found
    generalize object : members.fields.map (fun field => (field.1, field.2.eval)) = obj at read found
    have items (items : List Json) (branch : (shape obj).items? = some items) :
        items = (marked members.fields).map Grammar.Value.eval := by
      obtain ⟨marker, single⟩ := shape_items branch
      exact marked_eval (object.trans single)
    have get (name : JsString) (found : Fields.get members.fields name = some next) :
        Fields.get obj name = some next.eval := by
      rw [← object, Fields.get_map, found]
      rfl
    have entry {entries : List Json} (branch : shape obj = .map entries) {decoded : List (Any × Any)}
        (walked : walkEntries entries = .ok decoded) {index : Nat} {written : Grammar.Value}
        (here : (marked members.fields)[index]? = some written) (part : Nat) (bound : part < 2)
        (inside : written.elements[part]? = some next) :
        ∃ below : Any × Any, decoded[index]? = some below ∧
          walk next.eval = .ok (if part = 0 then below.1 else below.2) := by
      have item : entries[index]? = some written.eval := by
        rw [items entries (by rw [branch]; rfl), List.getElem?_map, here]
        rfl
      obtain ⟨below, placed, read⟩ := walkEntries_at walked item
      refine ⟨below, placed, ?_⟩
      cases shaped : written.eval with
      | array entry =>
        rw [shaped, walkPair] at read
        have parts := Grammar.Value.elements_eval shaped
        have inner : entry[part]? = some next.eval := by
          rw [parts, List.getElem?_map, inside]
          rfl
        rcases part with _ | _ | part
        · exact (walkEntry_at read).1 inner
        · exact (walkEntry_at read).2 inner
        · omega
      | _ =>
        cases written with
        | array written => cases shaped
        | _ => cases inside
    split at found
    · rename_i carried index branch
      cases walk_object read with
      | tuple other walked =>
        cases branch.symm.trans other
        apply walkItems_at walked
        rw [items carried (by rw [branch]; rfl), List.getElem?_map, found]
        rfl
      | _ => simp_all
    · rename_i carried index branch
      cases walk_object read with
      | set other walked =>
        cases branch.symm.trans other
        apply walkItems_at walked
        rw [items carried (by rw [branch]; rfl), List.getElem?_map, found]
        rfl
      | _ => simp_all
    · rename_i carried index branch
      obtain ⟨written, here, inside⟩ := Option.bind_eq_some_iff.mp found
      cases walk_object read with
      | map other walked =>
        cases branch.symm.trans other
        obtain ⟨below, placed, read⟩ := entry branch walked here 0 (by decide) inside
        refine ⟨below.1, ?_, read⟩
        show Option.map Prod.fst _ = _
        rw [placed]
        rfl
      | _ => simp_all
    · rename_i carried index branch
      obtain ⟨written, here, inside⟩ := Option.bind_eq_some_iff.mp found
      cases walk_object read with
      | map other walked =>
        cases branch.symm.trans other
        obtain ⟨below, placed, read⟩ := entry branch walked here 1 (by decide) inside
        refine ⟨below.2, ?_, read⟩
        show Option.map Prod.snd _ = _
        rw [placed]
        rfl
      | _ => simp_all
    · rename_i branch
      cases walk_object read with
      | variant other value walked =>
        cases (get _ found).symm.trans value
        exact ⟨_, rfl, walked⟩
      | _ => simp_all
    · rename_i name branch
      cases walk_object read with
      | record other walked =>
        obtain ⟨below, placed, read⟩ := walkFields_get walked (get name found)
        refine ⟨below, ?_, read⟩
        have distinct : Fields.Distinct obj := by
          rw [← object, ← members.eval_fields]
          exact Fields.ofEntries_distinct _
        show Fields.get (Fields.ofEntries _) name = some below
        rw [Fields.ofEntries_eq (walkFields_distinct walked distinct)]
        exact placed
      | _ => simp_all
    · cases found
  | _ => cases found

theorem decodedAt_of_written {path : List Part} {value next : Grammar.Value} {decoded : Any}
    (read : walk value.eval = .ok decoded) (found : writtenAt path value = some next) :
    ∃ below, decodedAt path decoded = some below ∧ walk next.eval = .ok below := by
  induction path generalizing value decoded with
  | nil =>
    cases found
    exact ⟨decoded, rfl, read⟩
  | cons part path ih =>
    obtain ⟨inner, here, rest⟩ := Option.bind_eq_some_iff.mp found
    obtain ⟨below, placed, readInner⟩ := decodedPart_of_written read here
    obtain ⟨last, atLast, readLast⟩ := ih readInner rest
    refine ⟨last, ?_, readLast⟩
    rw [decodedAt, placed]
    exact atLast

theorem payloadPart_of_decoded {name : JsString} {decoded below : Any}
    (found : decodedPart (.field name) decoded = some below) : payloadPart (.field name) decoded.val = some below := by
  cases decoded with
  | variant => cases found
  | _ => exact found

/-! ### Integers -/

/-- What is written at a place of an accepted line is decoded there. -/
theorem decoded_of_written {line : JsString} {msg : AnyMessage} (accepted : decodeMirrorMessage line = .ok msg)
    {written : Grammar.Text} (rendered : written.render = line) {place : Place} {next : Grammar.Value}
    (found : place.written written.value = some next) :
    ∃ below, place.decoded msg = some below ∧ walk next.eval = .ok below := by
  unfold decodeMirrorMessage at accepted
  rw [← rendered, Grammar.jsonParse_render] at accepted
  simp only [bind_eq_ok] at accepted
  obtain ⟨walked, read, accepted⟩ := accepted
  generalize whole : written.value = value at read found
  cases value with
  | object members =>
    simp only [Place.written, Option.bind_eq_bind, Option.bind_eq_some_iff] at found
    obtain ⟨key, keyed, state, stands, path⟩ := found
    obtain ⟨inner, part, path⟩ := Option.bind_eq_some_iff.mp path
    rw [Grammar.Value.eval, members.eval_fields] at read
    generalize object : members.fields.map (fun field => (field.1, field.2.eval)) = obj at read
    have step : Fields.get obj (js "proto_step") =
        (Fields.get members.fields (js "proto_step")).map Grammar.Value.eval := by
      rw [← object, Fields.get_map]
    by_cases branch : shape obj = .message
    · cases walk_object read with
      | message _ readMessage =>
        cases accepted
        obtain ⟨states, readStates, payloads⟩ := stateFields_walkMessage readMessage
        rw [step, mapM_eq_ok] at readStates
        obtain ⟨bound, same⟩ := List.getElem?_eq_some_iff.mp keyed
        have lengths := readStates.length_eq
        have placed : states[place.state]? = some (states.get ⟨place.state, lengths ▸ bound⟩) :=
          List.getElem?_eq_getElem _
        have readState := readStates.get bound (lengths ▸ bound)
        generalize states.get ⟨place.state, lengths ▸ bound⟩ = decoded at placed readState
        have keyRead : (partsOf obj).field key = .ok decoded := by
          rw [← same]
          exact readState
        have valued : walk state.eval = .ok decoded := by
          have got : Fields.get obj key = some state.eval := by
            rw [← object, Fields.get_map, stands]
            rfl
          change walkField key obj = .ok decoded at keyRead
          rw [walkField_get, got] at keyRead
          exact keyRead
        obtain ⟨top, atTop, readTop⟩ := decodedPart_of_written valued part
        obtain ⟨below, atPlace, readBelow⟩ := decodedAt_of_written readTop path
        refine ⟨below, ?_, readBelow⟩
        have payload : (stateFields msg)[place.state]? = some decoded.val := by
          rw [payloads, List.getElem?_map, placed]
          rfl
        simp only [Place.decoded, payload, Option.bind_eq_bind, Option.bind_some, payloadPart_of_decoded atTop]
        exact atPlace
      | _ => simp_all
    · rw [← step, shape_not_message branch] at keyed
      cases keyed
  | _ => cases found

/-- Every integer of an accepted line is decoded to itself. -/
def IntegersSurvive (line : JsString) (msg : AnyMessage) : Prop :=
  ∀ place text, WritesInteger line place text → place.decoded msg = some (.int (writtenInteger text))

end

/-- An integer of an accepted line is decoded to itself exactly when a double holds it. -/
theorem integersSurvive_iff [NumberText] [NearestNumberConversion] (line : JsString) (msg : AnyMessage)
    (accepted : decodeMirrorMessage line = .ok msg) :
    IntegersSurvive line msg ↔ ∀ place text, WritesInteger line place text → Representable (writtenInteger text) := by
  have read (place : Place) (text : JsString) (writes : WritesInteger line place text) :
      ∃ i, place.decoded msg = some (.int i) ∧ (i = writtenInteger text ↔ Representable (writtenInteger text)) := by
    obtain ⟨written, valid, rendered, found, literal⟩ := writes
    obtain ⟨below, placed, read⟩ := decoded_of_written accepted rendered found
    rw [Grammar.Value.eval, walk] at read
    split at read
    · rename_i i number
      cases read
      exact ⟨i, placed, literal_exact literal number⟩
    · cases read
  constructor
  · intro survive place text writes
    obtain ⟨i, placed, exact_⟩ := read place text writes
    have same := (survive place text writes).symm.trans placed
    cases same
    exact exact_.mp rfl
  · intro representable place text writes
    obtain ⟨i, placed, exact_⟩ := read place text writes
    rw [placed, exact_.mpr (representable place text writes)]

/-- The place is the variable `x` of the only state. -/
def onlyVariable : Place := ⟨0, js "x", []⟩

def writesAt [NumberConversion] (line : JsString) (place : Place) (digits : JsString) : Bool :=
  match Grammar.parseText line with
  | some written =>
    match place.written written.value with
    | some (.number text _) => decide (text = digits)
    | _ => false
  | none => false

theorem writesInteger_of_test [NumberConversion] {line digits : JsString} {place : Place}
    (literal : IsIntegerLiteral digits) (writes : writesAt line place digits = true) : WritesInteger line place digits := by
  unfold writesAt at writes
  split at writes
  · rename_i written parsed
    split at writes
    · rename_i text valid found
      have same : text = digits := of_decide_eq_true writes
      subst same
      exact ⟨written, valid, Grammar.parseText_iff.mp parsed, found, literal⟩
    · cases writes
  · cases writes

def fiveLine : JsString := js "\x7b\"proto_step\":\"initial_state\",\"action\":\"a\",\"state\":\x7b\"x\":-5\x7d\x7d"

theorem five_survives : letI := nearestIntegers; letI := integerTexts
    IntegersSurvive fiveLine (.initialState (some (.string (js "a"))) (.fields [(js "x", .int (-5))])) ↔
      ∀ place text, WritesInteger fiveLine place text → Representable (writtenInteger text) := by
  let := nearestIntegers
  let := integerTexts
  apply integersSurvive_iff
  have parsed : Grammar.jsonParse fiveLine = some (.object [(js "proto_step", .string (js "initial_state")),
      (js "action", .string (js "a")), (js "state", .object [(js "x", .number (.finite (-5)))])]) := by
    decide +kernel
  rw [decodeMirrorMessage, parsed]
  rfl

def beyondSafe : JsString := js "9007199254740993"

def roundedLine : JsString :=
  js "\x7b\"proto_step\":\"initial_state\",\"action\":\"a\",\"state\":\x7b\"x\":" ++ beyondSafe ++ js "\x7d\x7d"

/-- The first integer that no double is comes as the one below it. -/
theorem rounded_integer : letI := nearestIntegers; letI := integerTexts
    ∃ msg, decodeMirrorMessage roundedLine = .ok msg ∧ WritesInteger roundedLine onlyVariable beyondSafe ∧
      writtenInteger beyondSafe = 9007199254740993 ∧ onlyVariable.decoded msg = some (.int 9007199254740992) ∧
      ¬ IntegersSurvive roundedLine msg := by
  let := nearestIntegers
  let := integerTexts
  have parsed : Grammar.jsonParse roundedLine = some (.object [(js "proto_step", .string (js "initial_state")),
      (js "action", .string (js "a")), (js "state", .object [(js "x", .number (.finite 9007199254740992))])]) := by
    decide +kernel
  have literal : IsIntegerLiteral beyondSafe := by
    refine ⟨[], beyondSafe, rfl, .inl rfl, .inr ⟨0x39, js "007199254740993", ?_, by decide, by decide, ?_⟩⟩
    · decide +kernel
    · exact List.all_eq_true.mp (by decide +kernel)
  have writes : WritesInteger roundedLine onlyVariable beyondSafe :=
    writesInteger_of_test literal (by decide +kernel)
  have written : writtenInteger beyondSafe = 9007199254740993 := by decide +kernel
  refine ⟨.initialState (some (.string (js "a"))) (.fields [(js "x", .int 9007199254740992)]), ?_, writes, written, ?_, ?_⟩
  · rw [decodeMirrorMessage, parsed]
    rfl
  · rfl
  · intro survive
    have same := survive onlyVariable beyondSafe writes
    rw [written] at same
    have rounded : Any.int 9007199254740992 = .int 9007199254740993 := Option.some.inj same
    rw [Any.int.injEq] at rounded
    omega

end Mirror.Protocol
