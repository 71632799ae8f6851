import MirrorECMA.Protocol.Walk

namespace Mirror.Protocol

open ECMA Value

/-! ### Which parts of a tree are walked -/

/-- `walk` of the first tree calls `walk` on the second. -/
inductive WalksTo : Json → Json → Prop
  | item {items : List Json} {item : Json} : item ∈ items → WalksTo (.array items) item
  | marked {obj : Fields Json} {items : List Json} {item : Json} :
    (shape obj = .tuple items ∨ shape obj = .set items) → item ∈ items → WalksTo (.object obj) item
  | entry {obj : Fields Json} {items entry : List Json} {item : Json} :
    shape obj = .map items → .array entry ∈ items → item ∈ entry.take 2 → WalksTo (.object obj) item
  | variant {obj : Fields Json} {value : Json} :
    shape obj = .variant → Fields.get obj (js "value") = some value → WalksTo (.object obj) value
  | field {obj : Fields Json} {field : JsString × Json} :
    shape obj = .record → field ∈ obj → WalksTo (.object obj) field.2

inductive Walked : Json → Json → Prop
  | here (json : Json) : Walked json json
  | step {json next part : Json} : WalksTo json next → Walked next part → Walked json part

/-- No object that is walked has a key `proto_step`. -/
def MessageFree (json : Json) : Prop := ∀ obj, Walked json (.object obj) → shape obj ≠ .message

theorem messageFree_iff {json : Json} : MessageFree json ↔
    (∀ obj, json = .object obj → shape obj ≠ .message) ∧ ∀ next, WalksTo json next → MessageFree next := by
  refine ⟨fun free => ⟨?_, fun next step obj walked => free obj (.step step walked)⟩, ?_⟩
  · rintro obj rfl
    exact free obj (.here _)
  · rintro ⟨top, below⟩ obj walked
    cases walked with
    | here => exact top obj rfl
    | step step walked => exact below _ step obj walked

/-- The items a marker object carries. -/
def Shape.items? : Shape → Option (List Json)
  | .tuple items | .set items | .map items => some items
  | _ => none

theorem shape_items {obj : Fields Json} {items : List Json} (carried : (shape obj).items? = some items) :
    ∃ marker, obj = [(marker, .array items)] := by
  unfold shape at carried
  split at carried
  · rename_i marked found
    unfold markerShape at found
    split at found
    · (repeat' split at found) <;> cases found <;> cases carried
    · (repeat' split at found) <;> cases found <;> cases carried <;> exact ⟨_, rfl⟩
    · cases found
  · (repeat' split at carried) <;> cases carried

theorem marked_items {obj : Fields Json} {items : List Json}
    (branch : shape obj = .tuple items ∨ shape obj = .set items) : ∃ marker, obj = [(marker, .array items)] := by
  rcases branch with branch | branch <;> exact shape_items (by rw [branch]; rfl)

theorem WalksTo.smaller {json next : Json} (step : WalksTo json next) : sizeOf next < sizeOf json := by
  cases step with
  | item member => exact Json.sizeOf_item member
  | marked branch member =>
    obtain ⟨marker, rfl⟩ := marked_items branch
    exact Nat.lt_trans (Json.sizeOf_item member) (Json.sizeOf_value List.mem_cons_self)
  | entry branch member taken =>
    obtain ⟨marker, rfl⟩ := shape_items (congrArg Shape.items? branch)
    exact Nat.lt_trans (Json.sizeOf_item (List.mem_of_mem_take taken))
      (Nat.lt_trans (Json.sizeOf_item member) (Json.sizeOf_value List.mem_cons_self))
  | variant branch found => exact Json.sizeOf_field (Fields.mem_of_get found)
  | field branch member => exact Json.sizeOf_field member

theorem keysDistinct_item {items : List Json} (distinct : Json.KeysDistinct (.array items)) {item : Json}
    (member : item ∈ items) : item.KeysDistinct := by
  cases distinct with
  | array each => exact each item member

theorem keysDistinct_field {obj : Fields Json} (distinct : Json.KeysDistinct (.object obj)) {field : JsString × Json}
    (member : field ∈ obj) : field.2.KeysDistinct := by
  cases distinct with
  | object _ each => exact each field member

theorem WalksTo.keysDistinct {json next : Json} (step : WalksTo json next) (distinct : json.KeysDistinct) :
    next.KeysDistinct := by
  cases step with
  | item member => exact keysDistinct_item distinct member
  | marked branch member =>
    obtain ⟨marker, rfl⟩ := marked_items branch
    exact keysDistinct_item (keysDistinct_field distinct List.mem_cons_self) member
  | entry branch member taken =>
    obtain ⟨marker, rfl⟩ := shape_items (congrArg Shape.items? branch)
    exact keysDistinct_item (keysDistinct_item (keysDistinct_field distinct List.mem_cons_self) member)
      (List.mem_of_mem_take taken)
  | variant branch found => exact keysDistinct_field distinct (Fields.mem_of_get found)
  | field branch member => exact keysDistinct_field distinct member

/-! ### Typed results -/

/-- One of the eleven constructors, and so for every part. -/
def Typed (decoded : Any) : Prop := ∃ v : Value, decoded = v.toAny

theorem typed_items {items : List Any} : (∃ vs, items = toAnys vs) ↔ ∀ item ∈ items, Typed item := by
  induction items with
  | nil => exact ⟨fun _ => by simp, fun _ => ⟨[], rfl⟩⟩
  | cons item rest ih =>
    rw [List.forall_mem_cons, ← ih]
    refine ⟨?_, ?_⟩
    · rintro ⟨vs, same⟩
      cases vs with
      | nil => cases same
      | cons v more =>
        cases same
        exact ⟨⟨v, rfl⟩, more, rfl⟩
    · rintro ⟨⟨v, rfl⟩, more, rfl⟩
      exact ⟨v :: more, rfl⟩

theorem typed_entries {entries : List (Any × Any)} :
    (∃ vs, entries = toAnyEntries vs) ↔ ∀ entry ∈ entries, Typed entry.1 ∧ Typed entry.2 := by
  induction entries with
  | nil => exact ⟨fun _ => by simp, fun _ => ⟨[], rfl⟩⟩
  | cons entry rest ih =>
    rw [List.forall_mem_cons, ← ih]
    refine ⟨?_, ?_⟩
    · rintro ⟨vs, same⟩
      cases vs with
      | nil => cases same
      | cons v more =>
        cases same
        exact ⟨⟨⟨v.1, rfl⟩, v.2, rfl⟩, more, rfl⟩
    · obtain ⟨key, value⟩ := entry
      rintro ⟨⟨⟨k, sameKey⟩, v, sameValue⟩, more, rfl⟩
      simp only at sameKey sameValue
      exact ⟨(k, v) :: more, by rw [toAnyEntries, sameKey, sameValue]⟩

theorem typed_fields {fields : List (JsString × Any)} :
    (∃ vs, fields = toAnyFields vs) ↔ ∀ field ∈ fields, Typed field.2 := by
  induction fields with
  | nil => exact ⟨fun _ => by simp, fun _ => ⟨[], rfl⟩⟩
  | cons field rest ih =>
    rw [List.forall_mem_cons, ← ih]
    refine ⟨?_, ?_⟩
    · rintro ⟨vs, same⟩
      cases vs with
      | nil => cases same
      | cons v more =>
        cases same
        exact ⟨⟨v.2, rfl⟩, more, rfl⟩
    · obtain ⟨name, value⟩ := field
      rintro ⟨⟨v, sameValue⟩, more, rfl⟩
      simp only at sameValue
      exact ⟨(name, v) :: more, by rw [toAnyFields, sameValue]⟩

theorem typed_seq {items : List Any} : Typed (.seq items) ↔ ∀ item ∈ items, Typed item := by
  rw [← typed_items]
  exact ⟨fun ⟨v, same⟩ => by cases v <;> cases same; exact ⟨_, rfl⟩, fun ⟨vs, same⟩ => ⟨.seq vs, by rw [same, toAny]⟩⟩

theorem typed_set {items : List Any} : Typed (.set items) ↔ ∀ item ∈ items, Typed item := by
  rw [← typed_items]
  exact ⟨fun ⟨v, same⟩ => by cases v <;> cases same; exact ⟨_, rfl⟩, fun ⟨vs, same⟩ => ⟨.set vs, by rw [same, toAny]⟩⟩

theorem typed_tuple {items : List Any} : Typed (.tuple items) ↔ ∀ item ∈ items, Typed item := by
  rw [← typed_items]
  exact ⟨fun ⟨v, same⟩ => by cases v <;> cases same; exact ⟨_, rfl⟩,
    fun ⟨vs, same⟩ => ⟨.tuple vs, by rw [same, toAny]⟩⟩

theorem typed_map {entries : List (Any × Any)} :
    Typed (.map entries) ↔ ∀ entry ∈ entries, Typed entry.1 ∧ Typed entry.2 := by
  rw [← typed_entries]
  exact ⟨fun ⟨v, same⟩ => by cases v <;> cases same; exact ⟨_, rfl⟩, fun ⟨vs, same⟩ => ⟨.map vs, by rw [same, toAny]⟩⟩

theorem typed_record {fields : List (JsString × Any)} : Typed (.record fields) ↔ ∀ field ∈ fields, Typed field.2 := by
  rw [← typed_fields]
  exact ⟨fun ⟨v, same⟩ => by cases v <;> cases same; exact ⟨_, rfl⟩,
    fun ⟨vs, same⟩ => ⟨.record vs, by rw [same, toAny]⟩⟩

theorem typed_variant {tag : JsString} {value : Any} : Typed (.variant tag value) ↔ Typed value :=
  ⟨fun ⟨v, same⟩ => by cases v <;> cases same; exact ⟨_, rfl⟩, fun ⟨v, same⟩ => ⟨.variant tag v, by rw [same, toAny]⟩⟩

theorem not_typed_message (msg : AnyMessage) : ¬ Typed (.message msg) := by
  rintro ⟨v, same⟩
  cases v <;> cases same

theorem typed_null : Typed .null := ⟨.null, rfl⟩

theorem textEntry_typed (s : JsString) : Typed (textEntry s).1 ∧ Typed (textEntry s).2 := by
  have text (s : JsString) : Typed (.str s) := ⟨.str s, rfl⟩
  unfold textEntry
  split
  · exact ⟨typed_null, typed_null⟩
  · exact ⟨text _, typed_null⟩
  · exact ⟨text _, text _⟩

theorem shape_variant {obj : Fields Json} (branch : shape obj = .variant) :
    ∃ value, Fields.get obj (js "value") = some value := by
  unfold shape at branch
  split at branch
  · rename_i marked found
    unfold markerShape at found
    subst branch
    split at found
    · (repeat' split at found) <;> cases found
    · (repeat' split at found) <;> cases found
    · cases found
  · split at branch
    · cases branch
    · split at branch
      · rename_i both
        exact Option.isSome_iff_exists.mp both.2.2
      · cases branch

theorem shape_not_message {obj : Fields Json} (branch : shape obj ≠ .message) :
    Fields.get obj (js "proto_step") = none := by
  unfold shape at branch
  split at branch
  · rename_i marked found
    unfold markerShape at found
    split at found
    · (repeat' split at found) <;> simp_all [Fields.get]
    · (repeat' split at found) <;> simp_all [Fields.get]
    · cases found
  · split at branch
    · exact absurd rfl branch
    · rename_i absent
      exact Option.not_isSome_iff_eq_none.mp absent

section

variable [NumberText]

/-- What is to be shown of the parts before the whole. -/
def TypedIff (json : Json) : Prop := ∀ decoded, walk json = .ok decoded → (Typed decoded ↔ MessageFree json)

theorem walkItems_typedIff {items : List Json} {decoded : List Any} (read : walkItems items = .ok decoded)
    (each : ∀ item ∈ items, TypedIff item) : (∀ item ∈ decoded, Typed item) ↔ ∀ item ∈ items, MessageFree item := by
  induction items generalizing decoded with
  | nil => cases read; simp
  | cons item rest ih =>
    simp only [walkItems, bind_eq_ok, pure_eq_ok, Except.ok.injEq] at read
    obtain ⟨first, readFirst, more, readMore, rfl⟩ := read
    rw [List.forall_mem_cons, List.forall_mem_cons, each item List.mem_cons_self first readFirst,
      ih readMore fun item member => each item (List.mem_cons_of_mem _ member)]

theorem walkFields_typedIff {fields : List (JsString × Json)} {decoded : List (JsString × Any)}
    (read : walkFields fields = .ok decoded) (each : ∀ field ∈ fields, TypedIff field.2) :
    (∀ field ∈ decoded, Typed field.2) ↔ ∀ field ∈ fields, MessageFree field.2 := by
  induction fields generalizing decoded with
  | nil => cases read; simp
  | cons field rest ih =>
    obtain ⟨key, value⟩ := field
    simp only [walkFields, bind_eq_ok, pure_eq_ok, Except.ok.injEq] at read
    obtain ⟨first, readFirst, more, readMore, rfl⟩ := read
    rw [List.forall_mem_cons, List.forall_mem_cons, ← each (key, value) List.mem_cons_self first readFirst,
      ih readMore fun field member => each field (List.mem_cons_of_mem _ member)]

theorem walkEntry_typedIff {entry : List Json} {decoded : Any × Any} (read : walkEntry entry = .ok decoded)
    (each : ∀ item ∈ entry.take 2, TypedIff item) :
    (Typed decoded.1 ∧ Typed decoded.2) ↔ ∀ item ∈ entry.take 2, MessageFree item := by
  match entry with
  | [] => cases read; simp [typed_null]
  | [key] =>
    simp only [walkEntry, bind_eq_ok, pure_eq_ok, Except.ok.injEq] at read
    obtain ⟨first, readFirst, rfl⟩ := read
    simp [typed_null, each key (by simp) first readFirst]
  | key :: value :: rest =>
    simp only [walkEntry, bind_eq_ok, pure_eq_ok, Except.ok.injEq] at read
    obtain ⟨first, readFirst, second, readSecond, rfl⟩ := read
    simp [each key (by simp) first readFirst, each value (by simp) second readSecond]

theorem walkEntries_typedIff {items : List Json} {decoded : List (Any × Any)} (read : walkEntries items = .ok decoded)
    (each : ∀ entry, .array entry ∈ items → ∀ item ∈ entry.take 2, TypedIff item) :
    (∀ entry ∈ decoded, Typed entry.1 ∧ Typed entry.2) ↔
      ∀ entry, .array entry ∈ items → ∀ item ∈ entry.take 2, MessageFree item := by
  induction items generalizing decoded with
  | nil => cases read; simp
  | cons item rest ih =>
    simp only [walkEntries, bind_eq_ok, pure_eq_ok, Except.ok.injEq] at read
    obtain ⟨first, readFirst, more, readMore, rfl⟩ := read
    have later := ih readMore fun entry member => each entry (List.mem_cons_of_mem _ member)
    rw [List.forall_mem_cons, later]
    cases item with
    | array entry =>
      rw [walkEntry_typedIff readFirst (each entry List.mem_cons_self)]
      simp only [List.mem_cons, Json.array.injEq]
      refine ⟨?_, fun all => ⟨fun item => all entry (.inl rfl) item, fun other member => all other (.inr member)⟩⟩
      rintro ⟨here, later⟩ other (rfl | member)
      · exact here
      · exact later other member
    | string s =>
      cases readFirst
      simp [textEntry_typed]
    | _ => cases readFirst

theorem walkField_get (key : JsString) (obj : Fields Json) : walkField key obj =
    match Fields.get obj key with
    | none => .ok .null
    | some value => walk value := by
  induction obj with
  | nil => rfl
  | cons field rest ih =>
    obtain ⟨k, value⟩ := field
    by_cases same : k = key
    · simp [walkField, Fields.get, same]
    · simp [walkField, Fields.get, same, ih]

theorem walkFields_keys {fields : List (JsString × Json)} {walked : List (JsString × Any)}
    (read : walkFields fields = .ok walked) : Fields.keys walked = Fields.keys fields := by
  induction fields generalizing walked with
  | nil => cases read; rfl
  | cons field rest ih =>
    obtain ⟨key, value⟩ := field
    simp only [walkFields, bind_eq_ok, pure_eq_ok, Except.ok.injEq] at read
    obtain ⟨first, -, more, readMore, rfl⟩ := read
    rw [Fields.keys_cons, Fields.keys_cons, ih readMore]

theorem walkFields_distinct {fields : List (JsString × Json)} {walked : List (JsString × Any)}
    (read : walkFields fields = .ok walked) (distinct : Fields.Distinct fields) : Fields.Distinct walked := by
  rw [Fields.Distinct, walkFields_keys read]
  exact distinct

/-- The parts `walk` hands to the branches of an object. -/
def partsOf (obj : Fields Json) : Parts :=
  ⟨fun key => walkField key obj, walkFields obj, markedItems obj, markedEntries obj, hints obj⟩

/-- What an object walks to, by the branch it takes. -/
inductive WalkedObject (obj : Fields Json) : Any → Prop
  | bigint {text : JsString} (i : Int) : shape obj = .bigint text → WalkedObject obj (.int i)
  | tuple {items : List Json} {decoded : List Any} : shape obj = .tuple items → walkItems items = .ok decoded →
    WalkedObject obj (.tuple decoded)
  | set {items : List Json} {decoded : List Any} : shape obj = .set items → walkItems items = .ok decoded →
    WalkedObject obj (.set decoded)
  | map {items : List Json} {decoded : List (Any × Any)} : shape obj = .map items →
    walkEntries items = .ok decoded → WalkedObject obj (.map decoded)
  | unserializable {text : JsString} : shape obj = .unserializable text → WalkedObject obj (.unserializable text)
  | message {msg : AnyMessage} : shape obj = .message → walkMessage obj (partsOf obj) = .ok msg →
    WalkedObject obj (.message msg)
  | variant {tag : JsString} {value : Json} {decoded : Any} : shape obj = .variant →
    Fields.get obj (js "value") = some value → walk value = .ok decoded → WalkedObject obj (.variant tag decoded)
  | record {decoded : List (JsString × Any)} : shape obj = .record → walkFields obj = .ok decoded →
    WalkedObject obj (.record (Fields.ofEntries decoded))

theorem walk_object {obj : Fields Json} {decoded : Any} (read : walk (.object obj) = .ok decoded) :
    WalkedObject obj decoded := by
  rw [walk, walkObject] at read
  split at read
  · rename_i text branch
    split at read
    · cases read
      exact .bigint _ branch
    · cases read
  · rename_i items branch
    obtain ⟨marker, rfl⟩ := marked_items (.inl branch)
    simp only [map_eq_ok] at read
    obtain ⟨walked, readItems, rfl⟩ := read
    exact .tuple branch readItems
  · rename_i items branch
    obtain ⟨marker, rfl⟩ := marked_items (.inr branch)
    simp only [map_eq_ok] at read
    obtain ⟨walked, readItems, rfl⟩ := read
    exact .set branch readItems
  · rename_i items branch
    obtain ⟨marker, rfl⟩ := shape_items (congrArg Shape.items? branch)
    simp only [map_eq_ok] at read
    obtain ⟨walked, readEntries, rfl⟩ := read
    exact .map branch readEntries
  · rename_i text branch
    cases read
    exact .unserializable branch
  · rename_i branch
    simp only [map_eq_ok] at read
    obtain ⟨msg, readMessage, rfl⟩ := read
    exact .message branch readMessage
  · rename_i branch
    split at read
    · obtain ⟨value, found⟩ := shape_variant branch
      simp only [map_eq_ok, walkField_get, found] at read
      obtain ⟨walked, readValue, rfl⟩ := read
      exact .variant branch found readValue
    · cases read
  · rename_i branch
    simp only [map_eq_ok] at read
    obtain ⟨walked, readFields, rfl⟩ := read
    exact .record branch readFields

/-- A parsed tree that is read at all is read as a value exactly when no message hides in it. -/
theorem walk_typedIff (json : Json) (distinct : json.KeysDistinct) : TypedIff json := by
  intro decoded read
  have below (next : Json) (step : WalksTo json next) : TypedIff next :=
    have := step.smaller
    walk_typedIff next (step.keysDistinct distinct)
  rw [messageFree_iff]
  cases json with
  | null =>
    cases read
    exact iff_of_true typed_null ⟨by simp, fun next step => by cases step⟩
  | bool b =>
    cases read
    exact iff_of_true ⟨.bool b, rfl⟩ ⟨by simp, fun next step => by cases step⟩
  | string text =>
    cases read
    exact iff_of_true ⟨.str text, rfl⟩ ⟨by simp, fun next step => by cases step⟩
  | number d =>
    rw [walk] at read
    split at read
    · cases read
      exact iff_of_true ⟨.int _, rfl⟩ ⟨by simp, fun next step => by cases step⟩
    · cases read
  | array items =>
    simp only [walk, map_eq_ok] at read
    obtain ⟨walked, readItems, rfl⟩ := read
    rw [typed_seq, walkItems_typedIff readItems fun item member => below item (.item member)]
    refine ⟨fun all => ⟨by simp, fun next step => ?_⟩, fun all item member => all.2 item (.item member)⟩
    cases step with
    | item member => exact all next member
  | object obj =>
    have top : (∀ other, Json.object obj = .object other → shape other ≠ .message) ↔ shape obj ≠ .message :=
      ⟨fun all => all obj rfl, by rintro free other ⟨⟩; exact free⟩
    rw [top]
    cases walk_object read with
    | bigint i branch =>
      refine iff_of_true ⟨.int i, rfl⟩ ⟨by simp [branch], fun next step => ?_⟩
      cases step <;> simp_all
    | unserializable branch =>
      refine iff_of_true ⟨.unserializable _, rfl⟩ ⟨by simp [branch], fun next step => ?_⟩
      cases step <;> simp_all
    | message branch _ => exact iff_of_false (not_typed_message _) fun both => both.1 branch
    | tuple branch readItems =>
      rw [typed_tuple, walkItems_typedIff readItems fun item member => below item (.marked (.inl branch) member)]
      refine ⟨fun all => ⟨by simp [branch], fun next step => ?_⟩,
        fun all item member => all.2 item (.marked (.inl branch) member)⟩
      cases step <;> simp_all
    | set branch readItems =>
      rw [typed_set, walkItems_typedIff readItems fun item member => below item (.marked (.inr branch) member)]
      refine ⟨fun all => ⟨by simp [branch], fun next step => ?_⟩,
        fun all item member => all.2 item (.marked (.inr branch) member)⟩
      cases step <;> simp_all
    | map branch readEntries =>
      rw [typed_map, walkEntries_typedIff readEntries fun entry member item taken =>
        below item (.entry branch member taken)]
      refine ⟨fun all => ⟨by simp [branch], fun next step => ?_⟩,
        fun all entry member item taken => all.2 item (.entry branch member taken)⟩
      cases step with
      | entry found member taken =>
        rw [branch] at found
        cases found
        exact all _ member next taken
      | _ => simp_all
    | variant branch found readValue =>
      rw [typed_variant, below _ (.variant branch found) _ readValue]
      refine ⟨fun free => ⟨by simp [branch], fun next step => ?_⟩, fun all => all.2 _ (.variant branch found)⟩
      cases step <;> simp_all
    | record branch readFields =>
      have ownKeys : Fields.Distinct obj := by
        cases distinct with
        | object ownKeys _ => exact ownKeys
      rw [Fields.ofEntries_eq (walkFields_distinct readFields ownKeys), typed_record,
        walkFields_typedIff readFields fun field member => below field.2 (.field branch member)]
      refine ⟨fun all => ⟨by simp [branch], fun next step => ?_⟩,
        fun all field member => all.2 field.2 (.field branch member)⟩
      cases step with
      | field _ member => exact all _ member
      | _ => simp_all
termination_by sizeOf json

end

end Mirror.Protocol
