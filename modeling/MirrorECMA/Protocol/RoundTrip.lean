import MirrorECMA.Protocol.Encode
import MirrorECMA.Protocol.Value
import MirrorECMA.ECMA.Integers
import MirrorECMA.Protocol.Walked

namespace Mirror.Protocol

open ECMA Value

def markers : List JsString := ["#bigint", "#tup", "#set", "#map", "#unserializable"].map js

/-- A record whose field names are those of a marker object or of a variant. -/
def Ambiguous (record : List (JsString × Value)) : Prop :=
  (∃ marker ∈ markers, Fields.keys record = [marker]) ∨
    (record.length = 2 ∧ js "tag" ∈ Fields.keys record ∧ js "value" ∈ Fields.keys record)

/-- A record with a field that turns an object into a protocol message. -/
def MessageLike (record : List (JsString × Value)) : Prop := js "proto_step" ∈ Fields.keys record

theorem markerShape_encodeFields {fields : List (JsString × Value)} (plain : ¬ Ambiguous fields) :
    markerShape (encodeFields fields) = none := by
  match fields with
  | [] => rfl
  | [(name, v)] =>
    have other : name ∉ markers := fun member => plain (.inl ⟨name, member, rfl⟩)
    simp only [markers, List.map_cons, List.map_nil, List.mem_cons, List.not_mem_nil, or_false, not_or] at other
    simp only [encodeFields]
    unfold markerShape
    split
    · simp_all
    · simp_all
    · rfl
  | (_, _) :: (_, _) :: _ => simp [encodeFields, markerShape]

theorem shape_encodeFields {fields : List (JsString × Value)} (plain : ¬ Ambiguous fields) :
    shape (encodeFields fields) = if js "proto_step" ∈ Fields.keys fields then .message else .record := by
  have unlike : ¬ ((encodeFields fields).length = 2 ∧ Fields.has (encodeFields fields) (js "tag") = true ∧
      Fields.has (encodeFields fields) (js "value") = true) := by
    rw [encodeFields_length, Fields.has_iff, Fields.has_iff, encodeFields_keys]
    exact fun both => plain (.inr both)
  rw [shape, markerShape_encodeFields plain]
  simp only [if_neg unlike]
  simp only [Fields.has_iff, encodeFields_keys]

section

variable [NumberText]

theorem walkItems_encode {vs : List Value} (each : ∀ v ∈ vs, walk (encodeValue v) = .ok v.toAny) :
    walkItems (encodeValues vs) = .ok (toAnys vs) := by
  induction vs with
  | nil => rfl
  | cons v rest ih =>
    rw [encodeValues, toAnys, walkItems, cons_eq_ok]
    exact ⟨each v List.mem_cons_self, ih fun w member => each w (List.mem_cons_of_mem v member)⟩

theorem walkItems_typed {vs ws : List Value} (read : walkItems (encodeValues vs) = .ok (toAnys ws)) :
    ∀ v ∈ vs, ∃ w : Value, walk (encodeValue v) = .ok w.toAny := by
  induction vs generalizing ws with
  | nil => simp
  | cons v rest ih =>
    cases ws with
    | nil => simp [encodeValues, toAnys, walkItems, bind_eq_ok] at read
    | cons w more =>
      rw [encodeValues, toAnys, walkItems, cons_eq_ok] at read
      exact List.forall_mem_cons.mpr ⟨⟨w, read.1⟩, ih read.2⟩

theorem walkEntry_encode (key value : Value) {k v : Any} : walkEntry [encodeValue key, encodeValue value] = .ok (k, v) ↔
    walk (encodeValue key) = .ok k ∧ walk (encodeValue value) = .ok v := by
  simp [walkEntry, bind_eq_ok]

theorem walkEntries_encode {entries : List (Value × Value)}
    (each : ∀ entry ∈ entries, walk (encodeValue entry.1) = .ok entry.1.toAny ∧
      walk (encodeValue entry.2) = .ok entry.2.toAny) :
    walkEntries (encodeEntries entries) = .ok (toAnyEntries entries) := by
  induction entries with
  | nil => rfl
  | cons entry rest ih =>
    obtain ⟨key, value⟩ := entry
    rw [encodeEntries, toAnyEntries, walkEntries, cons_eq_ok, walkPair, walkEntry_encode]
    exact ⟨each _ List.mem_cons_self, ih fun entry member => each entry (List.mem_cons_of_mem _ member)⟩

theorem walkEntries_typed {entries typed : List (Value × Value)}
    (read : walkEntries (encodeEntries entries) = .ok (toAnyEntries typed)) :
    ∀ entry ∈ entries, (∃ w : Value, walk (encodeValue entry.1) = .ok w.toAny) ∧
      ∃ w : Value, walk (encodeValue entry.2) = .ok w.toAny := by
  induction entries generalizing typed with
  | nil => simp
  | cons entry rest ih =>
    cases typed with
    | nil => simp [encodeEntries, toAnyEntries, walkEntries, bind_eq_ok] at read
    | cons other more =>
      rw [encodeEntries, toAnyEntries, walkEntries, cons_eq_ok, walkPair, walkEntry_encode] at read
      exact List.forall_mem_cons.mpr ⟨⟨⟨other.1, read.1.1⟩, other.2, read.1.2⟩, ih read.2⟩

theorem walkFields_encode {fields : List (JsString × Value)}
    (each : ∀ field ∈ fields, walk (encodeValue field.2) = .ok field.2.toAny) :
    walkFields (encodeFields fields) = .ok (toAnyFields fields) := by
  induction fields with
  | nil => rfl
  | cons field rest ih =>
    obtain ⟨name, v⟩ := field
    have more := ih fun field member => each field (List.mem_cons_of_mem _ member)
    simp only [encodeFields, toAnyFields, walkFields, each (name, v) List.mem_cons_self, more, ok_bind, pure_eq_ok]

theorem walkFields_typed {fields typed : List (JsString × Value)}
    (read : walkFields (encodeFields fields) = .ok (toAnyFields typed)) :
    ∀ field ∈ fields, ∃ w : Value, walk (encodeValue field.2) = .ok w.toAny := by
  induction fields generalizing typed with
  | nil => simp
  | cons field rest ih =>
    cases typed with
    | nil => simp [encodeFields, toAnyFields, walkFields, bind_eq_ok] at read
    | cons other more =>
      simp only [encodeFields, toAnyFields, walkFields, bind_eq_ok, pure_eq_ok, Except.ok.injEq, List.cons.injEq,
        Prod.mk.injEq] at read
      obtain ⟨first, readFirst, others, readMore, ⟨-, rfl⟩, rfl⟩ := read
      exact List.forall_mem_cons.mpr ⟨⟨other.2, readFirst⟩, ih readMore⟩

/-- What `walk` makes of the object of a record, `proto_step` apart. -/
theorem walk_record {fields : List (JsString × Value)} (distinct : Fields.Distinct fields)
    (plain : ¬ Ambiguous fields) (free : ¬ MessageLike fields) {decoded : Any} :
    walk (encodeValue (.record fields)) = .ok decoded ↔
      ∃ walked, walkFields (encodeFields fields) = .ok walked ∧ decoded = .record walked := by
  have branch := shape_encodeFields plain
  rw [if_neg (show js "proto_step" ∉ Fields.keys fields from free)] at branch
  rw [encodeValue, ofEntries_encodeFields distinct, walk, walkObject, branch]
  simp only [map_eq_ok]
  refine exists_congr fun walked => and_congr_right fun read => ?_
  have walkedDistinct : Fields.Distinct walked :=
    walkFields_distinct read (by rw [Fields.Distinct, encodeFields_keys]; exact distinct)
  rw [Fields.ofEntries_eq walkedDistinct]
  exact eq_comm

theorem walk_messageLike {fields : List (JsString × Value)} (distinct : Fields.Distinct fields)
    (plain : ¬ Ambiguous fields) (message : MessageLike fields) {decoded : Any}
    (read : walk (encodeValue (.record fields)) = .ok decoded) : ∃ msg, decoded = .message msg := by
  have branch := shape_encodeFields plain
  rw [if_pos (show js "proto_step" ∈ Fields.keys fields from message)] at branch
  rw [encodeValue, ofEntries_encodeFields distinct, walk, walkObject, branch] at read
  simp only [map_eq_ok] at read
  obtain ⟨msg, -, same⟩ := read
  exact ⟨msg, same.symm⟩

theorem encode_then_walk (v : Value) (distinct : EveryRecord Fields.Distinct v)
    (plain : EveryRecord (fun record => ¬ Ambiguous record) v)
    (free : EveryRecord (fun record => ¬ MessageLike record) v) : walk (encodeValue v) = .ok v.toAny := by
  induction v using Value.parts_induct with
  | int i => simp [encodeValue, walk, walkObject, shape, markerShape, bigIntOfString_integerText, toAny]
  | bool b => rfl
  | str s => rfl
  | null => rfl
  | unserializable s => simp [encodeValue, walk, walkObject, shape, markerShape, toAny]
  | seq vs ih =>
    rw [everyRecord_seq] at distinct plain free
    have items := walkItems_encode fun v member => ih v member (distinct v member) (plain v member) (free v member)
    simp [encodeValue, walk, items, toAny]
  | set vs ih =>
    rw [everyRecord_set] at distinct plain free
    have items := walkItems_encode fun v member => ih v member (distinct v member) (plain v member) (free v member)
    simp [encodeValue, walk, walkObject, shape, markerShape, markedItems, items, toAny]
  | tuple vs ih =>
    rw [everyRecord_tuple] at distinct plain free
    have items := walkItems_encode fun v member => ih v member (distinct v member) (plain v member) (free v member)
    simp [encodeValue, walk, walkObject, shape, markerShape, markedItems, items, toAny]
  | map entries ih =>
    rw [everyRecord_map] at distinct plain free
    have read := walkEntries_encode fun entry member =>
      ⟨(ih entry member).1 (distinct entry member).1 (plain entry member).1 (free entry member).1,
        (ih entry member).2 (distinct entry member).2 (plain entry member).2 (free entry member).2⟩
    simp [encodeValue, walk, walkObject, shape, markerShape, markedEntries, read, toAny]
  | variant tag v ih =>
    rw [everyRecord_variant] at distinct plain free
    have read := ih distinct plain free
    simp [encodeValue, walk, walkObject, shape, markerShape, Fields.has, Fields.get, walkField, read, toAny]
  | record fields ih =>
    rw [everyRecord_record] at distinct plain free
    have each := walkFields_encode fun field member =>
      ih field member (distinct.2 field member) (plain.2 field member) (free.2 field member)
    exact (walk_record distinct.1 plain.1 free.1).mpr ⟨_, each, rfl⟩

/-- A field `proto_step` leaves no value to read back. -/
theorem messageFree_of_typed (v : Value) (distinct : EveryRecord Fields.Distinct v)
    (plain : EveryRecord (fun record => ¬ Ambiguous record) v) {w : Value}
    (read : walk (encodeValue v) = .ok w.toAny) : EveryRecord (fun record => ¬ MessageLike record) v := by
  induction v using Value.parts_induct generalizing w with
  | int | bool | str | null | unserializable => rintro record ⟨⟩
  | seq vs ih =>
    rw [everyRecord_seq] at distinct plain ⊢
    simp only [encodeValue, walk, map_eq_ok] at read
    obtain ⟨walked, items, same⟩ := read
    cases w <;> cases same
    intro v member
    obtain ⟨typed, readItem⟩ := walkItems_typed items v member
    exact ih v member (distinct v member) (plain v member) readItem
  | set vs ih =>
    rw [everyRecord_set] at distinct plain ⊢
    simp [encodeValue, walk, walkObject, shape, markerShape, markedItems, bind_eq_ok] at read
    obtain ⟨walked, items, same⟩ := read
    cases w <;> cases same
    intro v member
    obtain ⟨typed, readItem⟩ := walkItems_typed items v member
    exact ih v member (distinct v member) (plain v member) readItem
  | tuple vs ih =>
    rw [everyRecord_tuple] at distinct plain ⊢
    simp [encodeValue, walk, walkObject, shape, markerShape, markedItems, bind_eq_ok] at read
    obtain ⟨walked, items, same⟩ := read
    cases w <;> cases same
    intro v member
    obtain ⟨typed, readItem⟩ := walkItems_typed items v member
    exact ih v member (distinct v member) (plain v member) readItem
  | map entries ih =>
    rw [everyRecord_map] at distinct plain ⊢
    simp [encodeValue, walk, walkObject, shape, markerShape, markedEntries, bind_eq_ok] at read
    obtain ⟨walked, readEntries, same⟩ := read
    cases w <;> cases same
    intro entry member
    obtain ⟨⟨key, readKey⟩, value, readValue⟩ := walkEntries_typed readEntries entry member
    exact ⟨(ih entry member).1 (distinct entry member).1 (plain entry member).1 readKey,
      (ih entry member).2 (distinct entry member).2 (plain entry member).2 readValue⟩
  | variant tag v ih =>
    rw [everyRecord_variant] at distinct plain ⊢
    simp [encodeValue, walk, walkObject, shape, markerShape, Fields.has, Fields.get, walkField, bind_eq_ok] at read
    obtain ⟨walked, inner, same⟩ := read
    cases w <;> cases same
    exact ih distinct plain inner
  | record fields ih =>
    rw [everyRecord_record] at distinct plain ⊢
    have free : ¬ MessageLike fields := fun message => by
      obtain ⟨msg, same⟩ := walk_messageLike distinct.1 plain.1 message read
      cases w <;> cases same
    obtain ⟨walked, readFields, same⟩ := (walk_record distinct.1 plain.1 free).mp read
    cases w <;> cases same
    refine ⟨free, fun field member => ?_⟩
    obtain ⟨typed, readField⟩ := walkFields_typed readFields field member
    exact ih field member (distinct.2 field member) (plain.2 field member) readField

theorem walkField_report (state : State) :
    walkField (js "state") (reportState state) = walk (encodeValue (.record state)) := by
  simp [reportState, encodeState, encodeValue, walkField]

/-- The `state` of a parsed message, read as the decoder reads a state. -/
def decodeState (obj : Fields Json) : Except Thrown (Payload Any) := do
  return (← walkField (js "state") obj).val

/-- Values and reported states are read back exactly when no record in them has a field `proto_step`; with such a
field nothing that is read back is a value. -/
theorem value_roundTrip (v : Value) (distinct : EveryRecord Fields.Distinct v)
    (plain : EveryRecord (fun record => ¬ Ambiguous record) v) :
    ((walk (encodeValue v) = .ok v.toAny ↔ EveryRecord (fun record => ¬ MessageLike record) v) ∧
      ((∃ w : Value, walk (encodeValue v) = .ok w.toAny) → EveryRecord (fun record => ¬ MessageLike record) v)) ∧
    ∀ state, v = .record state →
      ((decodeState (reportState state) = .ok (.fields (toAnyFields state)) ↔
        EveryRecord (fun record => ¬ MessageLike record) v) ∧
      ((∃ w : State, decodeState (reportState state) = .ok (.fields (toAnyFields w))) →
        EveryRecord (fun record => ¬ MessageLike record) v)) := by
  have exact_ := encode_then_walk v distinct plain
  have free : (∃ w : Value, walk (encodeValue v) = .ok w.toAny) → EveryRecord (fun record => ¬ MessageLike record) v := by
    rintro ⟨w, read⟩
    exact messageFree_of_typed v distinct plain read
  refine ⟨⟨⟨messageFree_of_typed v distinct plain, exact_⟩, free⟩, ?_⟩
  rintro state rfl
  have typed (w : State) (read : decodeState (reportState state) = .ok (.fields (toAnyFields w))) :
      walk (encodeValue (.record state)) = .ok (Value.record w).toAny := by
    simp only [decodeState, map_eq_ok, walkField_report] at read
    obtain ⟨decoded, inner, same⟩ := read
    rw [inner, val_record same, toAny]
  refine ⟨⟨fun read => messageFree_of_typed _ distinct plain (typed state read), fun free => ?_⟩, ?_⟩
  · rw [decodeState, walkField_report, exact_ free]
    rfl
  · rintro ⟨w, read⟩
    exact messageFree_of_typed _ distinct plain (typed w read)

end

theorem point_roundTrip :
    letI := integerTexts
    walk (encodeValue (.record [(js "x", .int (-5))])) = .ok (toAny (.record [(js "x", .int (-5))])) ↔
      EveryRecord (fun record => ¬ MessageLike record) (.record [(js "x", .int (-5))]) := by
  letI := integerTexts
  refine (value_roundTrip (.record [(js "x", .int (-5))]) ?_ ?_).1.1
  · rw [everyRecord_record]
    refine ⟨by decide, ?_⟩
    simp only [List.mem_singleton, forall_eq]
    rintro record ⟨⟩
  · rw [everyRecord_record]
    refine ⟨by simp [Ambiguous, markers], ?_⟩
    simp only [List.mem_singleton, forall_eq]
    rintro record ⟨⟩

/-- A record with a field `proto_step` comes back as a protocol message. -/
theorem record_read_as_message :
    letI := integerTexts
    EveryRecord Fields.Distinct (.record [(js "proto_step", .str (js "step_ok"))]) ∧
      EveryRecord (fun record => ¬ Ambiguous record) (.record [(js "proto_step", .str (js "step_ok"))]) ∧
      walk (encodeValue (.record [(js "proto_step", .str (js "step_ok"))])) = .ok (.message .stepOk) ∧
      ∀ v : Value, Any.message .stepOk ≠ v.toAny := by
  refine ⟨?_, ?_, rfl, fun v same => not_typed_message _ ⟨v, same⟩⟩
  · rw [everyRecord_record]
    refine ⟨by decide, ?_⟩
    simp only [List.mem_singleton, forall_eq]
    rintro record ⟨⟩
  · rw [everyRecord_record]
    refine ⟨by simp [Ambiguous, markers], ?_⟩
    simp only [List.mem_singleton, forall_eq]
    rintro record ⟨⟩

end Mirror.Protocol
