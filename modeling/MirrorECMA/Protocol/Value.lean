import MirrorECMA.Protocol.Message

namespace Mirror.Protocol.Value

open ECMA

theorem sizeOf_entry {entries : List (Value × Value)} {entry : Value × Value} (member : entry ∈ entries) :
    sizeOf entry.1 < sizeOf (Value.map entries) ∧ sizeOf entry.2 < sizeOf (Value.map entries) := by
  have smaller := List.sizeOf_lt_of_mem member
  obtain ⟨key, value⟩ := entry
  simp only [Prod.mk.sizeOf_spec] at smaller
  simp only [Value.map.sizeOf_spec]
  omega

theorem sizeOf_field {fields : List (JsString × Value)} {field : JsString × Value} (member : field ∈ fields) :
    sizeOf field.2 < sizeOf (Value.record fields) := by
  have smaller := List.sizeOf_lt_of_mem member
  obtain ⟨name, value⟩ := field
  simp only [Prod.mk.sizeOf_spec] at smaller
  simp only [Value.record.sizeOf_spec]
  omega

/-- Induction over a value, with the parts of a container by membership. -/
@[elab_as_elim]
theorem parts_induct {motive : Value → Prop} (int : ∀ i, motive (.int i)) (bool : ∀ b, motive (.bool b))
    (str : ∀ s, motive (.str s)) (set : ∀ vs, (∀ v ∈ vs, motive v) → motive (.set vs))
    (seq : ∀ vs, (∀ v ∈ vs, motive v) → motive (.seq vs))
    (tuple : ∀ vs, (∀ v ∈ vs, motive v) → motive (.tuple vs))
    (map : ∀ entries, (∀ entry ∈ entries, motive entry.1 ∧ motive entry.2) → motive (.map entries))
    (record : ∀ fields, (∀ field ∈ fields, motive field.2) → motive (.record fields))
    (variant : ∀ tag v, motive v → motive (.variant tag v)) (unserializable : ∀ s, motive (.unserializable s))
    (null : motive .null) : ∀ v, motive v
  | .int i => int i
  | .bool b => bool b
  | .str s => str s
  | .set vs => set vs fun v _ =>
      parts_induct int bool str set seq tuple map record variant unserializable null v
  | .seq vs => seq vs fun v _ =>
      parts_induct int bool str set seq tuple map record variant unserializable null v
  | .tuple vs => tuple vs fun v _ =>
      parts_induct int bool str set seq tuple map record variant unserializable null v
  | .map entries => map entries fun entry _ =>
      ⟨parts_induct int bool str set seq tuple map record variant unserializable null entry.1,
        parts_induct int bool str set seq tuple map record variant unserializable null entry.2⟩
  | .record fields => record fields fun field _ =>
      parts_induct int bool str set seq tuple map record variant unserializable null field.2
  | .variant tag v => variant tag v
      (parts_induct int bool str set seq tuple map record variant unserializable null v)
  | .unserializable s => unserializable s
  | .null => null
termination_by v => sizeOf v
decreasing_by
  all_goals first
    | exact (sizeOf_entry ‹_›).1
    | exact (sizeOf_entry ‹_›).2
    | exact sizeOf_field ‹_›
    | (have smaller := List.sizeOf_lt_of_mem ‹_ ∈ vs›; simp only [Value.set.sizeOf_spec, Value.seq.sizeOf_spec, Value.tuple.sizeOf_spec]; omega)
    | (simp only [Value.variant.sizeOf_spec]; omega)

/-- A record that occurs in a value, at any depth. -/
inductive RecordIn (record : List (JsString × Value)) : Value → Prop
  | here : RecordIn record (.record record)
  | inSet {vs : List Value} {v : Value} : v ∈ vs → RecordIn record v → RecordIn record (.set vs)
  | inSeq {vs : List Value} {v : Value} : v ∈ vs → RecordIn record v → RecordIn record (.seq vs)
  | inTuple {vs : List Value} {v : Value} : v ∈ vs → RecordIn record v → RecordIn record (.tuple vs)
  | inKey {entries : List (Value × Value)} {entry : Value × Value} :
    entry ∈ entries → RecordIn record entry.1 → RecordIn record (.map entries)
  | inValue {entries : List (Value × Value)} {entry : Value × Value} :
    entry ∈ entries → RecordIn record entry.2 → RecordIn record (.map entries)
  | inField {fields : List (JsString × Value)} {field : JsString × Value} :
    field ∈ fields → RecordIn record field.2 → RecordIn record (.record fields)
  | inVariant {tag : JsString} {v : Value} : RecordIn record v → RecordIn record (.variant tag v)

def EveryRecord (p : List (JsString × Value) → Prop) (v : Value) : Prop := ∀ record, RecordIn record v → p record

section

variable {p : List (JsString × Value) → Prop}

theorem everyRecord_set {vs : List Value} : EveryRecord p (.set vs) ↔ ∀ v ∈ vs, EveryRecord p v :=
  ⟨fun all v member record inside => all record (.inSet member inside), fun all record inside => by
    cases inside with
    | inSet member inside => exact all _ member record inside⟩

theorem everyRecord_seq {vs : List Value} : EveryRecord p (.seq vs) ↔ ∀ v ∈ vs, EveryRecord p v :=
  ⟨fun all v member record inside => all record (.inSeq member inside), fun all record inside => by
    cases inside with
    | inSeq member inside => exact all _ member record inside⟩

theorem everyRecord_tuple {vs : List Value} : EveryRecord p (.tuple vs) ↔ ∀ v ∈ vs, EveryRecord p v :=
  ⟨fun all v member record inside => all record (.inTuple member inside), fun all record inside => by
    cases inside with
    | inTuple member inside => exact all _ member record inside⟩

theorem everyRecord_map {entries : List (Value × Value)} :
    EveryRecord p (.map entries) ↔ ∀ entry ∈ entries, EveryRecord p entry.1 ∧ EveryRecord p entry.2 :=
  ⟨fun all entry member => ⟨fun record inside => all record (.inKey member inside),
    fun record inside => all record (.inValue member inside)⟩, fun all record inside => by
    cases inside with
    | inKey member inside => exact (all _ member).1 record inside
    | inValue member inside => exact (all _ member).2 record inside⟩

theorem everyRecord_record {fields : List (JsString × Value)} :
    EveryRecord p (.record fields) ↔ p fields ∧ ∀ field ∈ fields, EveryRecord p field.2 :=
  ⟨fun all => ⟨all fields .here, fun field member record inside => all record (.inField member inside)⟩,
    fun all record inside => by
    cases inside with
    | here => exact all.1
    | inField member inside => exact all.2 _ member record inside⟩

theorem everyRecord_variant {tag : JsString} {v : Value} : EveryRecord p (.variant tag v) ↔ EveryRecord p v :=
  ⟨fun all record inside => all record (.inVariant inside), fun all record inside => by
    cases inside with
    | inVariant inside => exact all record inside⟩

end

end Mirror.Protocol.Value
