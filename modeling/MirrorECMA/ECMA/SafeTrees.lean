import MirrorECMA.ECMA.Alike
import MirrorECMA.ECMA.ScanExact

namespace ECMA

namespace Json

/-! ### Trees of safe integers -/

/-- Every number is a safe integer, no object repeats a key, and every string and key is one of the `texts`. -/
inductive Safe (texts : JsString → Prop) : Json → Prop
  | null : Safe texts .null
  | bool (b : Bool) : Safe texts (.bool b)
  | number {d : Double} : d.isSafeInteger = true → Safe texts (.number d)
  | string {s : JsString} : texts s → Safe texts (.string s)
  | array {items : List Json} : (∀ item ∈ items, Safe texts item) → Safe texts (.array items)
  | object {fields : Fields Json} : Fields.Distinct fields → (∀ field ∈ fields, texts field.1) →
    (∀ field ∈ fields, Safe texts field.2) → Safe texts (.object fields)

/-- No object has more members than the one bound, and no array more elements than the other. -/
inductive Sized (maxMembers maxItems : Nat) : Json → Prop
  | null : Sized maxMembers maxItems .null
  | bool (b : Bool) : Sized maxMembers maxItems (.bool b)
  | number (d : Double) : Sized maxMembers maxItems (.number d)
  | string (s : JsString) : Sized maxMembers maxItems (.string s)
  | array {items : List Json} : items.length ≤ maxItems → (∀ item ∈ items, Sized maxMembers maxItems item) →
    Sized maxMembers maxItems (.array items)
  | object {fields : Fields Json} : fields.length ≤ maxMembers → (∀ field ∈ fields, Sized maxMembers maxItems field.2) →
    Sized maxMembers maxItems (.object fields)

section

variable {texts : JsString → Prop} {a b c : Json} {maxMembers maxItems : Nat}

theorem isSafeInteger_finite {d : Double} (safe : d.isSafeInteger = true) : d.isFinite = true := by
  cases d <;> first | rfl | cases safe

theorem isSafeInteger_unsigned {d e : Double} (same : d.unsigned = e.unsigned) (safe : d.isSafeInteger = true) :
    e.isSafeInteger = true := by
  have unsigned (f : Double) : f.unsigned.isSafeInteger = f.isSafeInteger := by cases f <;> rfl
  rw [← unsigned, ← same, unsigned, safe]

theorem Safe.keysDistinct (safe : a.Safe texts) : a.KeysDistinct := by
  induction safe with
  | null => exact .null
  | bool b => exact .bool b
  | number _ => exact .number _
  | string _ => exact .string _
  | array _ ih => exact .array ih
  | object distinct _ _ ih => exact .object distinct ih

theorem Safe.finite (safe : a.Safe texts) : a.Finite := by
  induction safe with
  | null => exact .null
  | bool b => exact .bool b
  | number held => exact .number (isSafeInteger_finite held)
  | string _ => exact .string _
  | array _ ih => exact .array ih
  | object _ _ _ ih => exact .object ih

theorem Safe.everyNumber (safe : a.Safe texts) : a.EveryNumber fun d => d.isSafeInteger = true := by
  induction safe with
  | null => exact .null
  | bool b => exact .bool b
  | number held => exact .number held
  | string _ => exact .string _
  | array _ ih => exact .array ih
  | object _ _ _ ih => exact .object ih

theorem Safe.mono {others : JsString → Prop} (weaker : ∀ s, texts s → others s) (safe : a.Safe texts) : a.Safe others := by
  induction safe with
  | null => exact .null
  | bool b => exact .bool b
  | number held => exact .number held
  | string held => exact .string (weaker _ held)
  | array _ ih => exact .array ih
  | object distinct keys _ ih => exact .object distinct (fun field member => weaker _ (keys field member)) ih

/-! ### Trees that are alike -/

theorem Alike.safe (same : a.Alike b) (safe : a.Safe texts) : b.Safe texts := by
  induction same with
  | null => exact .null
  | bool b => exact .bool b
  | number numbers =>
    cases safe with
    | number held => exact .number (isSafeInteger_unsigned numbers held)
  | string s => exact safe
  | array _ ih =>
    cases safe with
    | array each =>
      exact .array (List.forall_mem_map.mpr fun p member => ih p member (each p.1 (List.mem_map_of_mem member)))
  | @object pairs xs ys names _ first second ih =>
    cases safe with
    | object distinct keys each =>
      refine .object (Fields.distinct_of_pairs names first second distinct) (fun field member => ?_) fun field member => ?_
      · rcases List.mem_map.mp (second.symm.subset member) with ⟨p, inside, rfl⟩
        exact names p inside ▸ keys p.1 (mem_of_pairs first inside)
      · rcases List.mem_map.mp (second.symm.subset member) with ⟨p, inside, rfl⟩
        exact ih p inside (each p.1 (mem_of_pairs first inside))

theorem Alike.sized (same : a.Alike b) (sized : a.Sized maxMembers maxItems) : b.Sized maxMembers maxItems := by
  induction same with
  | null => exact .null
  | bool b => exact .bool b
  | number _ => exact .number _
  | string s => exact .string s
  | @array pairs _ ih =>
    cases sized with
    | array few each =>
      refine .array (by simpa using few) ?_
      exact List.forall_mem_map.mpr fun p member => ih p member (each p.1 (List.mem_map_of_mem member))
  | @object pairs xs ys names _ first second ih =>
    cases sized with
    | object few each =>
      have lengths : ys.length = xs.length := by rw [← first.length_eq, ← second.length_eq, List.length_map, List.length_map]
      refine .object (lengths ▸ few) fun field member => ?_
      rcases List.mem_map.mp (second.symm.subset member) with ⟨p, inside, rfl⟩
      exact ih p inside (each p.1 (mem_of_pairs first inside))

theorem Alike.nodes (same : a.Alike b) : a.nodes = b.nodes := by
  induction same with
  | null | bool | number | string => rfl
  | @array pairs _ ih =>
    rw [Json.nodes, Json.nodes, itemsNodes_eq, itemsNodes_eq, images_eq ih]
  | @object pairs xs ys _ _ first second ih =>
    have images : (xs.map fun field => field.2.nodes).Perm (ys.map fun field => field.2.nodes) := images_perm first second ih
    rw [Json.nodes, Json.nodes, fieldsNodes_eq, fieldsNodes_eq, images.sum_nat]

theorem Alike.reach (same : a.Alike b) (n : Nat) (shallow : a.reach ≤ n) : b.reach ≤ n := by
  induction same generalizing n with
  | null | bool | number | string => exact shallow
  | @array pairs _ ih =>
    rw [reach_array] at shallow ⊢
    refine List.forall_mem_map.mpr fun p member => ?_
    have own := shallow p.1 (List.mem_map_of_mem member)
    have deeper := ih p member (n - 1) (by omega)
    omega
  | @object pairs xs ys _ _ first second ih =>
    rw [reach_object] at shallow ⊢
    intro field member
    rcases List.mem_map.mp (second.symm.subset member) with ⟨p, inside, rfl⟩
    have own := shallow p.1 (mem_of_pairs first inside)
    have deeper := ih p inside (n - 1) (by omega)
    omega

theorem Safe.trans (safe : a.Safe texts) (first : a.Alike b) (second : b.Alike c) : a.Alike c := by
  have other := first.safe safe
  apply alike_of_arranged safe.finite (second.safe other).finite
  rw [arranged_of_alike first safe.keysDistinct, arranged_of_alike second other.keysDistinct]

end

end Json

/-! ### The tree of a text -/

namespace Grammar

section

variable [NumberConversion]

theorem Members.eval_keys (members : Members) : Fields.keys members.eval = members.keys := by
  cases members with
  | last before key afterKey beforeValue value after => rfl
  | cons before key afterKey beforeValue value after rest =>
    rw [Members.eval, Fields.keys_cons, Members.eval_keys rest, Members.keys]

theorem Members.ofEntries_eval {members : Members} (distinct : members.keys.Nodup) : Fields.ofEntries members.eval = members.eval :=
  Fields.ofEntries_eq (by rw [Fields.Distinct, members.eval_keys]; exact distinct)

theorem Items.eval_length (items : Items) : items.eval.length = items.count := by
  cases items with
  | last before value after => rfl
  | cons before value after rest => rw [Items.eval, List.length_cons, Items.eval_length rest, Items.count]

theorem Members.eval_length (members : Members) : members.eval.length = members.count := by
  cases members with
  | last before key afterKey beforeValue value after => rfl
  | cons before key afterKey beforeValue value after rest =>
    rw [Members.eval, List.length_cons, Members.eval_length rest, Members.count]

section

variable {texts : JsString → Prop} {p : StringToken → Prop}

mutual

theorem Value.eval_safe (each : ∀ token, p token → texts token.decoded) (value : Value) (distinct : value.KeysDistinct) (every : value.EveryString p)
    (numbers : value.eval.EveryNumber fun d => d.isSafeInteger = true) : value.eval.Safe texts := by
  cases value with
  | null => exact .null
  | true => exact .bool _
  | false => exact .bool _
  | number _ _ => exact .number (Json.everyNumber_number.mp numbers)
  | string token => exact .string (each token every)
  | emptyArray _ => exact .array fun _ member => by cases member
  | emptyObject _ => exact .object List.nodup_nil (fun _ member => by cases member) fun _ member => by cases member
  | array items => exact .array (Items.eval_safe each items distinct every (Json.everyNumber_array.mp numbers))
  | object members =>
    have own := members.ofEntries_eval distinct.1
    rw [Value.eval, own] at numbers ⊢
    have fields := Members.eval_safe each members distinct.2 every (Json.everyNumber_object.mp numbers)
    exact .object (by rw [Fields.Distinct, members.eval_keys]; exact distinct.1) (fun field member => (fields field member).1)
      fun field member => (fields field member).2

theorem Items.eval_safe (each : ∀ token, p token → texts token.decoded) (items : Items) (distinct : items.KeysDistinct) (every : items.EveryString p)
    (numbers : ∀ item ∈ items.eval, item.EveryNumber fun d => d.isSafeInteger = true) : ∀ item ∈ items.eval, item.Safe texts := by
  cases items with
  | last before value after =>
    exact List.forall_mem_singleton.mpr (value.eval_safe each distinct every (numbers _ (List.mem_singleton.mpr rfl)))
  | cons before value after rest =>
    rcases List.forall_mem_cons.mp numbers with ⟨first, others⟩
    exact List.forall_mem_cons.mpr ⟨value.eval_safe each distinct.1 every.1 first, rest.eval_safe each distinct.2 every.2 others⟩

theorem Members.eval_safe (each : ∀ token, p token → texts token.decoded) (members : Members) (distinct : members.KeysDistinct)
    (every : members.EveryString p)
    (numbers : ∀ field ∈ members.eval, field.2.EveryNumber fun d => d.isSafeInteger = true) :
    ∀ field ∈ members.eval, texts field.1 ∧ field.2.Safe texts := by
  cases members with
  | last before key afterKey beforeValue value after =>
    exact List.forall_mem_singleton.mpr ⟨each _ every.1, value.eval_safe each distinct every.2 (numbers _ (List.mem_singleton.mpr rfl))⟩
  | cons before key afterKey beforeValue value after rest =>
    rcases List.forall_mem_cons.mp numbers with ⟨first, others⟩
    exact List.forall_mem_cons.mpr
      ⟨⟨each _ every.1, value.eval_safe each distinct.1 every.2.1 first⟩, rest.eval_safe each distinct.2 every.2.2 others⟩

end

end

mutual

/-- Without repeated keys the tree is as large and as deep as the text. -/
theorem Value.eval_size (value : Value) (distinct : value.KeysDistinct) :
    value.eval.nodes = value.nodes ∧ value.eval.reach = value.reach := by
  cases value with
  | null | true | false | number _ _ | string _ | emptyArray _ | emptyObject _ => exact ⟨rfl, rfl⟩
  | array items =>
    have inner := Items.eval_size items distinct
    rw [Value.eval, Json.nodes, Json.reach, inner.1, inner.2]
    exact ⟨rfl, rfl⟩
  | object members =>
    have inner := Members.eval_size members distinct.2
    rw [Value.eval, members.ofEntries_eval distinct.1, Json.nodes, Json.reach, inner.1, inner.2]
    exact ⟨rfl, rfl⟩

theorem Items.eval_size (items : Items) (distinct : items.KeysDistinct) :
    Json.itemsNodes items.eval = items.nodes ∧ Json.itemsReach items.eval = items.reach + 1 := by
  cases items with
  | last before value after =>
    have own := value.eval_size distinct
    simp [Items.eval, Json.itemsNodes, Json.itemsReach, Items.nodes, Items.reach, own]
  | cons before value after rest =>
    have own := value.eval_size distinct.1
    have others := rest.eval_size distinct.2
    simp [Items.eval, Json.itemsNodes, Json.itemsReach, Items.nodes, Items.reach, own, others]

theorem Members.eval_size (members : Members) (distinct : members.KeysDistinct) :
    Json.fieldsNodes members.eval = members.nodes ∧ Json.fieldsReach members.eval = members.reach + 1 := by
  cases members with
  | last before key afterKey beforeValue value after =>
    have own := value.eval_size distinct
    simp [Members.eval, Json.fieldsNodes, Json.fieldsReach, Members.nodes, Members.reach, own]
  | cons before key afterKey beforeValue value after rest =>
    have own := value.eval_size distinct.1
    have others := rest.eval_size distinct.2
    simp [Members.eval, Json.fieldsNodes, Json.fieldsReach, Members.nodes, Members.reach, own, others]

end

section

variable {maxMembers maxItems : Nat}

mutual

theorem Value.eval_sized (value : Value) (distinct : value.KeysDistinct) (sized : value.Sized maxMembers maxItems) :
    value.eval.Sized maxMembers maxItems := by
  cases value with
  | null => exact .null
  | true => exact .bool _
  | false => exact .bool _
  | number _ _ => exact .number _
  | string _ => exact .string _
  | emptyArray _ => exact .array (Nat.zero_le _) fun _ member => by cases member
  | emptyObject _ => exact .object (Nat.zero_le _) fun _ member => by cases member
  | array items => exact .array (items.eval_length ▸ sized.1) (Items.eval_sized items distinct sized.2)
  | object members =>
    rw [Value.eval, members.ofEntries_eval distinct.1]
    exact .object (members.eval_length ▸ sized.1) (Members.eval_sized members distinct.2 sized.2)

theorem Items.eval_sized (items : Items) (distinct : items.KeysDistinct) (sized : items.Sized maxMembers maxItems) :
    ∀ item ∈ items.eval, item.Sized maxMembers maxItems := by
  cases items with
  | last before value after => exact List.forall_mem_singleton.mpr (value.eval_sized distinct sized)
  | cons before value after rest =>
    exact List.forall_mem_cons.mpr ⟨value.eval_sized distinct.1 sized.1, rest.eval_sized distinct.2 sized.2⟩

theorem Members.eval_sized (members : Members) (distinct : members.KeysDistinct) (sized : members.Sized maxMembers maxItems) :
    ∀ field ∈ members.eval, field.2.Sized maxMembers maxItems := by
  cases members with
  | last before key afterKey beforeValue value after => exact List.forall_mem_singleton.mpr (value.eval_sized distinct sized)
  | cons before key afterKey beforeValue value after rest =>
    exact List.forall_mem_cons.mpr ⟨value.eval_sized distinct.1 sized.1, rest.eval_sized distinct.2 sized.2⟩

end

end

end

section

variable {fits : JsString → Nat → Prop} {maxBytes : Nat}

mutual

/-- Where every string may have as many bytes, keys make no difference. -/
theorem Value.stringsFit_iff (value : Value) : value.StringsFit fits (fun _ => maxBytes) maxBytes maxBytes ↔
    value.EveryString fun token => fits token.decoded maxBytes := by
  cases value with
  | null | true | false | number _ _ | emptyArray _ | emptyObject _ => exact Iff.rfl
  | string _ => exact Iff.rfl
  | array items => exact Items.stringsFit_iff items
  | object members => exact Members.stringsFit_iff members

theorem Items.stringsFit_iff (items : Items) : items.StringsFit fits (fun _ => maxBytes) maxBytes ↔
    items.EveryString fun token => fits token.decoded maxBytes := by
  cases items with
  | last before value after => exact value.stringsFit_iff
  | cons before value after rest => exact and_congr value.stringsFit_iff rest.stringsFit_iff

theorem Members.stringsFit_iff (members : Members) : members.StringsFit fits (fun _ => maxBytes) maxBytes ↔
    members.EveryString fun token => fits token.decoded maxBytes := by
  cases members with
  | last before key afterKey beforeValue value after => exact and_congr Iff.rfl value.stringsFit_iff
  | cons before key afterKey beforeValue value after rest =>
    exact and_congr Iff.rfl (and_congr value.stringsFit_iff rest.stringsFit_iff)

end

end

/-! ### Sizes of compact values -/

theorem Items.compact_count (first : Value) (rest : List Value) : (Items.compact first rest).count = (first :: rest).length := by
  induction rest generalizing first with
  | nil => rfl
  | cons next rest ih =>
    rw [Items.compact, Items.count, ih]
    rfl

theorem Members.compact_count (first : StringToken × Value) (rest : List (StringToken × Value)) :
    (Members.compact first rest).count = (first :: rest).length := by
  induction rest generalizing first with
  | nil => rfl
  | cons next rest ih =>
    rw [Members.compact, Members.count, ih]
    rfl

section

variable {maxMembers maxItems : Nat}

theorem Value.compactArray_sized {items : List Value} (few : items.length ≤ maxItems)
    (each : ∀ item ∈ items, item.Sized maxMembers maxItems) : (Value.compactArray items).Sized maxMembers maxItems := by
  cases items with
  | nil => trivial
  | cons first rest =>
    rw [Value.compactArray, Value.Sized, Items.compact_count]
    exact ⟨few, Items.compact_all (fun _ => id) (fun _ _ => And.intro) each⟩

theorem Value.compactObject_sized {members : List (StringToken × Value)} (few : members.length ≤ maxMembers)
    (each : ∀ member ∈ members, member.2.Sized maxMembers maxItems) :
    (Value.compactObject members).Sized maxMembers maxItems := by
  cases members with
  | nil => trivial
  | cons first rest =>
    rw [Value.compactObject, Value.Sized, Members.compact_count]
    exact ⟨few, Members.compact_all (fun _ _ => id) (fun _ _ _ => And.intro) each⟩

end

end Grammar

end ECMA
