import MirrorECMA.Framework.Canonical
import MirrorECMA.Framework.Installed

namespace Mirror.Framework

open ECMA ECMA.Grammar
open Mirror.ModelInterface (compareScalars compareScalars_total compareScalars_antisymm compareScalars_trans)
open Mirror.Reproduction (Platform RawText)

/-! ### The order of keys -/

theorem compareBytes_consistent : Consistent compareBytes :=
  ⟨fun _ _ => compareScalars_total _ _, fun first second => compareScalars_trans first second⟩

theorem eq_of_compareBytes {s t : JsString} (valid : isWellFormed s = true) (other : isWellFormed t = true)
    (below : compareBytes s t ≤ 0) (above : compareBytes t s ≤ 0) : s = t := by
  apply utf8Bytes_injective valid other
  have same := compareScalars_antisymm below above
  exact List.map_injective_iff.mpr (fun _ _ => UInt8.toNat_inj.mp) same

/-! ### The canonical text as the text of an ordered tree -/

theorem written_ordered (json : Json) : written json = Json.compact writtenString (Json.ordered compareBytes json) := by
  induction json using Json.children_induct with
  | null => rfl
  | bool b => rfl
  | number d => cases d <;> rfl
  | string s => rfl
  | array items ih =>
    rw [written, writtenItems_eq, Json.ordered_array, Json.compact_array, List.map_map]
    exact congrArg Value.compactArray (List.map_congr_left ih)
  | object fields ih =>
    have mapped := sort_map (fun a b : JsString × Json => compareBytes a.1 b.1)
      (fun field : JsString × Json => (field.1, Json.ordered compareBytes field.2)) fields
    rw [written_object, Json.ordered_object, mapped, Json.compact_object, List.map_map]
    refine congrArg Value.compactObject (List.map_congr_left fun field member => ?_)
    rw [ih field (mem_sort.mp member)]
    rfl

/-- The strings of a catalog. -/
def Fitting (s : JsString) : Prop := isWellFormed s = true ∧ utf8Length s ≤ 65536

theorem checkString_ok {label s : JsString} {bytes : Nat} :
    checkString label s bytes = .ok () ↔ isWellFormed s = true ∧ utf8Length s ≤ bytes := by
  unfold checkString scalarString demand
  by_cases valid : isWellFormed s = true
  · by_cases small : utf8Length s ≤ bytes
    · simp [valid, small]
    · simp [valid, small, refuse]
  · simp [valid, invalid, refuse]

theorem Fitting.renderable {json : Json} (safe : json.Safe Fitting) : Renderable json := by
  induction safe with
  | null => exact .null
  | bool b => exact .bool b
  | number held => exact .number held
  | string held => exact .string held.1
  | array _ ih => exact .array ih
  | object _ keys _ ih => exact .object (fun field member => (keys field member).1) ih

/-! ### `strictJson` -/

theorem children_nodes (item : Json) : ((children item).map Json.nodes).sum + 1 = item.nodes := by
  cases item with
  | null | bool | number | string => rfl
  | array items =>
    rw [children, ((List.reverse_perm items).map Json.nodes).sum_nat, Json.nodes, Json.itemsNodes_eq]
  | object fields =>
    rw [children, ((List.reverse_perm (fields.map Prod.snd)).map Json.nodes).sum_nat, Json.nodes, Json.fieldsNodes_eq, List.map_map]
    rfl

theorem children_everyNumber {p : Double → Prop} (item : Json) :
    item.EveryNumber p ↔ (∀ d, item = .number d → p d) ∧ ∀ child ∈ children item, child.EveryNumber p := by
  cases item with
  | null => exact ⟨fun _ => ⟨fun _ same => (by cases same), fun _ member => by cases member⟩, fun _ => .null⟩
  | bool b => exact ⟨fun _ => ⟨fun _ same => (by cases same), fun _ member => by cases member⟩, fun _ => .bool b⟩
  | string s => exact ⟨fun _ => ⟨fun _ same => (by cases same), fun _ member => by cases member⟩, fun _ => .string s⟩
  | number d =>
    rw [Json.everyNumber_number]
    constructor
    · intro held
      exact ⟨fun e same => Json.number.inj same ▸ held, fun _ member => by cases member⟩
    · intro held
      exact held.1 d rfl
  | array items => simp [Json.everyNumber_array, children]
  | object fields => simp only [Json.everyNumber_object, children, List.mem_reverse, List.forall_mem_map, reduceCtorEq, false_implies, implies_true, true_and]

theorem checkNodes_succ {label : JsString} {left : Nat} {item : Json} {stack : List Json} :
    checkNodes label (left + 1) (item :: stack) = .ok () ↔
      (∀ d, item = .number d → d.isSafeInteger = true) ∧ checkNodes label left (children item ++ stack) = .ok () := by
  cases item with
  | number d =>
    have own : (∀ e, Json.number d = .number e → e.isSafeInteger = true) ↔ d.isSafeInteger = true :=
      ⟨fun each => each d rfl, fun held e same => Json.number.inj same ▸ held⟩
    rw [checkNodes, bind_eq_ok, own]
    simp only [demand_eq_ok, exists_unit]
  | null | bool | string | array | object => simp [checkNodes]

theorem checkNodes_ok {label : JsString} {left : Nat} {stack : List Json} : checkNodes label left stack = .ok () ↔
    (stack.map Json.nodes).sum ≤ left ∧ ∀ item ∈ stack, item.EveryNumber fun d => d.isSafeInteger = true := by
  induction left generalizing stack with
  | zero =>
    cases stack with
    | nil => simp [checkNodes]
    | cons item stack =>
      have positive := children_nodes item
      rw [checkNodes, List.map_cons, List.sum_cons]
      exact iff_of_false (fun checked => by cases checked) fun few => by omega
  | succ left ih =>
    cases stack with
    | nil => simp [checkNodes]
    | cons item stack =>
      have size := children_nodes item
      simp only [checkNodes_succ, ih, List.map_append, List.sum_append, List.map_cons, List.sum_cons, List.forall_mem_append,
        List.forall_mem_cons, children_everyNumber item]
      constructor
      · rintro ⟨number, few, inner, others⟩
        exact ⟨by omega, ⟨number, inner⟩, others⟩
      · rintro ⟨few, ⟨number, inner⟩, others⟩
        exact ⟨number, by omega, inner, others⟩

/-- The trees that are read: within the limits, and of safe integers and strings that fit. -/
structure Admitted (json : Json) : Prop where
  safe : json.Safe Fitting
  sized : json.Sized 4096 4096
  shallow : json.reach ≤ MAX_DEPTH
  few : json.nodes ≤ MAX_NODES

theorem Admitted.alike {a b : Json} (admitted : Admitted a) (same : a.Alike b) : Admitted b :=
  ⟨same.safe admitted.safe, same.sized admitted.sized, same.reach _ admitted.shallow, same.nodes ▸ admitted.few⟩

theorem checkStrings_iff {label : JsString} (value : Value) :
    value.StringsFit (fun s bytes => (scanRules label).checkString s bytes = .ok ()) (scanRules label).bytesOf
      (scanRules label).maxBytes (scanRules label).maxBytes ↔ value.EveryString fun token => Fitting token.decoded := by
  have each (token : StringToken) : checkString label token.decoded 65536 = .ok () ↔ Fitting token.decoded := checkString_ok
  simp only [← each]
  exact value.stringsFit_iff

section

variable [Platform] [NumberConversion]

theorem strictJson_admitted {input : RawText} {label : String} {json : Json} (read : strictJson input label = .ok json) :
    Admitted json := by
  unfold strictJson at read
  simp only [bind_eq_ok, exists_unit] at read
  rcases read with ⟨raw, _, _, scanned, read⟩
  split at read
  · rename_i parsed found
    simp only [bind_eq_ok, exists_unit, pure_eq_ok, Except.ok.injEq] at read
    rcases read with ⟨checked, rfl⟩
    rcases jsonParse_iff.mp found with ⟨written, rfl, rfl⟩
    have admits := (Scan.scan_render _ written).mp scanned
    have size := written.value.eval_size admits.distinct
    have numbers := (checkNodes_ok.mp checked).2 _ (List.mem_singleton.mpr rfl)
    exact ⟨written.value.eval_safe (fun _ held => held) admits.distinct ((checkStrings_iff _).mp admits.strings) numbers,
      written.value.eval_sized admits.distinct admits.sized, size.2 ▸ admits.shallow, size.1 ▸ admits.few⟩
  · cases read

/-- A text within the limits is read as its tree. -/
theorem strictJson_render {written : Text} (valid : isWellFormed written.render = true) (small : utf8Length written.render ≤ MAX_BYTES)
    (label : String) (distinct : written.value.KeysDistinct) (sized : written.value.Sized 4096 4096)
    (every : written.value.EveryString fun token => Fitting token.decoded) (admitted : Admitted written.value.eval) :
    strictJson (.text written.render) label = .ok written.value.eval := by
  have size := written.value.eval_size distinct
  have scanned := (Scan.scan_render (scanRules (js label)) written).mpr
    ⟨size.2 ▸ admitted.shallow, size.1 ▸ admitted.few, distinct, sized, (checkStrings_iff _).mpr every⟩
  have checked : checkNodes (js label) MAX_NODES [written.value.eval] = .ok () := by
    refine checkNodes_ok.mpr ⟨?_, fun item member => ?_⟩
    · rw [List.map_singleton, List.sum_singleton]
      exact admitted.few
    · rw [List.mem_singleton.mp member]
      exact admitted.safe.everyNumber
  have bounded : demand (decide (utf8Length written.render ≤ MAX_BYTES)) .catalog_invalid (js label) (label ++ " exceeds 4 MiB") = .ok () :=
    demand_eq_ok.mpr (decide_eq_true small)
  unfold strictJson inputText
  simp only [valid, if_pos, ok_bind, bounded, scanned, jsonParse_render, checked, pure_eq_ok]

end

/-! ### The canonical form -/

theorem canonicalUnit_plain {u : CodeUnit} (plain : isSurrogate u = false) : isWellFormed (canonicalUnit u) = true := by
  unfold canonicalUnit
  split
  · decide
  · split
    · decide
    · split
      · rename_i control
        have each : ∀ n < 0x20, isWellFormed (unicodeEscapeText (BitVec.ofNat 16 n)) = true := by decide
        have own := each u.toNat control
        rwa [BitVec.ofNat_toNat, BitVec.setWidth_eq] at own
      · simp [isWellFormed, plain]

theorem canonicalUnit_surrogate {u : CodeUnit} (surrogate : isSurrogate u = true) : canonicalUnit u = [u] := by
  simp only [isSurrogate, Bool.and_eq_true, decide_eq_true_eq] at surrogate
  have apart (v : CodeUnit) (small : v.toNat < 0x100) : u ≠ v := fun same => by
    subst same
    omega
  unfold canonicalUnit
  rw [if_neg (apart _ (by decide)), if_neg (apart _ (by decide)), if_neg (by omega)]

theorem writtenString_wellFormed {s : JsString} (valid : isWellFormed s = true) : isWellFormed (writtenString s).render = true := by
  have units := isWellFormed_units (fun _ => canonicalUnit_plain) (fun _ => canonicalUnit_surrogate) valid
  rw [writtenString_render]
  exact isWellFormed_append (s := [quote]) (by decide) (isWellFormed_append units (by decide))

/-- The canonical text of a tree within the limits is read as that tree. -/
theorem Admitted.reread [Platform] [NearestNumberConversion] {json : Json} (admitted : Admitted json)
    (small : utf8Length (written json).render ≤ MAX_BYTES) (label : String) :
    ∃ read, strictJson (.text (written json).render) label = .ok read ∧ read.Alike json := by
  have back := Json.ordered_alike compareBytes json
  have ordered := admitted.alike back.symm
  have alike := Json.compact_alike writtenString_decoded ordered.safe
  have read := ordered.alike alike.symm
  have text : (⟨blank, written json, blank⟩ : Text).render = (written json).render := by simp [Text.render, blank]
  have every : (written json).EveryString fun token => Fitting token.decoded := by
    rw [written_ordered]
    exact Json.compact_everyString (fun s held => by rwa [writtenString_decoded]) ordered.safe
  have valid : isWellFormed (written json).render = true := by
    rw [written_ordered]
    exact Json.compact_wellFormed (fun s held => writtenString_wellFormed held.1) ordered.safe
  have distinct : (written json).KeysDistinct := by
    rw [written_ordered]
    exact Json.compact_keysDistinct writtenString_decoded ordered.safe.keysDistinct
  have sized : (written json).Sized 4096 4096 := by
    rw [written_ordered]
    exact Json.compact_sized ordered.sized
  rw [← written_ordered] at alike read
  rw [← text] at valid small ⊢
  exact ⟨_, strictJson_render valid small label distinct sized every read, read.safe.trans alike back⟩

theorem Admitted.canonical {json : Json} (admitted : Admitted json) : canonicalFrameworkJson json = .ok (written json).render :=
  canonical_ok.mpr ⟨Fitting.renderable admitted.safe, rfl⟩

theorem canonical_of_alike {a b : Json} (admitted : Admitted a) (same : a.Alike b) :
    canonicalFrameworkJson a = canonicalFrameworkJson b := by
  have ordered := Json.ordered_of_alike compareBytes_consistent
    (fun s t left right below above => eq_of_compareBytes left.1 right.1 below above) same admitted.safe
  rw [admitted.canonical, (admitted.alike same).canonical, written_ordered, written_ordered, ordered]

/-- Trees that were read have one canonical text when they are alike, and a short enough one is read as such a tree. -/
theorem canonicalFrameworkJson_form [Platform] [NearestNumberConversion] {first second : RawText} {label other : String} {v w : Json}
    (read : strictJson first label = .ok v) (otherRead : strictJson second other = .ok w) :
    (canonicalFrameworkJson v = canonicalFrameworkJson w ↔ v.Alike w) ∧
      ∃ text, canonicalFrameworkJson v = .ok text ∧
        (utf8Length text ≤ MAX_BYTES → ∀ label, ∃ u, strictJson (.text text) label = .ok u ∧ u.Alike v) := by
  have admitted := strictJson_admitted read
  have otherAdmitted := strictJson_admitted otherRead
  refine ⟨⟨fun same => ?_, canonical_of_alike admitted⟩, _, admitted.canonical, admitted.reread⟩
  exact alike_of_canonical admitted.safe.keysDistinct otherAdmitted.safe.keysDistinct (same.trans otherAdmitted.canonical)
    otherAdmitted.canonical

theorem reordered_form : letI := nearestIntegers; letI := Small.platform
    ∃ v w, strictJson (.text (js "\x7b\"b\":[1,-2],\"a\":\"x\"\x7d")) "first" = .ok v ∧
      strictJson (.text (js " \x7b\"\\u0061\":\"x\",\"b\":[1,-2]\x7d")) "second" = .ok w ∧
      (canonicalFrameworkJson v = canonicalFrameworkJson w ↔ v.Alike w) := by
  let := nearestIntegers
  let := Small.platform
  have first : strictJson (.text (js "\x7b\"b\":[1,-2],\"a\":\"x\"\x7d")) "first" =
      .ok (.object [(js "b", .array [.number (.finite 1), .number (.finite (-2))]), (js "a", .string (js "x"))]) := by decide +kernel
  have second : strictJson (.text (js " \x7b\"\\u0061\":\"x\",\"b\":[1,-2]\x7d")) "second" =
      .ok (.object [(js "a", .string (js "x")), (js "b", .array [.number (.finite 1), .number (.finite (-2))])]) := by decide +kernel
  exact ⟨_, _, first, second, (canonicalFrameworkJson_form first second).1⟩

end Mirror.Framework
