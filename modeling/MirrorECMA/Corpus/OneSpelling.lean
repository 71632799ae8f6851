import MirrorECMA.Corpus.ArtifactReader
import MirrorECMA.ECMA.OrderedTrees
import MirrorECMA.Framework.CanonicalForm
import MirrorECMA.ModelInterface.CanonicalText

namespace Mirror.Corpus

open ECMA ECMA.Grammar
open Mirror.Framework (compareBytes compareBytes_consistent eq_of_compareBytes)
open Mirror.ModelInterface
open Mirror.Reproduction (Platform)

/-- The trees of artifacts: safe integers, distinct keys, no unpaired surrogate. -/
abbrev Artifact (json : Json) : Prop := json.Safe fun s => isWellFormed s = true

/-! ### The canonical text as the text of an ordered tree -/

theorem quote_render (s : JsString) : quote s = (writtenString s).render := (writtenString_render s).symm

def spelled (json : Json) : Value := Json.compact writtenString (Json.ordered compareBytes json)

@[simp] theorem canonicalItems_eq (items : List Json) : canonicalItems items = items.map canonical :=
  eq_map rfl (fun _ _ => rfl) items

/-- The text of a member. -/
def canonicalField (field : JsString × Json) : Except ProjectedCorpusError JsString := do
  return quote field.1 ++ colon :: (← canonical field.2)

@[simp] theorem canonicalFields_eq (fields : List (JsString × Json)) :
    canonicalFields fields = fields.map fun field => (field.1, canonicalField field) :=
  eq_map rfl (fun _ _ => rfl) fields

theorem canonical_array (items : List Json) : canonical (.array items) = (do
    let texts ← items.mapM canonical
    return openBracket :: ((js ",").intercalate texts ++ [closeBracket])) := by
  rw [canonical, canonicalItems_eq, List.mapM_map]
  rfl

theorem canonical_object (fields : Fields Json) : canonical (.object fields) = (do
    let texts ← (sort (fun a b => compareBytes a.1 b.1) fields).mapM canonicalField
    return openBrace :: ((js ",").intercalate texts ++ [closeBrace])) := by
  have mapped := sort_map (fun a b : JsString × Except ProjectedCorpusError JsString => compareBytes a.1 b.1)
    (fun field : JsString × Json => (field.1, canonicalField field)) fields
  rw [canonical, canonicalFields_eq, mapped, List.mapM_map]
  rfl

theorem canonical_spelled {json : Json} (artifact : Artifact json) : canonical json = .ok (spelled json).render := by
  induction artifact with
  | null => rfl
  | bool b => cases b <;> rfl
  | @number d safe =>
    rw [canonical, if_pos safe]
    cases d <;> rfl
  | @string s _ =>
    rw [canonical, quote_render]
    rfl
  | @array items _ ih =>
    rw [canonical_array, mapM_ok ih, spelled, Json.ordered_array, Json.compact_array, Value.compactArray_render, List.map_map,
      List.map_map]
    rfl
  | @object fields _ _ _ ih =>
    have each : ∀ field ∈ sort (fun a b => compareBytes a.1 b.1) fields,
        canonicalField field = .ok ((writtenString field.1).render ++ colon :: (spelled field.2).render) := by
      intro field member
      rw [canonicalField, ih field (mem_sort.mp member), quote_render]
      rfl
    have mapped := sort_map (fun a b : JsString × Json => compareBytes a.1 b.1)
      (fun field : JsString × Json => (field.1, Json.ordered compareBytes field.2)) fields
    rw [canonical_object, mapM_ok each, spelled, Json.ordered_object, mapped, Json.compact_object, Value.compactObject_render,
      List.map_map, List.map_map]
    rfl

/-! ### Nesting -/

theorem maximum_le {depths : List Nat} {n : Nat} : maximum depths ≤ n ↔ ∀ depth ∈ depths, depth ≤ n := by
  induction depths with
  | nil => simp [maximum]
  | cons depth rest ih =>
    rw [List.forall_mem_cons, ← ih]
    exact Nat.max_le

theorem nesting_array {items : List Json} {n : Nat} : nesting (.array items) ≤ n ↔ 1 ≤ n ∧ ∀ item ∈ items, nesting item + 1 ≤ n := by
  rw [nesting, nestings_eq]
  cases n with
  | zero => simp
  | succ n => simp [maximum_le]

theorem nesting_object {fields : Fields Json} {n : Nat} :
    nesting (.object fields) ≤ n ↔ 1 ≤ n ∧ ∀ field ∈ fields, nesting field.2 + 1 ≤ n := by
  rw [nesting, fieldNestings_eq]
  cases n with
  | zero => simp
  | succ n => simp only [Nat.add_le_add_iff_right, maximum_le, List.forall_mem_map, Nat.le_add_left, true_and]

theorem nesting_alike {a b : Json} (same : a.Alike b) (n : Nat) (shallow : nesting a ≤ n) : nesting b ≤ n := by
  induction same generalizing n with
  | null | bool | number | string => exact shallow
  | @array pairs _ ih =>
    rw [nesting_array] at shallow ⊢
    refine ⟨shallow.1, List.forall_mem_map.mpr fun p member => ?_⟩
    have own := shallow.2 p.1 (List.mem_map_of_mem member)
    have deeper := ih p member (n - 1) (by omega)
    omega
  | @object pairs xs ys _ _ first second ih =>
    rw [nesting_object] at shallow ⊢
    refine ⟨shallow.1, fun field member => ?_⟩
    rcases List.mem_map.mp (second.symm.subset member) with ⟨p, inside, rfl⟩
    have own := shallow.2 p.1 (mem_of_pairs first inside)
    have deeper := ih p inside (n - 1) (by omega)
    omega

theorem compact_depth (string : JsString → StringToken) (json : Json) : (Json.compact string json).depth = nesting json := by
  induction json using Json.children_induct with
  | null => rfl
  | bool b => cases b <;> rfl
  | number d => rfl
  | string s => rfl
  | array items ih =>
    rw [Json.compact_array, Value.compactArray_depth, List.map_map, nesting, nestings_eq]
    exact congrArg (maximum · + 1) (List.map_congr_left ih)
  | object fields ih =>
    rw [Json.compact_object, Value.compactObject_depth, List.map_map, nesting, fieldNestings_eq]
    exact congrArg (maximum · + 1) (List.map_congr_left ih)

/-! ### One spelling -/

section

variable [NearestNumberConversion]

def newline : Whitespace := ⟨[0x0A], List.forall_mem_singleton.mpr rfl⟩

/-- A spelled artifact is strict JSON. -/
theorem spelled_strict {json : Json} (artifact : Artifact json) (shallow : nesting json ≤ 128) :
    StrictJsonParser.Strict MAX_MODEL_INTERFACE_JSON_DEPTH (spelled json) := by
  have back := Json.ordered_alike compareBytes json
  have ordered := back.symm.safe artifact
  refine ⟨Json.compact_keysDistinct writtenString_decoded ordered.keysDistinct,
    Json.compact_everyString (fun s => writtenString_paired) ordered, Json.compact_everyNumber (fun i small => ?_) ordered, ?_⟩
  · have read := Json.number_integerText small
    rw [StrictJsonParser.IsFiniteNumber, ← Double.unsigned_isFinite, read]
    rfl
  · rw [spelled, compact_depth]
    exact nesting_alike back.symm _ shallow

theorem spelled_read {json : Json} (artifact : Artifact json) (shallow : nesting json ≤ 128) {nodes : Nat} (few : json.nodes ≤ nodes) :
    ∃ read, ArtifactJsonParser.parse ((spelled json).render ++ js "\n") nodes = .ok (read, nodes - json.nodes) ∧ read.Alike json := by
  have back := Json.ordered_alike compareBytes json
  have ordered := back.symm.safe artifact
  have alike : (spelled json).eval.Alike (Json.ordered compareBytes json) := Json.compact_alike writtenString_decoded ordered
  have safe := alike.symm.safe ordered
  have whole := safe.trans alike back
  have text : (⟨blank, spelled json, newline⟩ : Text).render = (spelled json).render ++ js "\n" := by
    have feed : js "\n" = newline.text := by decide
    rw [feed]
    rfl
  refine ⟨(spelled json).eval, ArtifactJsonParser.parse_iff.mpr ⟨?_, safe.everyNumber, ?_⟩, whole⟩
  · exact StrictJsonParser.parse_iff.mpr ⟨_, text, spelled_strict artifact shallow, rfl⟩
  · rw [whole.nodes]
    omega

end

theorem spelled_alike {a b : Json} (artifact : Artifact a) (same : a.Alike b) : spelled a = spelled b := by
  have ordered := Json.ordered_of_alike compareBytes_consistent
    (fun s t left right below above => eq_of_compareBytes left right below above) same artifact
  rw [spelled, spelled, ordered]

/-- What the parser returns is an artifact. -/
theorem parse_artifact [NumberConversion] {text : JsString} {nodes left : Nat} {json : Json}
    (read : ArtifactJsonParser.parse text nodes = .ok (json, left)) : Artifact json := by
  rcases ArtifactJsonParser.parse_iff.mp read with ⟨strict, safe, _⟩
  rcases StrictJsonParser.parse_iff.mp strict with ⟨written, _, ⟨distinct, paired, _, _⟩, rfl⟩
  exact written.value.eval_safe (fun _ => And.left) distinct paired safe

theorem canonicalFile_ok {bytes : List UInt8} {json : Json} :
    canonicalFile bytes json = .ok () ↔ ∃ text, canonical json = .ok text ∧ bytes = utf8Bytes (text ++ js "\n") := by
  unfold canonicalFile
  rw [bind_eq_ok]
  refine exists_congr fun text => and_congr Iff.rfl ?_
  by_cases same : bytes = utf8Bytes (text ++ js "\n")
  · simp [same]
  · simp [same, fail]

/-- The text of an artifact with a newline is read as that artifact, and artifacts that are alike have one file. -/
theorem projectedCorpus_oneSpelling [Platform] [NearestNumberConversion] :
    (∀ (v : Json) (nodes : Nat), Artifact v → nesting v ≤ 128 → v.nodes ≤ nodes →
      ∃ text u, canonical v = .ok text ∧ ArtifactJsonParser.parse (text ++ js "\n") nodes = .ok (u, nodes - v.nodes) ∧ u.Alike v) ∧
    ∀ (bytes others : List UInt8) (nodes otherNodes left otherLeft : Nat) (v w : Json), parse bytes nodes = .ok (v, left) →
      parse others otherNodes = .ok (w, otherLeft) → v.Alike w → canonicalFile bytes v = .ok () → canonicalFile others w = .ok () →
      bytes = others := by
  constructor
  · intro v nodes artifact shallow few
    rcases spelled_read artifact shallow few with ⟨u, read, alike⟩
    exact ⟨_, u, canonical_spelled artifact, read, alike⟩
  · intro bytes others nodes otherNodes left otherLeft v w first second same accepted otherAccepted
    have artifact : Artifact v := by
      unfold parse at first
      split at first
      · cases first
      · exact parse_artifact first
    rcases canonicalFile_ok.mp accepted with ⟨text, rendered, rfl⟩
    rcases canonicalFile_ok.mp otherAccepted with ⟨other, otherRendered, rfl⟩
    rw [canonical_spelled artifact] at rendered
    rw [canonical_spelled (same.safe artifact), ← spelled_alike artifact same] at otherRendered
    rw [← Except.ok.inj rendered, ← Except.ok.inj otherRendered]

/-- `TextDecoder` on the bytes of ASCII. -/
@[reducible] def asciiPlatform : Platform where
  hexDigest _ := []
  decodeUtf8 bytes := if bytes.all fun b => b < 0x80 then some (bytes.map fun b => BitVec.ofNat 16 b.toNat) else none
  fromBase64 _ := []
  toBase64 _ := []
  toUtf8 _ := []
  dateParse _ := .nan

def member : Json := .object [(js "b", .array []), (js "a", .number (.finite (-1)))]

theorem member_oneSpelling : letI := nearestIntegers; letI := asciiPlatform
    (∃ text u, canonical member = .ok text ∧ ArtifactJsonParser.parse (text ++ js "\n") 9 = .ok (u, 6) ∧ u.Alike member) ∧
      utf8Bytes (js "\x7b\"a\":-1,\"b\":[]\x7d\n") = [123, 34, 97, 34, 58, 45, 49, 44, 34, 98, 34, 58, 91, 93, 125, 10] := by
  let := nearestIntegers
  let := asciiPlatform
  have artifact : Artifact member := by
    refine .object (by decide) (by decide) ?_
    rintro field member
    simp only [List.mem_cons, List.not_mem_nil, or_false] at member
    rcases member with rfl | rfl
    · exact .array fun _ member => by cases member
    · exact .number (by decide)
  have read : ∀ bytes ∈ [utf8Bytes (js "\x7b\"a\":-1,\"b\":[]\x7d\n"), [123, 34, 97, 34, 58, 45, 49, 44, 34, 98, 34, 58, 91, 93, 125, 10]],
      parse bytes 9 = .ok (.object [(js "a", .number (.finite (-1))), (js "b", .array [])], 6) ∧
        canonicalFile bytes (.object [(js "a", .number (.finite (-1))), (js "b", .array [])]) = .ok () := by decide +kernel
  rcases List.forall_mem_cons.mp read with ⟨first, rest⟩
  have second := List.forall_mem_singleton.mp rest
  exact ⟨projectedCorpus_oneSpelling.1 member 9 artifact (by decide) (by decide),
    projectedCorpus_oneSpelling.2 _ _ _ _ _ _ _ _ first.1 second.1 (.refl _) first.2 second.2⟩

end Mirror.Corpus
