import MirrorECMA.ECMA.Integers
import MirrorECMA.ModelInterface.DescriptorText
import MirrorECMA.ModelInterface.Digest

namespace Mirror.ModelInterface

open ECMA ECMA.Grammar

/-- SHA-256 tells the hashed bytes of the two descriptors apart when they differ. -/
def CollisionFree [Sha256] (value other : Unknown) : Prop :=
  ∀ message otherMessage, semanticDescriptorMessage value = .ok message →
    semanticDescriptorMessage other = .ok otherMessage →
    Sha256.hexDigest message = Sha256.hexDigest otherMessage → message = otherMessage

theorem semanticDescriptorMessage_written {value : Unknown} {descriptor : SemanticDescriptor}
    (decoded : decodeSemanticDescriptor value = .ok descriptor) : semanticDescriptorMessage value =
      .ok (utf8Bytes (js MODEL_INTERFACE_DESCRIPTOR_DIGEST_DOMAIN) ++
        0 :: utf8Bytes (written descriptor.canonical.toJson).render) := by
  rw [semanticDescriptorMessage, canonicalSemanticDescriptorBytes, canonicalSemanticDescriptorString_written decoded]
  rfl

theorem semanticDescriptorDigest_message [Sha256] {value : Unknown} {digest : SemanticDigest}
    (found : semanticDescriptorDigest value = .ok digest) :
    ∃ message, semanticDescriptorMessage value = .ok message ∧ Sha256.hexDigest message = digest.hex := by
  simp only [semanticDescriptorDigest, bind_eq_ok] at found
  obtain ⟨message, hashed, checked⟩ := found
  refine ⟨message, hashed, ?_⟩
  unfold semanticDigestFromHex at checked
  split at checked
  · cases checked
    rfl
  · cases checked

theorem compressCharacter_wellFormed {c : Nat} (scalar : isScalar c) : isWellFormed (compressCharacter c) = true := by
  have control : ∀ c < 0x20, isWellFormed (unicodeEscapeText (BitVec.ofNat 16 c)) = true := by decide
  unfold compressCharacter
  split
  · decide
  · split
    · decide
    · split
      · decide
      · split
        · decide
        · split
          · rename_i small
            exact control c small
          · exact isWellFormed_fromCodePoint scalar

theorem writtenString_wellFormed {text : JsString} (valid : isWellFormed text = true) :
    isWellFormed (writtenString text).render = true := by
  have characters := isWellFormed_flatMap fun c member => compressCharacter_wellFormed (codePoints_isScalar valid c member)
  rw [writtenString_render, compressCanonicalString]
  exact isWellFormed_append (s := [quote]) (by decide) (isWellFormed_append characters (by decide))

theorem written_wellFormed {json : Json} (plain : PlainJson json) : isWellFormed (written json).render = true := by
  have separator : isWellFormed [comma] = true := by decide
  induction plain with
  | null => decide
  | bool value => cases value <;> decide
  | @number n _ => rw [written_number, Value.render]; exact isWellFormed_decimal n
  | string valid => exact writtenString_wellFormed valid
  | array _ ih =>
    rw [written, Value.compactArray_render, writtenItems_eq, List.map_map]
    have items := isWellFormed_intercalate separator (List.forall_mem_map.mpr ih)
    exact isWellFormed_append (s := [openBracket]) (by decide) (isWellFormed_append items (by decide))
  | @object fields _ keys _ ih =>
    have field (field : JsString × Json) (member : field ∈ fields) :
        isWellFormed ((writtenString field.1).render ++ colon :: (written field.2).render) = true :=
      isWellFormed_append (writtenString_wellFormed (keys field.1 (List.mem_map_of_mem member)))
        (isWellFormed_append (s := [colon]) (by decide) (ih field member))
    rw [written, Value.compactObject_render, writtenFields_eq, List.map_map]
    have items := isWellFormed_intercalate separator (List.forall_mem_map.mpr field)
    exact isWellFormed_append (s := [openBrace]) (by decide) (isWellFormed_append items (by decide))

theorem reordered_of_written {descriptor other : SemanticDescriptor} (wellFormed : descriptor.WellFormed)
    (fits : descriptor.Fits) (otherWellFormed : other.WellFormed) (otherFits : other.Fits)
    (same : (written descriptor.canonical.toJson).render = (written other.canonical.toJson).render) :
    descriptor.Reordered other := by
  have json : descriptor.canonical.toJson = other.canonical.toJson := by
    refine compress_injective wellFormed.canonical_plain otherWellFormed.canonical_plain ?_
    rw [compress_written wellFormed.canonical_plain, compress_written otherWellFormed.canonical_plain, same]
  obtain ⟨normal, normalFits⟩ := SemanticDescriptor.canonical_accepted wellFormed fits
  obtain ⟨otherNormal, otherNormalFits⟩ := SemanticDescriptor.canonical_accepted otherWellFormed otherFits
  have decoded := decodeSemanticDescriptor_plain normal normalFits
  rw [json, decodeSemanticDescriptor_plain otherNormal otherNormalFits] at decoded
  exact SemanticDescriptor.reordered_of_canonical wellFormed otherWellFormed (Except.ok.inj decoded).symm

/-- Descriptors of one canonical string differ in the order of unordered parts only, and so do those of one digest. -/
theorem canonicalSemanticDescriptorString_injective [Sha256] {value other : Unknown}
    {descriptor otherDescriptor : SemanticDescriptor} (decoded : decodeSemanticDescriptor value = .ok descriptor)
    (otherDecoded : decodeSemanticDescriptor other = .ok otherDescriptor) :
    (canonicalSemanticDescriptorString value = canonicalSemanticDescriptorString other →
      descriptor.Reordered otherDescriptor) ∧
    ∀ digest, semanticDescriptorDigest value = .ok digest → semanticDescriptorDigest other = .ok digest →
      CollisionFree value other → descriptor.Reordered otherDescriptor := by
  obtain ⟨wellFormed, fits⟩ := decodeSemanticDescriptor_accepted decoded
  obtain ⟨otherWellFormed, otherFits⟩ := decodeSemanticDescriptor_accepted otherDecoded
  refine ⟨fun same => ?_, fun digest found otherFound collisionFree => ?_⟩
  · rw [canonicalSemanticDescriptorString_written decoded, canonicalSemanticDescriptorString_written otherDecoded] at same
    exact reordered_of_written wellFormed fits otherWellFormed otherFits (Except.ok.inj same)
  · obtain ⟨message, hashed, hex⟩ := semanticDescriptorDigest_message found
    obtain ⟨otherMessage, otherHashed, otherHex⟩ := semanticDescriptorDigest_message otherFound
    have same := collisionFree message otherMessage hashed otherHashed (hex.trans otherHex.symm)
    rw [semanticDescriptorMessage_written decoded, Except.ok.injEq] at hashed
    rw [semanticDescriptorMessage_written otherDecoded, Except.ok.injEq] at otherHashed
    rw [← hashed, ← otherHashed] at same
    have bytes := (List.cons.inj (List.append_cancel_left same)).2
    refine reordered_of_written wellFormed fits otherWellFormed otherFits (utf8Bytes_injective ?_ ?_ bytes)
    · exact written_wellFormed wellFormed.canonical_plain
    · exact written_wellFormed otherWellFormed.canonical_plain

/-! ### A descriptor that reads its one input at a given key -/

def counter (key : CanonicalItfLiteral) : SemanticDescriptor where
  interfaceVersion := js "1.0.0"
  module := js "Counter"
  runProfile := ⟨none, [], []⟩
  initializers := [⟨js "INIT", .initialization, js "init", [], [⟨js "START", ⟨.initialState, [.mapKey key]⟩, .scalar .int⟩]⟩]
  actions := []
  observations := []

theorem counter_wellFormed {key : CanonicalItfLiteral} (accepted : key.Accepted 128) : (counter key).WellFormed := by
  have type : (ModelType.scalar .int).Valid := ⟨.scalar, .scalar⟩
  have id : StableId (js "START") := by unfold StableId ShortText; decide
  have input : ResolvedInput.Accepted .initialization ⟨js "START", ⟨.initialState, [.mapKey key]⟩, .scalar .int⟩ :=
    ⟨id, rfl, by simp, List.forall_mem_singleton.mpr accepted, type⟩
  have id : StableId (js "INIT") := by unfold StableId ShortText; decide
  have label : ShortText (js "init") ∧ js "init" ≠ [] := by unfold ShortText; decide
  have action : ∀ action ∈ (counter key).initializers, action.Accepted .initialization :=
    List.forall_mem_singleton.mpr ⟨id, rfl, label, by simp, by simp, by simp [ResolvedAction.labels], by simp,
      List.forall_mem_singleton.mpr input, by simp⟩
  have version : ShortText (js "1.0.0") ∧ validInterfaceVersion (js "1.0.0") = true := by unfold ShortText; decide
  have module : ShortText (js "Counter") ∧ validModuleName (js "Counter") = true := by unfold ShortText; decide
  have profile : (counter key).runProfile.Accepted := ⟨by simp [counter], by simp [counter], by simp [counter], rfl⟩
  constructor <;> first
    | assumption
    | simp [counter, SemanticDescriptor.allActions, ResolvedAction.labels, SemanticDescriptor.nodes, ResolvedAction.nodes,
        ResolvedInput.nodes, ModelType.nodes]

def textLength (json : Json) : Nat := (written json).render.length

theorem counter_length (key : CanonicalItfLiteral) :
    textLength (counter key).canonical.toJson + textLength CanonicalItfLiteral.null.toJson =
      textLength (counter .null).canonical.toJson + textLength key.canonical.toJson := by
  have empty {α : Type} (compare : α → α → Int) : sort compare [] = [] := rfl
  have single {α : Type} (compare : α → α → Int) (x : α) : sort compare [x] = [x] := rfl
  have null : CanonicalItfLiteral.null.canonical = .null := by rw [CanonicalItfLiteral.canonical]
  simp only [textLength, counter, SemanticDescriptor.canonical, ResolvedRunProfile.canonical, ResolvedAction.canonical,
    ResolvedInput.canonical, ContractPathSegment.canonical, SemanticDescriptor.toJson, ResolvedRunProfile.toJson,
    ResolvedAction.toJson, ResolvedInput.toJson, ContractPathSegment.toJson, empty, single, null, List.map_cons,
    List.map_nil, written, writtenItems, writtenFields, Value.compactObject_render, Value.compactArray_render,
    List.intercalate_cons_cons, List.intercalate_singleton, List.length_append, List.length_cons]
  omega

theorem counter_decoded {key : CanonicalItfLiteral} (accepted : key.Accepted 128)
    (short : textLength key.canonical.toJson ≤ 9000) :
    decodeSemanticDescriptor (some (counter key).toJson) = .ok (counter key) := by
  have wellFormed := counter_wellFormed accepted
  refine decodeSemanticDescriptor_plain wellFormed ⟨(written (counter key).canonical.toJson).render, ?_, ?_⟩
  · rw [compress_descriptor wellFormed, compress_written wellFormed.canonical_plain]
  · have frame : textLength (counter .null).canonical.toJson ≤ 1000 := by decide +kernel
    have length := counter_length key
    refine (utf8Length_le _).trans ?_
    show 3 * textLength (counter key).canonical.toJson ≤ 32768
    omega

def flags (first second : Bool) : CanonicalItfLiteral := .collection .set [.bool first, .bool second]

theorem flags_accepted (first second : Bool) : (flags first second).Accepted 128 :=
  .collection (by simp [CanonicalItfLiteral.Accepted.bool])

theorem flags_reordered (first second : Bool) : (flags first second).Reordered (flags second first) := by
  have same : ∀ p ∈ [(CanonicalItfLiteral.bool first, CanonicalItfLiteral.bool first), (.bool second, .bool second)],
      p.1.Reordered p.2 := by simp [CanonicalItfLiteral.Reordered.bool]
  exact .set same (.refl _) (.swap _ _ [])

theorem flags_keysDistinct (first second : Bool) : (flags first second).KeysDistinct :=
  .collection (by simp [CanonicalItfLiteral.KeysDistinct.bool])

theorem counter_reordered {key other : CanonicalItfLiteral} (reordered : key.Reordered other) :
    (counter key).Reordered (counter other) := by
  have single {α : Type} {r : α → α → Prop} {x y : α} (same : r x y) : Rearranged r [x] [y] :=
    ⟨[(x, y)], .refl _, .refl _, List.forall_mem_singleton.mpr same⟩
  have path : Aligned ContractPathSegment.Reordered [.mapKey key] [.mapKey other] :=
    ⟨[(.mapKey key, .mapKey other)], rfl, rfl, List.forall_mem_singleton.mpr (.mapKey reordered)⟩
  have input : ResolvedInput.Reordered ⟨js "START", ⟨.initialState, [.mapKey key]⟩, .scalar .int⟩
      ⟨js "START", ⟨.initialState, [.mapKey other]⟩, .scalar .int⟩ := ⟨rfl, rfl, path, .scalar .int⟩
  exact ⟨rfl, rfl, ⟨rfl, .refl _, rfl⟩, single ⟨rfl, rfl, rfl, .refl _, single input⟩, ⟨[], .refl _, .refl _, by simp⟩,
    ⟨[], .refl _, .refl _, by simp⟩⟩

theorem counter_keysDistinct {key : CanonicalItfLiteral} (distinct : key.KeysDistinct) : (counter key).KeysDistinct := by
  simpa [SemanticDescriptor.KeysDistinct, SemanticDescriptor.allActions, counter, ResolvedAction.KeysDistinct,
    ContractPathSegment.KeysDistinct] using distinct

theorem flags_decoded (first second : Bool) :
    decodeSemanticDescriptor (some (counter (flags first second)).toJson) = .ok (counter (flags first second)) := by
  refine counter_decoded (flags_accepted first second) ?_
  cases first <;> cases second <;> decide +kernel

theorem flags_identified : (counter (flags true false)).Reordered (counter (flags false true)) := by
  let _ : Sha256 := ⟨fun _ => js "0cbbdd69c2232a9d19ad6dad77df8f608fe3afa3baebb5328b1657980075b93d"⟩
  have same : (counter (flags true false)).canonical = (counter (flags false true)).canonical :=
    (counter_reordered (flags_reordered true false)).canonical (counter_wellFormed (flags_accepted true false))
      (counter_keysDistinct (flags_keysDistinct true false))
  have message : semanticDescriptorMessage (some (counter (flags true false)).toJson) =
      semanticDescriptorMessage (some (counter (flags false true)).toJson) := by
    rw [semanticDescriptorMessage_written (flags_decoded true false),
      semanticDescriptorMessage_written (flags_decoded false true), same]
  have valid : (js "0cbbdd69c2232a9d19ad6dad77df8f608fe3afa3baebb5328b1657980075b93d").length = 64 ∧
      (js "0cbbdd69c2232a9d19ad6dad77df8f608fe3afa3baebb5328b1657980075b93d").all isLowerHexDigit = true := by decide
  have digest (first second : Bool) :
      semanticDescriptorDigest (some (counter (flags first second)).toJson) = .ok ⟨_, valid⟩ := by
    rw [semanticDescriptorDigest, semanticDescriptorMessage_written (flags_decoded first second), ok_bind]
    exact dif_pos valid
  exact (canonicalSemanticDescriptorString_injective (flags_decoded true false) (flags_decoded false true)).2 _
    (digest true false) (digest false true)
    fun _ _ first second _ => Except.ok.inj (first.symm.trans (message.trans second))

theorem SemanticDescriptor.Reordered.fits {descriptor other : SemanticDescriptor} (reordered : descriptor.Reordered other)
    (wellFormed : descriptor.WellFormed) (distinct : descriptor.KeysDistinct) (fits : descriptor.Fits) : other.Fits := by
  obtain ⟨text, compressed, small⟩ := fits
  refine ⟨text, ?_, small⟩
  rw [compress_descriptor (reordered.wellFormed wellFormed), ← reordered.canonical wellFormed distinct,
    ← compress_descriptor wellFormed, compressed]

/-- The order of unordered parts is not seen in the canonical string. -/
theorem canonicalSemanticDescriptorString_reordered {value : Unknown} {descriptor other : SemanticDescriptor}
    (decoded : decodeSemanticDescriptor value = .ok descriptor) (distinct : descriptor.KeysDistinct)
    (reordered : descriptor.Reordered other) :
    decodeSemanticDescriptor (some other.toJson) = .ok other ∧ ∀ data, decodeSemanticDescriptor data = .ok other →
      canonicalSemanticDescriptorString data = canonicalSemanticDescriptorString value := by
  obtain ⟨wellFormed, fits⟩ := decodeSemanticDescriptor_accepted decoded
  refine ⟨decodeSemanticDescriptor_plain (reordered.wellFormed wellFormed) (reordered.fits wellFormed distinct fits),
    fun data otherDecoded => ?_⟩
  rw [canonicalSemanticDescriptorString_written decoded, canonicalSemanticDescriptorString_written otherDecoded,
    reordered.canonical wellFormed distinct]

theorem flags_encoded : canonicalSemanticDescriptorString (some (counter (flags false true)).toJson) =
    canonicalSemanticDescriptorString (some (counter (flags true false)).toJson) :=
  (canonicalSemanticDescriptorString_reordered (flags_decoded true false)
    (counter_keysDistinct (flags_keysDistinct true false)) (counter_reordered (flags_reordered true false))).2 _
    (flags_decoded false true)

theorem parseSemanticDescriptor_written [SafeNumberConversion] {descriptor parsed : SemanticDescriptor}
    (wellFormed : descriptor.WellFormed) (fits : descriptor.Fits) :
    parseSemanticDescriptor (written descriptor.canonical.toJson).render = .ok parsed ↔
      nesting (canonicalDescriptorValue descriptor) ≤ 128 ∧ parsed = descriptor.canonical := by
  obtain ⟨normal, normalFits⟩ := SemanticDescriptor.canonical_accepted wellFormed fits
  have small : utf8Length (written descriptor.canonical.toJson).render ≤ 65535 :=
    (SemanticDescriptor.Fits.written wellFormed fits).trans (by decide)
  have decoded : decodeSemanticDescriptorValue (some descriptor.canonical.toJson) = .ok descriptor.canonical :=
    decodeSemanticDescriptor_plain normal normalFits
  rw [nesting_descriptor, parseSemanticDescriptor, bind_eq_ok]
  constructor
  · rintro ⟨json, found, result⟩
    obtain ⟨shallow, rfl⟩ := (parseStrictJson_written wellFormed.canonical_plain small).mp found
    rw [decoded] at result
    exact ⟨shallow, (Except.ok.inj result).symm⟩
  · rintro ⟨shallow, rfl⟩
    exact ⟨_, (parseStrictJson_written wellFormed.canonical_plain small).mpr ⟨shallow, rfl⟩, decoded⟩

/-- A canonical string is read back when it opens no more than 128 containers, as a descriptor of the same identity. -/
theorem parseSemanticDescriptor_canonical [SafeNumberConversion] [Sha256] {value : Unknown}
    {descriptor : SemanticDescriptor} (decoded : decodeSemanticDescriptor value = .ok descriptor) :
    ∃ text, canonicalSemanticDescriptorString value = .ok text ∧
      ((∃ parsed, parseSemanticDescriptor text = .ok parsed) ↔ nesting (canonicalDescriptorValue descriptor) ≤ 128) ∧
      ∀ parsed, parseSemanticDescriptor text = .ok parsed →
        canonicalSemanticDescriptorString (some parsed.toJson) = .ok text ∧
          semanticDescriptorDigest (some parsed.toJson) = semanticDescriptorDigest value := by
  obtain ⟨wellFormed, fits⟩ := decodeSemanticDescriptor_accepted decoded
  refine ⟨_, canonicalSemanticDescriptorString_written decoded, ?_, fun parsed found => ?_⟩
  · simp only [parseSemanticDescriptor_written wellFormed fits, exists_and_left, exists_eq, and_true]
  · obtain ⟨-, rfl⟩ := (parseSemanticDescriptor_written wellFormed fits).mp found
    obtain ⟨normal, normalFits⟩ := SemanticDescriptor.canonical_accepted wellFormed fits
    have readBack := decodeSemanticDescriptor_plain normal normalFits
    have same := SemanticDescriptor.canonical_canonical descriptor
    refine ⟨by rw [canonicalSemanticDescriptorString_written readBack, same], ?_⟩
    rw [semanticDescriptorDigest, semanticDescriptorDigest, semanticDescriptorMessage_written readBack, same,
      semanticDescriptorMessage_written decoded]

theorem flags_read_back : letI := safeIntegers
    ∃ text parsed, canonicalSemanticDescriptorString (some (counter (flags true false)).toJson) = .ok text ∧
      parseSemanticDescriptor text = .ok parsed := by
  let _ := safeIntegers
  let _ : Sha256 := ⟨fun _ => js "0cbbdd69c2232a9d19ad6dad77df8f608fe3afa3baebb5328b1657980075b93d"⟩
  obtain ⟨text, rendered, readable, -⟩ := parseSemanticDescriptor_canonical (flags_decoded true false)
  obtain ⟨parsed, found⟩ := readable.mpr (by decide +kernel)
  exact ⟨text, parsed, rendered, found⟩

/-- Each level opens an object and an array. -/
def nested : Nat → CanonicalItfLiteral
  | 0 => .null
  | n + 1 => .collection .seq [nested n]

theorem nested_canonical (n : Nat) : (nested n).canonical = nested n := by
  induction n with
  | zero => rw [nested, CanonicalItfLiteral.canonical]
  | succ n ih => rw [nested, CanonicalItfLiteral.canonical_collection, List.map_singleton, ih, arranged]

theorem nested_accepted {n levels : Nat} (shallow : n < levels) : (nested n).Accepted levels := by
  induction n generalizing levels with
  | zero =>
    obtain ⟨levels, rfl⟩ := Nat.exists_eq_succ_of_ne_zero (Nat.ne_of_gt shallow)
    exact .null
  | succ n ih =>
    obtain ⟨levels, rfl⟩ := Nat.exists_eq_succ_of_ne_zero (Nat.ne_of_gt (Nat.zero_lt_of_lt shallow))
    exact .collection (List.forall_mem_singleton.mpr (ih (Nat.lt_of_succ_lt_succ shallow)))

theorem nested_length (n : Nat) : textLength (nested n).toJson = 15 + 26 * n := by
  induction n with
  | zero => decide +kernel
  | succ n ih =>
    have kind : (writtenString (js "kind")).render.length = 6 := by decide
    have seq : (writtenString (js "seq")).render.length = 5 := by decide
    have values : (writtenString (js "values")).render.length = 8 := by decide
    simp only [textLength] at ih ⊢
    simp only [nested, CanonicalItfLiteral.toJson, CanonicalItfLiteral.toJsons, ValuesKind.name, written, writtenItems,
      writtenFields, Value.compactObject_render, Value.compactArray_render, List.map_cons, List.map_nil,
      List.intercalate_cons_cons, List.intercalate_singleton, List.length_append, List.length_cons, Value.render, kind,
      seq, values, ih, List.length_nil]
    omega

/-- Sixty sequences inside a key and the eight containers around it are one more than the parser opens. -/
theorem nested_unread : letI := safeIntegers
    decodeSemanticDescriptor (some (counter (nested 60)).toJson) = .ok (counter (nested 60)) ∧
      ∃ text, canonicalSemanticDescriptorString (some (counter (nested 60)).toJson) = .ok text ∧
        ∀ parsed, parseSemanticDescriptor text ≠ .ok parsed := by
  let _ := safeIntegers
  have accepted : (nested 60).Accepted 128 := nested_accepted (by decide)
  have decoded : decodeSemanticDescriptor (some (counter (nested 60)).toJson) = .ok (counter (nested 60)) := by
    refine counter_decoded accepted ?_
    rw [nested_canonical, nested_length]
    decide
  obtain ⟨wellFormed, fits⟩ := decodeSemanticDescriptor_accepted decoded
  refine ⟨decoded, _, canonicalSemanticDescriptorString_written decoded, fun parsed found => ?_⟩
  have shallow := ((parseSemanticDescriptor_written wellFormed fits).mp found).1
  revert shallow
  decide +kernel

end Mirror.ModelInterface
