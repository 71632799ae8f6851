import MirrorECMA.Transport.Framing

namespace Mirror.Transport

open ECMA

/-- The LF-terminated lines of a stream, begun with `part`, and the bytes behind the last LF. -/
def segments (part : Bytes) : Bytes → List Bytes × Bytes
  | [] => ([], part)
  | byte :: rest =>
    if byte = LF then (part :: (segments [] rest).1, (segments [] rest).2)
    else segments (part ++ [byte]) rest

theorem segments_append (part first second : Bytes) : segments part (first ++ second) =
    ((segments part first).1 ++ (segments (segments part first).2 second).1,
      (segments (segments part first).2 second).2) := by
  induction first generalizing part with
  | nil => simp [segments]
  | cons byte rest ih =>
    rw [List.cons_append, segments, segments]
    split
    · rw [ih]
      rfl
    · rw [ih]

theorem segments_prefix (part rest : Bytes) :
    (∃ more, (segments part rest).2 = part ++ more) ∨
      ∃ more lines, (segments part rest).1 = (part ++ more) :: lines := by
  induction rest generalizing part with
  | nil => exact .inl ⟨[], by simp [segments]⟩
  | cons byte rest ih =>
    rw [segments]
    split
    · exact .inr ⟨[], _, by rw [List.append_nil]⟩
    · rcases ih (part ++ [byte]) with ⟨more, same⟩ | ⟨more, lines, same⟩
      · exact .inl ⟨byte :: more, by rw [same, List.append_assoc]; rfl⟩
      · exact .inr ⟨byte :: more, lines, by rw [same, List.append_assoc]; rfl⟩

/-- Nothing is left behind the last LF. -/
theorem segments_closed (stream : Bytes) :
    (segments [] stream).2 = [] ↔ stream = [] ∨ stream.getLast? = some LF := by
  have general : ∀ part, (segments part stream).2 = [] ↔
      (stream = [] ∧ part = []) ∨ stream.getLast? = some LF := by
    induction stream with
    | nil => simp [segments]
    | cons byte rest ih =>
      intro part
      rw [segments]
      split
      · rename_i isLF
        rw [ih]
        cases rest <;> simp [isLF]
      · rename_i notLF
        rw [ih]
        cases rest <;> simp [notLF]
  rw [general]
  simp

/-- What may wait for more bytes: a payload of legal size, or one byte more that is a carriage return. -/
def Fits (part : Bytes) : Prop :=
  part.length ≤ MAX_PROTOCOL_LINE_BYTES ∨
    (part.length = MAX_PROTOCOL_LINE_BYTES + 1 ∧ part.getLast? = some CR)

theorem getLast?_append_ite (pending part : Bytes) :
    (if part.length > 0 then part.getLast? else pending.getLast?) = (pending ++ part).getLast? := by
  cases part with
  | nil => simp
  | cons byte rest =>
    rw [if_pos (by simp), List.getLast?_append]
    cases last : (byte :: rest).getLast? with
    | none => simp at last
    | some byte => rfl

theorem appendPrefix_eq (pending part : Bytes) :
    (Fits (pending ++ part) ∧ appendPrefix pending part = .ok (pending ++ part)) ∨
      (¬ Fits (pending ++ part) ∧ ∃ err, appendPrefix pending part = .error err) := by
  have size : (pending ++ part).length = pending.length + part.length := List.length_append
  unfold appendPrefix Fits
  simp only [getLast?_append_ite, size]
  by_cases ends : (pending ++ part).getLast? = some CR
  · simp only [ends, ne_eq, not_true_eq_false, and_false, or_false, and_true]
    split
    · exact .inr ⟨by omega, _, rfl⟩
    · exact .inl ⟨by omega, rfl⟩
  · simp only [ends, ne_eq, not_false_eq_true, and_true, and_false, or_false]
    split
    · exact .inr ⟨by omega, _, rfl⟩
    · exact .inl ⟨by omega, rfl⟩

theorem stripCR_length (raw : Bytes) :
    (stripCR raw).length = raw.length - (if raw.getLast? = some CR then 1 else 0) := by
  unfold stripCR
  split <;> simp

section

variable (decode : Bytes → Option JsString)

/-- The text of a raw line, if the framing lets it through. -/
def lineText (raw : Bytes) : Option JsString :=
  if (stripCR raw).length ≤ MAX_PROTOCOL_LINE_BYTES then decode (stripCR raw) else none

/-- The texts of the lines before the first that is not let through. -/
def validTexts : List Bytes → List JsString
  | [] => []
  | raw :: rest =>
    match lineText decode raw with
    | some text => text :: validTexts rest
    | none => []

/-- Every line is let through and none is left open. -/
def Accepted (part stream : Bytes) : Prop :=
  (∀ raw ∈ (segments part stream).1, (lineText decode raw).isSome = true) ∧ (segments part stream).2 = []

/-- At a newline the framing lets through what `lineText` does. -/
theorem completeLine_eq (pending part : Bytes) :
    (∃ text, lineText decode (pending ++ part) = some text ∧ completeLine decode pending part = .ok text) ∨
      (lineText decode (pending ++ part) = none ∧ ∃ err, completeLine decode pending part = .error err) := by
  have last := getLast?_append_ite pending part
  have size := stripCR_length (pending ++ part)
  rw [List.length_append] at size
  have ends : (if part.length > 0 then part.getLast? = some CR else pending.getLast? = some CR) =
      ((pending ++ part).getLast? = some CR) := by
    rw [← last]
    split <;> rfl
  unfold completeLine lineText
  simp only [ends, ← size]
  by_cases short : (stripCR (pending ++ part)).length ≤ MAX_PROTOCOL_LINE_BYTES
  · simp only [if_pos short, if_neg (Nat.not_lt.mpr short), decodePayload]
    cases decode (stripCR (pending ++ part)) with
    | some text => exact .inl ⟨text, rfl, rfl⟩
    | none => exact .inr ⟨rfl, _, rfl⟩
  · simp only [if_neg short, if_pos (Nat.not_le.mp short)]
    exact .inr ⟨True.intro, _, rfl⟩

/-- A chunk passes when its lines do and its tail fits; otherwise the whole chunk is refused. -/
theorem scanChunk_eq (chunk : Bytes) : ∀ pending part : Bytes,
    (∃ completed, scanChunk decode pending part chunk = .ok (completed, (segments (pending ++ part) chunk).2) ∧
      (segments (pending ++ part) chunk).1.map (lineText decode) = completed.map some ∧
      Fits (segments (pending ++ part) chunk).2) ∨
    ((∃ err, scanChunk decode pending part chunk = .error err) ∧
      ((∃ raw ∈ (segments (pending ++ part) chunk).1, lineText decode raw = none) ∨
        ¬ Fits (segments (pending ++ part) chunk).2)) := by
  induction chunk with
  | nil =>
    intro pending part
    rcases appendPrefix_eq pending part with ⟨fits, appended⟩ | ⟨unfit, err, refused⟩
    · exact .inl ⟨[], by simp only [scanChunk, appended]; rfl, rfl, fits⟩
    · exact .inr ⟨⟨err, by simp only [scanChunk, refused]; rfl⟩, .inr unfit⟩
  | cons byte rest ih =>
    intro pending part
    rw [scanChunk, segments]
    split
    · rcases completeLine_eq decode pending part with ⟨text, valid, completed⟩ | ⟨invalid, err, refused⟩
      · rw [completed]
        by_cases ended : rest = []
        · subst ended
          refine .inl ⟨[text], rfl, ?_, .inl (Nat.zero_le _)⟩
          simp [segments, valid]
        · rcases ih [] [] with ⟨lines, scanned, texts, fits⟩ | ⟨⟨err, refused⟩, reason⟩
          · refine .inl ⟨text :: lines, ?_, ?_, fits⟩
            · simp only [ended, ↓reduceIte, scanned]
              rfl
            · simp only [List.map_cons, valid]
              exact congrArg _ texts
          · refine .inr ⟨⟨err, ?_⟩, reason.imp ?_ id⟩
            · simp only [ended, ↓reduceIte, refused]
              rfl
            · rintro ⟨raw, member, invalid⟩
              exact ⟨raw, List.mem_cons_of_mem _ member, invalid⟩
      · rw [refused]
        exact .inr ⟨⟨err, rfl⟩, .inl ⟨_, List.mem_cons_self, invalid⟩⟩
    · rw [List.append_assoc]
      exact ih pending (part ++ [byte])

theorem lineText_unfit {part : Bytes} (unfit : ¬ Fits part) (more : Bytes) : lineText decode (part ++ more) = none := by
  have size := stripCR_length (part ++ more)
  rw [List.length_append] at size
  unfold Fits at unfit
  rw [lineText, if_neg]
  cases more with
  | nil =>
    rw [List.append_nil] at size ⊢
    split at size
    · rename_i ends
      simp only [ends, and_true] at unfit
      simp only [List.length_nil] at size
      omega
    · simp only [List.length_nil] at size
      omega
  | cons byte rest =>
    rw [List.length_cons] at size
    split at size <;> omega

/-- Nothing that follows makes a refused stream acceptable. -/
theorem refused_for_good {stream : Bytes}
    (reason : (∃ raw ∈ (segments [] stream).1, lineText decode raw = none) ∨ ¬ Fits (segments [] stream).2)
    (more : Bytes) : ¬ Accepted decode [] (stream ++ more) := by
  rintro ⟨each, closed⟩
  rw [segments_append] at each closed
  rcases reason with ⟨raw, member, invalid⟩ | unfit
  · have valid := each raw (List.mem_append_left _ member)
    rw [invalid] at valid
    cases valid
  · rcases segments_prefix (segments [] stream).2 more with ⟨tail, rest⟩ | ⟨tail, lines, next⟩
    · simp only [rest, List.append_eq_nil_iff] at closed
      exact unfit (.inl (by rw [closed.1]; exact Nat.zero_le _))
    · have valid := each _ (List.mem_append_right _ (next ▸ List.mem_cons_self))
      rw [lineText_unfit decode unfit tail] at valid
      cases valid

theorem validTexts_append {lines : List Bytes} {texts : List JsString}
    (valid : lines.map (lineText decode) = texts.map some) (more : List Bytes) :
    validTexts decode (lines ++ more) = texts ++ validTexts decode more := by
  induction lines generalizing texts with
  | nil =>
    cases texts with
    | nil => rfl
    | cons text rest => cases valid
  | cons raw rest ih =>
    cases texts with
    | nil => cases valid
    | cons text texts =>
      obtain ⟨first, later⟩ := List.cons.inj valid
      rw [List.cons_append, validTexts, first, List.cons_append, ih later]

end

end Mirror.Transport
