import MirrorECMA.Transport.Chunks
import MirrorECMA.Transport.LineIterator

namespace Mirror.Transport

open ECMA

def Event.bytes : Event → Bytes
  | .data chunk => chunk
  | _ => []

/-- The bytes of the stream, whatever their chunks. -/
def received (events : List Event) : Bytes := events.flatMap Event.bytes

/-- A chunk or a pull: what happens before the stream ends. -/
def Inbound (event : Event) : Prop := (∃ chunk, event = .data chunk) ∨ event = .next

section

variable (decode : Bytes → Option JsString)

/-- The texts of the lines of a stream that is let through. -/
def texts (stream : Bytes) : List JsString := validTexts decode (segments [] stream).1

def Live (stream : Bytes) (reader : Reader) : Prop :=
  ∃ lines, (segments [] stream).1.map (lineText decode) = lines.map some ∧ Fits (segments [] stream).2 ∧
    reader = { pending := (segments [] stream).2, sink := openSink lines reader.pulls, pulls := reader.pulls }

/-- The framing error is out: only lines before the violation were delivered, and nothing will be. -/
structure Failed (lines : List JsString) (delivered : Nat) (err : JsString) (reader : Reader) : Prop where
  terminal : reader.terminal = true
  fatal : reader.fatal = 1
  bound : delivered ≤ lines.length ∧ delivered ≤ reader.pulls
  sink : reader.sink = failedSink lines delivered err reader.pulls

structure Finished (lines : List JsString) (reader : Reader) : Prop where
  terminal : reader.terminal = true
  fatal : reader.fatal = 0
  sink : reader.sink = doneSink lines reader.pulls

theorem Failed.step {lines : List JsString} {delivered : Nat} {err : JsString} {reader : Reader}
    (failed : Failed lines delivered err reader) (event : Event) :
    Failed lines delivered err (step decode reader event) := by
  obtain ⟨terminal, fatal, bound, sink⟩ := failed
  have unchanged : Failed lines delivered err reader := ⟨terminal, fatal, bound, sink⟩
  cases event with
  | data chunk => simpa only [Transport.step, Reader.onData, terminal, ↓reduceIte] using unchanged
  | «end» => simpa only [Transport.step, Reader.onEnd, terminal, ↓reduceIte] using unchanged
  | close => simpa only [Transport.step, Reader.onClose, terminal, ↓reduceIte] using unchanged
  | error => simpa only [Transport.step, Reader.onClose, terminal, ↓reduceIte] using unchanged
  | next =>
    refine ⟨terminal, fatal, ⟨bound.1, Nat.le_succ_of_le bound.2⟩, ?_⟩
    simp only [Transport.step, Reader.next, sink, pull_failedSink err bound.2]

theorem Finished.step {lines : List JsString} {reader : Reader} (finished : Finished lines reader) (event : Event) :
    Finished lines (step decode reader event) := by
  obtain ⟨terminal, fatal, sink⟩ := finished
  have unchanged : Finished lines reader := ⟨terminal, fatal, sink⟩
  cases event with
  | data chunk => simpa only [Transport.step, Reader.onData, terminal, ↓reduceIte] using unchanged
  | «end» => simpa only [Transport.step, Reader.onEnd, terminal, ↓reduceIte] using unchanged
  | close => simpa only [Transport.step, Reader.onClose, terminal, ↓reduceIte] using unchanged
  | error => simpa only [Transport.step, Reader.onClose, terminal, ↓reduceIte] using unchanged
  | next =>
    refine ⟨terminal, fatal, ?_⟩
    simp only [Transport.step, Reader.next, sink, pull_doneSink]

theorem Failed.foldl {lines : List JsString} {delivered : Nat} {err : JsString} (events : List Event) :
    ∀ {reader : Reader}, Failed lines delivered err reader →
      Failed lines delivered err (events.foldl (Transport.step decode) reader) := by
  induction events with
  | nil => exact id
  | cons event rest ih => exact fun failed => ih (failed.step decode event)

theorem Finished.foldl {lines : List JsString} (events : List Event) :
    ∀ {reader : Reader}, Finished lines reader → Finished lines (events.foldl (Transport.step decode) reader) := by
  induction events with
  | nil => exact id
  | cons event rest ih => exact fun finished => ih (finished.step decode event)

/-- A violation whose report came with lines that the stream begins with, whatever follows. -/
def Dead (stream : Bytes) (reader : Reader) : Prop :=
  ∃ lines delivered err, Failed lines delivered err reader ∧
    ∀ more, ¬ Accepted decode [] (stream ++ more) ∧ lines <+: texts decode (stream ++ more)

theorem Live.onData {stream : Bytes} {reader : Reader} (live : Live decode stream reader) (chunk : Bytes) :
    Live decode (stream ++ chunk) (reader.onData decode chunk) ∨
      Dead decode (stream ++ chunk) (reader.onData decode chunk) := by
  obtain ⟨lines, valid, fits, same⟩ := live
  have split := segments_append [] stream chunk
  have closed : reader.terminal = false := by rw [same]
  have pending : reader.pending = (segments [] stream).2 := by rw [same]
  rcases scanChunk_eq decode chunk (segments [] stream).2 [] with
    ⟨completed, scanned, more, fitsMore⟩ | ⟨⟨err, refused⟩, reason⟩
  · rw [List.append_nil] at scanned more fitsMore
    refine .inl ⟨lines ++ completed, ?_, by rw [split]; exact fitsMore, ?_⟩
    · rw [split, List.map_append, valid, more, List.map_append]
    · rw [same]
      simp only [Reader.onData, Bool.false_eq_true, ↓reduceIte, scanned, foldl_emit, split]
  · rw [List.append_nil] at reason
    refine .inr ⟨lines, min reader.pulls lines.length, err, ?_, fun more => ⟨?_, ?_⟩⟩
    · rw [same]
      simp only [Reader.onData, Reader.stop, Bool.false_eq_true, ↓reduceIte, refused, fail_openSink]
      exact ⟨rfl, rfl, ⟨Nat.min_le_right _ _, Nat.min_le_left _ _⟩, rfl⟩
    · refine refused_for_good decode ?_ more
      rw [split]
      exact reason.imp (fun ⟨raw, member, invalid⟩ => ⟨raw, List.mem_append_right _ member, invalid⟩) id
    · rw [texts, List.append_assoc, segments_append, validTexts_append decode valid]
      exact List.prefix_append _ _

theorem Live.next {stream : Bytes} {reader : Reader} (live : Live decode stream reader) :
    Live decode stream reader.next := by
  obtain ⟨lines, valid, fits, same⟩ := live
  refine ⟨lines, valid, fits, ?_⟩
  rw [same]
  simp only [Reader.next, pull_openSink]

theorem Dead.append {stream : Bytes} {reader : Reader} (dead : Dead decode stream reader) (chunk : Bytes)
    (event : Event) : Dead decode (stream ++ chunk) (step decode reader event) := by
  obtain ⟨lines, delivered, err, failed, refused⟩ := dead
  refine ⟨lines, delivered, err, failed.step decode event, fun more => ?_⟩
  rw [List.append_assoc]
  exact refused (chunk ++ more)

theorem foldl_inbound {events : List Event} (inbound : ∀ event ∈ events, Inbound event) :
    ∀ {stream : Bytes} {reader : Reader}, Live decode stream reader ∨ Dead decode stream reader →
      Live decode (stream ++ received events) (events.foldl (step decode) reader) ∨
        Dead decode (stream ++ received events) (events.foldl (step decode) reader) := by
  induction events with
  | nil => simp [received]
  | cons event rest ih =>
    intro stream reader state
    have later : ∀ event ∈ rest, Inbound event := fun other member => inbound other (List.mem_cons_of_mem _ member)
    have shape : stream ++ received (event :: rest) = stream ++ event.bytes ++ received rest := by
      simp [received]
    rw [shape, List.foldl_cons]
    refine ih later ?_
    rcases state with live | dead
    · rcases inbound event List.mem_cons_self with ⟨chunk, rfl⟩ | rfl
      · exact live.onData decode chunk
      · simp only [Event.bytes, List.append_nil]
        exact .inl (live.next decode)
    · exact .inr (dead.append decode event.bytes event)

theorem live_start : Live decode [] {} :=
  ⟨[], rfl, .inl (Nat.zero_le _), by simp [segments, openSink, settledBy]⟩

theorem run_inbound {events : List Event} (inbound : ∀ event ∈ events, Inbound event) :
    Live decode (received events) (run decode events) ∨ Dead decode (received events) (run decode events) :=
  foldl_inbound decode inbound (.inl (live_start decode))

theorem texts_of_valid {stream : Bytes} {lines : List JsString}
    (valid : (segments [] stream).1.map (lineText decode) = lines.map some) : texts decode stream = lines := by
  have whole := validTexts_append decode valid []
  rw [List.append_nil] at whole
  rw [texts, whole, validTexts, List.append_nil]

theorem Live.onEnd {stream : Bytes} {reader : Reader} (live : Live decode stream reader) :
    (Accepted decode [] stream ∧ Finished (texts decode stream) reader.onEnd) ∨
      (¬ Accepted decode [] stream ∧ ∃ delivered err, Failed (texts decode stream) delivered err reader.onEnd) := by
  obtain ⟨lines, valid, fits, same⟩ := live
  rw [texts_of_valid decode valid]
  by_cases ended : (segments [] stream).2 = []
  · refine .inl ⟨⟨fun raw member => ?_, ended⟩, ?_⟩
    · have mapped : lineText decode raw ∈ lines.map some := valid ▸ List.mem_map_of_mem member
      obtain ⟨text, -, found⟩ := List.mem_map.mp mapped
      rw [← found]
      rfl
    · rw [same]
      simp only [Reader.onEnd, Bool.false_eq_true, ↓reduceIte, ended, List.length_nil, gt_iff_lt, Nat.lt_irrefl,
        finish_openSink]
      exact ⟨rfl, rfl, rfl⟩
  · refine .inr ⟨fun accepted => ended accepted.2, min reader.pulls lines.length,
      framingError (js "protocol line is not terminated by LF before EOF"), ?_⟩
    rw [same]
    simp only [Reader.onEnd, Reader.stop, Bool.false_eq_true, ↓reduceIte, gt_iff_lt,
      List.length_pos_iff.mpr ended, fail_openSink]
    exact ⟨rfl, rfl, ⟨Nat.min_le_right _ _, Nat.min_le_left _ _⟩, rfl⟩

/-- How a stream ends, whatever its chunks and whenever its lines were asked for. -/
theorem run_ended {events : List Event} (inbound : ∀ event ∈ events, Inbound event) (after : List Event) :
    (Accepted decode [] (received events) ∧
      Finished (texts decode (received events)) (run decode (events ++ .end :: after))) ∨
    (¬ Accepted decode [] (received events) ∧ ∃ lines delivered err,
      Failed lines delivered err (run decode (events ++ .end :: after)) ∧ lines <+: texts decode (received events)) := by
  have shape : run decode (events ++ .end :: after) =
      after.foldl (step decode) (step decode (run decode events) .end) := by
    simp [run]
  rw [shape]
  rcases run_inbound decode inbound with live | ⟨lines, delivered, err, failed, refused⟩
  · rcases live.onEnd decode with ⟨accepted, finished⟩ | ⟨refused, delivered, err, failed⟩
    · exact .inl ⟨accepted, finished.foldl decode after⟩
    · exact .inr ⟨refused, _, delivered, err, failed.foldl decode after, List.prefix_refl _⟩
  · have here := refused []
    rw [List.append_nil] at here
    exact .inr ⟨here.1, lines, delivered, err, (failed.step decode .end).foldl decode after, here.2⟩

/-- A reader is open, or ended well, or failed. -/
def Known (reader : Reader) : Prop :=
  (∃ stream, Live decode stream reader) ∨ (∃ lines, Finished lines reader) ∨
    ∃ lines delivered err, Failed lines delivered err reader

theorem Live.onClose {stream : Bytes} {reader : Reader} (live : Live decode stream reader) :
    ∃ lines, Finished lines reader.onClose := by
  obtain ⟨lines, -, -, same⟩ := live
  refine ⟨lines, ?_⟩
  rw [same]
  simp only [Reader.onClose, Bool.false_eq_true, ↓reduceIte, finish_openSink]
  exact ⟨rfl, rfl, rfl⟩

theorem Known.step {reader : Reader} (known : Known decode reader) (event : Event) :
    Known decode (step decode reader event) := by
  rcases known with ⟨stream, live⟩ | ⟨lines, finished⟩ | ⟨lines, delivered, err, failed⟩
  · cases event with
    | data chunk =>
      rcases live.onData decode chunk with more | ⟨lines, delivered, err, failed, -⟩
      · exact .inl ⟨_, more⟩
      · exact .inr (.inr ⟨lines, delivered, err, failed⟩)
    | «end» =>
      rcases live.onEnd decode with ⟨-, finished⟩ | ⟨-, delivered, err, failed⟩
      · exact .inr (.inl ⟨_, finished⟩)
      · exact .inr (.inr ⟨_, delivered, err, failed⟩)
    | close => exact .inr (.inl (live.onClose decode))
    | error => exact .inr (.inl (live.onClose decode))
    | next => exact .inl ⟨stream, live.next decode⟩
  · exact .inr (.inl ⟨lines, finished.step decode event⟩)
  · exact .inr (.inr ⟨lines, delivered, err, failed.step decode event⟩)

theorem run_known (events : List Event) : Known decode (run decode events) := by
  have fold : ∀ (events : List Event) (reader : Reader), Known decode reader →
      Known decode (events.foldl (Transport.step decode) reader) := by
    intro events
    induction events with
    | nil => exact fun _ => id
    | cons event rest ih => exact fun reader known => ih _ (known.step decode event)
  exact fold events {} (.inl ⟨[], live_start decode⟩)

/-- The lines the consumer has been given. -/
def delivered (reader : Reader) : List JsString := reader.sink.settled.filterMap answeredLine

theorem Failed.delivered_eq {lines : List JsString} {count : Nat} {err : JsString} {reader : Reader}
    (failed : Failed lines count err reader) : delivered reader = lines.take count := by
  obtain ⟨-, -, ⟨enough, reached⟩, sink⟩ := failed
  obtain ⟨extra, pulls⟩ := Nat.exists_eq_add_of_le reached
  rw [delivered, sink, failedSink, pulls]
  clear pulls reached sink
  induction extra with
  | zero =>
    rw [Nat.add_zero, settledBy_congr fun pull bound => if_pos bound]
    exact answered_lines enough
  | succ extra ih =>
    rw [← Nat.add_assoc, settledBy_succ, List.filterMap_append, ih, if_neg (by omega)]
    simp [answeredLine]

theorem failed_of_failure {reader : Reader} (known : Known decode reader) (failure : reader.sink.failure.isSome = true) :
    ∃ lines count err, Failed lines count err reader := by
  rcases known with ⟨stream, lines, -, -, same⟩ | ⟨lines, finished⟩ | failed
  · rw [same] at failure
    cases failure
  · rw [finished.sink] at failure
    cases failure
  · exact failed

/-- Once the framing has failed no event delivers a line or reports again. -/
theorem nothing_after_failure (early late : List Event) (failure : (run decode early).sink.failure.isSome = true) :
    delivered (run decode (early ++ late)) = delivered (run decode early) ∧
      (run decode (early ++ late)).fatal = 1 := by
  obtain ⟨lines, count, err, failed⟩ := failed_of_failure decode (run_known decode early) failure
  have later : Failed lines count err (run decode (early ++ late)) := by
    rw [run, List.foldl_append]
    exact failed.foldl decode late
  exact ⟨later.delivered_eq.trans failed.delivered_eq.symm, later.fatal⟩

/-- The lines of a stream without a violation: each ends in LF, loses at most one carriage return, fits the limit and
is UTF-8. -/
def WellFramed (stream : Bytes) (lines : List JsString) : Prop :=
  (segments [] stream).1.map (fun raw => decode (stripCR raw)) = lines.map some ∧
    (∀ raw ∈ (segments [] stream).1, (stripCR raw).length ≤ 65535) ∧ (stream = [] ∨ stream.getLast? = some LF)

theorem accepted_wellFramed {stream : Bytes} (accepted : Accepted decode [] stream) :
    WellFramed decode stream (texts decode stream) := by
  obtain ⟨each, closed⟩ := accepted
  refine ⟨?_, ?_, (segments_closed stream).mp closed⟩
  · rw [texts]
    generalize (segments [] stream).1 = raws at each
    induction raws with
    | nil => rfl
    | cons raw rest ih =>
      obtain ⟨first, later⟩ := List.forall_mem_cons.mp each
      obtain ⟨text, found⟩ := Option.isSome_iff_exists.mp first
      have decoded : decode (stripCR raw) = some text := by
        rw [lineText] at found
        split at found
        · exact found
        · cases found
      rw [validTexts, found, List.map_cons, List.map_cons, decoded, ih later]
  · intro raw member
    have valid := each raw member
    rw [lineText] at valid
    split at valid
    · assumption
    · cases valid

end

/-- `TextDecoder` on the bytes it shares with ASCII. -/
def asciiText (bytes : Bytes) : Option JsString :=
  if bytes.all (fun byte => byte.toNat < 0x80) then some (bytes.map fun byte => byte.setWidth 16) else none

example : (run asciiText [.data [0x61], .next, .data [CR], .data [LF], .end, .next]).sink.settled =
    [(0, .value (js "a")), (1, .done)] := by decide

end Mirror.Transport
