import MirrorECMA.Transport.Framing

namespace Mirror.Transport

open ECMA

/-- The answer to a pull when the stream has these lines and then ends. -/
def outcomeAt (lines : List JsString) (pull : Nat) : Outcome :=
  match lines[pull]? with
  | some line => .value line
  | none => .done

def settledBy (outcome : Nat → Outcome) (pulls : Nat) : List (Nat × Outcome) :=
  (List.range pulls).map fun pull => (pull, outcome pull)

theorem settledBy_succ (outcome : Nat → Outcome) (pulls : Nat) :
    settledBy outcome (pulls + 1) = settledBy outcome pulls ++ [(pulls, outcome pulls)] := by
  simp [settledBy, List.range_succ]

theorem settledBy_congr {first second : Nat → Outcome} {pulls : Nat}
    (same : ∀ pull, pull < pulls → first pull = second pull) : settledBy first pulls = settledBy second pulls :=
  List.map_congr_left fun pull member => by rw [same pull (List.mem_range.mp member)]

theorem settledBy_range' (outcome : Nat → Outcome) (first count : Nat) :
    settledBy outcome (first + count) =
      settledBy outcome first ++ (List.range' first count).map fun pull => (pull, outcome pull) := by
  rw [settledBy, settledBy, List.range_add, List.map_append, List.range'_eq_map_range]

/-- The iterator after these lines and so many pulls, while the stream goes on. -/
def openSink (lines : List JsString) (pulls : Nat) : Sink where
  buffer := lines.drop pulls
  waiters := List.range' lines.length (pulls - lines.length)
  settled := settledBy (outcomeAt lines) (min pulls lines.length)

def doneSink (lines : List JsString) (pulls : Nat) : Sink where
  buffer := lines.drop pulls
  closed := true
  settled := settledBy (outcomeAt lines) pulls

/-- The iterator failed after `delivered` pulls had been answered with a line. -/
def failedSink (lines : List JsString) (delivered : Nat) (err : JsString) (pulls : Nat) : Sink where
  closed := true
  failure := some err
  settled := settledBy (fun pull => if pull < delivered then outcomeAt lines pull else .rejected err) pulls

theorem outcomeAt_append {lines more : List JsString} {pull : Nat} (bound : pull < lines.length) :
    outcomeAt (lines ++ more) pull = outcomeAt lines pull := by
  rw [outcomeAt, outcomeAt, List.getElem?_append_left bound]

theorem outcomeAt_length (lines : List JsString) (line : JsString) :
    outcomeAt (lines ++ [line]) lines.length = .value line := by
  simp [outcomeAt]

theorem emit_openSink (lines : List JsString) (line : JsString) (pulls : Nat) :
    (openSink lines pulls).emit line = openSink (lines ++ [line]) pulls := by
  by_cases waiting : lines.length < pulls
  · obtain ⟨extra, rfl⟩ : ∃ extra, pulls = lines.length + 1 + extra := ⟨pulls - lines.length - 1, by omega⟩
    have first : lines.length + 1 + extra - lines.length = extra + 1 := by omega
    have size : (lines ++ [line]).length = lines.length + 1 := by simp
    have count : lines.length + 1 + extra - (lines.length + 1) = extra := by omega
    have settled : settledBy (outcomeAt (lines ++ [line])) (lines.length + 1) =
        settledBy (outcomeAt lines) lines.length ++ [(lines.length, .value line)] := by
      rw [settledBy_succ, outcomeAt_length, settledBy_congr fun pull bound => outcomeAt_append bound]
    have below : min (lines.length + 1 + extra) lines.length = lines.length := by omega
    have reached : min (lines.length + 1 + extra) (lines.length + 1) = lines.length + 1 := by omega
    simp only [openSink, Sink.emit, first, size, count, List.range'_succ, below, reached, settled]
    rw [List.drop_eq_nil_of_le (by omega), List.drop_eq_nil_of_le (by simp)]
  · have empty : pulls - lines.length = 0 ∧ pulls - (lines ++ [line]).length = 0 := by
      simp only [List.length_append, List.length_singleton]
      omega
    have settled : settledBy (outcomeAt (lines ++ [line])) pulls = settledBy (outcomeAt lines) pulls :=
      settledBy_congr fun pull bound => outcomeAt_append (by omega)
    have reached : min pulls lines.length = pulls ∧ min pulls (lines ++ [line]).length = pulls := by
      simp only [List.length_append, List.length_singleton]
      omega
    simp only [openSink, Sink.emit, empty, List.range'_zero, reached, settled]
    rw [List.drop_append_of_le_length (by omega)]

theorem foldl_emit (more : List JsString) (pulls : Nat) : ∀ lines,
    more.foldl Sink.emit (openSink lines pulls) = openSink (lines ++ more) pulls := by
  induction more with
  | nil => simp
  | cons line rest ih =>
    intro lines
    rw [List.foldl_cons, emit_openSink, ih, List.append_assoc]
    rfl

theorem pull_openSink (lines : List JsString) (pulls : Nat) :
    (openSink lines pulls).pull pulls = openSink lines (pulls + 1) := by
  by_cases ready : pulls < lines.length
  · have settled : settledBy (outcomeAt lines) (min pulls lines.length) ++ [(pulls, .value lines[pulls])] =
        settledBy (outcomeAt lines) (min (pulls + 1) lines.length) := by
      rw [Nat.min_eq_left (by omega), Nat.min_eq_left (by omega), settledBy_succ, outcomeAt,
        List.getElem?_eq_getElem ready]
    have empty : pulls - lines.length = 0 ∧ pulls + 1 - lines.length = 0 := by omega
    simp only [openSink, Sink.pull, List.drop_eq_getElem_cons ready, settled, empty]
  · obtain ⟨extra, rfl⟩ : ∃ extra, pulls = lines.length + extra := ⟨pulls - lines.length, by omega⟩
    have shift : lines.length + extra + 1 - lines.length = extra + 1 := by omega
    have reached : min (lines.length + extra) lines.length = lines.length ∧
        min (lines.length + extra + 1) lines.length = lines.length := by omega
    simp only [openSink, Sink.pull, List.drop_eq_nil_of_le (show lines.length ≤ lines.length + extra by omega),
      List.drop_eq_nil_of_le (show lines.length ≤ lines.length + extra + 1 by omega), Bool.false_eq_true, ↓reduceIte,
      Nat.add_sub_cancel_left, shift, reached, List.range'_concat, Nat.one_mul]

theorem finish_openSink (lines : List JsString) (pulls : Nat) :
    (openSink lines pulls).finish = doneSink lines pulls := by
  have rest : (List.range' lines.length (pulls - lines.length)).map (fun pull => (pull, Outcome.done)) =
      (List.range' lines.length (pulls - lines.length)).map fun pull => (pull, outcomeAt lines pull) := by
    refine List.map_congr_left fun pull member => ?_
    have bound := (List.mem_range'_1.mp member).1
    rw [outcomeAt, List.getElem?_eq_none bound]
  have settled : settledBy (outcomeAt lines) (min pulls lines.length) ++
      (List.range' lines.length (pulls - lines.length)).map (fun pull => (pull, outcomeAt lines pull)) =
      settledBy (outcomeAt lines) pulls := by
    by_cases ready : pulls ≤ lines.length
    · rw [Nat.min_eq_left ready, Nat.sub_eq_zero_of_le ready]
      simp
    · rw [Nat.min_eq_right (by omega), ← settledBy_range', Nat.add_sub_cancel' (by omega)]
  simp only [openSink, Sink.finish, doneSink, Bool.false_eq_true, ↓reduceIte, rest, settled]

theorem pull_doneSink (lines : List JsString) (pulls : Nat) :
    (doneSink lines pulls).pull pulls = doneSink lines (pulls + 1) := by
  by_cases ready : pulls < lines.length
  · simp only [doneSink, Sink.pull, List.drop_eq_getElem_cons ready, settledBy_succ, outcomeAt,
      List.getElem?_eq_getElem ready]
  · simp only [doneSink, Sink.pull, List.drop_eq_nil_of_le (show lines.length ≤ pulls by omega),
      List.drop_eq_nil_of_le (show lines.length ≤ pulls + 1 by omega), ↓reduceIte, settledBy_succ, outcomeAt,
      List.getElem?_eq_none (show lines.length ≤ pulls by omega)]

theorem fail_openSink (lines : List JsString) (err : JsString) (pulls : Nat) :
    (openSink lines pulls).fail err = failedSink lines (min pulls lines.length) err pulls := by
  have settled : settledBy (outcomeAt lines) (min pulls lines.length) ++
      (List.range' lines.length (pulls - lines.length)).map (fun pull => (pull, Outcome.rejected err)) =
      settledBy (fun pull => if pull < min pulls lines.length then outcomeAt lines pull else .rejected err) pulls := by
    by_cases ready : pulls ≤ lines.length
    · rw [Nat.min_eq_left ready, Nat.sub_eq_zero_of_le ready, List.range'_zero, List.map_nil, List.append_nil]
      exact settledBy_congr fun pull bound => by rw [if_pos bound]
    · rw [Nat.min_eq_right (by omega)]
      conv => rhs; rw [← Nat.add_sub_cancel' (show lines.length ≤ pulls by omega), settledBy_range']
      refine congr (congrArg _ (settledBy_congr fun pull bound => by rw [if_pos bound])) ?_
      refine List.map_congr_left fun pull member => ?_
      rw [if_neg (Nat.not_lt.mpr (List.mem_range'_1.mp member).1)]
  simp only [openSink, Sink.fail, failedSink, Bool.false_eq_true, ↓reduceIte, settled]

theorem pull_failedSink {lines : List JsString} {delivered pulls : Nat} (err : JsString) (bound : delivered ≤ pulls) :
    (failedSink lines delivered err pulls).pull pulls = failedSink lines delivered err (pulls + 1) := by
  simp only [failedSink, Sink.pull, settledBy_succ, if_neg (Nat.not_lt.mpr bound)]

def answeredLine (answer : Nat × Outcome) : Option JsString :=
  match answer.2 with
  | .value line => some line
  | _ => none

theorem answered_lines {lines : List JsString} {count : Nat} (enough : count ≤ lines.length) :
    (settledBy (outcomeAt lines) count).filterMap answeredLine = lines.take count := by
  induction count with
  | zero => rfl
  | succ count ih =>
    rw [settledBy_succ, List.filterMap_append, ih (by omega), List.take_add_one, outcomeAt]
    simp [answeredLine, List.getElem?_eq_getElem (show count < lines.length by omega)]

end Mirror.Transport
