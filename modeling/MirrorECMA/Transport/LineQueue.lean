import MirrorECMA.Transport.LineIterator

namespace Mirror.Transport

open ECMA

/-- The calls on a `lineIterator`. -/
inductive Call where
  | emit (line : JsString)
  | pull
  | finish
  | fail (err : JsString)
  deriving DecidableEq

/-- A line iterator and how often it was pulled; a pull is known by its number. -/
structure LineQueue where
  sink : Sink := {}
  pulls : Nat := 0

namespace LineQueue

def step (queue : LineQueue) : Call → LineQueue
  | .emit line => { queue with sink := queue.sink.emit line }
  | .pull => { sink := queue.sink.pull queue.pulls, pulls := queue.pulls + 1 }
  | .finish => { queue with sink := queue.sink.finish }
  | .fail err => { queue with sink := queue.sink.fail err }

def run (calls : List Call) : LineQueue := calls.foldl step {}

/-- The lines that were delivered, each with the pull it went to. -/
def deliveries (queue : LineQueue) : List (JsString × Nat) :=
  queue.sink.settled.filterMap fun answer => (answeredLine answer).map fun line => (line, answer.1)

end LineQueue

def Call.Closes : Call → Prop
  | .finish | .fail _ => True
  | _ => False

def Call.line? : Call → Option JsString
  | .emit line => some line
  | _ => none

def emitted (calls : List Call) : List JsString := calls.filterMap Call.line?

/-- Neither `finish` nor `fail` has been called. -/
def Quiet (calls : List Call) : Prop := ∀ call ∈ calls, ¬ call.Closes

/-- What the caller guarantees: `emit` is not called after `finish` or `fail`. -/
def Ordered (calls : List Call) : Prop := ∀ before line after, calls = before ++ .emit line :: after → Quiet before

/-- Line number `n` goes to pull number `n`, no pull is settled twice or forgotten, and lines and pulls do not wait for
each other. -/
structure Discipline (lines : List JsString) (queue : LineQueue) : Prop where
  requests : queue.sink.settled.map Prod.fst ++ queue.sink.waiters = List.range queue.pulls
  delivered : queue.deliveries <+: lines.zipIdx
  kept : queue.sink.failure = none → queue.deliveries.map Prod.fst ++ queue.sink.buffer = lines
  exclusive : queue.sink.buffer = [] ∨ queue.sink.waiters = []

/-- The lines are delivered, and every pull after them reports the end. -/
structure Drained (lines : List JsString) (queue : LineQueue) : Prop where
  settled : queue.sink.settled = settledBy (outcomeAt lines) queue.pulls
  waiters : queue.sink.waiters = []

/-- Every pull that was not settled before is rejected with the error. -/
structure Rejected (earlier : List (Nat × Outcome)) (err : JsString) (queue : LineQueue) : Prop where
  settled : queue.sink.settled =
    earlier ++ ((List.range queue.pulls).drop earlier.length).map fun pull => (pull, .rejected err)
  waiters : queue.sink.waiters = []

section

variable {lines : List JsString} {calls before after : List Call} {err : JsString}

/-! ### The answers -/

theorem deliveries_settledBy {outcome : Nat → Outcome} {count : Nat} (enough : count ≤ lines.length)
    (lined : ∀ pull, pull < count → outcome pull = outcomeAt lines pull)
    (empty : ∀ pull, count ≤ pull → answeredLine (pull, outcome pull) = none) (pulls : Nat) :
    (settledBy outcome pulls).filterMap (fun answer => (answeredLine answer).map fun line => (line, answer.1)) =
      (lines.take (min pulls count)).zipIdx := by
  induction pulls with
  | zero => simp [settledBy]
  | succ pulls ih =>
    rw [settledBy_succ, List.filterMap_append, ih]
    by_cases ready : pulls < count
    · have inside : pulls < lines.length := by omega
      have first : min pulls count = pulls := by omega
      have next : min (pulls + 1) count = pulls + 1 := by omega
      rw [first, next, List.take_add_one, List.zipIdx_append, lined pulls ready, outcomeAt,
        List.getElem?_eq_getElem inside]
      simp [answeredLine, List.length_take, Nat.min_eq_left (Nat.le_of_lt inside)]
    · have same : min pulls count = count ∧ min (pulls + 1) count = count := by omega
      rw [same.1, same.2, List.filterMap_cons_none (by rw [empty pulls (by omega)]; rfl), List.filterMap_nil,
        List.append_nil]

theorem map_fst_settledBy (outcome : Nat → Outcome) (pulls : Nat) :
    (settledBy outcome pulls).map Prod.fst = List.range pulls := by
  simp [settledBy, Function.comp_def]

theorem take_zipIdx_prefix (lines : List JsString) (count : Nat) : (lines.take count).zipIdx <+: lines.zipIdx := by
  conv => rhs; rw [← List.take_append_drop count lines, List.zipIdx_append]
  exact List.prefix_append _ _

theorem deliveries_outcomeAt (lines : List JsString) (pulls : Nat) :
    (settledBy (outcomeAt lines) pulls).filterMap (fun answer => (answeredLine answer).map fun line => (line, answer.1)) =
      (lines.take pulls).zipIdx := by
  have ended (pull : Nat) (beyond : lines.length ≤ pull) : answeredLine (pull, outcomeAt lines pull) = none := by
    rw [outcomeAt, List.getElem?_eq_none beyond]
    rfl
  rw [deliveries_settledBy (Nat.le_refl _) (fun _ _ => rfl) ended pulls]
  by_cases few : pulls ≤ lines.length
  · rw [Nat.min_eq_left few]
  · rw [Nat.min_eq_right (by omega), List.take_of_length_le (by omega), List.take_of_length_le (by omega)]

theorem openSink_disciplined (lines : List JsString) (pulls : Nat) : Discipline lines ⟨openSink lines pulls, pulls⟩ := by
  have given : (⟨openSink lines pulls, pulls⟩ : LineQueue).deliveries = (lines.take (min pulls lines.length)).zipIdx :=
    deliveries_outcomeAt lines _
  have cut : lines.take (min pulls lines.length) = lines.take pulls := List.take_eq_take_min.symm
  constructor
  · change (settledBy (outcomeAt lines) (min pulls lines.length)).map Prod.fst ++
      List.range' lines.length (pulls - lines.length) = List.range pulls
    rw [map_fst_settledBy, List.range_eq_range', List.range_eq_range']
    by_cases ready : pulls ≤ lines.length
    · rw [Nat.min_eq_left ready, Nat.sub_eq_zero_of_le ready, List.range'_zero, List.append_nil]
    · have sum : pulls = lines.length + (pulls - lines.length) := by omega
      conv => rhs; rw [sum, ← List.range'_append_1, Nat.zero_add]
      rw [Nat.min_eq_right (by omega)]
  · rw [given]
    exact take_zipIdx_prefix _ _
  · intro _
    rw [given, cut, ← List.unzip_fst, List.unzip_zipIdx_eq_prod]
    exact List.take_append_drop pulls lines
  · by_cases ready : pulls ≤ lines.length
    · right
      change List.range' lines.length (pulls - lines.length) = []
      rw [Nat.sub_eq_zero_of_le ready, List.range'_zero]
    · left
      exact List.drop_eq_nil_of_le (by omega)

theorem doneSink_disciplined (lines : List JsString) (pulls : Nat) : Discipline lines ⟨doneSink lines pulls, pulls⟩ := by
  have given : (⟨doneSink lines pulls, pulls⟩ : LineQueue).deliveries = (lines.take pulls).zipIdx :=
    deliveries_outcomeAt lines pulls
  constructor
  · rw [show (doneSink lines pulls).waiters = [] from rfl, List.append_nil]
    exact map_fst_settledBy _ _
  · rw [given]
    exact take_zipIdx_prefix _ _
  · intro _
    rw [given, ← List.unzip_fst, List.unzip_zipIdx_eq_prod]
    exact List.take_append_drop pulls lines
  · exact .inr rfl

theorem failedSink_disciplined {delivered : Nat} (enough : delivered ≤ lines.length) (err : JsString) (pulls : Nat) :
    Discipline lines ⟨failedSink lines delivered err pulls, pulls⟩ := by
  constructor
  · rw [show (failedSink lines delivered err pulls).waiters = [] from rfl, List.append_nil]
    exact map_fst_settledBy _ _
  · let outcome : Nat → Outcome := fun pull => if pull < delivered then outcomeAt lines pull else .rejected err
    have given := deliveries_settledBy enough (show ∀ pull < delivered, outcome pull = outcomeAt lines pull from
      fun pull ready => if_pos ready) (fun pull late => by rw [show outcome pull = .rejected err from if_neg (by omega)]; rfl) pulls
    rw [LineQueue.deliveries, failedSink, given]
    exact take_zipIdx_prefix _ _
  · intro clean
    cases clean
  · exact .inl rfl

/-! ### The runs -/

theorem foldl_quiet (quiet : Quiet calls) : ∀ lines pulls, ∃ more,
    calls.foldl LineQueue.step ⟨openSink lines pulls, pulls⟩ = ⟨openSink (lines ++ emitted calls) more, more⟩ := by
  induction calls with
  | nil => exact fun lines pulls => ⟨pulls, by simp [emitted]⟩
  | cons call rest ih =>
    intro lines pulls
    have later := ih fun other member => quiet other (List.mem_cons_of_mem _ member)
    have here := quiet call List.mem_cons_self
    rw [List.foldl_cons]
    cases call with
    | emit line =>
      obtain ⟨more, shape⟩ := later (lines ++ [line]) pulls
      refine ⟨more, ?_⟩
      simp only [LineQueue.step, emit_openSink, shape]
      simp [emitted, Call.line?]
    | pull =>
      obtain ⟨more, shape⟩ := later lines (pulls + 1)
      refine ⟨more, ?_⟩
      simp only [LineQueue.step, pull_openSink, shape]
      rfl
    | finish => exact absurd trivial here
    | fail err => exact absurd trivial here

theorem run_quiet (quiet : Quiet calls) : ∃ pulls, LineQueue.run calls = ⟨openSink (emitted calls) pulls, pulls⟩ := by
  have start : ({} : LineQueue) = ⟨openSink [] 0, 0⟩ := by
    simp [openSink, settledBy]
  obtain ⟨pulls, shape⟩ := foldl_quiet quiet [] 0
  exact ⟨pulls, by rw [LineQueue.run, start, shape, List.nil_append]⟩

theorem foldl_done (silent : ∀ line, Call.emit line ∉ calls) : ∀ pulls, ∃ more,
    calls.foldl LineQueue.step ⟨doneSink lines pulls, pulls⟩ = ⟨doneSink lines more, more⟩ := by
  induction calls with
  | nil => exact fun pulls => ⟨pulls, rfl⟩
  | cons call rest ih =>
    intro pulls
    have later := ih fun line member => silent line (List.mem_cons_of_mem _ member)
    rw [List.foldl_cons]
    cases call with
    | emit line => exact absurd List.mem_cons_self (silent line)
    | pull =>
      simp only [LineQueue.step, pull_doneSink]
      exact later (pulls + 1)
    | finish => exact later pulls
    | fail err => exact later pulls

theorem foldl_failed {delivered : Nat} (silent : ∀ line, Call.emit line ∉ calls) : ∀ pulls, delivered ≤ pulls →
    ∃ more, delivered ≤ more ∧
      calls.foldl LineQueue.step ⟨failedSink lines delivered err pulls, pulls⟩ =
        ⟨failedSink lines delivered err more, more⟩ := by
  induction calls with
  | nil => exact fun pulls bound => ⟨pulls, bound, rfl⟩
  | cons call rest ih =>
    intro pulls bound
    have later := ih fun line member => silent line (List.mem_cons_of_mem _ member)
    rw [List.foldl_cons]
    cases call with
    | emit line => exact absurd List.mem_cons_self (silent line)
    | pull =>
      simp only [LineQueue.step, pull_failedSink err bound]
      exact later (pulls + 1) (by omega)
    | finish => exact later pulls bound
    | fail err => exact later pulls bound

theorem Ordered.silent {call : Call} (ordered : Ordered (before ++ call :: after)) (closes : call.Closes) :
    ∀ line, Call.emit line ∉ after := by
  intro line member
  obtain ⟨middle, rest, rfl⟩ := List.append_of_mem member
  have quiet := ordered (before ++ call :: middle) line rest (by simp)
  exact quiet call (by simp) closes

theorem emitted_closed {call : Call} (closes : call.Closes) (silent : ∀ line, Call.emit line ∉ after) :
    emitted (before ++ call :: after) = emitted before := by
  have none (other : Call) (member : other ∈ call :: after) : other.line? = none := by
    cases other with
    | emit line =>
      rcases List.mem_cons.mp member with rfl | late
      · exact closes.elim
      · exact absurd late (silent line)
    | pull => rfl
    | finish => rfl
    | fail err => rfl
  rw [emitted, emitted, List.filterMap_append, List.filterMap_eq_nil_iff.mpr none, List.append_nil]

theorem run_finished (quiet : Quiet before) (silent : ∀ line, Call.emit line ∉ after) :
    ∃ pulls, LineQueue.run (before ++ .finish :: after) = ⟨doneSink (emitted before) pulls, pulls⟩ := by
  obtain ⟨pulls, shape⟩ := run_quiet quiet
  rw [LineQueue.run] at shape
  rw [LineQueue.run, List.foldl_append, List.foldl_cons, shape]
  simp only [LineQueue.step, finish_openSink]
  exact foldl_done silent pulls

theorem run_failed (quiet : Quiet before) (silent : ∀ line, Call.emit line ∉ after) :
    ∃ pulls delivered more, LineQueue.run before = ⟨openSink (emitted before) pulls, pulls⟩ ∧
      delivered = min pulls (emitted before).length ∧ delivered ≤ more ∧
      LineQueue.run (before ++ .fail err :: after) = ⟨failedSink (emitted before) delivered err more, more⟩ := by
  obtain ⟨pulls, shape⟩ := run_quiet quiet
  have bound : min pulls (emitted before).length ≤ pulls := Nat.min_le_left _ _
  obtain ⟨more, beyond, last⟩ := @foldl_failed (emitted before) after err _ silent pulls bound
  refine ⟨pulls, _, more, shape, rfl, beyond, ?_⟩
  rw [LineQueue.run] at shape
  rw [LineQueue.run, List.foldl_append, List.foldl_cons, shape]
  simp only [LineQueue.step, fail_openSink]
  exact last

/-- Either nothing has closed the queue, or some call was the first to do it. -/
theorem quiet_or_closed (calls : List Call) : Quiet calls ∨
    ∃ before call after, calls = before ++ call :: after ∧ Quiet before ∧ call.Closes := by
  induction calls with
  | nil => exact .inl fun _ member => by cases member
  | cons call rest ih =>
    by_cases closes : call.Closes
    · exact .inr ⟨[], call, rest, rfl, (fun _ member => by cases member), closes⟩
    · rcases ih with quiet | ⟨before, later, after, rfl, quiet, closing⟩
      · exact .inl (List.forall_mem_cons.mpr ⟨closes, quiet⟩)
      · exact .inr ⟨call :: before, later, after, rfl, List.forall_mem_cons.mpr ⟨closes, quiet⟩, closing⟩

theorem run_disciplined (ordered : Ordered calls) : Discipline (emitted calls) (LineQueue.run calls) := by
  rcases quiet_or_closed calls with quiet | ⟨before, call, after, rfl, quiet, closes⟩
  · obtain ⟨pulls, shape⟩ := run_quiet quiet
    rw [shape]
    exact openSink_disciplined _ _
  · have silent := ordered.silent closes
    rw [emitted_closed closes silent]
    cases call with
    | emit line => exact closes.elim
    | pull => exact closes.elim
    | finish =>
      obtain ⟨pulls, shape⟩ := run_finished quiet silent
      rw [shape]
      exact doneSink_disciplined _ _
    | fail err =>
      obtain ⟨pulls, delivered, more, _, same, _, shape⟩ := @run_failed before after err quiet silent
      rw [shape]
      exact failedSink_disciplined (by omega) err more

theorem failedSink_rejected {pulls delivered more : Nat} (same : delivered = min pulls lines.length)
    (beyond : delivered ≤ more) :
    Rejected (openSink lines pulls).settled err ⟨failedSink lines delivered err more, more⟩ := by
  have earlier : (openSink lines pulls).settled = settledBy (outcomeAt lines) delivered := by
    rw [same]
    rfl
  have count : (settledBy (outcomeAt lines) delivered).length = delivered := by simp [settledBy]
  have rest : (List.range more).drop delivered = List.range' delivered (more - delivered) := by
    rw [List.range_eq_range', List.drop_range']
    simp
  constructor
  · rw [earlier, count, rest]
    change settledBy (fun pull => if pull < delivered then outcomeAt lines pull else .rejected err) more = _
    conv => lhs; rw [← Nat.add_sub_cancel' beyond, settledBy_range']
    congr 1
    · exact settledBy_congr fun pull ready => if_pos ready
    · refine List.map_congr_left fun pull member => ?_
      rw [if_neg (Nat.not_lt.mpr (List.mem_range'_1.mp member).1)]
  · rfl

/-- The discipline of the queue in every run, and what the first call to close it decides for the pulls. -/
theorem lineQueue_disciplined (ordered : Ordered calls) :
    Discipline (emitted calls) (LineQueue.run calls) ∧
    (∀ before after, calls = before ++ .finish :: after → Quiet before →
      Drained (emitted calls) (LineQueue.run calls)) ∧
    ∀ before err after, calls = before ++ .fail err :: after → Quiet before →
      Rejected (LineQueue.run before).sink.settled err (LineQueue.run calls) := by
  refine ⟨run_disciplined ordered, ?_, ?_⟩
  · rintro before after rfl quiet
    have closes : Call.finish.Closes := trivial
    have silent := ordered.silent closes
    obtain ⟨pulls, shape⟩ := run_finished quiet silent
    rw [emitted_closed closes silent, shape]
    exact ⟨rfl, rfl⟩
  · rintro before err after rfl quiet
    have closes : (Call.fail err).Closes := trivial
    have silent := ordered.silent closes
    obtain ⟨pulls, delivered, more, early, same, beyond, shape⟩ := @run_failed before after err quiet silent
    rw [early, shape]
    exact failedSink_rejected same beyond

end

theorem lineQueue_of_two_pulls :
    Discipline [js "a"] (LineQueue.run [.pull, .emit (js "a"), .pull, .finish]) := by
  have ordered : Ordered [.pull, .emit (js "a"), .pull, .finish] := by
    intro before line after same
    have shape : before = [.pull] := by
      rcases before with _ | ⟨first, _ | ⟨second, _ | ⟨third, _ | ⟨fourth, rest⟩⟩⟩⟩ <;> simp_all
    rw [shape]
    intro call member closes
    rw [List.mem_singleton] at member
    rw [member] at closes
    exact closes
  exact (lineQueue_disciplined ordered).1

/-- A failure that comes after the end of the stream rejects nothing. -/
theorem late_failure : ¬ ∀ calls, Ordered calls → ∀ before err after, calls = before ++ .fail err :: after →
    Rejected (LineQueue.run before).sink.settled err (LineQueue.run calls) := by
  intro every
  have ordered : Ordered [.finish, .fail (js "e"), .pull] := by
    intro before line after same
    have member : Call.emit line ∈ [Call.finish, .fail (js "e"), .pull] := by simp [same]
    simp at member
  have rejected := every _ ordered [.finish] (js "e") [.pull] rfl
  have settled := rejected.settled
  revert settled
  decide

end Mirror.Transport
