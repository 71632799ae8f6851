import MirrorECMA.Replay.Control

namespace Mirror.Replay

open ECMA Mirror.Protocol

/-! ### The report of a recorder -/

/-- A row of `sequenceCounts`. -/
structure SequenceCount where
  source : Raw
  target : Raw
  count : Nat

/-- The counts of a report, and whether its status is `passed`; the clock and the failure are left out. -/
structure ReplayReport where
  passed : Bool
  tracesStarted : Nat
  tracesCompleted : Nat
  statesReported : Nat
  statesMatched : Nat
  stepsCompleted : Nat
  actionCounts : Fields Nat
  sequenceCounts : List SequenceCount
  droppedActionEvents : Nat
  droppedSequenceEvents : Nat
  truncated : Bool

section

variable [NumberText]

/-- `Object.fromEntries` of the actions: a key that is no string is converted to one. -/
def actionEntry (entry : Raw × Nat) : Except Thrown (JsString × Nat) := do
  return (← rawText entry.1, entry.2)

/-- The report, with the actions as the entries of an object. -/
def ReplayRecorder.snapshot (recorder : ReplayRecorder) (passed : Bool) (actions : List (JsString × Nat)) : ReplayReport where
  passed := passed
  tracesStarted := recorder.tracesStarted
  tracesCompleted := recorder.tracesCompleted
  statesReported := recorder.statesReported
  statesMatched := recorder.statesMatched
  stepsCompleted := recorder.stepsCompleted
  actionCounts := Fields.ofEntries actions
  sequenceCounts := recorder.sequences.map fun entry => ⟨entry.source, entry.target, entry.count⟩
  droppedActionEvents := recorder.droppedActionEvents
  droppedSequenceEvents := recorder.droppedSequenceEvents
  truncated := decide (0 < recorder.droppedActionEvents) || decide (0 < recorder.droppedSequenceEvents)

def ReplayRecorder.report (recorder : ReplayRecorder) (passed : Bool) : Except Thrown ReplayReport := do
  return recorder.snapshot passed (← recorder.actions.mapM actionEntry)

end

/-! ### Counting -/

theorem sum_bump {α : Type} (entries : List α) (hit : α → Bool) (count : α → Nat) (bump : α → α)
    (adds : ∀ entry, count (bump entry) = count entry + 1) :
    ((entries.map fun entry => if hit entry then bump entry else entry).map count).sum =
      (entries.map count).sum + entries.countP hit := by
  induction entries with
  | nil => rfl
  | cons entry rest ih =>
    simp only [List.map_cons, List.sum_cons, ih]
    by_cases found : hit entry
    · rw [List.countP_cons_of_pos found]
      simp only [found, if_true, adds]
      omega
    · rw [List.countP_cons_of_neg found]
      simp only [found, Bool.false_eq_true, if_false]
      omega

theorem countP_key {α κ : Type} [DecidableEq κ] {entries : List α} {key : α → κ} (nodup : (entries.map key).Nodup) {k : κ}
    (found : k ∈ entries.map key) : entries.countP (fun entry => decide (key entry = k)) = 1 := by
  have once := List.count_eq_one_of_mem nodup found
  rw [List.count, List.countP_map] at once
  rw [← once]
  apply List.countP_congr
  intro entry _
  simp

/-- The action of a message that has the type it is declared with. -/
def Named (action : Raw) : Prop := ∃ name, action = some (.string name)

theorem sameValueZero_named {first second : Raw} (named : Named first) :
    sameValueZero first second = decide (first = second) := by
  obtain ⟨name, rfl⟩ := named
  rcases second with _ | json
  · simp [sameValueZero]
  · cases json <;> simp [sameValueZero]

/-- What a recorder of named actions has counted of so many reported states in so many traces. -/
structure Counted [NumberText] (recorder : ReplayRecorder) (reports traces : Nat) : Prop where
  reported : recorder.statesReported = reports
  matched : recorder.statesMatched + (if recorder.pending then 1 else 0) = reports
  steps : recorder.stepsCompleted + traces =
    recorder.statesMatched + (if recorder.pending ∧ recorder.stateIndex = 0 then 1 else 0)
  actions : (recorder.actions.map Prod.snd).sum + recorder.droppedActionEvents = reports
  sequences : (recorder.sequences.map (·.count)).sum + recorder.droppedSequenceEvents + traces = reports
  actionLimit : recorder.actions.length ≤ ACTION_LIMIT
  sequenceLimit : recorder.sequences.length ≤ SEQUENCE_LIMIT
  names : (recorder.actions.map Prod.fst).Nodup
  named : ∀ entry ∈ recorder.actions, Named entry.1
  keys : (recorder.sequences.map (·.key)).Nodup
  keyed : ∀ entry ∈ recorder.sequences,
    entry.key = jsonStringify (.array [entry.source.getD .null, entry.target.getD .null])
  previous : recorder.previousAction.isSome → Named recorder.previousAction

namespace Counted

variable [NumberText] {recorder : ReplayRecorder} {reports traces : Nat} {action : Raw}

theorem start : Counted {} 0 0 where
  reported := rfl
  matched := rfl
  steps := rfl
  actions := rfl
  sequences := rfl
  actionLimit := Nat.zero_le _
  sequenceLimit := Nat.zero_le _
  names := List.nodup_nil
  named _ member := by cases member
  keys := List.nodup_nil
  keyed _ member := by cases member
  previous some := by cases some

theorem acknowledge (counted : Counted recorder reports traces) :
    Counted recorder.acknowledge reports traces ∧ recorder.acknowledge.pending = false := by
  unfold ReplayRecorder.acknowledge
  by_cases pending : recorder.pending
  · have matched := counted.matched
    have steps := counted.steps
    simp only [pending, if_true, true_and] at matched steps ⊢
    refine ⟨{ counted with matched := ?_, steps := ?_ }, trivial⟩
    · simpa using matched
    · show (if recorder.stateIndex > 0 then recorder.stepsCompleted + 1 else recorder.stepsCompleted) + traces =
        recorder.statesMatched + 1 + (if false = true ∧ recorder.stateIndex = 0 then 1 else 0)
      by_cases first : recorder.stateIndex = 0
      · simp only [first, if_true] at steps
        simp [first, steps]
      · have later : 0 < recorder.stateIndex := by omega
        simp only [first, if_false] at steps
        simp only [gt_iff_lt, later, if_true, Bool.false_eq_true, false_and, if_false]
        omega
  · simp only [pending, Bool.false_eq_true, if_false]
    exact ⟨counted, trivial⟩

theorem begin (counted : Counted recorder reports traces) (initial : Bool) :
    Counted (recorder.begin initial) reports traces ∧ (recorder.begin initial).pending = false := by
  obtain ⟨counted, idle⟩ := counted.acknowledge
  have steps := counted.steps
  simp only [idle, Bool.false_eq_true, false_and, if_false] at steps
  unfold ReplayRecorder.begin
  cases initial with
  | true =>
    refine ⟨{ counted with steps := ?_, previous := ?_ }, idle⟩
    · simpa [idle] using steps
    · intro some
      cases some
  | false =>
    refine ⟨{ counted with steps := ?_ }, idle⟩
    simpa [idle] using steps

/-! One action more. -/

theorem countAction_frame (recorder : ReplayRecorder) (action : Raw) :
    ∃ actions dropped, recorder.countAction action =
      { recorder with actions := actions, droppedActionEvents := dropped } := by
  unfold ReplayRecorder.countAction
  split
  · exact ⟨_, recorder.droppedActionEvents, rfl⟩
  · split
    · exact ⟨_, recorder.droppedActionEvents, rfl⟩
    · exact ⟨recorder.actions, _, rfl⟩

theorem countSequence_frame (recorder : ReplayRecorder) (action : Raw) :
    ∃ sequences dropped, recorder.countSequence action =
      { recorder with sequences := sequences, droppedSequenceEvents := dropped } := by
  unfold ReplayRecorder.countSequence
  split
  · exact ⟨recorder.sequences, recorder.droppedSequenceEvents, rfl⟩
  · dsimp only
    split
    · exact ⟨_, recorder.droppedSequenceEvents, rfl⟩
    · split
      · exact ⟨_, recorder.droppedSequenceEvents, rfl⟩
      · exact ⟨recorder.sequences, _, rfl⟩

/-- The part of the table that an action changes. -/
structure ActionTable (recorder : ReplayRecorder) (events : Nat) : Prop where
  actions : (recorder.actions.map Prod.snd).sum + recorder.droppedActionEvents = events
  actionLimit : recorder.actions.length ≤ ACTION_LIMIT
  names : (recorder.actions.map Prod.fst).Nodup
  named : ∀ entry ∈ recorder.actions, Named entry.1

theorem ActionTable.count {events : Nat} (table : ActionTable recorder events) (named : Named action) :
    ActionTable (recorder.countAction action) (events + 1) := by
  have same (entry : Raw × Nat) : sameValueZero entry.1 action = true → entry.1 = action := by
    obtain ⟨name, rfl⟩ := named
    rcases entry with ⟨_ | json, count⟩
    · simp [sameValueZero]
    · cases json <;> simp [sameValueZero]
  have hits (entry : Raw × Nat) (member : entry ∈ recorder.actions) :
      sameValueZero entry.1 action = decide (entry.1 = action) := sameValueZero_named (table.named entry member)
  have sum := table.actions
  unfold ReplayRecorder.countAction
  by_cases found : recorder.actions.any fun entry => sameValueZero entry.1 action
  · rw [if_pos found]
    obtain ⟨entry, member, hit⟩ := List.any_eq_true.mp found
    have once : recorder.actions.countP (fun entry => sameValueZero entry.1 action) = 1 := by
      rw [List.countP_congr fun entry member => by rw [hits entry member]]
      exact countP_key table.names (same entry hit ▸ List.mem_map_of_mem member)
    have firsts : (recorder.actions.map fun entry =>
        if sameValueZero entry.1 action then (entry.1, entry.2 + 1) else entry).map Prod.fst =
        recorder.actions.map Prod.fst := by
      rw [List.map_map]
      apply List.map_congr_left
      intro entry _
      dsimp only [Function.comp]
      split <;> rfl
    refine ⟨?_, ?_, ?_, ?_⟩
    · dsimp only
      rw [sum_bump recorder.actions _ Prod.snd (fun entry => (entry.1, entry.2 + 1)) (fun _ => rfl), once]
      omega
    · simpa using table.actionLimit
    · dsimp only
      rw [firsts]
      exact table.names
    · intro bumped among
      have kept : bumped.1 ∈ recorder.actions.map Prod.fst := firsts ▸ List.mem_map_of_mem among
      obtain ⟨entry, member, same⟩ := List.mem_map.mp kept
      exact same ▸ table.named entry member
  · rw [if_neg found]
    have fresh : action ∉ recorder.actions.map Prod.fst := by
      intro member
      obtain ⟨entry, among, same⟩ := List.mem_map.mp member
      apply found
      rw [List.any_eq_true]
      exact ⟨entry, among, by rw [hits entry among, decide_eq_true_iff]; exact same⟩
    by_cases space : recorder.actions.length < ACTION_LIMIT
    · rw [if_pos space]
      refine ⟨?_, ?_, ?_, ?_⟩
      · simp only [List.map_append, List.sum_append, List.map_cons, List.map_nil, List.sum_cons, List.sum_nil]
        omega
      · simp only [List.length_append, List.length_singleton]
        omega
      · simp only [List.map_append, List.map_cons, List.map_nil]
        simpa using table.names.concat fresh
      · intro entry member
        rcases List.mem_append.mp member with member | member
        · exact table.named entry member
        · rw [List.mem_singleton.mp member]
          exact named
    · rw [if_neg space]
      refine ⟨?_, table.actionLimit, table.names, table.named⟩
      dsimp only
      omega

/-- The part of the table that a pair of actions changes. -/
structure SequenceTable (recorder : ReplayRecorder) (events : Nat) : Prop where
  sequences : (recorder.sequences.map (·.count)).sum + recorder.droppedSequenceEvents = events
  sequenceLimit : recorder.sequences.length ≤ SEQUENCE_LIMIT
  keys : (recorder.sequences.map (·.key)).Nodup
  keyed : ∀ entry ∈ recorder.sequences,
    entry.key = jsonStringify (.array [entry.source.getD .null, entry.target.getD .null])

theorem SequenceTable.count {events : Nat} (table : SequenceTable recorder events) (action : Raw) :
    SequenceTable (recorder.countSequence action) (events + if recorder.previousAction.isSome then 1 else 0) := by
  have sum := table.sequences
  unfold ReplayRecorder.countSequence
  by_cases first : recorder.previousAction.isNone
  · have none : recorder.previousAction.isSome = false := by
      rw [← Option.not_isNone, first]
      rfl
    rw [if_pos first, none]
    exact table
  · have some : recorder.previousAction.isSome = true := by
      rw [← Option.not_isNone, Bool.eq_false_iff.mpr first]
      rfl
    rw [if_neg first, some]
    dsimp only
    generalize text : jsonStringify (.array [recorder.previousAction.getD .null, action.getD .null]) = key
    by_cases found : recorder.sequences.any fun entry => decide (entry.key = key)
    · rw [if_pos found]
      obtain ⟨entry, member, hit⟩ := List.any_eq_true.mp found
      rw [decide_eq_true_iff] at hit
      have once : recorder.sequences.countP (fun entry => decide (entry.key = key)) = 1 :=
        countP_key table.keys (hit ▸ List.mem_map_of_mem member)
      have bumped := sum_bump recorder.sequences (fun entry => decide (entry.key = key)) (·.count)
        (fun entry => ⟨key, recorder.previousAction, action, entry.count + 1⟩) (fun _ => rfl)
      simp only [decide_eq_true_iff] at bumped
      have same : (recorder.sequences.map fun entry =>
          if entry.key = key then ⟨key, recorder.previousAction, action, entry.count + 1⟩ else entry).map (·.key) =
          recorder.sequences.map (·.key) := by
        rw [List.map_map]
        apply List.map_congr_left
        intro entry _
        dsimp only [Function.comp]
        split
        · rename_i here
          exact here.symm
        · rfl
      refine ⟨?_, ?_, ?_, ?_⟩
      · rw [bumped, once]
        simp only [if_true]
        omega
      · simpa using table.sequenceLimit
      · rw [same]
        exact table.keys
      · intro other among
        obtain ⟨entry, member, rfl⟩ := List.mem_map.mp among
        split
        · exact text.symm
        · exact table.keyed entry member
    · rw [if_neg found]
      have fresh : key ∉ recorder.sequences.map (·.key) := by
        intro member
        obtain ⟨entry, among, same⟩ := List.mem_map.mp member
        apply found
        rw [List.any_eq_true]
        exact ⟨entry, among, decide_eq_true same⟩
      by_cases space : recorder.sequences.length < SEQUENCE_LIMIT
      · rw [if_pos space]
        refine ⟨?_, ?_, ?_, ?_⟩
        · simp only [List.map_append, List.sum_append, List.map_cons, List.map_nil, List.sum_cons, List.sum_nil, if_true]
          omega
        · simp only [List.length_append, List.length_singleton]
          omega
        · simp only [List.map_append, List.map_cons, List.map_nil]
          simpa using table.keys.concat fresh
        · intro entry member
          rcases List.mem_append.mp member with member | member
          · exact table.keyed entry member
          · rw [List.mem_singleton.mp member]
            exact text.symm
      · rw [if_neg space]
        refine ⟨?_, table.sequenceLimit, table.keys, table.keyed⟩
        simp only [if_true]
        omega

/-- A state is reported that has been begun: the first one of a trace where no action precedes it. -/
theorem reported_begun (counted : Counted recorder reports traces) (idle : recorder.pending = false)
    (begun : recorder.stateIndex = 0 ↔ recorder.previousAction.isNone) (named : Named action) :
    Counted (recorder.reported action) (reports + 1) (if recorder.previousAction.isSome then traces else traces + 1) := by
  let told : ReplayRecorder := { recorder with statesReported := recorder.statesReported + 1, pending := true }
  have actionTable : ActionTable (told.countAction action) (reports + 1) :=
    ActionTable.count ⟨counted.actions, counted.actionLimit, counted.names, counted.named⟩ named
  obtain ⟨actions, droppedActions, actionFrame⟩ := countAction_frame told action
  rw [actionFrame] at actionTable
  have before : SequenceTable { told with actions := actions, droppedActionEvents := droppedActions }
      ((recorder.sequences.map (·.count)).sum + recorder.droppedSequenceEvents) :=
    ⟨rfl, counted.sequenceLimit, counted.keys, counted.keyed⟩
  have sequenceTable := before.count action
  obtain ⟨sequences, droppedSequences, sequenceFrame⟩ := countSequence_frame
    { told with actions := actions, droppedActionEvents := droppedActions } action
  rw [sequenceFrame] at sequenceTable
  have shape : recorder.reported action =
      { told with
        actions := actions, droppedActionEvents := droppedActions, sequences := sequences
        droppedSequenceEvents := droppedSequences, previousAction := action } := by
    show { (told.countAction action).countSequence action with previousAction := action } = _
    rw [actionFrame, sequenceFrame]
  have reported := counted.reported
  have matched := counted.matched
  have steps := counted.steps
  have events := counted.sequences
  have pairs := sequenceTable.sequences
  simp only [idle, Bool.false_eq_true, false_and, if_false, Nat.add_zero] at matched steps
  rw [shape]
  refine {
    reported := congrArg (· + 1) reported
    matched := congrArg (· + 1) matched
    steps := ?_
    actions := actionTable.actions
    sequences := ?_
    actionLimit := actionTable.actionLimit
    sequenceLimit := sequenceTable.sequenceLimit
    names := actionTable.names
    named := actionTable.named
    keys := sequenceTable.keys
    keyed := sequenceTable.keyed
    previous := fun _ => named }
  · show recorder.stepsCompleted + (if recorder.previousAction.isSome then traces else traces + 1) =
      recorder.statesMatched + (if true = true ∧ recorder.stateIndex = 0 then 1 else 0)
    cases previous : recorder.previousAction with
    | none =>
      have first : recorder.stateIndex = 0 := begun.mpr (by rw [previous]; rfl)
      simp only [Option.isSome_none, Bool.false_eq_true, if_false, first, true_and, if_true]
      omega
    | some action =>
      have later : recorder.stateIndex ≠ 0 := fun first => by
        have none := begun.mp first
        rw [previous] at none
        cases none
      simp only [Option.isSome_some, if_true, later, and_false, if_false]
      exact steps
  · show (sequences.map (·.count)).sum + droppedSequences +
      (if recorder.previousAction.isSome then traces else traces + 1) = reports + 1
    have pairs : (sequences.map (·.count)).sum + droppedSequences =
        (recorder.sequences.map (·.count)).sum + recorder.droppedSequenceEvents +
          if recorder.previousAction.isSome then 1 else 0 := pairs
    by_cases previous : recorder.previousAction.isSome
    · simp only [previous, if_true] at pairs ⊢
      omega
    · simp only [previous, Bool.false_eq_true, if_false] at pairs ⊢
      omega

end Counted

/-! ### What a report says -/

/-- The counts of a report balance, for so many traces with a reported state. -/
structure Conserved (report : ReplayReport) (traces : Nat) : Prop where
  actions : (report.actionCounts.map Prod.snd).sum + report.droppedActionEvents = report.statesReported
  sequences : (report.sequenceCounts.map (·.count)).sum + report.droppedSequenceEvents + traces = report.statesReported
  matched : report.statesMatched = report.statesReported ∨ report.statesMatched + 1 = report.statesReported
  actionLimit : report.actionCounts.length ≤ 256
  sequenceLimit : report.sequenceCounts.length ≤ 1024
  distinct : Fields.Distinct report.actionCounts ∧
    (report.sequenceCounts.map fun row => (row.source, row.target)).Nodup

/-- Every state of a passed replay has matched, and all but the first ones of the traces are steps. -/
structure Balanced (report : ReplayReport) : Prop where
  matched : report.statesMatched = report.statesReported
  completed : report.tracesCompleted = report.tracesStarted
  steps : report.stepsCompleted + report.tracesStarted = report.statesMatched

section

variable [NumberText] {recorder : ReplayRecorder} {reports traces : Nat}

theorem named_entries {actions : List (Raw × Nat)} (named : ∀ entry ∈ actions, Named entry.1)
    (names : (actions.map Prod.fst).Nodup) :
    ∃ entries, actions.mapM actionEntry = .ok entries ∧ entries.map Prod.snd = actions.map Prod.snd ∧
      entries.map (fun entry => some (Json.string entry.1)) = actions.map Prod.fst ∧ Fields.Distinct entries := by
  have read : ∃ entries, actions.mapM actionEntry = .ok entries ∧ entries.map Prod.snd = actions.map Prod.snd ∧
      entries.map (fun entry => some (Json.string entry.1)) = actions.map Prod.fst := by
    clear names
    induction actions with
    | nil => exact ⟨[], rfl, rfl, rfl⟩
    | cons entry rest ih =>
      obtain ⟨name, same⟩ := named entry List.mem_cons_self
      obtain ⟨entries, rests, counts, keys⟩ := ih fun other member => named other (List.mem_cons_of_mem _ member)
      have here : actionEntry entry = .ok (name, entry.2) := by
        rw [actionEntry, same]
        rfl
      refine ⟨(name, entry.2) :: entries, ?_, ?_, ?_⟩
      · rw [List.mapM_cons, here, rests]
        rfl
      · simp [counts]
      · simp [keys, same]
  obtain ⟨entries, mapped, counts, keys⟩ := read
  refine ⟨entries, mapped, counts, keys, ?_⟩
  rw [← keys, ← Function.comp_def (fun key => some (Json.string key)) Prod.fst, ← List.map_map] at names
  exact names.of_map

theorem Counted.conserved (counted : Counted recorder reports traces) (passed : Bool) :
    ∃ report, recorder.report passed = .ok report ∧ Conserved report traces ∧ report.passed = passed ∧
      report.statesReported = reports ∧ report.statesMatched = recorder.statesMatched ∧
      report.tracesStarted = recorder.tracesStarted ∧ report.tracesCompleted = recorder.tracesCompleted ∧
      report.stepsCompleted = recorder.stepsCompleted := by
  obtain ⟨entries, read, counts, keys, distinct⟩ := named_entries counted.named counted.names
  have whole := Fields.ofEntries_eq distinct
  have made : recorder.report passed = .ok (recorder.snapshot passed entries) := by
    rw [ReplayRecorder.report, read]
    rfl
  refine ⟨_, made, ⟨?_, ?_, ?_, ?_, ?_, ?_⟩, rfl, counted.reported, rfl, rfl, rfl, rfl⟩
  · dsimp only [ReplayRecorder.snapshot]
    rw [whole, counts, counted.actions, counted.reported]
  · dsimp only [ReplayRecorder.snapshot]
    rw [List.map_map, counted.reported]
    exact counted.sequences
  · dsimp only [ReplayRecorder.snapshot]
    have matched := counted.matched
    rw [counted.reported]
    by_cases pending : recorder.pending
    · simp only [pending, if_true] at matched
      exact .inr matched
    · simp only [pending, Bool.false_eq_true, if_false, Nat.add_zero] at matched
      exact .inl matched
  · dsimp only [ReplayRecorder.snapshot]
    have sizes := congrArg List.length counts
    rw [List.length_map, List.length_map] at sizes
    rw [whole, sizes]
    exact counted.actionLimit
  · rw [ReplayRecorder.snapshot, List.length_map]
    exact counted.sequenceLimit
  · refine ⟨Fields.ofEntries_distinct entries, ?_⟩
    dsimp only [ReplayRecorder.snapshot]
    have keys := counted.keys
    have keyed : recorder.sequences.map (·.key) = (recorder.sequences.map fun entry => (entry.source, entry.target)).map
        fun pair => jsonStringify (.array [pair.1.getD .null, pair.2.getD .null]) := by
      rw [List.map_map]
      exact List.map_congr_left counted.keyed
    rw [keyed] at keys
    rw [List.map_map]
    exact keys.of_map

end

end Mirror.Replay
