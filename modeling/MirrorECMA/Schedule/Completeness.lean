import MirrorECMA.Schedule.Inspected

namespace Mirror.Schedule

open ECMA ECMA.Json Machine Machine.Throwing

/-! ### What a turn of the loop leaves alone -/

/-- Only the coverage has changed. -/
def CoverageOnly (s t : Exploring) : Prop :=
  ∃ known states edges bytes, t = { s with known := known, states := states, edges := edges, coverageBytes := bytes }

theorem CoverageOnly.refl (s : Exploring) : CoverageOnly s s := ⟨_, _, _, _, rfl⟩

theorem CoverageOnly.trans {s t u : Exploring} (first : CoverageOnly s t) (second : CoverageOnly t u) : CoverageOnly s u := by
  rcases first with ⟨_, _, _, _, rfl⟩
  rcases second with ⟨_, _, _, _, rfl⟩
  exact ⟨_, _, _, _, rfl⟩

theorem spend_ends (bytes : Nat) (s : Exploring) :
    Ends (spend bytes) (fun _ t => CoverageOnly s t) (fun _ t => CoverageOnly s t) s := by
  unfold spend
  simp only [ends_bind, ends_modify, ends_get, ends_lift]
  exact ⟨fun _ _ => ⟨_, _, _, _, rfl⟩, fun _ _ => ⟨_, _, _, _, rfl⟩⟩

section

variable [NumberConversion]

theorem creditState_ends (key : JsString) (s : Exploring) :
    Ends (creditState key) (fun _ t => CoverageOnly s t) (fun _ t => CoverageOnly s t) s := by
  unfold creditState
  rw [ends_bind, ends_get]
  cases JsMap.get s.known key with
  | some id => exact .refl s
  | none =>
    simp only [ends_bind, ends_modify, ends_pure]
    exact (spend_ends _ s).mono (fun _ t only => only.trans ⟨_, _, _, _, rfl⟩) fun _ _ only => only

omit [NumberConversion] in
theorem creditEdge_ends (prior : Option Nat) (id : Nat) (s : Exploring) :
    Ends (creditEdge prior id) (fun _ t => CoverageOnly s t) (fun _ t => CoverageOnly s t) s := by
  unfold creditEdge
  cases prior with
  | none => exact .refl s
  | some prior =>
    rw [ends_bind, ends_get]
    cases JsMap.get s.edges (prior, id) with
    | some count => exact ⟨_, _, _, _, rfl⟩
    | none =>
      simp only [ends_bind, ends_modify]
      exact (spend_ends _ s).mono (fun _ t only => only.trans ⟨_, _, _, _, rfl⟩) fun _ _ only => only

variable [NumberText]

theorem creditObservations_ends (d : Declaration) (prior : Option Nat) (items : List (Json × Nat)) (s : Exploring) :
    Ends (creditObservations d prior items) (fun _ t => CoverageOnly s t) (fun _ t => CoverageOnly s t) s := by
  induction items generalizing prior s with
  | nil => exact .refl s
  | cons item rest ih =>
    rw [creditObservations, ends_bind, ends_lift]
    refine ⟨fun key _ => ?_, fun _ _ => .refl s⟩
    rw [ends_bind]
    refine (creditState_ends key s).mono (fun id t first => ?_) fun _ _ only => only
    rw [ends_bind]
    refine (creditEdge_ends prior id t).mono (fun _ u second => ?_) fun _ _ only => first.trans only
    exact (ih (some id) u).mono (fun _ _ rest => (first.trans second).trans rest) fun _ _ rest => (first.trans second).trans rest

end

/-- The loop is where it was. -/
structure Placed (s t : Exploring) : Prop where
  runs : t.runs = s.runs
  attempted : t.attempted = s.attempted
  calls : t.calls = s.calls
  halt : t.halt = s.halt

theorem Placed.trans {s t u : Exploring} (first : Placed s t) (second : Placed t u) : Placed s u :=
  ⟨second.runs.trans first.runs, second.attempted.trans first.attempted, second.calls.trans first.calls,
    second.halt.trans first.halt⟩

theorem Uncounted.placed {s t : Exploring} (uncounted : Uncounted s t) : Placed s t ∧ t.completed = s.completed := by
  rcases uncounted with ⟨_, _, _, _, _, _, rfl⟩
  exact ⟨⟨rfl, rfl, rfl, rfl⟩, rfl⟩

theorem CoverageOnly.placed {s t : Exploring} (only : CoverageOnly s t) :
    Placed s t ∧ t.completed = s.completed ∧ t.ids = s.ids := by
  rcases only with ⟨_, _, _, _, rfl⟩
  exact ⟨⟨rfl, rfl, rfl, rfl⟩, rfl, rfl⟩

/-! ### One run -/

section

variable [NumberRoundTrip]

/-- A run that counts as completed: its evidence is accepted under an identifier that is new. -/
def Counts (space : FiniteScheduleSpace) (returned : Returned) (candidate : CheckpointSchedule) (s t : Exploring) : Prop :=
  t.completed = s.completed + 1 ∧ ∃ e comparison id, returned.Gives e comparison ∧ id ∉ s.ids ∧ t.ids = s.ids ++ [id] ∧
    Accepted space candidate e comparison id

theorem examine_ends {space : FiniteScheduleSpace} {d : Declaration} (of : d.Of space) (returned : Returned)
    {candidate : CheckpointSchedule} (portable : candidate.json.Portable) (s : Exploring) :
    Ends (examine space d returned candidate)
      (fun disposition t => Placed s t ∧
        if disposition = js "passed" then Counts space returned candidate s t else t.completed = s.completed)
      (fun _ t => Placed s t ∧ t.completed = s.completed) s := by
  unfold examine
  rw [ends_bind]
  refine (inspect_ends of returned portable s).mono (fun found t inspected => ?_) fun _ t inspected => inspected.placed
  rcases found with ⟨e, disposition⟩
  rcases inspected with ⟨kept, accepted⟩
  dsimp only at accepted ⊢
  rw [ends_ite]
  constructor
  · intro passed
    simp only [ends_bind, ends_lift, ends_modify, ends_pure]
    refine ⟨fun _ completed => ⟨fun items _ => ?_, fun _ _ => kept.placed⟩, fun _ _ => kept.placed⟩
    rcases accepted passed completed with ⟨comparison, id, gives, fresh, ids, whole⟩
    refine (creditObservations_ends d none items.zipIdx t).mono (fun _ u only => ?_) fun _ u only => ?_
    · rcases only.placed with ⟨placed, counted, same⟩
      refine ⟨kept.placed.1.trans ⟨placed.runs, placed.attempted, placed.calls, placed.halt⟩, ?_⟩
      rw [if_pos passed]
      exact ⟨congrArg (· + 1) (counted.trans kept.placed.2), e, comparison, id, gives, fresh, same.trans ids, whole⟩
    · exact ⟨kept.placed.1.trans only.placed.1, only.placed.2.1.trans kept.placed.2⟩
  · intro other
    simp only [ends_bind, ends_modify, ends_pure, if_neg other]
    split
    · exact ⟨kept.placed.1.trans ⟨rfl, rfl, rfl, rfl⟩, kept.placed.2⟩
    · exact kept.placed

theorem disposed_ends {space : FiniteScheduleSpace} {d : Declaration} (of : d.Of space) (returned : Returned)
    {candidate : CheckpointSchedule} (portable : candidate.json.Portable) {s t : Exploring} {disposition : JsString}
    (run : disposed space d returned candidate s = (t, disposition)) :
    t.runs = s.runs ∧ t.attempted = s.attempted ∧ t.calls = s.calls ∧
      if disposition = js "passed" then Counts space returned candidate s t else t.completed = s.completed := by
  have ends := examine_ends of returned portable s
  unfold disposed at run
  split at run
  · rename_i found after ran
    cases run
    rcases ends_returned ends ran with ⟨placed, counted⟩
    exact ⟨placed.runs, placed.attempted, placed.calls, counted⟩
  · rename_i text after ran
    rcases ends_thrown ends ran with ⟨placed, counted⟩
    rw [Prod.mk.injEq] at run
    rcases run with ⟨rfl, rfl⟩
    have other : ¬ js "runner_or_evidence_failed" = js "passed" := by simp
    rw [if_neg other]
    split
    · exact ⟨placed.runs, placed.attempted, placed.calls, counted⟩
    · exact ⟨placed.runs, placed.attempted, placed.calls, counted⟩

end

theorem stopped_kept (watch : Nat → Instant) (deadline : Rat) (s : Exploring) :
    ∃ reason halt reads, stopped watch deadline s = { s with stopReason := reason, halt := halt, reads := reads } := by
  unfold stopped
  split
  · exact ⟨_, _, _, rfl⟩
  split
  · exact ⟨_, _, _, rfl⟩
  dsimp only
  split
  · exact ⟨_, _, _, rfl⟩
  · exact ⟨_, _, _, rfl⟩

/-- The row of a run is listed, and nothing that is counted changes. -/
theorem settle_kept [NumberText] (d : Declaration) (watch : Nat → Instant) (deadline : Rat) (s : Exploring)
    (disposition : JsString) : ∃ entry row first categories bytes reason halt reads, RunEntry.category entry = disposition ∧
      settle d watch deadline s disposition = { s with
        runs := s.runs ++ [entry], row := row, firstFailure := first, categories := categories, evidenceBytes := bytes,
        stopReason := reason, halt := halt, reads := reads } := by
  unfold settle
  dsimp only
  split
  · exact ⟨_, _, _, _, _, _, _, _, rfl, rfl⟩
  · rcases stopped_kept watch deadline { categorised s disposition with
      evidenceBytes := (categorised s disposition).evidenceBytes + utf8Length (jsonStringify (categorised s disposition).row.json),
      runs := (categorised s disposition).runs ++ [.row (categorised s disposition).row] } with ⟨reason, halt, reads, stop⟩
    rw [stop]
    exact ⟨.row (categorised s disposition).row, _, _, _, _, _, _, _, rfl, rfl⟩

section

variable [NumberRoundTrip]

/-- The state in which a candidate is given to the runner. -/
def given (s : Exploring) (candidate : CheckpointSchedule) (inputIndex : Nat) : Exploring :=
  { s with
    reads := s.reads + 1, row := ⟨s.attempted, inputIndex, candidate, none, none, none, []⟩, attempted := s.attempted + 1,
    cleanupKnown := false, calls := s.calls ++ [candidate] }

/-- What a turn of the loop does: it stops the loop, or gives one candidate to the runner. -/
theorem attempt_cases {space : FiniteScheduleSpace} {d : Declaration} {world : World} {deadline : Rat} {s t : Exploring}
    {steps : List ScheduleStep} {input : Json × Nat} (ran : attempt space d world deadline s steps input = .ok t) :
    (∃ reads reason, t = { s with reads := reads, halt := true, stopReason := reason }) ∨
    ∃ candidate, parseCheckpointSchedule (declarationText space input.1 steps) = .ok candidate ∧
      t = settle d world.watch deadline
        (disposed space d (world.runner s.attempted candidate) candidate (given s candidate input.2)).1
        (disposed space d (world.runner s.attempted candidate) candidate (given s candidate input.2)).2 := by
  unfold attempt at ran
  dsimp only at ran
  split at ran
  · cases ran
    exact .inl ⟨_, _, rfl⟩
  · rw [bind_eq_ok] at ran
    rcases ran with ⟨candidate, read, ran⟩
    rw [Nat.add_sub_cancel, pure_eq_ok, Except.ok.injEq] at ran
    exact .inr ⟨candidate, read, ran.symm⟩

/-! ### The tallies of the loop -/

/-- What is known of the calls of the runner when every one of them has been completed. -/
structure Earned (space : FiniteScheduleSpace) (world : World) (calls : List CheckpointSchedule) (ids categories : List JsString) :
    Prop where
  identified : ids.length = calls.length
  distinct : ids.Nodup
  passed : categories = calls.map fun _ => js "passed"
  accepted : ∀ k schedule id, calls[k]? = some schedule → ids[k]? = some id → ∃ e comparison,
    (world.runner k schedule).Gives e comparison ∧ Accepted space schedule e comparison id

/-- No more runs are completed than attempted, and all of them only when each has earned it. -/
structure Tallied (space : FiniteScheduleSpace) (world : World) (s : Exploring) : Prop where
  attempted : s.attempted = s.calls.length
  bounded : s.completed ≤ s.attempted
  earned : s.completed = s.attempted → Earned space world s.calls s.ids (s.runs.map RunEntry.category)

theorem Earned.snoc {space : FiniteScheduleSpace} {world : World} {calls : List CheckpointSchedule}
    {ids categories : List JsString} (earned : Earned space world calls ids categories) {schedule : CheckpointSchedule}
    {id : JsString} (fresh : id ∉ ids) {e : Fields Json} {comparison : Option (Fields Json)}
    (gives : (world.runner calls.length schedule).Gives e comparison) (accepted : Accepted space schedule e comparison id) :
    Earned space world (calls ++ [schedule]) (ids ++ [id]) (categories ++ [js "passed"]) where
  identified := by rw [List.length_append, List.length_append, earned.identified]; rfl
  distinct := by
    rw [List.nodup_append]
    refine ⟨earned.distinct, List.nodup_singleton _, ?_⟩
    intro other member last single same
    exact fresh (List.mem_singleton.mp single ▸ same ▸ member)
  passed := by rw [earned.passed, List.map_append, List.map_singleton]
  accepted k other own called named := by
    rcases Nat.lt_trichotomy k calls.length with before | here | after
    · rw [List.getElem?_append_left before] at called
      rw [List.getElem?_append_left (earned.identified ▸ before)] at named
      exact earned.accepted k other own called named
    · subst here
      rw [List.getElem?_concat_length, Option.some.injEq] at called
      rw [← earned.identified, List.getElem?_concat_length, Option.some.injEq] at named
      subst called named
      exact ⟨e, comparison, gives, accepted⟩
    · rw [List.getElem?_eq_none_iff.mpr (by rw [List.length_append]; exact after)] at called
      cases called

theorem attempt_tallied {space : FiniteScheduleSpace} {d : Declaration} (of : d.Of space) {world : World} {deadline : Rat}
    {s t : Exploring} {steps : List ScheduleStep} {input : Json × Nat} {candidate : CheckpointSchedule}
    (read : parseCheckpointSchedule (declarationText space input.1 steps) = .ok candidate) (portable : candidate.json.Portable)
    (tallied : Tallied space world s) (ran : attempt space d world deadline s steps input = .ok t) :
    Tallied space world t ∧ (t.halt = false → t.calls = s.calls ++ [candidate]) := by
  rcases attempt_cases ran with ⟨_, _, rfl⟩ | ⟨own, found, settled⟩
  · exact ⟨⟨tallied.attempted, tallied.bounded, tallied.earned⟩, fun going => by cases going⟩
  rw [read, Except.ok.injEq] at found
  subst found
  rcases examined : disposed space d (world.runner s.attempted candidate) candidate (given s candidate input.2) with
    ⟨u, disposition⟩
  rcases disposed_ends of _ portable examined with ⟨runs, attempted, calls, counted⟩
  rw [examined] at settled
  rcases settle_kept d world.watch deadline u disposition with ⟨entry, _, _, _, _, _, _, _, named, same⟩
  rw [same] at settled
  subst settled
  have listed : (u.runs ++ [entry]).map RunEntry.category = s.runs.map RunEntry.category ++ [disposition] := by
    rw [runs, List.map_append, List.map_singleton, named]
    rfl
  have called : u.calls = s.calls ++ [candidate] := calls
  have count : u.attempted = s.attempted + 1 := attempted
  refine ⟨⟨?_, ?_, fun all => ?_⟩, fun _ => called⟩
  · dsimp only
    rw [count, called, List.length_append, tallied.attempted]
    rfl
  · have bounded := tallied.bounded
    dsimp only
    split at counted
    · have one : u.completed = s.completed + 1 := counted.1
      omega
    · have none : u.completed = s.completed := counted
      omega
  · have bounded := tallied.bounded
    dsimp only at all ⊢
    split at counted
    · rename_i passed
      rcases counted with ⟨one, e, comparison, id, gives, fresh, ids, accepted⟩
      have before : s.completed = s.attempted := by
        have one : u.completed = s.completed + 1 := one
        omega
      have ids : u.ids = s.ids ++ [id] := ids
      rw [listed, called, ids, passed]
      exact (tallied.earned before).snoc fresh (tallied.attempted ▸ gives) accepted
    · have none : u.completed = s.completed := counted
      omega

theorem attempts_halted {space : FiniteScheduleSpace} {d : Declaration} {world : World} {deadline : Rat}
    (rest : List (List ScheduleStep × Json × Nat)) {s : Exploring} (halted : s.halt = true) :
    attempts space d world deadline rest s = (s, none) := by
  cases rest with
  | nil => rfl
  | cons candidate rest => rw [attempts, if_pos halted]

/-- The schedule of a shape and an input. -/
def scheduleOfShape (space : FiniteScheduleSpace) (candidate : List ScheduleStep × Json × Nat) : CheckpointSchedule :=
  ⟨space.identity, candidate.2.1.normal, candidate.1⟩

/-- The loop keeps the tallies, and a loop that is not stopped has given every candidate to the runner. -/
theorem attempts_tallied {space : FiniteScheduleSpace} {d : Declaration} (of : d.Of space) {world : World} {deadline : Rat}
    {rest : List (List ScheduleStep × Json × Nat)} {s : Exploring}
    (read : ∀ c ∈ rest, parseCheckpointSchedule (declarationText space c.2.1 c.1) = .ok (scheduleOfShape space c))
    (portable : ∀ c ∈ rest, (scheduleOfShape space c).json.Portable) (tallied : Tallied space world s) :
    Tallied space world (attempts space d world deadline rest s).1 ∧
      ((attempts space d world deadline rest s).1.halt = false → (attempts space d world deadline rest s).2 = none →
        (attempts space d world deadline rest s).1.calls = s.calls ++ rest.map (scheduleOfShape space)) := by
  induction rest generalizing s with
  | nil => exact ⟨tallied, fun _ _ => by rw [List.map_nil, List.append_nil]; rfl⟩
  | cons candidate rest ih =>
    rcases candidate with ⟨steps, input⟩
    rw [attempts]
    split
    · rename_i halted
      exact ⟨tallied, fun going => absurd halted (by rw [going]; decide)⟩
    · cases ran : attempt space d world deadline s steps input with
      | error text => exact ⟨tallied, fun _ none => by cases none⟩
      | ok t =>
        rcases attempt_tallied of (read _ List.mem_cons_self) (portable _ List.mem_cons_self) tallied ran with ⟨next, called⟩
        rcases ih (fun c member => read c (List.mem_cons_of_mem _ member))
          (fun c member => portable c (List.mem_cons_of_mem _ member)) next with ⟨after, all⟩
        refine ⟨after, fun going none => ?_⟩
        have onward : t.halt = false := by
          cases halted : t.halt with
          | false => rfl
          | true =>
            dsimp only at going
            rw [attempts_halted rest halted, halted] at going
            cases going
        have whole := all going none
        dsimp only at whole ⊢
        rw [whole, called onward, List.map_cons, List.append_assoc]
        rfl

/-! ### Completeness -/

/-- The names of an interleaving of declared chains are valid. -/
theorem Declaration.Of.identifiers {space : FiniteScheduleSpace} {d : Declaration} (of : d.Of space) {steps : List ScheduleStep}
    (whole : Interleaving d.actors steps) : ∀ step ∈ steps, scheduleIdentifier step.actor = true ∧
      (scheduleIdentifier step.checkpoint = true ∨ step.checkpoint = SCHEDULE_COMPLETION) := by
  intro step member
  rcases whole.declared step member with ⟨a, among, owned⟩
  have inside : step ∈ a.steps := by
    rw [← whole.chain a among, List.mem_filter]
    exact ⟨member, decide_eq_true owned⟩
  rcases List.mem_map.mp inside with ⟨checkpoint, listed, rfl⟩
  have ends := of.actors.ends a among
  exact ⟨ends.1, ends.2 checkpoint listed⟩

/-- Every candidate of an enumeration that was not cut off is read back from its text. -/
theorem Declaration.Of.declares {space : FiniteScheduleSpace} {d : Declaration} (of : d.Of space) (some_input : space.inputs ≠ [])
    {steps : List ScheduleStep} (whole : Interleaving d.actors steps) (length : steps.length = d.checkSteps.length) :
    Declares space.identity steps where
  digests := by
    rcases List.exists_mem_of_ne_nil _ some_input with ⟨input, member⟩
    rcases (of.inputs input member).2 with ⟨schedule, read⟩
    exact digests_of_parse (space.distinct input member) (space.literal input member) read
  identifiers := of.identifiers whole
  few := length ▸ of.few

theorem candidates_read {space : FiniteScheduleSpace} {d : Declaration} (of : d.Of space) {watch : Nat → Instant}
    {deadline : Rat} {reads : Nat} (exhausted : (d.enumerate watch deadline reads).exhausted = true) :
    ∀ c ∈ candidates space (d.enumerate watch deadline reads),
      parseCheckpointSchedule (declarationText space c.2.1 c.1) = .ok (scheduleOfShape space c) ∧
        (scheduleOfShape space c).json.Portable := by
  intro c member
  rcases List.mem_flatMap.mp member with ⟨steps, listed, member⟩
  rcases List.mem_map.mp member with ⟨⟨input, index⟩, given, rfl⟩
  have among : input ∈ space.inputs := (List.mem_zipIdx' given).2 ▸ List.getElem_mem _
  rcases of.enumerated exhausted with ⟨_, lengths, shapes⟩
  have declares := of.declares (List.ne_nil_of_mem among) ((shapes steps).mp listed).1 (lengths steps listed)
  have distinct := space.distinct input among
  have literal := space.literal input among
  rcases (of.inputs input among).1 with ⟨data, inert⟩
  refine ⟨@parse_declaration _ ⟨space.identity, input, steps⟩ data declares distinct literal inert, ?_⟩
  have inputs := normal_portable distinct literal
  exact ⟨schedule_keysDistinct inputs.distinct, schedule_everyNumber inputs.literal, schedule_everyNumber inputs.finite⟩

theorem candidates_schedules (space : FiniteScheduleSpace) (e : Enumeration) :
    (candidates space e).map (scheduleOfShape space) =
      e.shapes.flatMap fun steps => space.inputs.map fun input => ⟨space.identity, input.normal, steps⟩ := by
  rw [candidates, List.map_flatMap]
  apply List.flatMap_congr
  intro steps _
  have inputs : space.inputs.map (fun input => (⟨space.identity, input.normal, steps⟩ : CheckpointSchedule)) =
      (space.inputs.zipIdx.map Prod.fst).map fun input => ⟨space.identity, input.normal, steps⟩ := by
    rw [List.zipIdx_map_fst]
  rw [inputs, List.map_map, List.map_map]
  rfl

/-- Two candidates of an enumeration are two schedules. -/
theorem schedules_nodup {space : FiniteScheduleSpace} {d : Declaration} (of : d.Of space) {shapes : List (List ScheduleStep)}
    (nodup : shapes.Nodup) :
    (shapes.flatMap fun steps => space.inputs.map fun input => (⟨space.identity, input.normal, steps⟩ : CheckpointSchedule)).Nodup := by
  have texts : space.inputs.map (fun input => stable (some input)) =
      (space.inputs.map Json.normal).map fun v => stable (some v) := by
    rw [List.map_map]
    refine List.map_congr_left fun input member => ?_
    rcases (of.inputs input member).1 with ⟨data, inert⟩
    have finite := ((scheduleData_eq_ok (space.distinct input member) (space.literal input member)).mp inert).1.finite
    exact (stable_normal finite).symm
  have inputs : (space.inputs.map Json.normal).Nodup := (texts ▸ of.distinctInputs).of_map
  rw [List.nodup_flatMap]
  constructor
  · intro steps _
    have own : (space.inputs.map fun input => (⟨space.identity, input.normal, steps⟩ : CheckpointSchedule)) =
        (space.inputs.map Json.normal).map fun v => ⟨space.identity, v, steps⟩ := by
      rw [List.map_map]
      rfl
    rw [own]
    exact inputs.map fun v w same => (CheckpointSchedule.mk.inj same).2.1
  · refine nodup.imp fun apart schedule first second => ?_
    rcases List.mem_map.mp first with ⟨_, _, rfl⟩
    rcases List.mem_map.mp second with ⟨_, _, same⟩
    exact apart (CheckpointSchedule.mk.inj same).2.2.symm

theorem candidates_length (space : FiniteScheduleSpace) (e : Enumeration) :
    (candidates space e).length = e.shapes.length * space.inputs.length := by
  rw [candidates, List.length_flatMap]
  simp

theorem exploreRuns_start (space : FiniteScheduleSpace) (world : World) (e : Enumeration) :
    Tallied space world (Exploring.start e) :=
  ⟨rfl, Nat.le_refl _, fun _ => ⟨rfl, List.nodup_nil, rfl, fun k schedule id called _ => by cases called⟩⟩

/-- A result that says it is complete has earned it. -/
theorem exploration_complete {space : FiniteScheduleSpace} {limits : ScheduleExplorationLimits} {world : World}
    (complete : (exploreFiniteSchedules space limits world).complete = true) :
    ∃ d, declare space limits = .ok d ∧
      (d.enumerate world.watch ((world.watch 0).now + d.bounds.time) 1).exhausted = true ∧
      (exploreRuns space d world).1.calls =
        ((d.enumerate world.watch ((world.watch 0).now + d.bounds.time) 1).shapes.flatMap fun steps =>
          space.inputs.map fun input => ⟨space.identity, input.normal, steps⟩) ∧
      (exploreRuns space d world).1.calls.Nodup ∧
      (∃ ids, Earned space world (exploreRuns space d world).1.calls ids
        ((exploreFiniteSchedules space limits world).runs.map RunEntry.category)) ∧
      (exploreFiniteSchedules space limits world).completedRuns =
        (d.enumerate world.watch ((world.watch 0).now + d.bounds.time) 1).shapes.length * space.inputs.length ∧
      (exploreFiniteSchedules space limits world).eligibleRuns =
        some (exploreFiniteSchedules space limits world).completedRuns := by
  unfold exploreFiniteSchedules at complete ⊢
  cases declared : declare space limits with
  | error text =>
    rw [declared] at complete
    cases complete
  | ok d =>
    rw [declared] at complete
    dsimp only at complete ⊢
    rcases ran : exploreRuns space d world with ⟨s, failed⟩
    rw [ran] at complete
    cases failed with
    | some text => cases complete
    | none =>
      dsimp only [elapsed] at complete ⊢
      simp only [Bool.and_eq_true, decide_eq_true_eq, Bool.not_eq_true'] at complete
      rcases complete with ⟨⟨⟨exhausted, attempted⟩, completed⟩, going⟩
      have of := declare_ok declared
      have read := candidates_read of exhausted
      rcases attempts_tallied of (fun c member => (read c member).1) (fun c member => (read c member).2)
        (exploreRuns_start space world _) with ⟨tallied, called⟩
      have loop : attempts space d world ((world.watch 0).now + d.bounds.time)
          (candidates space (d.enumerate world.watch ((world.watch 0).now + d.bounds.time) 1))
            (.start (d.enumerate world.watch ((world.watch 0).now + d.bounds.time) 1)) = (s, none) := ran
      rw [loop] at tallied called
      have calls : s.calls = _ := (called going rfl).trans (List.nil_append _)
      rw [candidates_schedules] at calls
      refine ⟨d, rfl, exhausted, ?_, ?_, ⟨s.ids, ?_⟩, ?_, ?_⟩
      · rw [ran]
        exact calls
      · rw [ran]
        exact calls ▸ schedules_nodup of (of.enumerated exhausted).1
      · rw [ran]
        exact tallied.earned (completed.trans attempted.symm)
      · exact completed
      · rw [if_pos exhausted]
        exact congrArg some completed.symm

end

def soloSpace : @FiniteScheduleSpace integerNumbers.toNumberConversion :=
  letI := integerNumbers
  { identity := soloIdentity
    actors := [⟨⟨js "a", js "run"⟩, [SCHEDULE_COMPLETION]⟩]
    inputs := [.null]
    maxPreemptions := .ofNat 0
    requireModelComparison := false
    baseVariables := [js "n"]
    instrumentationVariables := []
    distinct := null_distinct
    literal := null_literal }

def soloEvent (ordinal : Nat) (kind : String) : Json :=
  .object [(js "ordinal", .number (.ofNat ordinal)), (js "step", .number (.ofNat 0)), (js "actor", .string (js "a")),
    (js "kind", .string (js kind)), (js "checkpoint", .string SCHEDULE_COMPLETION)]

def soloObservation (afterSteps : Nat) (state : Fields Json) : Json :=
  .object [(js "afterSteps", .number (.ofNat afterSteps)), (js "state", .object state)]

/-- The evidence of a run of the one candidate. -/
def soloEvidence (observations : List Json) : Fields Json :=
  [(js "schema", .string (js "mirrors.checkpoint-execution/v1")),
    (js "schedule", CheckpointSchedule.json ⟨soloIdentity, .null, [⟨js "a", SCHEDULE_COMPLETION⟩]⟩),
    (js "actors", .array [ScheduleActor.json ⟨js "a", js "run"⟩]),
    (js "executionId", .string (List.replicate 32 (unit '0'))), (js "cleanup", .string (js "confirmed")),
    (js "remainingActors", .array []), (js "passed", .bool true), (js "scheduleCompleted", .bool true),
    (js "outcome", .string (js "completed")), (js "events", .array [soloEvent 0 "permit", soloEvent 1 "arrival"]),
    (js "observations", .array observations)]

theorem soloEvidence_distinct {observations : List Json} (each : ∀ o ∈ observations, o.KeysDistinct) :
    (Json.object (soloEvidence observations)).KeysDistinct := by
  have event (ordinal : Nat) (kind : String) : (soloEvent ordinal kind).KeysDistinct :=
    .object (by decide : [js "ordinal", js "step", js "actor", js "kind", js "checkpoint"].Nodup)
      (by simp [Json.KeysDistinct.number, Json.KeysDistinct.string])
  have actor : (ScheduleActor.json ⟨js "a", js "run"⟩).KeysDistinct :=
    .object (by decide : [js "actor", js "operation"].Nodup) (by simp [Json.KeysDistinct.string])
  refine .object (by decide : [js "schema", js "schedule", js "actors", js "executionId", js "cleanup", js "remainingActors",
    js "passed", js "scheduleCompleted", js "outcome", js "events", js "observations"].Nodup) ?_
  simp only [soloEvidence, List.forall_mem_cons, List.not_mem_nil, false_implies, implies_true, and_true]
  exact ⟨.string _, schedule_keysDistinct .null, .array (by simp [actor]), .string _, .string _, .array (by simp), .bool _, .bool _,
    .string _, .array (by simp [event]), .array each⟩

theorem ofNat_literal (n : Nat) : letI := integerNumbers
    Double.Literal (.ofNat n) := by
  intro _
  have digits : (decimal n).all isDigit = true := List.all_eq_true.mpr (decimal_isDigit n)
  refine ⟨decimal n, ?_⟩
  show (if decimal n ≠ [] ∧ (decimal n).all isDigit then Double.ofNat (decimalValue (decimal n)) else .nan) = .ofNat n
  rw [if_pos ⟨decimal_ne_nil n, digits⟩, decimalValue_decimal]

theorem soloEvidence_literal {observations : List Json} : letI := integerNumbers
    (∀ o ∈ observations, o.EveryNumber Double.Literal) → (Json.object (soloEvidence observations)).EveryNumber Double.Literal := by
  intro each
  have event (ordinal : Nat) (kind : String) : (soloEvent ordinal kind).EveryNumber (@Double.Literal integerNumbers.toNumberConversion) :=
    .object (by simp [Json.EveryNumber.string, everyNumber_number, ofNat_literal])
  have actor : (ScheduleActor.json ⟨js "a", js "run"⟩).EveryNumber (@Double.Literal integerNumbers.toNumberConversion) :=
    .object (by simp [Json.EveryNumber.string])
  refine .object ?_
  simp only [soloEvidence, List.forall_mem_cons, List.not_mem_nil, false_implies, implies_true, and_true]
  exact ⟨.string _, schedule_everyNumber .null, .array (by simp [actor]), .string _, .string _, .array (by simp), .bool _, .bool _,
    .string _, .array (by simp [event]), .array each⟩

/-- What the runner of the one candidate returns: it observes the counter at 0 and at 1, the second time after `last` steps. -/
def soloReturned (last : Nat) : @Returned integerNumbers.toNumberConversion :=
  letI := integerNumbers
  have distinct (i n : Nat) : (soloObservation i [(js "n", .number (.ofNat n))]).KeysDistinct :=
    have state : (Json.object [(js "n", .number (.ofNat n))]).KeysDistinct :=
      .object (by decide : [js "n"].Nodup) (by simp [Json.KeysDistinct.number])
    .object (by decide : [js "afterSteps", js "state"].Nodup) (by simp [Json.KeysDistinct.number, state])
  have literal (i n : Nat) : (soloObservation i [(js "n", .number (.ofNat n))]).EveryNumber Double.Literal :=
    have state : (Json.object [(js "n", .number (.ofNat n))]).EveryNumber Double.Literal :=
      .object (by simp [everyNumber_number, ofNat_literal])
    .object (by simp [everyNumber_number, ofNat_literal, state])
  .sample (.plain (.object (soloEvidence
      [soloObservation 0 [(js "n", .number (.ofNat 0))], soloObservation last [(js "n", .number (.ofNat 1))]]))
    (soloEvidence_distinct (by simp [distinct])) (soloEvidence_literal (by simp [literal]))) none

def soloWorld (last : Nat) : @World integerNumbers.toNumberConversion :=
  letI := integerNumbers
  { watch := fun _ => ⟨false, 0⟩, runner := fun _ _ => soloReturned last }


theorem soloSpace_complete : letI := integerNumbers
    (exploreFiniteSchedules soloSpace ⟨none, none, none, none⟩ (soloWorld 1)).complete = true := by
  decide +kernel

theorem solo_exploration_complete : letI := integerNumbers
    ∃ d, declare soloSpace ⟨none, none, none, none⟩ = .ok d ∧ (exploreRuns soloSpace d (soloWorld 1)).1.calls.Nodup := by
  let := integerNumbers
  rcases exploration_complete soloSpace_complete with ⟨d, declared, _, _, nodup, _⟩
  exact ⟨d, declared, nodup⟩

end Mirror.Schedule
