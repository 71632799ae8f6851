import MirrorECMA.ECMA.Throws
import MirrorECMA.Machine.History
import MirrorECMA.Replay.EvidenceCounts

namespace Mirror.Replay.MatchedEvidenceTracker

open ECMA
open Mirror.ModelInterface (SemanticDescriptor)
open Machine.Throwing (Ends ends_bind ends_get ends_ite ends_modify ends_pure ends_throw)

variable {Q : Unit → MatchedEvidenceTracker → Prop} {E : MatchedEvidenceError → MatchedEvidenceTracker → Prop}
  {tracker after : MatchedEvidenceTracker} {acc : List LabelledAction} {corpus : List (List JsString)}

/-! ### The place in the corpus -/

/-- The trace that is replayed. -/
def here (corpus : List (List JsString)) (tracker : MatchedEvidenceTracker) : List JsString :=
  corpus.getD (tracker.started - 1) []

/-- With strict acknowledgements, what was accepted is what the corpus has before the present place. -/
structure Underway (corpus : List (List JsString)) (tracker : MatchedEvidenceTracker) (acc : List LabelledAction) : Prop where
  strict : tracker.options.strictAcknowledgements = true
  expects : tracker.options.expectedActions = some corpus
  lengths : tracker.lengths = corpus.map List.length
  incomplete : tracker.complete = false
  traces : tracker.started ≤ corpus.length
  ended : tracker.completed = tracker.started - 1
  unstarted : tracker.started = 0 → tracker.currentMatched = 0
  reports : tracker.reportedCount = acc.length + if tracker.pending.isSome then 1 else 0
  place : acc = (corpus.take (tracker.started - 1)).flatMap labelled ++
    (labelled (here corpus tracker)).take tracker.currentMatched
  asked : ∀ action, tracker.active = some action ∨ tracker.pending = some action →
    0 < tracker.started ∧ (labelled (here corpus tracker))[tracker.currentMatched]? = some action

/-- What holds after any calls. -/
inductive Located (corpus : List (List JsString)) (tracker : MatchedEvidenceTracker) (acc : List LabelledAction) : Prop
  | underway (underway : Underway corpus tracker acc)
    (opened : 0 < tracker.started → tracker.active = none → tracker.pending = none → 0 < tracker.currentMatched)
  | interrupted (shut : tracker.isSealed = true) (incomplete : tracker.complete = false)
  | uncertain (shut : tracker.isSealed = true) (uncertain : tracker.uncertain ≠ [])
  | finished (shut : tracker.isSealed = true) (whole : acc = corpus.flatMap labelled)
    (started : tracker.started = corpus.length) (completed : tracker.completed = corpus.length)
    (reports : tracker.reportedCount = acc.length) (lengths : tracker.lengths = corpus.map List.length)

theorem failed_located (reason : EvidenceUncertainty) : Located corpus (failed tracker reason) acc :=
  .uncertain rfl (failed_uncertain tracker reason)

theorem Underway.inside (underway : Underway corpus tracker acc) (started : 0 < tracker.started) :
    tracker.started - 1 < corpus.length := by
  have traces := underway.traces
  omega

theorem here_eq (inside : tracker.started - 1 < corpus.length) : here corpus tracker = corpus[tracker.started - 1] := by
  simp [here, inside]

theorem Underway.trace_length (underway : Underway corpus tracker acc) (started : 0 < tracker.started) :
    tracker.lengths[tracker.started - 1]? = some (here corpus tracker).length := by
  have inside := underway.inside started
  rw [underway.lengths, List.getElem?_map, List.getElem?_eq_getElem inside, here_eq inside, Option.map_some]

theorem Underway.whole_trace (underway : Underway corpus tracker acc) (started : 0 < tracker.started)
    (full : some tracker.currentMatched = tracker.lengths[tracker.started - 1]?) :
    acc = (corpus.take tracker.started).flatMap labelled := by
  have inside := underway.inside started
  have length : tracker.currentMatched = (here corpus tracker).length := by
    rw [underway.trace_length started] at full
    exact Option.some.inj full
  have split : corpus.take tracker.started = corpus.take (tracker.started - 1) ++ [here corpus tracker] := by
    rw [here_eq inside, ← List.take_succ_eq_append_getElem inside, Nat.sub_add_cancel started]
  have taken : (labelled (here corpus tracker)).take tracker.currentMatched = labelled (here corpus tracker) :=
    List.take_of_length_le (by rw [labelled_length, length])
  rw [underway.place, split, List.flatMap_append, taken]
  simp

theorem commit_idle (idle : tracker.pending = none) (returns : Q () tracker) : Ends commit Q E tracker := by
  unfold commit
  rw [ends_bind, ends_get, idle]
  exact returns

theorem advance_located {initial : Bool} (nonempty : ∀ trace ∈ corpus, trace ≠ []) (underway : Underway corpus tracker acc)
    (opened : 0 < tracker.started → tracker.active = none → tracker.pending = none → 0 < tracker.currentMatched)
    (idle : tracker.active = none) (settled : tracker.pending = none)
    (returns : ∀ after, Underway corpus after acc → after.active = none → after.pending = none → 0 < after.started →
      initial = decide (after.currentMatched = 0) → after.currentMatched < (here corpus after).length → Q () after)
    (throws : ∀ error after reason, E error (failed after reason)) : Ends (advance initial) Q E tracker := by
  unfold advance
  rw [ends_ite]
  constructor
  · intro first
    -- The next trace starts, where there is one.
    have starts {completed : Nat} (place : acc = (corpus.take tracker.started).flatMap labelled)
        (ended : completed = tracker.started) : Ends (do
          if (← get).started = (← get).lengths.length then fail .protocol "extra trace"
          modify fun tracker => { tracker with started := tracker.started + 1, currentMatched := 0, previous := none } : Method Unit)
        Q E { tracker with completed } := by
      rw [ends_bind, ends_get, ends_bind, ends_get, ends_ite]
      constructor
      · intro _
        exact throws _ _ _
      · intro left
        have inside : tracker.started < corpus.length := by
          have left : tracker.started ≠ tracker.lengths.length := left
          rw [underway.lengths, List.length_map] at left
          exact Nat.lt_of_le_of_ne underway.traces left
        apply returns
        · exact {
            strict := underway.strict
            expects := underway.expects
            lengths := underway.lengths
            incomplete := underway.incomplete
            traces := inside
            ended := ended
            unstarted := fun _ => rfl
            reports := by simpa [settled] using underway.reports
            place := by simpa using place
            asked := by simp [idle, settled] }
        · exact idle
        · exact settled
        · exact Nat.succ_pos _
        · simpa using first
        · have length := List.length_pos_iff.mpr (nonempty _ (List.getElem_mem inside))
          simpa [here, inside] using length
    rw [ends_bind, ends_get, ends_ite]
    constructor
    · intro started
      rw [ends_bind]
      apply finishTrace_ends
      · intro _ full
        have ended := underway.ended
        exact starts (underway.whole_trace started full) (by omega)
      · intro error reason
        exact throws error _ reason
    · intro unstarted
      have unstarted : tracker.started = 0 := by omega
      have place := underway.place
      have ended := underway.ended
      rw [unstarted, underway.unstarted unstarted] at place
      exact starts (by simpa [unstarted] using place) (by omega)
  · intro later
    rw [ends_bind, ends_get, ends_bind, ends_get, ends_bind, ends_get, ends_bind, ends_get, ends_ite]
    constructor
    · intro _
      exact throws _ _ _
    · intro within
      rw [not_or] at within
      have started : 0 < tracker.started := Nat.pos_of_ne_zero within.1
      have length := underway.trace_length started
      have matched := opened started idle settled
      apply returns tracker underway idle settled started
      · simp_all
        omega
      · have bound := within.2
        rw [List.getD_eq_getElem?_getD, length] at bound
        simpa using bound

theorem expected_here (underway : Underway corpus tracker acc) (started : 0 < tracker.started) :
    tracker.expected = (here corpus tracker)[tracker.currentMatched]? := by
  have inside := underway.inside started
  rw [here_eq inside]
  simp [expected, underway.expects, Nat.ne_of_gt started, inside]

theorem begin_located {initial : Bool} {wireAction : Option JsString} (nonempty : ∀ trace ∈ corpus, trace ≠ [])
    (underway : Underway corpus tracker acc)
    (opened : 0 < tracker.started → tracker.active = none → tracker.pending = none → 0 < tracker.currentMatched)
    (returns : ∀ after, Located corpus after acc → Q () after)
    (throws : ∀ error after reason, E error (failed after reason)) : Ends (begin initial wireAction) Q E tracker := by
  unfold begin
  rw [ends_bind]
  apply requireOpen_ends
  · intro _
    rw [ends_bind, ends_get, ends_ite]
    constructor
    · intro _
      exact throws _ _ _
    · intro idle
      have idle : tracker.active = none := by simpa using idle
      rw [ends_bind, ends_get]
      cases found : wireAction.bind tracker.labels.get with
      | none => exact throws _ _ _
      | some action =>
        dsimp only
        rw [ends_ite]
        constructor
        · intro _
          exact throws _ _ _
        · intro phase
          have phase : action.initial = initial := by simpa using phase
          rw [ends_bind, ends_get, ends_bind, ends_get, ends_ite]
          constructor
          · intro _
            exact throws _ _ _
          · intro heeded
            have settled : tracker.pending = none := by simpa [underway.strict] using heeded
            rw [ends_bind]
            apply commit_idle settled
            rw [ends_bind]
            apply advance_located nonempty underway opened idle settled
            · intro after moved active pending started first within
              rw [ends_bind, ends_get, ends_ite]
              constructor
              · intro _
                exact throws _ _ _
              · intro agrees
                rw [expected_here moved started, List.getElem?_eq_getElem within] at agrees
                have agrees : (here corpus after)[after.currentMatched] = action.id := by simpa using agrees
                have asked : (labelled (here corpus after))[after.currentMatched]? = some action := by
                  rw [labelled_get, List.getElem?_eq_getElem within, agrees, ← first, ← phase]
                  rfl
                apply returns
                apply Located.underway
                · exact { moved with
                    asked := by
                      intro other held
                      rcases held with now | waiting
                      · cases now
                        exact ⟨started, asked⟩
                      · rw [show after.pending = some other from waiting] at pending
                        cases pending }
                · intro _ now
                  cases now
            · exact throws
  · intro _
    exact fun error => throws error _ _

theorem reported_located (underway : Underway corpus tracker acc) (returns : ∀ after, Located corpus after acc → Q () after)
    (throws : ∀ error after reason, E error (failed after reason)) : Ends reported Q E tracker := by
  unfold reported
  rw [ends_bind]
  apply requireOpen_ends
  · intro _
    rw [ends_bind, ends_get]
    cases active : tracker.active with
    | none => exact throws _ _ _
    | some action =>
      cases pending : tracker.pending with
      | some _ => exact throws _ _ _
      | none =>
        dsimp only
        rw [ends_bind]
        apply increment_ends
        · have reports := underway.reports
          apply returns
          apply Located.underway
          · exact { underway with
              reports := by simpa [pending] using reports
              asked := by
                intro other held
                rcases held with now | waiting
                · cases now
                · cases waiting
                  exact underway.asked action (.inl active) }
          · intro _ _ settled
            cases settled
        · exact fun error => throws error _ _
  · intro _
    exact fun error => throws error _ _

/-- A commit leaves the place behind, or throws. -/
theorem commit_moves {action : LabelledAction} (pending : tracker.pending = some action)
    (returns : ∀ after, after.pending = none → after.currentMatched = tracker.currentMatched + 1 →
      after.started = tracker.started → after.completed = tracker.completed → after.reportedCount = tracker.reportedCount →
      after.active = tracker.active → after.options = tracker.options → after.lengths = tracker.lengths →
      after.complete = tracker.complete → Q () after)
    (throws : ∀ error after reason, E error (failed after reason)) : Ends commit Q E tracker := by
  unfold commit
  rw [ends_bind, ends_get, pending]
  simp only [ends_bind, ends_modify, ends_get]
  refine increment_ends ?_ fun error => throws error _ _
  rw [ends_ite]
  constructor
  · intro _
    simp only [ends_bind, ends_modify, ends_get]
    refine increment_ends ?_ fun error => throws error _ _
    exact returns _ rfl rfl rfl rfl rfl rfl rfl rfl rfl
  · intro _
    simp only [ends_bind, ends_modify, ends_get]
    refine increment_ends ?_ fun error => throws error _ _
    apply countAction_ends
    · intro actions _
      apply countPairs_ends rfl
      · exact returns _ rfl rfl rfl rfl rfl rfl rfl rfl rfl
      · exact fun error _ => throws error _ _
    · exact fun error => throws error _ _

theorem acknowledge_located (underway : Underway corpus tracker acc) (apart : tracker.active = none ∨ tracker.pending = none)
    (returns : ∀ after, Located corpus after (acc ++ tracker.pending.toList) → Q () after)
    (throws : ∀ error after reason, E error (failed after reason)) : Ends acknowledge Q E tracker := by
  unfold acknowledge
  rw [ends_bind]
  apply requireOpen_ends
  · intro _
    rw [ends_bind, ends_get, ends_ite]
    constructor
    · intro _
      exact throws _ _ _
    · intro waiting
      cases pending : tracker.pending with
      | none => simp [pending] at waiting
      | some action =>
        have idle : tracker.active = none := by simpa [pending] using apart
        have ⟨started, asked⟩ := underway.asked action (.inr pending)
        rw [pending] at returns
        apply commit_moves pending
        · intro after settled moved same completed reports active options lengths complete
          have stays : here corpus after = here corpus tracker := by rw [here, here, same]
          have reported := underway.reports
          apply returns
          apply Located.underway
          · exact {
              strict := by rw [options]; exact underway.strict
              expects := by rw [options]; exact underway.expects
              lengths := lengths.trans underway.lengths
              incomplete := complete.trans underway.incomplete
              traces := same ▸ underway.traces
              ended := by rw [completed, same]; exact underway.ended
              unstarted := fun unstarted => absurd (same ▸ started) (by omega)
              reports := by
                rw [reports, reported]
                simp [pending, settled]
              place := by
                rw [stays, same, moved, List.take_add_one, asked, ← List.append_assoc, ← underway.place]
              asked := by simp [active, idle, settled] }
          · intro _ _ _
            omega
        · exact throws
  · intro _
    exact fun error => throws error _ _

theorem done_located (underway : Underway corpus tracker acc)
    (returns : ∀ after, Located corpus after acc → Q () after)
    (throws : ∀ error after reason, E error (failed after reason)) : Ends done Q E tracker := by
  unfold done
  rw [ends_bind]
  apply requireOpen_ends
  · intro _
    rw [ends_bind, ends_get, ends_ite]
    constructor
    · intro _
      exact throws _ _ _
    · intro _
      rw [ends_bind, ends_get, ends_bind, ends_get, ends_ite]
      constructor
      · intro _
        exact throws _ _ _
      · intro heeded
        have settled : tracker.pending = none := by simpa [underway.strict] using heeded
        rw [ends_bind]
        apply commit_idle settled
        rw [ends_bind]
        apply finishTrace_ends
        · intro positive full
          have started := Nat.pos_of_ne_zero positive
          rw [ends_bind, ends_get, ends_bind, ends_get, ends_ite]
          constructor
          · intro _
            exact throws _ _ _
          · intro all
            have all : tracker.started = corpus.length := by simpa [underway.lengths] using all
            have whole := underway.whole_trace started full
            have ended := underway.ended
            have reports := underway.reports
            rw [all, List.take_length] at whole
            apply returns
            refine .finished rfl whole all ?_ ?_ underway.lengths
            · show tracker.completed + 1 = corpus.length
              omega
            · simpa [settled] using reports
        · exact fun error reason => throws error _ reason
  · intro _
    exact fun error => throws error _ _

theorem interrupt_located {rejected : Bool} (underway : Underway corpus tracker acc) (located : Located corpus tracker acc)
    (returns : ∀ after, Located corpus after acc → Q () after)
    (throws : ∀ error after reason, E error (failed after reason)) : Ends (interrupt rejected) Q E tracker := by
  unfold interrupt
  rw [ends_bind, ends_get, ends_ite]
  constructor
  · intro _
    exact returns tracker located
  · intro _
    rw [ends_bind, ends_get, ends_ite]
    constructor
    · intro _
      exact throws _ _ _
    · intro _
      rw [ends_bind, ends_get, ends_ite]
      constructor
      · intro _
        exact returns _ (.interrupted rfl underway.incomplete)
      · intro _
        exact returns _ (.interrupted rfl underway.incomplete)

theorem located_ends {origin : MatchedEvidenceTracker} (nonempty : ∀ trace ∈ corpus, trace ≠ [])
    (tallied : Tallied origin tracker acc) (located : Located corpus tracker acc) (call : Call) :
    Ends call.method (fun _ after => Located corpus after (acc ++ (settled tracker call).toList))
      (fun _ after => Located corpus after (acc ++ (settled tracker call).toList)) tracker := by
  by_cases shut : tracker.isSealed
  · have none : settled tracker call = none := by simp [MatchedEvidenceTracker.settled, shut]
    rw [none, Option.toList_none, List.append_nil]
    exact sealed_ends call shut located fun _ => failed_located _
  · have thrown (more : List LabelledAction) (_ : MatchedEvidenceError) (after : MatchedEvidenceTracker)
        (reason : EvidenceUncertainty) : Located corpus (failed after reason) more := failed_located reason
    have unsettled (more : Option LabelledAction) (none : more = none) : acc ++ more.toList = acc := by simp [none]
    cases tallied with
    | interrupted sealed_ => exact absurd sealed_ shut
    | broken broken => exact absurd broken.shut shut
    | current current =>
      cases located with
      | interrupted sealed_ => exact absurd sealed_ shut
      | uncertain sealed_ => exact absurd sealed_ shut
      | finished sealed_ => exact absurd sealed_ shut
      | underway underway opened =>
        have strict := underway.strict
        cases call with
        | begin initial wireAction =>
          rw [unsettled _ (by simp [MatchedEvidenceTracker.settled, strict])]
          exact begin_located nonempty underway opened (fun _ held => held) (thrown _)
        | reported =>
          rw [unsettled _ (by simp [MatchedEvidenceTracker.settled])]
          exact reported_located underway (fun _ held => held) (thrown _)
        | acknowledge =>
          have taken : settled tracker .acknowledge = tracker.pending := by simp [MatchedEvidenceTracker.settled, shut]
          rw [taken]
          exact acknowledge_located underway current.apart (fun _ held => held) (thrown _)
        | done =>
          rw [unsettled _ (by simp [MatchedEvidenceTracker.settled, strict])]
          exact done_located underway (fun _ held => held) (thrown _)
        | interrupt rejected =>
          rw [unsettled _ (by simp [MatchedEvidenceTracker.settled])]
          exact interrupt_located underway (.underway underway opened) (fun _ held => held) (thrown _)

theorem run_located {origin : MatchedEvidenceTracker} {trace : List Step} (nonempty : ∀ trace ∈ corpus, trace ≠ [])
    (tallied : Tallied origin tracker []) (located : Located corpus tracker []) (run : Run tracker trace after) :
    Tallied origin after (accepted trace) ∧ Located corpus after (accepted trace) := by
  refine run.invariant (P := fun trace after => Tallied origin after (accepted trace) ∧ Located corpus after (accepted trace))
    ⟨tallied, located⟩ ?_
  intro trace before call result after held stepped
  rw [accepted_snoc]
  exact ⟨step_ends (tallied_ends held.1 call) stepped, step_ends (located_ends nonempty held.1 held.2 call) stepped⟩

/-! ### A new tracker -/

theorem requireActions_ok {ids rest : List JsString} {actions required : JsMap JsString Nat}
    (accepted : requireActions ids actions rest = .ok required) : required = actions ++ rest.map (·, 0) := by
  induction rest generalizing actions with
  | nil =>
    cases accepted
    simp
  | cons id rest ih =>
    unfold requireActions at accepted
    split at accepted
    · cases accepted
    · rename_i fresh
      rw [not_or] at fresh
      have fresh : id ∉ JsMap.keys actions := by
        rw [← JsMap.get_eq_none]
        simpa using fresh.2
      rw [ih accepted, JsMap.set_fresh fresh, List.append_assoc]
      rfl

theorem requirePairs_ok {ids : List JsString} {keys rest : List (JsString × JsString)} {required : List RequiredPair}
    (accepted : requirePairs ids keys rest = .ok required) : required = rest.map fun pair => ⟨pair.1, pair.2, 0⟩ := by
  induction rest generalizing keys required with
  | nil =>
    cases accepted
    rfl
  | cons pair rest ih =>
    unfold requirePairs at accepted
    split at accepted
    · cases accepted
    · split at accepted
      · cases accepted
      · cases found : requirePairs ids (pair :: keys) rest with
        | error =>
          rw [found] at accepted
          cases accepted
        | ok more =>
          rw [found] at accepted
          cases accepted
          rw [List.map_cons, ← ih found]

/-- A new tracker has every counter at zero. -/
theorem create_ok {descriptor : ModelInterface.Unknown} {requiredActions : List JsString}
    {requiredPairs : List (JsString × JsString)} {counts : List Double} {options : EvidenceOptions}
    (created : create descriptor requiredActions requiredPairs counts options = .ok tracker) :
    (∃ labels, tracker = {
      actions := requiredActions.map (·, 0)
      pairs := requiredPairs.map fun pair => ⟨pair.1, pair.2, 0⟩
      labels := labels
      lengths := counts.map fun n => (n.toInt?.getD 0).toNat
      options := options }) ∧ ∀ n ∈ counts, 1 ≤ n.toInt?.getD 0 := by
  unfold create at created
  rw [bind_eq_ok] at created
  rcases created with ⟨parsed, -, created⟩
  split at created
  · cases created
  · rename_i valid
    dsimp only at created
    split at created
    · cases created
    · rw [bind_eq_ok] at created
      rcases created with ⟨actions, required, created⟩
      rw [bind_eq_ok] at created
      rcases created with ⟨pairs, paired, created⟩
      rw [bind_eq_ok] at created
      rcases created with ⟨labels, -, created⟩
      cases created
      constructor
      · refine ⟨labels, ?_⟩
        rw [requireActions_ok required, requirePairs_ok paired]
        rfl
      · intro n member
        simp only [not_or, List.any_eq_true, not_exists, not_and, Bool.or_eq_true, decide_eq_true_eq] at valid
        exact Int.not_lt.mp (valid.2.2 n member).2

/-! ### Exact evidence -/

/-- The evidence says of the corpus what is to be counted in it. -/
structure CorpusMatched (requiredActions : List JsString) (requiredPairs : List (JsString × JsString))
    (corpus : List (List JsString)) (evidence : MatchedEvidence) : Prop where
  started : evidence.tracesStarted = evidence.tracesSelected
  completed : evidence.tracesCompleted = evidence.tracesSelected
  initial : evidence.initialStatesMatched = evidence.tracesSelected
  reported : evidence.initialStatesMatched + evidence.transitionsMatched = evidence.statesReported
  states : evidence.statesReported = (corpus.map List.length).sum
  actions : ∀ id ∈ requiredActions,
    JsMap.get evidence.requiredActionCounts id = some (corpus.map fun trace => trace.tail.count id).sum
  pairs : evidence.requiredPairCounts = requiredPairs.map fun pair =>
    ⟨pair.1, pair.2, (corpus.flatMap fun trace => adjacent trace.tail).count pair⟩

theorem labelled_total (corpus : List (List JsString)) : (corpus.flatMap labelled).length = (corpus.map List.length).sum := by
  rw [List.length_flatMap]
  exact congrArg List.sum (List.map_congr_left fun trace _ => labelled_length trace)

/-- The pairs are told apart by what they require. -/
theorem pairs_counted {pairs : List RequiredPair} {required : List (JsString × JsString)} {count : JsString × JsString → Nat}
    (requires : pairs.map (fun pair => (pair.source, pair.target)) = required)
    (counted : ∀ pair ∈ pairs, pair.count = count (pair.source, pair.target)) :
    pairs = required.map fun pair => ⟨pair.1, pair.2, count pair⟩ := by
  rw [← requires, List.map_map]
  apply List.ext_getElem (by simp)
  intro index inside _
  have found := counted _ (List.getElem_mem inside)
  simp [← found]

theorem Located.matched {origin : MatchedEvidenceTracker} {requiredActions : List JsString}
    {requiredPairs : List (JsString × JsString)}
    (located : Located corpus tracker acc) (tallied : Tallied origin tracker acc) (nonempty : ∀ trace ∈ corpus, trace ≠ [])
    (actions : origin.actions = requiredActions.map (·, 0))
    (pairs : origin.pairs = requiredPairs.map fun pair => ⟨pair.1, pair.2, 0⟩)
    (complete : tracker.complete = true) (certain : tracker.uncertain = []) :
    CorpusMatched requiredActions requiredPairs corpus tracker.snapshot := by
  have counted := tallied.exact certain
  cases located with
  | underway underway => exact absurd (complete.symm.trans underway.incomplete) (by decide)
  | interrupted _ incomplete => exact absurd (complete.symm.trans incomplete) (by decide)
  | uncertain _ uncertain => exact absurd certain uncertain
  | finished _ whole started completed reports lengths =>
    have selected : tracker.lengths.length = corpus.length := by rw [lengths, List.length_map]
    have initial : tracker.initialMatched = corpus.length := by rw [counted.initial, whole, initials_corpus nonempty]
    have total : tracker.initialMatched + tracker.transitionMatched = acc.length := by
      rw [counted.initial, counted.transitions, List.length_eq_countP_add_countP (·.initial)]
      simp
    have sum : acc.length = (corpus.map List.length).sum := by rw [whole, labelled_total]
    refine ⟨started.trans selected.symm, completed.trans selected.symm, initial.trans selected.symm, total.trans reports.symm,
      reports.trans sum, ?_, ?_⟩
    · intro id member
      have known : (tracker.actions.get id).isSome := by
        have listed : id ∈ JsMap.keys origin.actions := by simpa [actions, JsMap.keys, Function.comp_def] using member
        rw [counted.kept.actions, Option.isSome_iff_ne_none, ne_eq, JsMap.get_eq_none, not_not]
        exact listed
      rcases Option.isSome_iff_exists.mp known with ⟨count, found⟩
      show tracker.actions.get id = _
      rw [found, counted.actions id count found, whole, actionCount_corpus]
    · apply pairs_counted
      · show tracker.pairs.map (fun pair => (pair.source, pair.target)) = requiredPairs
        rw [counted.kept.pairs, pairs]
        simp [Function.comp_def]
      · intro pair member
        rw [counted.pairs pair member, whole, following_corpus none nonempty]

/-! ### Every run of a new tracker -/

variable {descriptor : ModelInterface.Unknown} {requiredActions : List JsString} {requiredPairs : List (JsString × JsString)}
  {counts : List Double} {options : EvidenceOptions}

theorem create_tallied (created : create descriptor requiredActions requiredPairs counts options = .ok tracker) :
    Tallied tracker tracker [] := by
  rcases create_ok created with ⟨⟨labels, rfl⟩, -⟩
  apply Tallied.current
  refine ⟨⟨⟨rfl, rfl, ?_, ?_⟩, Kept.refl _⟩, fun _ _ => rfl, .inl rfl⟩
  · intro id count found
    rcases List.mem_map.mp (JsMap.mem_of_get found) with ⟨_, _, same⟩
    cases same
    rfl
  · intro pair member
    rcases List.mem_map.mp member with ⟨_, _, rfl⟩
    rfl

/-- The corpus has one action for each declared state. -/
def Declares (counts : List Double) (corpus : List (List JsString)) : Prop :=
  counts.map (·.toInt?) = corpus.map fun trace => some (trace.length : Int)

theorem Declares.nonempty (declares : Declares counts corpus) (positive : ∀ n ∈ counts, 1 ≤ n.toInt?.getD 0) :
    ∀ trace ∈ corpus, trace ≠ [] := by
  intro trace member
  have listed : some (trace.length : Int) ∈ counts.map (·.toInt?) := by
    rw [declares]
    exact List.mem_map_of_mem member
  rcases List.mem_map.mp listed with ⟨n, known, same⟩
  have length := positive n known
  rw [same, Option.getD_some] at length
  exact List.ne_nil_of_length_pos (by omega)

theorem Declares.lengths (declares : Declares counts corpus) :
    (counts.map fun n => (n.toInt?.getD 0).toNat) = corpus.map List.length := by
  have same := congrArg (List.map fun n : Option Int => (n.getD 0).toNat) declares
  simpa [Function.comp_def] using same

theorem create_located (created : create descriptor requiredActions requiredPairs counts options = .ok tracker)
    (strict : options.strictAcknowledgements = true) (expects : options.expectedActions = some corpus)
    (declares : Declares counts corpus) : Located corpus tracker [] := by
  rcases create_ok created with ⟨⟨labels, rfl⟩, -⟩
  apply Located.underway
  · exact {
      strict := strict
      expects := expects
      lengths := declares.lengths
      incomplete := rfl
      traces := Nat.zero_le _
      ended := rfl
      unstarted := fun _ => rfl
      reports := rfl
      place := by simp
      asked := by simp }
  · intro started
    exact absurd started (Nat.lt_irrefl 0)

theorem mem_uncertainty {reason : EvidenceUncertainty} : reason ∈ tracker.snapshot.uncertainty ↔ reason ∈ tracker.uncertain := by
  have ordered : reason ∈ uncertaintyOrder := by cases reason <;> decide
  simp [snapshot, ordered]

/-- After any calls, and whatever they threw: exact evidence of the whole corpus has counted the corpus, no count exceeds that
of the observations that were settled, and with strict acknowledgements only an overflow makes it differ from theirs. -/
theorem matchedEvidence_of_run {trace : List Step}
    (created : create descriptor requiredActions requiredPairs counts options = .ok tracker) (run : Run tracker trace after) :
    (∀ corpus, options.strictAcknowledgements = true → options.expectedActions = some corpus → Declares counts corpus →
      after.snapshot.corpusCompleted = true → after.snapshot.exact = true →
        CorpusMatched requiredActions requiredPairs corpus after.snapshot) ∧
    Counted (· ≤ ·) after (accepted trace) ∧
    (options.strictAcknowledgements = true → .counter_overflow ∉ after.snapshot.uncertainty →
      Counted Eq after (accepted trace)) := by
  have tallied := run_tallied (create_tallied created) run
  rcases create_ok created with ⟨⟨labels, fields⟩, positive⟩
  refine ⟨?_, tallied.bounded.toCounted, ?_⟩
  · intro corpus strict expects declares complete exact_
    have nonempty := declares.nonempty positive
    have located := (run_located nonempty (create_tallied created) (create_located created strict expects declares) run).2
    apply located.matched tallied nonempty (by rw [fields]) (by rw [fields]) complete
    simpa [snapshot] using exact_
  · intro strict certain
    apply (tallied.strictly ?_ (mt mem_uncertainty.mpr certain)).toCounted
    rw [tallied.bounded.kept.options, fields]
    exact strict

def tap : SemanticDescriptor where
  interfaceVersion := js "1.0.0"
  module := js "Tap"
  runProfile := ⟨none, [], []⟩
  initializers := [⟨js "INIT", .initialization, js "init", [], []⟩]
  actions := [⟨js "TAP", .transition, js "tap", [], []⟩]
  observations := [⟨js "ON", js "on", .scalar .bool⟩]

/-- A tracker for one trace of three states. -/
def tapTracker (strict : Bool) : Constructed MatchedEvidenceTracker :=
  create (some tap.toJson) [js "TAP"] [(js "TAP", js "TAP")] [.ofNat 3] ⟨strict, some [[js "INIT", js "TAP", js "TAP"]]⟩

/-- A run over the whole corpus, each observation acknowledged. -/
def taps : List Call :=
  [.begin true (some (js "init")), .reported, .acknowledge, .begin false (some (js "tap")), .reported, .acknowledge,
    .begin false (some (js "tap")), .reported, .acknowledge, .done]

def exactly (after : MatchedEvidenceTracker) : Bool :=
  after.snapshot.corpusCompleted && after.snapshot.exact && decide (.counter_overflow ∉ after.snapshot.uncertainty)

theorem taps_exact : Machine.reaches step (tapTracker true) taps (fun _ after => exactly after) = true := by
  decide +kernel

theorem taps_matched : ∃ tracker trace after, tapTracker true = .ok tracker ∧ Run tracker trace after ∧
    CorpusMatched [js "TAP"] [(js "TAP", js "TAP")] [[js "INIT", js "TAP", js "TAP"]] after.snapshot ∧
    Counted (· ≤ ·) after (accepted trace) ∧ Counted Eq after (accepted trace) := by
  rcases Machine.reaches_run taps_exact with ⟨tracker, trace, after, created, run, checked⟩
  have held := matchedEvidence_of_run created run
  simp only [exactly, Bool.and_eq_true, decide_eq_true_eq] at checked
  have declares : Declares [.ofNat 3] [[js "INIT", js "TAP", js "TAP"]] := by
    unfold Declares
    decide +kernel
  exact ⟨tracker, trace, after, created, run, held.1 _ rfl rfl declares checked.1.1 checked.1.2, held.2.1,
    held.2.2 rfl checked.2⟩

/-- Two calls and an action that follows. -/
def hasty : List Call := [.begin true (some (js "init")), .reported, .begin false (some (js "tap"))]

def acknowledges (call : Call) : Bool :=
  match call with
  | .acknowledge => true
  | _ => false

theorem hasty_counts : Machine.reaches step (tapTracker false) hasty (fun trace after =>
    trace.all (fun t => !acknowledges t.input) && decide (after.snapshot.initialStatesMatched = 1)) = true := by
  decide +kernel

/-- Without strict acknowledgements the next action settles an observation that was never acknowledged. -/
theorem hasty_unacknowledged : ∃ tracker trace after, tapTracker false = .ok tracker ∧ Run tracker trace after ∧
    (∀ t ∈ trace, acknowledges t.input = false) ∧ after.snapshot.initialStatesMatched = 1 := by
  rcases Machine.reaches_run hasty_counts with ⟨tracker, trace, after, created, run, checked⟩
  rw [Bool.and_eq_true, List.all_eq_true, decide_eq_true_eq] at checked
  exact ⟨tracker, trace, after, created, run, fun t member => by simpa using checked.1 t member, checked.2⟩

end Mirror.Replay.MatchedEvidenceTracker
