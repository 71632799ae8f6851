import MirrorECMA.Replay.EvidenceRuns

namespace Mirror.Replay.MatchedEvidenceTracker

open ECMA
open Machine.Throwing (Ends ends_bind ends_get ends_ite ends_modify ends_pure ends_throw)

variable {Q : Unit → MatchedEvidenceTracker → Prop} {E : MatchedEvidenceError → MatchedEvidenceTracker → Prop}
  {origin tracker after : MatchedEvidenceTracker} {acc : List LabelledAction}

/-! ### One more observation -/

theorem actionCount_append (id : JsString) (acc : List LabelledAction) {action : LabelledAction}
    (transition : action.initial = false) :
    actionCount id (acc ++ [action]) = actionCount id acc + if action.id = id then 1 else 0 := by
  rw [actionCount, actionCount, List.countP_append, List.countP_singleton]
  simp [transition]

theorem following_initial {acc : List LabelledAction} {action : LabelledAction} (initial : action.initial = true) :
    following none (acc ++ [action]) = following none acc := by
  rw [following_append]
  simp [following, initial]

theorem following_transition (acc : List LabelledAction) {action : LabelledAction} (transition : action.initial = false)
    (source target : JsString) : (following none (acc ++ [action])).count (source, target) =
      (following none acc).count (source, target) + if some source = lastTransition none acc ∧ target = action.id then 1 else 0 := by
  have more : following (lastTransition none acc) [action] = ((lastTransition none acc).map (·, action.id)).toList := by
    simp [following, transition]
  rw [following_append, List.count_append, more]
  cases lastTransition none acc with
  | none => simp
  | some previous =>
    simp only [Option.map_some, Option.toList_some, List.count_singleton, beq_iff_eq, Prod.mk.injEq, Option.some.injEq,
      @eq_comm _ previous source, @eq_comm _ action.id target]

/-- What the options, the lengths and the labels have in common. -/
def SameTerms (tracker after : MatchedEvidenceTracker) : Prop :=
  after.labels = tracker.labels ∧ after.lengths = tracker.lengths ∧ after.options = tracker.options

theorem Kept.same (kept : Kept origin tracker) (actions : after.actions = tracker.actions) (pairs : after.pairs = tracker.pairs)
    (terms : SameTerms tracker after) : Kept origin after :=
  kept.trans ⟨fun id => by rw [actions], by rw [pairs], terms.1, terms.2.1, terms.2.2⟩

/-- How the counts compare with the accepted observations, for the requirements of the origin. -/
structure Tally (R : Nat → Nat → Prop) (origin tracker : MatchedEvidenceTracker) (acc : List LabelledAction) : Prop
    extends Counted R tracker acc where
  kept : Kept origin tracker

theorem Tally.bounded (counted : Tally Eq origin tracker acc) : Tally (· ≤ ·) origin tracker acc :=
  ⟨counted.toCounted.bounded, counted.kept⟩

theorem Tally.later (counted : Tally (· ≤ ·) origin tracker acc) (more : List LabelledAction) :
    Tally (· ≤ ·) origin tracker (acc ++ more) :=
  ⟨counted.toCounted.later more, counted.kept⟩

/-- No observation is under way, and all that were settled are counted. -/
structure Settled (origin tracker : MatchedEvidenceTracker) (acc : List LabelledAction) : Prop where
  counted : Tally Eq origin tracker acc
  previous : tracker.previous = lastTransition none acc
  active : tracker.active = none
  pending : tracker.pending = none

/-- A call has thrown. -/
structure Broken (origin tracker : MatchedEvidenceTracker) (acc : List LabelledAction) : Prop where
  shut : tracker.isSealed = true
  uncertain : tracker.uncertain ≠ []
  bounded : Tally (· ≤ ·) origin tracker acc
  strictly : tracker.options.strictAcknowledgements = true → .counter_overflow ∉ tracker.uncertain → Tally Eq origin tracker acc

/-- The counts are those of a tracker that differs in its position only. -/
theorem Tally.same {R : Nat → Nat → Prop} (counted : Tally R origin tracker acc)
    (initial : after.initialMatched = tracker.initialMatched) (transitions : after.transitionMatched = tracker.transitionMatched)
    (actions : after.actions = tracker.actions) (pairs : after.pairs = tracker.pairs) (terms : SameTerms tracker after) :
    Tally R origin after acc where
  initial := initial ▸ counted.initial
  transitions := transitions ▸ counted.transitions
  actions id count found := counted.actions id count (actions ▸ found)
  pairs pair member := counted.pairs pair (pairs ▸ member)
  kept := counted.kept.same actions pairs terms

theorem failed_overflow {reason : EvidenceUncertainty} (none : .counter_overflow ∉ (failed tracker reason).uncertain) :
    reason ≠ .counter_overflow ∧ .counter_overflow ∉ tracker.uncertain := by
  by_cases member : reason ∈ tracker.uncertain
  · simp only [failed, member, if_true] at none
    exact ⟨fun same => none (same ▸ member), none⟩
  · simp only [failed, member, if_false, List.mem_append, List.mem_singleton, not_or] at none
    exact ⟨Ne.symm none.2, none.1⟩

theorem Tally.broken (bounded : Tally (· ≤ ·) origin tracker acc) (reason : EvidenceUncertainty)
    (strictly : tracker.options.strictAcknowledgements = true → reason ≠ .counter_overflow →
      .counter_overflow ∉ tracker.uncertain → Tally Eq origin tracker acc) : Broken origin (failed tracker reason) acc where
  shut := rfl
  uncertain := failed_uncertain tracker reason
  bounded := bounded.same rfl rfl rfl rfl ⟨rfl, rfl, rfl⟩
  strictly strict none :=
    have ⟨other, certain⟩ := failed_overflow none
    (strictly strict other certain).same rfl rfl rfl rfl ⟨rfl, rfl, rfl⟩

theorem Tally.fails (counted : Tally Eq origin tracker acc) (reason : EvidenceUncertainty) :
    Broken origin (failed tracker reason) acc := counted.bounded.broken reason fun _ _ _ => counted

theorem Tally.overflows (bounded : Tally (· ≤ ·) origin tracker acc) : Broken origin (failed tracker .counter_overflow) acc :=
  bounded.broken _ fun _ other => absurd rfl other

theorem counted_initial {action : LabelledAction} (counted : Tally Eq origin tracker acc) (initial : action.initial = true)
    (first : after.initialMatched = tracker.initialMatched + 1) (transitions : after.transitionMatched = tracker.transitionMatched)
    (actions : after.actions = tracker.actions) (pairs : after.pairs = tracker.pairs) (terms : SameTerms tracker after) :
    Tally Eq origin after (acc ++ [action]) where
  initial := by
    rw [first, counted.initial, List.countP_append, List.countP_singleton, if_pos initial]
  transitions := by
    rw [transitions, counted.transitions, List.countP_append]
    simp [initial]
  actions id count found := by
    rw [counted.actions id count (actions ▸ found), actionCount, actionCount, List.countP_append]
    simp [initial]
  pairs pair member := by
    rw [counted.pairs pair (pairs ▸ member), following_initial initial]
  kept := counted.kept.same actions pairs terms

theorem bump_requires (previous : Option JsString) (id : JsString) (pairs : List RequiredPair) :
    (pairs.map (bump previous id)).map (fun pair => (pair.source, pair.target)) =
      pairs.map fun pair => (pair.source, pair.target) := by
  rw [List.map_map]
  apply List.map_congr_left
  intro pair _
  by_cases matches_ : some pair.source = previous ∧ pair.target = id
  · simp [bump, matches_]
  · simp [bump, matches_]

theorem counted_transition {action : LabelledAction} (counted : Tally Eq origin tracker acc) (transition : action.initial = false)
    (previous : tracker.previous = lastTransition none acc) (first : after.initialMatched = tracker.initialMatched)
    (transitions : after.transitionMatched = tracker.transitionMatched + 1)
    (actions : ∀ other, after.actions.get other =
      (tracker.actions.get other).map fun count => if other = action.id then count + 1 else count)
    (pairs : after.pairs = tracker.pairs.map (bump tracker.previous action.id)) (terms : SameTerms tracker after) :
    Tally Eq origin after (acc ++ [action]) where
  initial := by
    rw [first, counted.initial, List.countP_append]
    simp [transition]
  transitions := by
    rw [transitions, counted.transitions, List.countP_append]
    simp [transition]
  actions id count found := by
    rw [actions, Option.map_eq_some_iff] at found
    rcases found with ⟨old, known, rfl⟩
    rw [actionCount_append id acc transition, ← counted.actions id old known]
    by_cases same : id = action.id
    · simp [same]
    · simp [same, Ne.symm same]
  pairs pair member := by
    rw [pairs, List.mem_map] at member
    rcases member with ⟨old, known, rfl⟩
    have tally := counted.pairs old known
    by_cases matches_ : some old.source = tracker.previous ∧ old.target = action.id
    · rw [bump, if_pos matches_, following_transition acc transition, if_pos (previous ▸ matches_), ← tally]
    · rw [bump, if_neg matches_, following_transition acc transition, if_neg (previous ▸ matches_), ← tally, Nat.add_zero]
  kept := by
    apply counted.kept.trans
    refine ⟨fun id => ?_, ?_, terms.1, terms.2.1, terms.2.2⟩
    · rw [actions, Option.isSome_map]
    · rw [pairs, bump_requires]

/-- A pair that was counted, or not yet, when a counter overflowed. -/
theorem counted_partly {action : LabelledAction} {k : Nat} (counted : Tally Eq origin tracker acc)
    (transition : action.initial = false) (previous : tracker.previous = lastTransition none acc)
    (initial : after.initialMatched = tracker.initialMatched)
    (transitions : after.transitionMatched = tracker.transitionMatched + 1)
    (actions : ∀ other, after.actions.get other =
      (tracker.actions.get other).map fun count => if other = action.id then count + 1 else count)
    (pairs : after.pairs = (tracker.pairs.take k).map (bump tracker.previous action.id) ++ tracker.pairs.drop k)
    (terms : SameTerms tracker after) :
    Tally (· ≤ ·) origin after (acc ++ [action]) := by
  have whole : Tally Eq origin { after with pairs := tracker.pairs.map (bump tracker.previous action.id) } (acc ++ [action]) :=
    counted_transition counted transition previous initial transitions actions rfl terms
  have requires : after.pairs.map (fun pair => (pair.source, pair.target)) =
      tracker.pairs.map fun pair => (pair.source, pair.target) := by
    rw [pairs, List.map_append, bump_requires, ← List.map_append, List.take_append_drop]
  refine ⟨⟨whole.bounded.initial, whole.bounded.transitions, whole.bounded.actions, ?_⟩,
    ⟨whole.kept.actions, requires.trans counted.kept.pairs, whole.kept.labels, whole.kept.lengths, whole.kept.options⟩⟩
  intro pair member
  rw [pairs, List.mem_append] at member
  rcases member with early | late
  · rcases List.mem_map.mp early with ⟨old, known, rfl⟩
    exact whole.bounded.pairs _ (List.mem_map_of_mem (List.mem_of_mem_take known))
  · exact (counted.bounded.later [action]).pairs pair (List.mem_of_mem_drop late)

/-- The pending observation is counted, or the tracker is sealed and counts no more than there are. -/
theorem commit_ends (counted : Tally Eq origin tracker acc) (active : tracker.active = none)
    (previous : (∀ action, tracker.pending = some action → action.initial = false) → tracker.previous = lastTransition none acc)
    (returns : ∀ after, Settled origin after (acc ++ tracker.pending.toList) → Q () after)
    (throws : ∀ error after, Broken origin after (acc ++ tracker.pending.toList) → E error after) : Ends commit Q E tracker := by
  unfold commit
  rw [ends_bind, ends_get]
  cases found : tracker.pending with
  | none =>
    rw [found, Option.toList_none, List.append_nil] at returns
    exact returns tracker ⟨counted, previous (by simp [found]), active, found⟩
  | some action =>
    rw [found, Option.toList_some] at returns throws
    have bounded : Tally (· ≤ ·) origin tracker (acc ++ [action]) := counted.bounded.later [action]
    have breaks {after : MatchedEvidenceTracker} (bounded : Tally (· ≤ ·) origin after (acc ++ [action]))
        (error : MatchedEvidenceError) : E error (failed after .counter_overflow) := throws error _ bounded.overflows
    simp only [ends_bind, ends_modify, ends_get]
    refine increment_ends ?_ (breaks (bounded.same rfl rfl rfl rfl ⟨rfl, rfl, rfl⟩))
    rw [ends_ite]
    constructor
    · intro initial
      simp only [ends_bind, ends_modify, ends_get]
      refine increment_ends ?_ (breaks (bounded.same rfl rfl rfl rfl ⟨rfl, rfl, rfl⟩))
      apply returns
      refine ⟨counted_initial counted initial rfl rfl rfl rfl ⟨rfl, rfl, rfl⟩, ?_, active, rfl⟩
      rw [lastTransition_append]
      simp [lastTransition, initial]
    · intro transition
      have transition : action.initial = false := Bool.not_eq_true _ ▸ transition
      have last : tracker.previous = lastTransition none acc := previous (by simp [found, transition])
      simp only [ends_bind, ends_modify, ends_get]
      refine increment_ends ?_ (breaks (bounded.same rfl rfl rfl rfl ⟨rfl, rfl, rfl⟩))
      have raised : tracker.transitionMatched + 1 ≤ (acc ++ [action]).countP (!·.initial) := by
        rw [counted.transitions, List.countP_append]
        simp [transition]
      apply countAction_ends
      · intro actions more
        have more : ∀ other, actions.get other =
            (tracker.actions.get other).map fun count => if other = action.id then count + 1 else count := more
        apply countPairs_ends rfl
        · apply returns
          refine ⟨counted_transition counted transition last (by rfl) (by rfl) more (by rfl) (by exact ⟨rfl, rfl, rfl⟩),
            ?_, active, rfl⟩
          rw [lastTransition_append]
          simp [lastTransition, transition]
        · intro error k
          apply breaks
          exact counted_partly counted transition last (by rfl) (by rfl) more (by rfl) (by exact ⟨rfl, rfl, rfl⟩)
      · exact breaks ⟨⟨bounded.initial, raised, bounded.actions, bounded.pairs⟩, bounded.kept.same rfl rfl ⟨rfl, rfl, rfl⟩⟩

/-! ### Calls -/

/-- An open tracker has counted every observation that was settled. -/
structure Current (origin tracker : MatchedEvidenceTracker) (acc : List LabelledAction) : Prop where
  counted : Tally Eq origin tracker acc
  previous : (∀ action, tracker.pending = some action → action.initial = false) →
    (∀ action, tracker.active = some action → action.initial = false) → tracker.previous = lastTransition none acc
  apart : tracker.active = none ∨ tracker.pending = none

theorem Current.broken (current : Current origin tracker acc) {more : List LabelledAction}
    (unsettled : tracker.options.strictAcknowledgements = true → more = []) (reason : EvidenceUncertainty) :
    Broken origin (failed tracker reason) (acc ++ more) := by
  apply (current.counted.bounded.later more).broken reason
  intro strict _ _
  rw [unsettled strict, List.append_nil]
  exact current.counted

theorem Settled.current (settled : Settled origin tracker acc) : Current origin tracker acc :=
  ⟨settled.counted, fun _ _ => settled.previous, .inl settled.active⟩

theorem finishTrace_ends (returns : tracker.started ≠ 0 → some tracker.currentMatched = tracker.lengths[tracker.started - 1]? →
      Q () { tracker with completed := tracker.completed + 1 })
    (throws : ∀ error reason, E error (failed tracker reason)) : Ends finishTrace Q E tracker := by
  unfold finishTrace
  rw [ends_bind, ends_get, ends_ite]
  constructor
  · intro _
    exact throws _ _
  · intro full
    rw [not_or, not_not] at full
    rw [ends_bind]
    exact increment_ends (returns full.1 full.2) fun error => throws error _

theorem advance_ends {initial : Bool} (settled : Settled origin tracker acc)
    (returns : ∀ after, Tally Eq origin after acc → after.active = none → after.pending = none →
      (initial = false → after.previous = lastTransition none acc) → Q () after)
    (throws : ∀ error after, Broken origin after acc → E error after) : Ends (advance initial) Q E tracker := by
  have breaks {after : MatchedEvidenceTracker} (counted : Tally Eq origin after acc) (reason : EvidenceUncertainty)
      (error : MatchedEvidenceError) : E error (failed after reason) := throws error _ (counted.fails reason)
  have counted := settled.counted
  unfold advance
  rw [ends_ite]
  constructor
  · intro _
    -- The next trace starts, where there is one.
    have starts {after : MatchedEvidenceTracker} (counted : Tally Eq origin after acc) (active : after.active = none)
        (pending : after.pending = none) : Ends (do
          if (← get).started = (← get).lengths.length then fail .protocol "extra trace"
          modify fun tracker => { tracker with started := tracker.started + 1, currentMatched := 0, previous := none } : Method Unit)
        Q E after := by
      simp only [ends_bind, ends_get, ends_ite, ends_modify]
      constructor
      · intro _
        exact breaks counted _ _
      · intro _
        refine returns _ (counted.same rfl rfl rfl rfl ⟨rfl, rfl, rfl⟩) active pending fun transition => ?_
        simp_all
    rw [ends_bind, ends_get, ends_ite]
    constructor
    · intro _
      rw [ends_bind]
      apply finishTrace_ends
      · intro _ _
        exact starts (counted.same rfl rfl rfl rfl ⟨rfl, rfl, rfl⟩) settled.active settled.pending
      · intro error reason
        exact breaks counted reason error
    · intro _
      exact starts counted settled.active settled.pending
  · intro _
    simp only [ends_bind, ends_get, ends_ite, ends_pure]
    constructor
    · intro _
      exact breaks counted _ _
    · intro _
      exact returns tracker counted settled.active settled.pending fun _ => settled.previous

theorem begin_ends {initial : Bool} {wireAction : Option JsString} (current : Current origin tracker acc)
    (returns : ∀ after, Current origin after (acc ++ (settled tracker (.begin initial wireAction)).toList) → Q () after)
    (throws : ∀ error after, Broken origin after (acc ++ (settled tracker (.begin initial wireAction)).toList) → E error after) :
    Ends (begin initial wireAction) Q E tracker := by
  have breaks (reason : EvidenceUncertainty) (error : MatchedEvidenceError) : E error (failed tracker reason) :=
    throws error _ (current.broken (fun strict => by simp [MatchedEvidenceTracker.settled, strict]) reason)
  unfold begin
  rw [ends_bind]
  apply requireOpen_ends
  · intro isOpen
    rw [ends_bind, ends_get, ends_ite]
    constructor
    · intro _
      exact breaks _ _
    · intro idle
      have idle : tracker.active = none := by simpa using idle
      rw [ends_bind, ends_get]
      cases found : wireAction.bind tracker.labels.get with
      | none => exact breaks _ _
      | some action =>
        dsimp only
        rw [ends_ite]
        constructor
        · intro _
          exact breaks _ _
        · intro phase
          have phase : action.initial = initial := by simpa using phase
          rw [ends_bind, ends_get, ends_bind, ends_get, ends_ite]
          constructor
          · intro _
            exact breaks _ _
          · intro heeded
            have taken : settled tracker (.begin initial wireAction) = tracker.pending := by
              by_cases strict : tracker.options.strictAcknowledgements
              · simp_all [MatchedEvidenceTracker.settled]
              · simp [MatchedEvidenceTracker.settled, isOpen, strict]
            rw [taken] at returns throws
            rw [ends_bind]
            apply commit_ends current.counted idle fun transition => current.previous transition (by simp [idle])
            · intro after committed
              rw [ends_bind]
              apply advance_ends committed
              · intro after counted active pending previous
                rw [ends_bind, ends_get, ends_ite]
                constructor
                · intro _
                  exact throws _ _ (counted.fails _)
                · intro _
                  apply returns
                  refine ⟨counted.same rfl rfl rfl rfl ⟨rfl, rfl, rfl⟩, ?_, .inr pending⟩
                  intro _ transition
                  exact previous (phase.symm.trans (transition action rfl))
              · exact throws
            · exact throws
  · intro _
    exact breaks _

theorem reported_ends (current : Current origin tracker acc) (returns : ∀ after, Current origin after acc → Q () after)
    (throws : ∀ error after, Broken origin after acc → E error after) : Ends reported Q E tracker := by
  have breaks (reason : EvidenceUncertainty) (error : MatchedEvidenceError) : E error (failed tracker reason) :=
    throws error _ (current.counted.fails reason)
  unfold reported
  rw [ends_bind]
  apply requireOpen_ends
  · intro _
    rw [ends_bind, ends_get]
    cases active : tracker.active with
    | none => exact breaks _ _
    | some action =>
      cases pending : tracker.pending with
      | some _ => exact breaks _ _
      | none =>
        dsimp only
        rw [ends_bind]
        apply increment_ends
        · apply returns
          refine ⟨current.counted.same rfl rfl rfl rfl ⟨rfl, rfl, rfl⟩, ?_, .inl rfl⟩
          intro transition _
          apply current.previous
          · simp [pending]
          · rw [active]
            exact transition
        · exact breaks _
  · intro _
    exact breaks _

theorem acknowledge_ends (current : Current origin tracker acc)
    (returns : ∀ after, Current origin after (acc ++ (settled tracker .acknowledge).toList) → Q () after)
    (throws : ∀ error after, Broken origin after (acc ++ (settled tracker .acknowledge).toList) → E error after) :
    Ends acknowledge Q E tracker := by
  have breaks (unsettled : settled tracker .acknowledge = none) (reason : EvidenceUncertainty) (error : MatchedEvidenceError) :
      E error (failed tracker reason) := throws error _ (current.broken (fun _ => by rw [unsettled]; rfl) reason)
  unfold acknowledge
  rw [ends_bind]
  apply requireOpen_ends
  · intro isOpen
    rw [ends_bind, ends_get, ends_ite]
    constructor
    · intro idle
      exact breaks (by simp_all [MatchedEvidenceTracker.settled]) _ _
    · intro waiting
      have idle : tracker.active = none := by
        rcases current.apart with idle | none
        · exact idle
        · simp [none] at waiting
      have taken : settled tracker .acknowledge = tracker.pending := by simp [MatchedEvidenceTracker.settled, isOpen]
      rw [taken] at returns throws
      apply commit_ends current.counted idle fun transition => current.previous transition (by simp [idle])
      · intro after committed
        exact returns after committed.current
      · exact throws
  · intro shut
    exact breaks (by simp [MatchedEvidenceTracker.settled, shut]) _

theorem done_ends (current : Current origin tracker acc)
    (returns : ∀ after, Current origin after (acc ++ (settled tracker .done).toList) → Q () after)
    (throws : ∀ error after, Broken origin after (acc ++ (settled tracker .done).toList) → E error after) :
    Ends done Q E tracker := by
  have breaks (reason : EvidenceUncertainty) (error : MatchedEvidenceError) : E error (failed tracker reason) :=
    throws error _ (current.broken (fun strict => by simp [MatchedEvidenceTracker.settled, strict]) reason)
  unfold done
  rw [ends_bind]
  apply requireOpen_ends
  · intro isOpen
    rw [ends_bind, ends_get, ends_ite]
    constructor
    · intro _
      exact breaks _ _
    · intro idle
      have idle : tracker.active = none := by simpa using idle
      rw [ends_bind, ends_get, ends_bind, ends_get, ends_ite]
      constructor
      · intro _
        exact breaks _ _
      · intro heeded
        have taken : settled tracker .done = tracker.pending := by
          by_cases strict : tracker.options.strictAcknowledgements
          · simp_all [MatchedEvidenceTracker.settled]
          · simp [MatchedEvidenceTracker.settled, isOpen, strict]
        rw [taken] at returns throws
        rw [ends_bind]
        apply commit_ends current.counted idle fun transition => current.previous transition (by simp [idle])
        · intro after committed
          have counted := committed.counted
          rw [ends_bind]
          apply finishTrace_ends
          · intro _ _
            rw [ends_bind, ends_get, ends_bind, ends_get, ends_ite]
            constructor
            · intro _
              have moved : Tally Eq origin { after with completed := after.completed + 1 } (acc ++ tracker.pending.toList) :=
                counted.same rfl rfl rfl rfl ⟨rfl, rfl, rfl⟩
              exact throws _ _ (moved.fails _)
            · intro _
              apply returns
              exact ⟨counted.same rfl rfl rfl rfl ⟨rfl, rfl, rfl⟩, fun _ _ => committed.previous, .inl committed.active⟩
          · intro error reason
            exact throws _ _ (counted.fails _)
        · exact throws
  · intro _
    exact breaks _

/-- What holds after any calls: the counts are those of the settled observations, or a call has thrown and no count
exceeds theirs. -/
inductive Tallied (origin tracker : MatchedEvidenceTracker) (acc : List LabelledAction) : Prop
  | current (current : Current origin tracker acc)
  | interrupted (shut : tracker.isSealed = true) (counted : Tally Eq origin tracker acc)
  | broken (broken : Broken origin tracker acc)

theorem interrupt_ends {rejected : Bool} (current : Current origin tracker acc)
    (returns : ∀ after, Tallied origin after acc → Q () after)
    (throws : ∀ error after, Broken origin after acc → E error after) : Ends (interrupt rejected) Q E tracker := by
  unfold interrupt
  rw [ends_bind, ends_get, ends_ite]
  constructor
  · intro _
    exact returns tracker (.current current)
  · intro _
    rw [ends_bind, ends_get, ends_ite]
    constructor
    · intro _
      exact throws _ _ (current.counted.fails _)
    · intro _
      rw [ends_bind, ends_get, ends_ite]
      constructor
      · intro _
        exact returns _ (.interrupted rfl (current.counted.same rfl rfl rfl rfl ⟨rfl, rfl, rfl⟩))
      · intro _
        exact returns _ (.interrupted rfl (current.counted.same rfl rfl rfl rfl ⟨rfl, rfl, rfl⟩))

/-- A sealed tracker counts nothing. -/
theorem sealed_ends (call : Call) (shut : tracker.isSealed = true) (same : Q () tracker)
    (throws : ∀ error, E error (failed tracker .protocol)) : Ends call.method Q E tracker := by
  have closed : ¬ tracker.isSealed = false := by simp [shut]
  cases call with
  | interrupt rejected =>
    show Ends (interrupt rejected) Q E tracker
    unfold interrupt
    rw [ends_bind, ends_get, ends_ite]
    constructor
    · intro _
      exact same
    · intro isOpen
      exact absurd shut isOpen
  | begin initial wireAction =>
    show Ends (begin initial wireAction) Q E tracker
    unfold begin
    rw [ends_bind]
    exact requireOpen_ends (fun isOpen => absurd isOpen closed) fun _ => throws
  | reported =>
    show Ends reported Q E tracker
    unfold reported
    rw [ends_bind]
    exact requireOpen_ends (fun isOpen => absurd isOpen closed) fun _ => throws
  | acknowledge =>
    show Ends acknowledge Q E tracker
    unfold acknowledge
    rw [ends_bind]
    exact requireOpen_ends (fun isOpen => absurd isOpen closed) fun _ => throws
  | done =>
    show Ends done Q E tracker
    unfold done
    rw [ends_bind]
    exact requireOpen_ends (fun isOpen => absurd isOpen closed) fun _ => throws

/-! ### Runs -/

theorem Tallied.bounded (tallied : Tallied origin tracker acc) : Tally (· ≤ ·) origin tracker acc := by
  cases tallied with
  | current current => exact current.counted.bounded
  | interrupted shut counted => exact counted.bounded
  | broken broken => exact broken.bounded

theorem Tallied.exact (tallied : Tallied origin tracker acc) (certain : tracker.uncertain = []) : Tally Eq origin tracker acc := by
  cases tallied with
  | current current => exact current.counted
  | interrupted shut counted => exact counted
  | broken broken => exact absurd certain broken.uncertain

/-- With strict acknowledgements only an overflow makes a count differ. -/
theorem Tallied.strictly (tallied : Tallied origin tracker acc) (strict : tracker.options.strictAcknowledgements = true)
    (none : .counter_overflow ∉ tracker.uncertain) : Tally Eq origin tracker acc := by
  cases tallied with
  | current current => exact current.counted
  | interrupted shut counted => exact counted
  | broken broken => exact broken.strictly strict none

theorem Tallied.shut (tallied : Tallied origin tracker acc) (call : Call) (shut : tracker.isSealed = true) :
    Ends call.method (fun _ after => Tallied origin after acc) (fun _ after => Tallied origin after acc) tracker :=
  sealed_ends call shut tallied fun _ => .broken (tallied.bounded.broken _ fun strict _ => tallied.strictly strict)

theorem Current.tallied (current : Current origin tracker acc) (call : Call) :
    Ends call.method (fun _ after => Tallied origin after (acc ++ (settled tracker call).toList))
      (fun _ after => Tallied origin after (acc ++ (settled tracker call).toList)) tracker := by
  have broken (more : List LabelledAction) (_ : MatchedEvidenceError) (after : MatchedEvidenceTracker)
      (broken : Broken origin after (acc ++ more)) : Tallied origin after (acc ++ more) := .broken broken
  have unsettled (more : Option LabelledAction) (none : more = none) : acc ++ more.toList = acc := by simp [none]
  cases call with
  | begin initial wireAction => exact begin_ends current (fun _ held => .current held) (broken _)
  | acknowledge => exact acknowledge_ends current (fun _ held => .current held) (broken _)
  | done => exact done_ends current (fun _ held => .current held) (broken _)
  | reported =>
    rw [unsettled _ (by simp [MatchedEvidenceTracker.settled])]
    exact reported_ends current (fun _ held => .current held) fun _ _ held => .broken held
  | interrupt rejected =>
    rw [unsettled _ (by simp [MatchedEvidenceTracker.settled])]
    exact interrupt_ends current (fun _ held => held) fun _ _ held => .broken held

theorem tallied_ends (tallied : Tallied origin tracker acc) (call : Call) :
    Ends call.method (fun _ after => Tallied origin after (acc ++ (settled tracker call).toList))
      (fun _ after => Tallied origin after (acc ++ (settled tracker call).toList)) tracker := by
  by_cases shut : tracker.isSealed
  · have none : settled tracker call = none := by simp [MatchedEvidenceTracker.settled, shut]
    rw [none, Option.toList_none, List.append_nil]
    exact tallied.shut call shut
  · cases tallied with
    | current current => exact current.tallied call
    | interrupted sealed_ => exact absurd sealed_ shut
    | broken broken => exact absurd broken.shut shut

theorem step_ends {call : Call} {result : Except MatchedEvidenceError Unit} {P : MatchedEvidenceTracker → Prop}
    (ends : Ends call.method (fun _ after => P after) (fun _ after => P after) tracker)
    (stepped : step tracker call = some (after, result)) : P after := by
  unfold step at stepped
  cases run : call.method.run.run tracker with
  | mk returned left =>
    rw [run] at stepped
    cases stepped
    cases result with
    | ok => exact Machine.Throwing.ends_returned ends run
    | error => exact Machine.Throwing.ends_thrown ends run

theorem accepted_snoc (trace : List Step) (t : Step) :
    accepted (trace ++ [t]) = accepted trace ++ (settled t.before t.input).toList := by
  rw [accepted, List.filterMap_append]
  cases found : settled t.before t.input with
  | none => simp [accepted, found]
  | some action => simp [accepted, found]

theorem run_tallied {trace : List Step} (start : Tallied origin tracker []) (run : Run tracker trace after) :
    Tallied origin after (accepted trace) := by
  refine run.invariant (P := fun trace after => Tallied origin after (accepted trace)) start ?_
  intro trace before call result after tallied stepped
  rw [accepted_snoc]
  exact step_ends (tallied_ends tallied call) stepped

end Mirror.Replay.MatchedEvidenceTracker
