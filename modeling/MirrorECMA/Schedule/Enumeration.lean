import MirrorECMA.Machine.Interleaving
import MirrorECMA.Schedule.Exploration
import MirrorECMA.Schedule.SingleRunner

namespace Mirror.Schedule

open ECMA Machine

/-! ### What the enumeration restores -/

/-- A part of the enumeration that was not cut off has found these words and left the rest as it was. -/
structure Restored (before after : Enumeration) (found : List (List ScheduleStep)) : Prop where
  exhausted : before.exhausted = true
  positions : after.positions = before.positions
  current : after.current = before.current
  stopReason : after.stopReason = before.stopReason
  shapes : after.shapes = before.shapes ++ found.map (before.current ++ ·)

theorem Restored.same {e : Enumeration} (exhausted : e.exhausted = true) : Restored e e [] :=
  ⟨exhausted, rfl, rfl, rfl, by simp⟩

theorem Restored.trans {before middle after : Enumeration} {found more : List (List ScheduleStep)}
    (first : Restored before middle found) (second : Restored middle after more) : Restored before after (found ++ more) where
  exhausted := first.exhausted
  positions := second.positions.trans first.positions
  current := second.current.trans first.current
  stopReason := second.stopReason.trans first.stopReason
  shapes := by rw [second.shapes, first.shapes, first.current, List.map_append, List.append_assoc]

namespace Declaration

variable {d : Declaration} {e : Enumeration} {i : Nat}

/-- What is left of each chain. -/
def remaining (d : Declaration) (positions : List Nat) : List (List ScheduleStep) :=
  List.zipWith (fun a position => a.steps.drop position) d.actors positions

theorem remaining_get (placed : e.positions.length = d.actors.length) {a : ScheduleActorChain}
    (found : d.actors[i]? = some a) : (d.remaining e.positions)[i]? = some (a.steps.drop (position e i)) := by
  have inside := (List.getElem?_eq_some_iff.mp found).1
  have at_ : e.positions[i]? = some (e.positions.get ⟨i, by omega⟩) := List.getElem?_eq_getElem _
  rw [remaining, List.getElem?_zipWith, found, at_, position, at_]
  rfl

theorem remaining_length (placed : e.positions.length = d.actors.length) :
    (d.remaining e.positions).length = d.actors.length := by
  rw [remaining, List.length_zipWith, placed, Nat.min_self]

/-- A step that is taken is no longer left. -/
theorem remaining_push (placed : e.positions.length = d.actors.length) {a : ScheduleActorChain}
    (found : d.actors[i]? = some a) :
    d.remaining (e.positions.modify i (· + 1)) = (d.remaining e.positions).set i (a.steps.drop (position e i + 1)) := by
  have inside := (List.getElem?_eq_some_iff.mp found).1
  apply List.ext_getElem?
  intro j
  rw [List.getElem?_set, remaining_length placed, remaining, remaining, List.getElem?_zipWith, List.getElem?_zipWith,
    List.getElem?_modify]
  by_cases same : i = j
  · subst same
    have at_ : e.positions[i]? = some (e.positions.get ⟨i, by omega⟩) := List.getElem?_eq_getElem _
    simp only [found, at_, position, ↓reduceIte, inside, Option.getD_some, Option.map_some, Option.map_eq_map]
  · simp only [if_neg same, Option.map_eq_map, Option.map_id']

theorem extra_eq (placed : e.positions.length = d.actors.length) (prior : Option Nat) :
    d.extra e prior i = leaves (d.remaining e.positions) prior i := by
  cases prior with
  | none => rfl
  | some p =>
    have left : (!((d.remaining e.positions)[p]?.getD []).isEmpty) = decide (position e p < d.chainLength p) := by
      cases found : d.actors[p]? with
      | none =>
        have outside : (d.remaining e.positions)[p]? = none := by
          rw [List.getElem?_eq_none_iff, remaining_length placed]
          exact List.getElem?_eq_none_iff.mp found
        rw [outside, chainLength, found]
        rfl
      | some a =>
        rw [remaining_get placed found, Option.getD_some, chainLength, found, Option.map_some, Option.getD_some]
        have length : a.steps.length = a.checkpoints.length := List.length_map _
        rw [Bool.eq_iff_iff, Bool.not_eq_true', ← Bool.not_eq_true, List.isEmpty_iff, List.drop_eq_nil_iff, length,
          decide_eq_true_eq, Nat.not_le]
    simp only [extra, leaves, Option.any_some, left, ← Bool.decide_and, decide_eq_true_eq]

/-! ### One visit -/

section

variable {watch : Nat → Instant} {deadline : Rat} {after : Enumeration} {prior : Option Nat} {used left : Nat}

/-- What `visit` finds below a state with `left` steps left. -/
def Finds (d : Declaration) (left : Nat) (visit : Option Nat → Nat → Enumeration → Enumeration) : Prop :=
  ∀ prior used e, e.positions.length = d.actors.length → (d.remaining e.positions).flatten.length = left →
    e.current.length + left = d.checkSteps.length → (visit prior used e).exhausted = true →
      Restored e (visit prior used e) (words d.bounds.maxPreemptions left prior used (d.remaining e.positions))

/-- The words of one turn of the loop. -/
def branch (d : Declaration) (left : Nat) (prior : Option Nat) (used : Nat) (chains : List (List ScheduleStep)) (i : Nat) :
    List (List ScheduleStep) :=
  if used + leaves chains prior i ≤ d.bounds.maxPreemptions then
    wordsFrom (words d.bounds.maxPreemptions left (some i) (used + leaves chains prior i)) chains i
  else []

theorem modify_restores (positions : List Nat) (i : Nat) : (positions.modify i (· + 1)).modify i (· - 1) = positions := by
  apply List.ext_getElem?
  intro j
  rw [List.getElem?_modify, List.getElem?_modify]
  by_cases same : i = j
  · cases positions[j]? <;> simp [same]
  · cases positions[j]? <;> simp [same]

theorem visitActor_restored {visit : Option Nat → Nat → Enumeration → Enumeration} (finds : Finds d left visit)
    (placed : e.positions.length = d.actors.length) (total : (d.remaining e.positions).flatten.length = left + 1)
    (current : e.current.length + (left + 1) = d.checkSteps.length)
    (exhausted : (d.visitActor visit prior used e i).exhausted = true) :
    Restored e (d.visitActor visit prior used e i) (branch d left prior used (d.remaining e.positions) i) := by
  unfold visitActor at exhausted ⊢
  split at exhausted
  · rename_i cut
    rw [Bool.not_eq_true'] at cut
    rw [cut] at exhausted
    cases exhausted
  rename_i going
  rw [Bool.not_eq_true', Bool.not_eq_false] at going
  simp only [going, Bool.not_true, Bool.false_eq_true, ↓reduceIte]
  cases found : d.actors[i]? with
  | none =>
    have outside : (d.remaining e.positions)[i]? = none := by
      rw [List.getElem?_eq_none_iff, remaining_length placed]
      exact List.getElem?_eq_none_iff.mp found
    have nothing : branch d left prior used (d.remaining e.positions) i = [] := by
      simp only [branch, wordsFrom, outside, ite_self]
    rw [nothing]
    exact .same going
  | some a =>
    have chain := remaining_get placed found
    simp only [found] at exhausted ⊢
    cases at_ : a.steps[position e i]? with
    | none =>
      have empty : a.steps.drop (position e i) = [] := List.drop_eq_nil_iff.mpr (List.getElem?_eq_none_iff.mp at_)
      have nothing : branch d left prior used (d.remaining e.positions) i = [] := by
        simp only [branch, wordsFrom, chain, empty, ite_self]
      rw [nothing]
      exact .same going
    | some step =>
      simp only [at_, extra_eq placed] at exhausted ⊢
      have head : a.steps.drop (position e i) = step :: a.steps.drop (position e i + 1) := by
        rcases List.getElem?_eq_some_iff.mp at_ with ⟨inside, same⟩
        rw [List.drop_eq_getElem_cons inside, same]
      rw [head] at chain
      by_cases past : used + leaves (d.remaining e.positions) prior i > d.bounds.maxPreemptions
      · have nothing : branch d left prior used (d.remaining e.positions) i = [] := by
          rw [branch, if_neg (Nat.not_le.mpr past)]
        rw [if_pos past, nothing]
        exact .same going
      · rw [if_neg past] at exhausted ⊢
        -- The visit below the step that has been pushed.
        have shorter := length_set chain
        have pushed : d.remaining (e.push i step).positions =
            (d.remaining e.positions).set i (a.steps.drop (position e i + 1)) := remaining_push placed found
        have deeper : (e.push i step).current.length = e.current.length + 1 := by
          rw [Enumeration.push, List.length_append, List.length_singleton]
        have below := finds (some i) (used + leaves (d.remaining e.positions) prior i) (e.push i step)
          (by rw [Enumeration.push, List.length_modify]; exact placed) (by rw [pushed]; omega) (by omega) exhausted
        have here : branch d left prior used (d.remaining e.positions) i =
            (words d.bounds.maxPreemptions left (some i) (used + leaves (d.remaining e.positions) prior i)
              (d.remaining (e.push i step).positions)).map (step :: ·) := by
          rw [branch, if_pos (Nat.not_lt.mp past), wordsFrom, chain, pushed]
        refine ⟨going, ?_, ?_, below.stopReason, ?_⟩
        · rw [Enumeration.pop, below.positions]
          exact modify_restores e.positions i
        · rw [Enumeration.pop, below.current]
          exact List.dropLast_concat
        · rw [here, List.map_map]
          refine below.shapes.trans ?_
          simp only [Enumeration.push, Function.comp_def, List.append_assoc, List.singleton_append]

/-- Nothing is visited once the enumeration has been cut off. -/
theorem visitActors_cut {visit : Option Nat → Nat → Enumeration → Enumeration} (indices : List Nat)
    (cut : e.exhausted = false) : indices.foldl (d.visitActor visit prior used) e = e := by
  induction indices with
  | nil => rfl
  | cons i rest ih =>
    have same : d.visitActor visit prior used e i = e := by rw [visitActor, cut]; rfl
    rw [List.foldl_cons, same, ih]

theorem visitActors_restored {visit : Option Nat → Nat → Enumeration → Enumeration} (finds : Finds d left visit)
    {indices : List Nat} (going : e.exhausted = true)
    (placed : e.positions.length = d.actors.length) (total : (d.remaining e.positions).flatten.length = left + 1)
    (current : e.current.length + (left + 1) = d.checkSteps.length)
    (exhausted : (indices.foldl (d.visitActor visit prior used) e).exhausted = true) :
    Restored e (indices.foldl (d.visitActor visit prior used) e)
      (indices.flatMap (branch d left prior used (d.remaining e.positions))) := by
  induction indices generalizing e with
  | nil => exact .same going
  | cons i rest ih =>
    rw [List.foldl_cons] at exhausted ⊢
    cases middle : (d.visitActor visit prior used e i).exhausted with
    | false =>
      rw [visitActors_cut rest middle, middle] at exhausted
      cases exhausted
    | true =>
      have first := visitActor_restored finds placed total current middle
      have others := ih middle (by rw [first.positions]; exact placed) (by rw [first.positions]; exact total)
        (by rw [first.current]; exact current) exhausted
      rw [first.positions] at others
      exact first.trans others

/-- A visit that was not cut off has found the words that the rest of the chains allows. -/
theorem visit_finds (fuel : Nat) (enough : left < fuel) : Finds d left (d.visit watch deadline fuel) := by
  induction fuel generalizing left with
  | zero => omega
  | succ fuel ih =>
    intro prior used e placed total current exhausted
    unfold visit at exhausted ⊢
    by_cases going : e.exhausted = true
    · have start : ¬ (!e.exhausted) = true := by rw [going]; decide
      rw [if_neg start] at exhausted ⊢
      dsimp only at exhausted ⊢
      split at exhausted
      · cases exhausted
      rename_i early
      rw [if_neg early]
      cases left with
      | zero =>
        have all : e.current.length = d.checkSteps.length := current
        rw [if_pos all] at exhausted ⊢
        split at exhausted
        · cases exhausted
        rename_i room
        rw [if_neg room]
        exact ⟨going, rfl, rfl, rfl, by simp [words]⟩
      | succ left =>
        have some_ : ¬ e.current.length = d.checkSteps.length := by omega
        rw [if_neg some_] at exhausted ⊢
        have found := visitActors_restored (e := { e with reads := e.reads + 1 }) (ih (by omega)) going placed total current
          exhausted
        have same : (List.range d.actors.length).flatMap (branch d left prior used (d.remaining e.positions)) =
            words d.bounds.maxPreemptions (left + 1) prior used (d.remaining e.positions) := by
          rw [words, remaining_length placed]
          rfl
        exact same ▸ ⟨going, found.positions, found.current, found.stopReason, found.shapes⟩
    · have stop : (!e.exhausted) = true := by simpa using going
      rw [if_pos stop] at exhausted
      exact absurd exhausted going

end

end Declaration

/-! ### What the checks of a declaration establish -/

/-- The names of a chain are identifiers, but for the completion. -/
def ScheduleActorChain.Ends (a : ScheduleActorChain) : Prop :=
  scheduleIdentifier a.actor.actor = true ∧ ∀ checkpoint ∈ a.checkpoints,
    scheduleIdentifier checkpoint = true ∨ checkpoint = SCHEDULE_COMPLETION

structure DeclaredActors.Of (declared : DeclaredActors) (actors : List ScheduleActorChain) : Prop where
  declarations : declared.declarations = actors.map fun a => (a.actor.actor, a.actor.operation)
  names : (actors.map fun a => a.actor.actor).Nodup
  checkSteps : declared.checkSteps = actors.flatMap ScheduleActorChain.steps
  ends : ∀ a ∈ actors, a.Ends

theorem requireValue_bind {α : Type} {condition : Bool} {message : String} {next : Except JsString α} {result : α} :
    (requireValue condition message >>= fun _ => next) = .ok result ↔ condition = true ∧ next = .ok result := by
  rw [bind_eq_ok]
  constructor
  · intro returned
    rcases returned with ⟨_, first, second⟩
    exact ⟨requireValue_eq_ok.mp first, second⟩
  · intro returned
    exact ⟨(), requireValue_eq_ok.mpr returned.1, returned.2⟩

theorem declareCheckpoints_ok {a : ScheduleActorChain} {before steps : List ScheduleStep}
    (declared : a.checkpoints.zipIdx.foldlM (declareCheckpoint a) before = .ok steps) :
    steps = before ++ a.steps ∧ ∀ checkpoint ∈ a.checkpoints,
      scheduleIdentifier checkpoint = true ∨ checkpoint = SCHEDULE_COMPLETION := by
  have whole := foldlM_ok (P := fun steps entries => steps = before ++ entries.map (fun entry => ⟨a.actor.actor, entry.1⟩) ∧
    ∀ entry ∈ entries, scheduleIdentifier entry.1 = true ∨ entry.1 = SCHEDULE_COMPLETION)
    (fun state done entry next holds taken => by
      rw [declareCheckpoint, requireValue_bind] at taken
      rcases taken with ⟨checked, taken⟩
      cases taken
      refine ⟨by rw [holds.1, List.map_append, List.append_assoc]; rfl, ?_⟩
      intro other member
      rcases List.mem_append.mp member with member | member
      · exact holds.2 other member
      · rw [List.mem_singleton.mp member]
        split at checked
        · exact .inr (of_decide_eq_true checked)
        · exact .inl checked)
    ⟨by simp, by simp⟩ declared
  refine ⟨?_, fun checkpoint member => ?_⟩
  · rw [whole.1, ScheduleActorChain.steps]
    have first : (a.checkpoints.zipIdx.map fun entry => (⟨a.actor.actor, entry.1⟩ : ScheduleStep)) =
        (a.checkpoints.zipIdx.map Prod.fst).map fun checkpoint => ⟨a.actor.actor, checkpoint⟩ := by
      rw [List.map_map]
      rfl
    rw [first, List.zipIdx_map_fst]
  · rw [← List.zipIdx_map_fst 0 a.checkpoints, List.mem_map] at member
    rcases member with ⟨entry, among, rfl⟩
    exact whole.2 entry among

theorem declareActors_ok {actors : List ScheduleActorChain} {declared : DeclaredActors}
    (returned : actors.foldlM declareActor ⟨[], [], []⟩ = .ok declared) : declared.Of actors := by
  refine foldlM_ok (P := DeclaredActors.Of) ?_ ⟨rfl, List.nodup_nil, rfl, by simp⟩ returned
  intro state done a next holds taken
  rw [declareActor, requireValue_bind, requireValue_bind, bind_eq_ok] at taken
  rcases taken with ⟨named, _, steps, checkpoints, taken⟩
  cases taken
  simp only [Bool.and_eq_true, Bool.not_eq_true', decide_eq_false_iff_not] at named
  rcases declareCheckpoints_ok checkpoints with ⟨rfl, ends⟩
  have fresh := named.1.2
  rw [holds.declarations, List.map_map] at fresh
  constructor
  · rw [holds.declarations, List.map_append]
    rfl
  · rw [List.map_append, List.nodup_append]
    refine ⟨holds.names, List.nodup_singleton _, ?_⟩
    intro name member other single same
    rw [List.map_singleton, List.mem_singleton] at single
    exact fresh (single ▸ same ▸ member)
  · rw [holds.checkSteps, List.flatMap_append]
    simp
  · intro other member
    rcases List.mem_append.mp member with member | member
    · exact holds.ends other member
    · rw [List.mem_singleton.mp member]
      exact ⟨named.1.1.1, ends⟩

theorem integerWithin_eq_some {d : Double} {low high n : Nat} (found : integerWithin d low high = some n) :
    d.toInt? = some (n : Int) ∧ low ≤ n ∧ n ≤ high := by
  unfold integerWithin at found
  split at found
  · rename_i i exact_
    split at found
    · rename_i within
      cases found
      rw [exact_]
      have positive : 0 ≤ i := by omega
      exact ⟨by rw [Int.toNat_of_nonneg positive], by omega, by omega⟩
    · cases found
  · cases found

section

variable [NumberText] [NumberConversion]

structure Declaration.Of (d : Declaration) (space : FiniteScheduleSpace) : Prop where
  sorted : d.actors = sort (fun a b => utf8 a.actor.actor b.actor.actor) space.actors
  actors : DeclaredActors.Of ⟨d.declarations, d.actors.map fun a => a.actor.operation, d.checkSteps⟩ d.actors
  few : d.checkSteps.length ≤ 64
  some_actor : space.actors ≠ []
  maxPreemptions : space.maxPreemptions.toInt? = some (d.bounds.maxPreemptions : Int)
  inputs : ∀ input ∈ space.inputs, (∃ data, scheduleData input inputBytes = .ok data) ∧
    ∃ schedule, parseCheckpointSchedule (declarationText space input d.checkSteps) = .ok schedule
  distinctInputs : (space.inputs.map fun input => stable (some input)).Nodup

theorem declareInputs_ok {space : FiniteScheduleSpace} {checkSteps : List ScheduleStep} {keys : List JsString}
    (returned : space.inputs.foldlM (declareInput space checkSteps) [] = .ok keys) :
    (∀ input ∈ space.inputs, (∃ data, scheduleData input inputBytes = .ok data) ∧
      ∃ schedule, parseCheckpointSchedule (declarationText space input checkSteps) = .ok schedule) ∧
    keys = space.inputs.map (fun input => stable (some input)) ∧ keys.Nodup := by
  refine foldlM_ok (P := fun keys done => (∀ input ∈ done, (∃ data, scheduleData input inputBytes = .ok data) ∧
    ∃ schedule, parseCheckpointSchedule (declarationText space input checkSteps) = .ok schedule) ∧
      keys = done.map (fun input => stable (some input)) ∧ keys.Nodup) ?_ ⟨by simp, rfl, List.nodup_nil⟩ returned
  intro state done input next holds taken
  rw [declareInput, bind_eq_ok] at taken
  rcases taken with ⟨data, inert, taken⟩
  rw [bind_eq_ok] at taken
  rcases taken with ⟨schedule, read, taken⟩
  rw [requireValue_bind] at taken
  rcases taken with ⟨fresh, taken⟩
  cases taken
  rw [Bool.not_eq_true', decide_eq_false_iff_not] at fresh
  refine ⟨?_, ?_, ?_⟩
  · intro other member
    rcases List.mem_append.mp member with member | member
    · exact holds.1 other member
    · rw [List.mem_singleton.mp member]
      exact ⟨⟨data, inert⟩, schedule, read⟩
  · rw [holds.2.1, List.map_append]
    rfl
  · rw [List.nodup_append]
    refine ⟨holds.2.2, List.nodup_singleton _, ?_⟩
    intro key member other single same
    exact fresh (List.mem_singleton.mp single ▸ same ▸ member)

theorem explorationBounds_preemptions {limits : ScheduleExplorationLimits} {maxPreemptions : Double}
    {bounds : ExplorationBounds} (found : explorationBounds limits maxPreemptions = some bounds) :
    maxPreemptions.toInt? = some (bounds.maxPreemptions : Int) := by
  simp only [explorationBounds, Option.bind_eq_bind, Option.bind_eq_some_iff, Option.pure_def, Option.some.injEq] at found
  rcases found with ⟨_, _, _, _, _, _, _, _, _, within, rfl⟩
  exact (integerWithin_eq_some within).1

theorem declare_ok {space : FiniteScheduleSpace} {limits : ScheduleExplorationLimits} {d : Declaration}
    (declared : declare space limits = .ok d) : d.Of space := by
  rw [declare, requireValue_bind] at declared
  rcases declared with ⟨sizes, declared⟩
  rw [decide_eq_true_eq] at sizes
  cases found : explorationBounds limits space.maxPreemptions with
  | none =>
    rw [found] at declared
    cases declared
  | some bounds =>
    rw [found] at declared
    dsimp only at declared
    rw [bind_eq_ok] at declared
    rcases declared with ⟨actors, chains, declared⟩
    rw [requireValue_bind, bind_eq_ok] at declared
    rcases declared with ⟨few, keys, inputs, declared⟩
    rw [requireValue_bind, bind_eq_ok] at declared
    rcases declared with ⟨_, base, _, declared⟩
    rw [bind_eq_ok] at declared
    rcases declared with ⟨ignored, _, declared⟩
    cases declared
    have of := declareActors_ok chains
    rcases declareInputs_ok inputs with ⟨each, texts, distinct⟩
    exact ⟨rfl, ⟨of.declarations, of.names, of.checkSteps, of.ends⟩, of_decide_eq_true few,
      List.ne_nil_of_length_pos sizes.1, explorationBounds_preemptions found, each, texts ▸ distinct⟩

end

/-! ### The interleavings -/

/-- The steps are those of the actors' chains, each chain in its order. -/
structure Interleaving (actors : List ScheduleActorChain) (steps : List ScheduleStep) : Prop where
  declared : ∀ step ∈ steps, ∃ a ∈ actors, step.actor = a.actor.actor
  chain : ∀ a ∈ actors, steps.filter (fun step => decide (step.actor = a.actor.actor)) = a.steps

/-- The switches away from an actor that still has steps left. -/
def preemptions (steps : List ScheduleStep) : Nat := switches ScheduleStep.actor none steps

def actorAt (actors : List ScheduleActorChain) (i : Nat) : JsString := (actors[i]?.map fun a => a.actor.actor).getD []

theorem actorAt_eq {actors : List ScheduleActorChain} {i : Nat} {a : ScheduleActorChain} (found : actors[i]? = some a) :
    actorAt actors i = a.actor.actor := by
  rw [actorAt, found]
  rfl

theorem interleaves_iff {actors : List ScheduleActorChain} {steps : List ScheduleStep} :
    Interleaves ScheduleStep.actor (actorAt actors)
      (actors.map ScheduleActorChain.steps) steps ↔ Interleaving actors steps := by
  constructor
  · intro whole
    constructor
    · intro step member
      rcases whole.owned step member with ⟨i, inside, owned⟩
      rw [List.length_map] at inside
      rw [actorAt_eq (List.getElem?_eq_getElem inside)] at owned
      exact ⟨actors[i], List.getElem_mem inside, owned⟩
    · intro a member
      rcases List.mem_iff_getElem?.mp member with ⟨i, found⟩
      have chain := whole.chain i a.steps (by rw [List.getElem?_map, found]; rfl)
      rwa [actorAt_eq found] at chain
  · intro whole
    constructor
    · intro step member
      rcases whole.declared step member with ⟨a, among, owned⟩
      rcases List.mem_iff_getElem?.mp among with ⟨i, found⟩
      refine ⟨i, ?_, ?_⟩
      · rw [List.length_map]
        exact (List.getElem?_eq_some_iff.mp found).1
      · rw [actorAt_eq found]
        exact owned
    · intro i chain found
      rw [List.getElem?_map, Option.map_eq_some_iff] at found
      rcases found with ⟨a, found, rfl⟩
      rw [actorAt_eq found]
      exact whole.chain a (List.mem_of_getElem? found)

theorem Interleaving.of_perm {actors others : List ScheduleActorChain} {steps : List ScheduleStep}
    (whole : Interleaving actors steps) (perm : actors.Perm others) : Interleaving others steps where
  declared step member := by
    rcases whole.declared step member with ⟨a, among, owned⟩
    exact ⟨a, perm.subset among, owned⟩
  chain a member := whole.chain a (perm.symm.subset member)

/-- An enumeration that is not cut off finds the words of the chains. -/
theorem enumerate_shapes {d : Declaration} {watch : Nat → Instant} {deadline : Rat} {reads : Nat}
    (checkSteps : d.checkSteps = d.actors.flatMap ScheduleActorChain.steps)
    (exhausted : (d.enumerate watch deadline reads).exhausted = true) :
    (d.enumerate watch deadline reads).shapes =
      words d.bounds.maxPreemptions d.checkSteps.length none 0 (d.actors.map ScheduleActorChain.steps) := by
  have chains : d.remaining (d.actors.map fun _ => 0) = d.actors.map ScheduleActorChain.steps := by
    rw [Declaration.remaining, List.zipWith_map_right]
    simp
  have found := @Declaration.visit_finds d watch deadline d.checkSteps.length (d.checkSteps.length + 1) (Nat.lt_succ_self _) none 0 ⟨d.actors.map fun _ => 0, [], [], true, [], reads⟩
    (List.length_map _) (by rw [chains, checkSteps, List.flatMap_def]) (Nat.zero_add _) exhausted
  have shapes := found.shapes
  rw [chains] at shapes
  rw [Declaration.enumerate, shapes]
  simp

/-- What cuts an enumeration off. -/
def CutOff (d : Declaration) (watch : Nat → Instant) (deadline : Rat) (shapes : List (List ScheduleStep)) : Prop :=
  (∃ r, (watch r).aborted = true ∨ deadline ≤ (watch r).now) ∨ shapes.length = d.bounds.maxEnumerated

theorem visitActor_cut {d : Declaration} {watch : Nat → Instant} {deadline : Rat} {prior : Option Nat} {used i : Nat}
    {visit : Option Nat → Nat → Enumeration → Enumeration} {e : Enumeration}
    (visits : ∀ prior used e, e.exhausted = true → (visit prior used e).exhausted = false →
      CutOff d watch deadline (visit prior used e).shapes) (going : e.exhausted = true)
    (cut : (d.visitActor visit prior used e i).exhausted = false) :
    CutOff d watch deadline (d.visitActor visit prior used e i).shapes := by
  have start : ¬ (!e.exhausted) = true := by rw [going]; decide
  have uncut (same : d.visitActor visit prior used e i = e) : False := by
    rw [same, going] at cut
    cases cut
  unfold Declaration.visitActor at uncut cut ⊢
  rw [if_neg start] at uncut cut ⊢
  cases found : d.actors[i]? with
  | none => exact (uncut (by rw [found])).elim
  | some a =>
    simp only [found] at uncut cut ⊢
    cases at_ : a.steps[Declaration.position e i]? with
    | none => exact (uncut (by rw [at_])).elim
    | some step =>
      simp only [at_] at uncut cut ⊢
      split at cut
      · rename_i past
        exact (uncut (if_pos past)).elim
      · rename_i within
        rw [if_neg within]
        exact visits _ _ (e.push i step) going cut

theorem visitActors_cutOff {d : Declaration} {watch : Nat → Instant} {deadline : Rat} {prior : Option Nat} {used : Nat}
    {visit : Option Nat → Nat → Enumeration → Enumeration} {e : Enumeration} {indices : List Nat}
    (visits : ∀ prior used e, e.exhausted = true → (visit prior used e).exhausted = false →
      CutOff d watch deadline (visit prior used e).shapes) (going : e.exhausted = true)
    (cut : (indices.foldl (d.visitActor visit prior used) e).exhausted = false) :
    CutOff d watch deadline (indices.foldl (d.visitActor visit prior used) e).shapes := by
  induction indices generalizing e with
  | nil =>
    rw [List.foldl_nil, going] at cut
    cases cut
  | cons i rest ih =>
    rw [List.foldl_cons] at cut ⊢
    cases middle : (d.visitActor visit prior used e i).exhausted with
    | true => exact ih middle cut
    | false =>
      rw [Declaration.visitActors_cut rest middle]
      exact visitActor_cut visits going middle

/-- Only an abort, the deadline or the limit cuts an enumeration off. -/
theorem visit_cut {d : Declaration} {watch : Nat → Instant} {deadline : Rat} (fuel : Nat) (prior : Option Nat) (used : Nat)
    (e : Enumeration) (going : e.exhausted = true) (cut : (d.visit watch deadline fuel prior used e).exhausted = false) :
    CutOff d watch deadline (d.visit watch deadline fuel prior used e).shapes := by
  induction fuel generalizing prior used e with
  | zero =>
    rw [Declaration.visit, going] at cut
    cases cut
  | succ fuel ih =>
    have start : ¬ (!e.exhausted) = true := by rw [going]; decide
    unfold Declaration.visit at cut ⊢
    rw [if_neg start] at cut ⊢
    dsimp only at cut ⊢
    split
    · rename_i early
      exact .inl ⟨e.reads, early⟩
    · rename_i early
      rw [if_neg early] at cut
      split
      · rename_i whole
        rw [if_pos whole] at cut
        split
        · rename_i full
          exact .inr full
        · rename_i room
          rw [if_neg room, going] at cut
          cases cut
      · rename_i partway
        rw [if_neg partway] at cut
        exact visitActors_cutOff ih going cut

theorem nodup_getElem? {α β : Type} {f : α → β} {xs : List α} (nodup : (xs.map f).Nodup) {i j : Nat} {a b : α}
    (first : xs[i]? = some a) (second : xs[j]? = some b) (same : f a = f b) : i = j := by
  rcases List.getElem?_eq_some_iff.mp first with ⟨inside, rfl⟩
  rcases List.getElem?_eq_some_iff.mp second with ⟨other, rfl⟩
  have bound : i < (xs.map f).length := by rwa [List.length_map]
  have limit : j < (xs.map f).length := by rwa [List.length_map]
  have images : (xs.map f)[i] = (xs.map f)[j] := by
    rw [List.getElem_map, List.getElem_map]
    exact same
  exact nodup.getElem_inj_iff.mp images

section

variable [NumberText] [NumberConversion]

/-- An enumeration that was not cut off lists the interleavings of the chains within the bound, each once. -/
theorem Declaration.Of.enumerated {space : FiniteScheduleSpace} {d : Declaration} (of : d.Of space)
    {watch : Nat → Instant} {deadline : Rat} {reads : Nat} (exhausted : (d.enumerate watch deadline reads).exhausted = true) :
    (d.enumerate watch deadline reads).shapes.Nodup ∧ (∀ steps ∈ (d.enumerate watch deadline reads).shapes,
      steps.length = d.checkSteps.length) ∧ ∀ steps, steps ∈ (d.enumerate watch deadline reads).shapes ↔
        Interleaving d.actors steps ∧ preemptions steps ≤ d.bounds.maxPreemptions := by
  have shapes := enumerate_shapes of.actors.checkSteps exhausted
  have length : (d.actors.map ScheduleActorChain.steps).length = d.actors.length := List.length_map _
  have injective : ∀ i j, i < (d.actors.map ScheduleActorChain.steps).length →
      j < (d.actors.map ScheduleActorChain.steps).length → actorAt d.actors i = actorAt d.actors j → i = j := by
    intro i j first second same
    rw [length] at first second
    rw [actorAt_eq (List.getElem?_eq_getElem first), actorAt_eq (List.getElem?_eq_getElem second)] at same
    exact nodup_getElem? of.actors.names (List.getElem?_eq_getElem first) (List.getElem?_eq_getElem second) same
  have keyed : ∀ i (chain : List ScheduleStep), (d.actors.map ScheduleActorChain.steps)[i]? = some chain → ∀ step ∈ chain,
      step.actor = actorAt d.actors i := by
    intro i chain found step member
    rw [List.getElem?_map, Option.map_eq_some_iff] at found
    rcases found with ⟨a, found, rfl⟩
    rcases List.mem_map.mp member with ⟨checkpoint, _, rfl⟩
    rw [actorAt_eq found]
  have total : (d.actors.map ScheduleActorChain.steps).flatten.length = d.checkSteps.length := by
    have checkSteps : d.checkSteps = d.actors.flatMap ScheduleActorChain.steps := of.actors.checkSteps
    rw [checkSteps, List.flatMap_def]
  rw [shapes]
  refine ⟨words_nodup _ _ _ injective keyed, fun steps member => words_length _ _ _ member, fun steps => ?_⟩
  rw [mem_words _ none 0 injective keyed total (by simp) (Nat.zero_le _), interleaves_iff, Nat.zero_add]
  rfl

/-- An enumeration that was not cut off lists each interleaving within the bound once and nothing else; only an abort,
the deadline or the limit cuts it off. -/
theorem enumeration_exact {space : FiniteScheduleSpace} {limits : ScheduleExplorationLimits} {d : Declaration}
    (valid : declare space limits = .ok d) (watch : Nat → Instant) (deadline : Rat) (reads : Nat) :
    ((d.enumerate watch deadline reads).exhausted = true → ∃ bound : Nat, space.maxPreemptions.toInt? = some (bound : Int) ∧
      (d.enumerate watch deadline reads).shapes.Nodup ∧ ∀ steps, steps ∈ (d.enumerate watch deadline reads).shapes ↔
        Interleaving space.actors steps ∧ preemptions steps ≤ bound) ∧
    ((d.enumerate watch deadline reads).exhausted = false →
      (∃ r, (watch r).aborted = true ∨ deadline ≤ (watch r).now) ∨
        (d.enumerate watch deadline reads).shapes.length = d.bounds.maxEnumerated) := by
  have of := declare_ok valid
  constructor
  · intro exhausted
    rcases of.enumerated exhausted with ⟨nodup, _, listed⟩
    have perm : d.actors.Perm space.actors := of.sorted ▸ sort_perm _ _
    refine ⟨d.bounds.maxPreemptions, of.maxPreemptions, nodup, fun steps => ?_⟩
    rw [listed]
    exact and_congr_left fun _ => ⟨fun whole => whole.of_perm perm, fun whole => whole.of_perm perm.symm⟩
  · intro cut
    exact visit_cut _ none 0 _ rfl cut

end

theorem null_distinct : ∀ input ∈ [Json.null], input.KeysDistinct := by simp [Json.KeysDistinct.null]

theorem null_literal : letI := integerNumbers
    ∀ input ∈ [Json.null], input.EveryNumber Double.Literal := by simp [Json.EveryNumber.null]

def pairSpace : @FiniteScheduleSpace integerNumbers.toNumberConversion :=
  letI := integerNumbers
  { identity := soloIdentity
    actors := [⟨⟨js "b", js "run"⟩, [SCHEDULE_COMPLETION]⟩, ⟨⟨js "a", js "walk"⟩, [js "x", SCHEDULE_COMPLETION]⟩]
    inputs := [.null]
    maxPreemptions := .ofNat 0
    requireModelComparison := false
    baseVariables := [js "n"]
    instrumentationVariables := []
    distinct := null_distinct
    literal := null_literal }

theorem pairSpace_enumerated : letI := integerNumbers
    (declare pairSpace ⟨none, none, none, none⟩).toOption.map (fun d =>
      ((d.enumerate (fun _ => ⟨false, 0⟩) 1 1).exhausted, (d.enumerate (fun _ => ⟨false, 0⟩) 1 1).shapes.length)) =
        some (true, 2) := by
  decide +kernel

/-- Of the three interleavings only the two without a preemption are listed. -/
theorem pair_enumeration_exact : letI := integerNumbers
    ∃ d, declare pairSpace ⟨none, none, none, none⟩ = .ok d ∧
      (d.enumerate (fun _ => ⟨false, 0⟩) 1 1).shapes.length = 2 ∧
      ∃ bound : Nat, pairSpace.maxPreemptions.toInt? = some (bound : Int) ∧
        (d.enumerate (fun _ => ⟨false, 0⟩) 1 1).shapes.Nodup ∧
        ∀ steps, steps ∈ (d.enumerate (fun _ => ⟨false, 0⟩) 1 1).shapes ↔
          Interleaving pairSpace.actors steps ∧ preemptions steps ≤ bound := by
  letI := integerNumbers
  have enumerated := pairSpace_enumerated
  cases declared : declare pairSpace ⟨none, none, none, none⟩ with
  | error thrown =>
    rw [declared] at enumerated
    cases enumerated
  | ok d =>
    rw [declared] at enumerated
    have finished := Prod.mk.inj (Option.some.inj enumerated)
    exact ⟨d, rfl, finished.2, (enumeration_exact declared (fun _ => ⟨false, 0⟩) 1 1).1 finished.1⟩

end Mirror.Schedule
