import MirrorECMA.Machine.History
import MirrorECMA.Suite.ConstructionSteps

namespace Mirror.Suite

open Machine (Run Transition exists_last reaches reaches_run)

variable {F ε : Type} [DecidableEq F]

abbrev Trace (F ε : Type) := List (Transition (Scope F ε) (Event F ε) (Output F))

def Output.started? : Output F → Option F
  | .started f => some f
  | _ => none

/-- The functions that are started, in this order. -/
def starts (trace : Trace F ε) : List F := trace.filterMap fun t => t.output.started?

/-- The application calls the wrapper of the function. -/
def CalledIn (trace : Trace F ε) (f : F) : Prop := ∃ t ∈ trace, t.input = .call f

omit [DecidableEq F] in
theorem calledIn_snoc {trace : Trace F ε} {t : Transition (Scope F ε) (Event F ε) (Output F)} {f : F} :
    CalledIn (trace ++ [t]) f ↔ CalledIn trace f ∨ t.input = .call f := exists_last

namespace Scope

/-! ### The disposal goes on -/

/-- The steps of the functions, whose ends are given. -/
def Follows (verdict : F → Except ε Unit) (trace : Trace F ε) : Prop :=
  ∀ t ∈ trace, ∀ f result, t.input = .settle f result → result = verdict f

section

variable {scope after : Scope F ε} {called : F → Prop} {f : F} {verdict : F → Except ε Unit} {trace : Trace F ε}

theorem run_kept (kept : Kept called scope) (run : Run step scope trace after) :
    Kept (fun f => called f ∨ CalledIn trace f) after := by
  induction run with
  | start => exact kept.mono fun _ => .inl
  | @next trace middle after event output run taken ih =>
    refine (step_kept ih taken).mono fun f asked => ?_
    rw [calledIn_snoc]
    rcases asked with (called | inside) | last
    · exact .inl called
    · exact .inr (.inl inside)
    · exact .inr (.inr last)

omit [DecidableEq F] in
theorem follows_nil : Follows verdict ([] : Trace F ε) := fun _ member => (List.not_mem_nil member).elim

omit [DecidableEq F] in
theorem Follows.append {more : Trace F ε} (follows : Follows verdict trace) (others : Follows verdict more) :
    Follows verdict (trace ++ more) := by
  intro t member
  rcases List.mem_append.mp member with member | member
  · exact follows t member
  · exact others t member

theorem step_run {event : Event F ε} {output : Output F} (taken : step scope event = some (after, output)) :
    Run step scope [⟨scope, event, output, after⟩] after := Run.start.next taken

omit [DecidableEq F] in
theorem follows_single {t : Transition (Scope F ε) (Event F ε) (Output F)}
    (own : ∀ f result, t.input = .settle f result → result = verdict f) : Follows verdict [t] := by
  intro u member
  rw [List.mem_singleton.mp member]
  exact own

/-- A function that has been started may settle as it will. -/
theorem settle_run (verdict : F → Except ε Unit) (started : scope.progress f = some .started) :
    ∃ trace after, Run step scope trace after ∧ Follows verdict trace ∧ after.Settled f ∧ after.disposal = scope.disposal := by
  have taken : step scope (.settle f (verdict f)) = some (scope.setProgress f (.settled (verdict f)), .silent) := by
    simp only [step, started]
  refine ⟨_, _, step_run taken, follows_single fun g result same => ?_, ⟨verdict f, setProgress_self _ _ _⟩, rfl⟩
  cases same
  rfl

/-- What has been asked for may start and settle. -/
theorem asked_run (verdict : F → Except ε Unit) (asked : scope.progress f ≠ none) :
    ∃ trace after, Run step scope trace after ∧ Follows verdict trace ∧ after.Settled f ∧ after.disposal = scope.disposal := by
  cases progress : scope.progress f with
  | none => exact absurd progress asked
  | some progress' =>
    cases progress' with
    | queued =>
      have taken : step scope (.run f) = some (scope.setProgress f .started, .started f) := by simp only [step, progress]
      rcases settle_run verdict (setProgress_self scope f .started) with ⟨trace, after, run, follows, settled, same⟩
      exact ⟨_, after, (step_run taken).trans run, (follows_single fun _ _ same => by cases same).append follows, settled, same⟩
    | started => exact settle_run verdict progress
    | settled result => exact ⟨[], scope, .start, follows_nil, ⟨result, progress⟩, rfl⟩

/-- What the disposal awaits. -/
def current (scope : Scope F ε) : Option F :=
  match scope.disposal with
  | .disposer dispose => some dispose
  | .cleanups cleanup _ _ => some cleanup
  | _ => none

omit [DecidableEq F] in
theorem current_asked (kept : Kept called scope) (at_ : scope.current = some f) : scope.progress f ≠ none := by
  have placed := kept.placed
  unfold current at at_
  split at at_
  · rename_i disposal
    cases at_
    simp only [Placed, disposal] at placed
    exact placed.2
  · rename_i disposal
    cases at_
    simp only [Placed, disposal] at placed
    exact placed.1
  · cases at_

theorem resume_settled (at_ : scope.current = some f) (settled : scope.Settled f) :
    ∃ errors rest, step scope .resume = some (scope.next errors rest, .silent) ∧
      ∀ rest' errors', scope.disposal = .cleanups f rest' errors' → rest = rest' := by
  rcases settled with ⟨result, settled⟩
  unfold current at at_
  split at at_
  · rename_i disposal
    cases at_
    refine ⟨errorsOf result, scope.registered.reverse, ?_, fun rest' errors' same => ?_⟩
    · simp only [step, resume, disposal, settled, Option.map_some]
    · rw [disposal] at same
      cases same
  · rename_i f' rest errors disposal
    cases at_
    refine ⟨errors ++ errorsOf result, rest, ?_, fun rest' errors' same => ?_⟩
    · simp only [step, resume, disposal, settled, Option.map_some]
    · rw [disposal] at same
      cases same
      rfl
  · cases at_

/-- The disposal gets past what it awaits. -/
theorem current_run (verdict : F → Except ε Unit) (kept : Kept called scope) (at_ : scope.current = some f) :
    ∃ (trace : Trace F ε) (after : Scope F ε) (errors : List ε) (rest : List F),
      Run step scope trace (after.next errors rest) ∧ Follows verdict trace ∧
        ∀ rest' errors', scope.disposal = .cleanups f rest' errors' → rest = rest' := by
  rcases asked_run verdict (current_asked kept at_) with ⟨trace, after, run, follows, settled, same⟩
  have there : after.current = some f := by
    unfold current at at_ ⊢
    rw [same]
    exact at_
  rcases resume_settled there settled with ⟨errors, rest, taken, rests⟩
  rw [same] at rests
  exact ⟨_, after, errors, rest, run.trans (step_run taken),
    follows.append (follows_single fun _ _ resumed => by cases resumed), rests⟩

/-- The loop of the disposal ends, whatever its functions throw. -/
theorem cleanups_finish (verdict : F → Except ε Unit) {rest : List F} {errors : List ε} (kept : Kept called scope)
    (disposal : scope.disposal = .cleanups f rest errors) :
    ∃ trace after last, Run step scope trace after ∧ Follows verdict trace ∧ after.disposal = .finished last := by
  induction rest generalizing f scope errors called with
  | nil =>
    rcases current_run verdict kept (f := f) (by rw [current, disposal]) with ⟨trace, after, errors', rest, run, follows, same⟩
    cases same _ _ disposal
    exact ⟨trace, _, errors', run, follows, rfl⟩
  | cons g rest ih =>
    rcases current_run verdict kept (f := f) (by rw [current, disposal]) with ⟨trace, after, errors', rest', run, follows, same⟩
    cases same _ _ disposal
    rcases ih (run_kept kept run) (f := g) rfl with ⟨more, final, last, others, alike, finished⟩
    exact ⟨trace ++ more, final, last, run.trans others, follows.append alike, finished⟩

theorem disposal_finishes (verdict : F → Except ε Unit) (kept : Kept called scope) (closed : scope.disposed = true) :
    ∃ trace after last, Run step scope trace after ∧ Follows verdict trace ∧ after.disposal = .finished last := by
  cases disposal : scope.disposal with
  | idle =>
    rw [kept.idle.mpr disposal] at closed
    cases closed
  | finished errors => exact ⟨[], scope, errors, .start, follows_nil, disposal⟩
  | cleanups f rest errors => exact cleanups_finish verdict kept disposal
  | disposer d =>
    rcases current_run verdict kept (f := d) (by rw [current, disposal]) with ⟨trace, after, errors, rest, run, follows, _⟩
    cases rest with
    | nil => exact ⟨trace, _, errors, run, follows, rfl⟩
    | cons f rest =>
      rcases cleanups_finish verdict (run_kept kept run) (f := f) rfl with ⟨more, final, last, others, alike, finished⟩
      exact ⟨trace ++ more, final, last, run.trans others, follows.append alike, finished⟩

end

end Scope

open Scope

/-! ### Whole runs -/

omit [DecidableEq F] in
theorem starts_snoc (trace : Trace F ε) (t : Transition (Scope F ε) (Event F ε) (Output F)) :
    starts (trace ++ [t]) = starts trace ++ t.output.started?.toList := by
  unfold starts
  rw [List.filterMap_append]
  cases started : t.output.started? <;> simp [started]

structure Held (trace : Trace F ε) (scope : Scope F ε) : Prop where
  kept : Kept (CalledIn trace) scope
  begun : ∀ f, scope.Begun f → (starts trace).count f = 1
  others : ∀ f, ¬ scope.Begun f → (starts trace).count f = 0

section

variable {trace : Trace F ε} {scope : Scope F ε}

omit [DecidableEq F] in
theorem initial_kept : Kept (CalledIn ([] : Trace F ε)) (Scope.initial : Scope F ε) :=
  kept_open rfl rfl (fun _ same => by cases same) List.nodup_nil fun _ asked => absurd rfl asked

theorem run_held (run : Run step Scope.initial trace scope) : Held trace scope := by
  refine run.invariant (P := Held) ?_ ?_
  · refine ⟨initial_kept, fun f begun => ?_, fun _ _ => rfl⟩
    exact absurd begun (not_begun (.inl rfl))
  · intro trace scope event output after held taken
    rcases step_starts held.kept taken with ⟨begun, fresh⟩
    have kept : Kept (CalledIn (trace ++ [⟨scope, event, output, after⟩])) after :=
      (step_kept held.kept taken).mono fun f asked => calledIn_snoc.mpr asked
    have counts (f : F) : (starts (trace ++ [⟨scope, event, output, after⟩])).count f =
        (starts trace).count f + if output = .started f then 1 else 0 := by
      rw [starts_snoc, List.count_append]
      congr 1
      cases output with
      | started g => by_cases same : g = f <;> simp [Output.started?, same]
      | _ => simp [Output.started?]
    refine ⟨kept, fun f later => ?_, fun f later => ?_⟩
    · rw [counts]
      rcases (begun f).mp later with before | started
      · have quiet : output ≠ .started f := fun started => fresh f started before
        rw [if_neg quiet, held.begun f before]
      · rw [if_pos started, held.others f (fresh f started)]
    · rw [begun, not_or] at later
      rw [counts, if_neg later.2, held.others f later.1]

/-- Every function is started once at most; one that the application leaves alone is started by the disposal, after all that
come before it have settled; the disposal ends when all have; nothing is registered in a closed scope. -/
structure CleansUp (trace : Trace F ε) (scope : Scope F ε) : Prop where
  distinct : scope.registered.Nodup
  once : ∀ f, (starts trace).count f ≤ 1
  ordered : ∀ earlier t later f, trace = earlier ++ t :: later → t.output = .started f →
    CalledIn earlier f ∨ t.after.disposed = true ∧ ∀ g, t.after.Before g f → t.after.Settled g
  finished : ∀ errors, scope.disposal = .finished errors →
    (∀ f ∈ scope.awaited, (starts trace).count f = 1 ∧ scope.Settled f) ∧ errors = scope.awaited.flatMap scope.caught
  failed : ∀ cause, scope.phase = .failing cause → scope.disposed = true
  disposed : ∀ t ∈ trace, t.input = .dispose → scope.disposed = true
  waits : ∀ f, scope.current = some f → (∃ next, step scope .resume = some next) ∨ (∃ next, step scope (.run f) = some next) ∨
    scope.progress f = some .started
  ends : scope.disposed = true → ∀ verdict, ∃ more final errors, Run step scope more final ∧ Follows verdict more ∧
    final.disposal = .finished errors
  closed : ∀ earlier t later, trace = earlier ++ t :: later → t.before.Closed → scope.registered = t.before.registered ∧
    ∀ cleanup, t.input = .register cleanup → t.output = .closed
  opened : ∀ t ∈ trace, ∀ f, t.input = .register (some f) → ¬ t.before.Closed → t.output = .wrapper f ∧ f ∈ t.after.registered

theorem runSuite_cleansUp (run : Run step Scope.initial trace scope) : CleansUp trace scope := by
  have held := run_held run
  refine ⟨held.kept.distinct, fun f => ?_, ?_, fun errors finished => ?_, held.kept.failed, ?_, fun f at_ => ?_, ?_, ?_, ?_⟩
  · by_cases begun : scope.Begun f
    · exact Nat.le_of_eq (held.begun f begun)
    · exact Nat.le_trans (Nat.le_of_eq (held.others f begun)) (Nat.zero_le 1)
  · intro earlier t later f whole started
    subst whole
    rcases run.split with ⟨before, taken⟩
    have early := run_held before
    have after := (run_held (before.next taken)).kept
    have begun := ((step_starts early.kept taken).1 f).mpr (.inr started)
    have asked : t.after.progress f ≠ none := by
      rcases begun with same | ⟨result, same⟩ <;> rw [same] <;> exact Option.some_ne_none _
    rcases after.due f asked with called | due
    · rcases calledIn_snoc.mp called with called | call
      · exact .inl called
      · rw [call, started] at taken
        simp only [step] at taken
        split at taken
        · cases congrArg Prod.snd (Option.some.inj taken)
        · cases taken
    · exact .inr due
  · have placed := held.kept.placed
    simp only [Placed, finished] at placed
    exact ⟨fun f member => ⟨held.begun f (.inr (placed.1 f member)), placed.1 f member⟩, placed.2⟩
  · intro t member input
    rcases List.append_of_mem member with ⟨earlier, later, rfl⟩
    refine run.lasting (P := fun s => s.disposed = true) (fun s event output next closed taken => ?_) ?_
    · rcases step_registered taken with steady | ⟨f, _, open_, _⟩
      · exact steady.disposed closed
      · exact absurd (.inr closed) open_
    · have taken := run.split.2
      simp only [input, step] at taken
      split at taken
      · exact congrArg (·.1.disposed) (Option.some.inj taken) ▸ dispose_disposed t.before
      · cases taken
  · have asked := current_asked held.kept at_
    cases progress : scope.progress f with
    | none => exact absurd progress asked
    | some progress' =>
      cases progress' with
      | queued => exact .inr (.inl ⟨(scope.setProgress f .started, .started f), by simp only [step, progress]⟩)
      | started => exact .inr (.inr rfl)
      | settled result =>
        rcases resume_settled at_ ⟨result, progress⟩ with ⟨errors, rest, taken, _⟩
        exact .inl ⟨_, taken⟩
  · intro closed verdict
    exact disposal_finishes verdict held.kept closed
  · intro earlier t later whole closed
    subst whole
    have kept := run.stable (P := fun s => s.Closed ∧ s.registered = t.before.registered)
      (fun s event output next both taken => ?_) ⟨closed, rfl⟩
    · refine ⟨kept.2, fun cleanup input => ?_⟩
      have taken := run.split.2
      rw [input] at taken
      exact congrArg Prod.snd ((Option.some.inj taken).symm.trans (deferCleanup_closed closed cleanup))
    · rcases step_registered taken with steady | ⟨f, _, open_, _⟩
      · exact ⟨steady.closed both.1, steady.registered.trans both.2⟩
      · exact absurd both.1 open_
  · intro t member f input open_
    have taken := run.taken member
    rw [input] at taken
    have made := deferCleanup_open open_ f
    rw [Option.some.inj taken] at made
    exact made

end

/-! ### A disposer that is registered and throws -/

/-- Two functions are registered, the second one twice; it is the disposer. -/
def disposals : List (Event Nat Unit) :=
  [.register (some 1), .register (some 2), .register (some 2), .register (some 3), .call 1, .run 1, .settle 1 (.ok ()),
    .construct (.ok (some 2)), .bindLocal (.ok ()), .register (some 4), .assemble (.ok ()), .dispose, .run 2,
    .settle 2 (.error ()), .resume, .run 3, .settle 3 (.ok ()), .resume, .resume, .resume]

def disposedInOrder (trace : Trace Nat Unit) (scope : Scope Nat Unit) : Bool :=
  starts trace = [1, 2, 3] && scope.registered = [1, 2, 3] &&
    match scope.disposal with
    | .finished errors => errors.length == 2
    | _ => false

theorem disposals_reach : reaches step (.ok Scope.initial : Except Unit (Scope Nat Unit)) disposals disposedInOrder = true := by
  decide +kernel

theorem disposals_cleanUp : ∃ (trace : Trace Nat Unit) (scope : Scope Nat Unit),
    Run step Scope.initial trace scope ∧ disposedInOrder trace scope = true ∧ CleansUp trace scope := by
  rcases reaches_run disposals_reach with ⟨begun, trace, scope, same, run, inOrder⟩
  cases same
  exact ⟨trace, scope, run, inOrder, runSuite_cleansUp run⟩

end Mirror.Suite
