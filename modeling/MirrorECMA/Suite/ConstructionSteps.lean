import MirrorECMA.Suite.ConstructionScope

namespace Mirror.Suite

variable {F ε : Type}

namespace Scope

def Settled (scope : Scope F ε) (f : F) : Prop := ∃ result, scope.progress f = some (.settled result)

/-- What the disposal calls, one after another. -/
def awaited (scope : Scope F ε) : List F := scope.implementation.toList ++ scope.registered.reverse

/-- In the disposal `g` comes first: it is the disposer, or it was registered later. -/
def Before (scope : Scope F ε) (g f : F) : Prop :=
  (scope.implementation = some g ∧ g ≠ f) ∨ (scope.implementation ≠ some f ∧ [g, f].Sublist scope.registered.reverse)

/-- The disposal has come to the function. -/
def Due (scope : Scope F ε) (f : F) : Prop := scope.disposed = true ∧ ∀ g, scope.Before g f → scope.Settled g

/-- What the disposal catches of a function. -/
def caught (scope : Scope F ε) (f : F) : List ε :=
  match scope.progress f with
  | some (.settled result) => errorsOf result
  | _ => []

def Begun (scope : Scope F ε) (f : F) : Prop := scope.progress f = some .started ∨ scope.Settled f

/-- What has been called is settled up to where the disposal is. -/
def Placed (scope : Scope F ε) : Prop :=
  match scope.disposal with
  | .idle => True
  | .disposer dispose => scope.implementation = some dispose ∧ scope.progress dispose ≠ none
  | .cleanups cleanup rest errors => scope.progress cleanup ≠ none ∧ ∃ done, scope.registered.reverse = done ++ cleanup :: rest ∧
    (∀ f ∈ scope.implementation.toList ++ done, scope.Settled f) ∧
    errors = (scope.implementation.toList ++ done).flatMap scope.caught
  | .finished errors => (∀ f ∈ scope.awaited, scope.Settled f) ∧ errors = scope.awaited.flatMap scope.caught

structure Kept (called : F → Prop) (scope : Scope F ε) : Prop where
  distinct : scope.registered.Nodup
  ended : scope.disposed = true → scope.phase = .returned ∨ ∃ cause, scope.phase = .failing cause
  failed : ∀ cause, scope.phase = .failing cause → scope.disposed = true
  idle : scope.disposed = false ↔ scope.disposal = .idle
  known : ∀ f, scope.progress f ≠ none → f ∈ scope.registered ∨ scope.disposed = true ∧ scope.implementation = some f
  due : ∀ f, scope.progress f ≠ none → called f ∨ scope.Due f
  placed : scope.Placed

/-! ### Progress is not undone -/

structure Onward (scope after : Scope F ε) : Prop where
  registered : after.registered = scope.registered
  implementation : after.implementation = scope.implementation
  asked : ∀ f, scope.progress f ≠ none → after.progress f ≠ none
  settled : ∀ f result, scope.progress f = some (.settled result) → after.progress f = some (.settled result)

section

variable {scope after : Scope F ε} {called more : F → Prop}

theorem Onward.of_progress (registered : after.registered = scope.registered)
    (implementation : after.implementation = scope.implementation) (same : after.progress = scope.progress) :
    Onward scope after :=
  ⟨registered, implementation, fun _ asked => same ▸ asked, fun _ _ settled => same ▸ settled⟩

theorem Onward.mono (onward : Onward scope after) {f : F} (settled : scope.Settled f) : after.Settled f :=
  settled.imp fun result same => onward.settled f result same

theorem Onward.caught (onward : Onward scope after) {f : F} (settled : scope.Settled f) : after.caught f = scope.caught f := by
  rcases settled with ⟨result, same⟩
  rw [Scope.caught, Scope.caught, same, onward.settled f result same]

theorem Onward.before (onward : Onward scope after) {g f : F} : after.Before g f ↔ scope.Before g f := by
  rw [Before, Before, onward.registered, onward.implementation]

theorem Onward.awaited (onward : Onward scope after) : after.awaited = scope.awaited := by
  rw [Scope.awaited, Scope.awaited, onward.registered, onward.implementation]

theorem Due.onward {f : F} (due : scope.Due f) (onward : Onward scope after) (disposed : after.disposed = true) : after.Due f :=
  ⟨disposed, fun g first => onward.mono (due.2 g (onward.before.mp first))⟩

theorem Onward.flatMap (onward : Onward scope after) {fs : List F} (settled : ∀ f ∈ fs, scope.Settled f) :
    fs.flatMap after.caught = fs.flatMap scope.caught := by
  induction fs with
  | nil => rfl
  | cons f rest ih =>
    rw [List.forall_mem_cons] at settled
    rw [List.flatMap_cons, List.flatMap_cons, ih settled.2, onward.caught settled.1]

theorem Placed.onward (placed : scope.Placed) (onward : Onward scope after) (disposal : after.disposal = scope.disposal) :
    after.Placed := by
  unfold Placed at placed ⊢
  rw [disposal]
  cases at_ : scope.disposal with
  | idle => trivial
  | disposer dispose =>
    rw [at_] at placed
    exact ⟨onward.implementation.trans placed.1, onward.asked _ placed.2⟩
  | cleanups cleanup rest errors =>
    rw [at_] at placed
    rcases placed with ⟨asked, done, whole, settled, same⟩
    rw [← onward.implementation] at settled same
    exact ⟨onward.asked _ asked, done, onward.registered ▸ whole, fun f member => onward.mono (settled f member),
      same.trans (onward.flatMap settled).symm⟩
  | finished errors =>
    rw [at_] at placed
    exact ⟨fun f member => onward.mono (placed.1 f (onward.awaited ▸ member)),
      by rw [onward.awaited, onward.flatMap placed.1, placed.2]⟩

/-- A step of the functions, or of the application. -/
theorem Kept.onward (kept : Kept called scope) (onward : Onward scope after) (disposed : after.disposed = scope.disposed)
    (disposal : after.disposal = scope.disposal)
    (phase : after.phase = scope.phase ∨ scope.disposed = false ∧ ∀ cause, after.phase ≠ .failing cause)
    (grows : ∀ f, called f → more f)
    (fresh : ∀ f, after.progress f ≠ none → scope.progress f ≠ none ∨ (more f ∧ f ∈ scope.registered)) : Kept more after where
  distinct := onward.registered ▸ kept.distinct
  ended closed := by
    rw [disposed] at closed
    rcases phase with same | ⟨open_, _⟩
    · rw [same]
      exact kept.ended closed
    · rw [closed] at open_
      cases open_
  failed cause failing := by
    rcases phase with same | ⟨_, other⟩
    · exact disposed.trans (kept.failed cause (same ▸ failing))
    · exact absurd failing (other cause)
  idle := by rw [disposed, disposal, kept.idle]
  known f asked := by
    rw [onward.registered, onward.implementation, disposed]
    rcases fresh f asked with before | ⟨_, member⟩
    · exact kept.known f before
    · exact .inl member
  due f asked := by
    rcases fresh f asked with before | ⟨called, _⟩
    · rcases kept.due f before with called | due
      · exact .inl (grows f called)
      · exact .inr (due.onward onward (disposed.trans due.1))
    · exact .inl called
  placed := kept.placed.onward onward disposal

end

/-! ### What the scope does -/

section

variable [DecidableEq F] {scope after : Scope F ε} {called more : F → Prop} {f : F}

theorem setProgress_self (scope : Scope F ε) (f : F) (progress : Progress ε) : (scope.setProgress f progress).progress f = some progress :=
  if_pos rfl

theorem setProgress_other {g : F} (other : g ≠ f) (progress : Progress ε) : (scope.setProgress f progress).progress g = scope.progress g :=
  if_neg other

theorem onward_setProgress {progress : Progress ε} (unsettled : ¬ scope.Settled f) : Onward scope (scope.setProgress f progress) where
  registered := rfl
  implementation := rfl
  asked g asked := by
    by_cases same : g = f
    · rw [same, setProgress_self]
      exact Option.some_ne_none _
    · rw [setProgress_other same]
      exact asked
  settled g result settled := by
    by_cases same : g = f
    · exact absurd ⟨result, same ▸ settled⟩ unsettled
    · rw [setProgress_other same]
      exact settled

theorem setProgress_fresh {progress : Progress ε} (g : F) (asked : (scope.setProgress f progress).progress g ≠ none) :
    scope.progress g ≠ none ∨ g = f := by
  by_cases same : g = f
  · exact .inr same
  · rw [setProgress_other same] at asked
    exact .inl asked

theorem once_cases (scope : Scope F ε) (f : F) :
    (scope.progress f ≠ none ∧ scope.once f = scope) ∨ (scope.progress f = none ∧ scope.once f = scope.setProgress f .queued) := by
  unfold once
  cases progress : scope.progress f with
  | some progress => exact .inl ⟨Option.some_ne_none _, rfl⟩
  | none => exact .inr ⟨rfl, rfl⟩

theorem onward_once (scope : Scope F ε) (f : F) : Onward scope (scope.once f) := by
  rcases once_cases scope f with ⟨_, same⟩ | ⟨none, same⟩
  · rw [same]
    exact .of_progress rfl rfl rfl
  · rw [same]
    refine onward_setProgress fun settled => ?_
    rcases settled with ⟨result, settled⟩
    rw [none] at settled
    cases settled

theorem once_asked (scope : Scope F ε) (f : F) : (scope.once f).progress f ≠ none := by
  rcases once_cases scope f with ⟨asked, same⟩ | ⟨_, same⟩
  · rw [same]
    exact asked
  · rw [same, setProgress_self]
    exact Option.some_ne_none _

theorem once_fresh (g : F) (asked : (scope.once f).progress g ≠ none) : scope.progress g ≠ none ∨ g = f := by
  rcases once_cases scope f with ⟨_, same⟩ | ⟨_, same⟩
  · rw [same] at asked
    exact .inl asked
  · rw [same] at asked
    exact setProgress_fresh g asked

/-- What only the wrapper changes. -/
theorem once_fields (scope : Scope F ε) (f : F) : (scope.once f).transferred = scope.transferred ∧
    (scope.once f).disposed = scope.disposed ∧ (scope.once f).disposal = scope.disposal ∧ (scope.once f).phase = scope.phase := by
  rcases once_cases scope f with ⟨_, same⟩ | ⟨_, same⟩ <;> rw [same] <;> exact ⟨rfl, rfl, rfl, rfl⟩

omit [DecidableEq F] in
/-- In a list without repetition, what stands before an element comes earlier. -/
theorem mem_of_pair {done rest : List F} {g : F} (distinct : (done ++ f :: rest).Nodup)
    (pair : [g, f].Sublist (done ++ f :: rest)) : g ∈ done := by
  have once : f ∉ rest := (List.nodup_cons.mp (List.nodup_append.mp distinct).2.1).1
  rcases List.sublist_append_iff.mp pair with ⟨front, back, whole, first, second⟩
  cases front with
  | cons head tail =>
    rw [List.cons_append, List.cons.injEq] at whole
    exact first.subset (whole.1 ▸ List.mem_cons_self)
  | nil =>
    rw [List.nil_append] at whole
    subst whole
    rcases List.sublist_cons_iff.mp second with inside | ⟨tail, same, inside⟩
    · exact absurd (inside.subset (by simp)) once
    · cases same
      exact absurd (inside.subset List.mem_cons_self) once

/-- The loop of the disposal, with what it has awaited. -/
theorem kept_next (closed : scope.disposed = true) (distinct : scope.registered.Nodup)
    (ended : scope.phase = .returned ∨ ∃ cause, scope.phase = .failing cause)
    (known : ∀ f, scope.progress f ≠ none → f ∈ scope.registered ∨ scope.disposed = true ∧ scope.implementation = some f)
    (due : ∀ f, scope.progress f ≠ none → called f ∨ scope.Due f) {done rest : List F}
    (whole : scope.registered.reverse = done ++ rest) (settled : ∀ f ∈ scope.implementation.toList ++ done, scope.Settled f) :
    Kept called (scope.next ((scope.implementation.toList ++ done).flatMap scope.caught) rest) := by
  cases rest with
  | nil =>
    rw [List.append_nil] at whole
    have same : scope.awaited = scope.implementation.toList ++ done := by rw [Scope.awaited, whole]
    refine ⟨distinct, fun _ => ended, fun _ _ => closed, ?_, known, due, ?_⟩
    · exact ⟨fun open_ => (by rw [next, closed] at open_; cases open_), fun idle => (by cases idle)⟩
    · exact ⟨fun f member => settled f (same ▸ member), congrArg (List.flatMap scope.caught) same.symm⟩
  | cons f rest =>
    have nodup : (done ++ f :: rest).Nodup := whole ▸ (List.reverse_perm _).nodup_iff.mpr distinct
    have ready : scope.Due f := by
      refine ⟨closed, fun g first => ?_⟩
      rcases first with ⟨disposer, _⟩ | ⟨_, pair⟩
      · exact settled g (List.mem_append_left _ (by rw [disposer]; exact List.mem_singleton_self g))
      · rw [whole] at pair
        exact settled g (List.mem_append_right _ (mem_of_pair nodup pair))
    rcases once_fields scope f with ⟨_, sameDisposed, _, samePhase⟩
    have once := onward_once scope f
    have onward : Onward scope (scope.next ((scope.implementation.toList ++ done).flatMap scope.caught) (f :: rest)) :=
      ⟨once.registered, once.implementation, once.asked, once.settled⟩
    have stillClosed : (scope.next ((scope.implementation.toList ++ done).flatMap scope.caught) (f :: rest)).disposed = true :=
      sameDisposed.trans closed
    have member : f ∈ scope.registered := by
      rw [← List.mem_reverse, whole]
      exact List.mem_append_right _ List.mem_cons_self
    refine ⟨onward.registered ▸ distinct, fun _ => ?_, fun _ _ => stillClosed, ?_, fun g asked => ?_, fun g asked => ?_,
      once_asked scope f, done, onward.registered ▸ whole, ?_, ?_⟩
    · rw [← samePhase] at ended
      exact ended
    · exact ⟨fun open_ => (by rw [stillClosed] at open_; cases open_), fun idle => (by cases idle)⟩
    · rw [onward.registered, onward.implementation]
      rcases once_fresh g asked with before | rfl
      · exact (known g before).imp id fun both => ⟨stillClosed, both.2⟩
      · exact .inl member
    · rcases once_fresh g asked with before | rfl
      · exact (due g before).imp id fun due => due.onward onward stillClosed
      · exact .inr (ready.onward onward stillClosed)
    · rw [onward.implementation]
      exact fun g member => onward.mono (settled g member)
    · rw [onward.implementation]
      exact (onward.flatMap settled).symm

theorem dispose_cases (scope : Scope F ε) :
    (scope.disposed = true ∧ scope.dispose = (scope, .silent)) ∨
    (scope.disposed = false ∧ scope.implementation = none ∧
      scope.dispose = (scope.close.next [] scope.registered.reverse, .silent)) ∨
    (∃ d, scope.disposed = false ∧ scope.implementation = some d ∧ d ∈ scope.registered ∧
      scope.dispose = ((scope.close.once d).atDisposer d, .silent)) ∨
    (∃ d, scope.disposed = false ∧ scope.implementation = some d ∧ d ∉ scope.registered ∧
      scope.dispose = ((scope.close.setProgress d .started).atDisposer d, .started d)) := by
  unfold dispose
  cases scope.disposed with
  | true => exact .inl ⟨rfl, rfl⟩
  | false =>
    rw [if_neg Bool.false_ne_true]
    cases scope.implementation with
    | none => exact .inr (.inl ⟨rfl, rfl, rfl⟩)
    | some d =>
      by_cases member : d ∈ scope.registered
      · exact .inr (.inr (.inl ⟨d, rfl, rfl, member, if_pos member⟩))
      · exact .inr (.inr (.inr ⟨d, rfl, rfl, member, if_neg member⟩))

omit [DecidableEq F] in
/-- The disposer is called first, through its wrapper or as it is. -/
theorem kept_disposer {d : F} (disposer : scope.implementation = some d) (distinct : scope.registered.Nodup)
    (ended : scope.phase = .returned ∨ ∃ cause, scope.phase = .failing cause)
    (known : ∀ f, scope.progress f ≠ none → f ∈ scope.registered ∧ called f) (onward : Onward scope after)
    (disposed : after.disposed = true) (phase : after.phase = scope.phase) (asked : after.progress d ≠ none)
    (fresh : ∀ f, after.progress f ≠ none → scope.progress f ≠ none ∨ f = d) : Kept called (after.atDisposer d) where
  distinct := onward.registered ▸ distinct
  ended _ := by
    rw [← phase] at ended
    exact ended
  failed _ _ := disposed
  idle := ⟨fun open_ => absurd (disposed.symm.trans open_) (by simp), fun idle => (by cases idle)⟩
  known f inside := by
    rcases fresh f inside with before | rfl
    · exact .inl (onward.registered ▸ (known f before).1)
    · exact .inr ⟨disposed, onward.implementation.trans disposer⟩
  due f inside := by
    rcases fresh f inside with before | rfl
    · exact .inl (known f before).2
    · refine .inr ⟨disposed, fun g first => ?_⟩
      -- nothing comes before the disposer
      have same : after.implementation = some f := onward.implementation.trans disposer
      rcases first with ⟨other, apart⟩ | ⟨apart, _⟩
      · exact absurd (Option.some.inj (other.symm.trans same)) apart
      · exact absurd same apart
  placed := ⟨onward.implementation.trans disposer, asked⟩

theorem kept_dispose (open_ : scope.disposed = false) (distinct : scope.registered.Nodup)
    (ended : scope.phase = .returned ∨ ∃ cause, scope.phase = .failing cause)
    (known : ∀ f, scope.progress f ≠ none → f ∈ scope.registered ∧ called f) : Kept called scope.dispose.1 := by
  rcases dispose_cases scope with ⟨closed, _⟩ | ⟨_, none, same⟩ | ⟨d, _, disposer, _, same⟩ | ⟨d, _, disposer, other, same⟩
  · rw [open_] at closed
    cases closed
  · have nothing : (scope.close.implementation.toList ++ []).flatMap scope.close.caught = [] := by
      rw [show scope.close.implementation = Option.none from none]
      rfl
    have kept := @kept_next _ _ _ scope.close called rfl distinct ended (fun f asked => .inl (known f asked).1)
      (fun f asked => .inl (known f asked).2) [] _ rfl (by simp [close, none])
    rw [nothing] at kept
    rw [same]
    exact kept
  · rw [same]
    have once := onward_once scope.close d
    exact kept_disposer disposer distinct ended known ⟨once.registered, once.implementation, once.asked, once.settled⟩
      (once_fields _ _).2.1 (once_fields _ _).2.2.2 (once_asked _ _) once_fresh
  · rw [same]
    have unsettled : ¬ scope.close.Settled d := by
      rintro ⟨result, settled⟩
      exact other (known d (by rw [show scope.progress d = _ from settled]; exact Option.some_ne_none _)).1
    have onward : Onward scope.close (scope.close.setProgress d .started) := onward_setProgress unsettled
    refine kept_disposer disposer distinct ended known ⟨onward.registered, onward.implementation, onward.asked, onward.settled⟩
      rfl rfl ?_ setProgress_fresh
    rw [setProgress_self]
    exact Option.some_ne_none _

omit [DecidableEq F] in
theorem Kept.known_open (kept : Kept called scope) (open_ : scope.disposed = false) (f : F) (asked : scope.progress f ≠ none) :
    f ∈ scope.registered ∧ called f := by
  constructor
  · rcases kept.known f asked with member | ⟨closed, _⟩
    · exact member
    · rw [open_] at closed
      cases closed
  · rcases kept.due f asked with called | ⟨closed, _⟩
    · exact called
    · rw [open_] at closed
      cases closed

omit [DecidableEq F] in
/-- A scope that is open is kept as one with what is asked for called by the application. -/
theorem kept_open (open_ : scope.disposed = false) (idle : scope.disposal = .idle) (unfailed : ∀ cause, scope.phase ≠ .failing cause)
    (distinct : scope.registered.Nodup) (known : ∀ f, scope.progress f ≠ none → f ∈ scope.registered ∧ called f) :
    Kept called scope where
  distinct := distinct
  ended closed := by
    rw [open_] at closed
    cases closed
  failed cause failing := absurd failing (unfailed cause)
  idle := iff_of_true open_ idle
  known f asked := .inl (known f asked).1
  due f asked := .inl (known f asked).2
  placed := by
    unfold Placed
    rw [idle]
    trivial

theorem kept_fail (open_ : scope.disposed = false) (kept : Kept called scope) (cause : Cause ε) :
    Kept called (scope.fail cause).1 := by
  have known := kept.known_open open_
  exact @kept_dispose _ _ _ { scope with phase := .failing cause } _ open_ kept.distinct (.inr ⟨cause, rfl⟩) known

theorem kept_deferCleanup (kept : Kept called scope) (cleanup : Option F) : Kept called (scope.deferCleanup cleanup).1 := by
  unfold deferCleanup
  split
  · exact kept
  · rename_i open_
    rw [Bool.or_eq_true, not_or, Bool.not_eq_true, Bool.not_eq_true] at open_
    split
    · exact kept
    · rename_i f
      split
      · exact kept
      · rename_i fresh
        refine kept_open open_.2 (kept.idle.mp open_.2) (fun cause failing => ?_) ?_ fun g asked => ?_
        · exact absurd ((kept.failed cause failing).symm.trans open_.2) (by simp)
        · exact List.nodup_append.mpr ⟨kept.distinct, by simp, fun g member h single same =>
            fresh (List.mem_singleton.mp single ▸ same ▸ member)⟩
        · rcases kept.known_open open_.2 g asked with ⟨member, called⟩
          exact ⟨List.mem_append_left _ member, called⟩

omit [DecidableEq F] in
theorem Kept.open_of_phase (kept : Kept called scope) (running : scope.phase ≠ .returned)
    (unfailed : ∀ cause, scope.phase ≠ .failing cause) : scope.disposed = false := by
  cases closed : scope.disposed with
  | false => rfl
  | true =>
    rcases kept.ended closed with returned | ⟨cause, failing⟩
    · exact absurd returned running
    · exact absurd failing (unfailed cause)

omit [DecidableEq F] in
/-- What has been asked for may be asked for again. -/
theorem Kept.mono (kept : Kept called scope) (grows : ∀ f, called f → more f) : Kept more scope :=
  kept.onward (.of_progress rfl rfl rfl) rfl rfl (.inl rfl) grows fun _ asked => .inl asked

theorem kept_resume (kept : Kept called scope) (taken : scope.resume = some after) : Kept called after := by
  have placed := kept.placed
  have closed : scope.disposal ≠ .idle → scope.disposed = true := fun busy =>
    Bool.not_eq_false _ ▸ fun open_ => busy (kept.idle.mp open_)
  unfold resume at taken
  split at taken
  · rename_i d at_
    split at taken
    · rename_i result settled
      cases taken
      simp only [Placed, at_] at placed
      have same : errorsOf result = (scope.implementation.toList ++ []).flatMap scope.caught := by
        rw [placed.1]
        simp [caught, settled]
      have ready := closed (by rw [at_]; exact fun same => by cases same)
      rw [same]
      exact kept_next ready kept.distinct (kept.ended ready) kept.known kept.due rfl
        (by rw [placed.1]; simpa using ⟨result, settled⟩)
    · cases taken
  · rename_i f rest errors at_
    split at taken
    · rename_i result settled
      cases taken
      simp only [Placed, at_] at placed
      rcases placed with ⟨_, done, whole, before, same⟩
      have ready := closed (by rw [at_]; exact fun same => by cases same)
      have errors' : errors ++ errorsOf result = (scope.implementation.toList ++ (done ++ [f])).flatMap scope.caught := by
        rw [same, ← List.append_assoc, @List.flatMap_append _ _ (scope.implementation.toList ++ done)]
        simp [caught, settled]
      rw [errors']
      refine kept_next ready kept.distinct (kept.ended ready) kept.known kept.due (by simpa using whole) fun g member => ?_
      rw [← List.append_assoc] at member
      rcases List.mem_append.mp member with member | member
      · exact before g member
      · exact List.mem_singleton.mp member ▸ ⟨result, settled⟩
    · cases taken
  · cases taken

/-- A step of a function that has been asked for. -/
theorem kept_setProgress {progress : Progress ε} (kept : Kept called scope) (asked : scope.progress f ≠ none)
    (unsettled : ¬ scope.Settled f) : Kept called (scope.setProgress f progress) := by
  refine kept.onward (onward_setProgress unsettled) rfl rfl (.inl rfl) (fun _ => id) fun g later => ?_
  rcases setProgress_fresh g later with before | rfl
  · exact .inl before
  · exact .inl asked

omit [DecidableEq F] in
theorem Kept.of_pair {pair : Scope F ε × Output F} {output : Output F} (taken : some pair = some (after, output))
    (kept : Kept called pair.1) : Kept called after := by
  rw [Option.some.inj taken] at kept
  exact kept

theorem step_kept {event : Event F ε} {output : Output F} (kept : Kept called scope)
    (taken : step scope event = some (after, output)) : Kept (fun f => called f ∨ event = .call f) after := by
  suffices other : (∀ f, event ≠ .call f) → Kept called after by
    by_cases calls : ∃ f, event = .call f
    · rcases calls with ⟨f, rfl⟩
      simp only [step] at taken
      split at taken
      · rename_i member
        cases taken
        rcases once_fields scope f with ⟨_, disposed, disposal, phase⟩
        refine kept.onward (onward_once scope f) disposed disposal (.inl phase) (fun _ => .inl) fun g asked => ?_
        rcases once_fresh g asked with before | rfl
        · exact .inl before
        · exact .inr ⟨.inr rfl, member⟩
      · cases taken
    · exact (other (not_exists.mp calls)).mono fun _ => .inl
  intro other
  cases event with
  | register cleanup =>
    exact .of_pair taken (kept_deferCleanup kept cleanup)
  | call f => exact absurd rfl (other f)
  | run f =>
    simp only [step] at taken
    split at taken
    · rename_i queued
      cases taken
      exact kept_setProgress kept (by rw [queued]; exact Option.some_ne_none _) fun settled => by
        rcases settled with ⟨result, settled⟩
        rw [queued] at settled
        cases settled
    · cases taken
  | settle f result =>
    simp only [step] at taken
    split at taken
    · rename_i started
      cases taken
      exact kept_setProgress kept (by rw [started]; exact Option.some_ne_none _) fun settled => by
        rcases settled with ⟨result, settled⟩
        rw [started] at settled
        cases settled
    · cases taken
  | construct result =>
    simp only [step] at taken
    split at taken
    · rename_i phase
      have open_ := kept.open_of_phase (by simp [phase]) (by simp [phase])
      unfold construct at taken
      split at taken
      · exact .of_pair taken (kept_fail open_ kept _)
      · exact .of_pair taken (kept_fail open_ kept _)
      · cases taken
        exact kept_open open_ (kept.idle.mp open_) (fun _ same => by cases same) kept.distinct (kept.known_open open_)
    · cases taken
  | bindLocal result =>
    simp only [step] at taken
    split at taken
    · rename_i phase
      have open_ := kept.open_of_phase (by simp [phase]) (by simp [phase])
      exact .of_pair taken (kept_fail open_ kept _)
    · rename_i phase
      have open_ := kept.open_of_phase (by simp [phase]) (by simp [phase])
      cases taken
      exact kept.onward (.of_progress rfl rfl rfl) rfl rfl (.inr ⟨open_, fun _ same => by cases same⟩) (fun _ => id)
        fun _ asked => .inl asked
    · cases taken
  | assemble result =>
    simp only [step] at taken
    split at taken
    · rename_i phase
      have open_ := kept.open_of_phase (by simp [phase]) (by simp [phase])
      exact .of_pair taken (kept_fail open_ kept _)
    · rename_i phase
      have open_ := kept.open_of_phase (by simp [phase]) (by simp [phase])
      cases taken
      exact kept.onward (.of_progress rfl rfl rfl) rfl rfl (.inr ⟨open_, fun _ same => by cases same⟩) (fun _ => id)
        fun _ asked => .inl asked
    · cases taken
  | dispose =>
    simp only [step] at taken
    split at taken
    · rename_i phase
      cases closed : scope.disposed with
      | true =>
        rw [dispose, closed, if_pos rfl] at taken
        cases taken
        exact kept
      | false =>
        exact .of_pair taken (kept_dispose closed kept.distinct (.inl phase) (kept.known_open closed))
    · cases taken
  | resume =>
    simp only [step, Option.map_eq_some_iff, Prod.mk.injEq] at taken
    rcases taken with ⟨scope', resumed, rfl, _⟩
    exact kept_resume kept resumed

/-! ### What is started -/

/-- The step starts what it says, and nothing that has begun. -/
def Starts (scope after : Scope F ε) (output : Output F) : Prop :=
  (∀ f, after.Begun f ↔ scope.Begun f ∨ output = .started f) ∧ ∀ f, output = .started f → ¬ scope.Begun f

omit [DecidableEq F] in
theorem starts_nothing {output : Output F} (same : ∀ f, after.Begun f ↔ scope.Begun f) (quiet : ∀ f, output ≠ .started f) :
    Starts scope after output :=
  ⟨fun f => by rw [same, or_iff_left (quiet f)], fun f started => absurd started (quiet f)⟩

omit [DecidableEq F] in
theorem begun_of_progress (same : after.progress = scope.progress) (f : F) : after.Begun f ↔ scope.Begun f := by
  rw [Begun, Begun, Settled, Settled, same]

theorem begun_setProgress {progress : Progress ε} (g : F) :
    (scope.setProgress f progress).Begun g ↔
      (g ≠ f ∧ scope.Begun g) ∨ (g = f ∧ (progress = .started ∨ ∃ result, progress = .settled result)) := by
  unfold Begun Settled
  by_cases same : g = f
  · simp [same, setProgress_self]
  · simp [same, setProgress_other same]

omit [DecidableEq F] in
theorem not_begun (unasked : scope.progress f = none ∨ scope.progress f = some .queued) : ¬ scope.Begun f := by
  unfold Begun Settled
  rcases unasked with same | same <;> simp [same]

theorem begun_once (g : F) : (scope.once f).Begun g ↔ scope.Begun g := by
  rcases once_cases scope f with ⟨_, same⟩ | ⟨none, same⟩
  · rw [same]
  · rw [same, begun_setProgress]
    by_cases own : g = f
    · simp [own, not_begun (.inl none)]
    · simp [own]

theorem begun_next (errors : List ε) (rest : List F) (g : F) : (scope.next errors rest).Begun g ↔ scope.Begun g := by
  cases rest with
  | nil => exact Iff.rfl
  | cons f rest => exact begun_once g

theorem starts_dispose (known : scope.disposed = false → ∀ f, scope.progress f ≠ none → f ∈ scope.registered) :
    Starts scope scope.dispose.1 scope.dispose.2 := by
  rcases dispose_cases scope with ⟨_, same⟩ | ⟨_, _, same⟩ | ⟨d, _, _, _, same⟩ | ⟨d, open_, _, other, same⟩
  · rw [same]
    exact starts_nothing (fun _ => Iff.rfl) fun _ started => by cases started
  · rw [same]
    exact starts_nothing (begun_next _ _) fun _ started => by cases started
  · rw [same]
    have begun (g : F) : (scope.close.once d).Begun g ↔ scope.close.Begun g := begun_once g
    exact starts_nothing begun fun _ started => by cases started
  · have unasked : scope.progress d = none := Classical.byContradiction fun asked => other (known open_ d asked)
    rw [same]
    constructor
    · intro g
      have begun : (scope.close.setProgress d .started).Begun g ↔ (g ≠ d ∧ scope.close.Begun g) ∨
          (g = d ∧ (Progress.started = .started ∨ ∃ result, (.started : Progress ε) = .settled result)) := begun_setProgress g
      refine Iff.trans begun ?_
      by_cases own : g = d
      · simp [own]
      · simp [own, Ne.symm own]
        exact Iff.rfl
    · intro g started
      cases started
      exact not_begun (.inl unasked)

omit [DecidableEq F] in
theorem Starts.of_pair {pair : Scope F ε × Output F} {output : Output F} (taken : some pair = some (after, output))
    (starts : Starts scope pair.1 pair.2) : Starts scope after output := by
  rw [Option.some.inj taken] at starts
  exact starts

theorem starts_fail (kept : Kept called scope) (cause : Cause ε) : Starts scope (scope.fail cause).1 (scope.fail cause).2 :=
  @starts_dispose _ _ _ { scope with phase := .failing cause } fun open_ f asked => (kept.known_open open_ f asked).1

theorem starts_deferCleanup (cleanup : Option F) :
    Starts scope (scope.deferCleanup cleanup).1 (scope.deferCleanup cleanup).2 := by
  unfold deferCleanup
  split
  · exact starts_nothing (fun _ => Iff.rfl) fun _ started => by cases started
  · split
    · exact starts_nothing (fun _ => Iff.rfl) fun _ started => by cases started
    · split
      · exact starts_nothing (fun _ => Iff.rfl) fun _ started => by cases started
      · exact starts_nothing (fun _ => Iff.rfl) fun _ started => by cases started

theorem begun_resume (taken : scope.resume = some after) (g : F) : after.Begun g ↔ scope.Begun g := by
  unfold resume at taken
  split at taken
  · split at taken
    · cases taken
      exact begun_next _ _ g
    · cases taken
  · split at taken
    · cases taken
      exact begun_next _ _ g
    · cases taken
  · cases taken

theorem step_starts {event : Event F ε} {output : Output F} (kept : Kept called scope)
    (taken : step scope event = some (after, output)) : Starts scope after output := by
  cases event with
  | register cleanup => exact .of_pair taken (starts_deferCleanup cleanup)
  | call f =>
    simp only [step] at taken
    split at taken
    · cases taken
      exact starts_nothing begun_once fun _ started => by cases started
    · cases taken
  | run f =>
    simp only [step] at taken
    split at taken
    · rename_i queued
      cases taken
      constructor
      · intro g
        rw [begun_setProgress]
        by_cases own : g = f
        · simp [own]
        · simp [own, Ne.symm own]
      · intro g started
        cases started
        exact not_begun (.inr queued)
    · cases taken
  | settle f result =>
    simp only [step] at taken
    split at taken
    · rename_i started
      cases taken
      refine starts_nothing (fun g => ?_) fun _ started => by cases started
      rw [begun_setProgress]
      by_cases own : g = f
      · simp [own, Begun, started]
      · simp [own]
    · cases taken
  | construct result =>
    simp only [step] at taken
    split at taken
    · unfold construct at taken
      split at taken
      · exact .of_pair taken (starts_fail kept _)
      · exact .of_pair taken (starts_fail kept _)
      · cases taken
        exact starts_nothing (fun _ => Iff.rfl) fun _ started => by cases started
    · cases taken
  | bindLocal result =>
    simp only [step] at taken
    split at taken
    · exact .of_pair taken (starts_fail kept _)
    · cases taken
      exact starts_nothing (fun _ => Iff.rfl) fun _ started => by cases started
    · cases taken
  | assemble result =>
    simp only [step] at taken
    split at taken
    · exact .of_pair taken (starts_fail kept _)
    · cases taken
      exact starts_nothing (fun _ => Iff.rfl) fun _ started => by cases started
    · cases taken
  | dispose =>
    simp only [step] at taken
    split at taken
    · exact .of_pair taken (starts_dispose fun open_ f asked => (kept.known_open open_ f asked).1)
    · cases taken
  | resume =>
    simp only [step, Option.map_eq_some_iff, Prod.mk.injEq] at taken
    rcases taken with ⟨scope', resumed, rfl, rfl⟩
    exact starts_nothing (begun_resume resumed) fun _ started => by cases started

/-! ### A scope that is closed -/

/-- The scope was transferred or disposed. -/
def Closed (scope : Scope F ε) : Prop := scope.transferred = true ∨ scope.disposed = true

/-- A step that registers nothing, and that does not open the scope. -/
structure Steady (scope after : Scope F ε) : Prop where
  registered : after.registered = scope.registered
  transferred : scope.transferred = true → after.transferred = true
  disposed : scope.disposed = true → after.disposed = true

omit [DecidableEq F] in
theorem Steady.closed (steady : Steady scope after) : scope.Closed → after.Closed := Or.imp steady.transferred steady.disposed

omit [DecidableEq F] in
theorem steady_same : Steady scope scope := ⟨rfl, id, id⟩

theorem steady_once (scope : Scope F ε) (f : F) : Steady scope (scope.once f) := by
  rcases once_fields scope f with ⟨transferred, disposed, _, _⟩
  exact ⟨(onward_once scope f).registered, fun same => transferred.trans same, fun same => disposed.trans same⟩

theorem steady_next (scope : Scope F ε) (errors : List ε) (rest : List F) : Steady scope (scope.next errors rest) := by
  cases rest with
  | nil => exact ⟨rfl, id, id⟩
  | cons f rest =>
    have steady := steady_once scope f
    exact ⟨steady.registered, steady.transferred, steady.disposed⟩

theorem steady_dispose (scope : Scope F ε) : Steady scope scope.dispose.1 := by
  rcases dispose_cases scope with ⟨_, same⟩ | ⟨_, _, same⟩ | ⟨d, _, _, _, same⟩ | ⟨d, _, _, _, same⟩
  · rw [same]
    exact steady_same
  · rw [same]
    have steady := steady_next scope.close [] scope.registered.reverse
    exact ⟨steady.registered, steady.transferred, fun _ => steady.disposed rfl⟩
  · rw [same]
    have steady := steady_once scope.close d
    exact ⟨steady.registered, steady.transferred, fun _ => steady.disposed rfl⟩
  · rw [same]
    exact ⟨rfl, id, fun _ => rfl⟩

theorem dispose_disposed (scope : Scope F ε) : scope.dispose.1.disposed = true := by
  rcases dispose_cases scope with ⟨closed, same⟩ | ⟨_, _, same⟩ | ⟨d, _, _, _, same⟩ | ⟨d, _, _, _, same⟩
  · rw [same]
    exact closed
  · rw [same]
    exact (steady_next scope.close [] scope.registered.reverse).disposed rfl
  · rw [same]
    exact (steady_once scope.close d).disposed rfl
  · rw [same]
    rfl

omit [DecidableEq F] in
theorem Steady.of_pair {pair : Scope F ε × Output F} {output : Output F} (taken : some pair = some (after, output))
    (steady : Steady scope pair.1) : Steady scope after := by
  rw [Option.some.inj taken] at steady
  exact steady

theorem steady_fail (scope : Scope F ε) (cause : Cause ε) : Steady scope (scope.fail cause).1 := by
  have steady := steady_dispose { scope with phase := .failing cause }
  exact ⟨steady.registered, steady.transferred, steady.disposed⟩

theorem steady_resume (taken : scope.resume = some after) : Steady scope after := by
  unfold resume at taken
  split at taken
  · split at taken
    · cases taken
      exact steady_next _ _ _
    · cases taken
  · split at taken
    · cases taken
      exact steady_next _ _ _
    · cases taken
  · cases taken

/-- Only a function that is deferred in time is registered. -/
theorem step_registered {event : Event F ε} {output : Output F} (taken : step scope event = some (after, output)) :
    Steady scope after ∨ ∃ f, event = .register (some f) ∧ ¬ scope.Closed ∧ after.registered = scope.registered ++ [f] := by
  cases event with
  | register cleanup =>
    have same : scope.deferCleanup cleanup = (after, output) := Option.some.inj taken
    unfold deferCleanup at same
    split at same
    · cases same
      exact .inl ⟨rfl, id, id⟩
    · rename_i open_
      split at same
      · cases same
        exact .inl ⟨rfl, id, id⟩
      · split at same
        · cases same
          exact .inl ⟨rfl, id, id⟩
        · cases same
          exact .inr ⟨_, rfl, by simpa [Closed] using open_, rfl⟩
  | call f =>
    simp only [step] at taken
    split at taken
    · cases taken
      exact .inl (steady_once scope f)
    · cases taken
  | run f =>
    simp only [step] at taken
    split at taken
    · cases taken
      exact .inl ⟨rfl, id, id⟩
    · cases taken
  | settle f result =>
    simp only [step] at taken
    split at taken
    · cases taken
      exact .inl ⟨rfl, id, id⟩
    · cases taken
  | construct result =>
    simp only [step] at taken
    split at taken
    · unfold construct at taken
      split at taken
      · exact .inl (.of_pair taken (steady_fail _ _))
      · exact .inl (.of_pair taken (steady_fail _ _))
      · cases taken
        exact .inl ⟨rfl, id, id⟩
    · cases taken
  | bindLocal result =>
    simp only [step] at taken
    split at taken
    · exact .inl (.of_pair taken (steady_fail _ _))
    · cases taken
      exact .inl ⟨rfl, fun _ => rfl, id⟩
    · cases taken
  | assemble result =>
    simp only [step] at taken
    split at taken
    · exact .inl (.of_pair taken (steady_fail _ _))
    · cases taken
      exact .inl ⟨rfl, id, id⟩
    · cases taken
  | dispose =>
    simp only [step] at taken
    split at taken
    · exact .inl (.of_pair taken (steady_dispose _))
    · cases taken
  | resume =>
    simp only [step, Option.map_eq_some_iff, Prod.mk.injEq] at taken
    rcases taken with ⟨scope', resumed, rfl, _⟩
    exact .inl (steady_resume resumed)

theorem deferCleanup_closed (closed : scope.Closed) (cleanup : Option F) : scope.deferCleanup cleanup = (scope, .closed) :=
  if_pos (Bool.or_eq_true _ _ ▸ closed)

theorem deferCleanup_open (open_ : ¬ scope.Closed) (f : F) : (scope.deferCleanup (some f)).2 = .wrapper f ∧
    f ∈ (scope.deferCleanup (some f)).1.registered := by
  have guard : ¬ (scope.transferred || scope.disposed) = true := by simpa [Closed] using open_
  unfold deferCleanup
  rw [if_neg guard]
  dsimp only
  split
  · exact ⟨rfl, by assumption⟩
  · exact ⟨rfl, List.mem_append_right _ (List.mem_singleton_self f)⟩

end

end Scope

end Mirror.Suite
