import Mathlib.Algebra.BigOperators.Group.List.Basic
import Mathlib.Algebra.Ring.Int.Defs
import MirrorECMA.Schedule.BindingSession

namespace Mirror.Schedule.Binding

open ECMA Machine

theorem filter_unique {α β : Type} [DecidableEq β] {f : α → β} {xs : List α} (distinct : (xs.map f).Nodup) {x : α}
    (member : x ∈ xs) : xs.filter (fun y => f y = f x) = [x] := by
  induction xs with
  | nil => cases member
  | cons y rest ih =>
    rw [List.map_cons, List.nodup_cons] at distinct
    by_cases same : f y = f x
    · have head : x = y := (List.mem_cons.mp member).elim id fun inside =>
        absurd (same ▸ List.mem_map_of_mem inside) distinct.1
      subst head
      have none : rest.filter (fun z => f z = f x) = [] := List.filter_eq_nil_iff.mpr fun z inside equal =>
        distinct.1 (of_decide_eq_true equal ▸ List.mem_map_of_mem inside)
      rw [List.filter_cons_of_pos (by simp), none]
    · have inside : x ∈ rest := (List.mem_cons.mp member).resolve_left fun head => same (head ▸ rfl)
      rw [List.filter_cons_of_neg (by simpa using same), ih distinct.2 inside]

def Session.starting (s : Session) : Bool :=
  match s.point with
  | some .starting => true
  | _ => false

/-- Whether the last initialization has no row yet. -/
def Session.owing (s : Session) : Bool := s.starting || (s.execution.isSome && !s.retained)

def Session.covered (s : Session) : Nat := if s.owing then s.initializations - 1 else s.initializations

theorem Session.covered_retained {s : Session} (idle : s.starting = false) (retained : s.retained = true) :
    s.covered = s.initializations := by
  simp [covered, owing, idle, retained]

theorem Session.covered_running {s : Session} (running : s.execution.isSome = true) (unretained : s.retained = false) :
    s.covered = s.initializations - 1 := by
  simp [covered, owing, running, unretained]

section

variable [NumberText]

/-! ### What a session keeps -/

/-- The bytes of an execution's receipt; a row in its place is not counted. -/
def Record.size : Record → Int
  | .receipt _ row => bytes row
  | .bounded _ => 0

structure Accounted (s : Session) : Prop where
  total : s.receiptBytes = (s.records.map Record.size).sum
  bounded : s.receiptBytes ≤ MAX_RECEIPT_BYTES

/-- The session was disposed once, and each initialization has one row, which is a receipt that passed. -/
structure Receipted (s : Session) : Prop where
  once : s.disposals = 1
  each : ∀ i < s.initializations, ∃ row,
    s.records.filter (fun record => record.initialization = i) = [.receipt i row] ∧ passed row = true

structure Inv (s : Session) : Prop where
  rows : s.records.map Record.initialization = List.range s.covered
  live : ∀ i, s.execution = some i → i + 1 = s.initializations
  begun : s.starting = true → s.execution = none ∧ 0 < s.initializations
  unretained : s.starting = true → s.retained = false
  complete : s.receiptComplete = true → ∀ record ∈ s.records, ∃ i row, record = .receipt i row
  accounted : Accounted s
  disposals : s.disposals = if s.disposed then 1 else 0
  entered : s.disposed = true → s.disposalTask = .entered
  settled : s.disposed = true → s.point ≠ some .finishing ∧ s.starting = false
  held : s.disposed = true → s.point ≠ some .disposing → s.disposalError = none → s.execution.isSome = true →
    s.retained = true

theorem inv_fresh : Inv {} where
  rows := rfl
  live := by simp
  begun := by simp [Session.starting]
  unretained := fun _ => rfl
  complete := by simp
  accounted := ⟨rfl, by decide⟩
  disposals := rfl
  entered := by simp
  settled := by simp
  held := by simp

/-! ### Steps -/

variable {s : Session}

/-- Another point, where no start is under way. -/
theorem Inv.move (inv : Inv s) (point : Option Point) (idle : s.starting = false) (other : point ≠ some .starting)
    (live : s.disposed = true → point ≠ some .finishing)
    (held : s.disposed = true → point ≠ some .disposing → s.disposalError = none → s.execution.isSome = true →
      s.retained = true) : Inv { s with point := point } := by
  have quiet : ({ s with point := point } : Session).starting = false := by
    unfold Session.starting
    split
    · rename_i same
      exact absurd same other
    · rfl
  have covered : ({ s with point := point } : Session).covered = s.covered := by
    rw [Session.covered, Session.covered, Session.owing, Session.owing, quiet, idle]
  exact {
    rows := covered ▸ inv.rows
    live := inv.live
    begun := fun starting => absurd starting (by rw [quiet]; exact Bool.false_ne_true)
    unretained := fun starting => absurd starting (by rw [quiet]; exact Bool.false_ne_true)
    complete := inv.complete
    accounted := ⟨inv.accounted.total, inv.accounted.bounded⟩
    disposals := inv.disposals
    entered := inv.entered
    settled := fun disposed => ⟨live disposed, quiet⟩
    held := held }

theorem Inv.task (inv : Inv s) (closing : Bool) (task : Disposal) (entered : s.disposed = true → task = .entered) :
    Inv { s with closing := closing, disposalTask := task } where
  rows := inv.rows
  live := inv.live
  begun := inv.begun
  unretained := inv.unretained
  complete := inv.complete
  accounted := ⟨inv.accounted.total, inv.accounted.bounded⟩
  disposals := inv.disposals
  entered := entered
  settled := inv.settled
  held := inv.held

/-- What `retain` leaves as it was, and that the execution has its row. -/
theorem retain_frame (s : Session) (row : Json) : (s.retain row).point = s.point ∧
    (s.retain row).execution = s.execution ∧ (s.retain row).disposed = s.disposed ∧
    (s.retain row).disposalError = s.disposalError ∧ ((s.retain row).execution.isSome = true → (s.retain row).retained = true) := by
  unfold Session.retain
  split
  · rename_i none
    exact ⟨rfl, rfl, rfl, rfl, by simp [none]⟩
  · split
    · rename_i retained
      exact ⟨rfl, rfl, rfl, rfl, fun _ => retained⟩
    · split
      · exact ⟨rfl, rfl, rfl, rfl, fun _ => rfl⟩
      · exact ⟨rfl, rfl, rfl, rfl, fun _ => rfl⟩

theorem Inv.row (inv : Inv s) (idle : s.starting = false) {i : Nat} (live : s.execution = some i) (unretained : s.retained = false)
    {record : Record} (own : record.initialization = i) :
    (s.records ++ [record]).map Record.initialization = List.range s.initializations := by
  have count := inv.live i live
  have owing : s.owing = true := by simp [Session.owing, idle, live, unretained]
  have rows := inv.rows
  rw [Session.covered, if_pos owing] at rows
  have last : s.initializations - 1 = i := by omega
  rw [List.map_append, rows, last, List.map_singleton, own, ← List.range_succ, ← count]

theorem Inv.retain (inv : Inv s) (idle : s.starting = false) (row : Json) : Inv (s.retain row) := by
  unfold Session.retain
  split
  · exact inv
  · rename_i i live
    split
    · exact inv
    · rename_i unretained
      rw [Bool.not_eq_true] at unretained
      split
      · exact {
          rows := by
            rw [Session.covered_retained]
            exacts [inv.row idle live unretained rfl, idle, rfl]
          live := inv.live
          begun := inv.begun
          unretained := fun starting => absurd (idle.symm.trans starting) Bool.false_ne_true
          complete := fun complete => by cases complete
          accounted := ⟨by simp [Record.size, inv.accounted.total], inv.accounted.bounded⟩
          disposals := inv.disposals
          entered := inv.entered
          settled := inv.settled
          held := fun _ _ _ _ => rfl }
      · rename_i room
        exact {
          rows := by
            rw [Session.covered_retained]
            exacts [inv.row idle live unretained rfl, idle, rfl]
          live := inv.live
          begun := inv.begun
          unretained := fun starting => absurd (idle.symm.trans starting) Bool.false_ne_true
          complete := fun complete record member => by
            rcases List.mem_append.mp member with inside | last
            · exact inv.complete complete record inside
            · exact ⟨i, row, List.mem_singleton.mp last⟩
          accounted := ⟨by simp [Record.size, inv.accounted.total], Int.not_lt.mp room⟩
          disposals := inv.disposals
          entered := inv.entered
          settled := inv.settled
          held := fun _ _ _ _ => rfl }

theorem Inv.start (inv : Inv s) (idle : s.starting = false) (receipted : s.execution.isSome = true → s.retained = true)
    (live : s.disposed = false) : Inv s.start := by
  have paid : s.owing = false := by
    rw [Session.owing, idle, Bool.false_or]
    cases started : s.execution.isSome with
    | false => rfl
    | true => rw [receipted started]; rfl
  have rows := inv.rows
  rw [Session.covered, if_neg (by simp [paid])] at rows
  exact {
    rows := rows
    live := by simp [Session.start]
    begun := fun _ => ⟨rfl, Nat.succ_pos _⟩
    unretained := fun _ => rfl
    complete := inv.complete
    accounted := ⟨inv.accounted.total, inv.accounted.bounded⟩
    disposals := inv.disposals
    entered := inv.entered
    settled := fun disposed => absurd disposed (by simp [Session.start, live])
    held := fun disposed => absurd disposed (by simp [Session.start, live]) }

theorem Inv.ended (inv : Inv s) (idle : s.starting = false) (held : s.disposed = true → s.disposalError = none →
    s.execution.isSome = true → s.retained = true) (result : Settled Unit) : Inv (s.ended result) :=
  inv.move _ idle (by simp) (by simp) fun disposed _ none live => held disposed none live

theorem Inv.finished (inv : Inv s) (here : s.point = some .finishing) (prior : Settled Report) (row : Json) :
    Inv (s.finished prior row) := by
  have idle : s.starting = false := by simp [Session.starting, here]
  have live : s.disposed = false := by
    cases disposed : s.disposed with
    | false => rfl
    | true => exact absurd here (inv.settled disposed).1
  cases prior with
  | error reason => exact inv.ended idle (by simp [live]) _
  | ok prior =>
    obtain ⟨point, _, disposed, _, receipted⟩ := retain_frame s row
    have kept := inv.retain idle row
    have keptIdle : (s.retain row).starting = false := by rw [Session.starting, point]; exact idle
    unfold Session.finished
    dsimp only
    split
    · exact kept.ended keptIdle (by simp [disposed, live]) _
    · exact kept.start keptIdle receipted (by rw [disposed, live])

theorem Inv.started (inv : Inv s) (here : s.point = some .starting) (report : Report) : Inv (s.started (.ok report)) := by
  have starting : s.starting = true := by simp [Session.starting, here]
  have live : s.disposed = false := by
    cases disposed : s.disposed with
    | false => rfl
    | true => rw [(inv.settled disposed).2] at starting; cases starting
  obtain ⟨_, positive⟩ := inv.begun starting
  have rows := inv.rows
  rw [Session.covered, if_pos (by simp [Session.owing, starting])] at rows
  have unretained : s.retained = false := inv.unretained starting
  exact {
    rows := by
      rw [Session.covered_running]
      exacts [rows, rfl, unretained]
    live := fun i same => by
      have number : s.initializations - 1 = i := Option.some.inj same
      show i + 1 = s.initializations
      omega
    begun := fun again => by cases again
    unretained := fun again => by cases again
    complete := inv.complete
    accounted := ⟨inv.accounted.total, inv.accounted.bounded⟩
    disposals := inv.disposals
    entered := inv.entered
    settled := fun disposed => absurd disposed (by simp [Session.started, Session.ended, live])
    held := fun disposed => absurd disposed (by simp [Session.started, Session.ended, live]) }

/-- The receipt in the place of the last row, where that is one. -/
theorem Inv.replace (inv : Inv s) (idle : s.starting = false) (row : Json) (sound : s.retained = true → ∀ i,
    s.records.getLast? = some (.bounded i) → MAX_RECEIPT_BYTES < s.receiptBytes - bytes (Record.bounded i).row + bytes row) :
    Inv (s.replace row) := by
  unfold Session.replace
  split
  · rename_i i old live last
    split
    · rename_i retained
      dsimp only
      split
      · rename_i room
        cases old with
        | bounded j => exact absurd room (Int.not_le.mpr (sound retained j last))
        | receipt j oldRow =>
          obtain ⟨front, whole⟩ := List.getLast?_eq_some_iff.mp last
          have front_eq : s.records.dropLast = front := by rw [whole, List.dropLast_concat]
          have rows := inv.rows
          rw [Session.covered_retained idle retained, ← inv.live i live, whole, List.map_append, List.range_succ] at rows
          have others := List.append_inj_left' rows rfl
          have total := inv.accounted.total
          rw [whole, List.map_append, List.sum_append] at total
          refine {
            rows := ?_
            live := inv.live
            begun := inv.begun
            unretained := inv.unretained
            complete := ?_
            accounted := ⟨?_, room⟩
            disposals := inv.disposals
            entered := inv.entered
            settled := inv.settled
            held := inv.held }
          · rw [Session.covered_retained]
            · show (s.records.dropLast ++ [Record.receipt i row]).map Record.initialization = List.range s.initializations
              rw [front_eq, List.map_append, others, ← inv.live i live, List.range_succ]
              rfl
            · exact idle
            · exact retained
          · intro complete record member
            rcases List.mem_append.mp member with inside | single
            · exact inv.complete complete record (List.dropLast_subset _ inside)
            · exact ⟨i, row, List.mem_singleton.mp single⟩
          · show s.receiptBytes - bytes oldRow + bytes row =
              ((s.records.dropLast ++ [Record.receipt i row]).map Record.size).sum
            rw [front_eq, List.map_append, List.sum_append, total]
            simp only [List.map_cons, List.map_nil, List.sum_cons, List.sum_nil, Record.size]
            omega
      · exact {
          rows := inv.rows
          live := inv.live
          begun := inv.begun
          unretained := inv.unretained
          complete := fun complete => by cases complete
          accounted := ⟨inv.accounted.total, inv.accounted.bounded⟩
          disposals := inv.disposals
          entered := inv.entered
          settled := inv.settled
          held := inv.held }
    · exact inv
  · exact inv

theorem replace_frame (s : Session) (row : Json) : (s.replace row).point = s.point ∧
    (s.replace row).execution = s.execution ∧ (s.replace row).disposed = s.disposed ∧
    (s.replace row).disposalError = s.disposalError ∧ (s.replace row).retained = s.retained := by
  unfold Session.replace
  split
  · split
    · dsimp only
      split
      · exact ⟨rfl, rfl, rfl, rfl, rfl⟩
      · exact ⟨rfl, rfl, rfl, rfl, rfl⟩
    · exact ⟨rfl, rfl, rfl, rfl, rfl⟩
  · exact ⟨rfl, rfl, rfl, rfl, rfl⟩

/-- The conditions under which the rows stay complete: a start is not rejected, a disposal is not rejected with `undefined`
before it has retained the receipt, the row of a receipt that was too long is not replaced, and a session is not asked whether
it is complete while its disposal has yet to retain the receipt. -/
def Sound (s : Session) : Input → Prop
  | .started (.error _) => False
  | .cleaned (.error none) _ => s.retained = true
  | .retried (.ok report) row => report.cleanup = .confirmed → s.retained = true → ∀ i,
      s.records.getLast? = some (.bounded i) → MAX_RECEIPT_BYTES < s.receiptBytes - bytes (Record.bounded i).row + bytes row
  | .fullyCompleted => s.point = some .disposing → s.retained = true
  | _ => True

theorem Inv.error (inv : Inv s) (idle : s.starting = false) (error : Option Failure)
    (held : error = none → s.execution.isSome = true → s.retained = true) :
    Inv ({ s with disposalError := error }.ended (.error error)) := by
  have kept : Inv ({ s with disposalError := error, point := some .disposing }) := {
    rows := by
      have rows := inv.rows
      rw [Session.covered, Session.owing, idle] at rows
      exact rows
    live := inv.live
    begun := fun again => by cases again
    unretained := fun again => by cases again
    complete := inv.complete
    accounted := ⟨inv.accounted.total, inv.accounted.bounded⟩
    disposals := inv.disposals
    entered := inv.entered
    settled := fun _ => ⟨by simp, rfl⟩
    held := fun _ away => absurd rfl away }
  exact kept.ended rfl (fun _ none live => held none live) _

theorem Inv.cleaned (inv : Inv s) (here : s.point = some .disposing) (report : Settled Report) (row : Json)
    (sound : Sound s (.cleaned report row)) : Inv (s.cleaned report row) := by
  have idle : s.starting = false := by simp [Session.starting, here]
  cases report with
  | error reason =>
    apply inv.error idle
    rintro rfl _
    exact sound
  | ok report =>
    obtain ⟨point, _, _, _, receipted⟩ := retain_frame s row
    have kept := inv.retain idle row
    have keptIdle : (s.retain row).starting = false := by rw [Session.starting, point]; exact idle
    unfold Session.cleaned
    dsimp only
    split
    · exact kept.error keptIdle _ fun _ => receipted
    · split
      · exact kept.error keptIdle _ fun _ => receipted
      · exact kept.ended keptIdle (fun _ _ => receipted) _

theorem Inv.call (inv : Inv s) (free : s.point = none) (call : Call) : Inv (call.body s) := by
  have idle : s.starting = false := by simp [Session.starting, free]
  have held : s.disposed = true → s.disposalError = none → s.execution.isSome = true → s.retained = true :=
    fun disposed => inv.held disposed (by simp [free])
  cases call with
  | initialization =>
    show Inv s.initialization
    unfold Session.initialization
    split
    · exact inv.ended idle held _
    · rename_i refused
      have live : s.disposed = false := by
        cases disposed : s.disposed with
        | false => rfl
        | true => simp [disposed] at refused
      split
      · exact inv.move _ idle (by simp) (by simp [live]) (by simp [live])
      · rename_i empty
        exact inv.start idle (fun running => absurd running empty) live
  | advance =>
    show Inv s.advance
    unfold Session.advance
    split
    · exact inv.ended idle held _
    · exact inv.move _ idle (by simp) (by simp) fun disposed _ => held disposed
  | retryCleanup =>
    show Inv s.retryCleanup
    unfold Session.retryCleanup
    split
    · exact inv.ended idle held _
    · split
      · exact inv.move _ idle (by simp) (by simp) fun disposed _ => held disposed
      · exact inv.ended idle held _

theorem Inv.disposal (inv : Inv s) (free : s.point = none) (waiting : s.disposalTask = .waiting) :
    Inv (Session.disposal { s with disposalTask := .entered }) := by
  have idle : s.starting = false := by simp [Session.starting, free]
  have live : s.disposed = false := by
    cases disposed : s.disposed with
    | false => rfl
    | true => exact absurd ((inv.entered disposed).symm.trans waiting) (by decide)
  have rows := inv.rows
  rw [Session.covered, Session.owing, idle] at rows
  have entering : Inv { s with
      disposalTask := .entered, disposed := true, disposals := s.disposals + 1, point := some .disposing } := {
    rows := rows
    live := inv.live
    begun := fun again => by cases again
    unretained := fun again => by cases again
    complete := inv.complete
    accounted := ⟨inv.accounted.total, inv.accounted.bounded⟩
    disposals := by
      have none := inv.disposals
      rw [live] at none
      show s.disposals + 1 = 1
      rw [none]
      rfl
    entered := fun _ => rfl
    settled := fun _ => ⟨by simp, rfl⟩
    held := fun _ away => absurd rfl away }
  unfold Session.disposal
  rw [if_neg (by simp [live])]
  dsimp only
  split
  · exact entering
  · rename_i empty
    exact entering.ended rfl (fun _ _ running => absurd running empty) _

theorem Inv.step (inv : Inv s) {input : Input} {output : Output} {after : Session}
    (taken : step s input = some (after, output)) (sound : Sound s input) : Inv after := by
  cases input with
  | call call =>
    simp only [Binding.step, operation] at taken
    split at taken
    · cases taken
      exact inv
    · rename_i free
      cases taken
      exact inv.call (by simpa using free) call
  | dispose =>
    cases taken
    unfold Session.dispose
    split
    · rename_i first
      exact inv.task _ _ fun disposed => absurd ((inv.entered disposed).symm.trans first) (by decide)
    · exact inv
  | observation report last =>
    cases taken
    exact inv
  | fullyCompleted =>
    cases taken
    exact inv
  | finished prior row =>
    simp only [Binding.step] at taken
    split at taken
    · rename_i here
      cases taken
      exact inv.finished here prior row
    · cases taken
  | started report =>
    simp only [Binding.step] at taken
    split at taken
    · rename_i here
      cases taken
      cases report with
      | error reason => exact sound.elim
      | ok report => exact inv.started here report
    · cases taken
  | advanced report =>
    simp only [Binding.step] at taken
    split at taken
    · rename_i here
      cases taken
      exact inv.ended (by simp [Session.starting, here]) (fun disposed => inv.held disposed (by simp [here])) _
    · cases taken
  | cleaned report row =>
    simp only [Binding.step] at taken
    split at taken
    · rename_i here
      cases taken
      exact inv.cleaned here report row sound
    · cases taken
  | retried report row =>
    simp only [Binding.step] at taken
    split at taken
    · rename_i here
      cases taken
      have idle : s.starting = false := by simp [Session.starting, here]
      have held : s.disposed = true → s.disposalError = none → s.execution.isSome = true → s.retained = true :=
        fun disposed => inv.held disposed (by simp [here])
      cases report with
      | error reason => exact inv.ended idle held _
      | ok report =>
        unfold Session.retried
        dsimp only
        split
        · exact inv.ended idle held _
        · rename_i confirmed
          obtain ⟨point, execution, disposed, error, retained⟩ := replace_frame s row
          have kept := inv.replace idle row (sound (Classical.not_not.mp confirmed))
          apply kept.ended
          · rw [Session.starting, point]
            exact idle
          · rw [disposed, error, execution, retained]
            exact held
    · cases taken
  | entered =>
    simp only [Binding.step] at taken
    split at taken
    · rename_i waiting
      simp only [operation] at taken
      split at taken
      · cases taken
        exact inv.task _ _ fun _ => rfl
      · rename_i free
        cases taken
        exact inv.disposal (by simpa using free) waiting
    · cases taken
  | released =>
    simp only [Binding.step] at taken
    split at taken
    · rename_i result here
      cases taken
      exact inv.move none (by simp [Session.starting, here]) (by simp) (by simp)
        fun disposed _ => inv.held disposed (by simp [here])
    · cases taken

theorem completion_input {input : Input} {output : Output} {after : Session} {complete : Bool}
    (taken : step s input = some (after, output)) (said : output = .completion complete) :
    input = .fullyCompleted ∧ s.fullyCompleted = complete := by
  subst said
  cases input with
  | fullyCompleted =>
    simp only [Binding.step, Option.some.injEq, Prod.mk.injEq, Output.completion.injEq] at taken
    exact ⟨rfl, taken.2⟩
  | call call =>
    simp only [Binding.step, operation] at taken
    split at taken <;> cases taken
  | entered =>
    simp only [Binding.step, operation] at taken
    split at taken
    · split at taken <;> cases taken
    · cases taken
  | dispose => cases taken
  | observation report last => cases taken
  | finished prior row => exact absurd taken (by simp only [Binding.step]; split <;> simp)
  | started report => exact absurd taken (by simp only [Binding.step]; split <;> simp)
  | advanced report => exact absurd taken (by simp only [Binding.step]; split <;> simp)
  | cleaned report row => exact absurd taken (by simp only [Binding.step]; split <;> simp)
  | retried report row => exact absurd taken (by simp only [Binding.step]; split <;> simp)
  | released => exact absurd taken (by simp only [Binding.step]; split <;> simp)

/-- A complete session, where its disposal is not waiting to retain the receipt. -/
theorem Inv.receipted (inv : Inv s) (quiet : s.point = some .disposing → s.retained = true)
    (complete : s.fullyCompleted = true) : Receipted s := by
  simp only [Session.fullyCompleted, Bool.and_eq_true, decide_eq_true_eq, Option.isNone_iff_eq_none] at complete
  obtain ⟨⟨⟨⟨⟨disposed, _⟩, error⟩, whole⟩, _⟩, all⟩ := complete
  have idle := (inv.settled disposed).2
  have paid : s.owing = false := by
    rw [Session.owing, idle, Bool.false_or]
    cases running : s.execution.isSome with
    | false => rfl
    | true =>
      have retained : s.retained = true := by
        by_cases here : s.point = some .disposing
        · exact quiet here
        · exact inv.held disposed here error running
      rw [retained]
      rfl
  have rows := inv.rows
  rw [Session.covered, if_neg (by simp [paid])] at rows
  constructor
  · rw [inv.disposals, if_pos disposed]
  · intro i small
    have listed : i ∈ s.records.map Record.initialization := rows ▸ List.mem_range.mpr small
    obtain ⟨record, member, own⟩ := List.mem_map.mp listed
    obtain ⟨j, row, rfl⟩ := inv.complete whole record member
    have same : j = i := own
    subst same
    have distinct : (s.records.map Record.initialization).Nodup := rows ▸ List.nodup_range
    exact ⟨row, filter_unique distinct member, List.all_eq_true.mp all _ member⟩

/-- The rows of a run that meets the conditions are accounted for, and a session that says it is complete has the receipt of
each initialization. -/
theorem session_receipts {trace : List (Transition Session Input Output)} (run : Machine.Run step ({} : Session) trace s)
    (sound : ∀ t ∈ trace, Sound t.before t.input) :
    Accounted s ∧ ∀ t ∈ trace, t.output = .completion true → Receipted t.before := by
  have holds : (∀ t ∈ trace, Sound t.before t.input) →
      Inv s ∧ ∀ t ∈ trace, t.output = .completion true → Receipted t.before := by
    apply run.invariant (P := fun trace s => (∀ t ∈ trace, Sound t.before t.input) →
      Inv s ∧ ∀ t ∈ trace, t.output = .completion true → Receipted t.before)
    · exact fun _ => ⟨inv_fresh, by simp⟩
    · intro trace state input output after ih taken sound
      have last : Sound state input := sound _ (List.mem_append_right _ (List.mem_singleton_self _))
      obtain ⟨inv, receipted⟩ := ih fun t member => sound t (List.mem_append_left _ member)
      refine ⟨inv.step taken last, fun t member complete => ?_⟩
      rcases List.mem_append.mp member with inside | single
      · exact receipted t inside complete
      · rw [List.mem_singleton.mp single] at complete ⊢
        obtain ⟨rfl, said⟩ := completion_input taken complete
        exact inv.receipted last said
  obtain ⟨inv, receipted⟩ := holds sound
  exact ⟨inv.accounted, receipted⟩

end

/-! ### A session of one execution, and one whose first start is rejected -/

def passing : Json := .object [(js "passed", .bool true)]

section

def launched : Session := { initializations := 1, point := some .starting }

def live : Session := { execution := some 0, initializations := 1 }

def closed : Session := { live with closing := true, disposalTask := .waiting }

def tearing : Session := { closed with disposalTask := .entered, disposed := true, disposals := 1, point := some .disposing }

def disposed : Session :=
  { tearing with retained := true, records := [.receipt 0 passing], receiptBytes := 15, point := none }

def finish (s : Session) : Session := { s with point := some (.ended (.ok ())) }

def disposedTrace : List (Transition Session Input Output) :=
  [⟨{}, .call .initialization, .silent, launched⟩, ⟨launched, .started (.ok {}), .silent, finish live⟩,
    ⟨finish live, .released, .settled (.ok ()), live⟩, ⟨live, .dispose, .silent, closed⟩,
    ⟨closed, .entered, .silent, tearing⟩, ⟨tearing, .cleaned (.ok {}) passing, .silent, finish disposed⟩,
    ⟨finish disposed, .released, .settled (.ok ()), disposed⟩, ⟨disposed, .fullyCompleted, .completion true, disposed⟩]

end

theorem passing_bytes : letI := integerTexts
    bytes passing = 15 := by
  decide +kernel

/-- The receipt that passes is within the bound, so its bytes are not computed again. -/
theorem retain_passing : letI := integerTexts
    ∀ (s : Session) (i : Nat), s.execution = some i → s.retained = false → s.receiptBytes = 0 →
      s.retain passing = { s with receiptBytes := 15, records := s.records ++ [.receipt i passing], retained := true } := by
  let := integerTexts
  intro s i live unretained empty
  have size : bytes passing = 15 := passing_bytes
  have room : ¬ (0 + bytes passing > MAX_RECEIPT_BYTES) := by
    rw [size]
    decide
  unfold Session.retain
  rw [live, empty]
  simp only [unretained, Bool.false_eq_true, if_false, if_neg room]
  rw [size, Int.zero_add]

theorem cleaned_passing : letI := integerTexts
    ∀ (s : Session) (i : Nat), s.point = some .disposing → s.execution = some i → s.retained = false →
      s.receiptBytes = 0 → s.receiptComplete = true →
      step s (.cleaned (.ok {}) passing) = some (finish { s with
        receiptBytes := 15, records := s.records ++ [.receipt i passing], retained := true, point := none }, .silent) := by
  let := integerTexts
  intro s i here live unretained empty whole
  have row := retain_passing s i live unretained empty
  have cleaned : s.cleaned (.ok {}) passing = finish { s with
      receiptBytes := 15, records := s.records ++ [.receipt i passing], retained := true, point := none } := by
    simp only [Session.cleaned]
    rw [row]
    simp [Session.ended, finish, whole]
  simp only [step, here]
  rw [cleaned]

theorem disposed_receipted : letI := integerTexts
    Accounted disposed ∧ Receipted disposed := by
  let := integerTexts
  have torn : step tearing (.cleaned (.ok {}) passing) = some (finish disposed, .silent) :=
    cleaned_passing tearing 0 rfl rfl rfl rfl rfl
  have run : Machine.Run step ({} : Session) disposedTrace disposed :=
    .next (.next (.next (.next (.next (.next (.next (.next .start rfl) rfl) rfl) rfl) rfl) torn) rfl) rfl
  have sound : ∀ t ∈ disposedTrace, Sound t.before t.input := by
    simp [disposedTrace, Sound, disposed]
  obtain ⟨accounted, receipted⟩ := session_receipts run sound
  exact ⟨accounted, receipted ⟨disposed, .fullyCompleted, .completion true, disposed⟩ (by simp [disposedTrace]) rfl⟩

section

def opened : Session := { initializations := 1 }

def second : Session := { initializations := 2, point := some .starting }

def later : Session := { execution := some 1, initializations := 2 }

def leaving : Session := { later with closing := true, disposalTask := .waiting }

def cleaning : Session :=
  { leaving with disposalTask := .entered, disposed := true, disposals := 1, point := some .disposing }

def complete : Session :=
  { cleaning with retained := true, records := [.receipt 1 passing], receiptBytes := 15, point := none }

def refusal : Settled Unit := .error (some (.execution (js "worker")))

def rejectedTrace : List (Transition Session Input Output) :=
  [⟨{}, .call .initialization, .silent, launched⟩,
    ⟨launched, .started (.error (some (.execution (js "worker")))), .silent, opened.ended refusal⟩,
    ⟨opened.ended refusal, .released, .settled refusal, opened⟩, ⟨opened, .call .initialization, .silent, second⟩,
    ⟨second, .started (.ok {}), .silent, finish later⟩, ⟨finish later, .released, .settled (.ok ()), later⟩,
    ⟨later, .dispose, .silent, leaving⟩, ⟨leaving, .entered, .silent, cleaning⟩,
    ⟨cleaning, .cleaned (.ok {}) passing, .silent, finish complete⟩,
    ⟨finish complete, .released, .settled (.ok ()), complete⟩]

def finishing : Session := { live with point := some .finishing }

def renewed : Session :=
  { initializations := 2, records := [.receipt 0 passing], receiptBytes := 15, point := some .starting }

def rerun : Session := { renewed with execution := some 1, point := none }

def quitting : Session := { rerun with closing := true, disposalTask := .waiting }

def unreceipted : Session :=
  { quitting with disposalTask := .entered, disposed := true, disposals := 1, point := some .disposing }

def earlyTrace : List (Transition Session Input Output) :=
  [⟨{}, .call .initialization, .silent, launched⟩, ⟨launched, .started (.ok {}), .silent, finish live⟩,
    ⟨finish live, .released, .settled (.ok ()), live⟩, ⟨live, .call .initialization, .silent, finishing⟩,
    ⟨finishing, .finished (.ok {}) passing, .silent, renewed⟩, ⟨renewed, .started (.ok {}), .silent, finish rerun⟩,
    ⟨finish rerun, .released, .settled (.ok ()), rerun⟩, ⟨rerun, .dispose, .silent, quitting⟩,
    ⟨quitting, .entered, .silent, unreceipted⟩]

end

/-- Where the start of the first execution is rejected, a session that is disposed says it is complete with the receipt of the
second one alone. Where both have started, it says so while the disposal waits for the cleanup of the second. -/
theorem unreceipted_complete : letI := integerTexts
    (Machine.Run step ({} : Session) rejectedTrace complete ∧ complete.fullyCompleted = true ∧ ¬ Receipted complete) ∧
    (Machine.Run step ({} : Session) earlyTrace unreceipted ∧ unreceipted.fullyCompleted = true ∧
      ¬ Receipted unreceipted) := by
  let := integerTexts
  have cleaned : step cleaning (.cleaned (.ok {}) passing) = some (finish complete, .silent) :=
    cleaned_passing cleaning 1 rfl rfl rfl rfl rfl
  have renewal : step finishing (.finished (.ok {}) passing) = some (renewed, .silent) := by
    have row := retain_passing finishing 0 rfl rfl rfl
    have same : finishing.finished (.ok {}) passing = renewed := by
      simp only [Session.finished]
      rw [row]
      rfl
    show some (finishing.finished (.ok {}) passing, Output.silent) = _
    rw [same]
  constructor
  · refine ⟨?_, rfl, fun receipted => ?_⟩
    · exact .next (.next (.next (.next (.next (.next (.next (.next (.next (.next .start rfl) rfl) rfl) rfl) rfl) rfl)
        rfl) rfl) cleaned) rfl
    · obtain ⟨row, only, _⟩ := receipted.each 0 (by decide)
      cases only
  · refine ⟨?_, rfl, fun receipted => ?_⟩
    · exact .next (.next (.next (.next (.next (.next (.next (.next (.next .start rfl) rfl) rfl) rfl) renewal) rfl) rfl)
        rfl) rfl
    · obtain ⟨row, only, _⟩ := receipted.each 1 (by decide)
      cases only

end Mirror.Schedule.Binding
