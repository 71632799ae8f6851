import Mathlib.Algebra.Order.Ring.Unbundled.Rat
import MirrorECMA.Machine.Run
import MirrorECMA.Replay.Execution

namespace Mirror.Replay.DeadlineRace

open Machine (Transition Run)

variable {ω α : Type}

/-- How a wait ends: the call throws, or the promise that it has returned settles. -/
inductive Outcome (ω α : Type) where
  | threw (failure : Failure ω)
  | settled (result : Except (Failure ω) α)

/-- The promise that the call returns, with what may still settle it. -/
structure Wait where
  deadline : Rat
  /-- The delay that the timer is set to. -/
  delay : Int
  settled : Bool
  armed : Bool
  listening : Bool
  /-- The abort event is on its way to `onAbort`. -/
  dispatched : Bool
  /-- A reaction of the operation is among the microtasks. -/
  queued : Bool

inductive Phase where
  | idle
  | threw
  | returned (wait : Wait)

structure World (ω α : Type) where
  operation : Option (Except (Failure ω) α)
  /-- A rejection of the operation has a handler. -/
  handled : Bool
  /-- `AbortSignal | undefined`, with the reason once it is aborted. -/
  signal : Option (Option (AbortReason ω))
  clock : Rat
  phase : Phase

def World.reason (world : World ω α) : Option (AbortReason ω) := world.signal.join

inductive Event (ω α : Type) where
  /-- The call, with its two readings of the clock, and an abort while it sets up. -/
  | call (start now : Rat) (during : Option (AbortReason ω))
  | settle (result : Except (Failure ω) α)
  | abort (reason : AbortReason ω)
  | notify
  | react (now : Rat)
  | timer

/-- `finish`: the first handler that runs settles the promise. -/
def finish (world : World ω α) (wait : Wait) (result : Except (Failure ω) α) : World ω α × Option (Outcome ω α) :=
  if wait.settled then ({ world with phase := .returned wait }, none)
  else ({ world with phase := .returned { wait with settled := true, armed := false, listening := false, dispatched := false } },
    some (.settled result))

/-- What a reaction of the operation settles the promise with. -/
def reaction (signal : Option (AbortReason ω)) (now deadline : Rat) (timeoutMs : Nat) (stage : ReplayDeadlineStage)
    (result : Except (Failure ω) α) : Except (Failure ω) α :=
  match signal with
  | some reason => .error reason.failure
  | none => if now ≥ deadline then .error (.deadline stage timeoutMs) else result

/-- The wait as the executor sets it up, before the signal is looked at again. -/
def armedWait (world : World ω α) (deadline now : Rat) : Wait where
  deadline := deadline
  delay := (max 0 (deadline - now)).ceil
  settled := false
  armed := true
  listening := world.signal.isSome
  dispatched := false
  queued := world.operation.isSome

def awaitReplayOperation (world : World ω α) (timeoutMs : Nat) (start now : Rat) (during : Option (AbortReason ω)) :
    World ω α × Option (Outcome ω α) :=
  let handled := { world with handled := true }
  match throwIfReplayCancelled world.reason with
  | .error failure => ({ handled with phase := .threw, clock := start }, some (.threw failure))
  | .ok _ =>
    let wait := armedWait world (start + timeoutMs) now
    let signal := world.signal.map fun _ => during
    match signal.join with
    | some reason => finish { handled with signal := signal, clock := now } wait (.error reason.failure)
    | none => ({ handled with clock := now, phase := .returned wait }, none)

/-- One step of the host. No timer fires while an event is dispatched. -/
def step (timeoutMs : Nat) (stage : ReplayDeadlineStage) (world : World ω α) (event : Event ω α) :
    Option (World ω α × Option (Outcome ω α)) :=
  match event, world.phase with
  | .call start now during, .idle =>
    if world.clock ≤ start ∧ start ≤ now then some (awaitReplayOperation world timeoutMs start now during) else none
  | .settle result, phase =>
    match world.operation, phase with
    | some _, _ => none
    | none, .returned wait => some ({ world with operation := some result, phase := .returned { wait with queued := true } }, none)
    | none, _ => some ({ world with operation := some result }, none)
  | .abort reason, phase =>
    match world.signal, phase with
    | some none, .returned wait =>
      some ({ world with signal := some (some reason), phase := .returned { wait with dispatched := wait.listening } }, none)
    | some none, _ => some ({ world with signal := some (some reason) }, none)
    | _, _ => none
  | .notify, .returned wait =>
    match wait.dispatched, world.reason with
    | true, some reason => some (finish world { wait with dispatched := false } (.error reason.failure))
    | _, _ => none
  | .react now, .returned wait =>
    match wait.queued, world.operation with
    | true, some result =>
      if world.clock ≤ now then
        some (finish { world with clock := now } { wait with queued := false }
          (reaction world.reason now wait.deadline timeoutMs stage result))
      else none
    | _, _ => none
  | .timer, .returned wait =>
    if wait.armed ∧ wait.dispatched = false then
      some (finish world { wait with armed := false } (.error (.deadline stage timeoutMs)))
    else none
  | _, _ => none

/-- Before the call, with a signal or none. -/
def initial (signal : Option (Option (AbortReason ω))) (operation : Option (Except (Failure ω) α)) (clock : Rat) : World ω α :=
  ⟨operation, false, signal, clock, .idle⟩

def World.Ended (world : World ω α) : Prop :=
  match world.phase with
  | .idle => False
  | .threw => True
  | .returned wait => wait.settled = true

/-- The reaction is the end that a replay's race has when its operation settles first. -/
theorem reaction_race (signal : Option (AbortReason ω)) (now deadline : Rat) (timeoutMs : Nat) (stage : ReplayDeadlineStage)
    (result : Except (Failure ω) α) : awaitReplayOperationUntil result none deadline timeoutMs stage (.settled signal now) =
      .ok (reaction signal now deadline timeoutMs stage result) := by
  cases signal with
  | none => rfl
  | some reason => rfl

/-! ### What a step can do -/

section

variable {timeoutMs : Nat} {stage : ReplayDeadlineStage} {world after : World ω α} {event : Event ω α}
  {outcome : Option (Outcome ω α)}

/-- The call throws, is aborted while it sets up, or waits. -/
theorem call_cases (world : World ω α) (timeoutMs : Nat) (start now : Rat) (during : Option (AbortReason ω)) :
    (∃ reason, world.reason = some reason ∧ awaitReplayOperation world timeoutMs start now during =
      ({ world with handled := true, phase := .threw, clock := start }, some (.threw (.cancelled reason)))) ∨
    (∃ reason, world.signal = some none ∧ during = some reason ∧ awaitReplayOperation world timeoutMs start now during =
      finish { world with handled := true, signal := some (some reason), clock := now } (armedWait world (start + timeoutMs) now)
        (.error reason.failure)) ∨
    (world.reason = none ∧ awaitReplayOperation world timeoutMs start now during =
      ({ world with handled := true, clock := now, phase := .returned (armedWait world (start + timeoutMs) now) }, none)) := by
  unfold awaitReplayOperation World.reason
  match world.signal, during with
  | some (some reason), _ => exact .inl ⟨reason, rfl, rfl⟩
  | some none, some reason => exact .inr (.inl ⟨reason, rfl, rfl, rfl⟩)
  | some none, none => exact .inr (.inr ⟨rfl, rfl⟩)
  | none, _ => exact .inr (.inr ⟨rfl, rfl⟩)

/-- What each event does. -/
theorem step_cases (taken : step timeoutMs stage world event = some (after, outcome)) :
    (∃ start now during, event = .call start now during ∧ world.phase = .idle ∧ world.clock ≤ start ∧ start ≤ now ∧
      (after, outcome) = awaitReplayOperation world timeoutMs start now during) ∨
    (∃ result, event = .settle result ∧ world.operation = none ∧ outcome = none ∧
      ((∃ wait, world.phase = .returned wait ∧
        after = { world with operation := some result, phase := .returned { wait with queued := true } }) ∨
      ((∀ wait, world.phase ≠ .returned wait) ∧ after = { world with operation := some result }))) ∨
    (∃ reason, event = .abort reason ∧ world.signal = some none ∧ outcome = none ∧
      ((∃ wait, world.phase = .returned wait ∧
        after = { world with signal := some (some reason), phase := .returned { wait with dispatched := wait.listening } }) ∨
      ((∀ wait, world.phase ≠ .returned wait) ∧ after = { world with signal := some (some reason) }))) ∨
    (∃ wait reason, event = .notify ∧ world.phase = .returned wait ∧ wait.dispatched = true ∧ world.reason = some reason ∧
      (after, outcome) = finish world { wait with dispatched := false } (.error reason.failure)) ∨
    (∃ wait now result, event = .react now ∧ world.phase = .returned wait ∧ world.operation = some result ∧
      (after, outcome) = finish { world with clock := now } { wait with queued := false }
        (reaction world.reason now wait.deadline timeoutMs stage result)) ∨
    (∃ wait, event = .timer ∧ world.phase = .returned wait ∧ wait.dispatched = false ∧
      (after, outcome) = finish world { wait with armed := false } (.error (.deadline stage timeoutMs))) := by
  unfold step at taken
  split at taken
  · rename_i start now during idle
    split at taken
    · rename_i ordered
      exact .inl ⟨start, now, during, rfl, idle, ordered.1, ordered.2, (Option.some.inj taken).symm⟩
    · cases taken
  · rename_i result
    split at taken
    · cases taken
    · rename_i wait pending phase
      cases taken
      exact .inr (.inl ⟨result, rfl, pending, rfl, .inl ⟨wait, phase, rfl⟩⟩)
    · rename_i pending other
      cases taken
      exact .inr (.inl ⟨result, rfl, pending, rfl, .inr ⟨other, rfl⟩⟩)
  · rename_i reason
    split at taken
    · rename_i wait quiet phase
      cases taken
      exact .inr (.inr (.inl ⟨reason, rfl, quiet, rfl, .inl ⟨wait, phase, rfl⟩⟩))
    · rename_i quiet other
      cases taken
      exact .inr (.inr (.inl ⟨reason, rfl, quiet, rfl, .inr ⟨other, rfl⟩⟩))
    · cases taken
  · rename_i wait phase
    split at taken
    · rename_i reason dispatched aborted
      exact .inr (.inr (.inr (.inl ⟨wait, reason, rfl, phase, dispatched, aborted, (Option.some.inj taken).symm⟩)))
    · cases taken
  · rename_i now wait phase
    split at taken
    · rename_i result queued settled
      split at taken
      · exact .inr (.inr (.inr (.inr (.inl ⟨wait, now, result, rfl, phase, settled, (Option.some.inj taken).symm⟩))))
      · cases taken
    · cases taken
  · rename_i wait phase
    split at taken
    · rename_i ready
      exact .inr (.inr (.inr (.inr (.inr ⟨wait, rfl, phase, ready.2, (Option.some.inj taken).symm⟩))))
    · cases taken
  · cases taken

end

end Mirror.Replay.DeadlineRace
