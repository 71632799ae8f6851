import MirrorECMA.Machine.Run

namespace Mirror.Suite

open Machine (Transition)

variable {F ε : Type}

/-- How far the one call of a function has come: `pending`, from the moment it is asked for. -/
inductive Progress (ε : Type) where
  | queued
  | started
  | settled (result : Except ε Unit)

/-- What makes the construction fail. -/
inductive Cause (ε : Type) where
  | thrown (error : ε)
  | typeError (message : String)

/-- Where `dispose` is: at the implementation's disposer, or in the loop over the cleanups. -/
inductive Disposal (F ε : Type) where
  | idle
  | disposer (dispose : F)
  | cleanups (cleanup : F) (rest : List F) (errors : List ε)
  | finished (errors : List ε)

inductive Phase (ε : Type) where
  | constructing
  | binding
  | assembling
  | returned
  | failing (cause : Cause ε)

structure Scope (F ε : Type) where
  /-- The functions that `registered` maps to their wrappers, in the order in which `partial` holds these. -/
  registered : List F
  progress : F → Option (Progress ε)
  transferred : Bool
  disposed : Bool
  /-- `implementation.dispose` -/
  implementation : Option F
  disposal : Disposal F ε
  phase : Phase ε

inductive Event (F ε : Type) where
  /-- `deferCleanup`, of a function or of something else -/
  | register (cleanup : Option F)
  /-- The application calls a wrapper that it was given. -/
  | call (cleanup : F)
  /-- The microtask of a wrapper. -/
  | run (cleanup : F)
  | settle (cleanup : F) (result : Except ε Unit)
  /-- `options.implementation` ends, with an implementation that has a disposer or with something else. -/
  | construct (result : Except ε (Option F))
  | bindLocal (result : Except ε Unit)
  /-- The binding is put together. -/
  | assemble (result : Except ε Unit)
  /-- `dispose` of the binding that was returned -/
  | dispose
  /-- What `dispose` awaits has settled. -/
  | resume

inductive Output (F : Type) where
  | silent
  | wrapper (cleanup : F)
  | closed
  | typeError
  | started (cleanup : F)
  deriving DecidableEq

namespace Scope

variable [DecidableEq F]

def initial : Scope F ε where
  registered := []
  progress _ := none
  transferred := false
  disposed := false
  implementation := none
  disposal := .idle
  phase := .constructing

def setProgress (scope : Scope F ε) (cleanup : F) (progress : Progress ε) : Scope F ε :=
  { scope with progress := fun f => if f = cleanup then some progress else scope.progress f }

/-- `once`: only the first call of a wrapper queues its function. -/
def once (scope : Scope F ε) (cleanup : F) : Scope F ε :=
  match scope.progress cleanup with
  | some _ => scope
  | none => scope.setProgress cleanup .queued

def errorsOf (result : Except ε Unit) : List ε :=
  match result with
  | .ok _ => []
  | .error error => [error]

/-- The loop of `dispose`, up to its next wrapper. -/
def next (scope : Scope F ε) (errors : List ε) : List F → Scope F ε
  | [] => { scope with disposal := .finished errors }
  | cleanup :: rest => { scope.once cleanup with disposal := .cleanups cleanup rest errors }

/-- `disposed = true` -/
def close (scope : Scope F ε) : Scope F ε := { scope with disposed := true }

/-- The disposer is awaited. -/
def atDisposer (scope : Scope F ε) (dispose : F) : Scope F ε := { scope with disposal := .disposer dispose }

def dispose (scope : Scope F ε) : Scope F ε × Output F :=
  if scope.disposed then (scope, .silent)
  else
    match scope.implementation with
    | none => (scope.close.next [] scope.registered.reverse, .silent)
    | some dispose =>
      if dispose ∈ scope.registered then ((scope.close.once dispose).atDisposer dispose, .silent)
      else ((scope.close.setProgress dispose .started).atDisposer dispose, .started dispose)

/-- The `catch` of the factory. -/
def fail (scope : Scope F ε) (cause : Cause ε) : Scope F ε × Output F := dispose { scope with phase := .failing cause }

def deferCleanup (scope : Scope F ε) (cleanup : Option F) : Scope F ε × Output F :=
  if scope.transferred || scope.disposed then (scope, .closed)
  else
    match cleanup with
    | none => (scope, .typeError)
    | some cleanup =>
      if cleanup ∈ scope.registered then (scope, .wrapper cleanup)
      else ({ scope with registered := scope.registered ++ [cleanup] }, .wrapper cleanup)

def construct (scope : Scope F ε) (result : Except ε (Option F)) : Scope F ε × Output F :=
  match result with
  | .error error => scope.fail (.thrown error)
  | .ok none => scope.fail (.typeError "implementation must transfer a disposer")
  | .ok (some dispose) => ({ scope with implementation := some dispose, phase := .binding }, .silent)

def resume (scope : Scope F ε) : Option (Scope F ε) :=
  match scope.disposal with
  | .disposer dispose =>
    match scope.progress dispose with
    | some (.settled result) => some (scope.next (errorsOf result) scope.registered.reverse)
    | _ => none
  | .cleanups cleanup rest errors =>
    match scope.progress cleanup with
    | some (.settled result) => some (scope.next (errors ++ errorsOf result) rest)
    | _ => none
  | _ => none

def step (scope : Scope F ε) (event : Event F ε) : Option (Scope F ε × Output F) :=
  match event with
  | .register cleanup => some (scope.deferCleanup cleanup)
  | .call cleanup => if cleanup ∈ scope.registered then some (scope.once cleanup, .silent) else none
  | .run cleanup =>
    match scope.progress cleanup with
    | some .queued => some (scope.setProgress cleanup .started, .started cleanup)
    | _ => none
  | .settle cleanup result =>
    match scope.progress cleanup with
    | some .started => some (scope.setProgress cleanup (.settled result), .silent)
    | _ => none
  | .construct result =>
    match scope.phase with
    | .constructing => some (scope.construct result)
    | _ => none
  | .bindLocal result =>
    match scope.phase, result with
    | .binding, .error error => some (scope.fail (.thrown error))
    | .binding, .ok _ => some ({ scope with transferred := true, phase := .assembling }, .silent)
    | _, _ => none
  | .assemble result =>
    match scope.phase, result with
    | .assembling, .error error => some (scope.fail (.thrown error))
    | .assembling, .ok _ => some ({ scope with phase := .returned }, .silent)
    | _, _ => none
  | .dispose =>
    match scope.phase with
    | .returned => some scope.dispose
    | _ => none
  | .resume => scope.resume.map fun scope => (scope, .silent)

/-- What the factory returns or throws, with the errors of the cleanups. -/
inductive Result (ε : Type) where
  | returned
  | threw (cause : Cause ε) (errors : List ε)

def result (scope : Scope F ε) : Option (Result ε) :=
  match scope.phase, scope.disposal with
  | .returned, _ => some .returned
  | .failing cause, .finished errors => some (.threw cause errors)
  | _, _ => none

end Scope

end Mirror.Suite
