import Homescreen.Config.Basic

/-!
# Registering the worker

The bootstrap registers the configured worker script once, under the configured scope, with a
navigator that supports workers; without support it does nothing. Registration never fails the
bootstrap: its outcome is reported as a value.

A navigator is anything with a state that says whether it supports workers and that answers a
registration with the scope it granted or a fault (`WorkerHost`). `Navigator` is the recording
navigator: it keeps every registration it was asked for and grants a fixed scope or fails with a
fixed reason.
-/

namespace Homescreen

/-- What registration needs from a navigator whose state is `σ`. -/
structure WorkerHost (σ : Type) where
  /-- The navigator supports workers. -/
  supportsWorkers : σ → Bool
  /-- Registers a script under an optional scope: the scope granted, or a fault. -/
  register : String → Option String → σ → Except Fault String × σ

/-- How a registration ended. -/
inductive Registration where
  /-- The navigator has no workers; nothing was asked of it. -/
  | unsupported
  /-- The worker was registered under a scope. -/
  | registered (scope : String)
  /-- The navigator refused. -/
  | failed (fault : Fault)
  deriving DecidableEq, Repr

/-- Registers the configured worker script under the configured scope, if the navigator
supports workers. -/
def registerWorker (h : WorkerHost σ) (s : σ) (c : Config) : Registration × σ :=
  if h.supportsWorkers s then
    match h.register c.workerUrl c.workerScope s with
    | (.ok scope, s') => (.registered scope, s')
    | (.error e, s') => (.failed e, s')
  else (.unsupported, s)

/-- A navigator that records the registrations asked of it. -/
structure Navigator where
  supportsWorkers : Bool
  /-- Why registrations fail, if they do. -/
  failure : Option String
  /-- The scope granted to a registration that succeeds. -/
  grantedScope : String
  /-- The registrations asked for, oldest first: script and scope. -/
  calls : List (String × Option String)
  deriving DecidableEq, Repr

namespace Navigator

/-- The recording navigator as a worker host. A refused registration names the script. -/
def host : WorkerHost Navigator where
  supportsWorkers n := n.supportsWorkers
  register url scope n :=
    let n' := { n with calls := n.calls ++ [(url, scope)] }
    match n.failure with
    | some r => (.error (.registrationFailed url r), n')
    | none => (.ok n.grantedScope, n')

end Navigator

end Homescreen
