import Crumblr.Application.Passes

/-!
# Workers running passes

The system the execution worker is part of: any number of worker processes, each
driving one pass after another with whatever configuration it was started with,
over the shared stores and one broker.
-/

namespace Crumblr

/-- The passes a worker can be driven through. -/
inductive PassKind where
  | runOnce
  | resolvePendingOnce
  | reconcileOnce
  deriving DecidableEq, Repr

/-- One pass, with the worker configuration it runs under. -/
structure Task where
  orchestrator : ExecutionOrchestrator
  kind : PassKind

/-- The program of a pass; what it returns is of no consequence to the system. -/
def Task.program [Externals] (t : Task) : Pass Unit :=
  match t.kind with
  | .runOnce => do let _ ← t.orchestrator.runOnce
  | .resolvePendingOnce => do let _ ← t.orchestrator.resolvePendingOnce
  | .reconcileOnce => do let _ ← t.orchestrator.reconcileOnce

/-- The system of all workers. -/
def workers [Externals] :
    Machine Nat Task Oracle World.Event World Call Call.Answer PyError where
  program := fun _ t => t.program
  serve := World.serve
  restart := World.restart
  nature := World.nature

/-- One worker by itself: the same passes under one configuration, over the same world. -/
def loneWorker [Externals] (o : ExecutionOrchestrator) :
    Machine Unit PassKind Oracle World.Event World Call Call.Answer PyError where
  program := fun _ kind => Task.program ⟨o, kind⟩
  serve := fun oracle _ w c => w.serve oracle 0 c
  restart := fun _ => World.restart 0
  nature := World.nature

/-- The calls of a pass so far, the newest first. -/
abbrev Past : Type := Trace Call Call.Answer PyError

/-- The system as invariants see it. -/
abbrev SystemView : Type := Machine.View Nat Task World Call Call.Answer PyError

end Crumblr
