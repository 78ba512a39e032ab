import RoverKernel.Dispatcher
import RoverKernel.Lifecycle

/-!
# The kernel

A dispatcher under the lifecycle `BOOT → READY → RUNNING → STOPPED → BOOT`.  Modules are
registered before start; the dispatcher is polled only while running; shutting down stops
the tick and discards the queue; restarting clears the statistics and keeps the modules.
Scheduling is allowed in every state.  A module that panics while the kernel polls takes the
kernel down with it: `runOnce` then answers `none`.
-/

namespace RoverKernel

structure Kernel where
  dispatcher : Dispatcher
  /-- the periodic tick -/
  tick : TickSource := {}
  lifecycle : StateMachine := {}
deriving DecidableEq, Repr, Inhabited

namespace Kernel

/-- a kernel in BOOT over a dispatcher built from the configuration, with no modules -/
def new (c : KernelConfig) : KernelResult Kernel := do
  let d ← Dispatcher.build c none []
  pure { dispatcher := d }

def state (k : Kernel) : KernelState := k.lifecycle.current

/-- BOOT → READY -/
def init (k : Kernel) : KernelResult Kernel := do
  let m ← k.lifecycle.transition .ready
  pure { k with lifecycle := m }

/-- adds a module to the dispatcher's store and returns its position -/
def addModule (k : Kernel) (m : Module) : Nat × Kernel :=
  let (pos, d) := k.dispatcher.addModule m
  (pos, { k with dispatcher := d })

/-- registers the stored module at `pos` under `id`; only in BOOT or READY -/
def register (k : Kernel) (id pos : Nat) : KernelResult Kernel :=
  match k.state with
  | .boot | .ready => do
    let d ← k.dispatcher.register id pos
    pure { k with dispatcher := d }
  | s => throw (.config s!"modules must be registered before start (state {s.name})")

/-- READY → RUNNING, starting the tick -/
def start (k : Kernel) : KernelResult Kernel := do
  if !k.state.canTransitionTo .running then
    throw (.invalidStateTransition k.state.name KernelState.running.name)
  let t ← k.tick.start
  let m ← k.lifecycle.transition .running
  pure { k with tick := t, lifecycle := m }

/-- one poll, only while running; `none` if a module panics during it -/
def runOnce (k : Kernel) : Option (KernelResult (DispatchReport × Kernel)) :=
  if k.state.isRunning then
    k.dispatcher.poll.map fun (d, r) => .ok (r, { k with dispatcher := d })
  else some (.error (.notRunning k.state.name))

/-- queues a task due `delay` from now; the payload is checked before the push -/
def schedule (k : Kernel) (module service : Nat) (delay : Duration) (args : List UInt8) :
    KernelResult (Nat × Kernel) := do
  let due := dueAfter k.dispatcher.time.now delay
  let e ← (TaskEntry.scheduled module service due).setArgs args
  let (i, q) ← k.dispatcher.queue.pushTask e
  pure (i, { k with dispatcher := { k.dispatcher with queue := q } })

/-- READY or RUNNING → STOPPED: stops the tick and discards the queue -/
def shutdown (k : Kernel) : KernelResult Kernel := do
  let m ← k.lifecycle.transition .stopped
  pure { k with lifecycle := m, tick := k.tick.stop, dispatcher := k.dispatcher.resetQueue }

/-- STOPPED → BOOT: clears the metrics and the event log -/
def restart (k : Kernel) : KernelResult Kernel := do
  let m ← k.lifecycle.transition .boot
  pure { k with lifecycle := m, dispatcher := k.dispatcher.resetStats }

end Kernel

end RoverKernel
