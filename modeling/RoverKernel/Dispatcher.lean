import RoverKernel.Modules.Module
import RoverKernel.Registry
import RoverKernel.EventLog
import RoverKernel.Metrics
import RoverKernel.TimeBase
import RoverKernel.Config.Kernel

/-!
# The dispatcher

The dispatcher pops due entries from the head of the task queue and delivers each to the
module registered at the entry's identifier.  A poll counts itself, then repeats one step
until it pops nothing: `takeDueHead` asks whether anything is pending (which, on a queue
found empty, reclaims all its slots) and pops the head if it is due.  Entries behind a head
that is not due wait, even if they are due themselves.

Delivery skips an entry whose module is unknown or whose payload exceeds the module's
buffer, and otherwise loads the buffer and invokes the module.  Either way the metrics and
the event log record the entry once.  Modules may push onto the queue while they run; those
entries are seen by the same poll.  A callback's duration is real time in the running
program; here the dispatcher is handed the durations of the callbacks to come (`timings`),
and records the next one at each invocation.  A module that panics stops the poll: delivery,
the loop and the poll answer `none`.

Modules live in a store and the registry maps identifiers to positions in it, so one module
value is what every later delivery to it sees.
-/

namespace RoverKernel

/-- what one poll did: the entries delivered to a module and those dropped -/
structure DispatchReport where
  invoked : Nat := 0
  skipped : Nat := 0
deriving DecidableEq, Repr, Inhabited

/-- entries popped -/
def DispatchReport.popped (r : DispatchReport) : Nat := r.invoked + r.skipped

/-- what the dispatcher does under the queue lock: if anything is pending (asking may
reclaim the slots of a drained queue) and the head is due at `now`, pops it -/
def TaskQueue.takeDueHead (q : TaskQueue) (now : Millis) : Option TaskEntry × TaskQueue :=
  let (empty, q) := q.isEmpty
  if empty then (none, q)
  else
    match q.peekFront with
    | .ok head =>
      if head.isDue now then
        match q.popFront with
        | .ok (e, q') => (some e, q')
        | .error _ => (none, q)
      else (none, q)
    | .error _ => (none, q)

/-- a dispatcher and everything it works on -/
structure Dispatcher where
  time : TimeBase
  /-- the shared task queue -/
  queue : TaskQueue
  /-- every module handed to the dispatcher, in the order given -/
  modules : List Module := []
  /-- identifier to position in `modules` -/
  registry : ModuleRegistry Nat := {}
  metrics : DispatchMetrics
  /-- the event log, when enabled -/
  log : Option EventLog
  /-- how long the coming callbacks take, in the order they run; a callback past the end of
  the list takes no time -/
  timings : List Duration := []
deriving DecidableEq, Repr, Inhabited

namespace Dispatcher

/-- a dispatcher with no modules, built from a configuration over a given clock and queue -/
def new (time : TimeBase) (queue : TaskQueue) (c : KernelConfig) : Dispatcher :=
  { time, queue, metrics := DispatchMetrics.new c.histogramSize c.slowCallback,
    log := if c.eventLogEnabled then some (EventLog.new c.eventLogCapacity) else none }

/-- adds a module to the store and returns its position -/
def addModule (d : Dispatcher) (m : Module) : Nat × Dispatcher :=
  (d.modules.length, { d with modules := d.modules ++ [m] })

/-- registers the stored module at position `pos` under identifier `id` -/
def register (d : Dispatcher) (id pos : Nat) : KernelResult Dispatcher := do
  let r ← d.registry.register id pos
  pure { d with registry := r }

/-- the module registered under `id` -/
def lookup (d : Dispatcher) (id : Nat) : KernelResult Module := do
  let pos ← d.registry.lookup id
  match d.modules[pos]? with
  | some m => pure m
  | none => throw (.moduleNotRegistered id)

/-- records a popped entry in the log, if there is one -/
def logEntry (d : Dispatcher) (now : Millis) (e : TaskEntry) (ev : DispatchEvent) : Dispatcher :=
  { d with log := d.log.map (·.record (.ofEntry now e ev)) }

/-- drops a popped entry -/
def skip (d : Dispatcher) (now : Millis) (e : TaskEntry) (ev : DispatchEvent)
    (r : DispatchReport) : Dispatcher × DispatchReport :=
  ({ d with metrics := d.metrics.recordSkip }.logEntry now e ev, { r with skipped := r.skipped + 1 })

/-- reads the clock, then takes the head under the queue lock -/
def takeDueHead (d : Dispatcher) : Option TaskEntry × Dispatcher :=
  let (e, q) := d.queue.takeDueHead d.time.now
  (e, { d with queue := q })

/-- the module at `pos` has run `e`, becoming `m'` and leaving the queue `q`: the callback
took the next of the timings, which the metrics record, and the log records the entry -/
def recordRun (d : Dispatcher) (now : Millis) (e : TaskEntry) (pos : Nat) (m' : Module)
    (q : TaskQueue) : Dispatcher :=
  let (_, metrics) := d.metrics.recordInvocation (d.timings.headD ⟨0, 0⟩)
  { d with modules := d.modules.set pos m', queue := q, metrics,
           timings := d.timings.tail }.logEntry now e .invoked

/-- delivers a popped entry; `none` if the module panics -/
def deliver (d : Dispatcher) (e : TaskEntry) (r : DispatchReport) :
    Option (Dispatcher × DispatchReport) :=
  let now := d.time.now
  match d.registry.lookup e.module with
  | .error _ => some (d.skip now e .skippedUnknownModule r)
  | .ok pos =>
    match d.modules[pos]? with
    | none => some (d.skip now e .skippedUnknownModule r)
    | some m =>
      match m.buffer.load e.service e.args with
      | .error _ => some (d.skip now e .skippedPayloadTooLarge r)
      | .ok buf =>
        ((m.withBuffer buf).invoke now d.queue).map fun (m', q) =>
          (d.recordRun now e pos m' q, { r with invoked := r.invoked + 1 })

/-- repeats `takeDueHead` and delivery, at most `fuel` times, stopping at a panic -/
def drain : Nat → Dispatcher → DispatchReport → Option (Dispatcher × DispatchReport)
  | 0, d, r => some (d, r)
  | fuel + 1, d, r =>
    match d.takeDueHead with
    | (none, d') => some (d', r)
    | (some e, d') => do
      let (d'', r') ← d'.deliver e r
      drain fuel d'' r'

/-- one poll: counts itself, then delivers due head entries until none is left.  Each pop
moves the head one slot towards the capacity and pushes never move it back, so
`capacity + 1` rounds always reach the round that pops nothing. -/
def poll (d : Dispatcher) : Option (Dispatcher × DispatchReport) :=
  let d := { d with metrics := d.metrics.recordPoll }
  drain (d.queue.capacity + 1) d {}

/-- counts a poll and delivers at most one due head entry -/
def pollOne (d : Dispatcher) : Option (Dispatcher × DispatchReport) :=
  let d := { d with metrics := d.metrics.recordPoll }
  match d.takeDueHead with
  | (none, d') => some (d', {})
  | (some e, d') => d'.deliver e {}

/-- discards the queue -/
def resetQueue (d : Dispatcher) : Dispatcher := { d with queue := d.queue.reset }

/-- clears the metrics and the event log -/
def resetStats (d : Dispatcher) : Dispatcher :=
  { d with metrics := d.metrics.reset, log := d.log.map (·.reset) }

/-- builds a dispatcher: the configuration is validated first, then the clock is set up,
then the modules are registered in order.  `queueCapacity` gives a shared queue of that
size instead of the configured one. -/
def build (c : KernelConfig) (queueCapacity : Option Nat) (modules : List (Nat × Module)) :
    KernelResult Dispatcher := do
  match c.validate with
  | .error e => throw (.config e.message)
  | .ok () => pure ()
  let time ← TimeBase.new c.period c.clockHz
  let d := new time (TaskQueue.new (queueCapacity.getD c.queueCapacity)) c
  modules.foldlM (fun d (id, m) => do
    let (pos, d) := d.addModule m
    d.register id pos) d

end Dispatcher

end RoverKernel
