import Mathlib
import RoverKernel.Daemon.Run
import RoverKernel.Proofs.KernelLifecycle
import RoverKernel.Proofs.PollDrain
import RoverKernel.Proofs.TickPeriod

/-!
# The daemon's start-up and its control loop

Before it starts the kernel, the daemon queues the configured startup tasks in order.  The
clock is still at 0 then, so each task is due at its delay in whole milliseconds
(`StartupTask.entry`).  Scheduling checks a task's payload before it looks for a free slot, so
the first task refused is the first whose payload is over the entry's capacity or that finds
all the configured slots taken, whichever comes first, and the daemon stops naming its index.

Once started, the kernel is polled once per iteration of the control loop.  The radio and the
engines never push, so a poll only pops queued entries: every startup task is pending, or was
popped and counted once as invoked or skipped (`Daemon.Polling`).  The engines start with
their counters where the speed loop remembers them, and no delivery moves the counters, so no
poll panics.

* `Kernel.Primed`                     the kernel the tasks are queued on;
* `Daemon.scheduleAll_stops`,
  `Daemon.scheduleAll_queues`         queuing the tasks, stopped by a refusal or not;
* `Daemon.startKernel_refused`,
  `Daemon.startKernel_queues`         the same for the whole start-up;
* `Dispatcher.poll_quiet`             one poll over modules that never push;
* `Daemon.Polling.pollLoop`           the control loop, one iteration after another;
* `daemon_queues_startup_tasks_then_polls`   all of it, for every configuration that builds a
                                      kernel.
-/

namespace RoverKernel

namespace StartupTask

/-- the entry a startup task is queued as before the start, while the clock reads 0 -/
def entry (t : StartupTask) : TaskEntry := ⟨t.module, t.service, t.delay.millisSat, t.args⟩

/-- why the kernel refuses a startup task: a payload over the entry's capacity, which is
checked first, else a queue of `capacity` slots with none free -/
def refusal (t : StartupTask) (capacity : Nat) : KernelError :=
  if argCapacity < t.args.length then .argumentTooLarge t.args.length argCapacity
  else .queueFull capacity

end StartupTask

/-! ## the kernel before the start -/

theorem TimeBase.new_now {period : Duration} {clockHz : Nat} {t : TimeBase}
    (h : TimeBase.new period clockHz = .ok t) : t.now = 0 := by
  obtain ⟨-, -, rfl⟩ := (TimeBase.new_eq_ok_iff period clockHz t).1 h
  rfl

theorem KernelConfig.validate_ok {c : KernelConfig} {u : Unit} (h : c.validate = .ok u) :
    0 < c.queueCapacity := by
  unfold KernelConfig.validate at h
  split at h
  · cases h
  · omega

theorem Kernel.new_eq_ok {c : KernelConfig} {k : Kernel} (h : Kernel.new c = .ok k) :
    0 < c.queueCapacity ∧ ∃ t : TimeBase, t.now = 0 ∧
      k = { dispatcher := Dispatcher.new t (TaskQueue.new c.queueCapacity) c } := by
  unfold Kernel.new Dispatcher.build at h
  cases hv : c.validate with
  | error e => simp [hv, bind, Except.bind, throw, throwThe, MonadExceptOf.throw] at h
  | ok u =>
    rcases ht : TimeBase.new c.period c.clockHz with err | t
    · simp [hv, ht, bind, Except.bind] at h
    · simp [hv, ht, bind, Except.bind, pure, Except.pure, List.foldlM] at h
      exact ⟨KernelConfig.validate_ok hv, t, TimeBase.new_now ht, h.symm⟩

/-- a kernel ready to queue the daemon's startup tasks: in READY with the tick stopped, the
clock at 0, an empty queue of the configured size, nothing counted yet, and only modules that
never push and cannot panic -/
structure Kernel.Primed (c : KernelConfig) (k : Kernel) : Prop where
  ready : k.state = .ready
  tick : k.tick.running = false
  now : k.dispatcher.time.now = 0
  queue : k.dispatcher.queue = TaskQueue.new c.queueCapacity
  capacity : 0 < c.queueCapacity
  polls : k.dispatcher.metrics.polls = 0
  popped : k.dispatcher.metrics.invoked + k.dispatcher.metrics.skipped = 0
  quiet : k.dispatcher.Quiet
  settled : k.dispatcher.Settled

namespace Kernel.Primed

variable {c : KernelConfig} {k : Kernel}

theorem queue_capacity (h : k.Primed c) : k.dispatcher.queue.capacity = c.queueCapacity := by
  rw [h.queue]
  simp only [TaskQueue.new, TaskQueue.capacity, List.length_replicate]
  exact Nat.max_eq_left h.capacity

theorem freeSlots (h : k.Primed c) : k.dispatcher.queue.freeSlots = c.queueCapacity := by
  rw [TaskQueue.freeSlots, h.queue_capacity, h.queue]
  rfl

theorem pending (h : k.Primed c) : k.dispatcher.queue.pending = [] := by
  rw [h.queue]
  rfl

end Kernel.Primed

/-- the daemon builds the kernel, registers the radio at 0 and the engines at 1 and
initializes it; the startup tasks then go onto a primed kernel -/
theorem Daemon.startKernel_of_new {c : KernelConfig} {k₀ : Kernel} (h : Kernel.new c = .ok k₀) :
    ∃ k₁, k₁.Primed c ∧
      Daemon.startKernel c = (Daemon.scheduleAll k₁ c.startupTasks 0 >>= fun k =>
        Daemon.orFail "Failed to start kernel" k.start) := by
  obtain ⟨hcap, t, ht, rfl⟩ := Kernel.new_eq_ok h
  refine ⟨
    { dispatcher := { Dispatcher.new t (TaskQueue.new c.queueCapacity) c with
        modules := [.radio {}, .engines {}]
        registry := ⟨((List.replicate moduleSlots none).set 0 (some 0)).set 1 (some 1)⟩ }
      lifecycle := ⟨.ready, some .boot, 1⟩ },
    ⟨rfl, rfl, ht, rfl, hcap, rfl, rfl, ?_, ?_⟩, ?_⟩
  · intro m hm
    simp only [List.mem_cons, List.not_mem_nil, or_false] at hm
    rcases hm with rfl | rfl
    · exact Module.quiet_radio {}
    · exact Module.quiet_engines {}
  · -- new engines remember counters of zero
    intro m hm
    simp only [List.mem_cons, List.not_mem_nil, or_false] at hm
    rcases hm with rfl | rfl
    · trivial
    · exact ⟨rfl, rfl⟩
  · rw [Daemon.startKernel, h]
    rfl

/-! ## queuing the startup tasks -/

namespace Kernel

variable {k : Kernel}

@[simp] theorem withQueue_queue (q : TaskQueue) : (k.withQueue q).dispatcher.queue = q := rfl

@[simp] theorem withQueue_metrics (q : TaskQueue) :
    (k.withQueue q).dispatcher.metrics = k.dispatcher.metrics := rfl

@[simp] theorem withQueue_withQueue (q q' : TaskQueue) :
    (k.withQueue q).withQueue q' = k.withQueue q' := rfl

theorem schedule_refused (t : StartupTask)
    (h : argCapacity < t.args.length ∨ k.dispatcher.queue.freeSlots = 0) :
    k.schedule t.module t.service t.delay t.args = .error (t.refusal k.dispatcher.queue.capacity) := by
  rw [schedule_eq, StartupTask.refusal]
  by_cases hlong : argCapacity < t.args.length
  · rw [if_pos hlong, if_pos hlong]
  · -- the payload fits, so the queue has no slot
    rw [if_neg hlong, if_neg hlong, (TaskQueue.pushTask_eq_error_iff _ _).2 (h.resolve_left hlong)]
    rfl

theorem schedule_accepted (hnow : k.dispatcher.time.now = 0) (t : StartupTask)
    (hfit : t.args.length ≤ argCapacity) (hfree : 0 < k.dispatcher.queue.freeSlots) :
    ∃ i q, k.schedule t.module t.service t.delay t.args = .ok (i, k.withQueue q) ∧
      q.pending = k.dispatcher.queue.pending ++ [t.entry] ∧
      q.capacity = k.dispatcher.queue.capacity ∧ q.freeSlots + 1 = k.dispatcher.queue.freeSlots := by
  rw [schedule_eq, if_neg (Nat.not_lt.2 hfit), hnow, Nat.zero_add]
  obtain ⟨⟨i, q⟩, hp⟩ := (TaskQueue.pushTask_isOk_iff _ _).2 hfree
  obtain ⟨-, hv⟩ := TaskQueue.pushTask_ok hp
  have hcap : q.capacity = k.dispatcher.queue.capacity := by
    rw [← TaskQueue.view_capacity, hv]
  refine ⟨i, q, by rw [hp]; rfl, by rw [← TaskQueue.view_pending, hv]; rfl, hcap, ?_⟩
  have hused : q.tail = k.dispatcher.queue.tail + 1 := by rw [← TaskQueue.view_used, hv]
  simp only [TaskQueue.freeSlots] at hfree ⊢
  omega

/-- a kernel in READY whose tick is stopped starts, and its dispatcher is left as it was -/
theorem start_of_ready (hs : k.state = .ready) (ht : k.tick.running = false) :
    ∃ k', k.start = .ok k' ∧ k'.state = .running ∧ k'.dispatcher = k.dispatcher := by
  have hm : k.lifecycle.current = .ready := hs
  refine ⟨{ k with tick := ⟨true⟩, lifecycle := ⟨.running, some .ready, k.lifecycle.count + 1⟩ },
    ?_, rfl, rfl⟩
  simp [start, state, hm, TickSource.start, ht, StateMachine.transition, bind, Except.bind,
    KernelState.canTransitionTo, pure, Except.pure]

end Kernel

namespace Daemon

variable {k : Kernel}

theorem scheduleAll_cons_error {t : StartupTask} {ts : List StartupTask} {i : Nat} {e : KernelError}
    (h : k.schedule t.module t.service t.delay t.args = .error e) :
    scheduleAll k (t :: ts) i = .error (.failed s!"Failed to queue startup task #{i}" [e.message]) := by
  rw [scheduleAll, h]
  rfl

theorem scheduleAll_cons_ok {t : StartupTask} {ts : List StartupTask} {i j : Nat} {k' : Kernel}
    (h : k.schedule t.module t.service t.delay t.args = .ok (j, k')) :
    scheduleAll k (t :: ts) i = scheduleAll k' ts (i + 1) := by
  rw [scheduleAll, h]
  rfl

/-- **The startup tasks are queued in order until one is refused.**  Every task before `t` fits
an entry and finds a slot; `t` is then refused, for its payload first, else for the full queue,
and the daemon stops naming `t`'s index -/
theorem scheduleAll_stops (hnow : k.dispatcher.time.now = 0) (before : List StartupTask)
    (t : StartupTask) (after : List StartupTask) (i : Nat)
    (hfit : ∀ u ∈ before, u.args.length ≤ argCapacity)
    (hroom : before.length ≤ k.dispatcher.queue.freeSlots)
    (hstop : argCapacity < t.args.length ∨ before.length = k.dispatcher.queue.freeSlots) :
    scheduleAll k (before ++ t :: after) i =
      .error (.failed s!"Failed to queue startup task #{i + before.length}"
        [(t.refusal k.dispatcher.queue.capacity).message]) := by
  induction before generalizing k i with
  | nil =>
    have hrefused : argCapacity < t.args.length ∨ k.dispatcher.queue.freeSlots = 0 := by
      simp only [List.length_nil] at hstop
      omega
    rw [List.nil_append, scheduleAll_cons_error (Kernel.schedule_refused t hrefused)]
    rfl
  | cons u before ih =>
    simp only [List.length_cons, List.mem_cons, forall_eq_or_imp] at hfit hroom hstop
    obtain ⟨j, q, hs, -, hcap, hfree⟩ := Kernel.schedule_accepted hnow u hfit.1 (by omega)
    have hrest := ih (k := k.withQueue q) hnow (i + 1) hfit.2 (by simp; omega) (by simp; omega)
    rw [List.cons_append, scheduleAll_cons_ok hs, hrest, Kernel.withQueue_queue, hcap,
      List.length_cons, Nat.add_right_comm, Nat.add_assoc]

/-- **When every startup task fits and has a slot, all are queued**, in order, behind what was
pending, each due at its delay -/
theorem scheduleAll_queues (hnow : k.dispatcher.time.now = 0) (ts : List StartupTask) (i : Nat)
    (hfit : ∀ u ∈ ts, u.args.length ≤ argCapacity)
    (hroom : ts.length ≤ k.dispatcher.queue.freeSlots) :
    ∃ q, scheduleAll k ts i = .ok (k.withQueue q) ∧
      q.pending = k.dispatcher.queue.pending ++ ts.map StartupTask.entry := by
  induction ts generalizing k i with
  | nil => exact ⟨k.dispatcher.queue, rfl, by simp⟩
  | cons u ts ih =>
    simp only [List.length_cons, List.mem_cons, forall_eq_or_imp] at hfit hroom
    obtain ⟨j, q₁, hs, hpend, -, hfree⟩ := Kernel.schedule_accepted hnow u hfit.1 (by omega)
    obtain ⟨q, hrest, hq⟩ := ih (k := k.withQueue q₁) hnow (i + 1) hfit.2 (by simp; omega)
    refine ⟨q, by rw [scheduleAll_cons_ok hs, hrest, Kernel.withQueue_withQueue], ?_⟩
    rw [hq, Kernel.withQueue_queue, hpend, List.map_cons, List.append_assoc, List.singleton_append]

end Daemon

/-! ## the control loop -/

namespace Dispatcher

/-- **A poll over modules that never push conserves the entries**: it counts itself once, and
each entry it pops leaves the queue and is counted once, invoked or skipped -/
theorem poll_quiet {d d' : Dispatcher} {r : DispatchReport} (hq : d.Quiet)
    (h : d.poll = some (d', r)) :
    d'.Quiet ∧ d'.metrics.polls = d.metrics.polls + 1 ∧
      d'.metrics.invoked + d'.metrics.skipped + d'.queue.pending.length =
        d.metrics.invoked + d.metrics.skipped + d.queue.pending.length := by
  let d₀ : Dispatcher := { d with metrics := d.metrics.recordPoll }
  have hq₀ : d₀.Quiet := hq
  have hdrain : Dispatcher.drain (d.queue.capacity + 1) d₀ {} = some (d', r) := h
  obtain ⟨-, hinv, hskip, hpolls, -⟩ := drain_counts hdrain
  obtain ⟨-, hpop⟩ := drain_drained hdrain
  -- nothing joins the queue, so what the report counts is what left it
  obtain ⟨hsplit, hq'⟩ := drain_quiet hq₀ hdrain
  replace hsplit := congrArg List.length hsplit
  rw [List.length_append] at hsplit
  simp only [DispatchReport.popped] at hpop
  refine ⟨hq', hpolls, ?_⟩
  have hd₀ : d₀.queue = d.queue := rfl
  have hinv₀ : d₀.metrics.invoked = d.metrics.invoked := rfl
  have hskip₀ : d₀.metrics.skipped = d.metrics.skipped := rfl
  rw [hd₀] at hsplit
  simp only [hinv₀, hskip₀] at hinv hskip
  omega

end Dispatcher

theorem Kernel.runOnce_of_poll {k : Kernel} (h : k.state = .running) {d : Dispatcher}
    {r : DispatchReport} (hp : k.dispatcher.poll = some (d, r)) :
    k.runOnce = some (.ok (r, { k with dispatcher := d })) := by
  simp [Kernel.runOnce, h, KernelState.isRunning, hp]

namespace Daemon

/-- what the control loop keeps of a kernel that queued `tasks` startup tasks and has been
polled `polls` times: it runs, its modules never push and cannot panic, its polls are counted,
and each task is still pending or was popped and counted once, invoked or skipped -/
structure Polling (tasks polls : Nat) (k : Kernel) : Prop where
  running : k.state = .running
  quiet : k.dispatcher.Quiet
  settled : k.dispatcher.Settled
  polls : k.dispatcher.metrics.polls = polls
  conserved : k.dispatcher.metrics.invoked + k.dispatcher.metrics.skipped +
    k.dispatcher.queue.pending.length = tasks

variable {n p : Nat} {k : Kernel}

theorem Polling.pollAt (h : Polling n p k) (period : Duration) (elapsed : Nat) :
    ∃ k', pollAt period elapsed k = .ok k' ∧ Polling n (p + 1) k' := by
  -- moving the clock touches neither the lifecycle, the modules nor the dispatcher's accounts
  let k₁ := clockAt k period elapsed
  have hrun : k₁.state = .running := h.running
  have hq₁ : k₁.dispatcher.Quiet := h.quiet
  have hs₁ : k₁.dispatcher.Settled := h.settled
  -- settled engines cannot panic, so the poll returns
  obtain ⟨d', r, hpoll, hs'⟩ := Dispatcher.poll_settled hs₁
  obtain ⟨hq, hpolls, hcons⟩ := Dispatcher.poll_quiet hq₁ hpoll
  refine ⟨{ k₁ with dispatcher := d' }, ?_, ⟨h.running, hq, hs', ?_, ?_⟩⟩
  · rw [Daemon.pollAt, Kernel.runOnce_of_poll hrun hpoll]
    rfl
  · rw [hpolls, ← h.polls]
    rfl
  · rw [hcons, ← h.conserved]
    rfl

/-- **The control loop polls once per iteration** and keeps the accounts -/
theorem Polling.pollLoop (h : Polling n p k) (period : Duration) (N i : Nat) :
    ∃ k', Daemon.pollLoop period N i k = .ok k' ∧ Polling n (p + N) k' := by
  induction N generalizing p i k with
  | zero => exact ⟨k, rfl, h⟩
  | succ N ih =>
    obtain ⟨k₁, h₁, hp₁⟩ := h.pollAt period (i * 1000000)
    obtain ⟨k', h', hp'⟩ := ih hp₁ (i + 1)
    refine ⟨k', by rw [Daemon.pollLoop, h₁]; exact h', ?_⟩
    rwa [Nat.add_right_comm, Nat.add_assoc] at hp'

theorem Polling.snapshot (h : Polling n p k) :
    k.dispatcher.metrics.snapshot.polls = p ∧
      k.dispatcher.metrics.snapshot.invoked + k.dispatcher.metrics.snapshot.skipped ≤ n := by
  have hcons := h.conserved
  simp only [DispatchMetrics.snapshot]
  exact ⟨h.polls, by omega⟩

/-- the report is the kernel's metrics, whether or not it shuts down cleanly -/
theorem finish_eq (opts : DaemonOptions) (k : Kernel) :
    finish opts k = .finished k.dispatcher.metrics.snapshot opts.statsJson := by
  unfold finish
  split
  · rename_i k' hk
    obtain ⟨-, rfl⟩ := Kernel.shutdown_ok hk
    rfl
  · rfl

theorem iterations_of_limit {opts : DaemonOptions} {signals : List Signal}
    (hpos : 0 < opts.maxIterations) (hsig : ∀ s ∈ signals, s.stops = false) :
    iterations opts signals = some opts.maxIterations := by
  have hnone : signals.findIdx? Signal.stops = none := List.findIdx?_eq_none_iff.2 hsig
  simp [iterations, hnone, Nat.pos_iff_ne_zero.1 hpos]

end Daemon

/-! ## the daemon -/

namespace Daemon

variable {c : KernelConfig} {k₀ : Kernel}

/-- **A start-up stops at the first refused startup task**: task `i`, when every task before
it fits an entry and found a slot, and task `i` is over the entry's capacity or finds all the
configured slots taken -/
theorem startKernel_refused (h : Kernel.new c = .ok k₀) {i : Nat} {t : StartupTask}
    (ht : c.startupTasks[i]? = some t)
    (hfit : ∀ u ∈ c.startupTasks.take i, u.args.length ≤ argCapacity) (hle : i ≤ c.queueCapacity)
    (hstop : argCapacity < t.args.length ∨ i = c.queueCapacity) :
    startKernel c =
      .error (.failed s!"Failed to queue startup task #{i}" [(t.refusal c.queueCapacity).message]) := by
  obtain ⟨k₁, hp, hstart⟩ := startKernel_of_new h
  obtain ⟨hi, rfl⟩ := List.getElem?_eq_some_iff.1 ht
  -- the tasks before `i`, task `i`, and those after it
  have hsplit : c.startupTasks.take i ++ c.startupTasks[i] :: c.startupTasks.drop (i + 1) =
      c.startupTasks := by
    rw [← List.drop_eq_getElem_cons hi, List.take_append_drop]
  have hlen : (c.startupTasks.take i).length = i := by
    rw [List.length_take]
    omega
  have hs := scheduleAll_stops hp.now _ c.startupTasks[i] (c.startupTasks.drop (i + 1)) 0 hfit
    (by rw [hlen, hp.freeSlots]; exact hle) (by rw [hlen, hp.freeSlots]; exact hstop)
  rw [hsplit, hlen, Nat.zero_add, hp.queue_capacity] at hs
  rw [hstart, hs]
  rfl

/-- **A start-up that refuses nothing queues every startup task and starts**: the kernel runs
with its clock at 0 and the tasks pending in order, nothing popped yet -/
theorem startKernel_queues (h : Kernel.new c = .ok k₀)
    (hfit : ∀ t ∈ c.startupTasks, t.args.length ≤ argCapacity)
    (hroom : c.startupTasks.length ≤ c.queueCapacity) :
    ∃ k, startKernel c = .ok k ∧ k.dispatcher.time.now = 0 ∧
      k.dispatcher.queue.pending = c.startupTasks.map StartupTask.entry ∧
      Polling c.startupTasks.length 0 k := by
  obtain ⟨k₁, hp, hstart⟩ := startKernel_of_new h
  obtain ⟨q, hs, hq⟩ :=
    scheduleAll_queues hp.now c.startupTasks 0 hfit (by rw [hp.freeSlots]; exact hroom)
  have hpend : q.pending = c.startupTasks.map StartupTask.entry := by
    rw [hq, hp.pending, List.nil_append]
  obtain ⟨k, hk, hrun, hdisp⟩ := Kernel.start_of_ready (k := k₁.withQueue q) hp.ready hp.tick
  have hstarted : startKernel c = .ok k := by
    rw [hstart, hs]
    simp only [bind, Except.bind, orFail, hk]
  -- starting changes the lifecycle and the tick, not the dispatcher
  refine ⟨k, hstarted, ?_, ?_, ⟨hrun, ?_, ?_, ?_, ?_⟩⟩ <;> rw [hdisp]
  · exact hp.now
  · exact hpend
  · exact hp.quiet
  · exact hp.settled
  · exact hp.polls
  · have hpopped := hp.popped
    simp only [Kernel.withQueue_metrics, Kernel.withQueue_queue, hpend, List.length_map]
    omega

/-- one slot and two tasks, the second over the entry's capacity: it is refused for its
payload, which is checked before the queue -/
example : startKernel
      { queueCapacity := 1
        startupTasks := [⟨1, 4, ⟨0, 0⟩, []⟩, ⟨0, 2, ⟨0, 0⟩, List.replicate 51 0⟩] } =
    .error (.failed "Failed to queue startup task #1"
      ["argument too large: 51 bytes requested, 50 available"]) := by
  rfl

variable {opts : DaemonOptions} {input : DaemonInput}

/-- the kernel with callbacks that take the times the input gives -/
def withTimings (k : Kernel) (timings : List Duration) : Kernel :=
  { k with dispatcher := { k.dispatcher with timings } }

theorem Polling.withTimings {n p : Nat} {k : Kernel} (h : Polling n p k) (timings : List Duration) :
    Polling n p (withTimings k timings) :=
  ⟨h.running, h.quiet, h.settled, h.polls, h.conserved⟩

theorem prepare_eq {c₀ : KernelConfig} (h : loadConfig opts input = .ok c₀) :
    prepare opts input =
      (startKernel (effective opts c₀)).map fun k => (effective opts c₀, withTimings k input.timings) := by
  rcases hs : startKernel (effective opts c₀) with e | k <;>
    simp [prepare, h, hs, bind, Except.bind, pure, Except.pure, Except.map, withTimings]

theorem session_of_prepare_error {e : DaemonExit} (h : prepare opts input = .error e) :
    session opts input = .error e := by
  rw [session, h]
  rfl

/-- **With an iteration limit and no signal to stop it, the daemon polls up to the limit**,
then reports metrics that count those polls and no more pops than the tasks queued -/
theorem session_polls {k : Kernel} {n : Nat} (h : prepare opts input = .ok (c, k))
    (hk : Polling n 0 k) (hpos : 0 < opts.maxIterations)
    (hsig : ∀ s ∈ input.signals, s.stops = false) :
    ∃ m, session opts input = .ok (.finished m opts.statsJson) ∧
      m.polls = opts.maxIterations ∧ m.invoked + m.skipped ≤ n := by
  obtain ⟨k', hloop, hk'⟩ := hk.pollLoop c.period opts.maxIterations 0
  rw [Nat.zero_add] at hk'
  refine ⟨k'.dispatcher.metrics.snapshot, ?_, hk'.snapshot⟩
  rw [session, h]
  simp [iterations_of_limit hpos hsig, hloop, bind, Except.bind, pure, Except.pure, finish_eq]

end Daemon

/-- **The daemon's start-up and control loop.**  For every configuration that builds a
kernel: the daemon stops at the first startup task the kernel refuses, naming its index and
the refusal; otherwise it queues every task in order, each due at its delay, while the clock
reads 0, and enters the control loop with the kernel running; with an iteration limit of at
least one and no signal that stops it, it polls exactly that many times and reports as many
polls, and no more entries invoked or skipped than there were startup tasks. -/
theorem daemon_queues_startup_tasks_then_polls (opts : DaemonOptions) (input : DaemonInput)
    (c₀ : KernelConfig) (hload : Daemon.loadConfig opts input = .ok c₀)
    (hbuild : ∃ k₀, Kernel.new (Daemon.effective opts c₀) = .ok k₀) :
    let c := Daemon.effective opts c₀
    (∀ i t, c.startupTasks[i]? = some t →
      (∀ u ∈ c.startupTasks.take i, u.args.length ≤ argCapacity) → i ≤ c.queueCapacity →
      (argCapacity < t.args.length ∨ i = c.queueCapacity) →
      Daemon.session opts input =
        .error (.failed s!"Failed to queue startup task #{i}" [(t.refusal c.queueCapacity).message])) ∧
    ((∀ t ∈ c.startupTasks, t.args.length ≤ argCapacity) → c.startupTasks.length ≤ c.queueCapacity →
      ∃ k, Daemon.prepare opts input = .ok (c, k) ∧ k.state = .running ∧
        k.dispatcher.time.now = 0 ∧ k.dispatcher.queue.pending = c.startupTasks.map StartupTask.entry ∧
        (0 < opts.maxIterations → (∀ s ∈ input.signals, s.stops = false) →
          ∃ m, Daemon.session opts input = .ok (.finished m opts.statsJson) ∧
            m.polls = opts.maxIterations ∧ m.invoked + m.skipped ≤ c.startupTasks.length)) := by
  intro c
  obtain ⟨k₀, hk₀⟩ := hbuild
  have hprep := Daemon.prepare_eq hload
  refine ⟨fun i t ht hfit hle hstop => ?_, fun hfit hroom => ?_⟩
  · apply Daemon.session_of_prepare_error
    rw [hprep, Daemon.startKernel_refused hk₀ ht hfit hle hstop]
    rfl
  · obtain ⟨k, hk, hnow, hpend, hpoll⟩ := Daemon.startKernel_queues hk₀ hfit hroom
    -- the callbacks' times leave the start-up as it was
    have hprep' : Daemon.prepare opts input = .ok (c, Daemon.withTimings k input.timings) := by
      rw [hprep, hk]
      rfl
    exact ⟨_, hprep', hpoll.running, hnow, hpend, fun hpos hsig =>
      Daemon.session_polls hprep' (hpoll.withTimings input.timings) hpos hsig⟩

/-- a configuration file of one slot and two startup tasks: it is read, the kernel is built,
and the daemon stops at the second task, which fits an entry but finds the slot taken -/
theorem daemon_refuses_second_task_for_one_slot :
    let opts : DaemonOptions := { config := some "rover.toml" }
    let input : DaemonInput :=
      { args := ["-c", "rover.toml"],
        files := ⟨fun p => if p = "rover.toml" then .ok
          "[queue]\ncapacity = 1\n\n[[startup_tasks]]\nmodule = 0\nservice = 1\n\n[[startup_tasks]]\nmodule = 1\nservice = 0\n"
          else .error .notFound⟩ }
    let c₀ : KernelConfig :=
      { queueCapacity := 1, startupTasks := [⟨0, 1, ⟨0, 0⟩, []⟩, ⟨1, 0, ⟨0, 0⟩, []⟩] }
    Daemon.loadConfig opts input = .ok c₀ ∧ (∃ k₀, Kernel.new (Daemon.effective opts c₀) = .ok k₀) ∧
      Daemon.session opts input =
        .error (.failed "Failed to queue startup task #1" ["task queue full (capacity 1)"]) := by
  intro opts input c₀
  have hload : Daemon.loadConfig opts input = .ok c₀ := by decide +kernel
  have hbuild : ∃ k₀, Kernel.new (Daemon.effective opts c₀) = .ok k₀ :=
    ⟨{ dispatcher := Dispatcher.new { periodMs := 100 } (TaskQueue.new 1) c₀ }, by decide +kernel⟩
  obtain ⟨hrefused, -⟩ := daemon_queues_startup_tasks_then_polls opts input c₀ hload hbuild
  -- task 0 takes the one slot, so task 1 is refused for the full queue
  have hsession := hrefused 1 ⟨1, 0, ⟨0, 0⟩, []⟩ rfl (by decide) (by decide) (Or.inr rfl)
  refine ⟨hload, hbuild, ?_⟩
  rw [hsession]
  decide +kernel

end RoverKernel
