import Mathlib.Data.List.Chain
import RoverKernel.Kernel
import RoverKernel.Proofs.SharedQueue

/-!
# The kernel's lifecycle

A kernel keeps three components in step: the state machine, the tick and the dispatcher's
queue.  Whatever calls are made on it, from `Kernel.new`, the state moves only along the
arrows `BOOT → READY → RUNNING → STOPPED`, `READY → STOPPED`, `STOPPED → BOOT`, one arrow per
successful lifecycle call, and the tick runs exactly while the state is RUNNING, so starting
never finds the tick already running.  A call that fails changes nothing but the module store
(a registration keeps the module it was handed even when the identifier is refused).  Only
running once can panic, when a module does; the run ends there.

* `KernelCall`, `Kernel.call`   the calls, each answering the error it failed with, if any, or
                                nothing when a module panicked;
* `Kernel.call_error_unchanged` a failing call leaves the lifecycle, the tick, the registry,
                                the queue, the metrics and the event log as they were;
* `Kernel.call_ok_lifecycle`    a successful lifecycle call makes its transition, any other
                                call leaves the state machine alone;
* `Kernel.call_tick_running`    every call keeps the tick running exactly in RUNNING;
* `KernelRun.Consistent`        the state machine agrees with the states passed through;
* `Kernel.schedule_eq`          scheduling checks the payload, then pushes an entry due at
                                `min (now + ⌊delay⌋ ms) (2 ^ 64 - 1)`;
* `kernel_lifecycle_consistent` all of it, at the end of every run.
-/

namespace RoverKernel

namespace StateMachine

theorem transition_eq_ok {m m' : StateMachine} {t : KernelState} :
    m.transition t = .ok m' ↔
      m.current.canTransitionTo t = true ∧ m' = ⟨t, some m.current, m.count + 1⟩ := by
  unfold transition
  by_cases h : m.current.canTransitionTo t = true
  · simp [h, eq_comm]
  · simp [h]

theorem transition_eq_error {m : StateMachine} {t : KernelState}
    (h : m.current.canTransitionTo t = false) :
    m.transition t = .error (.invalidStateTransition m.current.name t.name) := by
  simp [transition, h]

end StateMachine

/-- a call on the kernel -/
inductive KernelCall where
  | init
  /-- a module handed over and registered under `id` -/
  | register (id : Nat) (m : Module)
  | start
  | runOnce
  | schedule (module service : Nat) (delay : Duration) (args : List UInt8)
  | shutdown
  | restart
  /-- a producer's push through the kernel's queue handle -/
  | push (e : TaskEntry)
  /-- the tick advancing the clock by one period -/
  | tick

/-- the state a lifecycle call moves to; the other calls have none -/
def KernelCall.target? : KernelCall → Option KernelState
  | .init => some .ready
  | .start => some .running
  | .shutdown => some .stopped
  | .restart => some .boot
  | _ => none

namespace Kernel

/-- the kernel with another queue -/
def withQueue (k : Kernel) (q : TaskQueue) : Kernel :=
  { k with dispatcher := { k.dispatcher with queue := q } }

/-- a call that may fail: the error, if any, and the kernel after it, which a failure leaves
as it was -/
def attempt (k : Kernel) : KernelResult Kernel → Option KernelError × Kernel
  | .ok k' => (none, k')
  | .error e => (some e, k)

/-- a call; `none` if a module panicked during it -/
def call (k : Kernel) : KernelCall → Option (Option KernelError × Kernel)
  | .init => some (k.attempt k.init)
  | .register id m =>
    let (pos, k') := k.addModule m
    some (k'.attempt (k'.register id pos))
  | .start => some (k.attempt k.start)
  | .runOnce => k.runOnce.map fun r => k.attempt (r.map Prod.snd)
  | .schedule module service delay args =>
    some (k.attempt ((k.schedule module service delay args).map Prod.snd))
  | .shutdown => some (k.attempt k.shutdown)
  | .restart => some (k.attempt k.restart)
  | .push e => some (k.attempt ((k.dispatcher.queue.pushTask e).map fun p => k.withQueue p.2))
  | .tick => some (none, { k with dispatcher := { k.dispatcher with time := k.dispatcher.time.tick.2 } })

theorem attempt_eq_none {k k' : Kernel} {r : KernelResult Kernel} (h : k.attempt r = (none, k')) :
    r = .ok k' := by
  cases r with
  | ok k'' =>
    cases h
    rfl
  | error e => cases h

theorem attempt_eq_some {k k' : Kernel} {r : KernelResult Kernel} {e : KernelError}
    (h : k.attempt r = (some e, k')) : k' = k := by
  cases r with
  | ok k'' => cases h
  | error e =>
    cases h
    rfl

theorem attempt_frame {k k' : Kernel} {r : KernelResult Kernel} {o : Option KernelError}
    (hr : ∀ k', r = .ok k' → k'.lifecycle = k.lifecycle ∧ k'.tick = k.tick)
    (h : k.attempt r = (o, k')) : k'.lifecycle = k.lifecycle ∧ k'.tick = k.tick := by
  cases r with
  | ok k'' =>
    cases h
    exact hr _ rfl
  | error e =>
    cases h
    exact ⟨rfl, rfl⟩

/-! ## one lemma per call -/

variable {k k' : Kernel}

theorem init_ok (h : k.init = .ok k') :
    k.state.canTransitionTo .ready = true ∧
      k' = { k with lifecycle := ⟨.ready, some k.state, k.lifecycle.count + 1⟩ } := by
  simp only [init, bind, Except.bind] at h
  split at h
  · cases h
  · rename_i m hm
    cases h
    obtain ⟨hcan, rfl⟩ := StateMachine.transition_eq_ok.1 hm
    exact ⟨hcan, rfl⟩

theorem start_ok (h : k.start = .ok k') :
    k.state.canTransitionTo .running = true ∧
      k' = { k with tick := ⟨true⟩, lifecycle := ⟨.running, some k.state, k.lifecycle.count + 1⟩ } := by
  unfold start at h
  by_cases hcan : k.state.canTransitionTo .running = true
  · simp only [hcan, Bool.not_true, Bool.false_eq_true, if_false, bind, Except.bind, pure,
      Except.pure] at h
    -- the tick starts, then the transition is made
    split at h
    · cases h
    · rename_i t ht
      split at h
      · cases h
      · rename_i m hm
        cases h
        obtain ⟨-, rfl⟩ := StateMachine.transition_eq_ok.1 hm
        have htick : t = ⟨true⟩ := by
          unfold TickSource.start at ht
          split at ht
          · cases ht
          · cases ht
            rfl
        exact ⟨hcan, by rw [htick]; rfl⟩
  · simp [hcan, bind, Except.bind, throw, throwThe, MonadExceptOf.throw] at h

theorem shutdown_ok (h : k.shutdown = .ok k') :
    k.state.canTransitionTo .stopped = true ∧
      k' = { k with
        lifecycle := ⟨.stopped, some k.state, k.lifecycle.count + 1⟩
        tick := k.tick.stop
        dispatcher := k.dispatcher.resetQueue } := by
  simp only [shutdown, bind, Except.bind] at h
  split at h
  · cases h
  · rename_i m hm
    cases h
    obtain ⟨hcan, rfl⟩ := StateMachine.transition_eq_ok.1 hm
    exact ⟨hcan, rfl⟩

theorem restart_ok (h : k.restart = .ok k') :
    k.state.canTransitionTo .boot = true ∧
      k' = { k with
        lifecycle := ⟨.boot, some k.state, k.lifecycle.count + 1⟩
        dispatcher := k.dispatcher.resetStats } := by
  simp only [restart, bind, Except.bind] at h
  split at h
  · cases h
  · rename_i m hm
    cases h
    obtain ⟨hcan, rfl⟩ := StateMachine.transition_eq_ok.1 hm
    exact ⟨hcan, rfl⟩

theorem register_ok {id pos : Nat} (h : k.register id pos = .ok k') :
    ∃ d, k.dispatcher.register id pos = .ok d ∧ k' = { k with dispatcher := d } := by
  unfold register at h
  split at h
  all_goals first
    | (simp only [bind, Except.bind] at h
       split at h
       · cases h
       · rename_i d hd
         cases h
         exact ⟨d, hd, rfl⟩)
    | cases h

theorem register_after_start (hb : k.state ≠ .boot) (hr : k.state ≠ .ready) (id pos : Nat) :
    k.register id pos =
      .error (.config ("modules must be registered before start (state " ++ k.state.name ++ ")")) := by
  unfold register
  cases hs : k.state with
  | boot => exact absurd hs hb
  | ready => exact absurd hs hr
  | running => rfl
  | stopped => rfl

/-- running once that returns has polled the dispatcher, and changed nothing else -/
theorem runOnce_ok {r : DispatchReport} (h : k.runOnce = some (.ok (r, k'))) :
    k.state.isRunning = true ∧ ∃ d, k.dispatcher.poll = some (d, r) ∧ k' = { k with dispatcher := d } := by
  unfold runOnce at h
  split at h
  · rename_i hrun
    rw [Option.map_eq_some_iff] at h
    obtain ⟨⟨d, r'⟩, hp, heq⟩ := h
    cases heq
    exact ⟨hrun, d, hp, rfl⟩
  · cases h

theorem runOnce_not_running (h : k.state.isRunning = false) :
    k.runOnce = some (.error (.notRunning k.state.name)) := by
  simp [runOnce, h]

theorem shutdown_refused (h : k.state = .boot ∨ k.state = .stopped) :
    k.shutdown = .error (.invalidStateTransition k.state.name KernelState.stopped.name) := by
  have hcan : k.lifecycle.current.canTransitionTo .stopped = false := by
    rcases h with h | h <;> simp [state] at h <;> simp [h, KernelState.canTransitionTo]
  simp [shutdown, StateMachine.transition_eq_error hcan, bind, Except.bind, state]

theorem dueAfter_eq (now : Millis) (delay : Duration) :
    dueAfter now delay = min (now + delay.toMillis) u64Max := by
  unfold dueAfter Duration.millisSat
  rcases Nat.le_total delay.toMillis u64Max with h | h
  · rw [Nat.min_eq_left h]
  · -- the delay alone reaches the end of time
    rw [Nat.min_eq_right h, Nat.min_eq_right (Nat.le_add_left _ _),
      Nat.min_eq_right (Nat.le_trans h (Nat.le_add_left _ _))]

theorem schedule_eq (k : Kernel) (module service : Nat) (delay : Duration) (args : List UInt8) :
    k.schedule module service delay args =
      if argCapacity < args.length then .error (.argumentTooLarge args.length argCapacity)
      else (k.dispatcher.queue.pushTask
          ⟨module, service, min (k.dispatcher.time.now + delay.toMillis) u64Max, args⟩).map
        fun p => (p.1, k.withQueue p.2) := by
  simp only [schedule, TaskEntry.setArgs, TaskEntry.scheduled, dueAfter_eq]
  by_cases hc : argCapacity < args.length
  · simp [hc, bind, Except.bind]
  · simp only [hc, if_false, bind, Except.bind]
    cases k.dispatcher.queue.pushTask _ <;> rfl

/-- while the tick runs exactly in RUNNING, starting fails only because the kernel is not
READY, never because the tick already runs -/
theorem start_ne_tickSourceRunning (htick : k.tick.running = k.state.isRunning) :
    k.start ≠ .error .tickSourceRunning := by
  unfold start
  by_cases hcan : k.state.canTransitionTo .running = true
  · -- only READY moves to RUNNING, and the tick is stopped there
    have hready : k.state = .ready := by
      cases hs : k.state <;> simp_all [KernelState.canTransitionTo]
    have hstopped : k.tick.running = false := by rw [htick, hready]; rfl
    have hm : k.lifecycle.current = .ready := hready
    simp [Kernel.state, hm, TickSource.start, hstopped, StateMachine.transition, bind,
      Except.bind, KernelState.canTransitionTo, pure, Except.pure]
  · simp [hcan, bind, Except.bind, throw, throwThe, MonadExceptOf.throw]

/-- scheduling, in every state: a payload over the entry's capacity is refused first; then a
full queue refuses the entry; otherwise the entry joins the back of the queue, due
`⌊delay⌋` milliseconds from now or at the end of time, and nothing else changes -/
theorem schedule_outcome (k : Kernel) (module service : Nat) (delay : Duration)
    (args : List UInt8) :
    (argCapacity < args.length →
        k.schedule module service delay args = .error (.argumentTooLarge args.length argCapacity)) ∧
      (args.length ≤ argCapacity → k.dispatcher.queue.freeSlots = 0 →
        k.schedule module service delay args = .error (.queueFull k.dispatcher.queue.capacity)) ∧
      (args.length ≤ argCapacity → 0 < k.dispatcher.queue.freeSlots →
        ∃ i q, k.schedule module service delay args = .ok (i, k.withQueue q) ∧
          q.pending = k.dispatcher.queue.pending ++
            [⟨module, service, min (k.dispatcher.time.now + delay.toMillis) u64Max, args⟩]) := by
  rw [schedule_eq]
  refine ⟨fun h => by rw [if_pos h], fun h hfull => ?_, fun h hfree => ?_⟩
  · rw [if_neg (Nat.not_lt.2 h), (TaskQueue.pushTask_eq_error_iff _ _).2 hfull]
    rfl
  · rw [if_neg (Nat.not_lt.2 h)]
    obtain ⟨⟨i, q⟩, hp⟩ := (TaskQueue.pushTask_isOk_iff _ _).2 hfree
    obtain ⟨-, hv⟩ := TaskQueue.pushTask_ok hp
    refine ⟨i, q, by rw [hp]; rfl, ?_⟩
    rw [← TaskQueue.view_pending, hv]

theorem shutdown_clears (h : k.shutdown = .ok k') :
    k'.dispatcher.queue.pending = [] ∧ k'.tick.running = false := by
  obtain ⟨-, rfl⟩ := shutdown_ok h
  exact ⟨by simp [Dispatcher.resetQueue, TaskQueue.reset, TaskQueue.pending], rfl⟩

theorem new_ok {c : KernelConfig} (h : Kernel.new c = .ok k) : k.lifecycle = {} ∧ k.tick = {} := by
  simp only [new, bind, Except.bind] at h
  split at h
  · cases h
  · cases h
    exact ⟨rfl, rfl⟩

/-! ## what one call does -/

/-- `k'` has `k`'s lifecycle, tick, registry, queue, metrics and event log -/
structure Unchanged (k k' : Kernel) : Prop where
  lifecycle : k'.lifecycle = k.lifecycle
  tick : k'.tick = k.tick
  registry : k'.dispatcher.registry = k.dispatcher.registry
  queue : k'.dispatcher.queue = k.dispatcher.queue
  metrics : k'.dispatcher.metrics = k.dispatcher.metrics
  log : k'.dispatcher.log = k.dispatcher.log

theorem Unchanged.refl (k : Kernel) : Unchanged k k := ⟨rfl, rfl, rfl, rfl, rfl, rfl⟩

/-- **Only running once panics**: every other call returns -/
theorem call_eq_none {c : KernelCall} (h : k.call c = none) : c = .runOnce := by
  cases c with
  | runOnce => rfl
  | _ => simp [call] at h

/-- a call that fails leaves everything as it was but the module store -/
theorem call_error_unchanged (k : Kernel) (c : KernelCall) {e : KernelError} {k' : Kernel}
    (h : k.call c = some (some e, k')) : Unchanged k k' := by
  cases c with
  | register id m =>
    -- the module handed over stays in the store, and nothing else moves
    simp only [call, addModule, Option.some.injEq] at h
    rw [attempt_eq_some h]
    exact ⟨rfl, rfl, rfl, rfl, rfl, rfl⟩
  | runOnce =>
    rw [call, Option.map_eq_some_iff] at h
    obtain ⟨_, -, hatt⟩ := h
    rw [attempt_eq_some hatt]
    exact Unchanged.refl k
  | tick => simp [call] at h
  | _ =>
    simp only [call, Option.some.injEq] at h
    rw [attempt_eq_some h]
    exact Unchanged.refl k

/-- a successful lifecycle call makes its transition; any other call leaves the state machine
and the tick alone -/
theorem call_ok_lifecycle (k : Kernel) (c : KernelCall) {k' : Kernel} (h : k.call c = some (none, k')) :
    match c.target? with
    | some t => k.state.canTransitionTo t = true ∧ k'.lifecycle = ⟨t, some k.state, k.lifecycle.count + 1⟩
    | none => k'.lifecycle = k.lifecycle ∧ k'.tick = k.tick := by
  cases c <;> simp only [call, KernelCall.target?, Option.some.injEq] at h ⊢
  case init =>
    obtain ⟨hcan, rfl⟩ := init_ok (attempt_eq_none h)
    exact ⟨hcan, rfl⟩
  case start =>
    obtain ⟨hcan, rfl⟩ := start_ok (attempt_eq_none h)
    exact ⟨hcan, rfl⟩
  case shutdown =>
    obtain ⟨hcan, rfl⟩ := shutdown_ok (attempt_eq_none h)
    exact ⟨hcan, rfl⟩
  case restart =>
    obtain ⟨hcan, rfl⟩ := restart_ok (attempt_eq_none h)
    exact ⟨hcan, rfl⟩
  case register id m =>
    obtain ⟨d, -, rfl⟩ := register_ok (attempt_eq_none h)
    exact ⟨rfl, rfl⟩
  case runOnce =>
    -- the poll changes the dispatcher only
    rw [Option.map_eq_some_iff] at h
    obtain ⟨res, hres, hatt⟩ := h
    refine attempt_frame (fun k'' hk => ?_) hatt
    rcases res with _ | ⟨r, k₁⟩
    · cases hk
    · cases hk
      obtain ⟨-, d, -, rfl⟩ := runOnce_ok hres
      exact ⟨rfl, rfl⟩
  case schedule module service delay args =>
    refine attempt_frame (fun k'' hk => ?_) h
    rw [schedule_eq] at hk
    split at hk
    · cases hk
    · cases hp : k.dispatcher.queue.pushTask _ with
      | error _ => rw [hp] at hk; cases hk
      | ok p =>
        rw [hp] at hk
        cases hk
        exact ⟨rfl, rfl⟩
  case push e =>
    refine attempt_frame (fun k'' hk => ?_) h
    cases hp : k.dispatcher.queue.pushTask e with
    | error _ => rw [hp] at hk; cases hk
    | ok p =>
      rw [hp] at hk
      cases hk
      exact ⟨rfl, rfl⟩
  case tick =>
    cases h
    exact ⟨rfl, rfl⟩

/-- every call keeps the tick running exactly in RUNNING: it starts only with the move to
RUNNING and stops with the move out of it -/
theorem call_tick_running (k : Kernel) (htick : k.tick.running = k.state.isRunning)
    {c : KernelCall} {o : Option KernelError} {k' : Kernel} (h : k.call c = some (o, k')) :
    k'.tick.running = k'.state.isRunning := by
  rcases o with _ | e
  · have hl := call_ok_lifecycle k c h
    cases c
    case init =>
      -- only BOOT moves to READY, and the tick stays as it was there
      simp only [call, Option.some.injEq] at h
      obtain ⟨hcan, rfl⟩ := init_ok (attempt_eq_none h)
      cases hs : k.state <;> simp_all [KernelState.canTransitionTo, KernelState.isRunning, state]
    case start =>
      simp only [call, Option.some.injEq] at h
      obtain ⟨-, rfl⟩ := start_ok (attempt_eq_none h)
      rfl
    case shutdown =>
      simp only [call, Option.some.injEq] at h
      obtain ⟨-, rfl⟩ := shutdown_ok (attempt_eq_none h)
      rfl
    case restart =>
      -- only STOPPED moves to BOOT, and the tick stays as it was there
      simp only [call, Option.some.injEq] at h
      obtain ⟨hcan, rfl⟩ := restart_ok (attempt_eq_none h)
      cases hs : k.state <;> simp_all [KernelState.canTransitionTo, KernelState.isRunning, state]
    all_goals
      obtain ⟨hl, ht⟩ := hl
      rw [ht, state, hl]
      exact htick
  · obtain ⟨hl, ht, -⟩ := call_error_unchanged k c h
    rw [ht, state, hl]
    exact htick

end Kernel

/-- a kernel with the lifecycle states it has been in: its first, then the one each
successful lifecycle call moved it to -/
structure KernelRun where
  kernel : Kernel
  visited : List KernelState

namespace KernelRun

def start (k : Kernel) : KernelRun := ⟨k, [k.state]⟩

/-- a call; `none` if a module panicked during it -/
def step (s : KernelRun) (c : KernelCall) : Option KernelRun :=
  (s.kernel.call c).map fun res =>
    match res.1, c.target? with
    | none, some t => ⟨res.2, s.visited ++ [t]⟩
    | _, _ => ⟨res.2, s.visited⟩

/-- the calls made in order; a call during which a module panics ends the run where it was -/
def run (s : KernelRun) : List KernelCall → KernelRun
  | [] => s
  | c :: cs =>
    match s.step c with
    | some s' => s'.run cs
    | none => s

/-- the states passed through start at BOOT and follow the arrows; the state machine is at the
last of them, remembers the one before and counts the moves; the tick runs exactly in
RUNNING -/
structure Consistent (s : KernelRun) : Prop where
  head : s.visited.head? = some .boot
  chain : s.visited.IsChain (fun a b => a.canTransitionTo b = true)
  last : s.visited.getLast? = some s.kernel.state
  count_eq : s.kernel.lifecycle.count + 1 = s.visited.length
  previous_eq : s.kernel.lifecycle.previous = s.visited.dropLast.getLast?
  tick_running : s.kernel.tick.running = s.kernel.state.isRunning

theorem start_consistent {c : KernelConfig} {k : Kernel} (h : Kernel.new c = .ok k) :
    (start k).Consistent := by
  obtain ⟨hl, ht⟩ := Kernel.new_ok h
  have hs : k.state = .boot := by rw [Kernel.state, hl]
  refine ⟨by simp [start, hs], List.IsChain.singleton _, by simp [start], by simp [start, hl],
    by simp [start, hl], ?_⟩
  simp [start, ht, hs, KernelState.isRunning]

variable {s : KernelRun}

theorem Consistent.keep (h : s.Consistent) {k : Kernel} (hl : k.lifecycle = s.kernel.lifecycle)
    (ht : k.tick.running = k.state.isRunning) : (⟨k, s.visited⟩ : KernelRun).Consistent where
  head := h.head
  chain := h.chain
  last := by rw [Kernel.state, hl]; exact h.last
  count_eq := by rw [hl]; exact h.count_eq
  previous_eq := by rw [hl]; exact h.previous_eq
  tick_running := ht

theorem Consistent.move (h : s.Consistent) {k : Kernel} {t : KernelState}
    (hcan : s.kernel.state.canTransitionTo t = true)
    (hl : k.lifecycle = ⟨t, some s.kernel.state, s.kernel.lifecycle.count + 1⟩)
    (ht : k.tick.running = k.state.isRunning) : (⟨k, s.visited ++ [t]⟩ : KernelRun).Consistent where
  head := by rw [List.head?_append, h.head, Option.some_or]
  chain := h.chain.append (List.IsChain.singleton t) (by
    intro x hx y hy
    rw [h.last, Option.mem_some_iff] at hx
    rw [List.head?_cons, Option.mem_some_iff] at hy
    rw [← hx, ← hy]
    exact hcan)
  last := by rw [List.getLast?_concat, Kernel.state, hl]
  count_eq := by rw [hl, List.length_append, List.length_singleton, ← h.count_eq]
  previous_eq := by rw [hl, List.dropLast_concat, h.last]
  tick_running := ht

theorem step_consistent (h : s.Consistent) {c : KernelCall} {s' : KernelRun}
    (hs : s.step c = some s') : s'.Consistent := by
  rw [step, Option.map_eq_some_iff] at hs
  obtain ⟨⟨o, k⟩, hc, rfl⟩ := hs
  have htick := Kernel.call_tick_running s.kernel h.tick_running hc
  rcases o with _ | e
  · -- a call that returns moves the state exactly when it is a lifecycle call
    have hl := Kernel.call_ok_lifecycle s.kernel c hc
    rcases ht : c.target? with _ | t
    · rw [ht] at hl
      dsimp only
      exact h.keep hl.1 htick
    · rw [ht] at hl
      dsimp only
      exact h.move hl.1 hl.2 htick
  · have hu := Kernel.call_error_unchanged s.kernel c hc
    exact h.keep hu.lifecycle htick

theorem run_consistent (h : s.Consistent) (calls : List KernelCall) : (s.run calls).Consistent := by
  induction calls generalizing s with
  | nil => exact h
  | cons c calls ih =>
    -- a call that panics ends the run where it was
    rcases hs : s.step c with _ | s'
    · simp only [run, hs]
      exact h
    · simp only [run, hs]
      exact ih (step_consistent h hs)

end KernelRun

/-- **The kernel's lifecycle stays consistent.**  Start from any kernel `Kernel.new` builds and
make any calls: initialising, registering, starting, running once, scheduling, shutting
down, restarting, pushing through the queue handle, ticking.  The states the kernel has been
in start at BOOT and follow only the arrows `BOOT → READY → RUNNING → STOPPED`,
`READY → STOPPED` and `STOPPED → BOOT`, one arrow per successful lifecycle call; the state
machine is at the last of them, counts the successful lifecycle calls and remembers the state
before the last one.  The tick runs exactly in RUNNING, so starting never fails with
`TickSourceRunning`.  A run ends at a call during which a module panics, and only running
once can panic.  From there, a call that fails changes neither the state, the tick, the
registry, the queue, the metrics nor the event log; shutting down from BOOT or STOPPED is
refused (and so keeps the pending entries); running once outside RUNNING is refused with
`NotRunning` (and so counts no poll); registering outside BOOT and READY is refused as a
configuration error.  Scheduling, in every state, refuses a payload over 50 bytes, then a full
queue, and otherwise pushes the entry due at `min (now + ⌊delay⌋ ms) (2 ^ 64 - 1)`.  A
successful shutdown leaves nothing pending and the tick stopped. -/
theorem kernel_lifecycle_consistent (c : KernelConfig) (k₀ : Kernel) (hnew : Kernel.new c = .ok k₀)
    (calls : List KernelCall) :
    let s := (KernelRun.start k₀).run calls
    let k := s.kernel
    s.visited.head? = some .boot ∧ s.visited.IsChain (fun a b => a.canTransitionTo b = true) ∧
      s.visited.getLast? = some k.state ∧ k.lifecycle.count = s.visited.length - 1 ∧
      k.lifecycle.previous = s.visited.dropLast.getLast? ∧
      k.tick.running = k.state.isRunning ∧ k.start ≠ .error .tickSourceRunning ∧
      (∀ call e k', k.call call = some (some e, k') → Kernel.Unchanged k k') ∧
      (∀ call, k.call call = none → call = .runOnce) ∧
      ((k.state = .boot ∨ k.state = .stopped) →
        k.shutdown = .error (.invalidStateTransition k.state.name KernelState.stopped.name)) ∧
      (k.state.isRunning = false → k.runOnce = some (.error (.notRunning k.state.name))) ∧
      (k.state ≠ .boot → k.state ≠ .ready → ∀ id pos, k.register id pos =
        .error (.config ("modules must be registered before start (state " ++ k.state.name ++ ")"))) ∧
      (∀ module service delay args,
        (argCapacity < args.length →
          k.schedule module service delay args = .error (.argumentTooLarge args.length argCapacity)) ∧
        (args.length ≤ argCapacity → k.dispatcher.queue.freeSlots = 0 →
          k.schedule module service delay args = .error (.queueFull k.dispatcher.queue.capacity)) ∧
        (args.length ≤ argCapacity → 0 < k.dispatcher.queue.freeSlots →
          ∃ i q, k.schedule module service delay args = .ok (i, k.withQueue q) ∧
            q.pending = k.dispatcher.queue.pending ++
              [⟨module, service, min (k.dispatcher.time.now + delay.toMillis) u64Max, args⟩])) ∧
      (∀ k', k.call .shutdown = some (none, k') →
        k'.dispatcher.queue.pending = [] ∧ k'.tick.running = false) := by
  have h := KernelRun.run_consistent (KernelRun.start_consistent hnew) calls
  refine ⟨h.head, h.chain, h.last, Nat.eq_sub_of_add_eq h.count_eq, h.previous_eq, h.tick_running,
    Kernel.start_ne_tickSourceRunning h.tick_running,
    fun call _ _ he => Kernel.call_error_unchanged _ call he, fun _ hc => Kernel.call_eq_none hc,
    Kernel.shutdown_refused, Kernel.runOnce_not_running, Kernel.register_after_start,
    Kernel.schedule_outcome _, fun _ hs => Kernel.shutdown_clears (Kernel.attempt_eq_none (Option.some.inj hs))⟩

/-- the default kernel started, scheduled for an hour later, run, shut down, restarted, and
shut down once more from BOOT -/
theorem kernel_lifecycle_default_run :
    Kernel.new {} = .ok { dispatcher := Dispatcher.new { periodMs := 100 } (TaskQueue.new 50) {} } ∧
      let s := (KernelRun.start { dispatcher := Dispatcher.new { periodMs := 100 } (TaskQueue.new 50) {} }).run
        [.init, .schedule 1 0 (Duration.ofSecs 3600) [7], .start, .runOnce, .shutdown, .restart,
          .shutdown]
      let k := s.kernel
      s.visited.head? = some .boot ∧ s.visited.IsChain (fun a b => a.canTransitionTo b = true) ∧
        s.visited.getLast? = some k.state ∧ k.lifecycle.count = s.visited.length - 1 ∧
        k.lifecycle.previous = s.visited.dropLast.getLast? ∧
        k.tick.running = k.state.isRunning ∧ k.start ≠ .error .tickSourceRunning ∧
        (∀ call e k', k.call call = some (some e, k') → Kernel.Unchanged k k') ∧
        (∀ call, k.call call = none → call = .runOnce) ∧
        ((k.state = .boot ∨ k.state = .stopped) →
          k.shutdown = .error (.invalidStateTransition k.state.name KernelState.stopped.name)) ∧
        (k.state.isRunning = false → k.runOnce = some (.error (.notRunning k.state.name))) ∧
        (k.state ≠ .boot → k.state ≠ .ready → ∀ id pos, k.register id pos =
          .error (.config ("modules must be registered before start (state " ++ k.state.name ++ ")"))) ∧
        (∀ module service delay args,
          (argCapacity < args.length →
            k.schedule module service delay args = .error (.argumentTooLarge args.length argCapacity)) ∧
          (args.length ≤ argCapacity → k.dispatcher.queue.freeSlots = 0 →
            k.schedule module service delay args = .error (.queueFull k.dispatcher.queue.capacity)) ∧
          (args.length ≤ argCapacity → 0 < k.dispatcher.queue.freeSlots →
            ∃ i q, k.schedule module service delay args = .ok (i, k.withQueue q) ∧
              q.pending = k.dispatcher.queue.pending ++
                [⟨module, service, min (k.dispatcher.time.now + delay.toMillis) u64Max, args⟩])) ∧
        (∀ k', k.call .shutdown = some (none, k') →
          k'.dispatcher.queue.pending = [] ∧ k'.tick.running = false) :=
  have hnew : Kernel.new {} =
      .ok { dispatcher := Dispatcher.new { periodMs := 100 } (TaskQueue.new 50) {} } := by
    decide +kernel
  ⟨hnew, kernel_lifecycle_consistent {} _ hnew _⟩

end RoverKernel
