import Mathlib
import RoverKernel.Proofs.Poll
import RoverKernel.Proofs.EventLogHistory

/-!
# The dispatcher's counters and its event log agree

Every entry the dispatcher pops is delivered once, by one of three paths (the module runs,
no module is registered, the payload does not fit its buffer), and each path counts it once
in the metrics and writes one record to the event log.  So over any run, with the log
enabled, the metrics and the log count the same pops, the metrics add up the polls' reports,
and the log lists the records of the last pops in pop order.  Clearing the queue touches none
of this; clearing the statistics starts every count again.

The proof follows a ghost beside the dispatcher: the records of the entries popped since the
statistics were last cleared, each as its delivery describes it (`Dispatcher.recordFor`,
which decides the path from the registry and the module's buffer, apart from the delivery
itself), and the reports of the polls since then.

* `Dispatcher.deliver_counts`   one delivery: one record, one count, no poll;
* `Dispatcher.drain_counts`     the loop of a poll: the records of what it pops
                                (`Dispatcher.drainRecords`), counted as its report says;
* `DispatchRun.Accounted`       the invariant between a dispatcher and its ghost;
* `DispatchRun.step_accounted`  every call keeps it;
* `dispatch_counters_agree`     for every run from a new dispatcher whose log is enabled.
-/

namespace RoverKernel

namespace DispatchReport

@[simp] theorem add_invoked (a b : DispatchReport) : (a + b).invoked = a.invoked + b.invoked :=
  rfl

@[simp] theorem add_skipped (a b : DispatchReport) : (a + b).skipped = a.skipped + b.skipped :=
  rfl

theorem popped_add (a b : DispatchReport) : (a + b).popped = a.popped + b.popped := by
  simp only [popped, add_invoked, add_skipped]
  omega

/-- over many reports, the pops are the invocations and the skips -/
theorem sum_popped (rs : List DispatchReport) :
    (rs.map (·.invoked)).sum + (rs.map (·.skipped)).sum = (rs.map popped).sum := by
  induction rs with
  | nil => rfl
  | cons r rs ih =>
    simp only [List.map_cons, List.sum_cons, popped] at ih ⊢
    omega

end DispatchReport

namespace Dispatcher

/-- what delivering `e` records: no module registered at its identifier, a payload larger
than the module's buffer, or the module invoked -/
def eventFor (d : Dispatcher) (e : TaskEntry) : DispatchEvent :=
  match d.route e with
  | .skip ev => ev
  | .run _ _ _ => .invoked

/-- the record of delivering `e` now -/
def recordFor (d : Dispatcher) (e : TaskEntry) : DispatchRecord :=
  .ofEntry d.time.now e (d.eventFor e)

/-- the records of the entries that `fuel` rounds of the loop pop from `d` and deliver, in pop
order; the entry whose module panics is never recorded -/
def drainRecords : Nat → Dispatcher → List DispatchRecord
  | 0, _ => []
  | fuel + 1, d =>
    match d.takeDueHead with
    | (none, _) => []
    | (some e, d') =>
      match d'.deliver e {} with
      | none => []
      | some p => d'.recordFor e :: drainRecords fuel p.1

/-- a delivery writes the record of its path and counts the entry once, as its report does -/
theorem deliver_counts {d d' : Dispatcher} {e : TaskEntry} {δ : DispatchReport}
    (h : d.deliver e {} = some (d', δ)) :
    d'.log = d.log.map (·.record (d.recordFor e)) ∧
      d'.metrics.invoked = d.metrics.invoked + δ.invoked ∧
      d'.metrics.skipped = d.metrics.skipped + δ.skipped ∧
      d'.metrics.polls = d.metrics.polls := by
  rw [deliver_eq] at h
  unfold recordFor eventFor
  cases hr : d.route e with
  | skip ev =>
    simp only [hr, Option.some.injEq, Prod.ext_iff] at h
    obtain ⟨rfl, rfl⟩ := h
    simp [skip, logEntry, DispatchMetrics.recordSkip]
  | run pos m buf =>
    simp only [hr, Option.map_eq_some_iff, Prod.ext_iff] at h
    obtain ⟨res, -, rfl, rfl⟩ := h
    simp [recordRun, logEntry, DispatchMetrics.recordInvocation]

theorem takeDueHead_log (d : Dispatcher) : d.takeDueHead.2.log = d.log := rfl

theorem takeDueHead_metrics (d : Dispatcher) : d.takeDueHead.2.metrics = d.metrics := rfl

/-- the loop of a poll that returns writes the records of the entries it pops, and counts them
in the metrics as it does in its report -/
theorem drain_counts {fuel : Nat} {d d' : Dispatcher} {r r' : DispatchReport}
    (h : drain fuel d r = some (d', r')) :
    d'.log = d.log.map ((d.drainRecords fuel).foldl EventLog.record) ∧
      d'.metrics.invoked + r.invoked = d.metrics.invoked + r'.invoked ∧
      d'.metrics.skipped + r.skipped = d.metrics.skipped + r'.skipped ∧
      d'.metrics.polls = d.metrics.polls ∧
      r'.popped = r.popped + (d.drainRecords fuel).length := by
  induction fuel generalizing d r with
  | zero =>
    simp only [drain, Option.some.injEq, Prod.ext_iff] at h
    obtain ⟨rfl, rfl⟩ := h
    simp [drainRecords]
  | succ fuel ih =>
    rcases drain_succ_eq_some h with ⟨ht, rfl⟩ | ⟨e, d₁, d₂, δ, ht, hdel, hrest⟩
    · -- nothing due: the take only touched the queue
      have hlog : d'.log = d.log := by rw [← takeDueHead_log d, ht]
      have hmet : d'.metrics = d.metrics := by rw [← takeDueHead_metrics d, ht]
      simp [drainRecords, ht, hlog, hmet]
    · -- one entry popped and delivered, then the remaining rounds
      have hlog : d₁.log = d.log := by rw [← takeDueHead_log d, ht]
      have hmet : d₁.metrics = d.metrics := by rw [← takeDueHead_metrics d, ht]
      have hrec : d.drainRecords (fuel + 1) = d₁.recordFor e :: d₂.drainRecords fuel := by
        simp only [drainRecords, ht, hdel]
      obtain ⟨dlog, dinv, dskip, dpolls⟩ := deliver_counts hdel
      rw [hmet] at dinv dskip dpolls
      obtain ⟨ilog, iinv, iskip, ipolls, ipop⟩ := ih hrest
      have hpop := deliver_popped hdel
      simp only [DispatchReport.add_invoked, DispatchReport.add_skipped] at iinv iskip
      refine ⟨?_, by omega, by omega, by rw [ipolls, dpolls], ?_⟩
      · rw [ilog, dlog, hlog, Option.map_map, hrec]
        rfl
      · rw [ipop, DispatchReport.popped_add, hpop, hrec, List.length_cons]
        omega

/-- `pollOne` is one round of the loop of `poll`, after counting the poll -/
theorem pollOne_eq_drain (d : Dispatcher) :
    d.pollOne = drain 1 (d.withPolls (d.metrics.polls + 1)) {} := by
  rcases ht : d.takeDueHead with ⟨_ | e, d₁⟩
  · rw [pollOne_of_none ht, drain_of_none ht]
  · rw [pollOne_of_some ht, drain_of_some ht]
    cases d₁.deliver e {} with
    | none => rfl
    | some p => simp [drain, Prod.map]

@[simp] theorem withPolls_log (d : Dispatcher) (k : Nat) : (d.withPolls k).log = d.log := rfl

@[simp] theorem withPolls_invoked (d : Dispatcher) (k : Nat) :
    (d.withPolls k).metrics.invoked = d.metrics.invoked := rfl

@[simp] theorem withPolls_skipped (d : Dispatcher) (k : Nat) :
    (d.withPolls k).metrics.skipped = d.metrics.skipped := rfl

theorem register_ok {d d' : Dispatcher} {id pos : Nat} (h : d.register id pos = .ok d') :
    d'.metrics = d.metrics ∧ d'.log = d.log := by
  simp only [register, bind, Except.bind] at h
  split at h
  · cases h
  · cases h
    exact ⟨rfl, rfl⟩

end Dispatcher

/-- a call on a dispatcher -/
inductive DispatchCall where
  /-- a producer's push onto the shared queue -/
  | push (e : TaskEntry)
  /-- a module handed over and registered under `id`; it is stored even if the identifier is
  refused -/
  | register (id : Nat) (m : Module)
  | poll
  | pollOne
  | resetQueue
  | resetStats
  /-- the tick advancing the clock by one period -/
  | tick
  | advanceTo (ms : Millis)

/-- a dispatcher with the ghost of what it did since its statistics were last cleared -/
structure DispatchRun where
  dispatcher : Dispatcher
  /-- records of the entries popped, in pop order -/
  popped : List DispatchRecord
  /-- reports of the polls, `poll` and `pollOne` alike -/
  reports : List DispatchReport

namespace DispatchRun

def start (d : Dispatcher) : DispatchRun := ⟨d, [], []⟩

/-- a poll of `rounds` rounds: it counts itself, then pops and delivers; the ghost takes the
records of what it pops and its report.  `none` if a module panicked -/
def polled (s : DispatchRun) (rounds : Nat) : Option DispatchRun :=
  let d := s.dispatcher.withPolls (s.dispatcher.metrics.polls + 1)
  (Dispatcher.drain rounds d {}).map fun p =>
    ⟨p.1, s.popped ++ d.drainRecords rounds, s.reports ++ [p.2]⟩

/-- a call; `none` if a module panicked during it -/
def step (s : DispatchRun) : DispatchCall → Option DispatchRun
  | .push e =>
    match s.dispatcher.queue.pushTask e with
    | .ok (_, q) => some { s with dispatcher := { s.dispatcher with queue := q } }
    | .error _ => some s
  | .register id m =>
    let (pos, d) := s.dispatcher.addModule m
    match d.register id pos with
    | .ok d' => some { s with dispatcher := d' }
    | .error _ => some { s with dispatcher := d }
  | .poll => s.polled (s.dispatcher.queue.capacity + 1)
  | .pollOne => s.polled 1
  | .resetQueue => some { s with dispatcher := s.dispatcher.resetQueue }
  | .resetStats => some ⟨s.dispatcher.resetStats, [], []⟩
  | .tick => some { s with dispatcher := { s.dispatcher with time := s.dispatcher.time.tick.2 } }
  | .advanceTo ms =>
    some { s with dispatcher := { s.dispatcher with time := s.dispatcher.time.advanceTo ms } }

/-- the calls made one after another; a call that panics ends the run, as the program stops
there, and the run is left as that call found it -/
def run (s : DispatchRun) : List DispatchCall → DispatchRun
  | [] => s
  | call :: calls =>
    match s.step call with
    | some s' => s'.run calls
    | none => s

/-- the step the dispatcher itself takes is the model's own call -/
theorem step_poll (s : DispatchRun) :
    (s.step .poll).map (·.dispatcher) = s.dispatcher.poll.map Prod.fst := by
  simp only [step, polled, Option.map_map]
  rfl

theorem step_pollOne (s : DispatchRun) :
    (s.step .pollOne).map (·.dispatcher) = s.dispatcher.pollOne.map Prod.fst := by
  rw [Dispatcher.pollOne_eq_drain]
  simp only [step, polled, Option.map_map]
  rfl

/-- the log holds the popped records, and the metrics count the pops and polls the reports
show -/
structure Accounted (s : DispatchRun) : Prop where
  log_holds : ∃ l, s.dispatcher.log = some l ∧ l.Holds s.popped
  invoked_eq : s.dispatcher.metrics.invoked = (s.reports.map (·.invoked)).sum
  skipped_eq : s.dispatcher.metrics.skipped = (s.reports.map (·.skipped)).sum
  polls_eq : s.dispatcher.metrics.polls = s.reports.length
  popped_eq : (s.reports.map DispatchReport.popped).sum = s.popped.length

theorem start_accounted (time : TimeBase) (queue : TaskQueue) (c : KernelConfig)
    (timings : List Duration) (h : c.eventLogEnabled = true) :
    (start { Dispatcher.new time queue c with timings }).Accounted where
  log_holds := ⟨EventLog.new c.eventLogCapacity, by simp [start, Dispatcher.new, h],
    EventLog.new_holds _⟩
  invoked_eq := rfl
  skipped_eq := rfl
  polls_eq := rfl
  popped_eq := rfl

variable {s : DispatchRun}

/-- a call that leaves the metrics and the log alone keeps the accounts -/
theorem Accounted.frame (h : s.Accounted) {d : Dispatcher} (hm : d.metrics = s.dispatcher.metrics)
    (hl : d.log = s.dispatcher.log) : (⟨d, s.popped, s.reports⟩ : DispatchRun).Accounted where
  log_holds := by rw [hl]; exact h.log_holds
  invoked_eq := by rw [hm]; exact h.invoked_eq
  skipped_eq := by rw [hm]; exact h.skipped_eq
  polls_eq := by rw [hm]; exact h.polls_eq
  popped_eq := h.popped_eq

theorem Accounted.polled (h : s.Accounted) {rounds : Nat} {s' : DispatchRun}
    (hs : s.polled rounds = some s') : s'.Accounted := by
  obtain ⟨l, hl, hholds⟩ := h.log_holds
  rw [DispatchRun.polled, Option.map_eq_some_iff] at hs
  obtain ⟨⟨d', r⟩, hdrain, rfl⟩ := hs
  obtain ⟨dlog, dinv, dskip, dpolls, dpop⟩ := Dispatcher.drain_counts hdrain
  simp only [Dispatcher.withPolls_log, Dispatcher.withPolls_invoked, Dispatcher.withPolls_skipped,
    Dispatcher.withPolls_polls] at dlog dinv dskip dpolls
  have hsum (f : DispatchReport → Nat) :
      ((s.reports ++ [r]).map f).sum = (s.reports.map f).sum + f r := by
    simp
  constructor
  · exact ⟨_, by rw [dlog, hl]; rfl, hholds.records _⟩
  · rw [hsum, ← h.invoked_eq]
    exact dinv
  · rw [hsum, ← h.skipped_eq]
    exact dskip
  · simp only [List.length_append, List.length_singleton]
    rw [dpolls, h.polls_eq]
  · rw [hsum, h.popped_eq, dpop]
    simp [DispatchReport.popped]

theorem Accounted.resetStats (h : s.Accounted) :
    (⟨s.dispatcher.resetStats, [], []⟩ : DispatchRun).Accounted where
  log_holds := by
    obtain ⟨l, hl, -⟩ := h.log_holds
    exact ⟨l.reset, by simp [Dispatcher.resetStats, hl], EventLog.reset_holds l⟩
  invoked_eq := rfl
  skipped_eq := rfl
  polls_eq := rfl
  popped_eq := rfl

theorem step_accounted (h : s.Accounted) {call : DispatchCall} {s' : DispatchRun}
    (hs : s.step call = some s') : s'.Accounted := by
  cases call with
  | push e =>
    simp only [step] at hs
    split at hs
    · cases hs
      exact h.frame rfl rfl
    · cases hs
      exact h
  | register id m =>
    simp only [step, Dispatcher.addModule] at hs
    split at hs
    · rename_i d' hreg
      cases hs
      obtain ⟨hm, hl⟩ := Dispatcher.register_ok hreg
      exact h.frame hm hl
    · cases hs
      exact h.frame rfl rfl
  | poll => exact h.polled hs
  | pollOne => exact h.polled hs
  | resetQueue =>
    cases hs
    exact h.frame rfl rfl
  | resetStats =>
    cases hs
    exact h.resetStats
  | tick =>
    cases hs
    exact h.frame rfl rfl
  | advanceTo ms =>
    cases hs
    exact h.frame rfl rfl

theorem run_accounted (h : s.Accounted) (calls : List DispatchCall) : (s.run calls).Accounted := by
  induction calls generalizing s with
  | nil => exact h
  | cons call calls ih =>
    -- a call that panics ends the run where it was
    rcases hs : s.step call with _ | s'
    · simp only [run, hs]
      exact h
    · simp only [run, hs]
      exact ih (step_accounted h hs)

end DispatchRun

/-- **The dispatcher's counters and its event log agree.**  Start from a new dispatcher whose
event log is enabled, over any clock and queue, whatever time its callbacks take, and make any
calls: pushes, registrations, polls of either kind, clock ticks, and clearings of the queue or
of the statistics, up to a call in which a module panics, where the program stops.  Then,
counting since the statistics were last cleared: the invoked and skipped counts add up to the
log's total, which is the number of entries popped; the invoked and skipped counts are the
sums of the polls' reports, and the poll count is the number of polls; and the log lists, in
pop order, the records of the last `min total capacity` entries popped.  Clearing the queue
changes none of the counters. -/
theorem dispatch_counters_agree (time : TimeBase) (queue : TaskQueue) (c : KernelConfig)
    (timings : List Duration) (hlog : c.eventLogEnabled = true) (calls : List DispatchCall) :
    let s := (DispatchRun.start { Dispatcher.new time queue c with timings }).run calls
    ∃ l, s.dispatcher.log = some l ∧
      s.dispatcher.metrics.invoked + s.dispatcher.metrics.skipped = l.total ∧
      l.total = s.popped.length ∧
      s.dispatcher.metrics.invoked = (s.reports.map (·.invoked)).sum ∧
      s.dispatcher.metrics.skipped = (s.reports.map (·.skipped)).sum ∧
      s.dispatcher.metrics.polls = s.reports.length ∧
      l.chronological = s.popped.drop (s.popped.length - min l.total l.capacity) ∧
      s.dispatcher.resetQueue.metrics = s.dispatcher.metrics ∧
      s.dispatcher.resetQueue.log = s.dispatcher.log := by
  intro s
  have h : s.Accounted :=
    DispatchRun.run_accounted (DispatchRun.start_accounted time queue c timings hlog) calls
  obtain ⟨l, hl, hholds⟩ := h.log_holds
  refine ⟨l, hl, ?_, hholds.total_eq, h.invoked_eq, h.skipped_eq, h.polls_eq, ?_, rfl, rfl⟩
  · rw [h.invoked_eq, h.skipped_eq, DispatchReport.sum_popped, h.popped_eq, hholds.total_eq]
  · rw [hholds.chronological_eq, hholds.len_eq, hholds.total_eq]

/-- two entries for an unregistered module, one popped before the statistics are cleared,
the other after -/
theorem dispatch_counters_agree_after_reset :
    ({} : KernelConfig).eventLogEnabled = true ∧
      let s := (DispatchRun.start
          { Dispatcher.new { periodMs := 5 } (TaskQueue.new 2) {} with timings := [.ofMicros 700] }).run
        [.push (TaskEntry.new 3 0), .poll, .resetStats, .push (TaskEntry.new 4 0), .pollOne]
      ∃ l, s.dispatcher.log = some l ∧
        s.dispatcher.metrics.invoked + s.dispatcher.metrics.skipped = l.total ∧
        l.total = s.popped.length ∧
        s.dispatcher.metrics.invoked = (s.reports.map (·.invoked)).sum ∧
        s.dispatcher.metrics.skipped = (s.reports.map (·.skipped)).sum ∧
        s.dispatcher.metrics.polls = s.reports.length ∧
        l.chronological = s.popped.drop (s.popped.length - min l.total l.capacity) ∧
        s.dispatcher.resetQueue.metrics = s.dispatcher.metrics ∧
        s.dispatcher.resetQueue.log = s.dispatcher.log :=
  ⟨rfl, dispatch_counters_agree _ _ _ _ rfl _⟩

end RoverKernel
