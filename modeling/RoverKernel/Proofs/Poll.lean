import RoverKernel.Proofs.SharedQueue

/-!
# A poll is `pollOne` until idle

`Dispatcher.poll` counts one poll and then repeats take-and-deliver until a take hands over
nothing; `Dispatcher.pollOne` counts one poll and takes and delivers at most once.  Calling
`pollOne` until a call pops nothing has the same effect as one `poll`, on the queue (the
compaction of a drained queue included), the modules, the event log and every counter but
the number of polls.  A module that panics ends either at the same call, with no result.

* `TaskQueue.Grows`        a queue with entries pushed behind: same capacity, same head.  A
                           delivery only grows the queue, whatever the module pushes while it
                           runs (`deliver_grows`);
* `Dispatcher.Route`, `Dispatcher.deliver_eq`   what a delivery can do: drop the entry, or
                           run its module, which may panic;
* `Dispatcher.drain_succ_eq_some`   what a round of a loop that returns did;
* `Dispatcher.withPolls`   the dispatcher with another poll count; takes and deliveries
                           neither read nor change it (`takeDueHead_withPolls`,
                           `deliver_withPolls`);
* `Dispatcher.pollOne_idle`, `Dispatcher.pollOne_busy`   a call pops nothing exactly when its
                           take hands over nothing;
* `PollsUntilIdle d res n`   `n` calls of `pollOne` from `d`, the last the only one popping
                           nothing or the one whose module panics, end in `res`, the reports
                           adding up;
* `PollsUntilIdle.drain`   such calls are what the loop of `poll` does, given the rounds;
* `PollsUntilIdle.length_le`, `exists_pollsUntilIdle`   every pop moves the head one slot
                           towards the capacity and pushes never move it back, so the calls
                           end, within `capacity - head + 1` of them;
* `poll_eq_pollOne_until_idle`   the two agree but for the poll count.
-/

namespace RoverKernel

/-! ## queues that only grow -/

/-- `q'` is `q` with entries pushed behind the pending ones: nothing popped, nothing rewound -/
def TaskQueue.Grows (q q' : TaskQueue) : Prop :=
  q'.capacity = q.capacity ∧ q'.head = q.head ∧ q.pending <+: q'.pending

namespace TaskQueue.Grows

theorem refl (q : TaskQueue) : q.Grows q := ⟨rfl, rfl, List.prefix_refl _⟩

theorem trans {q₁ q₂ q₃ : TaskQueue} (h₁ : q₁.Grows q₂) (h₂ : q₂.Grows q₃) : q₁.Grows q₃ :=
  ⟨h₂.1.trans h₁.1, h₂.2.1.trans h₁.2.1, h₁.2.2.trans h₂.2.2⟩

end TaskQueue.Grows

theorem TaskQueue.pushTask_grows {q q' : TaskQueue} {e : TaskEntry} {i : Nat}
    (h : q.pushTask e = .ok (i, q')) : q.Grows q' := by
  obtain ⟨-, hv⟩ := pushTask_ok h
  have hcap : q'.capacity = q.capacity := by rw [← view_capacity, hv]
  have htail : q'.tail = q.tail + 1 := by rw [← view_used, hv]
  have hpend : q'.pending = q.pending ++ [e] := by rw [← view_pending, hv]
  refine ⟨hcap, ?_, ⟨[e], hpend.symm⟩⟩
  -- one more entry and one more slot used: the head stays
  rw [head_eq q', head_eq q, htail, hpend, List.length_append, List.length_singleton]
  omega

theorem TaskQueue.pushBuilt_grows (q : TaskQueue) (b : KernelResult TaskEntry) :
    q.Grows (q.pushBuilt b).2 := by
  unfold pushBuilt
  cases b with
  | error _ => exact Grows.refl q
  | ok e =>
    rcases hp : q.pushTask e with _ | ⟨i, q'⟩
    · simp only [hp]
      exact Grows.refl q
    · simp only [hp]
      exact pushTask_grows hp

/-- the recorder's chain rules only push -/
theorem Recorder.invoke_grows (r : Recorder) (q : TaskQueue) : q.Grows (r.invoke q).2 := by
  -- the rules fire one after another, each pushing onto what the previous left
  have fold : ∀ (rules : List ChainRule)
      (f : List PushResult × TaskQueue → ChainRule → List PushResult × TaskQueue)
      (x : List PushResult × TaskQueue),
      (∀ (y : List PushResult × TaskQueue) (rule : ChainRule), y.2.Grows (f y rule).2) →
        x.2.Grows (rules.foldl f x).2 := by
    intro rules
    induction rules with
    | nil => intro f x _; exact TaskQueue.Grows.refl x.2
    | cons rule rules ih =>
      intro f x hf
      exact (hf x rule).trans (ih f (f x rule) hf)
  refine fold _ _ ([], q) ?_
  intro y rule
  exact TaskQueue.pushBuilt_grows y.2 _

theorem Module.invoke_recorder (r : Recorder) (now : Millis) (q : TaskQueue) :
    (Module.recorder r).invoke now q = some (.recorder (r.invoke q).1, (r.invoke q).2) := rfl

theorem Module.invoke_radio (r : Radio) (now : Millis) (q : TaskQueue) :
    (Module.radio r).invoke now q = some (.radio r.invoke, q) := rfl

theorem Module.invoke_engines (e : Engines) (now : Millis) (q : TaskQueue) :
    (Module.engines e).invoke now q = (e.invoke now).map fun e' => (.engines e', q) := rfl

/-- a module that returns has only pushed -/
theorem Module.invoke_grows {m : Module} {now : Millis} {q : TaskQueue} {res : Module × TaskQueue}
    (h : m.invoke now q = some res) : q.Grows res.2 := by
  cases m with
  | recorder r =>
    rw [invoke_recorder, Option.some.injEq] at h
    rw [← h]
    exact Recorder.invoke_grows r q
  | radio r =>
    rw [invoke_radio, Option.some.injEq] at h
    rw [← h]
    exact TaskQueue.Grows.refl q
  | engines e =>
    rw [invoke_engines, Option.map_eq_some_iff] at h
    obtain ⟨e', -, rfl⟩ := h
    exact TaskQueue.Grows.refl q

/-! ## reports -/

instance : Add DispatchReport := ⟨fun a b => ⟨a.invoked + b.invoked, a.skipped + b.skipped⟩⟩

namespace DispatchReport

theorem add_def (a b : DispatchReport) : a + b = ⟨a.invoked + b.invoked, a.skipped + b.skipped⟩ :=
  rfl

@[simp] theorem empty_add (a : DispatchReport) : ({} : DispatchReport) + a = a := by
  simp [add_def]

theorem add_assoc (a b c : DispatchReport) : a + b + c = a + (b + c) := by
  simp [add_def, Nat.add_assoc]

end DispatchReport

/-! ## what a take and a delivery touch -/

namespace Dispatcher

/-- the dispatcher with its poll count set to `k` -/
def withPolls (d : Dispatcher) (k : Nat) : Dispatcher :=
  { d with metrics := { d.metrics with polls := k } }

@[simp] theorem withPolls_withPolls (d : Dispatcher) (j k : Nat) :
    (d.withPolls j).withPolls k = d.withPolls k := rfl

@[simp] theorem withPolls_queue (d : Dispatcher) (k : Nat) : (d.withPolls k).queue = d.queue := rfl

@[simp] theorem withPolls_polls (d : Dispatcher) (k : Nat) : (d.withPolls k).metrics.polls = k :=
  rfl

/-- counting a poll is setting the count one higher -/
theorem recordPoll_eq (d : Dispatcher) :
    { d with metrics := d.metrics.recordPoll } = d.withPolls (d.metrics.polls + 1) := rfl

theorem takeDueHead_withPolls (d : Dispatcher) (k : Nat) :
    (d.withPolls k).takeDueHead = Prod.map id (·.withPolls k) d.takeDueHead := by
  simp only [takeDueHead, withPolls]
  rfl

/-- a take changes the queue and nothing else -/
theorem takeDueHead_eq (d : Dispatcher) :
    d.takeDueHead = ((d.queue.takeDueHead d.time.now).1,
      { d with queue := (d.queue.takeDueHead d.time.now).2 }) := rfl

/-- the path a delivery takes, decided before the module runs: the entry is skipped with an
event, or the module stored at `pos` runs on the buffer `buf` loaded with the entry -/
inductive Route where
  | skip (ev : DispatchEvent)
  | run (pos : Nat) (m : Module) (buf : ServiceBuffer)

def route (d : Dispatcher) (e : TaskEntry) : Route :=
  match d.registry.lookup e.module with
  | .error _ => .skip .skippedUnknownModule
  | .ok pos =>
    match d.modules[pos]? with
    | none => .skip .skippedUnknownModule
    | some m =>
      match m.buffer.load e.service e.args with
      | .error _ => .skip .skippedPayloadTooLarge
      | .ok buf => .run pos m buf

/-- **What a delivery does**: a skip records the entry and counts it; a run of the module
records it and counts it if the module returns, and panics if it panics -/
theorem deliver_eq (d : Dispatcher) (e : TaskEntry) (r : DispatchReport) :
    d.deliver e r =
      match d.route e with
      | .skip ev => some (d.skip d.time.now e ev r)
      | .run pos m buf => ((m.withBuffer buf).invoke d.time.now d.queue).map fun res =>
          (d.recordRun d.time.now e pos res.1 res.2, { r with invoked := r.invoked + 1 }) := by
  unfold deliver route
  cases d.registry.lookup e.module with
  | error _ => rfl
  | ok pos =>
    dsimp only
    cases d.modules[pos]? with
    | none => rfl
    | some m =>
      dsimp only
      cases m.buffer.load e.service e.args with
      | error _ => rfl
      | ok buf => rfl

/-- a run was routed to the module registered at the entry's identifier, loaded with it -/
theorem route_run {d : Dispatcher} {e : TaskEntry} {pos : Nat} {m : Module} {buf : ServiceBuffer}
    (h : d.route e = .run pos m buf) :
    d.registry.lookup e.module = .ok pos ∧ d.modules[pos]? = some m ∧
      m.buffer.load e.service e.args = .ok buf := by
  unfold route at h
  rcases hl : d.registry.lookup e.module with _ | pos'
  · simp [hl] at h
  · rcases hm : d.modules[pos']? with _ | m'
    · simp [hl, hm] at h
    · rcases hb : m'.buffer.load e.service e.args with _ | buf'
      · simp [hl, hm, hb] at h
      · simp only [hl, hm, hb, Route.run.injEq] at h
        obtain ⟨rfl, rfl, rfl⟩ := h
        exact ⟨rfl, hm, hb⟩

theorem route_withPolls (d : Dispatcher) (k : Nat) (e : TaskEntry) :
    (d.withPolls k).route e = d.route e := rfl

theorem deliver_withPolls (d : Dispatcher) (k : Nat) (e : TaskEntry) (r : DispatchReport) :
    (d.withPolls k).deliver e r = (d.deliver e r).map (Prod.map (·.withPolls k) id) := by
  rw [deliver_eq, deliver_eq, route_withPolls]
  -- every path records into the metrics without reading the poll count
  cases d.route e with
  | skip ev => rfl
  | run pos m buf =>
    dsimp only [withPolls]
    cases (m.withBuffer buf).invoke d.time.now d.queue with
    | none => rfl
    | some res => rfl

/-- a delivery counts one entry, invoked or skipped, on top of the report it is given -/
theorem deliver_report (d : Dispatcher) (e : TaskEntry) (r : DispatchReport) :
    d.deliver e r = (d.deliver e {}).map (Prod.map id (r + ·)) := by
  rw [deliver_eq, deliver_eq]
  cases d.route e with
  | skip ev => rfl
  | run pos m buf =>
    dsimp only
    cases (m.withBuffer buf).invoke d.time.now d.queue with
    | none => rfl
    | some res => rfl

theorem deliver_popped {d d' : Dispatcher} {e : TaskEntry} {δ : DispatchReport}
    (h : d.deliver e {} = some (d', δ)) : δ.popped = 1 := by
  rw [deliver_eq] at h
  cases hr : d.route e with
  | skip ev =>
    simp only [hr, Option.some.injEq, Prod.ext_iff] at h
    rw [← h.2]
    rfl
  | run pos m buf =>
    rw [hr, Option.map_eq_some_iff] at h
    obtain ⟨res, -, hres⟩ := h
    simp only [Prod.ext_iff] at hres
    rw [← hres.2]
    rfl

/-- a delivery reaches the queue only through the module's pushes -/
theorem deliver_grows {d d' : Dispatcher} {e : TaskEntry} {r r' : DispatchReport}
    (h : d.deliver e r = some (d', r')) : d.queue.Grows d'.queue := by
  rw [deliver_eq] at h
  cases hr : d.route e with
  | skip ev =>
    simp only [hr, Option.some.injEq, Prod.ext_iff] at h
    rw [← h.1]
    exact TaskQueue.Grows.refl _
  | run pos m buf =>
    rw [hr, Option.map_eq_some_iff] at h
    obtain ⟨res, hinv, hres⟩ := h
    simp only [Prod.ext_iff] at hres
    rw [← hres.1]
    exact Module.invoke_grows hinv

/-- a take that hands over an entry moves the head one slot on -/
theorem takeDueHead_some {d d' : Dispatcher} {e : TaskEntry} (h : d.takeDueHead = (some e, d')) :
    d.queue.head < d.queue.capacity ∧ d'.queue.head = d.queue.head + 1 ∧
      d'.queue.capacity = d.queue.capacity := by
  rw [takeDueHead_eq, Prod.mk.injEq] at h
  obtain ⟨he, rfl⟩ := h
  exact TaskQueue.takeDueHead_some (Prod.ext he rfl)

/-- `pollOne` after a take that hands over nothing -/
theorem pollOne_of_none {d d₁ : Dispatcher} (h : d.takeDueHead = (none, d₁)) :
    d.pollOne = some (d₁.withPolls (d.metrics.polls + 1), {}) := by
  simp only [pollOne, recordPoll_eq, takeDueHead_withPolls, h, Prod.map, id]

/-- `pollOne` after a take that hands over `e` -/
theorem pollOne_of_some {d d₁ : Dispatcher} {e : TaskEntry} (h : d.takeDueHead = (some e, d₁)) :
    d.pollOne = (d₁.deliver e {}).map (Prod.map (·.withPolls (d.metrics.polls + 1)) id) := by
  simp only [pollOne, recordPoll_eq, takeDueHead_withPolls, h, Prod.map, id, deliver_withPolls]

/-- a round whose take hands over nothing ends the loop -/
theorem drain_succ_none {d d₁ : Dispatcher} (h : d.takeDueHead = (none, d₁)) (fuel : Nat)
    (r : DispatchReport) : drain (fuel + 1) d r = some (d₁, r) := by
  simp only [drain, h]

/-- a round that takes `e` delivers it, and the loop goes on unless the module panicked -/
theorem drain_succ_some {d d₁ : Dispatcher} {e : TaskEntry} (h : d.takeDueHead = (some e, d₁))
    (fuel : Nat) (r : DispatchReport) :
    drain (fuel + 1) d r = (d₁.deliver e r).bind fun p => drain fuel p.1 p.2 := by
  simp only [drain, h]
  rfl

/-- a round that takes `e` and whose delivery returns leaves the rest of the loop to go on from
there, with the round's report added -/
theorem drain_succ_delivered {d d₁ d₂ : Dispatcher} {e : TaskEntry} {δ : DispatchReport}
    (ht : d.takeDueHead = (some e, d₁)) (hdel : d₁.deliver e {} = some (d₂, δ)) (fuel : Nat)
    (r : DispatchReport) : drain (fuel + 1) d r = drain fuel d₂ (r + δ) := by
  rw [drain_succ_some ht, deliver_report, hdel]
  rfl

/-- a round whose module panics ends the loop in the panic -/
theorem drain_succ_panic {d d₁ : Dispatcher} {e : TaskEntry} (ht : d.takeDueHead = (some e, d₁))
    (hdel : d₁.deliver e {} = none) (fuel : Nat) (r : DispatchReport) :
    drain (fuel + 1) d r = none := by
  rw [drain_succ_some ht, deliver_report, hdel]
  rfl

/-- **What a round of a loop that returns did**: it took nothing and the loop stopped there,
or it took an entry whose delivery returned and the rest of the loop returned from there -/
theorem drain_succ_eq_some {fuel : Nat} {d d' : Dispatcher} {r r' : DispatchReport}
    (h : drain (fuel + 1) d r = some (d', r')) :
    (d.takeDueHead = (none, d') ∧ r' = r) ∨
      ∃ e d₁ d₂ δ, d.takeDueHead = (some e, d₁) ∧ d₁.deliver e {} = some (d₂, δ) ∧
        drain fuel d₂ (r + δ) = some (d', r') := by
  rcases ht : d.takeDueHead with ⟨_ | e, d₁⟩
  · rw [drain_succ_none ht, Option.some.injEq, Prod.mk.injEq] at h
    obtain ⟨rfl, rfl⟩ := h
    exact .inl ⟨rfl, rfl⟩
  · rcases hdel : d₁.deliver e {} with _ | ⟨d₂, δ⟩
    · rw [drain_succ_panic ht hdel] at h
      cases h
    · rw [drain_succ_delivered ht hdel] at h
      exact .inr ⟨e, d₁, d₂, δ, rfl, hdel, h⟩

theorem drain_of_none {d d₁ : Dispatcher} (h : d.takeDueHead = (none, d₁)) (fuel k : Nat)
    (r : DispatchReport) : drain (fuel + 1) (d.withPolls k) r = some (d₁.withPolls k, r) := by
  rw [drain_succ_none (by rw [takeDueHead_withPolls, h]; rfl)]

theorem drain_of_some {d d₁ : Dispatcher} {e : TaskEntry} (h : d.takeDueHead = (some e, d₁))
    (fuel k : Nat) (r : DispatchReport) :
    drain (fuel + 1) (d.withPolls k) r =
      (d₁.deliver e {}).bind fun p => drain fuel (p.1.withPolls k) (r + p.2) := by
  rw [drain_succ_some (by rw [takeDueHead_withPolls, h]; rfl), deliver_withPolls, deliver_report]
  cases d₁.deliver e {} with
  | none => rfl
  | some p => rfl

/-- a call that pops nothing took nothing: a take that hands over an entry pops it -/
theorem pollOne_idle {d d₁ : Dispatcher} {r : DispatchReport} (h : d.pollOne = some (d₁, r))
    (hr : r.popped = 0) :
    ∃ d₂, d.takeDueHead = (none, d₂) ∧ d₁ = d₂.withPolls (d.metrics.polls + 1) ∧ r = {} := by
  rcases hd : d.takeDueHead with ⟨_ | e, d₂⟩
  · rw [pollOne_of_none hd, Option.some.injEq, Prod.mk.injEq] at h
    exact ⟨d₂, rfl, h.1.symm, h.2.symm⟩
  · rw [pollOne_of_some hd, Option.map_eq_some_iff] at h
    obtain ⟨⟨d₃, δ⟩, hdel, hp⟩ := h
    have hpop := deliver_popped hdel
    rw [show δ = r from congrArg Prod.snd hp] at hpop
    omega

/-- a call that pops took an entry and delivered it -/
theorem pollOne_busy {d d₁ : Dispatcher} {r : DispatchReport} (h : d.pollOne = some (d₁, r))
    (hr : r.popped ≠ 0) :
    ∃ e d₂ d₃, d.takeDueHead = (some e, d₂) ∧ d₂.deliver e {} = some (d₃, r) ∧
      d₁ = d₃.withPolls (d.metrics.polls + 1) := by
  rcases hd : d.takeDueHead with ⟨_ | e, d₂⟩
  · rw [pollOne_of_none hd, Option.some.injEq, Prod.mk.injEq] at h
    obtain ⟨-, rfl⟩ := h
    exact absurd rfl hr
  · rw [pollOne_of_some hd, Option.map_eq_some_iff] at h
    obtain ⟨⟨d₃, δ⟩, hdel, hp⟩ := h
    simp only [Prod.map, id, Prod.mk.injEq] at hp
    obtain ⟨rfl, rfl⟩ := hp
    exact ⟨e, d₂, d₃, rfl, hdel, rfl⟩

/-- a call that panics took an entry whose module panicked -/
theorem pollOne_panic {d : Dispatcher} (h : d.pollOne = none) :
    ∃ e d₂, d.takeDueHead = (some e, d₂) ∧ d₂.deliver e {} = none := by
  rcases hd : d.takeDueHead with ⟨_ | e, d₂⟩
  · rw [pollOne_of_none hd] at h
    cases h
  · rw [pollOne_of_some hd, Option.map_eq_none_iff] at h
    exact ⟨e, d₂, rfl, h⟩

/-- a call that pops moves the head one slot towards the capacity -/
theorem pollOne_head {d d₁ : Dispatcher} {r : DispatchReport} (h : d.pollOne = some (d₁, r))
    (hr : r.popped ≠ 0) :
    d.queue.head < d.queue.capacity ∧ d₁.queue.head = d.queue.head + 1 ∧
      d₁.queue.capacity = d.queue.capacity := by
  obtain ⟨e, d₂, d₃, hd, hdel, rfl⟩ := pollOne_busy h hr
  -- the take moved the head; the delivery only pushed
  obtain ⟨hlt, hhead, hcap⟩ := takeDueHead_some hd
  obtain ⟨gcap, ghead, -⟩ := deliver_grows hdel
  simp only [withPolls_queue]
  exact ⟨hlt, ghead.trans hhead, gcap.trans hcap⟩

end Dispatcher

/-! ## polling one entry at a time -/

/-- `pollOne` called from `d` until a call pops nothing or panics: after `n` calls, the last
the only one that popped nothing or the one that panicked, the outcome is `res`: the
dispatcher with the reports added up, or the panic -/
inductive PollsUntilIdle : Dispatcher → Option (Dispatcher × DispatchReport) → Nat → Prop
  | idle {d d' : Dispatcher} {r : DispatchReport} :
      d.pollOne = some (d', r) → r.popped = 0 → PollsUntilIdle d (some (d', r)) 1
  | panic {d : Dispatcher} : d.pollOne = none → PollsUntilIdle d none 1
  | busy {d d₁ : Dispatcher} {r : DispatchReport} {res : Option (Dispatcher × DispatchReport)}
      {n : Nat} :
      d.pollOne = some (d₁, r) → r.popped ≠ 0 → PollsUntilIdle d₁ res n →
        PollsUntilIdle d (res.map (Prod.map id (r + ·))) (n + 1)

namespace PollsUntilIdle

/-- the loop of `poll`, run from any poll count with enough rounds, does what the calls do -/
theorem drain {d : Dispatcher} {res : Option (Dispatcher × DispatchReport)} {n : Nat}
    (h : PollsUntilIdle d res n) :
    ∀ (fuel k : Nat) (r₀ : DispatchReport), n ≤ fuel →
      Dispatcher.drain fuel (d.withPolls k) r₀ = res.map (Prod.map (·.withPolls k) (r₀ + ·)) ∧
        ∀ d' r, res = some (d', r) → d'.metrics.polls = d.metrics.polls + n := by
  induction h with
  | @idle d d' r hpoll hzero =>
    intro fuel k r₀ hfuel
    obtain ⟨fuel, rfl⟩ : ∃ f, fuel = f + 1 := ⟨fuel - 1, by omega⟩
    -- the take handed over nothing: one round, and the loop stops
    obtain ⟨d₂, hd, rfl, rfl⟩ := Dispatcher.pollOne_idle hpoll hzero
    refine ⟨?_, ?_⟩
    · rw [Dispatcher.drain_of_none hd]
      simp [DispatchReport.add_def]
    · rintro d' r ⟨⟩
      rfl
  | @panic d hpoll =>
    intro fuel k r₀ hfuel
    obtain ⟨fuel, rfl⟩ : ∃ f, fuel = f + 1 := ⟨fuel - 1, by omega⟩
    -- the module of the one entry taken panicked, and so does the loop
    obtain ⟨e, d₂, hd, hdel⟩ := Dispatcher.pollOne_panic hpoll
    refine ⟨?_, fun d' r h => nomatch h⟩
    rw [Dispatcher.drain_of_some hd, hdel]
    rfl
  | @busy d d₁ r res n hpoll hbusy _ ih =>
    intro fuel k r₀ hfuel
    obtain ⟨fuel, rfl⟩ : ∃ f, fuel = f + 1 := ⟨fuel - 1, by omega⟩
    -- one round of the loop is the first call; the rest follow from there
    obtain ⟨e, d₂, d₃, hd, hdel, rfl⟩ := Dispatcher.pollOne_busy hpoll hbusy
    obtain ⟨hdrain, hpolls⟩ := ih fuel k (r₀ + r) (by omega)
    refine ⟨?_, ?_⟩
    · rw [Dispatcher.withPolls_withPolls] at hdrain
      rw [Dispatcher.drain_of_some hd, hdel, Option.bind_some, hdrain, Option.map_map]
      congr 1
      funext ⟨d', δ⟩
      simp only [Function.comp, Prod.map, id, DispatchReport.add_assoc]
    · intro d' r' hres
      rw [Option.map_eq_some_iff] at hres
      obtain ⟨⟨d'', r''⟩, hin, hp⟩ := hres
      simp only [Prod.map, id, Prod.mk.injEq] at hp
      obtain ⟨rfl, -⟩ := hp
      rw [hpolls _ _ hin, Dispatcher.withPolls_polls]
      omega

/-- the calls end within `capacity - head + 1` of them -/
theorem length_le {d : Dispatcher} {res : Option (Dispatcher × DispatchReport)} {n : Nat}
    (h : PollsUntilIdle d res n) : n ≤ d.queue.capacity - d.queue.head + 1 := by
  induction h with
  | idle => omega
  | panic => omega
  | busy hpoll hbusy _ ih =>
    obtain ⟨hlt, hhead, hcap⟩ := Dispatcher.pollOne_head hpoll hbusy
    rw [hhead, hcap] at ih
    omega

end PollsUntilIdle

/-- calling `pollOne` until it pops nothing or panics always ends: each call that pops moves the
head one slot towards the capacity, and nothing the modules push moves it back -/
theorem exists_pollsUntilIdle :
    ∀ (b : Nat) (d : Dispatcher), d.queue.capacity - d.queue.head < b →
      ∃ res n, PollsUntilIdle d res n
  | 0, _, h => absurd h (Nat.not_lt_zero _)
  | b + 1, d, h => by
    rcases hp : d.pollOne with _ | ⟨d₁, r⟩
    · exact ⟨none, 1, .panic hp⟩
    by_cases hr : r.popped = 0
    · exact ⟨some (d₁, r), 1, .idle hp hr⟩
    · obtain ⟨hlt, hhead, hcap⟩ := Dispatcher.pollOne_head hp hr
      obtain ⟨res, n, hrest⟩ := exists_pollsUntilIdle b d₁ (by omega)
      exact ⟨_, n + 1, .busy hp hr hrest⟩

/-- **One poll is `pollOne` until idle.**  From every dispatcher state, calling `pollOne` until a
call pops nothing or panics ends, and however it ends, one `poll` from the same state ends the
same way: it panics if the calls did, and otherwise reaches the same state (queue and its
compaction, modules and their buffers, event log, metrics) with the same report, except that
it counts one poll where the calls count one each. -/
theorem poll_eq_pollOne_until_idle (d : Dispatcher) :
    (∃ res n, PollsUntilIdle d res n) ∧
      ∀ res n, PollsUntilIdle d res n →
        d.poll = res.map (Prod.map (·.withPolls (d.metrics.polls + 1)) id) ∧
          ∀ d' r, res = some (d', r) → d'.metrics.polls = d.metrics.polls + n := by
  refine ⟨exists_pollsUntilIdle _ d (Nat.lt_succ_self _), fun res n h => ?_⟩
  have hn := h.length_le
  obtain ⟨hdrain, hpolls⟩ := h.drain (d.queue.capacity + 1) (d.metrics.polls + 1) {} (by omega)
  refine ⟨?_, hpolls⟩
  simp only [Dispatcher.poll, Dispatcher.recordPoll_eq]
  rw [hdrain]
  congr 1
  funext ⟨d', δ⟩
  simp [Prod.map]

end RoverKernel
