import RoverKernel.Proofs.DispatchAccounting
import RoverKernel.Proofs.PanicFree

/-!
# A poll takes the due entries at the head, and only those

The loop of `Dispatcher.poll` reads the clock once per round and takes the head under the
queue lock if it is due; delivery then runs the module, which may push.  Nothing moves the
clock during a poll, so every round compares with the same `now`.

A poll stops at the first round that takes nothing.  That round asked the queue whether it
was empty, which rewinds a drained queue, so a poll always leaves the queue idle
(`TaskQueue.Idle`): either its head is not due, or nothing is pending and every slot is free
again.  Whatever the modules push, the entries taken come off the front in order and each was
due.  When the modules never push (`Module.Quiet`), the entries taken are exactly the longest
due prefix of those pending at the start: an entry behind a head that is not due waits, due or
not.  A poll of a dispatcher whose engines are settled returns (`Dispatcher.poll_settled`).

* `TaskQueue.takeDueHead_none`, `Dispatcher.takeDueHead_eq_some`   one take, either way;
* `Dispatcher.drainTaken`     the entries the rounds of the loop take, in order;
* `Dispatcher.Drained`        what a stretch of rounds guarantees, and `drain_drained`, that
                              the loop's rounds do;
* `Dispatcher.drain_idle`     rounds enough for every slot end on an idle queue;
* `Dispatcher.drain_quiet`    with quiet modules the entries taken and those left are the
                              entries pending at the start, and the modules stay quiet;
* `poll_takes_due_prefix`     all of it, for one poll.
-/

namespace RoverKernel

/-! ## one take -/

/-- nothing the dispatcher can take at `now`: the head is not due, or nothing is pending and
every slot is free again -/
def TaskQueue.Idle (q : TaskQueue) (now : Millis) : Prop :=
  (∃ x rest, q.pending = x :: rest ∧ x.isDue now = false) ∨
    (q.pending = [] ∧ q.head = 0 ∧ q.tail = 0 ∧ q.freeSlots = q.capacity)

theorem QueueSpec.takeDue_eq_some {s s' : QueueSpec} {now : Millis} {e : TaskEntry}
    (h : s.takeDue now = (some e, s')) : s.pending = e :: s'.pending ∧ e.isDue now = true := by
  unfold takeDue at h
  cases hp : s.pending with
  | nil => simp [hp] at h
  | cons y rest =>
    by_cases hdue : y.isDue now
    · simp only [hp, hdue, if_true, Prod.mk.injEq, Option.some.injEq] at h
      obtain ⟨rfl, rfl⟩ := h
      exact ⟨rfl, hdue⟩
    · simp [hp, hdue] at h

theorem QueueSpec.takeDue_eq_none {s s' : QueueSpec} {now : Millis}
    (h : s.takeDue now = (none, s')) :
    s'.pending = s.pending ∧ s'.capacity = s.capacity ∧
      ((∃ x rest, s'.pending = x :: rest ∧ x.isDue now = false) ∨
        (s'.pending = [] ∧ s'.used = 0)) := by
  unfold takeDue at h
  cases hp : s.pending with
  | nil =>
    -- nothing pending: the slots are given back
    simp only [hp, Prod.mk.injEq, true_and] at h
    subst h
    exact ⟨rfl, rfl, .inr ⟨rfl, rfl⟩⟩
  | cons y rest =>
    by_cases hdue : y.isDue now
    · simp [hp, hdue] at h
    · simp only [hp, hdue, Bool.false_eq_true, if_false, Prod.mk.injEq, true_and] at h
      subst h
      exact ⟨hp, rfl, .inl ⟨y, rest, hp, by simpa using hdue⟩⟩

namespace TaskQueue

theorem takeDueHead_eq_some {q q' : TaskQueue} {now : Millis} {e : TaskEntry}
    (h : q.takeDueHead now = (some e, q')) : q.pending = e :: q'.pending ∧ e.isDue now = true := by
  have hv := takeDueHead_view q now
  rw [h] at hv
  simpa using QueueSpec.takeDue_eq_some hv.symm

/-- **A take that hands over nothing finds the queue idle**, keeping its pending entries: the
emptiness test it makes first rewinds a drained queue -/
theorem takeDueHead_none {q q' : TaskQueue} {now : Millis}
    (h : q.takeDueHead now = (none, q')) : q'.pending = q.pending ∧ q'.Idle now := by
  have hv := takeDueHead_view q now
  rw [h] at hv
  obtain ⟨hp, hcap, hidle⟩ := QueueSpec.takeDue_eq_none hv.symm
  simp only [view_pending, view_capacity, view_used] at hp hcap hidle
  refine ⟨hp, ?_⟩
  rcases hidle with hhead | ⟨hnil, htail⟩
  · exact .inl hhead
  · -- no slot used: both indices are back at zero
    have hle := q'.head_le_tail
    exact .inr ⟨hnil, by omega, htail, by simp [freeSlots, htail]⟩

end TaskQueue

/-! ## modules that never push -/

/-- a module whose callback, when it returns, leaves the queue alone, whatever request it is
handed -/
def Module.Quiet (m : Module) : Prop :=
  ∀ (b : ServiceBuffer) (now : Millis) (q : TaskQueue) (res : Module × TaskQueue),
    (m.withBuffer b).invoke now q = some res → res.2 = q

/-- a recorder pushes only by its chain rules, which its calls never change -/
theorem Recorder.invoke_chain (r : Recorder) (q : TaskQueue) : (r.invoke q).1.chain = r.chain :=
  rfl

theorem Module.quiet_radio (r : Radio) : (Module.radio r).Quiet := by
  intro b now q res h
  rw [withBuffer, invoke_radio, Option.some.injEq] at h
  rw [← h]

theorem Module.quiet_engines (e : Engines) : (Module.engines e).Quiet := by
  intro b now q res h
  rw [withBuffer, invoke_engines, Option.map_eq_some_iff] at h
  obtain ⟨e', -, rfl⟩ := h
  rfl

/-- **A quiet module stays quiet** after serving a request: the radio and the engines never
push, and a recorder's pushes depend only on its chain rules and the service it is asked -/
theorem Module.Quiet.invoke {m : Module} (h : m.Quiet) {b : ServiceBuffer} {now : Millis}
    {q : TaskQueue} {res : Module × TaskQueue} (hinv : (m.withBuffer b).invoke now q = some res) :
    res.1.Quiet := by
  cases m with
  | recorder r =>
    rw [withBuffer, invoke_recorder, Option.some.injEq] at hinv
    rw [← hinv]
    intro b' now' q' res' h'
    rw [withBuffer, invoke_recorder, Option.some.injEq] at h'
    rw [← h']
    -- the served recorder keeps the rules, and only they and the request decide its pushes
    have hpush := h b' now' q' _ (invoke_recorder { r with buffer := b' } now' q')
    exact hpush
  | radio r =>
    rw [withBuffer, invoke_radio, Option.some.injEq] at hinv
    rw [← hinv]
    exact quiet_radio _
  | engines e =>
    rw [withBuffer, invoke_engines, Option.map_eq_some_iff] at hinv
    obtain ⟨e', -, rfl⟩ := hinv
    exact quiet_engines _

namespace Dispatcher

/-- every stored module is quiet -/
def Quiet (d : Dispatcher) : Prop := ∀ m ∈ d.modules, m.Quiet

theorem deliver_time {d d' : Dispatcher} {e : TaskEntry} {r r' : DispatchReport}
    (h : d.deliver e r = some (d', r')) : d'.time = d.time := by
  rw [deliver_eq] at h
  cases hr : d.route e with
  | skip ev =>
    simp only [hr, Option.some.injEq, Prod.ext_iff] at h
    rw [← h.1]
    rfl
  | run pos m buf =>
    simp only [hr, Option.map_eq_some_iff, Prod.ext_iff] at h
    obtain ⟨res, -, rfl, -⟩ := h
    rfl

/-- with quiet modules a delivery leaves the queue as it was, and the modules quiet -/
theorem deliver_quiet {d d' : Dispatcher} (hq : d.Quiet) {e : TaskEntry} {r r' : DispatchReport}
    (h : d.deliver e r = some (d', r')) : d'.queue = d.queue ∧ d'.Quiet := by
  rw [deliver_eq] at h
  cases hr : d.route e with
  | skip ev =>
    simp only [hr, Option.some.injEq, Prod.ext_iff] at h
    rw [← h.1]
    exact ⟨rfl, hq⟩
  | run pos m buf =>
    simp only [hr, Option.map_eq_some_iff, Prod.ext_iff] at h
    obtain ⟨⟨m', q⟩, hinv, rfl, -⟩ := h
    -- the module served is quiet, so the queue comes back as it went in
    obtain ⟨-, hm, -⟩ := route_run hr
    have hm' : m.Quiet := hq m (List.mem_of_getElem? hm)
    refine ⟨hm' buf d.time.now d.queue _ hinv, fun x hx => ?_⟩
    rcases List.mem_or_eq_of_mem_set hx with hin | rfl
    · exact hq x hin
    · exact hm'.invoke hinv

/-! ## the rounds of the loop -/

/-- the entries that `fuel` rounds of the loop take from `d`, in the order taken, up to the one
whose module panics -/
def drainTaken : Nat → Dispatcher → List TaskEntry
  | 0, _ => []
  | fuel + 1, d =>
    match d.takeDueHead with
    | (none, _) => []
    | (some e, d') =>
      match d'.deliver e {} with
      | none => [e]
      | some p => e :: drainTaken fuel p.1

/-- what rounds of the loop from `d`, taking `taken` and ending in `d'`, guarantee whatever the
modules push: the clock has not moved, the entries came off the front of the queue in order,
and each was due -/
structure Drained (d : Dispatcher) (taken : List TaskEntry) (d' : Dispatcher) : Prop where
  time : d'.time = d.time
  fifo : d.queue.pending <+: taken ++ d'.queue.pending
  due : ∀ x ∈ taken, x.isDue d.time.now = true

/-- a take that hands over nothing touched only the queue, keeping its pending entries, and
found it idle -/
theorem takeDueHead_none {d d₁ : Dispatcher} (h : d.takeDueHead = (none, d₁)) :
    d₁.time = d.time ∧ d₁.queue.pending = d.queue.pending ∧ d₁.queue.Idle d.time.now := by
  rw [takeDueHead_eq, Prod.mk.injEq] at h
  obtain ⟨h1, rfl⟩ := h
  exact ⟨rfl, TaskQueue.takeDueHead_none (Prod.ext h1 rfl)⟩

theorem takeDueHead_eq_some {d d₁ : Dispatcher} {e : TaskEntry} (h : d.takeDueHead = (some e, d₁)) :
    d₁.time = d.time ∧ d₁.modules = d.modules ∧ d.queue.pending = e :: d₁.queue.pending ∧
      e.isDue d.time.now = true := by
  rw [takeDueHead_eq, Prod.mk.injEq] at h
  obtain ⟨h1, rfl⟩ := h
  exact ⟨rfl, rfl, TaskQueue.takeDueHead_eq_some (Prod.ext h1 rfl)⟩

theorem drainTaken_succ_some {d d₁ d₂ : Dispatcher} {e : TaskEntry} {δ : DispatchReport}
    (ht : d.takeDueHead = (some e, d₁)) (hdel : d₁.deliver e {} = some (d₂, δ)) (fuel : Nat) :
    drainTaken (fuel + 1) d = e :: drainTaken fuel d₂ := by
  simp only [drainTaken, ht, hdel]

/-- **Every entry the rounds take was due**, the one whose module panics included: nothing
moves the clock during the rounds -/
theorem drainTaken_due (fuel : Nat) (d : Dispatcher) :
    ∀ x ∈ drainTaken fuel d, x.isDue d.time.now = true := by
  induction fuel generalizing d with
  | zero => exact fun _ hx => absurd hx List.not_mem_nil
  | succ fuel ih =>
    rcases ht : d.takeDueHead with ⟨_ | e, d₁⟩
    · simp [drainTaken, ht]
    · obtain ⟨htime, -, -, hdue⟩ := takeDueHead_eq_some ht
      rcases hdel : d₁.deliver e {} with _ | ⟨d₂, δ⟩
      · simp only [drainTaken, ht, hdel, List.mem_singleton]
        rintro x rfl
        exact hdue
      · rw [drainTaken_succ_some ht hdel]
        rintro x (_ | ⟨_, hx⟩)
        · exact hdue
        · rw [← htime, ← deliver_time hdel]
          exact ih d₂ x hx

theorem Drained.round {d d₁ d₂ : Dispatcher} {e : TaskEntry} {δ : DispatchReport}
    (ht : d.takeDueHead = (some e, d₁)) (hdel : d₁.deliver e {} = some (d₂, δ))
    {taken : List TaskEntry} {d' : Dispatcher} (rest : Drained d₂ taken d') :
    Drained d (e :: taken) d' := by
  obtain ⟨htime, -, hpend, hdue⟩ := takeDueHead_eq_some ht
  -- the delivery only pushed behind what the take left, and kept the clock
  obtain ⟨-, -, hgrow⟩ := deliver_grows hdel
  have htime' : d₂.time = d.time := (deliver_time hdel).trans htime
  refine ⟨rest.time.trans htime', ?_, ?_⟩
  · rw [hpend, List.cons_append]
    exact (List.prefix_cons_inj e).2 (hgrow.trans rest.fifo)
  · rintro x (_ | ⟨_, hx⟩)
    · exact hdue
    · rw [← htime']
      exact rest.due x hx

/-- **The loop's rounds drain**: when they return, what they took was due and came off the
front in order, and the report counts one entry per take -/
theorem drain_drained {fuel : Nat} {d d' : Dispatcher} {r r' : DispatchReport}
    (h : drain fuel d r = some (d', r')) :
    Drained d (drainTaken fuel d) d' ∧ r'.popped = r.popped + (drainTaken fuel d).length := by
  induction fuel generalizing d r with
  | zero =>
    simp only [drain, Option.some.injEq, Prod.ext_iff] at h
    obtain ⟨rfl, rfl⟩ := h
    exact ⟨⟨rfl, List.prefix_refl _, fun _ hx => absurd hx List.not_mem_nil⟩, rfl⟩
  | succ fuel ih =>
    rcases drain_succ_eq_some h with ⟨ht, rfl⟩ | ⟨e, d₁, d₂, δ, ht, hdel, hrest⟩
    · -- the round took nothing, and the loop stops
      obtain ⟨htime, hpend, -⟩ := takeDueHead_none ht
      simp only [drainTaken, ht]
      exact ⟨⟨htime, by rw [hpend]; exact List.prefix_refl _, fun _ hx => absurd hx List.not_mem_nil⟩,
        rfl⟩
    · -- the round took `e`; the rest of the rounds start from its delivery
      obtain ⟨hd, hpop⟩ := ih hrest
      rw [drainTaken_succ_some ht hdel]
      refine ⟨hd.round ht hdel, ?_⟩
      rw [hpop, DispatchReport.popped_add, deliver_popped hdel, List.length_cons]
      omega

/-- **Rounds enough for every slot end on an idle queue**: each take moves the head one slot
towards the capacity and deliveries never move it back, so the takes run out before the
rounds do, and the round that takes nothing finds the queue idle -/
theorem drain_idle {fuel : Nat} {d d' : Dispatcher} {r r' : DispatchReport}
    (h : drain fuel d r = some (d', r')) (hfuel : d.queue.capacity - d.queue.head < fuel) :
    d'.queue.Idle d.time.now := by
  induction fuel generalizing d r with
  | zero => omega
  | succ fuel ih =>
    rcases drain_succ_eq_some h with ⟨ht, rfl⟩ | ⟨e, d₁, d₂, δ, ht, hdel, hrest⟩
    · exact (takeDueHead_none ht).2.2
    · obtain ⟨hlt, hhead, hcap⟩ := takeDueHead_some ht
      obtain ⟨htime, -⟩ := takeDueHead_eq_some ht
      obtain ⟨gcap, ghead, -⟩ := deliver_grows hdel
      have hidle := ih hrest (by rw [gcap, ghead, hhead, hcap]; omega)
      rwa [deliver_time hdel, htime] at hidle

theorem quiet_of_takeDueHead {d d₁ : Dispatcher} {o : Option TaskEntry} (hq : d.Quiet)
    (ht : d.takeDueHead = (o, d₁)) : d₁.Quiet := by
  rw [takeDueHead_eq, Prod.mk.injEq] at ht
  rw [← ht.2]
  exact hq

/-- **With quiet modules nothing joins the queue**: the entries the rounds take, followed by
those left, are the entries pending at the start, and the modules stay quiet -/
theorem drain_quiet {fuel : Nat} {d d' : Dispatcher} (hq : d.Quiet) {r r' : DispatchReport}
    (h : drain fuel d r = some (d', r')) :
    drainTaken fuel d ++ d'.queue.pending = d.queue.pending ∧ d'.Quiet := by
  induction fuel generalizing d r with
  | zero =>
    simp only [drain, Option.some.injEq, Prod.ext_iff] at h
    obtain ⟨rfl, rfl⟩ := h
    exact ⟨rfl, hq⟩
  | succ fuel ih =>
    rcases drain_succ_eq_some h with ⟨ht, rfl⟩ | ⟨e, d₁, d₂, δ, ht, hdel, hrest⟩
    · obtain ⟨-, hpend, -⟩ := takeDueHead_none ht
      simp only [drainTaken, ht, List.nil_append]
      exact ⟨hpend, quiet_of_takeDueHead hq ht⟩
    · obtain ⟨-, -, hpend, -⟩ := takeDueHead_eq_some ht
      obtain ⟨hqueue, hq₂⟩ := deliver_quiet (quiet_of_takeDueHead hq ht) hdel
      obtain ⟨hsplit, hq'⟩ := ih hq₂ hrest
      rw [drainTaken_succ_some ht hdel, List.cons_append, hsplit, hqueue, hpend]
      exact ⟨rfl, hq'⟩

end Dispatcher

theorem TaskQueue.Idle.takeWhile {q : TaskQueue} {now : Millis} (h : q.Idle now) :
    q.pending.takeWhile (·.isDue now) = [] ∧ q.pending.dropWhile (·.isDue now) = q.pending := by
  rcases h with ⟨x, rest, hp, hx⟩ | ⟨hp, -⟩
  · rw [hp]
    exact ⟨List.takeWhile_cons_of_neg (by simp [hx]), List.dropWhile_cons_of_neg (by simp [hx])⟩
  · rw [hp]
    exact ⟨rfl, rfl⟩

/-- **A poll takes the due entries at the head, and only those.**  At the time `now` the clock
shows (no tick comes during a poll), whatever the modules push while they run: every entry the
poll takes was due, and a poll of a dispatcher whose engines cannot overflow returns.  A poll
that returns leaves the clock where it was, took its entries off the front of the queue in
order, counts each once in its report, and leaves the queue idle: its head is not due, or
nothing is pending, both indices are back at zero and every slot is free.  When no module
pushes, the entries taken are exactly the longest prefix of the pending ones that is due, the
rest stay pending, the report counts that prefix, and nothing behind a head that is not due is
taken, due or not. -/
theorem poll_takes_due_prefix (d : Dispatcher) :
    let now := d.time.now
    let taken := Dispatcher.drainTaken (d.queue.capacity + 1) { d with metrics := d.metrics.recordPoll }
    (∀ x ∈ taken, x.isDue now = true) ∧ (d.Settled → ∃ d' r, d.poll = some (d', r)) ∧
      ∀ d' r, d.poll = some (d', r) →
        d'.time = d.time ∧ d.queue.pending <+: taken ++ d'.queue.pending ∧ r.popped = taken.length ∧
          d'.queue.Idle now ∧
          (d.Quiet →
            taken = d.queue.pending.takeWhile (·.isDue now) ∧
              d'.queue.pending = d.queue.pending.dropWhile (·.isDue now) ∧
              r.popped = (d.queue.pending.takeWhile (·.isDue now)).length ∧
              ∀ i x, d.queue.pending[i]? = some x → x.isDue now = false → taken.length ≤ i) := by
  intro now taken
  -- a poll counts itself and runs `capacity + 1` rounds from there
  let d₀ : Dispatcher := { d with metrics := d.metrics.recordPoll }
  have hpoll : d.poll = Dispatcher.drain (d.queue.capacity + 1) d₀ {} := rfl
  refine ⟨Dispatcher.drainTaken_due _ d₀, fun hs => ?_, fun d' r hp => ?_⟩
  · obtain ⟨d', r, hres, -⟩ := Dispatcher.poll_settled hs
    exact ⟨d', r, hres⟩
  rw [hpoll] at hp
  obtain ⟨hdr, hpop⟩ := Dispatcher.drain_drained hp
  have hidle : d'.queue.Idle now :=
    Dispatcher.drain_idle (d := d₀) hp (Nat.lt_succ_of_le (Nat.sub_le d.queue.capacity d.queue.head))
  have hcount : r.popped = taken.length := by
    rw [hpop]
    exact Nat.zero_add _
  refine ⟨hdr.time, hdr.fifo, hcount, hidle, fun hq => ?_⟩
  -- nothing joins: what was pending is what was taken followed by what is left
  have hsplit : taken ++ d'.queue.pending = d.queue.pending :=
    (Dispatcher.drain_quiet (d := d₀) hq hp).1
  obtain ⟨htake, hdrop⟩ := hidle.takeWhile
  have hpre : d.queue.pending.takeWhile (·.isDue now) = taken := by
    rw [← hsplit, List.takeWhile_append_of_pos hdr.due, htake, List.append_nil]
  have hrest : d.queue.pending.dropWhile (·.isDue now) = d'.queue.pending := by
    rw [← hsplit, List.dropWhile_append_of_pos hdr.due, hdrop]
  refine ⟨hpre.symm, hrest.symm, by rw [hpre, hcount], ?_⟩
  -- an entry before the end of the taken ones was taken, so it was due
  intro i x hx hnd
  by_contra hlt
  rw [← hsplit, List.getElem?_append_left (by omega)] at hx
  have := hdr.due x (List.mem_of_getElem? hx)
  rw [hnd] at this
  exact Bool.false_ne_true this

/-- the radio and the engines never push, and new engines cannot overflow: a poll at 5 ms over
entries due at 3, 9 and 4 ms delivers the first and leaves the other two, the one due at 4 ms
included -/
theorem poll_waits_behind_undue_head :
    let d : Dispatcher :=
      { time := { now := 5, periodMs := 1 }, modules := [.radio default, .engines default],
        queue := ⟨[.scheduled 1 0 3, .scheduled 1 0 9, .scheduled 2 0 4, default], 0, 3,
          by decide, by decide, by decide⟩,
        metrics := default, log := none }
    d.Quiet ∧ d.Settled ∧
      ∃ d' r, d.poll = some (d', r) ∧ d'.queue.pending = [.scheduled 1 0 9, .scheduled 2 0 4] := by
  intro d
  have hq : d.Quiet := by
    intro m hm
    simp only [d, List.mem_cons, List.not_mem_nil, or_false] at hm
    rcases hm with rfl | rfl
    · exact Module.quiet_radio _
    · exact Module.quiet_engines _
  have hs : d.Settled := by
    intro m hm
    simp only [d, List.mem_cons, List.not_mem_nil, or_false] at hm
    rcases hm with rfl | rfl
    · trivial
    · exact ⟨rfl, rfl⟩
  obtain ⟨-, hret, hpoll⟩ := poll_takes_due_prefix d
  obtain ⟨d', r, hp⟩ := hret hs
  obtain ⟨-, -, -, -, hquiet⟩ := hpoll d' r hp
  exact ⟨hq, hs, d', r, hp, (hquiet hq).2.1.trans rfl⟩

end RoverKernel
