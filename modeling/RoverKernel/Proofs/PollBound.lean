import RoverKernel.Proofs.PollDrain

/-!
# A poll ends within the slots ahead of its head

The loop of a poll (`while let Some(entry) = take_due_head() { deliver(entry) }`) has no bound
of its own, and the modules it calls may push due work while it runs.  It ends all the same:
the measure is the number of slots between the head and the capacity.  A round that takes an
entry moves the head one slot on, a delivery only pushes behind the pending entries and never
moves the head back, and the one test that rewinds a drained queue is the emptiness test of the
round that takes nothing, which is the last.  A module that panics ends the loop sooner.

* `Dispatcher.Rounds`             the loop as rounds: some that take and deliver, then one that
                                  takes nothing, or one whose module panics;
* `Dispatcher.Rounds.drain`       with more fuel than rounds, `drain` runs exactly those rounds;
* `Dispatcher.Rounds.head_add_le` every round that takes moves the head one slot towards the
                                  capacity, so there are at most `capacity - head` of them;
* `Dispatcher.Rounds.last_take`   the round that takes nothing starts from the head moved once
                                  per entry taken and only then may rewind the queue;
* `Dispatcher.exists_rounds`      the rounds end, whatever the modules push;
* `poll_rounds_within_capacity`   all of it for one poll.
-/

namespace RoverKernel

namespace Dispatcher

/-- the rounds of the loop of a poll from `d` with report `r`: `k` rounds that each take the
head and deliver it, then one whose take hands over nothing and leaves `d'`; or, counted among
the `k`, a last round that takes an entry whose module panics -/
inductive Rounds : Dispatcher → DispatchReport → Nat → Option (Dispatcher × DispatchReport) → Prop
  | last {d d' : Dispatcher} {r : DispatchReport} :
      d.takeDueHead = (none, d') → Rounds d r 0 (some (d', r))
  | panic {d d₁ : Dispatcher} {e : TaskEntry} {r : DispatchReport} :
      d.takeDueHead = (some e, d₁) → d₁.deliver e r = none → Rounds d r 1 none
  | next {d d₁ d₂ : Dispatcher} {e : TaskEntry} {r r₂ : DispatchReport} {k : Nat}
      {res : Option (Dispatcher × DispatchReport)} :
      d.takeDueHead = (some e, d₁) → d₁.deliver e r = some (d₂, r₂) → Rounds d₂ r₂ k res →
        Rounds d r (k + 1) res

variable {d : Dispatcher} {r : DispatchReport} {k : Nat} {res : Option (Dispatcher × DispatchReport)}

theorem head_le_capacity (q : TaskQueue) : q.head ≤ q.capacity :=
  Nat.le_trans q.head_le_tail q.tail_le_length

/-- a take that hands over nothing leaves the queue as its emptiness test left it -/
theorem TaskQueue.takeDueHead_none_eq {q q' : TaskQueue} {now : Millis}
    (h : q.takeDueHead now = (none, q')) : q' = q.isEmpty.2 := by
  unfold TaskQueue.takeDueHead at h
  rcases hq : q.isEmpty with ⟨_ | _, q₁⟩
  · -- found non-empty: every branch that hands over nothing returns the tested queue
    simp only [hq, Bool.false_eq_true, if_false] at h
    rcases hp : q₁.peekFront with err | head
    · simp only [hp, Prod.mk.injEq] at h
      exact h.2.symm
    · by_cases hdue : head.isDue now
      · rcases hpop : q₁.popFront with err | ⟨e, q₂⟩
        · simp only [hp, hdue, hpop, if_true, Prod.mk.injEq] at h
          exact h.2.symm
        · simp [hp, hdue, hpop] at h
      · simp only [hp, hdue, Bool.false_eq_true, if_false, Prod.mk.injEq] at h
        exact h.2.symm
  · simp only [hq, if_true, Prod.mk.injEq] at h
    exact h.2.symm

theorem takeDueHead_none_queue {d₁ : Dispatcher} (h : d.takeDueHead = (none, d₁)) :
    d₁ = { d with queue := d.queue.isEmpty.2 } := by
  rw [takeDueHead_eq, Prod.mk.injEq] at h
  obtain ⟨hnone, rfl⟩ := h
  have hq : (d.queue.takeDueHead d.time.now).2 = d.queue.isEmpty.2 :=
    TaskQueue.takeDueHead_none_eq (Prod.ext hnone rfl)
  rw [hq]

/-- a delivery that returns counts one more entry, whatever the report it adds to -/
theorem deliver_popped_add {d' : Dispatcher} {e : TaskEntry} {r' : DispatchReport}
    (h : d.deliver e r = some (d', r')) : r'.popped = r.popped + 1 := by
  rw [deliver_report, Option.map_eq_some_iff] at h
  obtain ⟨⟨d'', δ⟩, hδ, hres⟩ := h
  simp only [Prod.map, id, Prod.mk.injEq] at hres
  rw [← hres.2, DispatchReport.popped_add, deliver_popped hδ]

/-- **With more fuel than rounds, `drain` runs exactly the rounds.** -/
theorem Rounds.drain (h : Rounds d r k res) (fuel : Nat) (hk : k < fuel) :
    Dispatcher.drain fuel d r = res := by
  induction h generalizing fuel with
  | last ht =>
    obtain ⟨fuel, rfl⟩ : ∃ f, fuel = f + 1 := ⟨fuel - 1, by omega⟩
    exact drain_succ_none ht fuel _
  | panic ht hdel =>
    obtain ⟨fuel, rfl⟩ : ∃ f, fuel = f + 1 := ⟨fuel - 1, by omega⟩
    rw [drain_succ_some ht, hdel]
    rfl
  | next ht hdel _ ih =>
    obtain ⟨fuel, rfl⟩ : ∃ f, fuel = f + 1 := ⟨fuel - 1, by omega⟩
    rw [drain_succ_some ht, hdel, Option.bind_some]
    exact ih fuel (by omega)

/-- **Every round that takes moves the head one slot towards the capacity**, and deliveries
never move it back, so the rounds that take are at most the slots ahead of the head. -/
theorem Rounds.head_add_le (h : Rounds d r k res) : d.queue.head + k ≤ d.queue.capacity := by
  induction h with
  | last => exact head_le_capacity _
  | panic ht =>
    obtain ⟨hlt, -, -⟩ := takeDueHead_some ht
    omega
  | next ht hdel _ ih =>
    obtain ⟨-, hhead, hcap⟩ := takeDueHead_some ht
    obtain ⟨gcap, ghead, -⟩ := deliver_grows hdel
    rw [ghead, gcap, hhead, hcap] at ih
    omega

/-- each round that takes counts one entry in the report the rounds return -/
theorem Rounds.popped (h : Rounds d r k res) :
    ∀ d' r', res = some (d', r') → r'.popped = r.popped + k := by
  induction h with
  | last =>
    rintro _ _ ⟨⟩
    rfl
  | panic => rintro _ _ ⟨⟩
  | next _ hdel _ ih =>
    intro d' r' hres
    rw [ih d' r' hres, deliver_popped_add hdel]
    omega

/-- **The round that takes nothing is the only one that may rewind the queue**: it starts from
the head moved once per entry taken, on the same capacity, and leaves what the emptiness test
of its take left -/
theorem Rounds.last_take (h : Rounds d r k res) :
    ∀ d' r', res = some (d', r') →
      ∃ dl : Dispatcher, dl.queue.head = d.queue.head + k ∧ dl.queue.capacity = d.queue.capacity ∧
        dl.takeDueHead = (none, d') ∧ d' = { dl with queue := dl.queue.isEmpty.2 } := by
  induction h with
  | @last d d' _ ht =>
    rintro _ _ ⟨⟩
    exact ⟨d, rfl, rfl, ht, takeDueHead_none_queue ht⟩
  | panic => rintro _ _ ⟨⟩
  | next ht hdel _ ih =>
    intro d' r' hres
    obtain ⟨dl, hhead, hcap, hlast, hd'⟩ := ih d' r' hres
    obtain ⟨-, hhead₁, hcap₁⟩ := takeDueHead_some ht
    obtain ⟨gcap, ghead, -⟩ := deliver_grows hdel
    refine ⟨dl, ?_, ?_, hlast, hd'⟩
    · rw [hhead, ghead, hhead₁]
      omega
    · rw [hcap, gcap, hcap₁]

/-- **The rounds end**, whatever the modules push: from any dispatcher, within
`capacity - head + 1` of them a round takes nothing or a module panics -/
theorem exists_rounds :
    ∀ (b : Nat) (d : Dispatcher) (r : DispatchReport), d.queue.capacity - d.queue.head < b →
      ∃ k res, Rounds d r k res
  | 0, _, _, h => absurd h (Nat.not_lt_zero _)
  | b + 1, d, r, h => by
    rcases ht : d.takeDueHead with ⟨_ | e, d₁⟩
    · exact ⟨0, _, .last ht⟩
    · rcases hdel : d₁.deliver e r with _ | ⟨d₂, r₂⟩
      · exact ⟨1, none, .panic ht hdel⟩
      -- the take moved the head on, and the delivery only pushed
      obtain ⟨hlt, hhead, hcap⟩ := takeDueHead_some ht
      obtain ⟨gcap, ghead, -⟩ := deliver_grows hdel
      obtain ⟨k, res, hrest⟩ := exists_rounds b d₂ r₂ (by rw [gcap, ghead, hhead, hcap]; omega)
      exact ⟨k + 1, res, .next ht hdel hrest⟩

end Dispatcher

/-- **A poll ends within the slots ahead of its head.**  From every dispatcher state, with
modules that may push any entries while they run (none of them empties or tests the queue), the
loop of a poll is a finite run of rounds: `k` that each take the head and deliver it, then one
that takes nothing, or a last one whose module panics, and the poll's result is where those
rounds end, so no bound on the rounds is ever what stops the loop.  There are at most
`capacity - head` rounds that take.  A poll that returns has popped exactly those `k` entries
and invoked at most `capacity`, and its round that takes nothing starts with the head moved
exactly once per entry taken, since pushes never move it, and only its emptiness test may
rewind a drained queue. -/
theorem poll_rounds_within_capacity (d : Dispatcher) :
    let d₀ : Dispatcher := { d with metrics := d.metrics.recordPoll }
    ∃ k, Dispatcher.Rounds d₀ {} k d.poll ∧
      (∀ fuel, k < fuel → Dispatcher.drain fuel d₀ {} = d.poll) ∧
      k ≤ d.queue.capacity - d.queue.head ∧
      ∀ d' r, d.poll = some (d', r) → r.popped = k ∧ r.invoked ≤ d.queue.capacity ∧
        ∃ dl : Dispatcher, dl.queue.head = d.queue.head + k ∧ dl.queue.capacity = d.queue.capacity ∧
          dl.takeDueHead = (none, d') ∧ d' = { dl with queue := dl.queue.isEmpty.2 } := by
  intro d₀
  obtain ⟨k, res, hr⟩ := Dispatcher.exists_rounds _ d₀ {} (Nat.lt_succ_self _)
  -- a poll counts itself and leaves the queue to the rounds
  have hbound : d.queue.head + k ≤ d.queue.capacity := hr.head_add_le
  have hpoll : d.poll = res := hr.drain (d.queue.capacity + 1) (by omega)
  rw [hpoll]
  refine ⟨k, hr, fun fuel hk => hr.drain fuel hk, by omega, fun d' r hres => ?_⟩
  have hpop : r.popped = k := by
    rw [hr.popped d' r hres]
    exact Nat.zero_add k
  -- every entry invoked was popped
  have hinv : r.invoked ≤ r.popped := Nat.le_add_right _ _
  exact ⟨hpop, by omega, hr.last_take d' r hres⟩

end RoverKernel
