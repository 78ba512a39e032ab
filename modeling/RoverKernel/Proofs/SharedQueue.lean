import RoverKernel.Dispatcher
import RoverKernel.Proofs.QueueRefinement

/-!
# Producers and the dispatcher on one locked queue

Every operation of the shared queue holds its lock for its whole duration, so whatever the
threads do, the queue sees one sequence of atomic steps (`LockStep`): a producer's `with`
block (a push and the appends to the entry it pushed), an emptiness test or a length read, a
reset, or the dispatcher's take of a due head.  A module that pushes while it runs is one more
producer: its callback runs outside the lock and reaches the queue only through pushes.  A
theorem about every list of lock steps is therefore a theorem about every interleaving.

* `QueueSpec.takeDue`, `TaskQueue.takeDueHead_view`   the dispatcher's take through the
                          abstraction: it hands over the oldest pending entry if it is due, and
                          gives a drained queue its slots back;
* `SharedRun`             the queue with a record of what went through it: the entries the
                          dispatcher took, and the accepted blocks with their producers;
* `SharedRun.Conserved`   the taken entries followed by the pending ones are the accepted ones;
* `SharedRun.run_conserved`   every run without a reset keeps it, at every compaction too;
* `shared_queue_conserves_entries`   from a new queue, for every interleaving without a reset:
                          nothing accepted is lost or duplicated, entries are taken in lock
                          order, each with the payload of its own block, and a push is refused,
                          with `QueueFull` and the capacity, exactly when no slot is free.
-/

namespace RoverKernel

/-! ## the dispatcher's take -/

/-- the take on the abstract queue -/
def QueueSpec.takeDue (s : QueueSpec) (now : Millis) : Option TaskEntry × QueueSpec :=
  match s.pending with
  | [] => (none, { s with used := 0 })
  | e :: rest => if e.isDue now then (some e, { s with pending := rest }) else (none, s)

/-- what a take hands over, followed by what it leaves pending, is what was pending -/
theorem QueueSpec.takeDue_conserves (s : QueueSpec) (now : Millis) :
    (s.takeDue now).1.toList ++ (s.takeDue now).2.pending = s.pending := by
  unfold takeDue
  cases hp : s.pending with
  | nil => rfl
  | cons e rest => by_cases hd : e.isDue now <;> simp [hd, hp]

theorem QueueSpec.takeDue_capacity (s : QueueSpec) (now : Millis) :
    (s.takeDue now).2.capacity = s.capacity := by
  unfold takeDue
  cases s.pending with
  | nil => rfl
  | cons e rest => by_cases hd : e.isDue now <;> simp [hd]

/-- a take that hands over an entry hands over the oldest pending one, and frees no slot -/
theorem QueueSpec.takeDue_some {s s' : QueueSpec} {now : Millis} {e : TaskEntry}
    (h : s.takeDue now = (some e, s')) :
    s.pending = e :: s'.pending ∧ s'.used = s.used ∧ s'.capacity = s.capacity := by
  unfold takeDue at h
  cases hp : s.pending with
  | nil => simp [hp] at h
  | cons y rest =>
    by_cases hdue : y.isDue now
    · simp only [hp, hdue, if_true, Prod.mk.injEq, Option.some.injEq] at h
      obtain ⟨rfl, rfl⟩ := h
      exact ⟨rfl, rfl, rfl⟩
    · simp [hp, hdue] at h

theorem QueueSpec.isEmpty_pending (s : QueueSpec) : s.isEmpty.2.pending = s.pending := by
  unfold isEmpty
  split <;> simp_all

theorem QueueSpec.isEmpty_capacity (s : QueueSpec) : s.isEmpty.2.capacity = s.capacity := by
  unfold isEmpty
  split <;> rfl

namespace TaskQueue

theorem takeDueHead_view (q : TaskQueue) (now : Millis) :
    Prod.map id view (q.takeDueHead now) = q.view.takeDue now := by
  unfold takeDueHead QueueSpec.takeDue
  rw [view_pending]
  cases hp : q.pending with
  | nil =>
    -- nothing pending: the test answers yes, and a drained queue is rewound
    have hi := isEmpty_view q
    rw [QueueSpec.isEmpty, view_pending, hp] at hi
    rcases hq : q.isEmpty with ⟨b, q'⟩
    rw [hq] at hi
    simp only [Prod.map, id, Prod.mk.injEq] at hi
    obtain ⟨rfl, hv⟩ := hi
    simp only [if_true, Prod.map, id, hv]
  | cons e rest =>
    -- something pending: no compaction, and the head is `e`
    have hlt : q.head < q.tail := by
      have hne : ¬ q.tail ≤ q.head := fun h => by
        rw [(pending_eq_nil_iff q).2 h] at hp
        cases hp
      omega
    have hq : q.isEmpty = (false, q) := by simp [isEmpty, hlt]
    have hpeek : q.peekFront = .ok e := by rw [peekFront_eq, QueueSpec.peek, view_pending, hp]
    simp only [hq, hpeek, Bool.false_eq_true, if_false]
    by_cases hdue : e.isDue now
    · -- a due head is popped
      have hpop := popFront_view q
      rw [QueueSpec.pop, view_pending, hp] at hpop
      rcases hpo : q.popFront with err | ⟨x, q'⟩
      · rw [hpo] at hpop
        cases hpop
      · rw [hpo] at hpop
        simp only [Except.map, Prod.map, id, Except.ok.injEq, Prod.mk.injEq] at hpop
        obtain ⟨rfl, hv⟩ := hpop
        simp [hdue, hv]
    · simp [hdue]

theorem takeDueHead_conserves (q : TaskQueue) (now : Millis) :
    (q.takeDueHead now).1.toList ++ (q.takeDueHead now).2.pending = q.pending := by
  have h := congrArg (fun x => x.1.toList ++ x.2.pending) (takeDueHead_view q now)
  simpa [QueueSpec.takeDue_conserves] using h

theorem takeDueHead_capacity (q : TaskQueue) (now : Millis) :
    (q.takeDueHead now).2.capacity = q.capacity := by
  have h := congrArg (fun x => x.2.capacity) (takeDueHead_view q now)
  simpa [QueueSpec.takeDue_capacity] using h

/-- a take that hands over an entry moves the head one slot on -/
theorem takeDueHead_some {q q' : TaskQueue} {now : Millis} {e : TaskEntry}
    (h : q.takeDueHead now = (some e, q')) :
    q.head < q.capacity ∧ q'.head = q.head + 1 ∧ q'.capacity = q.capacity := by
  have hv := takeDueHead_view q now
  rw [h] at hv
  obtain ⟨hpend, hused, hcap⟩ := QueueSpec.takeDue_some hv.symm
  simp only [view_pending, view_used, view_capacity] at hpend hused hcap
  -- one entry fewer pending over the same used slots: the head moved by one
  have hlen := congrArg List.length hpend
  rw [List.length_cons, length_pending, length_pending, hused] at hlen
  have hle := q.tail_le_length
  have hle' := q'.head_le_tail
  rw [hused] at hle'
  refine ⟨?_, by omega, hcap⟩
  show q.head < q.slots.length
  omega

theorem isEmpty_pending (q : TaskQueue) : q.isEmpty.2.pending = q.pending := by
  have h := congrArg (fun x => x.2.pending) (isEmpty_view q)
  simpa [QueueSpec.isEmpty_pending] using h

theorem isEmpty_capacity (q : TaskQueue) : q.isEmpty.2.capacity = q.capacity := by
  have h := congrArg (fun x => x.2.capacity) (isEmpty_view q)
  simpa [QueueSpec.isEmpty_capacity] using h

/-- a push is refused, with the capacity, exactly when no slot is free -/
theorem pushTask_eq_error_iff (q : TaskQueue) (e : TaskEntry) :
    q.pushTask e = .error (.queueFull q.capacity) ↔ q.freeSlots = 0 := by
  have := q.tail_le_length
  unfold pushTask freeSlots capacity
  by_cases hf : q.tail = q.slots.length
  · simp [hf]
  · simp only [hf, dite_false, reduceCtorEq, false_iff]
    omega

theorem pushTask_isOk_iff (q : TaskQueue) (e : TaskEntry) :
    (∃ r, q.pushTask e = .ok r) ↔ 0 < q.freeSlots := by
  have := q.tail_le_length
  unfold pushTask freeSlots capacity
  by_cases hf : q.tail = q.slots.length
  · simp [hf]
  · simp only [hf, dite_false, Except.ok.injEq, exists_eq', true_iff]
    omega

end TaskQueue

/-! ## runs of lock steps -/

/-- one step under the queue lock -/
inductive LockStep where
  /-- a producer's `with` block: a push, then appends to the entry just pushed -/
  | block (producer : Nat) (e : TaskEntry) (as : List ArgOp)
  | isEmpty
  | len
  | reset
  /-- the dispatcher's `take_due_head` at time `now` -/
  | take (now : Millis)
deriving DecidableEq

/-- the shared queue and what has gone through it -/
structure SharedRun where
  queue : TaskQueue
  /-- entries the dispatcher took, in order -/
  taken : List TaskEntry
  /-- accepted blocks in lock order: the producer, and its entry with its own appends made -/
  accepted : List (Nat × TaskEntry)

namespace SharedRun

def start (c : Nat) : SharedRun := ⟨TaskQueue.new c, [], []⟩

def step (s : SharedRun) : LockStep → SharedRun
  | .block p e as =>
    match s.queue.pushTask e with
    | .ok (_, q) =>
      { s with queue := q.withArgs as, accepted := s.accepted ++ [(p, e.withArgs as)] }
    | .error _ => s
  | .isEmpty => { s with queue := s.queue.isEmpty.2 }
  | .len => s
  | .reset => { s with queue := s.queue.reset }
  | .take now =>
    let (e, q) := s.queue.takeDueHead now
    { s with queue := q, taken := s.taken ++ e.toList }

def run (s : SharedRun) (steps : List LockStep) : SharedRun := steps.foldl step s

/-- the taken entries followed by the pending ones are the accepted ones, in lock order -/
def Conserved (s : SharedRun) : Prop := s.taken ++ s.queue.pending = s.accepted.map Prod.snd

theorem start_conserved (c : Nat) : (start c).Conserved := by
  simp [Conserved, start, TaskQueue.new, TaskQueue.pending]

theorem step_capacity (s : SharedRun) (st : LockStep) :
    (s.step st).queue.capacity = s.queue.capacity := by
  cases st with
  | block p e as =>
    rcases hp : s.queue.pushTask e with err | ⟨i, q⟩
    · simp [step, hp]
    · simp only [step, hp]
      rw [← TaskQueue.view_capacity, TaskQueue.pushTask_withArgs_view hp as]
  | isEmpty => exact TaskQueue.isEmpty_capacity s.queue
  | len => rfl
  | reset => simp [step, TaskQueue.reset, TaskQueue.capacity]
  | take now => exact TaskQueue.takeDueHead_capacity s.queue now

/-- every lock step but a reset keeps the accepted entries where they were -/
theorem step_conserved {s : SharedRun} (h : s.Conserved) {st : LockStep} (hst : st ≠ .reset) :
    (s.step st).Conserved := by
  cases st with
  | block p e as =>
    rcases hp : s.queue.pushTask e with err | ⟨i, q⟩
    · -- refused: nothing changes
      simpa [step, hp] using h
    · -- accepted: the entry, with the block's appends, joins the back
      have hpend : (q.withArgs as).pending = s.queue.pending ++ [e.withArgs as] := by
        rw [← TaskQueue.view_pending, TaskQueue.pushTask_withArgs_view hp as]
      simp only [Conserved, step, hp, hpend, List.map_append, List.map_cons, List.map_nil]
      rw [← h, List.append_assoc]
  | isEmpty =>
    simpa [Conserved, step, TaskQueue.isEmpty_pending] using h
  | len => exact h
  | reset => exact absurd rfl hst
  | take now =>
    -- the take hands over the head of the pending entries, or nothing
    have hc := TaskQueue.takeDueHead_conserves s.queue now
    simp only [Conserved, step]
    rw [List.append_assoc, hc]
    exact h

theorem run_conserved {s : SharedRun} (h : s.Conserved) {steps : List LockStep}
    (hs : LockStep.reset ∉ steps) : (s.run steps).Conserved := by
  induction steps generalizing s with
  | nil => exact h
  | cons st steps ih =>
    have hst : st ≠ .reset := fun e => hs (e ▸ List.mem_cons_self)
    exact ih (step_conserved h hst) (fun hm => hs (List.mem_cons_of_mem _ hm))

theorem run_capacity (s : SharedRun) (steps : List LockStep) :
    (s.run steps).queue.capacity = s.queue.capacity := by
  induction steps generalizing s with
  | nil => rfl
  | cons st steps ih =>
    show (run (s.step st) steps).queue.capacity = _
    rw [ih, step_capacity]

end SharedRun

/-- **Nothing is lost or duplicated on the shared queue.**  Start from a new queue of capacity
`c` and run any interleaving of producers' blocks, emptiness tests, length reads and the
dispatcher's takes, with no reset.  The entries the dispatcher took, followed by those still
pending, are the accepted blocks' entries in lock order, each with the payload appended in
its own block: compactions lose nothing and takes follow lock order.  At that point a push is
accepted exactly when a slot is free, and otherwise refused with `QueueFull` and the capacity
`max c 1`. -/
theorem shared_queue_conserves_entries (c : Nat) (steps : List LockStep)
    (h : LockStep.reset ∉ steps) :
    let s := (SharedRun.start c).run steps
    s.taken ++ s.queue.pending = s.accepted.map Prod.snd ∧
      ∀ e, ((∃ r, s.queue.pushTask e = .ok r) ↔ 0 < s.queue.freeSlots) ∧
        (s.queue.pushTask e = .error (.queueFull (max c 1)) ↔ s.queue.freeSlots = 0) := by
  intro s
  have hcap : s.queue.capacity = max c 1 := by
    rw [SharedRun.run_capacity]
    simp [SharedRun.start, TaskQueue.new, TaskQueue.capacity]
  refine ⟨SharedRun.run_conserved (SharedRun.start_conserved c) h, fun e => ⟨TaskQueue.pushTask_isOk_iff _ e, ?_⟩⟩
  rw [← hcap]
  exact TaskQueue.pushTask_eq_error_iff _ e

/-- two producers and a take, with the drained queue compacted in between -/
theorem shared_queue_two_producers :
    LockStep.reset ∉ [.block 0 (TaskEntry.new 1 2) [.bytes [7], .set [8, 9]], .take 0,
      .isEmpty, .block 1 (TaskEntry.scheduled 2 3 5) [.bytes (List.replicate 60 0)]] ∧
      let s := (SharedRun.start 1).run [.block 0 (TaskEntry.new 1 2) [.bytes [7], .set [8, 9]],
        .take 0, .isEmpty, .block 1 (TaskEntry.scheduled 2 3 5) [.bytes (List.replicate 60 0)]]
      s.taken ++ s.queue.pending = s.accepted.map Prod.snd ∧
        ∀ e, ((∃ r, s.queue.pushTask e = .ok r) ↔ 0 < s.queue.freeSlots) ∧
          (s.queue.pushTask e = .error (.queueFull (max 1 1)) ↔ s.queue.freeSlots = 0) :=
  ⟨by decide, shared_queue_conserves_entries 1 _ (by decide)⟩

example : ((SharedRun.start 1).run [.block 0 (TaskEntry.new 1 2) [.bytes [7], .set [8, 9]],
    .take 0, .isEmpty, .block 1 (TaskEntry.scheduled 2 3 5) [.bytes (List.replicate 60 0)]]).taken
    = [{ module := 1, service := 2, args := [8, 9] }] := by decide

end RoverKernel
