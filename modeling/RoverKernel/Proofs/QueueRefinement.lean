import RoverKernel.Queue

/-!
# The slot array refines a list of pending entries

`TaskQueue` keeps its entries in a slot array allocated once, with two indices.  What its
documentation promises is the behaviour of a much simpler object, `QueueSpec`: the pending
entries, oldest first, and the number of slots used since the last compaction, out of a fixed
capacity.  Here the first is shown to implement the second.

* `TaskQueue.view`        the abstraction: the capacity, `tail` as the slots used, and the
                          slots from `head` to `tail` as the pending entries;
* `getElem?_pending`      the `i`-th pending entry is slot `head + i`: no other slot is read;
* `pushTask_view`, `popFront_view`, `peekFront_eq`, `at?_eq`, `isEmpty_view`, `reset_view`,
  `modifyLast_view`       one commuting square per operation, error paths included;
* `TaskQueue.apply`, `QueueSpec.apply`   every operation of the queue as one step;
* `run_new_refines`       for every sequence of operations on a new queue, the replies are
                          those of the abstract queue, and so is the final state.

No invariant is needed beyond the one `TaskQueue` carries (`head ≤ tail ≤` capacity): the
popped slots below `head` and the free slots from `tail` on are never read, so `reset` and
the compaction in `isEmpty` only have to rewind the indices.
-/

namespace RoverKernel

/-! ## the abstract queue -/

/-- the queue as documented: the pending entries, oldest first, and the slots used since the
last compaction, out of `capacity` -/
structure QueueSpec where
  capacity : Nat
  used : Nat
  pending : List TaskEntry
deriving DecidableEq, Repr

namespace QueueSpec

/-- the queue `TaskQueue.new c` stands for -/
def init (c : Nat) : QueueSpec := ⟨max c 1, 0, []⟩

def push (s : QueueSpec) (e : TaskEntry) : KernelResult (Nat × QueueSpec) :=
  if s.used = s.capacity then .error (.queueFull s.capacity)
  else .ok (s.used, { s with used := s.used + 1, pending := s.pending ++ [e] })

def pop (s : QueueSpec) : KernelResult (TaskEntry × QueueSpec) :=
  match s.pending with
  | [] => .error .emptyQueueAccess
  | e :: rest => .ok (e, { s with pending := rest })

def peek (s : QueueSpec) : KernelResult TaskEntry :=
  match s.pending with
  | [] => .error .emptyQueueAccess
  | e :: _ => .ok e

/-- a queue found empty gets all its slots back -/
def isEmpty (s : QueueSpec) : Bool × QueueSpec :=
  match s.pending with
  | [] => (true, { s with used := 0 })
  | _ => (false, s)

def reset (s : QueueSpec) : QueueSpec := { s with used := 0, pending := [] }

/-- applies an entry operation to the newest pending entry; a failure changes nothing -/
def modifyLast (s : QueueSpec) (f : TaskEntry → KernelResult TaskEntry) :
    KernelResult QueueSpec :=
  match s.pending.getLast? with
  | none => .error .emptyQueueAccess
  | some e => do
    let e' ← f e
    pure { s with pending := s.pending.dropLast ++ [e'] }

end QueueSpec

/-! ## the abstraction -/

namespace TaskQueue

/-- what a slot array means: its capacity, the slots used and the pending entries -/
def view (q : TaskQueue) : QueueSpec := ⟨q.capacity, q.tail, q.pending⟩

@[simp] theorem view_capacity (q : TaskQueue) : q.view.capacity = q.capacity := rfl
@[simp] theorem view_used (q : TaskQueue) : q.view.used = q.tail := rfl
@[simp] theorem view_pending (q : TaskQueue) : q.view.pending = q.pending := rfl

theorem length_pending (q : TaskQueue) : q.pending.length = q.tail - q.head := by
  have := q.tail_le_length
  simp [pending]
  omega

theorem getElem?_pending (q : TaskQueue) (i : Nat) :
    q.pending[i]? = if q.head + i < q.tail then q.slots[q.head + i]? else none := by
  simp [pending, List.getElem?_take]

/-- the head is as far behind the tail as there are pending entries -/
theorem head_eq (q : TaskQueue) : q.head = q.tail - q.pending.length := by
  have := q.head_le_tail
  rw [length_pending]
  omega

theorem pending_eq_nil_iff (q : TaskQueue) : q.pending = [] ↔ q.tail ≤ q.head := by
  rw [← List.length_eq_zero_iff, length_pending]
  omega

theorem len_eq (q : TaskQueue) : q.len = q.pending.length := by
  rw [length_pending]
  rfl

theorem freeSlots_eq (q : TaskQueue) : q.freeSlots = q.view.capacity - q.view.used := rfl

theorem at?_eq (q : TaskQueue) (i : Nat) : q.at? i = q.pending[i]? := by
  rw [getElem?_pending]
  rfl

theorem new_view (c : Nat) : (new c).view = QueueSpec.init c := by
  simp [view, new, capacity, pending, QueueSpec.init]

/-! ## which slots the operations touch -/

/-- slot `tail` filled and `tail` moved past it: one more pending entry, at the back -/
theorem pending_push (q r : TaskQueue) (e : TaskEntry) (hs : r.slots = q.slots.set q.tail e)
    (hh : r.head = q.head) (ht : r.tail = q.tail + 1) (hlt : q.tail < q.slots.length) :
    r.pending = q.pending ++ [e] := by
  have hle := q.head_le_tail
  apply List.ext_getElem?
  intro i
  rw [getElem?_pending, List.getElem?_append, length_pending, getElem?_pending, hs, hh, ht,
    List.getElem?_set]
  by_cases hi : q.head + i < q.tail
  · -- a slot that was already pending
    simp [hi, show q.head + i < q.tail + 1 by omega, show i < q.tail - q.head by omega,
      show q.tail ≠ q.head + i by omega]
  · by_cases he : q.head + i = q.tail
    · -- the slot just filled
      simp [he, hlt, show ¬ i < q.tail - q.head by omega, show i - (q.tail - q.head) = 0 by omega]
    · -- past the new tail
      simp [show ¬ q.head + i < q.tail + 1 by omega, show ¬ i < q.tail - q.head by omega]
      omega

/-- slot `tail - 1` rewritten: the newest pending entry replaced -/
theorem pending_write_last (q : TaskQueue) (e : TaskEntry) (h : q.head < q.tail) :
    (q.write (q.tail - 1) e).pending = q.pending.dropLast ++ [e] := by
  have hl := q.tail_le_length
  apply List.ext_getElem?
  intro i
  rw [getElem?_pending, List.getElem?_append, List.getElem?_dropLast, List.length_dropLast,
    length_pending, getElem?_pending]
  simp only [write, List.getElem?_set]
  by_cases hi : q.head + i < q.tail - 1
  · -- an older pending entry
    simp [show q.head + i < q.tail by omega, show i < q.tail - q.head - 1 by omega,
      show q.tail - 1 ≠ q.head + i by omega]
  · by_cases he : q.head + i = q.tail - 1
    · -- the newest one
      simp [he, show q.tail - 1 < q.tail by omega, show ¬ i < q.tail - q.head - 1 by omega,
        show i - (q.tail - q.head - 1) = 0 by omega, show q.tail - 1 < q.slots.length by omega]
    · -- past the tail
      simp [show ¬ q.head + i < q.tail by omega, show ¬ i < q.tail - q.head - 1 by omega]
      omega

/-- the newest pending entry sits in slot `tail - 1` -/
theorem getLast?_pending (q : TaskQueue) (h : q.head < q.tail) :
    q.pending.getLast? = q.slots[q.tail - 1]? := by
  rw [List.getLast?_eq_getElem?, length_pending, getElem?_pending,
    if_pos (show q.head + (q.tail - q.head - 1) < q.tail by omega)]
  congr 1
  omega

/-- the oldest pending entry sits in slot `head`, the others behind it -/
theorem pending_eq_cons (q : TaskQueue) (h : q.head < q.tail) (hs : q.head < q.slots.length) :
    q.pending = q.slots[q.head] :: (q.slots.take q.tail).drop (q.head + 1) := by
  rw [pending, List.drop_eq_getElem_cons (by simp; omega), List.getElem_take]

/-! ## one square per operation -/

theorem pushTask_view (q : TaskQueue) (e : TaskEntry) :
    (q.pushTask e).map (Prod.map id view) = q.view.push e := by
  unfold pushTask QueueSpec.push
  by_cases h : q.tail = q.capacity
  · simp [h, Except.map]
  · have hlt : q.tail < q.slots.length := Nat.lt_of_le_of_ne q.tail_le_length h
    simp only [h, dite_false, view_used, view_capacity, view_pending, if_false, Except.map,
      Prod.map, id]
    refine congrArg (fun s => Except.ok (q.tail, s)) ?_
    simp only [view, QueueSpec.mk.injEq, capacity, write, List.length_set, true_and]
    refine pending_push q _ e ?_ ?_ ?_ hlt <;> rfl

/-- an accepted push puts the entry behind the pending ones, in slot `tail` -/
theorem pushTask_ok {q q' : TaskQueue} {e : TaskEntry} {i : Nat}
    (h : q.pushTask e = .ok (i, q')) :
    i = q.tail ∧ q'.view = ⟨q.capacity, q.tail + 1, q.pending ++ [e]⟩ := by
  have hv := pushTask_view q e
  rw [h, QueueSpec.push] at hv
  by_cases hf : q.tail = q.capacity
  · simp [hf, Except.map] at hv
  · simp only [view_used, view_capacity, hf, if_false, Except.map, Prod.map, id, Except.ok.injEq,
      Prod.mk.injEq] at hv
    exact hv

theorem popFront_view (q : TaskQueue) : q.popFront.map (Prod.map id view) = q.view.pop := by
  unfold popFront QueueSpec.pop
  by_cases h : q.tail ≤ q.head
  · simp [h, (pending_eq_nil_iff q).2 h, Except.map]
  · have hs : q.head < q.slots.length := by have := q.tail_le_length; omega
    simp only [h, dite_false, view_pending, pending_eq_cons q (by omega) hs, Except.map]
    rfl

theorem peekFront_eq (q : TaskQueue) : q.peekFront = q.view.peek := by
  unfold peekFront QueueSpec.peek
  by_cases h : q.tail ≤ q.head
  · simp [h, (pending_eq_nil_iff q).2 h]
  · have hs : q.head < q.slots.length := by have := q.tail_le_length; omega
    simp [h, pending_eq_cons q (by omega) hs]

theorem reset_view (q : TaskQueue) : q.reset.view = q.view.reset := by
  simp [view, reset, QueueSpec.reset, capacity, pending]

/-- the compaction of a drained queue is invisible but for the slots it gives back -/
theorem isEmpty_view (q : TaskQueue) : Prod.map id view q.isEmpty = q.view.isEmpty := by
  unfold isEmpty QueueSpec.isEmpty
  by_cases h : q.head < q.tail
  · have hne : q.pending ≠ [] := by rw [Ne, pending_eq_nil_iff]; omega
    obtain ⟨x, xs, hx⟩ := List.exists_cons_of_ne_nil hne
    simp only [h, if_true, view_pending, hx]
    rfl
  · have hnil : q.pending = [] := (pending_eq_nil_iff q).2 (by omega)
    simp only [h, if_false, view_pending, hnil]
    by_cases hc : q.tail ≠ 0 ∧ q.head = q.tail
    · -- a drained queue is rewound
      rw [if_pos hc]
      simp [view, reset, capacity, pending]
    · -- nothing was pushed since the last rewind
      have ht : q.tail = 0 := by have := q.head_le_tail; omega
      rw [if_neg hc]
      simp [view, ht, hnil]

theorem modifyLast_view (q : TaskQueue) (f : TaskEntry → KernelResult TaskEntry) :
    (q.modifyLast f).map view = q.view.modifyLast f := by
  unfold modifyLast QueueSpec.modifyLast
  by_cases h : q.tail ≤ q.head
  · simp [h, (pending_eq_nil_iff q).2 h, Except.map]
  · have hs : q.tail - 1 < q.slots.length := by have := q.tail_le_length; omega
    rw [view_pending, getLast?_pending q (by omega), List.getElem?_eq_getElem hs]
    simp only [h, dite_false]
    cases f q.slots[q.tail - 1] with
    | error err => rfl
    | ok e' =>
      show Except.ok (q.write (q.tail - 1) e').view = Except.ok _
      rw [view, pending_write_last q e' (by omega)]
      simp [capacity, write]

end TaskQueue

/-! ## every operation, and runs of them -/

/-- an operation on the payload of the newest pending entry -/
inductive ArgOp where
  | bytes (bs : List UInt8)
  | float (v : F32)
  | numeric (text : List UInt8)
  | set (bs : List UInt8)
deriving DecidableEq, Repr

/-- the operation on the entry itself -/
def ArgOp.onEntry : ArgOp → TaskEntry → KernelResult TaskEntry
  | .bytes bs, e => e.appendBytes bs
  | .float v, e => e.appendF32 v
  | .numeric text, e => e.appendNumeric text
  | .set bs, e => e.setArgs bs

/-- the queue's own operation: `append_argument_bytes`, `append_argument_float`,
`append_argument_numeric` or `set_argument_bytes` -/
def ArgOp.onQueue : ArgOp → TaskQueue → KernelResult TaskQueue
  | .bytes bs, q => q.appendArgumentBytes bs
  | .float v, q => q.appendArgumentFloat v
  | .numeric text, q => q.appendArgumentNumeric text
  | .set bs, q => q.setArgumentBytes bs

theorem ArgOp.onQueue_eq (a : ArgOp) (q : TaskQueue) : a.onQueue q = q.modifyLast a.onEntry := by
  cases a <;> rfl

/-- appends made one after another; one that fails changes nothing and the ones after it still
run (a producer that stops at its first failure made the appends before it) -/
def TaskEntry.withArgs (e : TaskEntry) : List ArgOp → TaskEntry
  | [] => e
  | a :: as =>
    match a.onEntry e with
    | .ok e' => e'.withArgs as
    | .error _ => e.withArgs as

/-- the same appends made through the queue -/
def TaskQueue.withArgs (q : TaskQueue) : List ArgOp → TaskQueue
  | [] => q
  | a :: as =>
    match a.onQueue q with
    | .ok q' => q'.withArgs as
    | .error _ => q.withArgs as

/-- an operation through the queue lands on the newest pending entry and nowhere else -/
theorem TaskQueue.modifyLast_of_pending {q : TaskQueue} {p : List TaskEntry} {e : TaskEntry}
    (h : q.pending = p ++ [e]) (f : TaskEntry → KernelResult TaskEntry) :
    (q.modifyLast f).map view = (f e).map fun e' => ⟨q.capacity, q.tail, p ++ [e']⟩ := by
  rw [modifyLast_view, QueueSpec.modifyLast, view_pending, h, List.getLast?_concat,
    List.dropLast_concat]
  cases hf : f e <;> simp only [hf, Except.map] <;> rfl

/-- **Appends through the queue are appends to the newest entry.**  While the entry pushed
last is still pending, appending through the queue changes that entry as appending to it
directly would, and leaves the other entries, the slots used and the capacity alone. -/
theorem TaskQueue.withArgs_view (q : TaskQueue) (p : List TaskEntry) (e : TaskEntry)
    (h : q.pending = p ++ [e]) (as : List ArgOp) :
    (q.withArgs as).view = ⟨q.capacity, q.tail, p ++ [e.withArgs as]⟩ := by
  induction as generalizing q e with
  | nil => simp [withArgs, TaskEntry.withArgs, view, h]
  | cons a as ih =>
    have hm := modifyLast_of_pending h a.onEntry
    rw [← ArgOp.onQueue_eq] at hm
    cases hq : a.onQueue q with
    | error err =>
      -- the append failed on the entry itself: nothing changed
      rw [hq] at hm
      cases he : a.onEntry e with
      | error _ => simp only [withArgs, hq, TaskEntry.withArgs, he, ih q e h]
      | ok e' => simp [he, Except.map] at hm
    | ok q' =>
      rw [hq] at hm
      cases he : a.onEntry e with
      | error _ => simp [he, Except.map] at hm
      | ok e' =>
        -- the newest entry became `e'`, and the rest of the appends go to it
        simp only [he, Except.map, Except.ok.injEq] at hm
        have hp : q'.pending = p ++ [e'] := by rw [← view_pending, hm]
        simp only [withArgs, hq, TaskEntry.withArgs, he, ih q' e' hp, ← view_capacity,
          ← view_used, hm]

/-- a push followed by appends to the pushed entry: the entry joins the back of the queue with
every append that succeeded -/
theorem TaskQueue.pushTask_withArgs_view {q q' : TaskQueue} {e : TaskEntry} {i : Nat}
    (h : q.pushTask e = .ok (i, q')) (as : List ArgOp) :
    (q'.withArgs as).view = ⟨q.capacity, q.tail + 1, q.pending ++ [e.withArgs as]⟩ := by
  obtain ⟨-, hv⟩ := pushTask_ok h
  have hq : q'.pending = q.pending ++ [e] := by rw [← view_pending, hv]
  rw [withArgs_view q' _ e hq as, ← view_capacity q', ← view_used q', hv]

/-- the operations of a task queue, with their arguments -/
inductive QueueOp where
  | pushBack (module service : Nat)
  | pushBackSync (module service due : Nat)
  | pushTask (e : TaskEntry)
  | popFront
  | peekFront
  | lookup (i : Nat)
  | isEmpty
  | reset
  | args (a : ArgOp)
  | len
  | freeSlots

/-- what an operation answers -/
inductive QueueReply where
  | slot (r : KernelResult Nat)
  | entry (r : KernelResult TaskEntry)
  | found (e : Option TaskEntry)
  | flag (b : Bool)
  | done (r : KernelResult Unit)
  | count (n : Nat)
  | nothing

/-- a failed operation answers its error and keeps the state -/
def settle {σ α : Type} (wrap : KernelResult α → QueueReply) (s : σ) :
    KernelResult (α × σ) → QueueReply × σ
  | .ok (a, s') => (wrap (.ok a), s')
  | .error err => (wrap (.error err), s)

theorem settle_map {σ τ α : Type} (f : σ → τ) (wrap : KernelResult α → QueueReply) (s : σ)
    (x : KernelResult (α × σ)) :
    Prod.map id f (settle wrap s x) = settle wrap (f s) (x.map (Prod.map id f)) := by
  cases x <;> rfl

def TaskQueue.apply (q : TaskQueue) : QueueOp → QueueReply × TaskQueue
  | .pushBack m sv => settle .slot q (q.pushBack m sv)
  | .pushBackSync m sv due => settle .slot q (q.pushBackSync m sv due)
  | .pushTask e => settle .slot q (q.pushTask e)
  | .popFront => settle .entry q q.popFront
  | .peekFront => (.entry q.peekFront, q)
  | .lookup i => (.found (q.at? i), q)
  | .isEmpty => Prod.map .flag id q.isEmpty
  | .reset => (.nothing, q.reset)
  | .args a => settle .done q ((a.onQueue q).map ((), ·))
  | .len => (.count q.len, q)
  | .freeSlots => (.count q.freeSlots, q)

def QueueSpec.apply (s : QueueSpec) : QueueOp → QueueReply × QueueSpec
  | .pushBack m sv => settle .slot s (s.push (TaskEntry.new m sv))
  | .pushBackSync m sv due => settle .slot s (s.push (TaskEntry.scheduled m sv due))
  | .pushTask e => settle .slot s (s.push e)
  | .popFront => settle .entry s s.pop
  | .peekFront => (.entry s.peek, s)
  | .lookup i => (.found s.pending[i]?, s)
  | .isEmpty => Prod.map .flag id s.isEmpty
  | .reset => (.nothing, s.reset)
  | .args a => settle .done s ((s.modifyLast a.onEntry).map ((), ·))
  | .len => (.count s.pending.length, s)
  | .freeSlots => (.count (s.capacity - s.used), s)

/-- runs operations in order, collecting the replies -/
def runOps {σ : Type} (step : σ → QueueOp → QueueReply × σ) : σ → List QueueOp → List QueueReply × σ
  | s, [] => ([], s)
  | s, op :: ops =>
    let (r, s') := step s op
    let (rs, s'') := runOps step s' ops
    (r :: rs, s'')

/-- a run of squares is a square -/
theorem runOps_map {σ τ : Type} (step : σ → QueueOp → QueueReply × σ)
    (step' : τ → QueueOp → QueueReply × τ) (f : σ → τ)
    (h : ∀ s op, Prod.map id f (step s op) = step' (f s) op) (s : σ) (ops : List QueueOp) :
    Prod.map id f (runOps step s ops) = runOps step' (f s) ops := by
  induction ops generalizing s with
  | nil => rfl
  | cons op ops ih =>
    -- the first step commutes, then the rest of the run does
    simp only [runOps]
    rw [← h s op, Prod.map_snd, ← ih]
    rfl

/-- one operation on the slots, seen through the abstraction, is the abstract operation -/
theorem TaskQueue.apply_view (q : TaskQueue) (op : QueueOp) :
    Prod.map id TaskQueue.view (q.apply op) = q.view.apply op := by
  cases op with
  | pushBack m sv => rw [apply, settle_map, QueueSpec.apply, pushBack, pushTask_view]
  | pushBackSync m sv due => rw [apply, settle_map, QueueSpec.apply, pushBackSync, pushTask_view]
  | pushTask e => rw [apply, settle_map, QueueSpec.apply, pushTask_view]
  | popFront => rw [apply, settle_map, QueueSpec.apply, popFront_view]
  | peekFront => simp [apply, QueueSpec.apply, peekFront_eq]
  | lookup i => simp [apply, QueueSpec.apply, at?_eq]
  | isEmpty =>
    rw [apply, QueueSpec.apply, ← isEmpty_view]
    rfl
  | reset => simp [apply, QueueSpec.apply, reset_view]
  | args a =>
    rw [apply, settle_map, QueueSpec.apply, ArgOp.onQueue_eq, ← modifyLast_view]
    cases q.modifyLast a.onEntry <;> rfl
  | len => simp [apply, QueueSpec.apply, len_eq]
  | freeSlots => simp [apply, QueueSpec.apply, freeSlots_eq]

/-- **The slot array refines the abstract queue.**  From a new queue of any capacity, every
sequence of operations gives the replies the abstract queue gives, and leaves the slot array
in a state that means the abstract queue's final state. -/
theorem run_new_refines (c : Nat) (ops : List QueueOp) :
    Prod.map id TaskQueue.view (runOps TaskQueue.apply (TaskQueue.new c) ops) =
      runOps QueueSpec.apply (QueueSpec.init c) ops := by
  rw [runOps_map TaskQueue.apply QueueSpec.apply TaskQueue.view TaskQueue.apply_view,
    TaskQueue.new_view]

end RoverKernel
