import RoverKernel.Task

/-!
# The task queue

A slot array allocated once, and two indices into it: `head` is the next slot to pop and
`tail` the next slot to fill.  The slots below `head` hold entries already popped, the slots
from `head` to `tail` the pending ones, oldest first, and the slots from `tail` on are free.

Indices only move forward: popping never frees a slot.  Slots are reclaimed only by `reset`
and by `isEmpty`, which rewinds a fully drained queue (`head = tail ≠ 0`); until then a queue
whose entries were all popped can still be full.  Every operation here runs under the queue
lock, so it is one atomic step for producers and the dispatcher alike.
-/

namespace RoverKernel

/-- a task queue: the slot array and its two indices, `head ≤ tail ≤` the number of slots -/
structure TaskQueue where
  /-- the slots, one per unit of capacity -/
  slots : List TaskEntry
  /-- next slot to pop -/
  head : Nat
  /-- next slot to fill -/
  tail : Nat
  head_le_tail : head ≤ tail
  tail_le_length : tail ≤ slots.length
  length_pos : 0 < slots.length
deriving DecidableEq, Repr

namespace TaskQueue

/-- an empty queue with `capacity` slots (at least one) -/
def new (capacity : Nat) : TaskQueue where
  slots := List.replicate (max capacity 1) default
  head := 0
  tail := 0
  head_le_tail := Nat.le_refl 0
  tail_le_length := Nat.zero_le _
  length_pos := by rw [List.length_replicate]; omega

instance : Inhabited TaskQueue := ⟨new 1⟩

def capacity (q : TaskQueue) : Nat := q.slots.length

def len (q : TaskQueue) : Nat := q.tail - q.head

/-- slots that pushes can still fill; popped slots do not count until compaction -/
def freeSlots (q : TaskQueue) : Nat := q.capacity - q.tail

/-- the pending entries in dispatch order -/
def pending (q : TaskQueue) : List TaskEntry := (q.slots.take q.tail).drop q.head

/-- the queue with slot `i` overwritten -/
def write (q : TaskQueue) (i : Nat) (e : TaskEntry) : TaskQueue where
  slots := q.slots.set i e
  head := q.head
  tail := q.tail
  head_le_tail := q.head_le_tail
  tail_le_length := by simpa using q.tail_le_length
  length_pos := by simpa using q.length_pos

/-- discards every entry and rewinds both indices -/
def reset (q : TaskQueue) : TaskQueue where
  slots := List.replicate q.capacity default
  head := 0
  tail := 0
  head_le_tail := Nat.le_refl 0
  tail_le_length := Nat.zero_le _
  length_pos := by simpa [capacity] using q.length_pos

/-- whether nothing is pending.  A fully drained queue (`head = tail ≠ 0`) is reset, so its
slots can be reused. -/
def isEmpty (q : TaskQueue) : Bool × TaskQueue :=
  if q.head < q.tail then (false, q)
  else if q.tail ≠ 0 ∧ q.head = q.tail then (true, q.reset)
  else (true, q)

def pushTask (q : TaskQueue) (e : TaskEntry) : KernelResult (Nat × TaskQueue) :=
  if h : q.tail = q.capacity then .error (.queueFull q.capacity)
  else
    have hlt : q.tail < q.slots.length := Nat.lt_of_le_of_ne q.tail_le_length h
    .ok (q.tail, { q.write q.tail e with
      tail := q.tail + 1
      head_le_tail := Nat.le_succ_of_le q.head_le_tail
      tail_le_length := by simpa [write] using Nat.succ_le_of_lt hlt })

/-- pushes an entry due immediately with an empty payload -/
def pushBack (q : TaskQueue) (module service : Nat) : KernelResult (Nat × TaskQueue) :=
  q.pushTask (TaskEntry.new module service)

/-- pushes an entry due at `due` with an empty payload -/
def pushBackSync (q : TaskQueue) (module service due : Nat) : KernelResult (Nat × TaskQueue) :=
  q.pushTask (TaskEntry.scheduled module service due)

/-- removes and returns the entry in slot `head` -/
def popFront (q : TaskQueue) : KernelResult (TaskEntry × TaskQueue) :=
  if h : q.tail ≤ q.head then .error .emptyQueueAccess
  else
    have hlt : q.head < q.slots.length := by have := q.tail_le_length; omega
    .ok (q.slots[q.head], { q with head := q.head + 1, head_le_tail := by omega })

def peekFront (q : TaskQueue) : KernelResult TaskEntry :=
  if h : q.tail ≤ q.head then .error .emptyQueueAccess
  else
    have hlt : q.head < q.slots.length := by have := q.tail_le_length; omega
    .ok q.slots[q.head]

/-- the pending entry `i` places behind the head -/
def at? (q : TaskQueue) (i : Nat) : Option TaskEntry :=
  if q.head + i < q.tail then q.slots[q.head + i]? else none

/-- applies an operation to the entry in slot `tail - 1`, the newest pending one; a failure
changes nothing -/
def modifyLast (q : TaskQueue) (f : TaskEntry → KernelResult TaskEntry) :
    KernelResult TaskQueue :=
  if h : q.tail ≤ q.head then .error .emptyQueueAccess
  else
    have hlt : q.tail - 1 < q.slots.length := by have := q.tail_le_length; omega
    do
      let e ← f q.slots[q.tail - 1]
      pure (q.write (q.tail - 1) e)

def appendArgumentBytes (q : TaskQueue) (bytes : List UInt8) : KernelResult TaskQueue :=
  q.modifyLast (·.appendBytes bytes)

def appendArgumentFloat (q : TaskQueue) (v : F32) : KernelResult TaskQueue :=
  q.modifyLast (·.appendF32 v)

/-- appends parsed decimal text to the newest pending entry -/
def appendArgumentNumeric (q : TaskQueue) (text : List UInt8) : KernelResult TaskQueue :=
  q.modifyLast (·.appendNumeric text)

/-- replaces the payload of the newest pending entry -/
def setArgumentBytes (q : TaskQueue) (bytes : List UInt8) : KernelResult TaskQueue :=
  q.modifyLast (·.setArgs bytes)

end TaskQueue

/-- what became of a push made from inside a module: the slot index, or why it failed -/
inductive PushResult where
  | pushed (index : Nat)
  | refused (e : KernelError)
deriving DecidableEq, Repr

/-- pushes an entry built by `build` (which may fail first), reporting what happened and
leaving the queue unchanged on any failure -/
def TaskQueue.pushBuilt (q : TaskQueue) (build : KernelResult TaskEntry) :
    PushResult × TaskQueue :=
  match build with
  | .error e => (.refused e, q)
  | .ok e =>
    match q.pushTask e with
    | .ok (i, q') => (.pushed i, q')
    | .error err => (.refused err, q)

end RoverKernel
