import RoverKernel.Task

/-!
# Dispatch event log

A ring of `capacity` records, one per entry the dispatcher pops, delivered or not.
`record` writes at `writePos` and advances it modulo the capacity, so once the ring is full
each record overwrites the oldest one; `total` counts every record since the last reset.
`chronological` lists the retained records oldest first, `recent` newest first.
-/

namespace RoverKernel

/-- what happened to a popped entry -/
inductive DispatchEvent where
  | invoked
  /-- no module is registered at the entry's identifier -/
  | skippedUnknownModule
  /-- the payload exceeds the module's buffer -/
  | skippedPayloadTooLarge
deriving DecidableEq, Repr, Inhabited

/-- the event's name in capitals -/
def DispatchEvent.name : DispatchEvent → String
  | .invoked => "INVOKED"
  | .skippedUnknownModule => "SKIPPED_UNKNOWN_MODULE"
  | .skippedPayloadTooLarge => "SKIPPED_PAYLOAD_TOO_LARGE"

/-- one popped entry -/
structure DispatchRecord where
  timestamp : Millis := 0
  module : Nat := 0
  service : Nat := 0
  due : Millis := 0
  argLen : Nat := 0
  event : DispatchEvent := .invoked
deriving DecidableEq, Repr, Inhabited

/-- the record of `entry` popped at `now` -/
def DispatchRecord.ofEntry (now : Millis) (entry : TaskEntry) (event : DispatchEvent) :
    DispatchRecord :=
  { timestamp := now, module := entry.module, service := entry.service, due := entry.due,
    argLen := entry.argLen, event }

/-- default number of records kept -/
def defaultEventLogCapacity : Nat := 64

structure EventLog where
  /-- number of records kept, at least one -/
  capacity : Nat
  /-- the ring, `capacity` records long -/
  records : List DispatchRecord
  /-- where the next record goes -/
  writePos : Nat
  /-- records written since the last reset -/
  total : Nat
deriving DecidableEq, Repr, Inhabited

namespace EventLog

/-- an empty log keeping `capacity` records (at least one) -/
def new (capacity : Nat) : EventLog :=
  let c := max capacity 1
  ⟨c, List.replicate c default, 0, 0⟩

def len (l : EventLog) : Nat := min l.total l.capacity

/-- whether nothing has been recorded since the last reset -/
def isEmpty (l : EventLog) : Bool := l.total == 0

/-- writes a record over the oldest slot -/
def record (l : EventLog) (r : DispatchRecord) : EventLog :=
  { l with records := l.records.set l.writePos r,
           writePos := (l.writePos + 1) % l.capacity,
           total := l.total + 1 }

/-- the retained records, oldest first -/
def chronological (l : EventLog) : List DispatchRecord :=
  let start := if l.len = l.capacity then l.writePos else 0
  (List.range l.len).map fun i => l.records.getD ((start + i) % l.capacity) default

/-- up to `count` retained records, newest first -/
def recent (l : EventLog) (count : Nat) : List DispatchRecord :=
  (List.range (min count l.len)).map fun i =>
    l.records.getD ((l.writePos + l.capacity - 1 - i) % l.capacity) default

def reset (l : EventLog) : EventLog := new l.capacity

end EventLog

end RoverKernel
