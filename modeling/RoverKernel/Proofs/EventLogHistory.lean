import RoverKernel.EventLog
import RoverKernel.Proofs.Rings

/-!
# The event log keeps the last records

An event log of capacity `c` (at least one) that has been handed the records `r₁ … rₙ` since
it was last emptied retains `min n c` of them and counts all `n`.  Its two readers list the
retained records oldest first and newest first, and every index they compute stays inside the
ring and never goes below zero, also when `n` is a multiple of `c`.

* `EventLog.Holds l rs`   the invariant: `total` counts `rs`, the write position is
                          `rs.length % capacity`, and the last records sit in the ring at their
                          index modulo the capacity;
* `EventLog.Holds.record`, `EventLog.new_holds`   writing keeps it, and a new or reset log
                          holds nothing;
* `EventLog.Holds.chronological_eq`, `EventLog.Holds.recent_eq`   what the readers list;
* `EventLog.reads_last_records`   for every capacity and every sequence of records and resets.
-/

namespace RoverKernel

/-- a call on an event log -/
inductive EventLogCall where
  | record (r : DispatchRecord)
  | reset
deriving DecidableEq, Repr

namespace EventLogCall

def isReset : EventLogCall → Bool
  | .record _ => false
  | .reset => true

/-- the record a call writes, if it writes one -/
def written? : EventLogCall → Option DispatchRecord
  | .record r => some r
  | .reset => none

end EventLogCall

namespace EventLog

def apply (l : EventLog) : EventLogCall → EventLog
  | .record r => l.record r
  | .reset => l.reset

/-- `l` holds the records `rs`, the ones written since it was last emptied -/
structure Holds (l : EventLog) (rs : List DispatchRecord) : Prop where
  capacity_pos : 0 < l.capacity
  length_records : l.records.length = l.capacity
  total_eq : l.total = rs.length
  writePos_eq : l.writePos = rs.length % l.capacity
  window : RingWindow l.capacity l.records rs

@[simp] theorem new_capacity (c : Nat) : (new c).capacity = max c 1 := rfl

@[simp] theorem record_capacity (l : EventLog) (r : DispatchRecord) :
    (l.record r).capacity = l.capacity := rfl

theorem new_holds (c : Nat) : (new c).Holds [] where
  capacity_pos := by
    rw [new_capacity]
    omega
  length_records := by simp [new]
  total_eq := rfl
  writePos_eq := by simp [new]
  window := RingWindow.nil _ _

theorem reset_capacity {l : EventLog} (h : 0 < l.capacity) : l.reset.capacity = l.capacity := by
  simp only [reset, new_capacity]
  omega

theorem reset_holds (l : EventLog) : l.reset.Holds [] := new_holds l.capacity

variable {l : EventLog} {rs : List DispatchRecord}

theorem Holds.record (h : l.Holds rs) (r : DispatchRecord) : (l.record r).Holds (rs ++ [r]) where
  capacity_pos := h.capacity_pos
  length_records := by simp [EventLog.record, h.length_records]
  total_eq := by simp [EventLog.record, h.total_eq]
  writePos_eq := by simp [EventLog.record, h.writePos_eq, Nat.add_mod]
  window := by
    simp only [EventLog.record, h.writePos_eq]
    exact h.window.set h.length_records h.capacity_pos r

theorem Holds.records (h : l.Holds rs) (rs' : List DispatchRecord) :
    (rs'.foldl EventLog.record l).Holds (rs ++ rs') := by
  induction rs' generalizing l rs with
  | nil => simpa using h
  | cons r rs' ih =>
    rw [List.foldl_cons, ← List.singleton_append, ← List.append_assoc]
    exact ih (h.record r)

theorem Holds.len_eq (h : l.Holds rs) : l.len = min rs.length l.capacity := by
  rw [len, h.total_eq]

theorem Holds.chronological_eq (h : l.Holds rs) :
    l.chronological = rs.drop (rs.length - l.len) := by
  have hlen := h.len_eq
  -- the oldest retained record is at the write position once the ring is full, else at 0
  have hstart : (if l.len = l.capacity then l.writePos else 0) % l.capacity =
      (rs.length - l.len) % l.capacity := by
    by_cases hfull : l.len = l.capacity
    · have hge : l.capacity ≤ rs.length := by omega
      rw [if_pos hfull, h.writePos_eq, Nat.mod_mod, hfull,
        ← Nat.add_mod_right (rs.length - l.capacity), Nat.sub_add_cancel hge]
    · have heq : l.len = rs.length := by omega
      rw [if_neg hfull, heq, Nat.sub_self]
  exact h.window.map_range (by omega) (by omega) hstart default

theorem Holds.recent_eq (h : l.Holds rs) (k : Nat) :
    l.recent k = rs.reverse.take (min k l.len) := by
  have hlen := h.len_eq
  exact h.window.map_range_rev (by omega) (by omega) h.writePos_eq default

theorem Holds.isEmpty_iff (h : l.Holds rs) : l.isEmpty = true ↔ rs = [] := by
  simp [isEmpty, h.total_eq]

/-- the index `recent` starts from never goes below zero -/
theorem Holds.recent_index (h : l.Holds rs) {i : Nat} (hi : i < l.len) :
    i < l.writePos + l.capacity := by
  have hlen := h.len_eq
  omega

/-- the records written since the last reset -/
def written (calls : List EventLogCall) : List DispatchRecord :=
  (sinceLast EventLogCall.isReset calls).filterMap EventLogCall.written?

theorem written_concat (calls : List EventLogCall) (call : EventLogCall) :
    written (calls ++ [call]) =
      if call.isReset then [] else written calls ++ call.written?.toList := by
  unfold written
  rw [sinceLast_concat]
  cases call <;> simp [EventLogCall.isReset, EventLogCall.written?]

/-- every run from a new log holds what was written since the last reset -/
theorem run_holds (c : Nat) (calls : List EventLogCall) :
    (calls.foldl apply (new c)).Holds (written calls) ∧
      (calls.foldl apply (new c)).capacity = max c 1 := by
  induction calls using List.reverseRecOn with
  | nil => exact ⟨new_holds c, rfl⟩
  | append_singleton calls call ih =>
    obtain ⟨h, hcap⟩ := ih
    rw [List.foldl_concat, written_concat]
    cases call with
    | record r =>
      exact ⟨h.record r, by rw [apply, record_capacity, hcap]⟩
    | reset =>
      exact ⟨reset_holds _, by rw [apply, reset_capacity h.capacity_pos, hcap]⟩

/-- **The event log keeps the last records.**  Take a log of any capacity `c` and any
sequence of records and resets, and let `r₁ … rₙ` be the records since the last reset.  The
log has `max c 1` slots, retains `min n c` records and counts `n`, and is empty exactly when
`n = 0`.  Read oldest first it lists `rₙ₋ₗₑₙ₊₁ … rₙ`; `recent k` lists `rₙ, rₙ₋₁, …`, `min k len`
of them.  The write position is `n mod c`, inside the ring, and the backwards reads of
`recent` start at an index that does not go below zero. -/
theorem reads_last_records (c : Nat) (calls : List EventLogCall) :
    let l := calls.foldl apply (new c)
    let rs := written calls
    l.capacity = max c 1 ∧ l.len = min rs.length l.capacity ∧ l.total = rs.length ∧
      (l.isEmpty = true ↔ rs = []) ∧
      l.chronological = rs.drop (rs.length - l.len) ∧
      (∀ k, l.recent k = rs.reverse.take (min k l.len)) ∧
      l.writePos = rs.length % l.capacity ∧ l.writePos < l.records.length ∧
      (∀ i < l.len, i < l.writePos + l.capacity) := by
  obtain ⟨h, hcap⟩ := run_holds c calls
  refine ⟨hcap, h.len_eq, h.total_eq, h.isEmpty_iff, h.chronological_eq, h.recent_eq,
    h.writePos_eq, ?_, fun i hi => h.recent_index hi⟩
  rw [h.writePos_eq, h.length_records]
  exact Nat.mod_lt _ h.capacity_pos

/-- three records in a ring of two: the first is overwritten, the write position is back at 1 -/
example : ([.record { module := 1 }, .reset, .record { module := 2 }, .record { module := 3 },
    .record { module := 4 }].foldl apply (new 2)).chronological =
      [{ module := 3 }, { module := 4 }] := by decide

end EventLog

end RoverKernel
