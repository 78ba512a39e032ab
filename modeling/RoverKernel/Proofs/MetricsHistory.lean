import Mathlib
import RoverKernel.Metrics
import RoverKernel.Proofs.Rings

/-!
# The metrics summarise every callback since the last reset

Dispatch metrics mix two kinds of figures.  The counters, the extremes, the wrapping sum and
the slow count are aggregates over every callback duration recorded since the last reset; the
sample ring keeps only the last `size` of them, at a write position that wraps.  Each figure
of a snapshot is the matching fold of the durations in nanoseconds (saturated at
`2 ^ 64 - 1`), and the retained slots hold exactly the last durations.

* `DispatchMetrics.Tracks`   the invariant relating the metrics to the counts and durations
                             recorded since the last reset;
* `DispatchMetrics.Tracks.invocation`   one recorded callback keeps it; polls, skips and a
                             reset keep it too;
* `ifPos_foldl_min`, `ifPos_foldl_max`   a running minimum from `2 ^ 64 - 1` and a running
                             maximum from `0`, reported only once something was recorded, are
                             the least and greatest value;
* `DispatchMetrics.snapshot_of_history`   for every ring size, threshold and sequence of calls.
-/

namespace RoverKernel

/-- a call on the dispatch metrics -/
inductive MetricsCall where
  | poll
  | skip
  | invocation (d : Duration)
  | reset
deriving DecidableEq, Repr

namespace MetricsCall

def isReset : MetricsCall → Bool
  | .reset => true
  | _ => false

/-- the callback duration a call records, if it records one -/
def duration? : MetricsCall → Option Duration
  | .invocation d => some d
  | _ => none

end MetricsCall

/-- a running minimum from `m`, once anything was seen, is the least value seen -/
theorem ifPos_foldl_min (ns : List Nat) (m : Nat) (hb : ∀ x ∈ ns, x ≤ m) :
    (if 0 < ns.length then some (ns.foldl min m) else none) = ns.min? := by
  rcases hm : ns.min? with _ | a
  · rw [List.min?_eq_none_iff] at hm
    simp [hm]
  · have ha := (List.min?_eq_some_iff.1 hm).1
    rw [if_pos (List.length_pos_of_mem ha), List.foldl_min, hm]
    simp [hb a ha]

/-- a running maximum from `0`, once anything was seen, is the greatest value seen -/
theorem ifPos_foldl_max (ns : List Nat) :
    (if 0 < ns.length then some (ns.foldl max 0) else none) = ns.max? := by
  rcases hm : ns.max? with _ | a
  · rw [List.max?_eq_none_iff] at hm
    simp [hm]
  · have ha := (List.max?_eq_some_iff.1 hm).1
    rw [if_pos (List.length_pos_of_mem ha), List.foldl_max, hm]
    simp

theorem Duration.nanosSat_le (d : Duration) : d.nanosSat ≤ u64Max := Nat.min_le_right _ _

namespace DispatchMetrics

def apply (m : DispatchMetrics) : MetricsCall → DispatchMetrics
  | .poll => m.recordPoll
  | .skip => m.recordSkip
  | .invocation d => (m.recordInvocation d).2
  | .reset => m.reset

/-- `m`, with a ring of `size` samples and a slow threshold of `t` nanoseconds, has counted
`polls` polls, `skips` skipped entries and the callback durations `ns` in nanoseconds -/
structure Tracks (m : DispatchMetrics) (size t polls skips : Nat) (ns : List Nat) : Prop where
  size_pos : 0 < size
  length_samples : m.samples.length = size
  threshold_eq : m.slowThresholdNs = t
  polls_eq : m.polls = polls
  skipped_eq : m.skipped = skips
  invoked_eq : m.invoked = ns.length
  minNs_eq : m.minNs = ns.foldl min u64Max
  maxNs_eq : m.maxNs = ns.foldl max 0
  sumNs_eq : m.sumNs = ns.sum % Nat.pow 2 64
  slowCount_eq : m.slowCount = ns.countP (t < ·)
  bounded : ∀ x ∈ ns, x ≤ u64Max
  writePos_eq : m.writePos = ns.length % size
  sampleCount_eq : m.sampleCount = min ns.length size
  window : RingWindow size m.samples ns

theorem new_tracks (size : Nat) (slow : Duration) :
    (new size slow).Tracks (max size 1) slow.nanosSat 0 0 [] where
  size_pos := by omega
  length_samples := by simp [new]
  threshold_eq := rfl
  polls_eq := rfl
  skipped_eq := rfl
  invoked_eq := rfl
  minNs_eq := rfl
  maxNs_eq := rfl
  sumNs_eq := rfl
  slowCount_eq := rfl
  bounded := by simp
  writePos_eq := by simp [new]
  sampleCount_eq := by simp [new]
  window := RingWindow.nil _ _

variable {m : DispatchMetrics} {size t polls skips : Nat} {ns : List Nat}

theorem Tracks.reset (h : m.Tracks size t polls skips ns) : m.reset.Tracks size t 0 0 [] where
  size_pos := h.size_pos
  length_samples := by simp [DispatchMetrics.reset, h.length_samples]
  threshold_eq := h.threshold_eq
  polls_eq := rfl
  skipped_eq := rfl
  invoked_eq := rfl
  minNs_eq := rfl
  maxNs_eq := rfl
  sumNs_eq := rfl
  slowCount_eq := rfl
  bounded := by simp
  writePos_eq := by simp [DispatchMetrics.reset]
  sampleCount_eq := by simp [DispatchMetrics.reset]
  window := RingWindow.nil _ _

theorem Tracks.poll (h : m.Tracks size t polls skips ns) :
    m.recordPoll.Tracks size t (polls + 1) skips ns :=
  { h with polls_eq := by simp [recordPoll, h.polls_eq] }

theorem Tracks.skip (h : m.Tracks size t polls skips ns) :
    m.recordSkip.Tracks size t polls (skips + 1) ns :=
  { h with skipped_eq := by simp [recordSkip, h.skipped_eq] }

/-- a recorded callback joins every aggregate, and the ring, as its saturated nanoseconds -/
theorem Tracks.invocation (h : m.Tracks size t polls skips ns) (d : Duration) :
    (m.recordInvocation d).2.Tracks size t polls skips (ns ++ [d.nanosSat]) where
  size_pos := h.size_pos
  length_samples := by simp [recordInvocation, h.length_samples]
  threshold_eq := h.threshold_eq
  polls_eq := h.polls_eq
  skipped_eq := h.skipped_eq
  invoked_eq := by simp [recordInvocation, h.invoked_eq]
  minNs_eq := by simp [recordInvocation, h.minNs_eq]
  maxNs_eq := by simp [recordInvocation, h.maxNs_eq]
  sumNs_eq := by
    simp only [recordInvocation, h.sumNs_eq, List.sum_append, List.sum_singleton, Nat.mod_add_mod]
  slowCount_eq := by
    by_cases hs : t < d.nanosSat <;>
      simp [recordInvocation, h.slowCount_eq, h.threshold_eq, hs]
  bounded := by
    intro x hx
    rcases List.mem_append.1 hx with hx | hx
    · exact h.bounded x hx
    · rw [List.mem_singleton.1 hx]
      exact d.nanosSat_le
  writePos_eq := by simp [recordInvocation, h.writePos_eq, h.length_samples, Nat.add_mod]
  sampleCount_eq := by
    simp only [recordInvocation, h.sampleCount_eq, h.length_samples, List.length_append,
      List.length_singleton]
    omega
  window := by
    simp only [recordInvocation, h.writePos_eq]
    exact h.window.set h.length_samples h.size_pos _

theorem Tracks.recordInvocation_slow (h : m.Tracks size t polls skips ns) (d : Duration) :
    (m.recordInvocation d).1 = decide (t < d.nanosSat) := by
  simp [recordInvocation, h.threshold_eq]

/-- what the calls since the last reset add up to -/
structure History where
  polls : Nat
  skips : Nat
  /-- callback durations in nanoseconds, saturated -/
  durations : List Nat

/-- the counts and durations of the calls since the last reset -/
def history (calls : List MetricsCall) : History :=
  let since := sinceLast MetricsCall.isReset calls
  ⟨since.count .poll, since.count .skip,
    (since.filterMap MetricsCall.duration?).map Duration.nanosSat⟩

theorem history_concat (calls : List MetricsCall) (call : MetricsCall) :
    history (calls ++ [call]) =
      if call.isReset then ⟨0, 0, []⟩
      else ⟨(history calls).polls + (if call = .poll then 1 else 0),
        (history calls).skips + (if call = .skip then 1 else 0),
        (history calls).durations ++ (call.duration?.map Duration.nanosSat).toList⟩ := by
  unfold history
  rw [sinceLast_concat]
  cases call <;> simp [MetricsCall.isReset, MetricsCall.duration?]

/-- every run from new metrics tracks the calls since the last reset -/
theorem run_tracks (size : Nat) (slow : Duration) (calls : List MetricsCall) :
    (calls.foldl apply (new size slow)).Tracks (max size 1) slow.nanosSat
      (history calls).polls (history calls).skips (history calls).durations := by
  induction calls using List.reverseRecOn with
  | nil => exact new_tracks size slow
  | append_singleton calls call ih =>
    rw [List.foldl_concat, history_concat]
    cases call with
    | poll => simpa [apply, MetricsCall.isReset, MetricsCall.duration?] using ih.poll
    | skip => simpa [apply, MetricsCall.isReset, MetricsCall.duration?] using ih.skip
    | invocation d =>
      simpa [apply, MetricsCall.isReset, MetricsCall.duration?] using ih.invocation d
    | reset => exact ih.reset

/-- **The metrics summarise every callback since the last reset.**  Start from new metrics
with a ring of `size` samples (`0` counts as `1`) and a slow threshold `slow`, and make any
sequence of calls.  Let `d₁ … dₙ` be the callback durations recorded since the last reset, and
`nsᵢ` their nanoseconds saturated at `2 ^ 64 - 1`.  The snapshot counts the polls and skips
since then and `n` invocations; the slow count is the number of `nsᵢ` above the threshold's
nanoseconds; the minimum and maximum are those of all `nsᵢ` (none while `n = 0`), not only of
the retained ones; the mean is the sum modulo `2 ^ 64` divided by `n`; `min n size` samples
are held, and the first that many slots hold, in some order, the last `min n size` values
`nsᵢ`.  A callback recorded next is reported slow exactly when its nanoseconds exceed the
threshold's. -/
theorem snapshot_of_history (size : Nat) (slow : Duration) (calls : List MetricsCall) :
    let m := calls.foldl apply (new size slow)
    let h := history calls
    let ns := h.durations
    m.snapshot =
      { polls := h.polls, invoked := ns.length, skipped := h.skips,
        slowCount := ns.countP (slow.nanosSat < ·), minNs := ns.min?, maxNs := ns.max?,
        meanNs := if ns = [] then none else some (ns.sum % Nat.pow 2 64 / ns.length),
        sampleCount := min ns.length (max size 1) } ∧
      (m.samples.take m.sampleCount).Perm (ns.drop (ns.length - min ns.length (max size 1))) ∧
      ∀ d, (m.recordInvocation d).1 = decide (slow.nanosSat < d.nanosSat) := by
  have h := run_tracks size slow calls
  refine ⟨?_, ?_, h.recordInvocation_slow⟩
  · rw [snapshot, h.polls_eq, h.invoked_eq, h.skipped_eq, h.slowCount_eq, h.minNs_eq,
      h.maxNs_eq, h.sumNs_eq, h.sampleCount_eq, ifPos_foldl_min _ _ h.bounded,
      ifPos_foldl_max]
    simp [List.length_pos_iff]
  · rw [h.sampleCount_eq]
    exact h.window.take_perm h.length_samples

/-- a ring of two after three callbacks: the extremes and the mean still cover all three -/
example : ([.invocation (Duration.ofMicros 500), .invocation (Duration.ofMicros 600), .skip,
    .invocation (Duration.ofMicros 400)].foldl apply (new 2 (Duration.ofMillis 1))).snapshot =
      { polls := 0, invoked := 3, skipped := 1, slowCount := 0, minNs := some 400000,
        maxNs := some 600000, meanNs := some 500000, sampleCount := 2 } := by decide +kernel

end DispatchMetrics

end RoverKernel
