import RoverKernel.Time
import RoverKernel.Float.Arith

/-!
# Dispatch metrics

Counters of polls, invocations and skipped entries, running extremes and a wrapping sum of
callback durations, and a ring of the last `histogram_size` durations from which
percentiles are read.  Durations are counted in nanoseconds, saturating at `2 ^ 64 - 1`.
-/

namespace RoverKernel

/-- callback latency and dispatch counters -/
structure DispatchMetrics where
  /-- ring of recent callback durations in nanoseconds -/
  samples : List Nat
  /-- where the next sample goes -/
  writePos : Nat := 0
  /-- samples held, at most the ring size -/
  sampleCount : Nat := 0
  polls : Nat := 0
  invoked : Nat := 0
  /-- entries popped but not delivered -/
  skipped : Nat := 0
  /-- smallest duration seen (`2 ^ 64 - 1` before any) -/
  minNs : Nat := u64Max
  maxNs : Nat := 0
  /-- sum of all durations modulo `2 ^ 64` -/
  sumNs : Nat := 0
  /-- callbacks over the slow threshold -/
  slowCount : Nat := 0
  /-- the slow threshold in nanoseconds -/
  slowThresholdNs : Nat
deriving DecidableEq, Repr, Inhabited

/-- counters as reported -/
structure MetricsSnapshot where
  polls : Nat
  invoked : Nat
  skipped : Nat
  slowCount : Nat
  /-- smallest duration, once something was invoked -/
  minNs : Option Nat
  /-- largest duration, once something was invoked -/
  maxNs : Option Nat
  /-- mean duration, once something was invoked -/
  meanNs : Option Nat
  sampleCount : Nat
deriving DecidableEq, Repr

namespace DispatchMetrics

/-- fresh metrics keeping `histogramSize` samples (at least one) -/
def new (histogramSize : Nat) (slow : Duration) : DispatchMetrics :=
  { samples := List.replicate (max histogramSize 1) 0, slowThresholdNs := slow.nanosSat }

def recordPoll (m : DispatchMetrics) : DispatchMetrics := { m with polls := m.polls + 1 }

def recordSkip (m : DispatchMetrics) : DispatchMetrics := { m with skipped := m.skipped + 1 }

/-- records a callback's duration; the flag tells whether it was slow -/
def recordInvocation (m : DispatchMetrics) (d : Duration) : Bool × DispatchMetrics :=
  let ns := d.nanosSat
  let slow := m.slowThresholdNs < ns
  (slow, { m with
    samples := m.samples.set m.writePos ns
    writePos := (m.writePos + 1) % m.samples.length
    sampleCount := min (m.sampleCount + 1) m.samples.length
    invoked := m.invoked + 1
    minNs := min m.minNs ns
    maxNs := max m.maxNs ns
    sumNs := (m.sumNs + ns) % Nat.pow 2 64
    slowCount := if slow then m.slowCount + 1 else m.slowCount })

/-- the counters; the extremes and the mean only once something was invoked -/
def snapshot (m : DispatchMetrics) : MetricsSnapshot :=
  let any := 0 < m.invoked
  { polls := m.polls, invoked := m.invoked, skipped := m.skipped, slowCount := m.slowCount,
    minNs := if any then some m.minNs else none
    maxNs := if any then some m.maxNs else none
    meanNs := if any then some (m.sumNs / m.invoked) else none
    sampleCount := m.sampleCount }

def insertSorted (x : Nat) : List Nat → List Nat
  | [] => [x]
  | y :: ys => if x ≤ y then x :: y :: ys else y :: insertSorted x ys

/-- the retained samples in ascending order -/
def sortedWindow (m : DispatchMetrics) : List Nat :=
  (m.samples.take m.sampleCount).foldr insertSorted []

/-- for each `p` in `0..=100` (others and NaN are dropped), the retained sample at index
`round (p / 100 * (n - 1))` of the sorted window of `n` samples, halfway cases away from
zero.  Empty when nothing is retained. -/
def percentiles (m : DispatchMetrics) (ps : List F64) : List (F64 × Nat) :=
  let sorted := m.sortedWindow
  let n := sorted.length
  if n = 0 then []
  else
    let zero := F64.ofInt 0
    let hundred := F64.ofInt 100
    (ps.filter fun p => zero.le p && p.le hundred).map fun p =>
      let idx := ((p / hundred) * F64.ofInt (n - 1 : Nat)).round.toNatSat (Nat.pow 2 64)
      (p, sorted.getD (min idx (n - 1)) 0)

/-- back to the state after `new`, keeping the ring size and the threshold -/
def reset (m : DispatchMetrics) : DispatchMetrics :=
  { samples := List.replicate m.samples.length 0, slowThresholdNs := m.slowThresholdNs }

end DispatchMetrics

end RoverKernel
