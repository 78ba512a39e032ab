import RoverKernel.Error
import RoverKernel.Time

/-!
# Time base and tick source

The time base is a millisecond counter advanced by a fixed period on every tick.  The
period must fit the tick hardware: a 24-bit down-counter reloaded with
`period_ms * (clock_hz / 1000)` cycles, which must lie in `1..=2^24`.  At the default
120 MHz core clock that allows periods of 1 to 139 ms.

The tick source only records whether its ticking is running; time is advanced explicitly
with `TimeBase.tick` and `TimeBase.advanceTo`.
-/

namespace RoverKernel

/-- largest value the reload register takes -/
def maxReload : Nat := Nat.pow 2 24

/-- the reload value for `periodMs` at `clockHz`, computed as 64-bit hardware would: a
product of `2 ^ 64` or more is refused rather than wrapped -/
def reloadValue (periodMs clockHz : Nat) : KernelResult Nat :=
  let invalid (reason : String) : KernelResult Nat := .error (.invalidTickPeriod periodMs reason)
  if periodMs = 0 then invalid "period must be at least 1ms"
  else
    let cycles := periodMs * (clockHz / 1000)
    if u64Max < cycles then invalid "reload value overflows"
    else if cycles < 1 then invalid s!"clock {clockHz}Hz is too slow for a 1-cycle reload"
    else if maxReload < cycles then
      invalid s!"reload value {cycles} exceeds {maxReload} at {clockHz}Hz"
    else .ok cycles

/-- a monotonic millisecond counter -/
structure TimeBase where
  now : Millis := 0
  /-- milliseconds added per tick -/
  periodMs : Millis
deriving DecidableEq, Repr, Inhabited

namespace TimeBase

/-- a time base at zero advancing by `period` per tick.  The period must be a whole number
of milliseconds (checked first) and fit the reload register at `clockHz`. -/
def new (period : Duration) (clockHz : Nat) : KernelResult TimeBase :=
  let periodMs := period.millisSat
  if period.nanos % 1000000 ≠ 0 then
    .error (.invalidTickPeriod periodMs
      (period.debug ++ " is not a whole number of milliseconds"))
  else do
    let _ ← reloadValue periodMs clockHz
    pure { periodMs }

def period (t : TimeBase) : Duration := Duration.ofMillis t.periodMs

/-- advances by one period.  The stored counter wraps modulo `2 ^ 64` as an atomic add
does; the returned new time is `none` when that addition overflowed. -/
def tick (t : TimeBase) : Option Millis × TimeBase :=
  let next := t.now + t.periodMs
  (if next ≤ u64Max then some next else none, { t with now := next % Nat.pow 2 64 })

/-- moves the clock forward to `ms`, never backwards -/
def advanceTo (t : TimeBase) (ms : Millis) : TimeBase := { t with now := max t.now ms }

end TimeBase

/-- whether the periodic tick is running -/
structure TickSource where
  running : Bool := false
deriving DecidableEq, Repr, Inhabited

namespace TickSource

/-- starts ticking; a second start fails -/
def start (s : TickSource) : KernelResult TickSource :=
  if s.running then .error .tickSourceRunning else .ok { running := true }

/-- stops ticking; stopping a stopped source does nothing -/
def stop (_ : TickSource) : TickSource := { running := false }

end TickSource

end RoverKernel
