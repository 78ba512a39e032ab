/-!
# Time values

Timestamps are milliseconds since the time base started, bounded by `2 ^ 64 - 1` as the
kernel's 64-bit counters are.  A `Duration` is whole seconds and nanoseconds below one
second.  Conversions to milliseconds saturate at the top of the range, so a task delayed by
an enormous duration is due at the end of time rather than at a wrapped-around instant.
-/

namespace RoverKernel

/-- milliseconds since the time base started -/
abbrev Millis := Nat

/-- the largest 64-bit value, the ceiling of every saturating counter -/
def u64Max : Nat := Nat.pow 2 64 - 1

/-- a span of time: seconds and nanoseconds, `nanos < 10 ^ 9` -/
structure Duration where
  secs : Nat
  /-- nanoseconds past the whole seconds -/
  nanos : Nat
deriving DecidableEq, Repr, Inhabited

namespace Duration

def nanosPerSec : Nat := 1000000000

/-- the duration of `n` nanoseconds -/
def ofNanos (n : Nat) : Duration := ⟨n / nanosPerSec, n % nanosPerSec⟩

def ofMicros (n : Nat) : Duration := ofNanos (n * 1000)

def ofMillis (n : Nat) : Duration := ofNanos (n * 1000000)

def ofSecs (n : Nat) : Duration := ⟨n, 0⟩

def toNanos (d : Duration) : Nat := d.secs * nanosPerSec + d.nanos

/-- whole milliseconds, rounded down -/
def toMillis (d : Duration) : Nat := d.toNanos / 1000000

/-- whole milliseconds, saturating at `2 ^ 64 - 1` -/
def millisSat (d : Duration) : Millis := min d.toMillis u64Max

/-- nanoseconds, saturating at `2 ^ 64 - 1` -/
def nanosSat (d : Duration) : Nat := min d.toNanos u64Max

/-- the fractional digits of `frac / (10 * unit)`, most significant first, without trailing
zeros; `unit` is the weight of the first digit -/
def fractionDigits (frac unit : Nat) : String :=
  let rec go (fuel frac unit : Nat) : List Char :=
    match fuel with
    | 0 => []
    | fuel + 1 =>
      if frac = 0 || unit = 0 then []
      else Char.ofNat (48 + frac / unit) :: go fuel (frac % unit) (unit / 10)
  String.ofList (go 10 frac unit)

/-- `integer` and a fraction of `frac / (10 * unit)`, with a unit suffix -/
def decimalWithUnit (integer frac unit : Nat) (suffix : String) : String :=
  let digits := fractionDigits frac unit
  toString integer ++ (if digits.isEmpty then "" else "." ++ digits) ++ suffix

/-- the debug text of a duration: the largest of `s`, `ms`, `µs`, `ns` that the duration
reaches, with an exact fraction and no trailing zeros (`1.5ms`, `500µs`, `0ns`) -/
def debug (d : Duration) : String :=
  if 0 < d.secs then decimalWithUnit d.secs d.nanos 100000000 "s"
  else if 1000000 ≤ d.nanos then decimalWithUnit (d.nanos / 1000000) (d.nanos % 1000000) 100000 "ms"
  else if 1000 ≤ d.nanos then decimalWithUnit (d.nanos / 1000) (d.nanos % 1000) 100 "µs"
  else decimalWithUnit d.nanos 0 1 "ns"

end Duration

/-- the due time of a task delayed by `delay` from `now`, saturating at `2 ^ 64 - 1` -/
def dueAfter (now : Millis) (delay : Duration) : Millis :=
  min (now + delay.millisSat) u64Max

end RoverKernel
