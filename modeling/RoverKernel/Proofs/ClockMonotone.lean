import Mathlib.Data.List.Chain
import RoverKernel.Proofs.TickPeriod

/-!
# The clock goes back only when a tick carries past `2 ^ 64`

A tick adds the period to the stored millisecond counter with a wrapping atomic add; the value
it returns is the same sum taken again with an overflow check, so it is `none` (a panic) when the
add wrapped.  `advance_to` takes the maximum with the counter.

* `ClockCall`, `TimeBase.call`   the two calls on a time base;
* `TimeBase.times`               the times a run of calls shows, the start included;
* `TimeBase.NoWrap`              no tick of the run starts at `2 ^ 64 - period` or later;
* `TimeBase.le_tick_now_iff`     one tick keeps the clock from going back exactly when it does
                                 not carry, for every 64-bit period;
* `TimeBase.times_isChain_iff`   so the times of a run never decrease exactly when no tick
                                 of the run carries;
* `TimeBase.tick_at_top`         from `2 ^ 64 - 1` a tick stores `period - 1` and returns
                                 nothing.
-/

namespace RoverKernel

/-- a call on a time base -/
inductive ClockCall where
  | tick
  | advanceTo (ms : Millis)
deriving DecidableEq, Repr

namespace TimeBase

/-- the time base after a call -/
def call (t : TimeBase) : ClockCall → TimeBase
  | .tick => t.tick.2
  | .advanceTo ms => t.advanceTo ms

/-- the times `now_ms` reads along a run of calls: before the first and after each -/
def times (t : TimeBase) : List ClockCall → List Millis
  | [] => [t.now]
  | c :: cs => t.now :: (t.call c).times cs

/-- no tick of the run carries past `2 ^ 64` -/
def NoWrap (t : TimeBase) : List ClockCall → Prop
  | [] => True
  | .tick :: cs => t.now + t.periodMs < Nat.pow 2 64 ∧ (t.call .tick).NoWrap cs
  | .advanceTo ms :: cs => (t.advanceTo ms).NoWrap cs

variable {t : TimeBase}

@[simp] theorem tick_periodMs (t : TimeBase) : t.tick.2.periodMs = t.periodMs := rfl

@[simp] theorem advanceTo_now (t : TimeBase) (ms : Millis) : (t.advanceTo ms).now = max t.now ms :=
  rfl

@[simp] theorem call_periodMs (t : TimeBase) (c : ClockCall) : (t.call c).periodMs = t.periodMs := by
  cases c <;> rfl

theorem times_eq_cons (t : TimeBase) (cs : List ClockCall) : t.times cs = t.now :: (t.times cs).tail := by
  cases cs <;> rfl

theorem pow_two_64_pos : 0 < Nat.pow 2 64 := Nat.two_pow_pos 64

/-- a 64-bit add that carries leaves less than it started from -/
theorem add_mod_lt_of_carry {a b : Nat} (hb : b < Nat.pow 2 64) (h : Nat.pow 2 64 ≤ a + b) :
    (a + b) % Nat.pow 2 64 < a := by
  rw [pow_two_64_eq] at *
  omega

/-- adding a period to the all-ones counter leaves one less than the period -/
theorem top_add_mod {b : Nat} (hb0 : 0 < b) (hb : b < Nat.pow 2 64) :
    (Nat.pow 2 64 - 1 + b) % Nat.pow 2 64 = b - 1 := by
  rw [pow_two_64_eq] at *
  omega

/-- a tick that does not carry stores the sum and returns it -/
theorem tick_of_lt (h : t.now + t.periodMs < Nat.pow 2 64) :
    t.tick = (some (t.now + t.periodMs), { t with now := t.now + t.periodMs }) := by
  have hret : t.now + t.periodMs ≤ u64Max := Nat.le_sub_one_of_lt h
  simp only [tick, if_pos hret, Nat.mod_eq_of_lt h]

/-- a tick that carries stores the wrapped sum and returns nothing -/
theorem tick_of_le (h : Nat.pow 2 64 ≤ t.now + t.periodMs) :
    t.tick = (none, { t with now := (t.now + t.periodMs) % Nat.pow 2 64 }) := by
  have hret : ¬ t.now + t.periodMs ≤ u64Max :=
    Nat.not_le.mpr (Nat.lt_of_lt_of_le (Nat.sub_one_lt (Nat.pos_iff_ne_zero.mp pow_two_64_pos)) h)
  simp only [tick, if_neg hret]

/-- **One tick goes back exactly when it carries.**  For a 64-bit period, the counter a tick
stores is at least the one it found exactly when the sum stays below `2 ^ 64`. -/
theorem le_tick_now_iff (hp : t.periodMs < Nat.pow 2 64) :
    t.now ≤ t.tick.2.now ↔ t.now + t.periodMs < Nat.pow 2 64 := by
  constructor
  · intro hle
    rcases Nat.lt_or_ge (t.now + t.periodMs) (Nat.pow 2 64) with h | hcarry
    · exact h
    · rw [tick_of_le hcarry] at hle
      exact absurd hle (Nat.not_le.mpr (add_mod_lt_of_carry hp hcarry))
  · intro h
    rw [tick_of_lt h]
    exact Nat.le_add_right _ _

/-- **The clock never goes back on a run exactly when no tick carries.**  For a 64-bit period,
the times read along any run of ticks and `advance_to` calls never decrease if and only if no
tick of the run starts at `2 ^ 64 - period` or later. -/
theorem times_isChain_iff (hp : t.periodMs < Nat.pow 2 64) (cs : List ClockCall) :
    (t.times cs).IsChain (· ≤ ·) ↔ t.NoWrap cs := by
  induction cs generalizing t with
  | nil => simp [times, NoWrap]
  | cons c cs ih =>
    have hrest := @ih (t.call c) (by rwa [call_periodMs])
    rw [times, times_eq_cons (t.call c) cs, List.isChain_cons_cons, ← times_eq_cons, hrest]
    cases c with
    | tick =>
      -- the step back, if any, is the tick's
      rw [show (t.call .tick).now = t.tick.2.now from rfl, le_tick_now_iff hp]
      rfl
    | advanceTo ms =>
      -- `advance_to` takes a maximum, which never goes back
      have hmax : t.now ≤ (t.call (.advanceTo ms)).now := Nat.le_max_left _ _
      simp only [hmax, true_and]
      rfl

/-- **At the top of the range a tick wraps.**  After `advance_to (2 ^ 64 - 1)`, a tick with a
period of at least one millisecond stores `period - 1`, and the sum it would return overflows. -/
theorem tick_at_top (hnow : t.now < Nat.pow 2 64) (hp0 : 0 < t.periodMs)
    (hp : t.periodMs < Nat.pow 2 64) :
    (t.advanceTo (Nat.pow 2 64 - 1)).tick = (none, { t with now := t.periodMs - 1 }) := by
  have htop : (t.advanceTo (Nat.pow 2 64 - 1)).now = Nat.pow 2 64 - 1 := by
    rw [advanceTo_now]
    exact Nat.max_eq_right (Nat.le_sub_one_of_lt hnow)
  have hcarry : Nat.pow 2 64 ≤ (t.advanceTo (Nat.pow 2 64 - 1)).now + t.periodMs := by
    rw [htop]
    calc Nat.pow 2 64 = Nat.pow 2 64 - 1 + 1 := (Nat.sub_add_cancel pow_two_64_pos).symm
      _ ≤ Nat.pow 2 64 - 1 + t.periodMs := Nat.add_le_add_left hp0 _
  rw [tick_of_le hcarry, htop, show (t.advanceTo (Nat.pow 2 64 - 1)).periodMs = t.periodMs from rfl,
    top_add_mod hp0 hp]

end TimeBase

/-- **The clock never goes back below the top of its range.**  For every time base with a
64-bit counter and a period of `1` to `2 ^ 64 - 1` milliseconds: `advance_to ms` moves the clock
to `max now ms`; a tick that starts below `2 ^ 64 - period` moves it to `now + period` and
returns that time; the times read along any run of ticks and `advance_to` calls never decrease
exactly when no tick of the run starts at `2 ^ 64 - period` or later; and after
`advance_to (2 ^ 64 - 1)` a tick wraps the stored time to `period - 1` and returns nothing, the
sum it returns having overflowed. -/
theorem clock_monotone_below_wrap (t : TimeBase) (hnow : t.now < Nat.pow 2 64)
    (hp0 : 0 < t.periodMs) (hp : t.periodMs < Nat.pow 2 64) :
    (∀ ms, (t.advanceTo ms).now = max t.now ms) ∧
      (t.now + t.periodMs < Nat.pow 2 64 →
        t.tick = (some (t.now + t.periodMs), { t with now := t.now + t.periodMs })) ∧
      (∀ cs : List ClockCall, (t.times cs).IsChain (· ≤ ·) ↔ t.NoWrap cs) ∧
      (t.advanceTo (Nat.pow 2 64 - 1)).tick = (none, { t with now := t.periodMs - 1 }) :=
  ⟨TimeBase.advanceTo_now t, TimeBase.tick_of_lt, TimeBase.times_isChain_iff hp,
    TimeBase.tick_at_top hnow hp0 hp⟩

/-- a time base at zero ticking every 100 ms, as the default configuration builds it -/
theorem clock_monotone_default_period :
    (0 < Nat.pow 2 64 ∧ 0 < 100 ∧ 100 < Nat.pow 2 64) ∧
      let t : TimeBase := { periodMs := 100 }
      (∀ ms, (t.advanceTo ms).now = max t.now ms) ∧
      (t.now + t.periodMs < Nat.pow 2 64 →
        t.tick = (some (t.now + t.periodMs), { t with now := t.now + t.periodMs })) ∧
      (∀ cs : List ClockCall, (t.times cs).IsChain (· ≤ ·) ↔ t.NoWrap cs) ∧
      (t.advanceTo (Nat.pow 2 64 - 1)).tick = (none, { t with now := t.periodMs - 1 }) :=
  ⟨⟨by decide, by decide, by decide⟩,
    clock_monotone_below_wrap { periodMs := 100 } (by decide) (by decide) (by decide)⟩

end RoverKernel
