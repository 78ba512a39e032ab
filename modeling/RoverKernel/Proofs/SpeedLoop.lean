import Mathlib
import RoverKernel.Modules.Engines

/-!
# Encoder counters and the speed loop

The wheel counters are 32-bit.  Encoder ticks are added to them, a reboot clears them, and the
speed loop takes the difference between each counter and its value at the previous loop, then
remembers the counters.  The counters and their remembered values are the only integers here,
and a tick feed that would take a counter out of range stops the module, so over every run:

* `EngineState.InRange`          every counter and every remembered value fits 32 bits;
* `EngineState.step_inRange`,
  `EngineState.run_inRange`      each operation keeps that, so every run does;
* `EngineState.speedLoop_eq_none_iff`   the speed loop stops exactly when it has work to do and
                                 a difference leaves the range;
* `tick_differences_fit_33_bits` a difference of two values in range stays below `2 ^ 32` in
                                 size, and no better: `speed_loop_difference_overflows` is a run
                                 whose tick feeds all fit and whose speed loop overflows.
-/

namespace RoverKernel

/-- an operation that moves the counters or their remembered values -/
inductive EngineOp where
  /-- encoder ticks fed to the left and right wheels -/
  | ticks (left right : Int)
  /-- a REBOOT carrying its code, at time `now` -/
  | reboot (now : Millis)
  /-- a SPEED_LOOP at time `now` -/
  | speedLoop (now : Millis)
deriving DecidableEq, Repr

theorem fitsI32_iff (x : Int) : fitsI32 x = true ↔ -2147483648 ≤ x ∧ x ≤ 2147483647 := by
  simp [fitsI32]

namespace EngineState

/-- the state after an operation; `none` where its arithmetic overflows -/
def step (g : WheelGeometry) (s : EngineState) : EngineOp → Option EngineState
  | .ticks l r => s.addEncoderTicks l r
  | .reboot now => some (s.reboot now)
  | .speedLoop now => s.speedLoop g now

/-- the state after a run of operations, `none` once one of them overflows -/
def run (g : WheelGeometry) (s : EngineState) (ops : List EngineOp) : Option EngineState :=
  ops.foldlM (step g) s

/-- every counter and every remembered counter fits 32 bits -/
structure InRange (s : EngineState) : Prop where
  left : fitsI32 s.counterLeft = true
  right : fitsI32 s.counterRight = true
  lastLeft : fitsI32 s.lastLeft = true
  lastRight : fitsI32 s.lastRight = true

theorem inRange_default : ({} : EngineState).InRange := ⟨rfl, rfl, rfl, rfl⟩

/-- a tick feed that goes through leaves both counters in range and the remembered ones
as they were -/
theorem addEncoderTicks_eq_some {s s' : EngineState} {l r : Int} (h : s.addEncoderTicks l r = some s') :
    s' = { s with counterLeft := s.counterLeft + l, counterRight := s.counterRight + r } ∧
      fitsI32 (s.counterLeft + l) = true ∧ fitsI32 (s.counterRight + r) = true := by
  dsimp only [addEncoderTicks] at h
  split at h
  · rename_i hfit
    simp only [Bool.and_eq_true] at hfit
    exact ⟨(Option.some.inj h).symm, hfit⟩
  · exact nomatch h

/-- the speed loop either leaves the state as it was or remembers the current counters -/
theorem speedLoop_eq_some {s s' : EngineState} {g : WheelGeometry} {now : Millis}
    (h : s.speedLoop g now = some s') :
    s' = s ∨ (s'.lastLeft = s.counterLeft ∧ s'.lastRight = s.counterRight ∧
      s'.counterLeft = s.counterLeft ∧ s'.counterRight = s.counterRight) := by
  dsimp only [speedLoop] at h
  split at h
  · exact .inl (Option.some.inj h).symm
  · split at h
    · exact .inl (Option.some.inj h).symm
    · split at h
      · exact nomatch h
      · exact .inr (by cases h; exact ⟨rfl, rfl, rfl, rfl⟩)

/-- the speed loop stops exactly when the counters moved or the wheels were still turning,
time has passed, and a difference leaves the 32-bit range -/
theorem speedLoop_eq_none_iff (s : EngineState) (g : WheelGeometry) (now : Millis) :
    s.speedLoop g now = none ↔
      ¬ (s.counterLeft = s.lastLeft ∧ s.counterRight = s.lastRight ∧
          (s.speedLeft + s.speedRight).lt (F32.ofDecimal false 1 (-2)) = true) ∧
        s.lastSpeedMs < now ∧
        ¬ (fitsI32 (s.counterLeft - s.lastLeft) = true ∧ fitsI32 (s.counterRight - s.lastRight) = true) := by
  dsimp only [speedLoop]
  by_cases hquiet : s.counterLeft = s.lastLeft ∧ s.counterRight = s.lastRight ∧
      (s.speedLeft + s.speedRight).lt (F32.ofDecimal false 1 (-2)) = true
  · obtain ⟨hl, hr, hs⟩ := hquiet
    simp [hl, hr, hs]
  · have hcond : (s.counterLeft == s.lastLeft && s.counterRight == s.lastRight &&
        (s.speedLeft + s.speedRight).lt (F32.ofDecimal false 1 (-2))) = false := by
      simpa [Bool.and_assoc] using hquiet
    rw [if_neg (by simp [hcond])]
    by_cases helapsed : now - s.lastSpeedMs = 0
    · have hnow : ¬ s.lastSpeedMs < now := Nat.not_lt.mpr (Nat.sub_eq_zero_iff_le.mp helapsed)
      simp [helapsed, hnow]
    · have hnow : s.lastSpeedMs < now := Nat.sub_ne_zero_iff_lt.mp helapsed
      simp [helapsed, hquiet, hnow]

/-- **Each operation keeps the counters in range**: a tick feed checks the new counters, a
reboot clears them, and the speed loop only copies them into the remembered ones. -/
theorem step_inRange {g : WheelGeometry} {s s' : EngineState} (hs : s.InRange) :
    (op : EngineOp) → s.step g op = some s' → s'.InRange
  | .ticks l r, h => by
    obtain ⟨rfl, hl, hr⟩ := addEncoderTicks_eq_some h
    exact ⟨hl, hr, hs.lastLeft, hs.lastRight⟩
  | .reboot now, h => by
    cases h
    exact ⟨rfl, rfl, rfl, rfl⟩
  | .speedLoop now, h => by
    rcases speedLoop_eq_some h with rfl | ⟨hll, hlr, hcl, hcr⟩
    · exact hs
    · exact ⟨hcl ▸ hs.left, hcr ▸ hs.right, hll ▸ hs.left, hlr ▸ hs.right⟩

theorem run_inRange {g : WheelGeometry} {s : EngineState} (hs : s.InRange) :
    (ops : List EngineOp) → ∀ {s'}, run g s ops = some s' → s'.InRange
  | [], _, h => by
    cases h
    exact hs
  | op :: ops, s', h => by
    simp only [run, List.foldlM_cons, Option.bind_eq_bind, Option.bind_eq_some_iff] at h
    obtain ⟨t, ht, hrest⟩ := h
    exact run_inRange (step_inRange hs op ht) ops hrest

end EngineState

/-- **Tick differences need 33 bits.**  Over any run from a new engine state of tick feeds,
reboots and speed loops, in which every tick feed keeps both counters within 32 bits, every
counter and every value the speed loop remembered stays within 32 bits, so each difference
the speed loop takes is below `2 ^ 32` in size; and the speed loop stops on overflow exactly
when, with work to do, one of those differences leaves the 32-bit range. -/
theorem tick_differences_fit_33_bits (g : WheelGeometry) (ops : List EngineOp) {s : EngineState}
    (h : EngineState.run g {} ops = some s) (now : Millis) :
    s.InRange ∧ (s.counterLeft - s.lastLeft).natAbs < 2 ^ 32 ∧
      (s.counterRight - s.lastRight).natAbs < 2 ^ 32 ∧
      (s.speedLoop g now = none ↔
        ¬ (s.counterLeft = s.lastLeft ∧ s.counterRight = s.lastRight ∧
            (s.speedLeft + s.speedRight).lt (F32.ofDecimal false 1 (-2)) = true) ∧
          s.lastSpeedMs < now ∧
          ¬ (fitsI32 (s.counterLeft - s.lastLeft) = true ∧
            fitsI32 (s.counterRight - s.lastRight) = true)) := by
  have hs := EngineState.run_inRange EngineState.inRange_default ops h
  have hl := (fitsI32_iff _).mp hs.left
  have hr := (fitsI32_iff _).mp hs.right
  have hll := (fitsI32_iff _).mp hs.lastLeft
  have hlr := (fitsI32_iff _).mp hs.lastRight
  exact ⟨hs, by omega, by omega, s.speedLoop_eq_none_iff g now⟩

/-- the run of `speed_loop_difference_overflows`, whose tick feeds all fit, read through
`tick_differences_fit_33_bits` at 200 ms -/
theorem tick_differences_of_feeds :
    ∃ s, EngineState.run {} {}
        [.ticks (-2000000000) 0, .speedLoop 100, .ticks 2000000000 0, .ticks 2000000000 0] = some s ∧
      s.InRange ∧ (s.counterLeft - s.lastLeft).natAbs < 2 ^ 32 ∧
      (s.counterRight - s.lastRight).natAbs < 2 ^ 32 ∧
      (s.speedLoop {} 200 = none ↔
        ¬ (s.counterLeft = s.lastLeft ∧ s.counterRight = s.lastRight ∧
            (s.speedLeft + s.speedRight).lt (F32.ofDecimal false 1 (-2)) = true) ∧
          s.lastSpeedMs < 200 ∧
          ¬ (fitsI32 (s.counterLeft - s.lastLeft) = true ∧
            fitsI32 (s.counterRight - s.lastRight) = true)) :=
  ⟨_, rfl, tick_differences_fit_33_bits {}
    [.ticks (-2000000000) 0, .speedLoop 100, .ticks 2000000000 0, .ticks 2000000000 0] rfl 200⟩

/-- **A speed loop overflows although no counter does.**  Feed `-2·10^9` ticks to the left
wheel, run the speed loop at 100 ms, then feed `2·10^9` twice: every feed keeps the counter
within 32 bits, but the speed loop at 200 ms subtracts `-2·10^9` from `2·10^9`. -/
theorem speed_loop_difference_overflows :
    ∃ s, EngineState.run {} {}
        [.ticks (-2000000000) 0, .speedLoop 100, .ticks 2000000000 0, .ticks 2000000000 0] = some s ∧
      s.InRange ∧ s.speedLoop {} 200 = none := by
  refine ⟨_, rfl, ⟨rfl, rfl, rfl, rfl⟩, rfl⟩

end RoverKernel
