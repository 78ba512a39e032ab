import RoverKernel.Proofs.SpeedLoop
import RoverKernel.Proofs.FloatOrder

/-!
# The speed loop's test for wheels at rest

The speed loop returns early, changing nothing, when the counters have not moved since its last
pass and the two wheel speeds add up to less than `0.01` (in single precision).  The test adds two
signed speeds, so it answers "at rest" only for the sum: two wheels turning backwards, or in
opposite directions, pass it as well.  With the counters unmoved and time passed, the loop
therefore either keeps both speeds as they were, exactly when their sum is below `0.01`, or
sets both to zero.  Only when neither speed is negative does the early return mean that both
are within `0.01` of zero.

* `F32.value`, `F32.NearZero`            the value of a single-precision number, and a speed
                                         within `0.01` cm/s of zero;
* `elapsedSeconds_pos`                   the elapsed time in seconds is positive;
* `zero_speed_of_quiet`                  with no ticks, a recomputed speed is exactly zero;
* `nearZero_of_rest_test`                a rest test passed by two speeds that are not negative
                                         leaves both within `0.01` of zero;
* `speed_loop_rest_test`                 what one pass does with no ticks since the last;
* `speed_loop_keeps_reverse_speed`       wheels that ran backwards keep their speed.
-/

namespace RoverKernel

namespace F32

/-- the exact value of a finite single-precision number -/
def value (x : F32) : Option ℚ := FloatFormat.binary32.value x.toNat

/-- within `0.01` of zero -/
def NearZero (x : F32) : Prop := ∃ q, x.value = some q ∧ |q| ≤ 1 / 100

theorem nearZero_zero : F32.zero.NearZero :=
  ⟨0, FloatFormat.value_of_finite FloatFormat.classify_zero |>.trans (by simp), by norm_num⟩

end F32

open FloatFormat

/-- `0.01` in single precision, the bound of the rest test -/
theorem restThreshold_classify :
    binary32.classify (F32.ofDecimal false 1 (-2)).toNat = .finite 10737418 (-30) ∧
      binary32.isNegative (F32.ofDecimal false 1 (-2)).toNat = false := by
  decide +kernel

theorem restThreshold_lt : signedValue false 10737418 (-30) < 1 / 100 := by
  simp only [signedValue_false]
  norm_num

theorem ofInt_zero_toNat : (F32.ofInt 0).toNat = 0 := by decide +kernel

/-- the positive values of `ofInt`: an infinity or a finite value of at least one -/
theorem ofInt_pos {n : Nat} (hn : 1 ≤ n) :
    (F32.ofInt n).toNat < 4294967296 ∧ binary32.isNegative (F32.ofInt n).toNat = false ∧
      (binary32.classify (F32.ofInt n).toNat = .infinite ∨
        ∃ m e, binary32.classify (F32.ofInt n).toNat = .finite (m + 1) e ∧ 1 ≤ ((m + 1 : Nat) : ℚ) * 2 ^ e) := by
  have hbits : (F32.ofInt n).toNat = binary32.roundRat false n 1 0 := by
    have hlt := (roundRat_roundsTo false n Nat.one_pos 0).1
    simp only [F32.ofInt, FloatFormat.ofInt, Int.natAbs_natCast]
    rw [decide_eq_false (by omega), F32.toNat_ofNat_of_lt hlt]
  obtain ⟨hlt, hround⟩ := roundRat_roundsTo false n Nat.one_pos 0
  rw [Nat.cast_one, div_one, zpow_zero, mul_one] at hround
  rw [hbits]
  refine ⟨hlt, hround.sign, ?_⟩
  by_cases hover : binary32.overflowThreshold ≤ (n : ℚ)
  · exact .inl (hround.overflow hover)
  · obtain ⟨m, e, hc, hnear⟩ := hround.nearest (not_le.mp hover)
    -- one is a finite value at most `n`, so the nearest value is at least one
    have hone : binary32.classify 0x3F800000 = .finite 8388608 (-23) := by decide
    have hge := hnear.ge_of_le hone (by norm_num; exact_mod_cast hn)
    have hge1 : (1 : ℚ) ≤ m * 2 ^ e := by norm_num at hge; exact hge
    rcases m with _ | m
    · simp at hge1
      linarith
    · exact .inr ⟨m, e, hc, hge1⟩

theorem ofInt_thousand :
    binary32.classify (F32.ofInt 1000).toNat = .finite 16384000 (-14) ∧
      binary32.isNegative (F32.ofInt 1000).toNat = false := by
  decide +kernel

/-- **The elapsed time in seconds is positive**: a positive number of milliseconds divided by
a thousand is an infinity or a positive finite value -/
theorem elapsedSeconds_pos {n : Nat} (hn : 1 ≤ n) :
    (F32.ofInt n / F32.ofInt 1000).toNat < 4294967296 ∧
      binary32.isNegative (F32.ofInt n / F32.ofInt 1000).toNat = false ∧
      (binary32.classify (F32.ofInt n / F32.ofInt 1000).toNat = .infinite ∨
        ∃ m e, binary32.classify (F32.ofInt n / F32.ofInt 1000).toNat = .finite (m + 1) e) := by
  obtain ⟨hlt, hsign, hcases⟩ := ofInt_pos hn
  obtain ⟨hk, hks⟩ := ofInt_thousand
  have hdiv : (F32.ofInt n / F32.ofInt 1000).toNat =
      binary32.div (F32.ofInt n).toNat (F32.ofInt 1000).toNat % 4294967296 :=
    F32.toNat_ofNat _
  rcases hcases with hinf | ⟨m, e, hc, hge⟩
  · -- an infinity of milliseconds is an infinity of seconds
    rw [hdiv, div_infinite_left hsign hinf hks hk]
    exact ⟨by decide, by decide, .inl (by decide)⟩
  · have hx : (2 : ℚ) ^ (-150 : Int) < ((m + 1 : Nat) : ℚ) / (16383999 + 1 : Nat) * 2 ^ (e - -14) := by
      rw [zpow_sub₀ two_ne_zero, div_mul_div_comm, lt_div_iff₀ (by positivity)]
      have : (2 : ℚ) ^ (-150 : Int) * ((16383999 + 1 : Nat) * 2 ^ (-14 : Int)) < 1 := by norm_num
      linarith
    obtain ⟨hq, hqs, hqc⟩ := div_pos hsign hc hks hk hx
    rw [hdiv, Nat.mod_eq_of_lt hq]
    exact ⟨hq, hqs, hqc⟩

/-- **With no ticks, a recomputed speed is exactly zero**: no ticks make a positive zero, times
the default distance per tick, over a positive number of seconds -/
theorem zero_speed_of_quiet {n : Nat} (hn : 1 ≤ n) :
    F32.ofInt 0 * (f32Pi * ({} : WheelGeometry).diameterCm / ({} : WheelGeometry).resolution) /
      (F32.ofInt n / F32.ofInt 1000) = F32.zero := by
  have hzero : F32.ofInt 0 * (f32Pi * ({} : WheelGeometry).diameterCm / ({} : WheelGeometry).resolution) =
      F32.zero := by
    decide +kernel
  obtain ⟨-, hsign, hcases⟩ := elapsedSeconds_pos hn
  rw [hzero]
  show F32.ofNat (binary32.div 0 (F32.ofInt n / F32.ofInt 1000).toNat) = F32.zero
  rw [div_zero_left hsign hcases]
  rfl

/-- what `0 ≤ x` says of a single-precision number: a positive infinity, or a finite value that
is not negative -/
theorem nonneg_cases {x : F32} (h : (F32.ofInt 0).le x = true) :
    (binary32.classify x.toNat = .infinite ∧ binary32.isNegative x.toNat = false) ∨
      ∃ m e, binary32.classify x.toNat = .finite m e ∧ 0 ≤ signedValue (binary32.isNegative x.toNat) m e := by
  simp only [F32.le, ofInt_zero_toNat] at h
  rcases hc : binary32.classify x.toNat with _ | _ | ⟨m, e⟩
  · rw [le_of_nan_right hc] at h
    exact absurd h Bool.false_ne_true
  · -- zero lies above the negative infinity
    refine .inl ⟨rfl, ?_⟩
    cases hs : binary32.isNegative x.toNat
    · rfl
    · simp [FloatFormat.le, FloatFormat.compare, classify_zero, hc, hs] at h
  · refine .inr ⟨m, e, rfl, ?_⟩
    have := (le_iff_of_finite classify_zero hc).1 h
    rwa [signedValue_zero] at this

/-- **A rest test passed by two speeds that are not negative leaves both within `0.01` of
zero**: each is at most the rounded sum, which is below `0.01`. -/
theorem nearZero_of_rest_test {a b : F32} (ha : (F32.ofInt 0).le a = true)
    (hb : (F32.ofInt 0).le b = true) (hrest : (a + b).lt (F32.ofDecimal false 1 (-2)) = true) :
    a.NearZero ∧ b.NearZero := by
  obtain ⟨htc, hts⟩ := restThreshold_classify
  have hsum : (a + b).toNat = binary32.add a.toNat b.toNat % 4294967296 := F32.toNat_ofNat _
  simp only [F32.lt] at hrest
  -- a positive infinity is never below the threshold
  have hnotinf : ∀ x : F32, binary32.classify (x.toNat) = .infinite → binary32.isNegative x.toNat = false →
      binary32.lt x.toNat (F32.ofDecimal false 1 (-2)).toNat = false := by
    intro x hx hxs
    by_contra hlt
    have := isNegative_of_lt_infinite hx htc (Bool.not_eq_false _ |>.mp hlt)
    rw [hxs] at this
    exact Bool.false_ne_true this
  rcases nonneg_cases ha with ⟨hai, has⟩ | ⟨ma, ea, hac, ha0⟩
  · -- a positive infinity plus a value that is not negative stays that infinity
    have hadd : binary32.add a.toNat b.toNat = a.toNat := by
      refine add_of_infinite_left hai ?_ ?_
      · rcases nonneg_cases hb with ⟨hbi, -⟩ | ⟨mb, eb, hbc, -⟩ <;> simp [*]
      · intro hbi
        rcases nonneg_cases hb with ⟨-, hbs⟩ | ⟨mb, eb, hbc, -⟩
        · rw [hbs, has]
        · rw [hbc] at hbi
          exact nomatch hbi
    rw [hsum, hadd, Nat.mod_eq_of_lt (F32.toNat_lt a), hnotinf a hai has] at hrest
    exact absurd hrest Bool.false_ne_true
  rcases nonneg_cases hb with ⟨hbi, hbs⟩ | ⟨mb, eb, hbc, hb0⟩
  · have hadd : binary32.add a.toNat b.toNat = b.toNat := add_of_infinite_right hac hbi
    rw [hsum, hadd, Nat.mod_eq_of_lt (F32.toNat_lt b), hnotinf b hbi hbs] at hrest
    exact absurd hrest Bool.false_ne_true
  obtain ⟨hlt, hcases⟩ := add_nonneg hac hbc ha0 hb0
  rw [hsum, Nat.mod_eq_of_lt hlt] at hrest
  rcases hcases with ⟨hsi, hss⟩ | ⟨m, e, hsc, hle_a, hle_b⟩
  · rw [show binary32.lt (binary32.add a.toNat b.toNat) (F32.ofDecimal false 1 (-2)).toNat = false from by
      by_contra hlt'
      have := isNegative_of_lt_infinite hsi htc (Bool.not_eq_false _ |>.mp hlt')
      rw [hss] at this
      exact Bool.false_ne_true this] at hrest
    exact absurd hrest Bool.false_ne_true
  · -- the sum is finite and below `0.01`, and each summand is at most the sum
    have hbelow := (lt_iff_of_finite hsc htc).1 hrest
    rw [hts] at hbelow
    have hbound := restThreshold_lt
    refine ⟨⟨_, value_of_finite hac, ?_⟩, ⟨_, value_of_finite hbc, ?_⟩⟩
    · rw [abs_of_nonneg ha0]
      linarith
    · rw [abs_of_nonneg hb0]
      linarith

/-- **What one pass of the speed loop does with no ticks since the last.**  For every engine
state with the default wheel geometry, a speed loop at a time later than the last one, with
both counters where the last pass left them, goes through (no overflow), and either leaves the
state as it was, exactly when the two speeds add up to less than `0.01`, or sets both speeds to
zero and records the time.  When neither speed is negative, both are afterwards within
`0.01` cm/s of zero.  A negative speed can pass the test without being near zero:
`speed_loop_keeps_reverse_speed`. -/
theorem speed_loop_rest_test (s : EngineState) (now : Millis) (hnow : s.lastSpeedMs < now)
    (hl : s.counterLeft = s.lastLeft) (hr : s.counterRight = s.lastRight) :
    ∃ s', s.speedLoop {} now = some s' ∧
      (((s.speedLeft + s.speedRight).lt (F32.ofDecimal false 1 (-2)) = true ∧ s' = s) ∨
        ((s.speedLeft + s.speedRight).lt (F32.ofDecimal false 1 (-2)) = false ∧
          s' = { s with speedLeft := F32.zero, speedRight := F32.zero, lastSpeedMs := now })) ∧
      ((F32.ofInt 0).le s.speedLeft = true → (F32.ofInt 0).le s.speedRight = true →
        s'.speedLeft.NearZero ∧ s'.speedRight.NearZero) := by
  have hquiet : ∀ c, (s.counterLeft == s.lastLeft && s.counterRight == s.lastRight && c) = c := by
    intro c
    simp [hl, hr]
  rcases hrest : (s.speedLeft + s.speedRight).lt (F32.ofDecimal false 1 (-2)) with _ | _
  · -- the test fails: time has passed, so both speeds are recomputed from no ticks
    have helapsed : now - s.lastSpeedMs ≠ 0 := Nat.sub_ne_zero_of_lt hnow
    have hpos : 1 ≤ now - s.lastSpeedMs := Nat.one_le_iff_ne_zero.mpr helapsed
    have hfit : fitsI32 (s.counterLeft - s.lastLeft) = true ∧ fitsI32 (s.counterRight - s.lastRight) = true := by
      simp only [hl, hr, sub_self]
      exact ⟨rfl, rfl⟩
    refine ⟨{ s with speedLeft := F32.zero, speedRight := F32.zero, lastSpeedMs := now }, ?_,
      .inr ⟨rfl, rfl⟩, fun _ _ => ⟨F32.nearZero_zero, F32.nearZero_zero⟩⟩
    simp only [EngineState.speedLoop, hquiet, hrest, Bool.false_eq_true, if_false, helapsed,
      hfit, Bool.and_self, Bool.not_true]
    simp only [hl, hr, sub_self, zero_speed_of_quiet hpos]
  · refine ⟨s, ?_, .inl ⟨rfl, rfl⟩, fun ha hb => nearZero_of_rest_test ha hb hrest⟩
    simp only [EngineState.speedLoop, hquiet, hrest, if_true]

/-- the engine state after `-360` ticks on both wheels and a speed loop at 1000 ms: both wheels
turned backwards at about `-21.36` cm/s -/
def reversedState : EngineState :=
  { counterLeft := -360, counterRight := -360, speedLeft := ⟨0xC1AAE714⟩,
    speedRight := ⟨0xC1AAE714⟩, lastLeft := -360, lastRight := -360, lastSpeedMs := 1000 }

theorem reversed_speed_not_nearZero : ¬ (⟨0xC1AAE714⟩ : F32).NearZero := by
  rintro ⟨q, hq, habs⟩
  have hc : binary32.classify 0xC1AAE714 = .finite 11200276 (-19) ∧ binary32.isNegative 0xC1AAE714 = true := by
    decide
  simp only [F32.value, F32.toNat] at hq
  rw [show (0xC1AAE714 : UInt32).toNat = 0xC1AAE714 from rfl, value_of_finite hc.1, hc.2] at hq
  cases hq
  simp only [signedValue, signedInt, if_true] at habs
  norm_num at habs

/-- **Wheels that ran backwards keep their speed.**  Feed `-360` ticks to both wheels and run the
speed loop at 1000 ms: both wheels turned backwards at about `-21.36` cm/s.  At 2000 ms no tick
has come, but the two speeds add up to less than `0.01`, so the loop returns early and both
speeds stay far from zero. -/
theorem speed_loop_keeps_reverse_speed :
    EngineState.run {} {} [.ticks (-360) (-360), .speedLoop 1000] = some reversedState ∧
      reversedState.lastSpeedMs < 2000 ∧ reversedState.counterLeft = reversedState.lastLeft ∧
      reversedState.counterRight = reversedState.lastRight ∧
      reversedState.speedLoop {} 2000 = some reversedState ∧
      ¬ reversedState.speedLeft.NearZero ∧ ¬ reversedState.speedRight.NearZero :=
  ⟨by decide +kernel, by decide, rfl, rfl, by decide +kernel, reversed_speed_not_nearZero,
    reversed_speed_not_nearZero⟩

/-- the reversed state at 2000 ms passes the rest test and is kept as it is -/
theorem speed_loop_rest_test_reversed :
    (reversedState.lastSpeedMs < 2000 ∧ reversedState.counterLeft = reversedState.lastLeft ∧
        reversedState.counterRight = reversedState.lastRight) ∧
      ∃ s', reversedState.speedLoop {} 2000 = some s' ∧
        (((reversedState.speedLeft + reversedState.speedRight).lt (F32.ofDecimal false 1 (-2)) = true ∧
            s' = reversedState) ∨
          ((reversedState.speedLeft + reversedState.speedRight).lt (F32.ofDecimal false 1 (-2)) = false ∧
            s' = { reversedState with speedLeft := F32.zero, speedRight := F32.zero, lastSpeedMs := 2000 })) ∧
        ((F32.ofInt 0).le reversedState.speedLeft = true → (F32.ofInt 0).le reversedState.speedRight = true →
          s'.speedLeft.NearZero ∧ s'.speedRight.NearZero) :=
  ⟨⟨by decide, rfl, rfl⟩, speed_loop_rest_test reversedState 2000 (by decide) rfl rfl⟩

end RoverKernel
