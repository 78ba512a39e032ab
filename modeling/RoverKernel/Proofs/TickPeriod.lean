import RoverKernel.TimeBase

/-!
# Which tick periods the reload register takes

`reloadValue p clk` programs a 24-bit down-counter with `p * (clk / 1000)` cycles and tests,
in this order: a zero period, a product of `2 ^ 64` or more (the 64-bit multiplication
overflows), a product of zero (a clock under 1 kHz), a product above `2 ^ 24`.  Over
unbounded naturals, each answer is given on exactly one region of the plane of periods and
clocks, and the regions meet where the tests say: at `2 ^ 24`, at `2 ^ 64` and at
`clk = 1000`.

* `reloadValue_cases`        the five regions and the answer on each;
* `ne_of_ends_ne`            the four reasons start or end differently, so an error names
                             its region (`reloadValue_eq_error_iff_*`);
* `reloadValue_isOk_iff`     the periods a clock accepts: `1 ..= 2 ^ 24 / (clk / 1000)`;
* `TimeBase.new_eq_ok_iff`   a time base is built exactly when its period is whole
                             milliseconds that the register accepts, and it keeps that period;
* `tick_period_accepted`     all of it together.
-/

namespace RoverKernel

/-! ## the regions -/

theorem maxReload_eq : maxReload = 16777216 := rfl

theorem pow_two_64_eq : Nat.pow 2 64 = 18446744073709551616 := rfl

theorem exceeds_reason_eq (n clk : Nat) :
    s!"reload value {n} exceeds {maxReload} at {clk}Hz" =
      s!"reload value {n} exceeds 16777216 at {clk}Hz" := by
  have hx : ∀ s : String,
      " exceeds " ++ (toString maxReload ++ (" at " ++ s)) = " exceeds 16777216 at " ++ s := by
    intro s
    rw [← String.append_assoc, ← String.append_assoc]
    congr 1
  simp only [String.append_assoc]
  exact congrArg _ (congrArg _ (hx _))

/-- the five regions of `reloadValue`, in the order of its tests -/
theorem reloadValue_cases (p clk : Nat) :
    (p = 0 ∧ reloadValue p clk = .error (.invalidTickPeriod p "period must be at least 1ms")) ∨
    (p ≠ 0 ∧ Nat.pow 2 64 ≤ p * (clk / 1000) ∧
      reloadValue p clk = .error (.invalidTickPeriod p "reload value overflows")) ∨
    (p ≠ 0 ∧ clk < 1000 ∧ reloadValue p clk =
      .error (.invalidTickPeriod p s!"clock {clk}Hz is too slow for a 1-cycle reload")) ∨
    (p ≠ 0 ∧ maxReload < p * (clk / 1000) ∧ p * (clk / 1000) < Nat.pow 2 64 ∧
      reloadValue p clk = .error
        (.invalidTickPeriod p s!"reload value {p * (clk / 1000)} exceeds 16777216 at {clk}Hz")) ∨
    (p ≠ 0 ∧ 1 ≤ p * (clk / 1000) ∧ p * (clk / 1000) ≤ maxReload ∧
      reloadValue p clk = .ok (p * (clk / 1000))) := by
  rw [pow_two_64_eq, maxReload_eq]
  have htop : u64Max = 18446744073709551615 := rfl
  by_cases hp : p = 0
  · exact .inl ⟨hp, by simp [reloadValue, hp]⟩
  by_cases hof : 18446744073709551616 ≤ p * (clk / 1000)
  · -- the checked multiplication fails before anything else is looked at
    refine .inr (.inl ⟨hp, hof, ?_⟩)
    simp [reloadValue, hp, htop, show 18446744073709551615 < p * (clk / 1000) by omega]
  have hfit : ¬ u64Max < p * (clk / 1000) := by omega
  by_cases hslow : clk < 1000
  · -- no whole cycle per millisecond: the product is zero
    have hk : clk / 1000 = 0 := Nat.div_eq_of_lt hslow
    exact .inr (.inr (.inl ⟨hp, hslow, by simp [reloadValue, hp, hk, htop]⟩))
  have hk : 1 ≤ clk / 1000 := (Nat.le_div_iff_mul_le (by decide)).2 (by omega)
  have hpos : ¬ p * (clk / 1000) < 1 := by
    have := Nat.mul_ne_zero hp (show clk / 1000 ≠ 0 by omega)
    omega
  by_cases hbig : 16777216 < p * (clk / 1000)
  · refine .inr (.inr (.inr (.inl ⟨hp, hbig, by omega, ?_⟩)))
    rw [← exceeds_reason_eq]
    simp [reloadValue, hp, hfit, hpos, maxReload_eq, hbig]
  · refine .inr (.inr (.inr (.inr ⟨hp, by omega, by omega, ?_⟩)))
    simp [reloadValue, hp, hfit, hpos, maxReload_eq, hbig]

/-! ## telling the reasons apart -/

/-- two refusals of one period whose reasons differ in their first or their last character
differ -/
theorem tickPeriod_error_ne {p : Nat} {a b : String}
    (h : (a.toList.head?, a.toList.reverse.head?) ≠ (b.toList.head?, b.toList.reverse.head?)) :
    (.error (.invalidTickPeriod p a) : KernelResult Nat) ≠ .error (.invalidTickPeriod p b) := by
  intro e
  injection e with e
  injection e with _ e
  exact h (e ▸ rfl)

theorem reloadValue_eq_error_iff_zero (p clk : Nat) :
    reloadValue p clk = .error (.invalidTickPeriod p "period must be at least 1ms") ↔ p = 0 := by
  rcases reloadValue_cases p clk with ⟨hp, h⟩ | ⟨hp, -, h⟩ | ⟨hp, -, h⟩ | ⟨hp, -, -, h⟩ |
      ⟨hp, -, -, h⟩ <;> rw [h]
  · exact iff_of_true rfl hp
  · exact iff_of_false (by simp) hp
  · exact iff_of_false (tickPeriod_error_ne (by simp [toString])) hp
  · exact iff_of_false (tickPeriod_error_ne (by simp [toString])) hp
  · exact iff_of_false (by simp) hp

/-- the multiplication is reported to overflow exactly when the product reaches `2 ^ 64` -/
theorem reloadValue_eq_error_iff_overflow (p clk : Nat) :
    reloadValue p clk = .error (.invalidTickPeriod p "reload value overflows") ↔
      Nat.pow 2 64 ≤ p * (clk / 1000) := by
  rcases reloadValue_cases p clk with ⟨hp, h⟩ | ⟨hp, hr, h⟩ | ⟨hp, hr, h⟩ | ⟨hp, -, hr, h⟩ |
      ⟨hp, -, hr, h⟩ <;> rw [h]
  · exact iff_of_false (by simp) (by simp [hp])
  · exact iff_of_true rfl hr
  · exact iff_of_false (tickPeriod_error_ne (by simp [toString]))
      (by simp [Nat.div_eq_of_lt hr])
  · exact iff_of_false (tickPeriod_error_ne (by simp [toString])) (Nat.not_le.2 hr)
  · refine iff_of_false (by simp) ?_
    rw [maxReload_eq] at hr
    rw [pow_two_64_eq]
    omega

/-- a clock under 1 kHz is reported too slow for every non-zero period, and only then -/
theorem reloadValue_eq_error_iff_slow (p clk : Nat) :
    reloadValue p clk = .error (.invalidTickPeriod p s!"clock {clk}Hz is too slow for a 1-cycle reload") ↔
      1 ≤ p ∧ clk < 1000 := by
  rcases reloadValue_cases p clk with ⟨hp, h⟩ | ⟨hp, hr, h⟩ | ⟨hp, hr, h⟩ | ⟨hp, hr, -, h⟩ |
      ⟨hp, hr, -, h⟩ <;> rw [h]
  · exact iff_of_false (tickPeriod_error_ne (by simp [toString])) (by simp [hp])
  · refine iff_of_false (tickPeriod_error_ne (by simp [toString])) ?_
    rintro ⟨-, hslow⟩
    simp [Nat.div_eq_of_lt hslow] at hr
  · exact iff_of_true rfl ⟨Nat.one_le_iff_ne_zero.2 hp, hr⟩
  · refine iff_of_false (tickPeriod_error_ne (by simp [toString])) ?_
    rintro ⟨-, hslow⟩
    simp [Nat.div_eq_of_lt hslow] at hr
  · refine iff_of_false (by simp) ?_
    rintro ⟨-, hslow⟩
    simp [Nat.div_eq_of_lt hslow] at hr

/-- a product above the register's limit that does not overflow is reported with its value -/
theorem reloadValue_eq_error_iff_exceeds (p clk : Nat) :
    reloadValue p clk = .error
        (.invalidTickPeriod p s!"reload value {p * (clk / 1000)} exceeds 16777216 at {clk}Hz") ↔
      1 ≤ p ∧ maxReload < p * (clk / 1000) ∧ p * (clk / 1000) < Nat.pow 2 64 := by
  rcases reloadValue_cases p clk with ⟨hp, h⟩ | ⟨hp, hr, h⟩ | ⟨hp, hr, h⟩ | ⟨hp, hr, hr', h⟩ |
      ⟨hp, -, hr, h⟩ <;> rw [h]
  · exact iff_of_false (tickPeriod_error_ne (by simp [toString])) (by simp [hp])
  · exact iff_of_false (tickPeriod_error_ne (by simp [toString])) (fun h => by omega)
  · refine iff_of_false (tickPeriod_error_ne (by simp [toString])) ?_
    simp [Nat.div_eq_of_lt hr]
  · exact iff_of_true rfl ⟨Nat.one_le_iff_ne_zero.2 hp, hr, hr'⟩
  · exact iff_of_false (by simp) (fun h => by omega)

/-! ## the periods a clock accepts -/

/-- the register is programmed exactly when the product is a positive number of cycles
within its limit, and then with that product -/
theorem reloadValue_eq_ok_iff (p clk c : Nat) :
    reloadValue p clk = .ok c ↔
      1 ≤ p ∧ 1 ≤ p * (clk / 1000) ∧ p * (clk / 1000) ≤ maxReload ∧ c = p * (clk / 1000) := by
  rcases reloadValue_cases p clk with ⟨hp, h⟩ | ⟨hp, hr, h⟩ | ⟨hp, hr, h⟩ | ⟨hp, hr, -, h⟩ |
      ⟨hp, hr, hr', h⟩ <;> rw [h]
  · exact iff_of_false (by simp) (by simp [hp])
  · refine iff_of_false (by simp) ?_
    rw [pow_two_64_eq] at hr
    rw [maxReload_eq]
    omega
  · exact iff_of_false (by simp) (by simp [Nat.div_eq_of_lt hr])
  · exact iff_of_false (by simp) (by omega)
  · simp only [Except.ok.injEq]
    exact ⟨fun e => ⟨Nat.one_le_iff_ne_zero.2 hp, hr, hr', e.symm⟩, fun h => h.2.2.2.symm⟩

theorem reloadValue_error {p clk : Nat} {e : KernelError} (h : reloadValue p clk = .error e) :
    ∃ reason, e = .invalidTickPeriod p reason := by
  rcases reloadValue_cases p clk with ⟨-, h'⟩ | ⟨-, -, h'⟩ | ⟨-, -, h'⟩ | ⟨-, -, -, h'⟩ |
      ⟨-, -, -, h'⟩ <;> rw [h'] at h <;> cases h
  all_goals exact ⟨_, rfl⟩

/-- at a clock of `k` whole kilohertz the register takes the periods `1 ..= 2 ^ 24 / k`, and a
clock under 1 kHz takes none -/
theorem reloadValue_isOk_iff (p clk : Nat) :
    (∃ c, reloadValue p clk = .ok c) ↔ 1000 ≤ clk ∧ 1 ≤ p ∧ p ≤ maxReload / (clk / 1000) := by
  have hok : (∃ c, reloadValue p clk = .ok c) ↔
      1 ≤ p ∧ 1 ≤ p * (clk / 1000) ∧ p * (clk / 1000) ≤ maxReload := by
    simp only [reloadValue_eq_ok_iff]
    exact ⟨fun ⟨_, h⟩ => ⟨h.1, h.2.1, h.2.2.1⟩, fun h => ⟨_, h.1, h.2.1, h.2.2, rfl⟩⟩
  rw [hok]
  by_cases hclk : clk < 1000
  · -- no whole cycle per millisecond
    simp only [Nat.div_eq_of_lt hclk, Nat.mul_zero]
    omega
  have hk : 0 < clk / 1000 := (Nat.le_div_iff_mul_le (by decide)).2 (by omega)
  -- with at least one cycle per millisecond, the product is positive with the period
  have hpos : 1 ≤ p * (clk / 1000) ↔ 1 ≤ p := by
    simp only [Nat.one_le_iff_ne_zero, ne_eq, Nat.mul_eq_zero, not_or]
    exact ⟨And.left, fun hp => ⟨hp, by omega⟩⟩
  rw [hpos, Nat.le_div_iff_mul_le hk]
  exact ⟨fun h => ⟨by omega, h.2⟩, fun h => ⟨h.2.1, h.2⟩⟩

theorem le_maxReload_of_reloadValue {p clk c : Nat} (h : reloadValue p clk = .ok c) :
    p ≤ maxReload := by
  obtain ⟨hp, hpos, hle, -⟩ := (reloadValue_eq_ok_iff p clk c).1 h
  have hk : 1 ≤ clk / 1000 := by
    rcases Nat.eq_zero_or_pos (clk / 1000) with hk | hk
    · simp [hk] at hpos
    · exact hk
  calc p ≤ p * (clk / 1000) := Nat.le_mul_of_pos_right p hk
    _ ≤ maxReload := hle

/-! ## building a time base -/

/-- a time base is built exactly when its period is whole milliseconds (saturated to 64 bits)
that the register takes; it starts at zero with that period -/
theorem TimeBase.new_eq_ok_iff (period : Duration) (clk : Nat) (t : TimeBase) :
    TimeBase.new period clk = .ok t ↔
      period.nanos % 1000000 = 0 ∧ (∃ c, reloadValue (min period.toMillis u64Max) clk = .ok c) ∧
        t = { periodMs := period.toMillis } := by
  rw [show min period.toMillis u64Max = period.millisSat from rfl]
  unfold TimeBase.new
  by_cases hn : period.nanos % 1000000 = 0
  · simp only [hn, ne_eq, not_true_eq_false, if_false, true_and]
    rcases hr : reloadValue period.millisSat clk with err | c
    · -- refused by the register
      refine iff_of_false (by simp [bind, Except.bind]) ?_
      rintro ⟨⟨c, hc⟩, -⟩
      cases hc
    · -- accepted: the saturation did not bite, since the period is at most `2 ^ 24`
      have hle := le_maxReload_of_reloadValue hr
      have hsat : period.millisSat = period.toMillis := by
        have htop : u64Max = 18446744073709551615 := rfl
        rw [maxReload_eq] at hle
        simp only [Duration.millisSat, htop] at hle ⊢
        exact Nat.min_eq_left (by omega)
      simp only [bind, Except.bind, pure, Except.pure, Except.ok.injEq, hsat]
      exact ⟨fun e => ⟨⟨c, rfl⟩, e.symm⟩, fun h => h.2.symm⟩
  · refine iff_of_false (by simp [hn]) ?_
    exact fun h => hn h.1

/-- **The tick periods the hardware takes.**  Over unbounded naturals, `reloadValue p clk`
programs the register exactly when the period is at least 1 ms and `p * (clk / 1000)` is
between `1` and `2 ^ 24`, and then with that product; it never wraps around.  Every refusal
is an invalid tick period for `p`, and its reason names the region the inputs fall in, the
tests being made in order: a zero period, a product of `2 ^ 64` or more, a clock under 1 kHz,
and else a product above `2 ^ 24`, given with its value.  So a clock of at least 1 kHz takes
exactly the periods `1 ..= 2 ^ 24 / (clk / 1000)`.  A time base is built exactly when the
nanoseconds under its period's whole second are a multiple of `10 ^ 6` and the register takes
the period's whole milliseconds, saturated to 64 bits; it then keeps that many milliseconds
per tick. -/
theorem tick_period_accepted (p clk : Nat) (period : Duration) :
    (∀ c, reloadValue p clk = .ok c ↔
      1 ≤ p ∧ 1 ≤ p * (clk / 1000) ∧ p * (clk / 1000) ≤ maxReload ∧ c = p * (clk / 1000)) ∧
    (∀ e, reloadValue p clk = .error e → ∃ reason, e = .invalidTickPeriod p reason) ∧
    (reloadValue p clk = .error (.invalidTickPeriod p "period must be at least 1ms") ↔ p = 0) ∧
    (reloadValue p clk = .error (.invalidTickPeriod p "reload value overflows") ↔
      Nat.pow 2 64 ≤ p * (clk / 1000)) ∧
    (reloadValue p clk =
        .error (.invalidTickPeriod p s!"clock {clk}Hz is too slow for a 1-cycle reload") ↔
      1 ≤ p ∧ clk < 1000) ∧
    (reloadValue p clk = .error
        (.invalidTickPeriod p s!"reload value {p * (clk / 1000)} exceeds 16777216 at {clk}Hz") ↔
      1 ≤ p ∧ maxReload < p * (clk / 1000) ∧ p * (clk / 1000) < Nat.pow 2 64) ∧
    ((∃ c, reloadValue p clk = .ok c) ↔ 1000 ≤ clk ∧ 1 ≤ p ∧ p ≤ maxReload / (clk / 1000)) ∧
    (∀ t, TimeBase.new period clk = .ok t ↔
      period.nanos % 1000000 = 0 ∧ (∃ c, reloadValue (min period.toMillis u64Max) clk = .ok c) ∧
        t = { periodMs := period.toMillis }) :=
  ⟨reloadValue_eq_ok_iff p clk, fun _ => reloadValue_error, reloadValue_eq_error_iff_zero p clk,
    reloadValue_eq_error_iff_overflow p clk, reloadValue_eq_error_iff_slow p clk,
    reloadValue_eq_error_iff_exceeds p clk, reloadValue_isOk_iff p clk,
    TimeBase.new_eq_ok_iff period clk⟩

/-- the documented limits at the default 120 MHz clock: 139 ms is the longest period -/
example : reloadValue 139 120000000 = .ok 16680000 ∧
    reloadValue 140 120000000 = .error
      (.invalidTickPeriod 140 "reload value 16800000 exceeds 16777216 at 120000000Hz") :=
  ⟨rfl, rfl⟩

end RoverKernel
