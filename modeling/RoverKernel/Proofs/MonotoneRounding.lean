import RoverKernel.Proofs.FloatOrder

/-!
# Rounding to nearest is monotone, in every binary format

`FloatFormat.roundRat` rounds `x = n / d * 2 ^ e` to the nearest multiple of its last place, the
place `fractionBits` below its leading bit or the subnormals' place when that is higher, and the
packed pattern is that multiple or, past the top binade, an infinity.  Both the place and the
multiple depend on `x` alone and grow with it, so a larger value never rounds smaller.

* `RoundedNat.mono`                 rounding to a natural, ties to even, is monotone;
* `FloatFormat.IsLastPlace`         the exponent of the last place of a value, and
  `FloatFormat.lastPlace_spec`      the one `roundRat` takes;
* `FloatFormat.Rounded`             a value rounded at its last place, with no bound on the
                                    exponent: monotone (`Rounded.mono`), a function of the value
                                    (`Rounded.unique`), exact on the grid (`Rounded.of_grid`);
* `FloatFormat.roundRat_spec`       the pattern `roundRat` gives: the rounded value, or an
                                    infinity from `2 ^ rangeTop` on, read through `pack_spec`.
-/

namespace RoverKernel

namespace RoundedNat

variable {y y' : ℚ} {m m' : Nat}

/-- **Rounding to a nearest natural, ties to even, is monotone**: two roundings the wrong way
round would sit half a unit on either side of one point, and one of the two is odd. -/
theorem mono (h : RoundedNat y m) (h' : RoundedNat y' m') (hy : y ≤ y') : m ≤ m' := by
  by_contra hgt
  have hlt : m' + 1 ≤ m := by omega
  have hq : (m' : ℚ) + 1 ≤ m := by exact_mod_cast hlt
  have hlo := (abs_le.mp h.error).1
  have hhi := (abs_le.mp h'.error).2
  -- `m - 1 / 2 ≤ y ≤ y' ≤ m' + 1 / 2`, so `m = m' + 1` and both points are the midpoint
  have hm : m = m' + 1 := by
    have : (m : ℚ) ≤ m' + 1 := by linarith
    exact le_antisymm (by exact_mod_cast this) hlt
  subst hm
  push_cast at hlo hq
  have hy1 : y = m' + 1 / 2 := by linarith
  have hy2 : y' = m' + 1 / 2 := by linarith
  have htie : |y - (m' + 1 : Nat)| = |y - m'| := by
    rw [hy1]
    push_cast
    norm_num [abs_of_nonneg, abs_of_nonpos]
  have htie' : |y' - m'| = |y' - (m' + 1 : Nat)| := by
    rw [hy2]
    push_cast
    norm_num [abs_of_nonneg, abs_of_nonpos]
  have heven := h.even m' (by omega) htie
  have heven' := h'.even (m' + 1) (by omega) htie'
  omega

/-- a natural rounds to itself -/
theorem self (j : Nat) : RoundedNat j j where
  error := by simp
  nearest := fun k => by simp
  even := fun k hk heq => by
    rw [sub_self, abs_zero, eq_comm, abs_eq_zero, sub_eq_zero] at heq
    exact absurd (by exact_mod_cast heq) hk

end RoundedNat

namespace FloatFormat

variable {f : FloatFormat}

theorem precision_eq (f : FloatFormat) : (f.precision : Int) = f.fractionBits + 1 := by
  simp [precision]

/-- `u` is the exponent of the last place of `x ≥ 0` in `f`: not below the subnormals' place,
with `x` below `2 ^ precision` places, and at least `2 ^ fractionBits` places unless `u` is the
subnormals' place -/
structure IsLastPlace (f : FloatFormat) (x : ℚ) (u : Int) : Prop where
  min_le : f.minUlpExp ≤ u
  lt_top : x < 2 ^ (u + f.precision)
  binade : f.minUlpExp < u → 2 ^ (u + f.fractionBits) ≤ x

/-- **A larger value has its last place no lower.** -/
theorem IsLastPlace.mono {x x' : ℚ} {u u' : Int} (h : f.IsLastPlace x u) (h' : f.IsLastPlace x' u')
    (hx : x ≤ x') : u ≤ u' := by
  by_contra hlt
  rw [not_le] at hlt
  -- a higher place would put `x` at or above the top of the binade of `x'`
  have hlow := h.binade (lt_of_le_of_lt h'.min_le hlt)
  have hpow : (2 : ℚ) ^ (u' + f.precision) ≤ 2 ^ (u + f.fractionBits) :=
    zpow_le_zpow_right₀ (by norm_num) (by rw [precision_eq]; omega)
  linarith [h'.lt_top]

/-- the last place `roundRat` rounds `n / d * 2 ^ e` to -/
def lastPlace (f : FloatFormat) (n d : Nat) (e : Int) : Int :=
  max (floorLog2Ratio n d + e - f.fractionBits) f.minUlpExp

/-- `roundRat` rounds at the last place of the value -/
theorem lastPlace_spec (f : FloatFormat) {n d : Nat} (hn : 0 < n) (hd : 0 < d) (e : Int) :
    f.IsLastPlace (n / d * 2 ^ e) (f.lastPlace n d e) := by
  obtain ⟨hlo, hhi⟩ := floorLog2Ratio_spec hn hd
  have hu : f.lastPlace n d e = max (floorLog2Ratio n d + e - f.fractionBits) f.minUlpExp := rfl
  have hpos : (0 : ℚ) < 2 ^ e := zpow_pos (by norm_num) e
  refine ⟨le_max_right _ _, ?_, fun hnormal => ?_⟩
  · -- below `2 ^ (⌊log₂ (n / d)⌋ + 1 + e)`, which is at most `precision` places
    calc (n / d * 2 ^ e : ℚ) < 2 ^ (floorLog2Ratio n d + 1) * 2 ^ e := mul_lt_mul_of_pos_right hhi hpos
      _ = 2 ^ (floorLog2Ratio n d + 1 + e) := (zpow_add₀ two_ne_zero _ _).symm
      _ ≤ 2 ^ (f.lastPlace n d e + f.precision) :=
          zpow_le_zpow_right₀ (by norm_num) (by rw [precision_eq]; omega)
  · -- a place above the subnormals' is `fractionBits` below the leading bit
    calc (2 : ℚ) ^ (f.lastPlace n d e + f.fractionBits) = 2 ^ (floorLog2Ratio n d + e) := by
          rw [show f.lastPlace n d e + f.fractionBits = floorLog2Ratio n d + e by omega]
      _ = 2 ^ floorLog2Ratio n d * 2 ^ e := zpow_add₀ two_ne_zero _ _
      _ ≤ n / d * 2 ^ e := mul_le_mul_of_nonneg_right hlo hpos.le

theorem two_pow_mul_zpow (k : Nat) (u : Int) : (2 : ℚ) ^ k * 2 ^ u = 2 ^ ((k : Int) + u) := by
  rw [← zpow_natCast, ← zpow_add₀ two_ne_zero]

section Significand

variable {x : ℚ} {u : Int} {m : Nat}

/-- a value rounded at its last place has a significand of at most `2 ^ precision` -/
theorem IsLastPlace.significand_le (hu : f.IsLastPlace x u) (hm : RoundedNat (x / 2 ^ u) m) :
    m ≤ 2 ^ f.precision := by
  refine hm.le_of_lt ?_
  rw [div_lt_iff₀ (zpow_pos two_pos u), Nat.cast_pow, Nat.cast_ofNat, two_pow_mul_zpow, add_comm]
  exact hu.lt_top

/-- and, above the subnormals' place, of at least `2 ^ fractionBits` -/
theorem IsLastPlace.le_significand (hu : f.IsLastPlace x u) (hm : RoundedNat (x / 2 ^ u) m)
    (hnormal : f.minUlpExp < u) : 2 ^ f.fractionBits ≤ m := by
  refine hm.le_of_le ?_
  rw [le_div_iff₀ (zpow_pos two_pos u), Nat.cast_pow, Nat.cast_ofNat, two_pow_mul_zpow, add_comm]
  exact hu.binade hnormal

end Significand

/-- `v` is `x ≥ 0` rounded to a nearest multiple of its last place in `f`, ties to an even
multiple, with no bound on the exponent -/
def Rounded (f : FloatFormat) (x v : ℚ) : Prop :=
  ∃ u m, f.IsLastPlace x u ∧ RoundedNat (x / 2 ^ u) m ∧ v = m * 2 ^ u

namespace Rounded

variable {x x' v v' : ℚ}

/-- **Rounding is monotone.**  On one last place the multiples are rounded in order; across
places the lower value stays within its binade and the higher one starts a binade above. -/
theorem mono (h : f.Rounded x v) (h' : f.Rounded x' v') (hx : x ≤ x') : v ≤ v' := by
  obtain ⟨u, m, hu, hm, rfl⟩ := h
  obtain ⟨u', m', hu', hm', rfl⟩ := h'
  have hpos : (0 : ℚ) < 2 ^ u := zpow_pos (by norm_num) u
  rcases (hu.mono hu' hx).lt_or_eq with hlt | rfl
  · -- `m * 2 ^ u ≤ 2 ^ (u + precision) ≤ 2 ^ (u' + fractionBits) ≤ m' * 2 ^ u'`
    have hm_le := hu.significand_le hm
    have hm'_ge := hu'.le_significand hm' (lt_of_le_of_lt hu.min_le hlt)
    calc (m : ℚ) * 2 ^ u ≤ 2 ^ (f.precision : Int) * 2 ^ u := by
          gcongr
          rw [zpow_natCast]
          exact_mod_cast hm_le
      _ = 2 ^ ((f.precision : Int) + u) := (zpow_add₀ two_ne_zero _ _).symm
      _ ≤ 2 ^ ((f.fractionBits : Int) + u') := zpow_le_zpow_right₀ (by norm_num) (by rw [precision_eq]; omega)
      _ = 2 ^ (f.fractionBits : Int) * 2 ^ u' := zpow_add₀ two_ne_zero _ _
      _ ≤ m' * 2 ^ u' := by
          gcongr
          rw [zpow_natCast]
          exact_mod_cast hm'_ge
  · have : m ≤ m' := hm.mono hm' (div_le_div_of_nonneg_right hx hpos.le)
    gcongr

theorem unique (h : f.Rounded x v) (h' : f.Rounded x v') : v = v' :=
  le_antisymm (h.mono h' le_rfl) (h'.mono h le_rfl)

/-- **A value on the grid of its last place is its own rounding.** -/
theorem of_grid {u : Int} (hu : f.IsLastPlace x u) (j : Nat) (hj : x = j * 2 ^ u) : f.Rounded x x :=
  ⟨u, j, hu, by rw [hj, mul_div_cancel_right₀ _ (zpow_ne_zero u two_ne_zero)]; exact RoundedNat.self j, hj⟩

/-- zero rounds to zero -/
theorem zero : f.Rounded 0 0 := by
  refine ⟨f.minUlpExp, 0, ⟨le_rfl, by positivity, fun h => absurd h (lt_irrefl _)⟩, ?_, by simp⟩
  rw [zero_div]
  exact_mod_cast RoundedNat.self 0

/-- **Naturals up to `2 ^ precision` are exact**: their last place is at most `2`, and `2` only
for `2 ^ precision` itself. -/
theorem natCast (hmin : f.minUlpExp ≤ 0) {j : Nat} (hj : j ≤ 2 ^ f.precision) : f.Rounded j j := by
  rcases Nat.eq_zero_or_pos j with rfl | hj0
  · exact_mod_cast zero
  have hu := f.lastPlace_spec hj0 Nat.one_pos 0
  rw [Nat.cast_one, div_one, zpow_zero, mul_one] at hu
  set u := f.lastPlace j 1 0
  have hjq : (j : ℚ) ≤ 2 ^ ((f.fractionBits : Int) + 1) := by
    rw [← precision_eq, zpow_natCast]
    exact_mod_cast hj
  -- a place above `2` would start a binade above `2 ^ precision`
  have hu1 : u ≤ 1 := by
    by_contra hgt
    have hlow := hu.binade (by omega)
    have : (2 : ℚ) ^ ((f.fractionBits : Int) + 1) < 2 ^ (u + f.fractionBits) :=
      zpow_lt_zpow_right₀ (by norm_num) (by omega)
    linarith
  rcases lt_or_eq_of_le hu1 with hlt | hone
  · -- at or below the units place `j` is a whole number of places
    refine of_grid hu (j * 2 ^ (-u).toNat) ?_
    rw [Nat.cast_mul, Nat.cast_pow, Nat.cast_ofNat, ← zpow_natCast, Int.toNat_of_nonneg (by omega),
      mul_assoc, ← zpow_add₀ two_ne_zero, neg_add_cancel, zpow_zero, mul_one]
  · -- at place `2` it is `2 ^ precision` itself
    have hlow := hu.binade (by omega)
    rw [hone, add_comm] at hlow
    refine of_grid hu (2 ^ f.fractionBits) ?_
    rw [hone, Nat.cast_pow, Nat.cast_ofNat, two_pow_mul_zpow]
    exact le_antisymm hjq hlow

end Rounded

/-! ## Significands at a place -/

/-- a significand of `k` bits at place `u` stays below `2 ^ t` for `k + u ≤ t` -/
theorem mul_zpow_lt {m k : Nat} {u t : Int} (hm : m < 2 ^ k) (h : (k : Int) + u ≤ t) :
    (m : ℚ) * 2 ^ u < 2 ^ t :=
  calc (m : ℚ) * 2 ^ u < 2 ^ k * 2 ^ u := by
        gcongr
        exact_mod_cast hm
    _ = 2 ^ ((k : Int) + u) := two_pow_mul_zpow k u
    _ ≤ 2 ^ t := zpow_le_zpow_right₀ (by norm_num) h

/-- a significand of at least `2 ^ k` at place `u` reaches `2 ^ t` for `t ≤ k + u` -/
theorem zpow_le_mul {m k : Nat} {u t : Int} (hm : 2 ^ k ≤ m) (h : t ≤ (k : Int) + u) :
    (2 : ℚ) ^ t ≤ m * 2 ^ u :=
  calc (2 : ℚ) ^ t ≤ 2 ^ ((k : Int) + u) := zpow_le_zpow_right₀ (by norm_num) h
    _ = 2 ^ k * 2 ^ u := (two_pow_mul_zpow k u).symm
    _ ≤ m * 2 ^ u := by
        gcongr
        exact_mod_cast hm

/-! ## The pattern `roundRat` gives -/

/-- the exponent of the least power of two above every finite value of `f` -/
def rangeTop (f : FloatFormat) : Int := f.minUlpExp + f.maxField - 1 + f.fractionBits

/-- `roundRat` packs the significand rounded at the last place, or `2 ^ fractionBits` one place
up when that carried -/
theorem roundRat_eq (neg : Bool) {n : Nat} (hn : n ≠ 0) (d : Nat) (e : Int) :
    f.roundRat neg n d e =
      if scaledSignificand n d (e - f.lastPlace n d e) = 2 ^ f.precision then
        f.pack neg (2 ^ f.fractionBits) (f.lastPlace n d e + 1)
      else f.pack neg (scaledSignificand n d (e - f.lastPlace n d e)) (f.lastPlace n d e) := by
  rw [roundRat, if_neg hn]
  rfl

/-- the sign alone is a zero of that sign -/
theorem classify_signOf_finite (heb : 1 ≤ f.exponentBits) (neg : Bool) :
    f.classify (f.signOf neg) = .finite 0 f.minUlpExp := by
  have h := classify_of_parts (f := f) neg 0 0 (by positivity) (by positivity)
  simp only [Nat.zero_mul, Nat.add_zero] at h
  rw [h, if_neg (by have := one_le_maxField heb; omega), if_true]

/-- **The pattern `roundRat` gives is the rounded value**: for every ratio and power of two, the
pattern carries the sign and is the value rounded at its last place, or an infinity when that
reaches `2 ^ rangeTop`. -/
theorem roundRat_spec (neg : Bool) (n : Nat) {d : Nat} (hd : 0 < d) (e : Int) (heb : 1 ≤ f.exponentBits) :
    f.roundRat neg n d e < 2 * f.signBit ∧ f.isNegative (f.roundRat neg n d e) = neg ∧
      ∃ v, f.Rounded (n / d * 2 ^ e) v ∧
        ((2 ^ f.rangeTop ≤ v ∧ f.classify (f.roundRat neg n d e) = .infinite) ∨
          (v < 2 ^ f.rangeTop ∧ ∃ M E, f.classify (f.roundRat neg n d e) = .finite M E ∧
            (M : ℚ) * 2 ^ E = v)) := by
  have hmax1 := one_le_maxField heb
  rcases Nat.eq_zero_or_pos n with rfl | hn
  · -- a zero of the sign
    obtain ⟨hlt, hneg, -⟩ := fields_of_parts (f := f) neg 0 0 (by positivity)
      (by positivity)
    simp only [Nat.zero_mul, Nat.add_zero] at hlt hneg
    rw [roundRat, if_pos rfl, Nat.cast_zero, zero_div, zero_mul]
    refine ⟨hlt, hneg, 0, Rounded.zero, .inr ⟨by positivity, 0, f.minUlpExp, classify_signOf_finite heb neg, by simp⟩⟩
  set u := f.lastPlace n d e with hu_def
  set m := scaledSignificand n d (e - u) with hm_def
  have hu := f.lastPlace_spec hn hd e
  -- the value over its last place is the ratio scaled by `2 ^ (e - u)`
  have hscaled : (n / d * 2 ^ e : ℚ) / 2 ^ u = n / d * 2 ^ (e - u) := by
    rw [zpow_sub₀ two_ne_zero, mul_div_assoc]
  have hm : RoundedNat ((n / d * 2 ^ e : ℚ) / 2 ^ u) m := by
    rw [hscaled]
    exact scaledSignificand_rounded n hd (e - u)
  have hrounded : f.Rounded (n / d * 2 ^ e) (m * 2 ^ u) := ⟨u, m, hu, hm, rfl⟩
  have hm_le := hu.significand_le hm
  have hP := Nat.two_pow_pos f.fractionBits
  rw [roundRat_eq neg hn.ne']
  by_cases hcarry : m = 2 ^ f.precision
  · -- the significand carried to `2 ^ precision`: `2 ^ fractionBits` one place up
    rw [if_pos hcarry]
    obtain ⟨hlt, hneg, hc⟩ := pack_spec (f := f) neg (m := 2 ^ f.fractionBits) (u := u + 1) heb
      (by rw [two_pow_precision]; omega) (fun _ => by linarith [hu.min_le])
    rw [if_neg (lt_irrefl _)] at hc
    have hv : (m : ℚ) * 2 ^ u = 2 ^ ((f.fractionBits : Int) + (u + 1)) := by
      rw [hcarry, Nat.cast_pow, Nat.cast_ofNat, two_pow_mul_zpow, precision_eq]
      ring_nf
    refine ⟨hlt, hneg, m * 2 ^ u, hrounded, ?_⟩
    split_ifs at hc with hover
    · exact .inl ⟨by rw [hv]; exact zpow_le_zpow_right₀ (by norm_num) (by unfold rangeTop; omega), hc⟩
    · refine .inr ⟨by rw [hv]; exact zpow_lt_zpow_right₀ (by norm_num) (by unfold rangeTop; omega),
        _, _, hc, ?_⟩
      rw [hv, Nat.cast_pow, Nat.cast_ofNat, two_pow_mul_zpow]
  · rw [if_neg hcarry]
    have hm_lt : m < 2 ^ f.precision := lt_of_le_of_ne hm_le hcarry
    obtain ⟨hlt, hneg, hc⟩ := pack_spec neg heb hm_lt fun _ => hu.min_le
    refine ⟨hlt, hneg, m * 2 ^ u, hrounded, ?_⟩
    split_ifs at hc with hsub hover
    · -- a subnormal significand comes only from the subnormals' place
      have hplace : u = f.minUlpExp := by
        by_contra hne
        have hge := hu.le_significand hm (lt_of_le_of_ne hu.min_le (Ne.symm hne))
        omega
      refine .inr ⟨mul_zpow_lt hsub (by unfold rangeTop; omega), m, u, by rw [hc, hplace], rfl⟩
    · exact .inl ⟨zpow_le_mul (Nat.not_lt.mp hsub) (by unfold rangeTop; omega), hc⟩
    · exact .inr ⟨mul_zpow_lt hm_lt (by rw [precision_eq]; unfold rangeTop; omega), m, u, hc, rfl⟩

end FloatFormat

end RoverKernel
