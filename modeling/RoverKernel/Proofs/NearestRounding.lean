import Mathlib.Algebra.Order.Field.Power
import Mathlib.Algebra.Order.Field.Rat
import Mathlib.Tactic.Linarith
import Mathlib.Tactic.NormNum
import Mathlib.Tactic.Positivity
import Mathlib.Tactic.Ring
import RoverKernel.Float.Decimal
import RoverKernel.Proofs.FloatFields

/-!
# Rounding to the nearest single-precision value

`FloatFormat.roundRat` puts the last place of its result at `⌊log₂ x⌋ - 23`, or at the last
place of the subnormals when that is higher, scales the exact value `x = n / d * 2 ^ e` so that
this place is one, rounds the scaled value to a natural ties to even and packs the result.
Each step is specified here over the rationals, and together they give IEEE 754 rounding to
nearest:

* `FloatFormat.RoundsTo`          the specification: the sign kept, zero included; an infinity from
                                  the overflow threshold on; below it a nearest finite value, with an
                                  even significand on a tie;
* `floorLog2Ratio_spec`, `scaleRatio_spec`, `roundHalfEven_rounded`   the three steps;
* `FloatFormat.pack_binary32`     what the packed pattern denotes;
* `FloatFormat.nearestEven_of_rounded`   no finite value is nearer than the nearest multiple of
                                  the last place;
* `FloatFormat.roundsTo_pack`, `FloatFormat.roundsTo_pack_carry`   a significand rounded at that
                                  place packs to the rounding of the value;
* `FloatFormat.roundRat_roundsTo` `roundRat` rounds every ratio to nearest, ties to even;
* `FloatFormat.ofDecimal_roundsTo`   so does reading `m * 10 ^ k`, shortcuts included.
-/

namespace RoverKernel

/-! ## The three steps over the rationals -/

theorem two_zpow_natCast_sub (a b : Nat) :
    (2 : ℚ) ^ ((a : Int) - b) = (2 : ℚ) ^ a / 2 ^ b := by
  rw [zpow_sub₀ (by norm_num), zpow_natCast, zpow_natCast]

theorem natCast_natPow (b k : Nat) : ((Nat.pow b k : Nat) : ℚ) = (b : ℚ) ^ k := by
  simp [Nat.pow_eq]

/-- `floorLog2Ratio n d` is `⌊log₂ (n / d)⌋` -/
theorem floorLog2Ratio_spec {n d : Nat} (hn : 0 < n) (hd : 0 < d) :
    (2 : ℚ) ^ floorLog2Ratio n d ≤ n / d ∧ (n / d : ℚ) < 2 ^ (floorLog2Ratio n d + 1) := by
  have hn1 := Nat.log2_self_le (Nat.pos_iff_ne_zero.mp hn)
  have hn2 := Nat.lt_log2_self (n := n)
  have hd1 := Nat.log2_self_le (Nat.pos_iff_ne_zero.mp hd)
  have hd2 := Nat.lt_log2_self (n := d)
  have hnq : (0 : ℚ) < n := by exact_mod_cast hn
  have hdq : (0 : ℚ) < d := by exact_mod_cast hd
  have ha1 : (2 : ℚ) ^ n.log2 ≤ n := by exact_mod_cast hn1
  have ha2 : (n : ℚ) < 2 ^ (n.log2 + 1) := by exact_mod_cast hn2
  have hb1 : (2 : ℚ) ^ d.log2 ≤ d := by exact_mod_cast hd1
  have hb2 : (d : ℚ) < 2 ^ (d.log2 + 1) := by exact_mod_cast hd2
  -- the ratio of the two leading powers is within a factor two either way
  have hlow : (2 : ℚ) ^ ((n.log2 : Int) - d.log2 - 1) < n / d := by
    rw [show (n.log2 : Int) - d.log2 - 1 = (n.log2 : Int) - ((d.log2 + 1 : Nat) : Int) by push_cast; ring,
      two_zpow_natCast_sub, div_lt_div_iff₀ (by positivity) hdq]
    calc (2 : ℚ) ^ n.log2 * d ≤ n * d := by gcongr
      _ < n * 2 ^ (d.log2 + 1) := by gcongr
  have hhigh : (n / d : ℚ) < 2 ^ ((n.log2 : Int) - d.log2 + 1) := by
    rw [show (n.log2 : Int) - d.log2 + 1 = ((n.log2 + 1 : Nat) : Int) - (d.log2 : Int) by push_cast; ring,
      two_zpow_natCast_sub, div_lt_div_iff₀ hdq (by positivity)]
    calc (n : ℚ) * 2 ^ d.log2 ≤ n * d := by gcongr
      _ < 2 ^ (n.log2 + 1) * d := by gcongr
  unfold floorLog2Ratio
  dsimp only
  split_ifs with h0 h1 h1
  · have hc : ((d * Nat.pow 2 ((n.log2 : Int) - d.log2).toNat : Nat) : ℚ) ≤ n := by exact_mod_cast h1
    rw [Nat.cast_mul, natCast_natPow, Nat.cast_ofNat, ← zpow_natCast, Int.toNat_of_nonneg h0] at hc
    exact ⟨(le_div_iff₀ hdq).mpr (by linarith), hhigh⟩
  · have hc : ((n : Nat) : ℚ) < ((d * Nat.pow 2 ((n.log2 : Int) - d.log2).toNat : Nat) : ℚ) := by
      exact_mod_cast Nat.lt_of_not_le h1
    rw [Nat.cast_mul, natCast_natPow, Nat.cast_ofNat, ← zpow_natCast, Int.toNat_of_nonneg h0] at hc
    refine ⟨hlow.le, ?_⟩
    rw [sub_add_cancel, div_lt_iff₀ hdq]
    linarith
  · have hc : ((d : Nat) : ℚ) ≤ ((n * Nat.pow 2 (-((n.log2 : Int) - d.log2)).toNat : Nat) : ℚ) := by
      exact_mod_cast h1
    rw [Nat.cast_mul, natCast_natPow, Nat.cast_ofNat, ← zpow_natCast, Int.toNat_of_nonneg (by omega),
      zpow_neg] at hc
    refine ⟨(le_div_iff₀ hdq).mpr ?_, hhigh⟩
    rwa [← div_eq_mul_inv, le_div_iff₀ (by positivity), mul_comm] at hc
  · have hc : ((n * Nat.pow 2 (-((n.log2 : Int) - d.log2)).toNat : Nat) : ℚ) < ((d : Nat) : ℚ) := by
      exact_mod_cast Nat.lt_of_not_le h1
    rw [Nat.cast_mul, natCast_natPow, Nat.cast_ofNat, ← zpow_natCast, Int.toNat_of_nonneg (by omega),
      zpow_neg] at hc
    refine ⟨hlow.le, ?_⟩
    rw [sub_add_cancel, div_lt_iff₀ hdq]
    rwa [← div_eq_mul_inv, div_lt_iff₀ (by positivity), mul_comm] at hc

theorem scaleRatio_spec (n : Nat) {d : Nat} (hd : 0 < d) (s : Int) :
    0 < (scaleRatio n d s).2 ∧
      ((scaleRatio n d s).1 / (scaleRatio n d s).2 : ℚ) = n / d * 2 ^ s := by
  unfold scaleRatio
  split_ifs with hs
  · refine ⟨hd, ?_⟩
    rw [Nat.cast_mul, natCast_natPow, Nat.cast_ofNat, ← zpow_natCast, Int.toNat_of_nonneg hs]
    ring
  · refine ⟨Nat.mul_pos hd (Nat.pow_pos (by norm_num)), ?_⟩
    rw [Nat.cast_mul, natCast_natPow, Nat.cast_ofNat, ← zpow_natCast, Int.toNat_of_nonneg (by omega), zpow_neg,
      div_mul_eq_div_div, div_inv_eq_mul]

/-- two different naturals are at least one apart -/
theorem one_le_abs_natCast_sub {a b : Nat} (h : a ≠ b) : (1 : ℚ) ≤ |(a : ℚ) - b| := by
  rcases Nat.lt_or_gt_of_ne h with h | h
  · have : (a : ℚ) + 1 ≤ b := by exact_mod_cast h
    rw [abs_sub_comm, abs_of_nonneg (by linarith)]
    linarith
  · have : (b : ℚ) + 1 ≤ a := by exact_mod_cast h
    rw [abs_of_nonneg (by linarith)]
    linarith

section
variable {q r den : Nat} (hr : r < den)
include hr

/-- rounding `q + r / den` moves it by at most a half -/
theorem roundHalfEven_error : |(q + r / den : ℚ) - roundHalfEven q r den| ≤ 1 / 2 := by
  have hden : (0 : ℚ) < den := by exact_mod_cast Nat.zero_lt_of_lt hr
  have hlt : (r / den : ℚ) < 1 := (div_lt_one hden).mpr (by exact_mod_cast hr)
  have hnn : (0 : ℚ) ≤ r / den := by positivity
  unfold roundHalfEven
  split_ifs with h
  · -- rounded up: the fraction is at least a half
    have hhalf : (1 / 2 : ℚ) ≤ r / den := by
      rw [le_div_iff₀ hden]
      rcases h with h | ⟨h, -⟩
      · have : (den : ℚ) < 2 * r := by exact_mod_cast h
        linarith
      · have : (2 * r : ℚ) = den := by exact_mod_cast h
        linarith
    rw [abs_le]
    push_cast
    constructor <;> linarith
  · -- rounded down: the fraction is at most a half
    have hhalf : (r / den : ℚ) ≤ 1 / 2 := by
      rw [div_le_iff₀ hden]
      have : 2 * r ≤ den := by omega
      have : (2 * r : ℚ) ≤ den := by exact_mod_cast this
      linarith
    rw [abs_le]
    constructor <;> linarith

/-- no natural is nearer to `q + r / den` than its rounding -/
theorem roundHalfEven_nearest (k : Nat) :
    |(q + r / den : ℚ) - roundHalfEven q r den| ≤ |(q + r / den : ℚ) - k| := by
  by_cases hk : roundHalfEven q r den = k
  · rw [hk]
  -- `k` is a whole unit away from the rounding, which is within a half
  have hmk := one_le_abs_natCast_sub hk
  have htri := abs_sub_le (roundHalfEven q r den : ℚ) (q + r / den) k
  rw [abs_sub_comm (roundHalfEven q r den : ℚ) (q + r / den)] at htri
  linarith [roundHalfEven_error (q := q) hr]

/-- a natural as near as the rounding is the other end of a tie, and the rounding is even -/
theorem roundHalfEven_even {k : Nat} (hk : roundHalfEven q r den ≠ k)
    (h : |(q + r / den : ℚ) - roundHalfEven q r den| = |(q + r / den : ℚ) - k|) :
    roundHalfEven q r den % 2 = 0 := by
  have hden : (0 : ℚ) < den := by exact_mod_cast Nat.zero_lt_of_lt hr
  have hnn : (0 : ℚ) ≤ r / den := by positivity
  have hmk := one_le_abs_natCast_sub hk
  have htri := abs_sub_le (roundHalfEven q r den : ℚ) (q + r / den) k
  rw [abs_sub_comm (roundHalfEven q r den : ℚ) (q + r / den)] at htri
  have hhalf : |(q + r / den : ℚ) - roundHalfEven q r den| = 1 / 2 :=
    le_antisymm (roundHalfEven_error hr) (by linarith)
  -- a distance of exactly a half puts the fraction at a half
  unfold roundHalfEven at hhalf ⊢
  split_ifs at hhalf ⊢ with hc
  · rcases hc with hc | ⟨-, hq⟩
    · have hgt : (1 / 2 : ℚ) < r / den := by
        rw [lt_div_iff₀ hden]
        have : (den : ℚ) < 2 * r := by exact_mod_cast hc
        linarith
      have hlt : (r / den : ℚ) < 1 := (div_lt_one hden).mpr (by exact_mod_cast hr)
      push_cast at hhalf
      rw [show (q : ℚ) + r / den - (q + 1) = r / den - 1 by ring, abs_of_neg (by linarith)] at hhalf
      linarith
    · omega
  · have hfrac : (r / den : ℚ) = 1 / 2 := by
      rw [add_sub_cancel_left, abs_of_nonneg hnn] at hhalf
      exact hhalf
    have h2 : 2 * r = den := by
      rw [div_eq_iff hden.ne'] at hfrac
      have : (2 * r : ℚ) = den := by linarith
      exact_mod_cast this
    omega

end

/-- `m` rounds `y` to a nearest natural number, ties to even -/
structure RoundedNat (y : ℚ) (m : Nat) : Prop where
  error : |y - m| ≤ 1 / 2
  nearest : ∀ k : Nat, |y - m| ≤ |y - k|
  even : ∀ k : Nat, m ≠ k → |y - m| = |y - k| → m % 2 = 0

theorem roundHalfEven_rounded {q r den : Nat} (hr : r < den) :
    RoundedNat (q + r / den) (roundHalfEven q r den) :=
  ⟨roundHalfEven_error hr, roundHalfEven_nearest hr, fun _ hk h => roundHalfEven_even hr hk h⟩

namespace RoundedNat

variable {y : ℚ} {m : Nat}

theorem le_of_lt (h : RoundedNat y m) {k : Nat} (hy : y < k) : m ≤ k := by
  have := (abs_le.mp h.error).1
  have : (m : ℚ) < k + 1 := by linarith
  exact_mod_cast Nat.lt_succ_iff.mp (by exact_mod_cast this)

theorem le_of_le (h : RoundedNat y m) {k : Nat} (hy : (k : ℚ) ≤ y) : k ≤ m := by
  have := (abs_le.mp h.error).2
  have : (k : ℚ) < m + 1 := by linarith
  exact Nat.lt_succ_iff.mp (by exact_mod_cast this)

/-- a value rounded below an even `k` stays under the midpoint `k - 1 / 2`: from there on it
would round to `k`, or tie between `k` and the odd `k - 1` -/
theorem lt_sub_half (h : RoundedNat y m) {k : Nat} (hk : k % 2 = 0) (hy : y < k) (hm : m < k) :
    y < k - 1 / 2 := by
  by_contra hlt
  have hge := not_lt.mp hlt
  have hmk : (m : ℚ) + 1 ≤ k := by exact_mod_cast hm
  have hdm : |y - m| = y - m := abs_of_nonneg (by linarith)
  have hdk : |y - k| = k - y := by rw [abs_of_neg (by linarith)]; ring
  have hnear := h.nearest k
  rw [hdm, hdk] at hnear
  -- both distances are exactly a half, so `m` is `k - 1` and ties with `k`
  have hmk' : m + 1 = k := by
    have : (m : ℚ) + 1 = k := by linarith
    exact_mod_cast this
  have heven := h.even k (by omega) (by rw [hdm, hdk]; linarith)
  omega

end RoundedNat

/-! ## Single-precision patterns -/

namespace FloatFormat

@[simp] theorem binary32_fractionBits : binary32.fractionBits = 23 := rfl
@[simp] theorem binary32_minUlpExp : binary32.minUlpExp = -149 := rfl
@[simp] theorem binary32_maxField : binary32.maxField = 255 := rfl
@[simp] theorem binary32_signBit : binary32.signBit = 2147483648 := rfl
@[simp] theorem binary32_infBits : binary32.infBits = 2139095040 := rfl
@[simp] theorem binary32_precision : binary32.precision = 24 := rfl

/-- a pattern below the sign bit, with the sign added -/
theorem classify_signed (neg : Bool) {k : Nat} (hk : k < 2147483648) :
    binary32.classify (binary32.signOf neg + k) = binary32.classify k ∧
      binary32.isNegative (binary32.signOf neg + k) = neg := by
  have hfield : ∀ x : Nat, binary32.exponentField x = x / 8388608 % 256 := fun x => rfl
  have hfrac : ∀ x : Nat, binary32.fraction x = x % 8388608 := fun x => rfl
  cases neg
  · simp [signOf, isNegative]
    omega
  · simp only [classify, hfield, hfrac, signOf, isNegative, binary32_signBit, if_true]
    refine ⟨?_, by simp; omega⟩
    have h1 : (2147483648 + k) / 8388608 % 256 = k / 8388608 % 256 := by omega
    have h2 : (2147483648 + k) % 8388608 = k % 8388608 := by omega
    rw [h1, h2]

theorem classify_binary32 (k : Nat) : binary32.classify k =
    if k / 8388608 % 256 = 255 then (if k % 8388608 = 0 then .infinite else .nan)
    else if k / 8388608 % 256 = 0 then .finite (k % 8388608) (-149)
    else .finite (k % 8388608 + 8388608) (-149 + (k / 8388608 % 256 : Nat) - 1) := rfl

/-- what `pack` builds in single precision: a subnormal, a normal value, or an infinity once the
exponent field would reach its maximum -/
theorem pack_binary32 (neg : Bool) {m : Nat} (ulp : Int) (hm : m < 16777216)
    (hnorm : 8388608 ≤ m → -149 ≤ ulp) :
    binary32.pack neg m ulp < 4294967296 ∧ binary32.isNegative (binary32.pack neg m ulp) = neg ∧
      binary32.classify (binary32.pack neg m ulp) =
        if m < 8388608 then .finite m (-149)
        else if 105 ≤ ulp then .infinite
        else .finite m ulp := by
  obtain ⟨hlt, hneg, hc⟩ := pack_spec (f := binary32) neg (u := ulp) (by decide) hm
    fun h => by simpa using hnorm (by simpa using h)
  have hover : ((binary32.maxField : Int) ≤ ulp - binary32.minUlpExp + 1) ↔ 105 ≤ ulp := by
    rw [binary32_maxField, binary32_minUlpExp]
    omega
  simp only [hover] at hc
  simp only [binary32_fractionBits, binary32_minUlpExp, Nat.reducePow] at hc
  exact ⟨by simpa using hlt, hneg, hc⟩

/-- every finite single-precision value is a subnormal `m * 2 ^ -149` or a normal
`m * 2 ^ e` with a 24-bit significand -/
theorem classify_finite_binary32 {b m : Nat} {e : Int} (h : binary32.classify b = .finite m e) :
    (m < 8388608 ∧ e = -149) ∨ (8388608 ≤ m ∧ m < 16777216 ∧ -149 ≤ e ∧ e ≤ 104) := by
  rw [classify_binary32] at h
  split_ifs at h with h1 h2
  · cases h
    omega
  · cases h
    omega

theorem abs_sub_mul_two_zpow (y a : ℚ) (u : Int) :
    |y * 2 ^ u - a * 2 ^ u| = |y - a| * 2 ^ u := by
  rw [← sub_mul, abs_mul, abs_of_pos (zpow_pos (by norm_num : (0 : ℚ) < 2) u)]

/-! ## Rounding to nearest, ties to even -/

/-- the magnitude from which rounding to nearest gives an infinity: the largest finite value
`(2 ^ precision - 1) * 2 ^ (maxField - 2 + minUlpExp)` plus half its last place -/
def overflowThreshold (f : FloatFormat) : ℚ :=
  (2 ^ f.precision - 1 / 2) * 2 ^ (f.minUlpExp + f.maxField - 2)

/-- `m * 2 ^ e` is a finite value of `f` nearest to `x`, and has an even significand when
another finite value is as near -/
def NearestEven (f : FloatFormat) (x : ℚ) (m : Nat) (e : Int) : Prop :=
  ∀ b' m' e', f.classify b' = .finite m' e' →
    |x - m * 2 ^ e| ≤ |x - m' * 2 ^ e'| ∧
      (|x - m * 2 ^ e| = |x - m' * 2 ^ e'| → (m' : ℚ) * 2 ^ e' ≠ m * 2 ^ e → m % 2 = 0)

/-- IEEE 754 rounding to nearest, ties to even, of the value of sign `neg` and magnitude
`x ≥ 0`: the pattern `b` carries the sign, zero included; it is an infinity from the overflow
threshold on, and below it a finite value nearest to `x`. -/
structure RoundsTo (f : FloatFormat) (neg : Bool) (x : ℚ) (b : Nat) : Prop where
  sign : f.isNegative b = neg
  overflow : f.overflowThreshold ≤ x → f.classify b = .infinite
  nearest : x < f.overflowThreshold → ∃ m e, f.classify b = .finite m e ∧ f.NearestEven x m e

theorem overflowThreshold_binary32 :
    binary32.overflowThreshold = (16777216 - 1 / 2) * 2 ^ (104 : Int) := by
  simp [overflowThreshold]
  norm_num

theorem roundsTo_of_finite {neg : Bool} {x : ℚ} {b m : Nat} {e : Int}
    (hs : binary32.isNegative b = neg) (hb : binary32.classify b = .finite m e)
    (hx : x < binary32.overflowThreshold) (hm : binary32.NearestEven x m e) :
    binary32.RoundsTo neg x b :=
  ⟨hs, fun h => absurd h (not_le.mpr hx), fun _ => ⟨m, e, hb, hm⟩⟩

theorem roundsTo_of_infinite {neg : Bool} {x : ℚ} {b : Nat}
    (hs : binary32.isNegative b = neg) (hb : binary32.classify b = .infinite)
    (hx : binary32.overflowThreshold ≤ x) : binary32.RoundsTo neg x b :=
  ⟨hs, fun _ => hb, fun h => absurd hx (not_le.mpr h)⟩

/-- **No single-precision value beats the nearest multiple of the last place.**  Let `m` be a
natural nearest to `y`, even on a tie.  Scaled by `2 ^ ulp`, with `ulp` the last place of the
subnormals or, for `y` of 24 bits, of `y`'s binade, `m` is then nearest to `y * 2 ^ ulp` among
all finite values: those on the grid of `2 ^ ulp` because `m` is nearest on it, and the finer
ones because they lie below `2 ^ 23` places. -/
theorem nearestEven_of_rounded {y : ℚ} {ulp : Int} {m : Nat} (hulp : -149 ≤ ulp)
    (hnorm : -149 < ulp → 8388608 ≤ y) (hm : RoundedNat y m) :
    binary32.NearestEven (y * 2 ^ ulp) m ulp := by
  intro b' m' e' hb'
  have hpos : (0 : ℚ) < 2 ^ ulp := zpow_pos (by norm_num) ulp
  rw [abs_sub_mul_two_zpow]
  by_cases hcoarse : ulp ≤ e'
  · -- on the grid: `m' * 2 ^ e'` is the multiple `k` of `2 ^ ulp`
    set k := m' * Nat.pow 2 (e' - ulp).toNat
    have hk : (m' : ℚ) * 2 ^ e' = k * 2 ^ ulp := by
      rw [Nat.cast_mul, natCast_natPow, Nat.cast_ofNat, ← zpow_natCast, Int.toNat_of_nonneg (by omega),
        mul_assoc, ← zpow_add₀ (by norm_num), sub_add_cancel]
    rw [hk, abs_sub_mul_two_zpow]
    refine ⟨mul_le_mul_of_nonneg_right (hm.nearest k) hpos.le, fun heq hne => hm.even k ?_ ?_⟩
    · rintro rfl
      exact hne rfl
    · exact mul_right_cancel₀ hpos.ne' heq
  · -- finer than the grid: only normal `y`, and every finer value lies below `2 ^ 23` places
    have hnormal : 8388608 ≤ y := hnorm (by rcases classify_finite_binary32 hb' with h | h <;> omega)
    have hm' : (m' : ℚ) < 16777216 := by
      rcases classify_finite_binary32 hb' with h | h <;> exact_mod_cast (by omega : m' < 16777216)
    have hfine : (m' : ℚ) * 2 ^ e' < 8388608 * 2 ^ ulp := by
      have he : (2 : ℚ) ^ e' ≤ 2 ^ (ulp - 1) := zpow_le_zpow_right₀ (by norm_num) (by omega)
      rw [zpow_sub₀ (by norm_num), zpow_one] at he
      have : (0 : ℚ) < 2 ^ e' := zpow_pos (by norm_num) e'
      nlinarith
    have hnear23 := hm.nearest 8388608
    push_cast at hnear23
    rw [abs_of_nonneg (by linarith : (0 : ℚ) ≤ y - 8388608)] at hnear23
    have hlt : |y - m| * 2 ^ ulp < |y * 2 ^ ulp - m' * 2 ^ e'| :=
      calc |y - m| * 2 ^ ulp ≤ (y - 8388608) * 2 ^ ulp := mul_le_mul_of_nonneg_right hnear23 hpos.le
        _ = y * 2 ^ ulp - 8388608 * 2 ^ ulp := by ring
        _ < y * 2 ^ ulp - m' * 2 ^ e' := by linarith
        _ ≤ |y * 2 ^ ulp - m' * 2 ^ e'| := le_abs_self _
    exact ⟨hlt.le, fun heq => absurd heq hlt.ne⟩

/-! ## `roundRat` -/

/-- the exponent of the last place `roundRat` rounds `n / d * 2 ^ e` to -/
def lastPlace32 (n d : Nat) (e : Int) : Int := max (floorLog2Ratio n d + e - 23) (-149)

/-- the significand `roundRat` rounds `n / d * 2 ^ s` to, before a carry -/
def scaledSignificand (n d : Nat) (s : Int) : Nat :=
  roundHalfEven ((scaleRatio n d s).1 / (scaleRatio n d s).2)
    ((scaleRatio n d s).1 % (scaleRatio n d s).2) (scaleRatio n d s).2

theorem roundRat_binary32 (neg : Bool) {n : Nat} (hn : n ≠ 0) (d : Nat) (e : Int) :
    binary32.roundRat neg n d e =
      if scaledSignificand n d (e - lastPlace32 n d e) = 16777216 then
        binary32.pack neg 8388608 (lastPlace32 n d e + 1)
      else binary32.pack neg (scaledSignificand n d (e - lastPlace32 n d e)) (lastPlace32 n d e) := by
  rw [roundRat, if_neg hn]
  rfl

/-- a ratio of naturals is its quotient plus the remainder's fraction -/
theorem natCast_div_eq_add (a : Nat) {b : Nat} (hb : 0 < b) :
    (a : ℚ) / b = (a / b : Nat) + (a % b : Nat) / (b : ℚ) := by
  have hb' : (b : ℚ) ≠ 0 := by exact_mod_cast hb.ne'
  have h := congrArg (Nat.cast : Nat → ℚ) (Nat.div_add_mod a b)
  push_cast at h
  rw [← h, add_div, mul_div_cancel_left₀ _ hb']

theorem scaledSignificand_rounded (n : Nat) {d : Nat} (hd : 0 < d) (s : Int) :
    RoundedNat (n / d * 2 ^ s) (scaledSignificand n d s) := by
  obtain ⟨hden, hval⟩ := scaleRatio_spec n hd s
  rw [← hval, natCast_div_eq_add _ hden]
  exact roundHalfEven_rounded (Nat.mod_lt _ hden)

theorem lastPlace32_bounds {n d : Nat} (hn : 0 < n) (hd : 0 < d) (e : Int) :
    -149 ≤ lastPlace32 n d e ∧ (n / d * 2 ^ (e - lastPlace32 n d e) : ℚ) < 16777216 ∧
      (-149 < lastPlace32 n d e → 8388608 ≤ (n / d * 2 ^ (e - lastPlace32 n d e) : ℚ)) := by
  obtain ⟨hlo, hhi⟩ := floorLog2Ratio_spec hn hd
  have hu : lastPlace32 n d e = max (floorLog2Ratio n d + e - 23) (-149) := rfl
  have hpos : (0 : ℚ) < 2 ^ (e - lastPlace32 n d e) := zpow_pos (by norm_num) _
  refine ⟨by omega, ?_, fun hnormal => ?_⟩
  · -- below `2 ^ (⌊log₂ (n / d)⌋ + 1)`, scaled by at most `2 ^ (23 - ⌊log₂ (n / d)⌋)`
    calc (n / d * 2 ^ (e - lastPlace32 n d e) : ℚ)
        < 2 ^ (floorLog2Ratio n d + 1) * 2 ^ (e - lastPlace32 n d e) :=
          mul_lt_mul_of_pos_right hhi hpos
      _ = 2 ^ (floorLog2Ratio n d + 1 + (e - lastPlace32 n d e)) := (zpow_add₀ two_ne_zero _ _).symm
      _ ≤ 2 ^ (24 : Int) := zpow_le_zpow_right₀ (by norm_num) (by omega)
      _ = 16777216 := by norm_num
  · -- a normal place is exactly 23 below the leading bit
    calc (8388608 : ℚ) = 2 ^ (floorLog2Ratio n d + (e - lastPlace32 n d e)) := by
          rw [show floorLog2Ratio n d + (e - lastPlace32 n d e) = 23 by omega]
          norm_num
      _ = 2 ^ floorLog2Ratio n d * 2 ^ (e - lastPlace32 n d e) := zpow_add₀ two_ne_zero _ _
      _ ≤ n / d * 2 ^ (e - lastPlace32 n d e) := mul_le_mul_of_nonneg_right hlo hpos.le

theorem NearestEven.of_eq_even {x : ℚ} {m m' : Nat} {e e' : Int} (h : binary32.NearestEven x m e)
    (hv : (m' : ℚ) * 2 ^ e' = m * 2 ^ e) (heven : m' % 2 = 0) : binary32.NearestEven x m' e' :=
  fun b m'' e'' hb => by
    rw [hv]
    exact ⟨(h b m'' e'' hb).1, fun _ _ => heven⟩

theorem lt_overflowThreshold {y : ℚ} {ulp : Int} (hy0 : 0 ≤ y) (hy : y < 16777216) (hu : ulp ≤ 103) :
    y * 2 ^ ulp < binary32.overflowThreshold := by
  rw [overflowThreshold_binary32]
  calc y * 2 ^ ulp ≤ y * 2 ^ (103 : Int) :=
        mul_le_mul_of_nonneg_left (zpow_le_zpow_right₀ (by norm_num) hu) hy0
    _ < 16777216 * 2 ^ (103 : Int) := mul_lt_mul_of_pos_right hy (by positivity)
    _ < (16777216 - 1 / 2) * 2 ^ (104 : Int) := by norm_num

/-- zero, and every magnitude up to half the least subnormal, reads as a zero of its sign -/
theorem roundsTo_signOf (neg : Bool) {x : ℚ} (hx0 : 0 ≤ x) (hx : x ≤ 2 ^ (-150 : Int)) :
    binary32.RoundsTo neg x (binary32.signOf neg) := by
  obtain ⟨hc, hs⟩ := classify_signed neg (k := 0) (by norm_num)
  rw [Nat.add_zero] at hc hs
  have hzero : binary32.classify (binary32.signOf neg) = .finite 0 (-149) := by
    rw [hc]
    rfl
  have hthreshold : x < binary32.overflowThreshold := by
    rw [overflowThreshold_binary32]
    calc x ≤ 2 ^ (-150 : Int) := hx
      _ < (16777216 - 1 / 2) * 2 ^ (104 : Int) := by norm_num
  refine roundsTo_of_finite hs hzero hthreshold fun b' m' e' hb' => ⟨?_, fun _ _ => rfl⟩
  rw [Nat.cast_zero, zero_mul, sub_zero, abs_of_nonneg hx0]
  rcases Nat.eq_zero_or_pos m' with rfl | hm'
  · simp [abs_of_nonneg hx0]
  · -- any other finite value is at least the least subnormal `2 ^ -149`
    have hleast : (2 : ℚ) ^ (-149 : Int) ≤ m' * 2 ^ e' := by
      have he : (-149 : Int) ≤ e' := by rcases classify_finite_binary32 hb' with h | h <;> omega
      have hm1 : (1 : ℚ) ≤ m' := by exact_mod_cast hm'
      calc (2 : ℚ) ^ (-149 : Int) ≤ 2 ^ e' := zpow_le_zpow_right₀ (by norm_num) he
        _ = 1 * 2 ^ e' := (one_mul _).symm
        _ ≤ m' * 2 ^ e' := mul_le_mul_of_nonneg_right hm1 (zpow_pos (by norm_num) _).le
    have hhalf : (2 : ℚ) ^ (-149 : Int) = 2 * 2 ^ (-150 : Int) := by norm_num
    rw [abs_sub_comm, abs_of_nonneg (by linarith)]
    linarith

theorem signOf_lt (neg : Bool) : binary32.signOf neg < 4294967296 := by
  cases neg <;> simp [signOf]

section
variable {y : ℚ} {ulp : Int} {m : Nat} (neg : Bool) (hy0 : 0 ≤ y) (hy : y < 16777216)
  (hnorm : -149 < ulp → 8388608 ≤ y) (hm : RoundedNat y m)
include hy0 hy hnorm hm

/-- a significand that carried to `2 ^ 24` is packed as `2 ^ 23` one place up: an infinity
from the last place `2 ^ 104` on, where the value is at least the threshold -/
theorem roundsTo_pack_carry (hulp : -149 ≤ ulp) (hcarry : m = 16777216) :
    binary32.pack neg 8388608 (ulp + 1) < 4294967296 ∧
      binary32.RoundsTo neg (y * 2 ^ ulp) (binary32.pack neg 8388608 (ulp + 1)) := by
  obtain ⟨hb, hs, hc⟩ := pack_binary32 neg (m := 8388608) (ulp + 1) (by norm_num) (fun _ => by omega)
  refine ⟨hb, ?_⟩
  rw [if_neg (by norm_num)] at hc
  have hhalf : (16777216 - 1 / 2 : ℚ) ≤ y := by
    have := (abs_le.mp hm.error).1
    rw [hcarry] at this
    push_cast at this
    linarith
  split_ifs at hc with hover
  · refine roundsTo_of_infinite hs hc ?_
    rw [overflowThreshold_binary32]
    calc (16777216 - 1 / 2 : ℚ) * 2 ^ (104 : Int) ≤ y * 2 ^ (104 : Int) :=
          mul_le_mul_of_nonneg_right hhalf (by positivity)
      _ ≤ y * 2 ^ ulp := mul_le_mul_of_nonneg_left (zpow_le_zpow_right₀ (by norm_num) (by omega)) hy0
  · refine roundsTo_of_finite hs hc (lt_overflowThreshold hy0 hy (by omega)) ?_
    refine (nearestEven_of_rounded hulp hnorm hm).of_eq_even ?_ rfl
    rw [hcarry, zpow_add_one₀ two_ne_zero]
    push_cast
    ring

/-- a significand below `2 ^ 24` packs to the rounding: a subnormal only at the least place,
an infinity once the exponent field would reach its maximum, and in the top binade a value
below the threshold -/
theorem roundsTo_pack (hulp : -149 ≤ ulp) (hm24 : m < 16777216) :
    binary32.pack neg m ulp < 4294967296 ∧ binary32.RoundsTo neg (y * 2 ^ ulp) (binary32.pack neg m ulp) := by
  have hnear := nearestEven_of_rounded hulp hnorm hm
  obtain ⟨hb, hs, hc⟩ := pack_binary32 neg ulp hm24 (fun _ => hulp)
  refine ⟨hb, ?_⟩
  split_ifs at hc with hsub hover
  · -- a normal place would have given a significand of 24 bits
    have hplace : ulp = -149 := by
      by_contra hne
      have := hm.le_of_le (k := 8388608) (by exact_mod_cast hnorm (by omega))
      omega
    refine roundsTo_of_finite hs hc (lt_overflowThreshold hy0 hy (by omega)) ?_
    rw [← hplace]
    exact hnear
  · refine roundsTo_of_infinite hs hc ?_
    rw [overflowThreshold_binary32]
    calc (16777216 - 1 / 2 : ℚ) * 2 ^ (104 : Int) ≤ 8388608 * 2 ^ (105 : Int) := by norm_num
      _ ≤ y * 2 ^ ulp := mul_le_mul (hnorm (by omega)) (zpow_le_zpow_right₀ (by norm_num) (by omega))
          (by positivity) hy0
  · refine roundsTo_of_finite hs hc ?_ hnear
    rcases lt_or_eq_of_le (show ulp ≤ 104 by omega) with hu | hu
    · exact lt_overflowThreshold hy0 hy (by omega)
    · -- from the threshold on, `y` would round to `2 ^ 24` or tie with it, and `2 ^ 24 - 1`
      -- is odd
      have hhalf := hm.lt_sub_half (k := 16777216) rfl (by exact_mod_cast hy) hm24
      rw [overflowThreshold_binary32, ← hu]
      push_cast at hhalf
      exact mul_lt_mul_of_pos_right hhalf (by positivity)

end

/-- **`roundRat` rounds to nearest, ties to even.**  For every ratio `n / d` and power of two,
the pattern is a single-precision value, carries the sign, and is the IEEE 754 rounding to
nearest of `n / d * 2 ^ e`. -/
theorem roundRat_roundsTo (neg : Bool) (n : Nat) {d : Nat} (hd : 0 < d) (e : Int) :
    binary32.roundRat neg n d e < 4294967296 ∧
      binary32.RoundsTo neg (n / d * 2 ^ e) (binary32.roundRat neg n d e) := by
  rcases Nat.eq_zero_or_pos n with rfl | hn
  · rw [roundRat, if_pos rfl, Nat.cast_zero, zero_div, zero_mul]
    exact ⟨signOf_lt neg, roundsTo_signOf neg le_rfl (by positivity)⟩
  obtain ⟨hulp, hlt, hnorm⟩ := lastPlace32_bounds hn hd e
  have hm := scaledSignificand_rounded n hd (e - lastPlace32 n d e)
  have hy0 : (0 : ℚ) ≤ n / d * 2 ^ (e - lastPlace32 n d e) := by positivity
  -- the exact value is the scaled one times the last place
  have hx : (n / d * 2 ^ e : ℚ) = n / d * 2 ^ (e - lastPlace32 n d e) * 2 ^ lastPlace32 n d e := by
    rw [mul_assoc, ← zpow_add₀ two_ne_zero, sub_add_cancel]
  rw [roundRat_binary32 neg hn.ne', hx]
  split_ifs with hcarry
  · exact roundsTo_pack_carry neg hy0 hlt hnorm hm hulp hcarry
  · exact roundsTo_pack neg hy0 hlt hnorm hm hulp
      (lt_of_le_of_ne (hm.le_of_lt (k := 16777216) (by exact_mod_cast hlt)) hcarry)

end FloatFormat

/-! ## Reading decimals -/

/-- a positive natural has `digitCount` digits -/
theorem digitCount_bounds (m : Nat) : m < 10 ^ digitCount m ∧ (0 < m → 10 ^ (digitCount m - 1) ≤ m) := by
  fun_induction digitCount m with
  | case1 m h => exact ⟨by omega, fun hm => by rw [Nat.sub_self, Nat.pow_zero]; omega⟩
  | case2 m h ih =>
    obtain ⟨hlt, hle⟩ := ih
    have hone : 1 ≤ digitCount (m / 10) := by
      unfold digitCount
      split <;> omega
    have hpow : 10 ^ digitCount (m / 10) = 10 ^ (digitCount (m / 10) - 1) * 10 := by
      rw [← Nat.pow_succ, Nat.succ_eq_add_one, Nat.sub_add_cancel hone]
    rw [Nat.add_sub_cancel, Nat.pow_succ]
    refine ⟨by omega, fun _ => ?_⟩
    have := hle (by omega)
    omega

theorem pow10Ratio_spec (x : Nat) (k : Int) :
    0 < (pow10Ratio x k).2 ∧ ((pow10Ratio x k).1 / (pow10Ratio x k).2 : ℚ) = x * 10 ^ k := by
  unfold pow10Ratio
  split_ifs with hk
  · refine ⟨Nat.one_pos, ?_⟩
    rw [Nat.cast_mul, natCast_natPow, Nat.cast_ofNat, ← zpow_natCast, Int.toNat_of_nonneg hk,
      Nat.cast_one, div_one]
  · refine ⟨Nat.pow_pos (by norm_num), ?_⟩
    rw [natCast_natPow, Nat.cast_ofNat, ← zpow_natCast, Int.toNat_of_nonneg (by omega), zpow_neg,
      div_inv_eq_mul]

namespace FloatFormat

/-- **Reading a decimal rounds it to nearest, ties to even.**  The shortcuts for more than 400
digits before the point and for values below `10 ^ -400` agree with rounding the exact value
`m * 10 ^ k`. -/
theorem ofDecimal_roundsTo (neg : Bool) (m : Nat) (k : Int) :
    binary32.ofDecimal neg m k < 4294967296 ∧
      binary32.RoundsTo neg (m * 10 ^ k) (binary32.ofDecimal neg m k) := by
  have hx0 : (0 : ℚ) ≤ m * 10 ^ k := by positivity
  obtain ⟨hlt, hle⟩ := digitCount_bounds m
  unfold ofDecimal
  split_ifs with hzero hbig hsmall
  · subst hzero
    rw [Nat.cast_zero, zero_mul]
    exact ⟨signOf_lt neg, roundsTo_signOf neg le_rfl (by positivity)⟩
  · -- at least `10 ^ 401`: far above the overflow threshold
    obtain ⟨hc, hs⟩ := classify_signed neg (k := binary32.infBits) (by decide)
    refine ⟨by cases neg <;> simp [signOf], roundsTo_of_infinite hs (by rw [hc]; rfl) ?_⟩
    have hlead : ((10 ^ (digitCount m - 1) : Nat) : ℚ) ≤ m := by exact_mod_cast hle (by omega)
    rw [overflowThreshold_binary32]
    calc (16777216 - 1 / 2 : ℚ) * 2 ^ (104 : Int) ≤ 10 ^ (39 : Int) := by norm_num
      _ ≤ 10 ^ (((digitCount m - 1 : Nat) : Int) + k) :=
          zpow_le_zpow_right₀ (by norm_num) (by omega)
      _ = ((10 ^ (digitCount m - 1) : Nat) : ℚ) * 10 ^ k := by
          rw [zpow_add₀ (by norm_num), zpow_natCast]
          push_cast
          rfl
      _ ≤ m * 10 ^ k := mul_le_mul_of_nonneg_right hlead (by positivity)
  · -- below `10 ^ -400`: under half the least subnormal
    refine ⟨signOf_lt neg, roundsTo_signOf neg hx0 ?_⟩
    have hdigits : (m : ℚ) < ((10 ^ digitCount m : Nat) : ℚ) := by exact_mod_cast hlt
    calc (m : ℚ) * 10 ^ k ≤ ((10 ^ digitCount m : Nat) : ℚ) * 10 ^ k :=
          mul_le_mul_of_nonneg_right hdigits.le (by positivity)
      _ = 10 ^ ((digitCount m : Int) + k) := by
          rw [zpow_add₀ (by norm_num), zpow_natCast]
          push_cast
          rfl
      _ ≤ 10 ^ (-46 : Int) := zpow_le_zpow_right₀ (by norm_num) (by omega)
      _ ≤ 2 ^ (-150 : Int) := by norm_num
  · obtain ⟨hd, hval⟩ := pow10Ratio_spec m k
    have h := roundRat_roundsTo neg (pow10Ratio m k).1 hd 0
    rw [zpow_zero, mul_one, hval] at h
    exact h

end FloatFormat

end RoverKernel
