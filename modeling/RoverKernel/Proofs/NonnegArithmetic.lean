import Mathlib.Data.Rat.Floor
import Mathlib.Order.WithBot
import RoverKernel.Proofs.MonotoneRounding

/-!
# Arithmetic on values that are not negative

A pattern of a value that is not negative is a zero of either sign, a positive finite value or
the positive infinity; `NonnegValue` reads it as an element of `WithTop ℚ`.  On such patterns a
quotient by a positive value, a product, and rounding to an integral value each give their
exact result rounded, with `⊤` past the top binade (`RoundedTop`), and that is monotone in the
exact result.  So is the saturating cast to a natural.

* `FloatFormat.Interchange`          the shape of the interchange formats;
* `FloatFormat.NonnegValue`          the value of a pattern that is not negative;
* `FloatFormat.RoundedTop.mono`      rounding with overflow is monotone;
* `roundRat_nonnegValue`, `div_nonnegValue`, `mul_nonnegValue`, `mul_infinite`
                                     rounding, quotients and products;
* `roundHalfAway_nonnegValue`        rounding half away from zero gives `⌊x + 1 / 2⌋`;
* `toNatSat_of_nonnegValue`          and the saturating cast reads a natural back.
-/

namespace RoverKernel

namespace FloatFormat

variable {f : FloatFormat}

/-- the shape of the interchange formats: an exponent field, the subnormals' place not above the
units place, and the top binade above `2 ^ precision` -/
structure Interchange (f : FloatFormat) : Prop where
  exponentBits_pos : 1 ≤ f.exponentBits
  minUlpExp_nonpos : f.minUlpExp ≤ 0
  precision_lt_rangeTop : (f.precision : Int) < f.rangeTop

theorem binary64_interchange : binary64.Interchange := ⟨by decide, by decide, by decide⟩

/-- `b` is a pattern of `x`, a value that is not negative: a zero of either sign, a positive finite
value, or the positive infinity (`⊤`) -/
inductive NonnegValue (f : FloatFormat) : Nat → WithTop ℚ → Prop
  | finite {b m : Nat} {e : Int} : f.classify b = .finite m e → (f.isNegative b = true → m = 0) →
      NonnegValue f b (((m : ℚ) * 2 ^ e : ℚ) : WithTop ℚ)
  | top {b : Nat} : f.classify b = .infinite → f.isNegative b = false → NonnegValue f b ⊤

namespace NonnegValue

variable {b : Nat} {x : ℚ}

theorem nonneg (h : f.NonnegValue b (x : WithTop ℚ)) : 0 ≤ x := by
  generalize hy : (x : WithTop ℚ) = y at h
  cases h with
  | finite => rw [WithTop.coe_inj.mp hy]; positivity
  | top => exact absurd hy WithTop.coe_ne_top

/-- a finite pattern whose value is not negative -/
theorem of_value (h : f.value b = some x) (hx : 0 ≤ x) :
    ∃ m e, f.classify b = .finite m e ∧ (f.isNegative b = true → m = 0) ∧ x = m * 2 ^ e := by
  unfold value at h
  split at h
  · rename_i m e hc
    cases h
    refine ⟨m, e, hc, fun hneg => ?_, signedValue_of_nonneg hx⟩
    -- a negative sign on a value that is not negative: a zero
    have hval := signedValue_of_nonneg hx
    rw [hneg] at hval
    simp only [signedValue, signedInt, if_true, Int.cast_neg, Int.cast_natCast, neg_mul] at hval
    have hpos : (0 : ℚ) < 2 ^ e := zpow_pos (by norm_num) e
    have : (m : ℚ) * 2 ^ e = 0 := by linarith
    exact_mod_cast (mul_eq_zero.mp this).resolve_right hpos.ne'
  · cases h

end NonnegValue

/-- `y` is `x ≥ 0` rounded in `f`, or `⊤` once the rounded value reaches `2 ^ rangeTop` -/
def RoundedTop (f : FloatFormat) (x : ℚ) (y : WithTop ℚ) : Prop :=
  ∃ v, f.Rounded x v ∧ y = if 2 ^ f.rangeTop ≤ v then ⊤ else (v : WithTop ℚ)

namespace RoundedTop

variable {x x' : ℚ} {y y' : WithTop ℚ}

/-- **Rounding with overflow is monotone.** -/
theorem mono (h : f.RoundedTop x y) (h' : f.RoundedTop x' y') (hx : x ≤ x') : y ≤ y' := by
  obtain ⟨v, hv, rfl⟩ := h
  obtain ⟨v', hv', rfl⟩ := h'
  have hle := hv.mono hv' hx
  split_ifs with hover hover'
  · exact le_rfl
  · exact absurd (hover.trans hle) hover'
  · exact le_top
  · exact WithTop.coe_le_coe.mpr hle

/-- a value that is its own rounding, below `2 ^ rangeTop`, stays as it is -/
theorem of_rounded (h : f.Rounded x x) (hx : x < 2 ^ f.rangeTop) : f.RoundedTop x x :=
  ⟨x, h, by rw [if_neg (not_le.mpr hx)]⟩

theorem unique (h : f.RoundedTop x y) (h' : f.RoundedTop x y') : y = y' :=
  le_antisymm (h.mono h' le_rfl) (h'.mono h le_rfl)

theorem zero : f.RoundedTop 0 ((0 : ℚ) : WithTop ℚ) :=
  of_rounded Rounded.zero (zpow_pos two_pos _)

theorem nonneg (h : f.RoundedTop x y) (hx : 0 ≤ x) : 0 ≤ y :=
  zero.mono h hx

end RoundedTop

/-- the saturating cast reads back a natural value that is not negative -/
theorem toNatSat_of_nonnegValue {b q : Nat} (h : f.NonnegValue b ((q : ℚ) : WithTop ℚ)) (bound : Nat) :
    f.toNatSat b bound = min q (bound - 1) := by
  generalize hy : ((q : ℚ) : WithTop ℚ) = y at h
  cases h with
  | @finite m e hb hs =>
    have hval : (m : ℚ) * 2 ^ e = q := (WithTop.coe_inj.mp hy).symm
    cases hneg : f.isNegative b with
    | true =>
      -- a negative zero
      have hm := hs hneg
      subst hm
      have : q = 0 := by exact_mod_cast (by simpa using hval.symm : (q : ℚ) = 0)
      simp [toNatSat, hb, hneg, this]
    | false =>
      simp only [toNatSat, hb, hneg, Bool.false_eq_true, if_false, Nat.pow_eq]
      congr 1
      split_ifs with he
      · -- `m * 2 ^ e` in whole units
        have : ((m * 2 ^ e.toNat : Nat) : ℚ) = q := by
          rw [← hval, Nat.cast_mul, Nat.cast_pow, Nat.cast_ofNat, ← zpow_natCast, Int.toNat_of_nonneg he]
        exact_mod_cast this
      · -- `m` is `q` whole units of `2 ^ -e`
        have hpow : (2 : ℚ) ^ e * 2 ^ (-e).toNat = 1 := by
          rw [← zpow_natCast, Int.toNat_of_nonneg (by omega), ← zpow_add₀ two_ne_zero, add_neg_cancel,
            zpow_zero]
        have hm : m = q * 2 ^ (-e).toNat := by
          have : (m : ℚ) = q * 2 ^ (-e).toNat := by
            rw [← hval, mul_assoc, hpow, mul_one]
          exact_mod_cast this
        rw [hm, Nat.mul_div_cancel _ (Nat.two_pow_pos _)]
  | top hb hs => exact absurd hy (WithTop.coe_ne_top)

/-- the saturating cast takes the positive infinity to the top of its range -/
theorem toNatSat_of_top {b : Nat} (h : f.NonnegValue b ⊤) (bound : Nat) :
    f.toNatSat b bound = bound - 1 := by
  generalize hy : (⊤ : WithTop ℚ) = y at h
  cases h with
  | finite => exact absurd hy.symm WithTop.coe_ne_top
  | top hb hs => simp [toNatSat, hb, hs]

/-- a positive finite value times the positive infinity is that infinity -/
theorem mul_infinite {a k ma : Nat} {ea : Int} (ha : f.classify a = .finite ma ea) (hma : 0 < ma)
    (hsa : f.isNegative a = false) (hk : f.classify k = .infinite) (hsk : f.isNegative k = false) :
    f.mul a k < 2 * f.signBit ∧ f.NonnegValue (f.mul a k) ⊤ := by
  obtain ⟨m, rfl⟩ : ∃ m, ma = m + 1 := ⟨ma - 1, by omega⟩
  have hmul : f.mul a k = f.signOf false + f.maxField * 2 ^ f.fractionBits + 0 := by
    simp only [mul, ha, hk, hsa, hsk, infBits, Nat.pow_eq, Nat.add_zero]
    rfl
  obtain ⟨hlt, hneg, -⟩ := fields_of_parts (f := f) false _ _ (maxField_lt f) (Nat.two_pow_pos f.fractionBits)
  have hc := classify_of_parts (f := f) false _ _ (maxField_lt f) (Nat.two_pow_pos f.fractionBits)
  rw [if_pos rfl, if_pos rfl] at hc
  rw [hmul]
  exact ⟨hlt, .top hc hneg⟩

/-- the natural below `bound` that a value that is not negative reads as, rounded half away
from zero and cast with saturation; `⊤` saturates -/
def roundedNat (bound : Nat) : WithTop ℚ → Nat
  | none => bound - 1
  | some x => min ⌊x + 1 / 2⌋₊ (bound - 1)

@[simp] theorem roundedNat_top (bound : Nat) : roundedNat bound ⊤ = bound - 1 := rfl

@[simp] theorem roundedNat_coe (bound : Nat) (x : ℚ) :
    roundedNat bound x = min ⌊x + 1 / 2⌋₊ (bound - 1) := rfl

theorem roundedNat_mono {bound : Nat} {y y' : WithTop ℚ} (h : y ≤ y') :
    roundedNat bound y ≤ roundedNat bound y' := by
  cases y' with
  | top =>
    rw [roundedNat_top]
    cases y with
    | top => exact le_rfl
    | coe x => exact min_le_right _ _
  | coe x' =>
    cases y with
    | top => exact absurd h (by simp)
    | coe x =>
      rw [roundedNat_coe, roundedNat_coe]
      exact min_le_min_right _ (Nat.floor_le_floor (by linarith [WithTop.coe_le_coe.mp h]))

/-- a natural plus a half rounds down to itself -/
theorem floor_natCast_add_half (j : Nat) : ⌊(j : ℚ) + 1 / 2⌋₊ = j := by
  rw [Nat.floor_eq_iff (by positivity)]
  constructor <;> linarith

@[simp] theorem roundedNat_natCast (bound j : Nat) :
    roundedNat bound ((j : ℚ) : WithTop ℚ) = min j (bound - 1) := by
  rw [roundedNat_coe, floor_natCast_add_half]

/-- `m / 2 ^ k` plus a half rounds down to the quotient, or to one more from half a unit on -/
theorem floor_div_two_pow_add_half (m k : Nat) :
    ⌊(m : ℚ) / (2 ^ k : Nat) + 1 / 2⌋₊ =
      if 2 ^ k ≤ 2 * (m % 2 ^ k) then m / 2 ^ k + 1 else m / 2 ^ k := by
  have hpos : 0 < 2 ^ k := Nat.two_pow_pos k
  have hr0 : (0 : ℚ) ≤ ((m % 2 ^ k : Nat) : ℚ) / (2 ^ k : Nat) := by positivity
  have hr1 : ((m % 2 ^ k : Nat) : ℚ) / (2 ^ k : Nat) < 1 := by
    rw [div_lt_one (by positivity)]
    exact_mod_cast Nat.mod_lt _ hpos
  rw [Nat.floor_eq_iff (by positivity), natCast_div_eq_add _ hpos]
  split_ifs with hhalf
  · -- the remainder is at least half the unit
    have : (1 / 2 : ℚ) ≤ ((m % 2 ^ k : Nat) : ℚ) / (2 ^ k : Nat) := by
      rw [le_div_iff₀ (by positivity)]
      have : ((2 ^ k : Nat) : ℚ) ≤ 2 * (m % 2 ^ k : Nat) := by exact_mod_cast hhalf
      linarith
    rw [Nat.cast_succ]
    constructor <;> linarith
  · have : ((m % 2 ^ k : Nat) : ℚ) / (2 ^ k : Nat) < 1 / 2 := by
      rw [div_lt_iff₀ (by positivity)]
      have : (2 * (m % 2 ^ k : Nat) : ℚ) < (2 ^ k : Nat) := by exact_mod_cast Nat.lt_of_not_le hhalf
      linarith
    constructor <;> linarith

variable (hf : f.Interchange)
include hf

/-- naturals up to `2 ^ precision` round to themselves, below the overflow -/
theorem roundedTop_natCast {j : Nat} (hj : j ≤ 2 ^ f.precision) :
    f.RoundedTop (j : ℚ) ((j : ℚ) : WithTop ℚ) := by
  refine RoundedTop.of_rounded (Rounded.natCast hf.minUlpExp_nonpos hj) ?_
  calc (j : ℚ) ≤ 2 ^ f.precision := by exact_mod_cast hj
    _ = 2 ^ (f.precision : Int) := (zpow_natCast 2 _).symm
    _ < 2 ^ f.rangeTop := zpow_lt_zpow_right₀ (by norm_num) hf.precision_lt_rangeTop

/-- **`roundRat` of a value that is not negative**, with a negative sign only on a zero: the
pattern is below the sign bit's double and reads as the rounded value. -/
theorem roundRat_nonnegValue (neg : Bool) {n d : Nat} (hd : 0 < d) (e : Int) (hneg : neg = true → n = 0) :
    f.roundRat neg n d e < 2 * f.signBit ∧
      ∃ y, f.NonnegValue (f.roundRat neg n d e) y ∧ f.RoundedTop (n / d * 2 ^ e) y := by
  cases neg with
  | true =>
    -- only a zero carries the sign
    obtain rfl := hneg rfl
    have hbits := (fields_of_parts (f := f) true 0 0 (by positivity)
      (by positivity)).1
    simp only [Nat.zero_mul, Nat.add_zero] at hbits
    rw [roundRat, if_pos rfl, Nat.cast_zero, zero_div, zero_mul]
    refine ⟨hbits, _, .finite (classify_signOf_finite hf.exponentBits_pos true) (fun _ => rfl), ?_⟩
    rw [Nat.cast_zero, zero_mul]
    exact RoundedTop.of_rounded Rounded.zero (by positivity)
  | false =>
    obtain ⟨hlt, hsign, v, hv, hcases⟩ := roundRat_spec false n hd e hf.exponentBits_pos
    refine ⟨hlt, ?_⟩
    rcases hcases with ⟨hover, hc⟩ | ⟨hunder, M, E, hc, hval⟩
    · exact ⟨⊤, .top hc hsign, v, hv, by rw [if_pos hover]⟩
    · refine ⟨_, .finite hc (fun h => absurd (hsign ▸ h) Bool.false_ne_true), v, hv, ?_⟩
      rw [if_neg (not_le.mpr hunder), hval]

/-- **A quotient by a positive finite value** is the exact quotient rounded, with the dividend's
sign on a zero. -/
theorem div_nonnegValue {a h ma mh : Nat} {ea eh : Int} (ha : f.classify a = .finite ma ea)
    (hsa : f.isNegative a = true → ma = 0) (hh : f.classify h = .finite mh eh) (hmh : 0 < mh)
    (hsh : f.isNegative h = false) :
    f.div a h < 2 * f.signBit ∧
      ∃ y, f.NonnegValue (f.div a h) y ∧ f.RoundedTop (ma * 2 ^ ea / (mh * 2 ^ eh)) y := by
  obtain ⟨k, rfl⟩ : ∃ k, mh = k + 1 := ⟨mh - 1, by omega⟩
  have hdiv : f.div a h = f.roundRat (f.isNegative a) ma (k + 1) (ea - eh) := by
    simp only [div, ha, hh, hsh, Bool.bne_false]
  have hx : (ma : ℚ) * 2 ^ ea / ((k + 1 : Nat) * 2 ^ eh) = ma / (k + 1 : Nat) * 2 ^ (ea - eh) := by
    rw [zpow_sub₀ two_ne_zero]
    ring
  rw [hdiv, hx]
  exact roundRat_nonnegValue hf _ (Nat.succ_pos k) _ hsa

/-- **A product of two finite values that are not negative** is the exact product rounded. -/
theorem mul_nonnegValue {a k ma mk : Nat} {ea ek : Int} (ha : f.classify a = .finite ma ea)
    (hsa : f.isNegative a = true → ma = 0) (hk : f.classify k = .finite mk ek)
    (hsk : f.isNegative k = true → mk = 0) :
    f.mul a k < 2 * f.signBit ∧
      ∃ y, f.NonnegValue (f.mul a k) y ∧ f.RoundedTop (ma * 2 ^ ea * (mk * 2 ^ ek)) y := by
  have hmul : f.mul a k = f.roundRat (f.isNegative a != f.isNegative k) (ma * mk) 1 (ea + ek) := by
    simp only [mul, ha, hk]
  -- a negative product has a zero factor
  have hneg : (f.isNegative a != f.isNegative k) = true → ma * mk = 0 := by
    cases hsa' : f.isNegative a <;> cases hsk' : f.isNegative k <;> simp [hsa, hsk, hsa', hsk']
  have hx : (ma : ℚ) * 2 ^ ea * (mk * 2 ^ ek) = (ma * mk : Nat) / (1 : Nat) * 2 ^ (ea + ek) := by
    rw [zpow_add₀ two_ne_zero]
    push_cast
    ring
  rw [hmul, hx]
  exact roundRat_nonnegValue hf _ Nat.one_pos _ hneg

/-- **Rounding half away from zero** takes a finite value `x` that is not negative to the
natural `⌊x + 1 / 2⌋`, which the format holds exactly. -/
theorem roundHalfAway_nonnegValue {b m : Nat} {e : Int} (hb : f.classify b = .finite m e)
    (hs : f.isNegative b = true → m = 0) (hlt : b < 2 * f.signBit) :
    f.roundHalfAway b < 2 * f.signBit ∧
      f.NonnegValue (f.roundHalfAway b) ((⌊(m : ℚ) * 2 ^ e + 1 / 2⌋₊ : Nat) : ℚ) := by
  obtain ⟨hm, -⟩ := classify_finite_bounds hb
  by_cases he : 0 ≤ e
  · -- an integral value is kept
    have hint : (m : ℚ) * 2 ^ e = (m * 2 ^ e.toNat : Nat) := by
      rw [Nat.cast_mul, Nat.cast_pow, Nat.cast_ofNat, ← zpow_natCast, Int.toNat_of_nonneg he]
    have hfloor : ⌊(m : ℚ) * 2 ^ e + 1 / 2⌋₊ = m * 2 ^ e.toNat := by
      rw [hint, floor_natCast_add_half]
    have hrha : f.roundHalfAway b = b := by simp only [roundHalfAway, hb, if_pos he]
    rw [hrha, hfloor, ← hint]
    exact ⟨hlt, .finite hb hs⟩
  · -- below the units place: the quotient by the unit, plus one from half a unit on
    set k := (-e).toNat with hk
    have hk1 : 1 ≤ k := by omega
    have hunit : (2 : ℚ) ^ e = 1 / 2 ^ k := by
      rw [hk, ← zpow_natCast, Int.toNat_of_nonneg (by omega), zpow_neg, one_div, inv_inv]
    set q := if 2 ^ k ≤ 2 * (m % 2 ^ k) then m / 2 ^ k + 1 else m / 2 ^ k with hq
    have hrha : f.roundHalfAway b = f.roundRat (f.isNegative b) q 1 0 := by
      simp only [roundHalfAway, hb, if_neg he, Nat.pow_eq]
      rfl
    have hfloor : ⌊(m : ℚ) * 2 ^ e + 1 / 2⌋₊ = q := by
      rw [show (m : ℚ) * 2 ^ e = m / (2 ^ k : Nat) by rw [hunit]; push_cast; ring]
      exact floor_div_two_pow_add_half m k
    -- `q` is at most `2 ^ fractionBits`, so the format holds it exactly
    have hq_le : q ≤ 2 ^ f.precision := by
      have hhalf : m / 2 ^ k ≤ m / 2 := Nat.div_le_div_left (by
        calc 2 = 2 ^ 1 := rfl
          _ ≤ 2 ^ k := Nat.pow_le_pow_right (by norm_num) hk1) (by norm_num)
      rw [two_pow_precision] at hm ⊢
      rw [hq]
      split_ifs <;> omega
    have hneg : f.isNegative b = true → q = 0 := by
      intro hneg
      rw [hq, hs hneg, Nat.zero_mod, Nat.zero_div, Nat.mul_zero]
      simp
    obtain ⟨hlt', y, hy, hround⟩ := roundRat_nonnegValue hf _ Nat.one_pos 0 hneg
    have hexact : f.RoundedTop ((q : Nat) / (1 : Nat) * 2 ^ (0 : Int)) ((q : ℚ) : WithTop ℚ) := by
      rw [Nat.cast_one, div_one, zpow_zero, mul_one]
      exact roundedTop_natCast hf hq_le
    rw [hrha, hfloor, ← hround.unique hexact]
    exact ⟨hlt', hy⟩

/-- **Rounding half away from zero, then the saturating cast**, reads a value that is not
negative as `roundedNat`. -/
theorem toNatSat_roundHalfAway {b : Nat} {y : WithTop ℚ} (hb : f.NonnegValue b y)
    (hlt : b < 2 * f.signBit) (bound : Nat) :
    f.roundHalfAway b < 2 * f.signBit ∧ f.toNatSat (f.roundHalfAway b) bound = roundedNat bound y := by
  cases hb with
  | finite hc hs =>
    obtain ⟨hlt', hv⟩ := roundHalfAway_nonnegValue hf hc hs hlt
    exact ⟨hlt', toNatSat_of_nonnegValue hv bound⟩
  | top hc hs =>
    have hrha : f.roundHalfAway b = b := by simp only [roundHalfAway, hc]
    rw [hrha]
    exact ⟨hlt, toNatSat_of_top (.top hc hs) bound⟩

end FloatFormat

end RoverKernel
