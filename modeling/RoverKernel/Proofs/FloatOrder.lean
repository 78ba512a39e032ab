import Mathlib.Order.Compare
import RoverKernel.Proofs.NearestRounding

/-!
# Floating-point patterns ordered by the values they denote

`FloatFormat.compare` scales both significands to the smaller of the two exponents and compares
the signed integers.  That is the order of the exact values `± m * 2 ^ e`, so `<` and `≤` on
finite patterns are `<` and `≤` on their values.  Rounding to nearest then bounds what the
arithmetic gives: a single-precision sum of two values that are not negative is an infinity or
at least each of them, a quotient of a positive value is positive, and a quotient of zero by a
positive value is zero.

* `FloatFormat.signedValue`, `FloatFormat.value`   the value of a finite pattern;
* `FloatFormat.compare_of_finite`   finite patterns compare as their values, and so do `lt`
                                    (`lt_iff_of_finite`) and `le` (`le_iff_of_finite`);
* `FloatFormat.NearestEven.ge_of_le`   a nearest value is at least every finite value below the
                                    exact one;
* `FloatFormat.add_nonneg`          a sum of two values that are not negative;
* `FloatFormat.roundRat_pos`        rounding a positive value above half the least subnormal;
* `FloatFormat.div_pos`, `FloatFormat.div_zero_left`   quotients of positive values and of zero.
-/

namespace RoverKernel

theorem F32.toNat_ofNat_of_lt {n : Nat} (h : n < 4294967296) : (F32.ofNat n).toNat = n := by
  simp [F32.toNat, F32.ofNat]
  omega

theorem F32.toNat_lt (x : F32) : x.toNat < 4294967296 := x.bits.toNat_lt

theorem F32.toNat_ofNat (n : Nat) : (F32.ofNat n).toNat = n % 4294967296 := by
  simp [F32.toNat, F32.ofNat]

namespace FloatFormat

/-- the value `± m * 2 ^ e` -/
def signedValue (neg : Bool) (m : Nat) (e : Int) : ℚ := (signedInt neg m : ℚ) * 2 ^ e

/-- the exact value of a pattern, for finite patterns -/
def value (f : FloatFormat) (b : Nat) : Option ℚ :=
  match f.classify b with
  | .finite m e => some (signedValue (f.isNegative b) m e)
  | _ => none

variable {f : FloatFormat}

theorem value_of_finite {b m : Nat} {e : Int} (h : f.classify b = .finite m e) :
    f.value b = some (signedValue (f.isNegative b) m e) := by
  simp [value, h]

@[simp] theorem signedValue_false (m : Nat) (e : Int) : signedValue false m e = m * 2 ^ e := by
  simp [signedValue, signedInt]

@[simp] theorem signedValue_zero (neg : Bool) (e : Int) : signedValue neg 0 e = 0 := by
  cases neg <;> simp [signedValue, signedInt]

/-- a value that is not negative is its magnitude, whatever the sign bit says -/
theorem signedValue_of_nonneg {neg : Bool} {m : Nat} {e : Int} (h : 0 ≤ signedValue neg m e) :
    signedValue neg m e = m * 2 ^ e := by
  cases neg with
  | false => exact signedValue_false m e
  | true =>
    -- a negative sign with a value that is not negative is a zero
    have hpos : (0 : ℚ) < 2 ^ e := zpow_pos (by norm_num) e
    have hm : (m : ℚ) * 2 ^ e ≤ 0 := by
      simp only [signedValue, signedInt, if_true, Int.cast_neg, Int.cast_natCast, neg_mul] at h
      linarith
    have hm0 : m = 0 := by
      have : (m : ℚ) ≤ 0 := nonpos_of_mul_nonpos_left hm hpos
      exact_mod_cast Nat.le_zero.mp (by exact_mod_cast this)
    subst hm0
    simp

theorem signedInt_mul (neg : Bool) (m k : Nat) : signedInt neg (m * k) = signedInt neg m * k := by
  cases neg <;> simp [signedInt]

/-- the integer `compare` and `add` take for a pattern at a common exponent `c` is its value
over `2 ^ c` -/
theorem signedInt_scaled (neg : Bool) (m : Nat) {c e : Int} (h : c ≤ e) :
    (signedInt neg (m * Nat.pow 2 (e - c).toNat) : ℚ) * 2 ^ c = signedValue neg m e := by
  rw [signedInt_mul, Int.cast_mul, Int.cast_natCast, natCast_natPow, Nat.cast_ofNat, ← zpow_natCast,
    Int.toNat_of_nonneg (by omega), signedValue, mul_assoc, ← zpow_add₀ two_ne_zero, sub_add_cancel]

theorem compare_mul_pos {x y c : ℚ} (hc : 0 < c) : Ord.compare (x * c) (y * c) = Ord.compare x y := by
  rcases lt_trichotomy x y with h | rfl | h
  · rw [compare_lt_iff_lt.2 h, compare_lt_iff_lt]
    exact mul_lt_mul_of_pos_right h hc
  · rw [compare_eq_iff_eq.2 rfl, compare_eq_iff_eq.2 rfl]
  · rw [compare_gt_iff_gt.2 h, compare_gt_iff_gt]
    exact mul_lt_mul_of_pos_right h hc

theorem compare_intCast (i j : Int) : Ord.compare (i : ℚ) (j : ℚ) = Ord.compare i j := by
  rcases lt_trichotomy i j with h | rfl | h
  · rw [compare_lt_iff_lt.2 h, compare_lt_iff_lt]
    exact_mod_cast h
  · rw [compare_eq_iff_eq.2 rfl, compare_eq_iff_eq.2 rfl]
  · rw [compare_gt_iff_gt.2 h, compare_gt_iff_gt]
    exact_mod_cast h

section finite

variable {a b ma mb : Nat} {ea eb : Int}

/-- **Finite patterns compare as their values.** -/
theorem compare_of_finite (ha : f.classify a = .finite ma ea) (hb : f.classify b = .finite mb eb) :
    f.compare a b = some (Ord.compare (signedValue (f.isNegative a) ma ea)
      (signedValue (f.isNegative b) mb eb)) := by
  simp only [compare, ha, hb]
  -- both integers are the values over `2 ^ min ea eb`
  rw [← signedInt_scaled (f.isNegative a) ma (min_le_left ea eb),
    ← signedInt_scaled (f.isNegative b) mb (min_le_right ea eb),
    compare_mul_pos (zpow_pos (by norm_num) _), compare_intCast]

theorem lt_iff_of_finite (ha : f.classify a = .finite ma ea) (hb : f.classify b = .finite mb eb) :
    f.lt a b = true ↔ signedValue (f.isNegative a) ma ea < signedValue (f.isNegative b) mb eb := by
  rw [lt, compare_of_finite ha hb]
  simp [compare_lt_iff_lt]

theorem le_iff_of_finite (ha : f.classify a = .finite ma ea) (hb : f.classify b = .finite mb eb) :
    f.le a b = true ↔ signedValue (f.isNegative a) ma ea ≤ signedValue (f.isNegative b) mb eb := by
  rw [le, compare_of_finite ha hb, le_iff_lt_or_eq, ← compare_lt_iff_lt, ← compare_eq_iff_eq]
  simp

end finite

/-- no comparison with a NaN holds -/
theorem le_of_nan_right {a b : Nat} (hb : f.classify b = .nan) : f.le a b = false := by
  have hcmp : f.compare a b = none := by
    rw [compare, hb]
    split <;> simp_all
  simp [le, hcmp]

/-- an infinity below a finite value is the negative one -/
theorem isNegative_of_lt_infinite {a b : Nat} {mb : Nat} {eb : Int} (ha : f.classify a = .infinite)
    (hb : f.classify b = .finite mb eb) (h : f.lt a b = true) : f.isNegative a = true := by
  simp only [lt, compare, ha, hb] at h
  by_contra hneg
  simp [hneg] at h

/-- **A nearest value is at least every finite value below the exact one**: one below it would
be farther from the exact value than that finite value is. -/
theorem NearestEven.ge_of_le {x : ℚ} {m : Nat} {e : Int} (h : f.NearestEven x m e)
    {b mb : Nat} {eb : Int} (hb : f.classify b = .finite mb eb) (hle : (mb : ℚ) * 2 ^ eb ≤ x) :
    (mb : ℚ) * 2 ^ eb ≤ m * 2 ^ e := by
  have hnear := (h b mb eb hb).1
  by_contra hlt
  rw [not_le] at hlt
  rw [abs_of_nonneg (by linarith), abs_of_nonneg (by linarith)] at hnear
  linarith

/-! ## single precision -/

theorem classify_zero : binary32.classify 0 = .finite 0 (-149) := by decide

theorem isNegative_zero : binary32.isNegative 0 = false := by decide

theorem classify_signOf (neg : Bool) : binary32.classify (binary32.signOf neg) = .finite 0 (-149) := by
  have h := (classify_signed neg (k := 0) (by norm_num)).1
  rw [Nat.add_zero] at h
  rw [h, classify_zero]

/-- an infinity plus a value that is not a NaN, nor the opposite infinity, is that infinity -/
theorem add_of_infinite_left {a b : Nat} (ha : binary32.classify a = .infinite)
    (hb : binary32.classify b ≠ .nan)
    (hsign : binary32.classify b = .infinite → binary32.isNegative b = binary32.isNegative a) :
    binary32.add a b = a := by
  unfold add
  rw [ha]
  rcases hc : binary32.classify b with _ | _ | ⟨m, e⟩
  · exact absurd hc hb
  · simp [hsign hc]
  · rfl

/-- a finite value plus an infinity is that infinity -/
theorem add_of_infinite_right {a b ma : Nat} {ea : Int} (ha : binary32.classify a = .finite ma ea)
    (hb : binary32.classify b = .infinite) : binary32.add a b = b := by
  simp [add, ha, hb]

/-- **A sum of two values that are not negative is an infinity, or at least each of them.**  The
exact sum is not negative; a sum of zeros is a zero, and otherwise the sum rounds to nearest,
which overflows to the positive infinity or lands at or above each finite summand. -/
theorem add_nonneg {a b ma mb : Nat} {ea eb : Int} (ha : binary32.classify a = .finite ma ea)
    (hb : binary32.classify b = .finite mb eb)
    (ha0 : 0 ≤ signedValue (binary32.isNegative a) ma ea)
    (hb0 : 0 ≤ signedValue (binary32.isNegative b) mb eb) :
    binary32.add a b < 4294967296 ∧
      ((binary32.classify (binary32.add a b) = .infinite ∧
          binary32.isNegative (binary32.add a b) = false) ∨
        ∃ m e, binary32.classify (binary32.add a b) = .finite m e ∧
          signedValue (binary32.isNegative a) ma ea ≤
            signedValue (binary32.isNegative (binary32.add a b)) m e ∧
          signedValue (binary32.isNegative b) mb eb ≤
            signedValue (binary32.isNegative (binary32.add a b)) m e) := by
  set va := signedValue (binary32.isNegative a) ma ea
  set vb := signedValue (binary32.isNegative b) mb eb
  have hsum : ∀ s : Int, s = signedInt (binary32.isNegative a) (ma * Nat.pow 2 (ea - min ea eb).toNat) +
      signedInt (binary32.isNegative b) (mb * Nat.pow 2 (eb - min ea eb).toNat) →
      (s : ℚ) * 2 ^ min ea eb = va + vb := by
    intro s hs
    rw [hs, Int.cast_add, add_mul, signedInt_scaled _ _ (min_le_left ea eb),
      signedInt_scaled _ _ (min_le_right ea eb)]
  unfold add
  simp only [ha, hb]
  generalize hs : signedInt (binary32.isNegative a) (ma * Nat.pow 2 (ea - min ea eb).toNat) +
      signedInt (binary32.isNegative b) (mb * Nat.pow 2 (eb - min ea eb).toNat) = s
  have hval := hsum s hs.symm
  have hpow : (0 : ℚ) < 2 ^ min ea eb := zpow_pos (by norm_num) _
  split_ifs with hzero
  · -- a sum of zeros: both summands were zeros
    subst hzero
    refine ⟨signOf_lt _, .inr ⟨0, -149, classify_signOf _, ?_, ?_⟩⟩ <;>
      simp only [signedValue_zero] <;> simp at hval <;> linarith
  · -- a positive sum, rounded to nearest
    have hspos : 0 < s := by
      have hq : (0 : ℚ) ≤ s := nonneg_of_mul_nonneg_left (by linarith) hpow
      have : (0 : Int) ≤ s := by exact_mod_cast hq
      omega
    have hneg : decide (s < 0) = false := decide_eq_false (by omega)
    have habs : ((s.natAbs : Nat) : ℚ) = s := by
      rw [Nat.cast_natAbs, Int.cast_abs, abs_of_pos (by exact_mod_cast hspos)]
    obtain ⟨hlt, hround⟩ := roundRat_roundsTo false s.natAbs (d := 1) Nat.one_pos (min ea eb)
    rw [Nat.cast_one, div_one, habs, hval] at hround
    rw [hneg]
    refine ⟨hlt, ?_⟩
    by_cases hover : binary32.overflowThreshold ≤ va + vb
    · exact .inl ⟨hround.overflow hover, hround.sign⟩
    · obtain ⟨m, e, hc, hnear⟩ := hround.nearest (not_le.mp hover)
      -- each summand, not being negative, is its magnitude, a finite value below the sum
      have hma : (ma : ℚ) * 2 ^ ea = va := (signedValue_of_nonneg ha0).symm
      have hmb : (mb : ℚ) * 2 ^ eb = vb := (signedValue_of_nonneg hb0).symm
      refine .inr ⟨m, e, hc, ?_, ?_⟩ <;> rw [hround.sign, signedValue_false]
      · rw [← hma]
        exact hnear.ge_of_le ha (by rw [hma]; linarith)
      · rw [← hmb]
        exact hnear.ge_of_le hb (by rw [hmb]; linarith)

/-- **Rounding a positive value above half the least subnormal gives no zero**: the least
subnormal is nearer than zero. -/
theorem roundRat_pos (n : Nat) {d : Nat} (hd : 0 < d) (e : Int)
    (hx : (2 : ℚ) ^ (-150 : Int) < n / d * 2 ^ e) :
    binary32.roundRat false n d e < 4294967296 ∧
      binary32.isNegative (binary32.roundRat false n d e) = false ∧
      (binary32.classify (binary32.roundRat false n d e) = .infinite ∨
        ∃ m e', binary32.classify (binary32.roundRat false n d e) = .finite (m + 1) e') := by
  obtain ⟨hlt, hround⟩ := roundRat_roundsTo false n hd e
  refine ⟨hlt, hround.sign, ?_⟩
  by_cases hover : binary32.overflowThreshold ≤ n / d * 2 ^ e
  · exact .inl (hround.overflow hover)
  · obtain ⟨m, e', hc, hnear⟩ := hround.nearest (not_le.mp hover)
    refine .inr ?_
    rcases m with _ | m
    · -- zero is farther than the least subnormal `2 ^ -149`
      have hleast : binary32.classify 1 = .finite 1 (-149) := by decide
      have hd' := (hnear 1 1 (-149) hleast).1
      have hhalf : (2 : ℚ) ^ (-149 : Int) = 2 * 2 ^ (-150 : Int) := by norm_num
      have hpos : (0 : ℚ) < 2 ^ (-150 : Int) := by positivity
      rw [Nat.cast_zero, zero_mul, sub_zero, Nat.cast_one, one_mul,
        abs_of_pos (by linarith)] at hd'
      rcases le_total (n / d * 2 ^ e : ℚ) (2 ^ (-149 : Int)) with hle | hge
      · rw [abs_of_nonpos (by linarith)] at hd'
        linarith
      · rw [abs_of_nonneg (by linarith)] at hd'
        linarith
    · exact ⟨m, e', hc⟩

/-- a zero divided by a positive value, finite or not, is the positive zero -/
theorem div_zero_left {b : Nat} (hs : binary32.isNegative b = false)
    (hb : binary32.classify b = .infinite ∨ ∃ m e, binary32.classify b = .finite (m + 1) e) :
    binary32.div 0 b = 0 := by
  rcases hb with hb | ⟨m, e, hb⟩
  · simp [div, classify_zero, isNegative_zero, hb, hs, signOf]
  · simp [div, classify_zero, isNegative_zero, hb, hs, roundRat, signOf]

/-- **A positive value divided by a positive finite value is positive**, and no zero once the
exact quotient is above half the least subnormal -/
theorem div_pos {a b ma mb : Nat} {ea eb : Int} (hsa : binary32.isNegative a = false)
    (ha : binary32.classify a = .finite (ma + 1) ea)
    (hsb : binary32.isNegative b = false) (hb : binary32.classify b = .finite (mb + 1) eb)
    (hx : (2 : ℚ) ^ (-150 : Int) < ((ma + 1 : Nat) : ℚ) / (mb + 1 : Nat) * 2 ^ (ea - eb)) :
    binary32.div a b < 4294967296 ∧ binary32.isNegative (binary32.div a b) = false ∧
      (binary32.classify (binary32.div a b) = .infinite ∨
        ∃ m e, binary32.classify (binary32.div a b) = .finite (m + 1) e) := by
  have hq : binary32.div a b = binary32.roundRat false (ma + 1) (mb + 1) (ea - eb) := by
    simp [div, ha, hb, hsa, hsb]
  rw [hq]
  exact roundRat_pos (ma + 1) (Nat.succ_pos mb) (ea - eb) hx

/-- an infinity divided by a positive finite value is the positive infinity -/
theorem div_infinite_left {a b mb : Nat} {eb : Int} (hsa : binary32.isNegative a = false)
    (ha : binary32.classify a = .infinite) (hsb : binary32.isNegative b = false)
    (hb : binary32.classify b = .finite mb eb) :
    binary32.div a b = binary32.infBits := by
  simp [div, ha, hb, hsa, hsb, signOf]

end FloatFormat

end RoverKernel
