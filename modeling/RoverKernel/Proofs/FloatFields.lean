import Mathlib.Tactic.NormNum
import Mathlib.Tactic.Positivity
import Mathlib.Tactic.Ring
import RoverKernel.Float.Format

/-!
# Patterns assembled from their fields

A pattern of a binary format is its sign bit, an exponent field and a fraction.  Reading the
fields of a pattern put together from them gives them back, and so `classify` and `pack` can be
read off the parts in every format:

* `FloatFormat.fields_of_parts`       the sign, field and fraction of an assembled pattern;
* `FloatFormat.classify_of_parts`     its class;
* `FloatFormat.classify_finite_bounds`  every finite pattern has a significand below
                                      `2 ^ precision`;
* `FloatFormat.pack_spec`             what a packed significand denotes.
-/

namespace RoverKernel

namespace FloatFormat

variable {f : FloatFormat}

theorem signBit_eq (f : FloatFormat) : f.signBit = 2 ^ f.exponentBits * 2 ^ f.fractionBits := by
  simp [signBit, Nat.pow_add]

/-- the fields of a pattern assembled from a sign, an exponent field and a fraction -/
theorem fields_of_parts (neg : Bool) (field frac : Nat) (hfield : field < 2 ^ f.exponentBits)
    (hfrac : frac < 2 ^ f.fractionBits) :
    f.signOf neg + field * 2 ^ f.fractionBits + frac < 2 * f.signBit ∧
      f.isNegative (f.signOf neg + field * 2 ^ f.fractionBits + frac) = neg ∧
      f.exponentField (f.signOf neg + field * 2 ^ f.fractionBits + frac) = field ∧
      f.fraction (f.signOf neg + field * 2 ^ f.fractionBits + frac) = frac := by
  have hP : 0 < 2 ^ f.fractionBits := Nat.two_pow_pos _
  -- below the sign bit the pattern is `field` whole units of `2 ^ fractionBits` and the fraction
  have hlow : field * 2 ^ f.fractionBits + frac < f.signBit := by
    rw [signBit_eq]
    calc field * 2 ^ f.fractionBits + frac < (field + 1) * 2 ^ f.fractionBits := by
          rw [Nat.succ_mul]
          omega
      _ ≤ 2 ^ f.exponentBits * 2 ^ f.fractionBits := Nat.mul_le_mul_right _ hfield
  have hsign : f.signOf neg = (if neg then 2 ^ f.exponentBits else 0) * 2 ^ f.fractionBits := by
    cases neg <;> simp [signOf, signBit_eq]
  have hunits : f.signOf neg + field * 2 ^ f.fractionBits + frac =
      frac + ((if neg then 2 ^ f.exponentBits else 0) + field) * 2 ^ f.fractionBits := by
    rw [hsign]
    ring
  have htop : f.signOf neg + field * 2 ^ f.fractionBits + frac =
      (field * 2 ^ f.fractionBits + frac) + (if neg then 1 else 0) * f.signBit := by
    cases neg
    · simp [signOf]
    · simp only [signOf, if_true, Nat.one_mul]
      ring
  refine ⟨?_, ?_, ?_, ?_⟩
  · have : f.signOf neg ≤ f.signBit := by cases neg <;> simp [signOf]
    omega
  · simp only [isNegative, htop, Nat.add_mul_div_right _ _ (show 0 < f.signBit by
      rw [signBit_eq]; positivity), Nat.div_eq_of_lt hlow, Nat.zero_add]
    cases neg <;> rfl
  · simp only [exponentField, Nat.pow_eq, hunits, Nat.add_mul_div_right _ _ hP, Nat.div_eq_of_lt hfrac,
      Nat.zero_add]
    cases neg <;> simp [Nat.add_mod_left, Nat.mod_eq_of_lt hfield]
  · simp only [fraction, Nat.pow_eq, hunits, Nat.add_mul_mod_self_right, Nat.mod_eq_of_lt hfrac]

theorem classify_of_parts (neg : Bool) (field frac : Nat) (hfield : field < 2 ^ f.exponentBits)
    (hfrac : frac < 2 ^ f.fractionBits) :
    f.classify (f.signOf neg + field * 2 ^ f.fractionBits + frac) =
      if field = f.maxField then (if frac = 0 then .infinite else .nan)
      else if field = 0 then .finite frac f.minUlpExp
      else .finite (frac + 2 ^ f.fractionBits) (f.minUlpExp + field - 1) := by
  obtain ⟨-, -, hexp, hfrac'⟩ := fields_of_parts neg _ _ hfield hfrac
  simp only [classify, hexp, hfrac', Nat.pow_eq]

theorem maxField_lt (f : FloatFormat) : f.maxField < 2 ^ f.exponentBits := by
  simp only [maxField, Nat.pow_eq]
  have := Nat.two_pow_pos f.exponentBits
  omega

theorem one_le_maxField (heb : 1 ≤ f.exponentBits) : 1 ≤ f.maxField := by
  simp only [maxField, Nat.pow_eq]
  have : 2 ^ 1 ≤ 2 ^ f.exponentBits := Nat.pow_le_pow_right (by norm_num) heb
  omega

/-- every finite pattern holds a significand below `2 ^ precision`, at a place not below the
subnormals' -/
theorem classify_finite_bounds {b m : Nat} {e : Int} (h : f.classify b = .finite m e) :
    m < 2 ^ f.precision ∧ f.minUlpExp ≤ e := by
  have hfrac : f.fraction b < 2 ^ f.fractionBits := by
    simp only [fraction, Nat.pow_eq]
    exact Nat.mod_lt _ (Nat.two_pow_pos _)
  rw [precision, Nat.pow_succ]
  simp only [classify, Nat.pow_eq] at h
  split_ifs at h with hmax hfrac0 hsub <;> cases h
  · exact ⟨by omega, le_rfl⟩
  · exact ⟨by omega, by omega⟩

theorem two_pow_precision (f : FloatFormat) : 2 ^ f.precision = 2 * 2 ^ f.fractionBits := by
  rw [precision, Nat.pow_succ, Nat.mul_comm]

/-- **What `pack` builds, in every format**: a subnormal below `2 ^ fractionBits`, an infinity
once the exponent field would reach its maximum, and otherwise the normal value `m * 2 ^ u`. -/
theorem pack_spec (neg : Bool) {m : Nat} {u : Int} (heb : 1 ≤ f.exponentBits) (hm : m < 2 ^ f.precision)
    (hu : 2 ^ f.fractionBits ≤ m → f.minUlpExp ≤ u) :
    f.pack neg m u < 2 * f.signBit ∧ f.isNegative (f.pack neg m u) = neg ∧
      f.classify (f.pack neg m u) =
        if m < 2 ^ f.fractionBits then .finite m f.minUlpExp
        else if (f.maxField : Int) ≤ u - f.minUlpExp + 1 then .infinite
        else .finite m u := by
  have hmax := maxField_lt f
  have hmax1 := one_le_maxField heb
  have hP : 0 < 2 ^ f.fractionBits := Nat.two_pow_pos _
  rw [two_pow_precision] at hm
  by_cases hsub : m < 2 ^ f.fractionBits
  · -- a subnormal: exponent field zero
    have hpack : f.pack neg m u = f.signOf neg + 0 * 2 ^ f.fractionBits + m := by
      rw [pack, if_pos (by rw [Nat.pow_eq]; exact hsub)]
      simp
    obtain ⟨hlt, hneg, -⟩ := fields_of_parts (f := f) neg 0 m (by positivity) hsub
    rw [hpack, classify_of_parts neg 0 m (by positivity) hsub, if_pos hsub, if_neg (by omega), if_pos rfl]
    exact ⟨hlt, hneg, rfl⟩
  by_cases hover : (f.maxField : Int) ≤ u - f.minUlpExp + 1
  · -- the exponent field would reach its maximum: an infinity
    have hpack : f.pack neg m u = f.signOf neg + f.maxField * 2 ^ f.fractionBits + 0 := by
      rw [pack, if_neg (by rw [Nat.pow_eq]; exact hsub)]
      simp only [if_pos hover, infBits, Nat.pow_eq, Nat.add_zero]
    obtain ⟨hlt, hneg, -⟩ := fields_of_parts (f := f) neg _ _ hmax hP
    rw [hpack, classify_of_parts neg _ _ hmax hP, if_neg hsub, if_pos hover, if_pos rfl, if_pos rfl]
    exact ⟨hlt, hneg, rfl⟩
  · -- a normal value: the field counts the places above the subnormals'
    have hu := hu (Nat.not_lt.mp hsub)
    have hfield : (u - f.minUlpExp + 1).toNat < 2 ^ f.exponentBits := by omega
    have hfrac : m - 2 ^ f.fractionBits < 2 ^ f.fractionBits := by omega
    have hpack : f.pack neg m u =
        f.signOf neg + (u - f.minUlpExp + 1).toNat * 2 ^ f.fractionBits + (m - 2 ^ f.fractionBits) := by
      rw [pack, if_neg (by rw [Nat.pow_eq]; exact hsub)]
      simp only [if_neg hover, Nat.pow_eq]
    obtain ⟨hlt, hneg, -⟩ := fields_of_parts (f := f) neg _ _ hfield hfrac
    rw [hpack, classify_of_parts neg _ _ hfield hfrac, if_neg hsub, if_neg hover, if_neg (by omega),
      if_neg (by omega), Nat.sub_add_cancel (Nat.not_lt.mp hsub),
      show f.minUlpExp + ((u - f.minUlpExp + 1).toNat : Nat) - 1 = u by omega]
    exact ⟨hlt, hneg, rfl⟩

end FloatFormat

end RoverKernel
