import Mathlib.Data.List.GetD
import Mathlib.Data.List.Sort
import RoverKernel.Metrics
import RoverKernel.Proofs.NonnegArithmetic

/-!
# Percentiles of the retained latencies

`DispatchMetrics.percentiles` sorts the retained samples, drops the percentiles that are not
values from `0` to `100`, and reads each of the others at the rank `(p / 100) * (n - 1)` of the
sorted window of `n` samples, computed in double precision, rounded half away from zero and
clamped to the last index.  Each step of the rank is rounded, and rounding is monotone:

* `DispatchMetrics.sortedWindow_eq`   the sorted window is the insertion sort of the retained
                                 samples;
* `keep_eq_isPercent`            a percentile is kept exactly when it is a value from `0` to `100`;
* `percentileRank_spec`          the rank: the fraction `p / 100` rounded, times `n - 1` rounded,
                                 rounded, then rounded half away from zero;
* `percentileRank_mono`          a larger percentile never reads a smaller rank;
* `percentileRank_of_zero`       `0` reads rank `0`,
* `percentileRank_of_hundred`    and `100` reads rank `n - 1` while `n - 1` is a double, that is
                                 up to `n = 2 ^ 53 + 1`; past that `n - 1` itself is rounded
                                 (`percentileRank_hundred_past_exact`);
* `percentiles_read_sorted_window`   all of it for the percentiles of any metrics.
-/

namespace RoverKernel

open FloatFormat

namespace DispatchMetrics

/-- the retained samples, in ring order -/
def retained (m : DispatchMetrics) : List Nat := m.samples.take m.sampleCount

theorem insertSorted_eq (x : Nat) (l : List Nat) : insertSorted x l = l.orderedInsert (· ≤ ·) x := by
  induction l with
  | nil => rfl
  | cons y ys ih =>
    simp only [insertSorted, ih, List.orderedInsert_cons]

/-- the sorted window is the insertion sort of the retained samples -/
theorem sortedWindow_eq (m : DispatchMetrics) :
    m.sortedWindow = m.retained.insertionSort (· ≤ ·) := by
  have h : insertSorted = fun x l => l.orderedInsert (· ≤ ·) x := funext fun x => funext (insertSorted_eq x)
  simp only [sortedWindow, retained, List.insertionSort, h]

theorem sortedWindow_sorted (m : DispatchMetrics) : m.sortedWindow.Pairwise (· ≤ ·) := by
  rw [sortedWindow_eq]
  exact List.pairwise_insertionSort _ _

theorem sortedWindow_perm (m : DispatchMetrics) : m.sortedWindow.Perm m.retained := by
  rw [sortedWindow_eq]
  exact List.perm_insertionSort _ _

end DispatchMetrics

section SortedReads

variable {l : List Nat} (h : l.Pairwise (· ≤ ·))
include h

/-- in a sorted list a larger index never reads less -/
theorem getD_mono_of_sorted {i j : Nat} (hij : i ≤ j) (hj : j < l.length) : l.getD i 0 ≤ l.getD j 0 := by
  rw [List.getD_eq_getElem _ _ (hij.trans_lt hj), List.getD_eq_getElem _ _ hj]
  exact h.rel_get_of_le (a := ⟨i, hij.trans_lt hj⟩) (b := ⟨j, hj⟩) hij

/-- the first entry of a sorted list is its least -/
theorem getD_zero_le_of_sorted {s : Nat} (hs : s ∈ l) : l.getD 0 0 ≤ s := by
  obtain ⟨j, hj, rfl⟩ := List.getElem_of_mem hs
  rw [← List.getD_eq_getElem _ 0 hj]
  exact getD_mono_of_sorted h (Nat.zero_le j) hj

/-- and the last its greatest -/
theorem le_getD_last_of_sorted {s : Nat} (hs : s ∈ l) : s ≤ l.getD (l.length - 1) 0 := by
  obtain ⟨j, hj, rfl⟩ := List.getElem_of_mem hs
  rw [← List.getD_eq_getElem _ 0 hj]
  exact getD_mono_of_sorted h (by omega) (by omega)

end SortedReads

namespace F64

theorem toNat_ofNat_of_lt {n : Nat} (h : n < 2 * binary64.signBit) : (F64.ofNat n).toNat = n := by
  have hlt : n < 18446744073709551616 := h
  simp [toNat, ofNat]
  omega

/-- the exact value of a finite double -/
def value (x : F64) : Option ℚ := binary64.value x.toNat

/-- a percentile: a finite value from `0` to `100` -/
def isPercent (p : F64) : Bool :=
  match p.value with
  | some q => decide (0 ≤ q ∧ q ≤ 100)
  | none => false

end F64

/-- `0` and `100` as doubles -/
theorem percentBounds_classify :
    (F64.ofInt 0).toNat = 0 ∧ binary64.classify 0 = .finite 0 (-1074) ∧
      binary64.classify (F64.ofInt 100).toNat = .finite 7036874417766400 (-46) ∧
      binary64.isNegative (F64.ofInt 100).toNat = false := by
  decide +kernel

theorem hundred_value : ((7036874417766400 : Nat) : ℚ) * 2 ^ (-46 : Int) = 100 := by norm_num

/-- **A percentile is kept exactly when it is a value from `0` to `100`**: the IEEE comparisons
with `0` and `100` fail on NaNs and on both infinities, and on finite values compare the values. -/
theorem keep_eq_isPercent (p : F64) :
    ((F64.ofInt 0).le p && p.le (F64.ofInt 100)) = p.isPercent := by
  obtain ⟨h0, h0c, hHc, hHs⟩ := percentBounds_classify
  simp only [F64.le, F64.isPercent, F64.value, h0]
  rcases hc : binary64.classify p.toNat with _ | _ | ⟨mp, ep⟩
  · simp [le_of_nan_right hc, FloatFormat.value, hc]
  · -- above `0` only the positive infinity, below `100` only the negative one
    cases hs : binary64.isNegative p.toNat <;>
      simp [FloatFormat.le, FloatFormat.compare, h0c, hc, hHc, hs, FloatFormat.value]
  · rw [Bool.eq_iff_iff, Bool.and_eq_true, le_iff_of_finite h0c hc, le_iff_of_finite hc hHc,
      signedValue_zero, hHs, signedValue_false, hundred_value]
    simp [FloatFormat.value, hc]

/-- the rank percentile `p` reads in a sorted window of `n` samples, before the clamp to the
last index -/
def percentileRank (n : Nat) (p : F64) : Nat :=
  ((p / F64.ofInt 100) * F64.ofInt (n - 1 : Nat)).round.toNatSat (Nat.pow 2 64)

/-- the percentiles are the kept ones, each with the sample at its clamped rank -/
theorem percentiles_eq (m : DispatchMetrics) (ps : List F64) :
    m.percentiles ps =
      if m.sortedWindow.length = 0 then []
      else (ps.filter F64.isPercent).map fun p =>
        (p, m.sortedWindow.getD (min (percentileRank m.sortedWindow.length p)
          (m.sortedWindow.length - 1)) 0) := by
  simp only [DispatchMetrics.percentiles, percentileRank]
  split_ifs
  · rfl
  · rw [List.filter_congr (fun p _ => keep_eq_isPercent p)]

/-- a count as a double: its rounding, or the positive infinity past the doubles -/
theorem ofInt_natCast_nonnegValue (n : Nat) :
    (F64.ofInt n).toNat < 2 * binary64.signBit ∧
      ∃ κ, binary64.NonnegValue (F64.ofInt n).toNat κ ∧ binary64.RoundedTop n κ := by
  obtain ⟨hlt, κ, hκ, hr⟩ := roundRat_nonnegValue binary64_interchange false (n := n)
    Nat.one_pos 0 (fun h => absurd h Bool.false_ne_true)
  have hbits : (F64.ofInt n).toNat = binary64.roundRat false n 1 0 := by
    simp only [F64.ofInt, FloatFormat.ofInt, Int.natAbs_natCast]
    rw [decide_eq_false (by omega), F64.toNat_ofNat_of_lt hlt]
  rw [Nat.cast_one, div_one, zpow_zero, mul_one] at hr
  rw [hbits]
  exact ⟨hlt, κ, hκ, hr⟩

/-- **The fraction `p / 100` of a percentile** is `v / 100` rounded: a finite value, as the
fraction is at most one. -/
theorem fraction_spec {p : F64} {v : ℚ} (hp : p.value = some v) (hv0 : 0 ≤ v) (hv : v ≤ 100) :
    ∃ ma ea, binary64.classify (p / F64.ofInt 100).toNat = .finite ma ea ∧
      (binary64.isNegative (p / F64.ofInt 100).toNat = true → ma = 0) ∧
      binary64.RoundedTop (v / 100) ((ma : ℚ) * 2 ^ ea : ℚ) := by
  obtain ⟨mp, ep, hc, hs, rfl⟩ := NonnegValue.of_value hp hv0
  obtain ⟨-, -, hHc, hHs⟩ := percentBounds_classify
  obtain ⟨hlt, y, hy, hr⟩ := div_nonnegValue binary64_interchange hc hs hHc (by norm_num) hHs
  rw [hundred_value] at hr
  have hdiv : (p / F64.ofInt 100).toNat = binary64.div p.toNat (F64.ofInt 100).toNat :=
    F64.toNat_ofNat_of_lt hlt
  -- at most one, which is a double: no overflow
  have hone : binary64.RoundedTop 1 ((1 : ℚ) : WithTop ℚ) := by
    exact_mod_cast roundedTop_natCast binary64_interchange (j := 1) (by decide)
  have hle : y ≤ ((1 : ℚ) : WithTop ℚ) := hr.mono hone (by rw [div_le_one (by norm_num)]; exact hv)
  obtain ⟨w, rfl⟩ := WithTop.ne_top_iff_exists.mp (ne_top_of_le_ne_top WithTop.coe_ne_top hle)
  rw [hdiv]
  generalize hy' : ((w : ℚ) : WithTop ℚ) = y at hy
  cases hy with
  | @finite ma ea hc' hs' =>
    refine ⟨ma, ea, hc', hs', ?_⟩
    rw [← hy']
    exact hr
  | top => exact absurd hy' WithTop.coe_ne_top

/-- the rank through the patterns: the product, rounded half away from zero, cast with
saturation -/
theorem percentileRank_bits {p : F64} {n : Nat}
    (hb : binary64.mul (p / F64.ofInt 100).toNat (F64.ofInt (n - 1 : Nat)).toNat < 2 * binary64.signBit)
    (hr : binary64.roundHalfAway (binary64.mul (p / F64.ofInt 100).toNat (F64.ofInt (n - 1 : Nat)).toNat) <
      2 * binary64.signBit) :
    percentileRank n p = binary64.toNatSat (binary64.roundHalfAway
      (binary64.mul (p / F64.ofInt 100).toNat (F64.ofInt (n - 1 : Nat)).toNat)) (Nat.pow 2 64) := by
  show binary64.toNatSat (F64.ofNat (binary64.roundHalfAway
    (F64.ofNat (binary64.mul (p / F64.ofInt 100).toNat (F64.ofInt (n - 1 : Nat)).toNat)).toNat)).toNat _ = _
  rw [F64.toNat_ofNat_of_lt hb, F64.toNat_ofNat_of_lt hr]

/-- zero times the positive infinity is the default NaN, which casts to `0` -/
theorem defaultNaN_rank :
    binary64.defaultNaN < 2 * binary64.signBit ∧
      binary64.roundHalfAway binary64.defaultNaN < 2 * binary64.signBit ∧
      binary64.toNatSat (binary64.roundHalfAway binary64.defaultNaN) (Nat.pow 2 64) = 0 := by
  decide +kernel

/-- **The rank a percentile reads.**  The fraction `p / 100` is `v / 100` rounded, a finite
`w`; the count `n - 1` is rounded too.  A finite count `κ` gives `w * κ` rounded, then rounded
half away from zero and cast with saturation; a count past the doubles saturates every fraction
but zero, and zero times it is a NaN, which casts to `0`. -/
theorem percentileRank_spec {p : F64} {v : ℚ} (hp : p.value = some v) (hv0 : 0 ≤ v) (hv : v ≤ 100)
    (n : Nat) :
    ∃ w : ℚ, binary64.RoundedTop (v / 100) w ∧
      ∀ κ, binary64.NonnegValue (F64.ofInt (n - 1 : Nat)).toNat κ →
        (κ = ⊤ → percentileRank n p = if w = 0 then 0 else Nat.pow 2 64 - 1) ∧
        ∀ κ' : ℚ, κ = κ' →
          ∃ y, binary64.RoundedTop (w * κ') y ∧ percentileRank n p = roundedNat (Nat.pow 2 64) y := by
  obtain ⟨ma, ea, hc, hs, hr⟩ := fraction_spec hp hv0 hv
  refine ⟨_, hr, fun κ hκ => ⟨fun htop => ?_, fun κ' hκ' => ?_⟩⟩
  · -- a count past the doubles
    subst htop
    generalize htop : (⊤ : WithTop ℚ) = κ at hκ
    cases hκ with
    | finite => exact absurd htop.symm WithTop.coe_ne_top
    | top hKc hKs =>
      rcases Nat.eq_zero_or_pos ma with rfl | hma
      · have hmul : binary64.mul (p / F64.ofInt 100).toNat (F64.ofInt (n - 1 : Nat)).toNat =
            binary64.defaultNaN := by
          simp only [FloatFormat.mul, hc, hKc]
        obtain ⟨hb, hrb, hnan⟩ := defaultNaN_rank
        rw [percentileRank_bits (hmul ▸ hb) (hmul ▸ hrb), hmul, hnan, Nat.cast_zero, zero_mul,
          if_pos rfl]
      · have hsa : binary64.isNegative (p / F64.ofInt 100).toNat = false := by
          cases h : binary64.isNegative (p / F64.ofInt 100).toNat
          · rfl
          · exact absurd (hs h) (Nat.pos_iff_ne_zero.mp hma)
        obtain ⟨hb, hv⟩ := mul_infinite hc hma hsa hKc hKs
        obtain ⟨hrb, hrank⟩ := toNatSat_roundHalfAway binary64_interchange hv hb (Nat.pow 2 64)
        have hw : (ma : ℚ) * 2 ^ ea ≠ 0 := by positivity
        rw [percentileRank_bits hb hrb, hrank, roundedNat_top, if_neg hw]
  · -- a finite count
    subst hκ'
    generalize hfin : ((κ' : ℚ) : WithTop ℚ) = κ at hκ
    cases hκ with
    | @finite mk ek hKc hKs =>
      obtain ⟨hb, y, hy, hry⟩ := mul_nonnegValue binary64_interchange hc hs hKc hKs
      obtain ⟨hrb, hrank⟩ := toNatSat_roundHalfAway binary64_interchange hy hb (Nat.pow 2 64)
      refine ⟨y, ?_, by rw [percentileRank_bits hb hrb, hrank]⟩
      rw [WithTop.coe_inj.mp hfin]
      exact hry
    | top => exact absurd hfin WithTop.coe_ne_top

/-- **A larger percentile never reads a smaller rank.**  The fractions are ordered as the
percentiles are, and so are their products with the count, rounded; past the doubles every
fraction but zero saturates. -/
theorem percentileRank_mono {p q : F64} {v v' : ℚ} (hp : p.value = some v) (hq : q.value = some v')
    (hv0 : 0 ≤ v) (hvv' : v ≤ v') (hv' : v' ≤ 100) (n : Nat) :
    percentileRank n p ≤ percentileRank n q := by
  obtain ⟨w, hw, hrank⟩ := percentileRank_spec hp hv0 (hvv'.trans hv') n
  obtain ⟨w', hw', hrank'⟩ := percentileRank_spec hq (hv0.trans hvv') hv' n
  have hww' : w ≤ w' := WithTop.coe_le_coe.mp (hw.mono hw' (by gcongr))
  have hw0 : 0 ≤ w := WithTop.coe_nonneg.mp (hw.nonneg (by positivity))
  obtain ⟨-, κ, hκ, -⟩ := ofInt_natCast_nonnegValue (n - 1)
  cases κ with
  | top =>
    rw [(hrank ⊤ hκ).1 rfl, (hrank' ⊤ hκ).1 rfl]
    by_cases h : w = 0
    · rw [if_pos h]
      exact Nat.zero_le _
    · have h' : w' ≠ 0 := fun h' => h (le_antisymm (h' ▸ hww') hw0)
      rw [if_neg h, if_neg h']
  | coe κ' =>
    obtain ⟨y, hy, hr⟩ := (hrank κ' hκ).2 κ' rfl
    obtain ⟨y', hy', hr'⟩ := (hrank' κ' hκ).2 κ' rfl
    rw [hr, hr']
    exact roundedNat_mono (hy.mono hy' (mul_le_mul_of_nonneg_right hww' hκ.nonneg))

/-- percentile `0` reads rank `0`: its fraction is zero, and so is every product with it -/
theorem percentileRank_of_zero {p : F64} (hp : p.value = some 0) (n : Nat) : percentileRank n p = 0 := by
  obtain ⟨w, hw, hrank⟩ := percentileRank_spec hp le_rfl (by norm_num) n
  rw [zero_div] at hw
  have hw0 : w = 0 := WithTop.coe_inj.mp (hw.unique RoundedTop.zero)
  obtain ⟨-, κ, hκ, -⟩ := ofInt_natCast_nonnegValue (n - 1)
  cases κ with
  | top => rw [(hrank ⊤ hκ).1 rfl, if_pos hw0]
  | coe κ' =>
    obtain ⟨y, hy, hr⟩ := (hrank κ' hκ).2 κ' rfl
    rw [hw0, zero_mul] at hy
    rw [hr, hy.unique RoundedTop.zero, roundedNat_coe, zero_add, Nat.floor_eq_zero.mpr (by norm_num),
      Nat.zero_min]

/-- percentile `100` reads the last rank `n - 1` while `n - 1` is a double: the fraction is
exactly one, and the count is exact -/
theorem percentileRank_of_hundred {p : F64} (hp : p.value = some 100) {n : Nat} (hn : n ≤ 2 ^ 53 + 1) :
    percentileRank n p = n - 1 := by
  obtain ⟨w, hw, hrank⟩ := percentileRank_spec hp (by norm_num) le_rfl n
  rw [div_self (by norm_num)] at hw
  have hone : binary64.RoundedTop 1 ((1 : ℚ) : WithTop ℚ) := by
    exact_mod_cast roundedTop_natCast binary64_interchange (j := 1) (by decide)
  have hw1 : w = 1 := WithTop.coe_inj.mp (hw.unique hone)
  have hexact : binary64.RoundedTop ((n - 1 : Nat) : ℚ) (((n - 1 : Nat) : ℚ) : WithTop ℚ) :=
    roundedTop_natCast binary64_interchange (show n - 1 ≤ 2 ^ 53 by omega)
  obtain ⟨-, κ, hκ, hcount⟩ := ofInt_natCast_nonnegValue (n - 1)
  rw [hcount.unique hexact] at hκ
  obtain ⟨y, hy, hr⟩ := (hrank _ hκ).2 _ rfl
  rw [hw1, one_mul] at hy
  rw [hr, hy.unique hexact, roundedNat_natCast]
  exact min_eq_left (by simp only [Nat.pow_eq]; omega)

theorem hundred_value_eq : (F64.ofInt 100).value = some 100 := by
  obtain ⟨-, -, hHc, hHs⟩ := percentBounds_classify
  rw [F64.value, value_of_finite hHc, hHs, signedValue_false, hundred_value]

/-- past `2 ^ 53 + 1` samples the count `n - 1` is itself rounded, to an even double, and
percentile `100` reads short of the last rank -/
theorem percentileRank_hundred_past_exact :
    (F64.ofInt 100).value = some 100 ∧ percentileRank (2 ^ 53 + 2) (F64.ofInt 100) = 2 ^ 53 :=
  ⟨hundred_value_eq, by decide +kernel⟩

theorem F64.isPercent_bounds {p : F64} {q : ℚ} (h : p.isPercent = true) (hp : p.value = some q) :
    0 ≤ q ∧ q ≤ 100 := by
  simpa [F64.isPercent, hp] using h

/-- the percentiles kept, in order; none from an empty window -/
theorem percentiles_map_fst (m : DispatchMetrics) (ps : List F64) :
    (m.percentiles ps).map Prod.fst = if m.retained = [] then [] else ps.filter F64.isPercent := by
  have hlen : m.sortedWindow.length = m.retained.length := (DispatchMetrics.sortedWindow_perm m).length_eq
  rw [percentiles_eq, hlen]
  by_cases h : m.retained = []
  · simp [h]
  · simp [h, Function.comp_def]

/-- a percentile returned is kept, from a window that is not empty, with the sample at its
clamped rank -/
theorem mem_percentiles {m : DispatchMetrics} {ps : List F64} {r : F64 × Nat} (hr : r ∈ m.percentiles ps) :
    m.retained ≠ [] ∧ r.1.isPercent = true ∧
      r.2 = m.sortedWindow.getD (min (percentileRank m.retained.length r.1) (m.retained.length - 1)) 0 := by
  have hlen : m.sortedWindow.length = m.retained.length := (DispatchMetrics.sortedWindow_perm m).length_eq
  rw [percentiles_eq, hlen] at hr
  split_ifs at hr with h0
  · exact absurd hr List.not_mem_nil
  · obtain ⟨p, hp, rfl⟩ := List.mem_map.mp hr
    exact ⟨mt List.length_eq_zero_iff.mpr h0, (List.mem_filter.mp hp).2, rfl⟩

/-- **Percentiles read the sorted window.**  The window is sorted and holds the retained
samples; the percentiles kept are those from `0` to `100`, in order, each with the sample at
its clamped rank: a retained sample, the least one for `0`, the greatest for `100` while the
window holds at most `2 ^ 53 + 1` samples, and never a smaller one for a larger percentile. -/
theorem percentiles_read_sorted_window (m : DispatchMetrics) (ps : List F64) :
    m.sortedWindow.Pairwise (· ≤ ·) ∧ m.sortedWindow.Perm m.retained ∧
    (m.percentiles ps).map Prod.fst = (if m.retained = [] then [] else ps.filter F64.isPercent) ∧
    ∀ r ∈ m.percentiles ps,
      r.2 = m.sortedWindow.getD (min (percentileRank m.retained.length r.1) (m.retained.length - 1)) 0 ∧
      r.2 ∈ m.retained ∧
      (r.1.value = some 0 → ∀ s ∈ m.retained, r.2 ≤ s) ∧
      (m.retained.length ≤ 2 ^ 53 + 1 → r.1.value = some 100 → ∀ s ∈ m.retained, s ≤ r.2) ∧
      ∀ r' ∈ m.percentiles ps, ∀ q q' : ℚ, r.1.value = some q → r'.1.value = some q' → q ≤ q' →
        r.2 ≤ r'.2 := by
  have hperm := DispatchMetrics.sortedWindow_perm m
  have hsorted := DispatchMetrics.sortedWindow_sorted m
  have hlen : m.sortedWindow.length = m.retained.length := hperm.length_eq
  refine ⟨hsorted, hperm, percentiles_map_fst m ps, fun r hr => ?_⟩
  obtain ⟨hne, hkeep, hread⟩ := mem_percentiles hr
  have hpos : 0 < m.retained.length := List.length_pos_iff.mpr hne
  refine ⟨hread, ?_, fun h0 s hs => ?_, fun hn h100 s hs => ?_, fun r' hr' q q' hq hq' hqq' => ?_⟩
  · -- the clamped rank is an index of the window
    have hi : min (percentileRank m.retained.length r.1) (m.retained.length - 1) <
        m.sortedWindow.length := by omega
    rw [hread, ← hperm.mem_iff, List.getD_eq_getElem _ _ hi]
    exact List.getElem_mem hi
  · rw [hread, percentileRank_of_zero h0, Nat.zero_min]
    exact getD_zero_le_of_sorted hsorted (hperm.mem_iff.mpr hs)
  · rw [hread, percentileRank_of_hundred h100 hn, min_self, ← hlen]
    exact le_getD_last_of_sorted hsorted (hperm.mem_iff.mpr hs)
  · obtain ⟨-, hkeep', hread'⟩ := mem_percentiles hr'
    have hrank := percentileRank_mono hq hq' (F64.isPercent_bounds hkeep hq).1 hqq'
      (F64.isPercent_bounds hkeep' hq').2 m.retained.length
    rw [hread, hread']
    exact getD_mono_of_sorted hsorted (by omega) (by omega)

end RoverKernel
