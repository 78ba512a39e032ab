import Mathlib.Data.List.Rotate

/-!
# Rings of the last values, and histories since a reset

The dispatch event log and the latency ring of the metrics both write each new value at a
position that advances modulo the ring size, over the oldest value.  After `n` writes into a
ring of `c` slots the last `min n c` values sit at their index modulo `c`; that one fact is
all the functions that read a ring need.

* `sinceLast p l`         the calls of `l` after the last one that is a reset, where the
                          statements about counters count from;
* `RingWindow c buf xs`   the last `c` values of `xs` sit in `buf` at their index modulo `c`;
* `RingWindow.set`        writing the next value at `xs.length % c` keeps it;
* `RingWindow.map_range`, `RingWindow.map_range_rev`   reading `m` slots forwards from the one
                          that holds value `n - m` lists the last `m` values oldest first, and
                          reading backwards from the last slot written lists them newest first;
* `RingWindow.take_perm`  the first `min n c` slots hold the last `min n c` values, in some
                          order.
-/

namespace RoverKernel

variable {α : Type}

/-! ## histories since a reset -/

/-- the elements after the last one satisfying `p`, all of them if none does -/
def sinceLast (p : α → Bool) (l : List α) : List α :=
  (l.reverse.takeWhile (fun a => !p a)).reverse

@[simp] theorem sinceLast_nil (p : α → Bool) : sinceLast p [] = [] := rfl

theorem sinceLast_concat (p : α → Bool) (l : List α) (a : α) :
    sinceLast p (l ++ [a]) = if p a then [] else sinceLast p l ++ [a] := by
  unfold sinceLast
  rw [List.reverse_concat]
  by_cases h : p a <;> simp [h]

/-! ## the window of a ring -/

/-- the last `c` values of `xs` sit in `buf` at their index modulo `c` -/
def RingWindow (c : Nat) (buf xs : List α) : Prop :=
  ∀ i (hi : i < xs.length), xs.length - c ≤ i → buf[i % c]? = some xs[i]

theorem RingWindow.nil (c : Nat) (buf : List α) : RingWindow c buf [] :=
  fun _ hi => absurd hi (Nat.not_lt_zero _)

/-- two of the last `c` indices land on different slots -/
theorem mod_ne_of_sub_lt {i n c : Nat} (hin : i < n) (hc : n - i < c) : i % c ≠ n % c := by
  intro h
  have hz := Nat.sub_mod_eq_zero_of_mod_eq h.symm
  rw [Nat.mod_eq_of_lt hc] at hz
  omega

namespace RingWindow

variable {c : Nat} {buf xs : List α}

/-- writing the next value over the oldest keeps the window -/
theorem set (h : RingWindow c buf xs) (hlen : buf.length = c) (hc : 0 < c) (x : α) :
    RingWindow c (buf.set (xs.length % c) x) (xs ++ [x]) := by
  intro i hi hlo
  rw [List.length_append, List.length_singleton] at hi hlo
  rcases Nat.lt_or_ge i xs.length with hlt | hge
  · -- an older value: the write went to another slot
    rw [List.getElem?_set_ne (mod_ne_of_sub_lt hlt (by omega)).symm, List.getElem_append_left hlt]
    exact h i hlt (by omega)
  · -- the value just written
    obtain rfl : i = xs.length := by omega
    rw [List.getElem?_set_self (by rw [hlen]; exact Nat.mod_lt _ hc)]
    simp

theorem getD (h : RingWindow c buf xs) {j : Nat} (hj : j < xs.length) (hlo : xs.length - c ≤ j)
    (d : α) : buf.getD (j % c) d = xs[j] := by
  rw [List.getD_eq_getElem?_getD, h j hj hlo, Option.getD_some]

/-- reading `m` slots forwards from the slot of value `n - m` lists the last `m` values -/
theorem map_range (h : RingWindow c buf xs) {m start : Nat} (hm : m ≤ c) (hmn : m ≤ xs.length)
    (hstart : start % c = (xs.length - m) % c) (d : α) :
    (List.range m).map (fun i => buf.getD ((start + i) % c) d) = xs.drop (xs.length - m) := by
  apply List.ext_getElem
  · simp only [List.length_map, List.length_range, List.length_drop]
    omega
  · intro i h₁ h₂
    simp only [List.length_map, List.length_range] at h₁
    have hslot : (start + i) % c = (xs.length - m + i) % c := by
      rw [Nat.add_mod, hstart, ← Nat.add_mod]
    simp only [List.getElem_map, List.getElem_range, List.getElem_drop, hslot]
    exact h.getD (by omega) (by omega) d

/-- reading `m` slots backwards from the last one written lists the last `m` values, newest
first -/
theorem map_range_rev (h : RingWindow c buf xs) {m pos : Nat} (hm : m ≤ c)
    (hmn : m ≤ xs.length) (hpos : pos = xs.length % c) (d : α) :
    (List.range m).map (fun i => buf.getD ((pos + c - 1 - i) % c) d) = xs.reverse.take m := by
  apply List.ext_getElem
  · simp only [List.length_map, List.length_range, List.length_take, List.length_reverse]
    omega
  · intro i h₁ h₂
    simp only [List.length_map, List.length_range] at h₁
    -- `pos + c - 1 - i` is `n - 1 - i` plus a whole turn of the ring
    have hslot : (pos + c - 1 - i) % c = (xs.length - 1 - i) % c := by
      rw [hpos, show xs.length % c + c - 1 - i = xs.length % c + (c - 1 - i) by omega]
      rw [Nat.add_mod, Nat.mod_mod, ← Nat.add_mod,
        show xs.length + (c - 1 - i) = (xs.length - 1 - i) + c by omega, Nat.add_mod_right]
    simp only [List.getElem_map, List.getElem_range, List.getElem_take, List.getElem_reverse,
      hslot]
    exact h.getD (by omega) (by omega) d

/-- a ring read forwards from slot `p` is the ring rotated by `p` -/
theorem map_range_rotate (hlen : buf.length = c) (p : Nat) (d : α) :
    (List.range c).map (fun i => buf.getD ((p + i) % c) d) = buf.rotate p := by
  apply List.ext_getElem
  · simp [hlen]
  · intro i h₁ h₂
    simp only [List.length_map, List.length_range] at h₁
    have hc : 0 < c := by omega
    simp only [List.getElem_map, List.getElem_range, List.getElem_rotate, hlen, Nat.add_comm p i]
    rw [List.getD_eq_getElem?_getD, List.getElem?_eq_getElem (by rw [hlen]; exact Nat.mod_lt _ hc),
      Option.getD_some]

/-- a full ring holds its last `c` values, in the order of a rotation -/
theorem perm (h : RingWindow c buf xs) (hlen : buf.length = c) (hc : c ≤ xs.length) :
    buf.Perm (xs.drop (xs.length - c)) := by
  cases buf with
  | nil =>
    subst hlen
    simp
  | cons d rest =>
    have hstart : xs.length % c % c = (xs.length - c) % c := by
      rw [Nat.mod_mod, ← Nat.add_mod_right (xs.length - c) c, Nat.sub_add_cancel hc]
    have hwin := h.map_range (le_refl c) hc hstart d
    rw [map_range_rotate hlen] at hwin
    rw [← hwin]
    exact (List.rotate_perm _ _).symm

/-- a ring not yet full holds the values written so far, in order -/
theorem take_eq (h : RingWindow c buf xs) (hlen : buf.length = c) (hc : xs.length < c) :
    buf.take xs.length = xs := by
  apply List.ext_getElem
  · simp only [List.length_take, hlen]
    omega
  · intro i h₁ h₂
    have hw := h i h₂ (by omega)
    rw [Nat.mod_eq_of_lt (by omega)] at hw
    rw [List.getElem_take]
    exact Option.some.inj ((List.getElem?_eq_getElem _).symm.trans hw)

/-- the first `min n c` slots hold the last `min n c` values -/
theorem take_perm (h : RingWindow c buf xs) (hlen : buf.length = c) :
    (buf.take (min xs.length c)).Perm (xs.drop (xs.length - min xs.length c)) := by
  rcases Nat.lt_or_ge xs.length c with hlt | hge
  · rw [Nat.min_eq_left hlt.le, h.take_eq hlen hlt, Nat.sub_self, List.drop_zero]
  · rw [Nat.min_eq_right hge, List.take_of_length_le hlen.le]
    exact h.perm hlen hge

end RingWindow

end RoverKernel
