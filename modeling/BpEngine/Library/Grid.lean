import BpEngine.Library.Rounding

/-!
# Numbers with few decimals

A number is on the grid of `k` decimals when it is a multiple of `10 ^ (-k)`.  Sums, differences and
products of such numbers are on a grid again, and the decimal context computes them exactly while they
are below `10 ^ n` with `n + k` digits at most.

* `OnGrid.add`, `OnGrid.sub`, `OnGrid.mul` and `OnGrid.min`;
* `add_eq`, `sub_eq`, `mul_eq`: operations that are exact;
* `OnGrid.add_le_of_lt`: numbers on a grid that differ, differ by its step;
* `div_nonneg`, `quantizeDown_nonneg` and `quantizeDown_onGrid` are about quotients.
-/

namespace BpEngine.Decimal

/-- The number has at most `k` decimals. -/
def OnGrid (k : ℕ) (v : ℚ) : Prop := ∃ z : ℤ, v * 10 ^ k = z

namespace OnGrid

variable {k l : ℕ} {v w : ℚ}

theorem int (k : ℕ) (n : ℤ) : OnGrid k n := ⟨n * 10 ^ k, by push_cast; ring⟩

theorem zero (k : ℕ) : OnGrid k 0 := by exact_mod_cast int k 0

theorem one (k : ℕ) : OnGrid k 1 := by exact_mod_cast int k 1

theorem mono (h : OnGrid k v) (hkl : k ≤ l) : OnGrid l v := by
  obtain ⟨z, hz⟩ := h
  obtain ⟨i, rfl⟩ := Nat.exists_eq_add_of_le hkl
  refine ⟨z * 10 ^ i, ?_⟩
  rw [pow_add, ← mul_assoc, hz]
  push_cast
  ring

theorem add (hv : OnGrid k v) (hw : OnGrid k w) : OnGrid k (v + w) := by
  obtain ⟨z, hz⟩ := hv
  obtain ⟨z', hz'⟩ := hw
  refine ⟨z + z', ?_⟩
  rw [add_mul, hz, hz']
  push_cast
  ring

theorem sub (hv : OnGrid k v) (hw : OnGrid k w) : OnGrid k (v - w) := by
  obtain ⟨z, hz⟩ := hv
  obtain ⟨z', hz'⟩ := hw
  refine ⟨z - z', ?_⟩
  rw [sub_mul, hz, hz']
  push_cast
  ring

theorem mul (hv : OnGrid k v) (hw : OnGrid l w) : OnGrid (k + l) (v * w) := by
  obtain ⟨z, hz⟩ := hv
  obtain ⟨z', hz'⟩ := hw
  refine ⟨z * z', ?_⟩
  rw [pow_add, mul_mul_mul_comm, hz, hz']
  push_cast
  ring

theorem min (hv : OnGrid k v) (hw : OnGrid k w) : OnGrid k (min v w) := by
  rcases min_choice v w with h | h
  · rwa [h]
  · rwa [h]

/-- Numbers on a grid that differ, differ by its step at least. -/
theorem add_le_of_lt (hv : OnGrid k v) (hw : OnGrid k w) (h : v < w) : v + 1 / 10 ^ k ≤ w := by
  obtain ⟨z, hz⟩ := hv
  obtain ⟨z', hz'⟩ := hw
  have hpos : (0 : ℚ) < 10 ^ k := by positivity
  have hlt : (z : ℚ) < z' := by
    rw [← hz, ← hz']
    exact mul_lt_mul_of_pos_right h hpos
  have hle : (z : ℚ) + 1 ≤ z' := by exact_mod_cast Int.add_one_le_iff.mpr (by exact_mod_cast hlt)
  refine le_of_mul_le_mul_right ?_ hpos
  rw [add_mul, one_div, inv_mul_cancel₀ hpos.ne', hz, hz']
  exact hle

/-- The context holds a number of the grid that is small enough. -/
theorem fits (h : OnGrid k v) (hpos : 0 ≤ v) {n : ℕ} (hlt : v < 10 ^ n) (hn : n + k ≤ precision) :
    Fits k v := by
  obtain ⟨z, hz⟩ := h
  have hten : (10 : ℚ) ≠ 0 := by norm_num
  refine Fits.of_nonneg ⟨z, ?_⟩ hpos (lt_of_lt_of_le hlt ?_)
  · rw [← hz, zpow_neg, zpow_natCast, mul_assoc, mul_inv_cancel₀ (pow_ne_zero k hten), mul_one]
  · rw [← zpow_natCast]
    exact zpow_le_zpow_right₀ (by norm_num) (by omega)

end OnGrid

/-! ## Exact operations -/

variable {k l n : ℕ} {a b : Decimal}

theorem add_eq (ha : OnGrid k a.toRat) (hb : OnGrid k b.toRat) (hpos : 0 ≤ a.toRat + b.toRat)
    (hlt : a.toRat + b.toRat < 10 ^ n) (hn : n + k ≤ precision) :
    (a + b).toRat = a.toRat + b.toRat :=
  add_exact ((ha.add hb).fits hpos hlt hn)

theorem sub_eq (ha : OnGrid k a.toRat) (hb : OnGrid k b.toRat) (hpos : b.toRat ≤ a.toRat)
    (hlt : a.toRat - b.toRat < 10 ^ n) (hn : n + k ≤ precision) :
    (a - b).toRat = a.toRat - b.toRat :=
  sub_exact ((ha.sub hb).fits (by linarith) hlt hn)

theorem mul_eq (ha : OnGrid k a.toRat) (hb : OnGrid l b.toRat) (hpos : 0 ≤ a.toRat * b.toRat)
    (hlt : a.toRat * b.toRat < 10 ^ n) (hn : n + (k + l) ≤ precision) :
    (a * b).toRat = a.toRat * b.toRat :=
  mul_exact ((ha.mul hb).fits hpos hlt hn)

/-! ## Quotients -/

theorem coeff_nonneg {d : Decimal} (h : 0 ≤ d.toRat) : 0 ≤ d.coeff := by
  have hc := nonneg_of_mul_nonneg_left h (zpow_pos (by norm_num : (0 : ℚ) < 10) d.exp)
  exact_mod_cast hc

theorem toRat_nonneg {d : Decimal} (h : 0 ≤ d.coeff) : 0 ≤ d.toRat :=
  mul_nonneg (by exact_mod_cast h) (zpow_nonneg (by norm_num) _)

/-- A quotient of numbers that are not negative is not negative. -/
theorem div_nonneg {a b c : Decimal} (h : div a b = some c) (ha : 0 ≤ a.toRat) (hb : 0 ≤ b.toRat) :
    0 ≤ c.toRat := by
  have hsign : 0 ≤ a.coeff.sign * b.coeff.sign :=
    mul_nonneg (Int.sign_nonneg_iff.mpr (coeff_nonneg ha)) (Int.sign_nonneg_iff.mpr (coeff_nonneg hb))
  unfold div at h
  dsimp only at h
  split_ifs at h
  · cases h
    exact toRat_nonneg le_rfl
  · cases h
    refine fix_nonneg ?_
    rw [toRat_stripZeros]
    exact toRat_nonneg (mul_nonneg hsign (Int.natCast_nonneg _))
  · cases h
    exact fix_nonneg (toRat_nonneg (mul_nonneg hsign (Int.natCast_nonneg _)))
  · cases h
    exact fix_nonneg (toRat_nonneg (mul_nonneg hsign (Int.natCast_nonneg _)))

/-- Rounding towards zero keeps the sign. -/
theorem quantizeDown_nonneg {d c : Decimal} {e : ℤ} (h : quantizeDown d e = some c)
    (hd : 0 ≤ d.toRat) : 0 ≤ c.toRat := by
  have hcoeff := coeff_nonneg hd
  unfold quantizeDown at h
  dsimp only at h
  split_ifs at h
  · cases h
    exact toRat_nonneg (mul_nonneg hcoeff (by positivity))
  · cases h
    exact toRat_nonneg (Int.tdiv_nonneg hcoeff (by positivity))

theorem quantizeDown_onGrid {d c : Decimal} {k : ℕ} (h : quantizeDown d (-k) = some c) :
    OnGrid k c.toRat := by
  have hexp : c.exp = -k := by
    unfold quantizeDown at h
    dsimp only at h
    split_ifs at h
    · cases h
      rfl
    · cases h
      rfl
  refine ⟨c.coeff, ?_⟩
  rw [toRat, hexp, zpow_neg, zpow_natCast, mul_assoc, inv_mul_cancel₀ (by positivity), mul_one]

/-- A number that is small enough can be rounded towards zero. -/
theorem quantizeDown_isSome {d : Decimal} {k n : ℕ} (hd : 0 ≤ d.toRat) (hlt : d.toRat < 10 ^ n)
    (hn : n + k ≤ precision) : ∃ c, quantizeDown d (-k) = some c := by
  have hcoeff := coeff_nonneg hd
  have hten : (10 : ℚ) ≠ 0 := by norm_num
  -- a coefficient that stays below the number on the grid has few digits
  have hsmall : ∀ c : ℤ, 0 ≤ c → (c : ℚ) * 10 ^ (-(k : ℤ)) ≤ d.toRat → c.natAbs < 10 ^ precision := by
    intro c hc hle
    have hpow : (0 : ℚ) < 10 ^ k := by positivity
    have hc' : (c : ℚ) < 10 ^ n * 10 ^ k := by
      have hmul := mul_lt_mul_of_pos_right (lt_of_le_of_lt hle hlt) hpow
      rwa [zpow_neg, zpow_natCast, mul_assoc, inv_mul_cancel₀ hpow.ne', mul_one] at hmul
    have hbound : (10 : ℚ) ^ n * 10 ^ k ≤ 10 ^ precision := by
      rw [← pow_add]
      exact pow_le_pow_right₀ (by norm_num) hn
    have hint : c < ((10 ^ precision : ℕ) : ℤ) := by
      push_cast
      exact_mod_cast lt_of_lt_of_le hc' hbound
    rw [← Int.natAbs_of_nonneg hc] at hint
    exact_mod_cast hint
  unfold quantizeDown
  dsimp only
  split_ifs with hexp hdigits hdigits
  · exact ⟨_, rfl⟩
  · exact absurd (hsmall _ (mul_nonneg hcoeff (by positivity)) (toRat_align hexp).le) hdigits
  · exact ⟨_, rfl⟩
  · refine absurd (hsmall _ (Int.tdiv_nonneg hcoeff (by positivity)) ?_) hdigits
    obtain ⟨j, hj⟩ : ∃ j : ℕ, -(k : ℤ) = d.exp + j := ⟨(-(k : ℤ) - d.exp).toNat, by omega⟩
    have hjn : (-(k : ℤ) - d.exp).toNat = j := by omega
    rw [hjn, hj, zpow_add₀ hten, zpow_natCast, toRat, Int.tdiv_eq_ediv_of_nonneg hcoeff]
    have hle : (d.coeff / 10 ^ j : ℤ) * 10 ^ j ≤ d.coeff := Int.ediv_mul_le _ (by positivity)
    have hleq : ((d.coeff / 10 ^ j : ℤ) : ℚ) * 10 ^ j ≤ d.coeff := by exact_mod_cast hle
    calc ((d.coeff / 10 ^ j : ℤ) : ℚ) * (10 ^ d.exp * 10 ^ j)
        = ((d.coeff / 10 ^ j : ℤ) : ℚ) * 10 ^ j * 10 ^ d.exp := by ring
      _ ≤ d.coeff * 10 ^ d.exp := mul_le_mul_of_nonneg_right hleq (zpow_nonneg (by norm_num) _)

end BpEngine.Decimal
