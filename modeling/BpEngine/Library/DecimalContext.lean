import BpEngine.Library.Rounding

/-!
# The default context

Rounding to the default context with its limits of exponents: 28 digits, exponents of the first digit
from -999999 to 999999, and below them the grid of the smallest exponent.

* `inContext` is a number rounded to the context, unless it overflows; `normalize` is the result
  without trailing zeros.
* `contextValue` is what is left of a number; `contextValue_congr` says that the form does not matter.
* `normalize_eq_iff`: two numbers are normalized to the same form exactly when the same is left of
  them.
-/

namespace BpEngine.Decimal

/-- `Emax` -/
def emax : ℤ := 999999

/-- `Emin` -/
def emin : ℤ := -999999

/-- `Etiny()`: the exponent of the last digit of the smallest number. -/
def etiny : ℤ := emin - (precision - 1 : ℕ)

/-- `adjusted()`: the exponent of the first digit. -/
def adjusted (d : Decimal) : ℤ := d.exp + digits d.coeff.natAbs - 1

/-- The number on the grid of the exponent `e`, rounded half to even. -/
def roundAt (e : ℤ) (d : Decimal) : Decimal :=
  if e ≤ d.exp then d
  else ⟨d.coeff.sign * divHalfEven d.coeff.natAbs (10 ^ (e - d.exp).toNat), e⟩

/-- The number rounded to the context; none when it overflows. -/
def inContext (d : Decimal) : Option Decimal :=
  if d.coeff = 0 then some 0
  else
    let rounded := if d.adjusted < emin then roundAt etiny d else fix d
    if emax < rounded.adjusted ∧ rounded.coeff ≠ 0 then none else some rounded

/-- The number without trailing zeros. -/
def reduced (d : Decimal) : Decimal :=
  if d.coeff = 0 then 0 else stripZeros (d.exp + digits d.coeff.natAbs) (digits d.coeff.natAbs) d

/-- `normalize()` -/
def normalize (d : Decimal) : Option Decimal := d.inContext.map reduced

/-- The number that is left of `d` in the context. -/
def contextValue (d : Decimal) : Option ℚ := d.inContext.map toRat

/-! ## What rounding depends on -/

theorem digits_mul_ten {n : ℕ} (h : n ≠ 0) : digits (n * 10) = digits n + 1 := by
  unfold digits
  rw [Nat.toDigits_of_base_le (by decide) (by omega)]
  simp

theorem adjusted_mul_ten {c : ℤ} (hc : c ≠ 0) (e : ℤ) :
    adjusted ⟨c * 10, e⟩ = adjusted ⟨c, e + 1⟩ := by
  have habs : (c * 10).natAbs = c.natAbs * 10 := by rw [Int.natAbs_mul]; rfl
  unfold adjusted
  simp only [habs]
  rw [digits_mul_ten (Int.natAbs_ne_zero.mpr hc)]
  push_cast
  ring

theorem coeff_eq_zero_iff {d : Decimal} : d.coeff = 0 ↔ d.toRat = 0 := isZero_iff

theorem adjusted_congr {a b : Decimal} (h : a.toRat = b.toRat) (ha : a.coeff ≠ 0) :
    a.adjusted = b.adjusted := by
  have hb : b.coeff ≠ 0 := by rwa [ne_eq, coeff_eq_zero_iff, ← h, ← coeff_eq_zero_iff]
  have hcongr : (if a.coeff = 0 then 0 else a.adjusted) = if b.coeff = 0 then 0 else b.adjusted :=
    congr_of_mul_ten (f := fun d => if d.coeff = 0 then 0 else d.adjusted) (fun c e => by
      by_cases hc : c = 0
      · simp [hc]
      · have hten : c * 10 ≠ 0 := by omega
        simp only [hc, hten, if_false]
        exact adjusted_mul_ten hc e) h
  rwa [if_neg ha, if_neg hb] at hcongr

theorem toRat_mul_ten (c e : ℤ) : toRat ⟨c * 10, e⟩ = toRat ⟨c, e + 1⟩ := by
  simp only [toRat]
  rw [zpow_add₀ (by norm_num : (10 : ℚ) ≠ 0)]
  push_cast
  ring

theorem toRat_roundAt_mul_ten (tiny c e : ℤ) :
    (roundAt tiny ⟨c * 10, e⟩).toRat = (roundAt tiny ⟨c, e + 1⟩).toRat := by
  have habs : (c * 10).natAbs = c.natAbs * 10 := by rw [Int.natAbs_mul]; rfl
  have hsign : (c * 10).sign = c.sign := by
    rw [Int.sign_mul, Int.sign_eq_one_of_pos (by norm_num : (0 : ℤ) < 10), mul_one]
  unfold roundAt
  dsimp only
  rw [habs, hsign]
  split_ifs with h h' h'
  · exact toRat_mul_ten c e
  · omega
  · -- the last digit is the zero
    have hone : (tiny - e).toNat = 1 := by omega
    rw [hone, pow_one, divHalfEven_of_dvd (by norm_num) (Dvd.intro_left _ rfl),
      Nat.mul_div_cancel _ (by norm_num), Int.sign_mul_natAbs]
    have htiny : tiny = e + 1 := by omega
    rw [htiny]
  · have hsucc : (tiny - e).toNat = (tiny - (e + 1)).toNat + 1 := by omega
    rw [hsucc, pow_succ, divHalfEven_mul_ten]

theorem roundAt_congr (tiny : ℤ) {a b : Decimal} (h : a.toRat = b.toRat) :
    (roundAt tiny a).toRat = (roundAt tiny b).toRat :=
  congr_of_mul_ten (f := fun d => (roundAt tiny d).toRat) (toRat_roundAt_mul_ten tiny) h

/-- Whether a number overflows depends on the number. -/
theorem limit_congr {a b : Decimal} (h : a.toRat = b.toRat) :
    Option.map toRat (if emax < a.adjusted ∧ a.coeff ≠ 0 then none else some a) =
      Option.map toRat (if emax < b.adjusted ∧ b.coeff ≠ 0 then none else some b) := by
  by_cases ha : a.coeff = 0
  · have hb : b.coeff = 0 := by rwa [coeff_eq_zero_iff, ← h, ← coeff_eq_zero_iff]
    simp [ha, hb, h]
  · have hb : b.coeff ≠ 0 := by rwa [ne_eq, coeff_eq_zero_iff, ← h, ← coeff_eq_zero_iff]
    rw [adjusted_congr h ha]
    by_cases hlimit : emax < b.adjusted
    · simp [ha, hb, hlimit]
    · simp [hlimit, h]

/-- **What is left of a number in the context** depends on the number only. -/
theorem contextValue_congr {a b : Decimal} (h : a.toRat = b.toRat) :
    a.contextValue = b.contextValue := by
  unfold contextValue inContext
  by_cases ha : a.coeff = 0
  · have hb : b.coeff = 0 := by rwa [coeff_eq_zero_iff, ← h, ← coeff_eq_zero_iff]
    rw [if_pos ha, if_pos hb]
  · have hb : b.coeff ≠ 0 := by rwa [ne_eq, coeff_eq_zero_iff, ← h, ← coeff_eq_zero_iff]
    rw [if_neg ha, if_neg hb, adjusted_congr h ha]
    dsimp only
    by_cases hsmall : b.adjusted < emin
    · rw [if_pos hsmall, if_pos hsmall]
      exact limit_congr (roundAt_congr etiny h)
    · rw [if_neg hsmall, if_neg hsmall]
      exact limit_congr (fix_congr h)

/-! ## Reduced forms -/

/-- A form without trailing zeros. -/
def Reduced (d : Decimal) : Prop := d = 0 ∨ d.coeff % 10 ≠ 0

theorem stripZeros_mod_ne_zero {ideal : ℤ} {fuel : ℕ} {d : Decimal} (hcoeff : d.coeff ≠ 0)
    (hfuel : d.coeff.natAbs < 10 ^ fuel) (hideal : d.exp + fuel ≤ ideal) :
    (stripZeros ideal fuel d).coeff % 10 ≠ 0 := by
  induction fuel generalizing d with
  | zero =>
    rw [pow_zero] at hfuel
    omega
  | succ fuel ih =>
    unfold stripZeros
    push_cast at hideal
    split_ifs with h
    · have hdiv : d.coeff / 10 ≠ 0 := by omega
      refine ih hdiv ?_ ?_
      · show (d.coeff / 10).natAbs < 10 ^ fuel
        rw [pow_succ] at hfuel
        omega
      · show d.exp + 1 + fuel ≤ ideal
        omega
    · have hexp : d.exp < ideal := by omega
      exact fun hmod => h ⟨hexp, hmod⟩

theorem reduced_reduced (d : Decimal) : d.reduced.Reduced := by
  unfold reduced Reduced
  split_ifs with h
  · exact .inl rfl
  · exact .inr (stripZeros_mod_ne_zero h (lt_pow_digits _) le_rfl)

@[simp] theorem toRat_reduced (d : Decimal) : d.reduced.toRat = d.toRat := by
  unfold reduced
  split_ifs with h
  · rw [toRat_zero, coeff_eq_zero_iff.mp h]
  · exact toRat_stripZeros _ _ d

/-- A number has one reduced form. -/
theorem Reduced.eq_of_toRat {a b : Decimal} (ha : a.Reduced) (hb : b.Reduced)
    (h : a.toRat = b.toRat) : a = b := by
  have hnonzero : ∀ {d : Decimal}, d.coeff % 10 ≠ 0 → d.toRat ≠ 0 := by
    intro d hd hzero
    rw [← coeff_eq_zero_iff] at hzero
    rw [hzero] at hd
    exact hd rfl
  -- the exponent of the one is not below that of the other
  have hle : ∀ {a b : Decimal}, a.coeff % 10 ≠ 0 → a.toRat = b.toRat → b.exp ≤ a.exp := by
    intro a b ha h
    by_contra hlt
    obtain ⟨k, hk⟩ : ∃ k : ℕ, b.exp = a.exp + (k + 1) := ⟨(b.exp - a.exp - 1).toNat, by omega⟩
    have hten : (10 : ℚ) ≠ 0 := by norm_num
    have hcoeff : a.coeff = b.coeff * 10 ^ (k + 1) := by
      have hne : (10 : ℚ) ^ a.exp ≠ 0 := zpow_ne_zero _ hten
      have hq : (a.coeff : ℚ) = b.coeff * 10 ^ (k + 1) := by
        refine mul_right_cancel₀ hne ?_
        rw [← toRat, h, toRat, hk, zpow_add₀ hten, ← Nat.cast_succ, zpow_natCast, Nat.succ_eq_add_one]
        ring
      exact_mod_cast hq
    rw [hcoeff, pow_succ, ← mul_assoc] at ha
    omega
  rcases ha with rfl | ha
  · rcases hb with rfl | hb
    · rfl
    · exact absurd (h.symm.trans toRat_zero) (hnonzero hb)
  · rcases hb with rfl | hb
    · exact absurd (h.trans toRat_zero) (hnonzero ha)
    · have hexp : a.exp = b.exp := le_antisymm (hle hb h.symm) (hle ha h)
      have hcoeff : (a.coeff : ℚ) = b.coeff := by
        have hne : (10 : ℚ) ^ b.exp ≠ 0 := zpow_ne_zero _ (by norm_num)
        refine mul_right_cancel₀ hne ?_
        rw [← toRat, ← h, toRat, hexp]
      cases a
      cases b
      simp only [mk.injEq]
      exact ⟨by exact_mod_cast hcoeff, hexp⟩

/-- **Two numbers are normalized to the same form** exactly when the same is left of them. -/
theorem normalize_eq_iff {a b : Decimal} :
    a.normalize = b.normalize ↔ a.contextValue = b.contextValue := by
  unfold normalize contextValue
  cases a.inContext with
  | none => cases b.inContext <;> simp
  | some a =>
    cases b.inContext with
    | none => simp
    | some b =>
      simp only [Option.map_some, Option.some.injEq]
      constructor
      · intro h
        rw [← toRat_reduced a, h, toRat_reduced]
      · intro h
        exact (reduced_reduced a).eq_of_toRat (reduced_reduced b) (by simpa using h)

end BpEngine.Decimal
