import Mathlib.Data.Rat.Floor
import Mathlib.Tactic
import BpEngine.Library.Decimal

/-!
# Binary floating point

Numbers of 53 significant bits, as rational numbers; exponents are unbounded.

* `Binary64.round` is the nearest such number, ties to even; `abs_round_sub_le` bounds the error by half
  a unit in the last place.
* `roundHalfEven` is the nearest integer, `truncate` the integer part.
-/

namespace BpEngine.Binary64

/-- The nearest integer, ties to even. -/
def roundHalfEven (q : ℚ) : ℤ := q.num.sign * Decimal.divHalfEven q.num.natAbs q.den

/-- The integer part, towards zero. -/
def truncate (q : ℚ) : ℤ := q.num.tdiv q.den

/-- The exponent of the leading bit of a positive quotient. -/
def leadingBit (n d : ℕ) : ℤ :=
  let estimate : ℤ := (Nat.log2 n : ℤ) - Nat.log2 d
  if (d : ℚ) * (2 : ℚ) ^ estimate ≤ n then estimate else estimate - 1

/-- The nearest number of 53 significant bits, ties to even. -/
def round (q : ℚ) : ℚ :=
  if q = 0 then 0
  else
    let ulp : ℚ := (2 : ℚ) ^ (leadingBit q.num.natAbs q.den - 52)
    roundHalfEven (q / ulp) * ulp

/-! ## Rounding errors -/

/-- A quotient is rounded by at most a half. -/
theorem abs_divHalfEven_sub_le {n p : ℕ} (hp : 0 < p) :
    |((Decimal.divHalfEven n p : ℕ) : ℚ) - (n : ℚ) / p| ≤ 1 / 2 := by
  have hpos : (0 : ℚ) < p := by exact_mod_cast hp
  have hsplit : (p : ℚ) * (n / p : ℕ) + (n % p : ℕ) = n := by exact_mod_cast Nat.div_add_mod n p
  have hquotient : (n : ℚ) / p = (n / p : ℕ) + ((n % p : ℕ) : ℚ) / p := by
    field_simp
    linarith
  have hmod : ((n % p : ℕ) : ℚ) < p := by exact_mod_cast Nat.mod_lt n hp
  unfold Decimal.divHalfEven
  dsimp only
  rw [hquotient]
  split_ifs with hup
  · have hhalf : (p : ℚ) ≤ 2 * (n % p : ℕ) := by
      have : p ≤ 2 * (n % p) := by omega
      exact_mod_cast this
    have hbounds : 1 / 2 ≤ ((n % p : ℕ) : ℚ) / p ∧ ((n % p : ℕ) : ℚ) / p ≤ 1 := by
      constructor
      · rw [div_le_div_iff₀ (by norm_num) hpos]
        linarith
      · rw [div_le_one hpos]
        exact hmod.le
    push_cast
    rw [abs_le]
    constructor <;> linarith [hbounds.1, hbounds.2]
  · have hhalf : 2 * ((n % p : ℕ) : ℚ) ≤ p := by
      have : 2 * (n % p) ≤ p := by omega
      exact_mod_cast this
    have hbounds : 0 ≤ ((n % p : ℕ) : ℚ) / p ∧ ((n % p : ℕ) : ℚ) / p ≤ 1 / 2 := by
      constructor
      · positivity
      · rw [div_le_div_iff₀ hpos (by norm_num)]
        linarith
    rw [abs_le]
    constructor <;> linarith [hbounds.1, hbounds.2]

/-- The nearest integer is at most a half away. -/
theorem abs_roundHalfEven_sub_le (q : ℚ) : |(roundHalfEven q : ℚ) - q| ≤ 1 / 2 := by
  have herror := abs_divHalfEven_sub_le (n := q.num.natAbs) q.den_pos
  have hnum : ((q.num.sign : ℤ) : ℚ) * (q.num.natAbs : ℚ) = q.num := by
    rw [← Int.cast_natCast q.num.natAbs, ← Int.cast_mul, Int.sign_mul_natAbs]
  have hq : q = (q.num.sign : ℚ) * ((q.num.natAbs : ℚ) / q.den) := by
    rw [← mul_div_assoc, hnum, Rat.num_div_den]
  have hsign : |((q.num.sign : ℤ) : ℚ)| ≤ 1 := by
    rcases lt_trichotomy q.num 0 with h | h | h
    · simp [Int.sign_eq_neg_one_of_neg h]
    · simp [h]
    · simp [Int.sign_eq_one_of_pos h]
  have hdiff : (roundHalfEven q : ℚ) - q =
      (q.num.sign : ℚ) * ((Decimal.divHalfEven q.num.natAbs q.den : ℕ) - (q.num.natAbs : ℚ) / q.den) := by
    rw [mul_sub, ← hq]
    unfold roundHalfEven
    push_cast
    rfl
  rw [hdiff, abs_mul]
  exact (mul_le_of_le_one_left (abs_nonneg _) hsign).trans herror

/-- The leading bit of a positive number is not above the number. -/
theorem two_zpow_leadingBit_le {q : ℚ} (h : 0 < q) :
    (2 : ℚ) ^ leadingBit q.num.natAbs q.den ≤ q := by
  have hnum : ((q.num.natAbs : ℕ) : ℤ) = q.num := Int.natAbs_of_nonneg (Rat.num_nonneg.mpr h.le)
  have hne : q.num.natAbs ≠ 0 := Int.natAbs_ne_zero.mpr (Rat.num_pos.mpr h).ne'
  have hden : (0 : ℚ) < q.den := by exact_mod_cast q.den_pos
  have hbelow : ∀ a : ℚ, a * q.den ≤ q.num.natAbs → a ≤ q := by
    intro a ha
    rw [← Int.cast_natCast q.num.natAbs, hnum, ← le_div_iff₀ hden, Rat.num_div_den] at ha
    exact ha
  unfold leadingBit
  dsimp only
  split_ifs with hle
  · refine hbelow _ ?_
    rw [mul_comm]
    exact hle
  · -- one bit below the estimate, which is never too large by more
    have hlow : ((2 : ℚ) ^ (Nat.log2 q.num.natAbs : ℤ)) ≤ q.num.natAbs := by
      rw [zpow_natCast]
      exact_mod_cast Nat.log2_self_le hne
    have hhigh : (q.den : ℚ) ≤ (2 : ℚ) ^ ((Nat.log2 q.den : ℤ) + 1) := by
      have hlt : q.den < 2 ^ (Nat.log2 q.den + 1) := Nat.lt_log2_self
      rw [← Nat.cast_one (R := ℤ), ← Nat.cast_add, zpow_natCast]
      exact_mod_cast hlt.le
    refine hbelow _ ?_
    calc (2 : ℚ) ^ ((Nat.log2 q.num.natAbs : ℤ) - Nat.log2 q.den - 1) * q.den
        ≤ (2 : ℚ) ^ ((Nat.log2 q.num.natAbs : ℤ) - Nat.log2 q.den - 1) *
            (2 : ℚ) ^ ((Nat.log2 q.den : ℤ) + 1) := by gcongr
      _ = (2 : ℚ) ^ (Nat.log2 q.num.natAbs : ℤ) := by
        rw [← zpow_add₀ (by norm_num)]
        congr 1
        ring
      _ ≤ q.num.natAbs := hlow

/-- **The error of rounding** is at most half a unit in the last place. -/
theorem abs_round_sub_le {q : ℚ} (h : 0 < q) :
    |round q - q| ≤ (2 : ℚ) ^ (leadingBit q.num.natAbs q.den - 52) / 2 := by
  unfold round
  rw [if_neg h.ne']
  dsimp only
  have hulp : (0 : ℚ) < (2 : ℚ) ^ (leadingBit q.num.natAbs q.den - 52) := zpow_pos (by norm_num) _
  generalize (2 : ℚ) ^ (leadingBit q.num.natAbs q.den - 52) = ulp at hulp ⊢
  have hscaled : (roundHalfEven (q / ulp) : ℚ) * ulp - q = (roundHalfEven (q / ulp) - q / ulp) * ulp := by
    rw [sub_mul, div_mul_cancel₀ q hulp.ne']
  rw [hscaled, abs_mul, abs_of_pos hulp]
  calc |(roundHalfEven (q / ulp) : ℚ) - q / ulp| * ulp
      ≤ 1 / 2 * ulp := mul_le_mul_of_nonneg_right (abs_roundHalfEven_sub_le _) hulp.le
    _ = ulp / 2 := by ring

/-- Rounding keeps 53 bits of a number. -/
theorem abs_round_sub_le_rel {q : ℚ} (h : 0 < q) : |round q - q| ≤ q / 2 ^ 53 := by
  refine (abs_round_sub_le h).trans ?_
  have hle := two_zpow_leadingBit_le h
  rw [zpow_sub₀ (by norm_num)]
  have hpow : (2 : ℚ) ^ (52 : ℤ) = 2 ^ 52 := by norm_cast
  rw [hpow, div_div]
  have hdouble : (2 : ℚ) ^ 52 * 2 = 2 ^ 53 := by norm_num
  rw [hdouble]
  gcongr

/-- Below a power of two the error is bounded by the unit of the numbers under it. -/
theorem abs_round_sub_le_of_lt {q : ℚ} (h : 0 < q) {n : ℤ} (hlt : q < (2 : ℚ) ^ n) :
    |round q - q| ≤ (2 : ℚ) ^ (n - 54) := by
  have hbit : leadingBit q.num.natAbs q.den < n :=
    (zpow_lt_zpow_iff_right₀ (by norm_num : (1 : ℚ) < 2)).mp ((two_zpow_leadingBit_le h).trans_lt hlt)
  refine (abs_round_sub_le h).trans ?_
  have hhalf : (2 : ℚ) ^ (leadingBit q.num.natAbs q.den - 52) / 2 =
      (2 : ℚ) ^ (leadingBit q.num.natAbs q.den - 53) := by
    rw [show leadingBit q.num.natAbs q.den - 52 = leadingBit q.num.natAbs q.den - 53 + 1 by ring,
      zpow_add_one₀ (by norm_num), mul_div_cancel_right₀ _ (by norm_num)]
  rw [hhalf]
  exact zpow_le_zpow_right₀ (by norm_num) (by omega)

end BpEngine.Binary64
