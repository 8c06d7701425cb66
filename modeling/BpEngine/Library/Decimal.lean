import Mathlib.Algebra.Order.Field.Power
import Mathlib.Data.Rat.Lemmas
import Mathlib.Data.Nat.Log
import Mathlib.Tactic

/-!
# Decimal arithmetic in a fixed-precision context

A decimal number is an integer coefficient and a power of ten; operations are computed exactly and
then rounded, half to even, to `precision` significant digits.  This is the arithmetic of the
General Decimal Arithmetic specification with the default context (28 digits), without signed
zeros, infinities, NaNs and exponent limits.

* `fix` rounds to the context; `add`, `sub`, `mul`, `div`, `quantizeDown` are the operations;
* `toRat` is the number a decimal stands for, and `le`, `lt`, `isZero` compare numbers, not forms;
* `Fits k v` says that `v` lies on the grid `10 ^ (-k)` and is small enough for the context:
  `fix_exact`, `add_exact`, `sub_exact`, `mul_exact`, `foldl_add_exact` are exact there, and
  `le_fix` says that rounding does not cross such a number;
* `congr_of_mul_ten`, `fix_congr`, `add_congr`: the result of an operation depends on the numbers, not
  on their forms.
-/

namespace BpEngine

/-- The number `coeff * 10 ^ exp`, with the form it is written in. -/
structure Decimal where
  coeff : ℤ
  exp : ℤ
deriving DecidableEq, Repr

namespace Decimal

/-- The significant digits an operation keeps. -/
def precision : ℕ := 28

/-- The number a decimal stands for. -/
def toRat (d : Decimal) : ℚ := d.coeff * (10 : ℚ) ^ d.exp

/-- The decimal form of an integer. -/
def ofInt (n : ℤ) : Decimal := ⟨n, 0⟩

instance : Zero Decimal := ⟨ofInt 0⟩
instance : One Decimal := ⟨ofInt 1⟩

/-- The coefficient of `d` when it is written with the smaller exponent `e`. -/
def align (d : Decimal) (e : ℤ) : ℤ := d.coeff * 10 ^ (d.exp - e).toNat

/-! ## Rounding to the context -/

/-- The number of digits of `n` beyond the context's precision, searched with `fuel` steps. -/
def excess : ℕ → ℕ → ℕ
  | 0, _ => 0
  | fuel + 1, n => if n < 10 ^ precision then 0 else excess fuel (n / 10) + 1

/-- `n / p` rounded to the nearest integer, ties to even. -/
def divHalfEven (n p : ℕ) : ℕ :=
  let q := n / p
  let r := n % p
  if p < 2 * r ∨ (p = 2 * r ∧ q % 2 = 1) then q + 1 else q

/-- Rounds to the context: at most `precision` digits, half to even. -/
def fix (d : Decimal) : Decimal :=
  let n := d.coeff.natAbs
  let k := excess (Nat.log2 n + 1) n
  if k = 0 then d
  else
    let q := divHalfEven n (10 ^ k)
    if q < 10 ^ precision then ⟨d.coeff.sign * q, d.exp + k⟩
    else ⟨d.coeff.sign * (q / 10 : ℕ), d.exp + k + 1⟩

/-! ## Operations -/

/-- The exact sum, written with the smaller exponent. -/
def rawAdd (a b : Decimal) : Decimal :=
  let e := min a.exp b.exp
  ⟨a.align e + b.align e, e⟩

/-- The exact product. -/
def rawMul (a b : Decimal) : Decimal := ⟨a.coeff * b.coeff, a.exp + b.exp⟩

/-- Sign change, exact. -/
def neg (a : Decimal) : Decimal := ⟨-a.coeff, a.exp⟩

def add (a b : Decimal) : Decimal := fix (rawAdd a b)

def sub (a b : Decimal) : Decimal := add a (neg b)

def mul (a b : Decimal) : Decimal := fix (rawMul a b)

instance : Add Decimal := ⟨add⟩
instance : Sub Decimal := ⟨sub⟩
instance : Mul Decimal := ⟨mul⟩
instance : Neg Decimal := ⟨neg⟩

/-- The number of decimal digits of `n`, one for zero. -/
def digits (n : ℕ) : ℕ := (Nat.toDigits 10 n).length

/-- Strips trailing zeros of an exact quotient down to the ideal exponent. -/
def stripZeros (ideal : ℤ) : ℕ → Decimal → Decimal
  | 0, d => d
  | fuel + 1, d =>
    if d.exp < ideal ∧ d.coeff % 10 = 0 then stripZeros ideal fuel ⟨d.coeff / 10, d.exp + 1⟩ else d

/-- Division; `none` is the division-by-zero signal.  The quotient is computed with at least one
digit more than the context keeps and marked as inexact by its last digit before rounding. -/
def div (a b : Decimal) : Option Decimal :=
  if b.coeff = 0 then none
  else if a.coeff = 0 then some ⟨0, a.exp - b.exp⟩
  else
    let shift : ℤ := digits b.coeff.natAbs - digits a.coeff.natAbs + precision + 1
    let e := a.exp - b.exp - shift
    let n := a.coeff.natAbs * 10 ^ shift.toNat
    let m := b.coeff.natAbs * 10 ^ (-shift).toNat
    let q := n / m
    let s := a.coeff.sign * b.coeff.sign
    if n % m = 0 then some (fix (stripZeros (a.exp - b.exp) (precision + 2) ⟨s * q, e⟩))
    else some (fix ⟨s * (if q % 5 = 0 then q + 1 else q : ℕ), e⟩)

/-- Rounds towards zero to the exponent `e`; `none` is the invalid-operation signal of a result
that needs more digits than the context has. -/
def quantizeDown (d : Decimal) (e : ℤ) : Option Decimal :=
  let c := if e ≤ d.exp then d.align e else d.coeff.tdiv (10 ^ (e - d.exp).toNat)
  if c.natAbs < 10 ^ precision then some ⟨c, e⟩ else none

/-- Rounds to `scale` decimals, half away from zero, and writes all of them. -/
def roundToScale (d : Decimal) (scale : ℕ) : Decimal :=
  if -(scale : ℤ) ≤ d.exp then ⟨d.align (-scale), -scale⟩
  else
    let p := 10 ^ (-(scale : ℤ) - d.exp).toNat
    let n := d.coeff.natAbs
    ⟨d.coeff.sign * (if p ≤ 2 * (n % p) then n / p + 1 else n / p : ℕ), -scale⟩

/-- The fixed-point form: a positive exponent is written out. -/
def formatF (d : Decimal) : Decimal := if 0 < d.exp then ⟨d.align 0, 0⟩ else d

/-! ## Comparison -/

/-- `a` is at most `b` as a number. -/
def le (a b : Decimal) : Prop :=
  let e := min a.exp b.exp
  a.align e ≤ b.align e

/-- `a` is smaller than `b` as a number. -/
def lt (a b : Decimal) : Prop := ¬ le b a

instance : LE Decimal := ⟨le⟩
instance : LT Decimal := ⟨lt⟩

instance (a b : Decimal) : Decidable (a ≤ b) :=
  inferInstanceAs (Decidable (a.align (min a.exp b.exp) ≤ b.align (min a.exp b.exp)))

instance (a b : Decimal) : Decidable (a < b) := inferInstanceAs (Decidable (¬ b ≤ a))

/-- The number is zero, in whatever form. -/
def isZero (d : Decimal) : Prop := d.coeff = 0

instance (d : Decimal) : Decidable d.isZero := inferInstanceAs (Decidable (d.coeff = 0))

/-- Two decimals stand for the same number, in whatever form. -/
def Same (a b : Decimal) : Prop := a ≤ b ∧ b ≤ a

instance (a b : Decimal) : Decidable (Same a b) := inferInstanceAs (Decidable (_ ∧ _))

/-- The first of two numbers that is not exceeded by the other. -/
def min' (a b : Decimal) : Decimal := if b < a then b else a

/-- The first of two numbers that does not fall below the other. -/
def max' (a b : Decimal) : Decimal := if a < b then b else a

theorem lt_iff_not_le {a b : Decimal} : a < b ↔ ¬ b ≤ a := Iff.rfl

theorem toRat_align {d : Decimal} {e : ℤ} (h : e ≤ d.exp) :
    (d.align e : ℚ) * (10 : ℚ) ^ e = d.toRat := by
  have hexp : ((d.exp - e).toNat : ℤ) = d.exp - e := Int.toNat_of_nonneg (by omega)
  unfold align toRat
  push_cast
  rw [mul_assoc, ← zpow_natCast (10 : ℚ), hexp, ← zpow_add₀ (by norm_num : (10 : ℚ) ≠ 0)]
  congr 2
  ring

theorem le_iff {a b : Decimal} : a ≤ b ↔ a.toRat ≤ b.toRat := by
  have ha := toRat_align (d := a) (min_le_left a.exp b.exp)
  have hb := toRat_align (d := b) (min_le_right a.exp b.exp)
  have hpos : (0 : ℚ) < 10 ^ (min a.exp b.exp) := zpow_pos (by norm_num) _
  change a.align _ ≤ b.align _ ↔ _
  rw [← ha, ← hb, mul_le_mul_iff_of_pos_right hpos, Int.cast_le]

theorem lt_iff {a b : Decimal} : a < b ↔ a.toRat < b.toRat := by
  rw [lt_iff_not_le, le_iff, not_le]

theorem same_iff {a b : Decimal} : Same a b ↔ a.toRat = b.toRat := by
  rw [Same, le_iff, le_iff, le_antisymm_iff]

@[simp] theorem toRat_zero : (0 : Decimal).toRat = 0 := by
  change (ofInt 0).toRat = 0
  simp [toRat, ofInt]

@[simp] theorem toRat_ofInt (n : ℤ) : (ofInt n).toRat = n := by simp [toRat, ofInt]

@[simp] theorem toRat_neg (d : Decimal) : (-d).toRat = -d.toRat := by
  change (neg d).toRat = _
  simp [toRat, neg]

theorem isZero_iff {d : Decimal} : d.isZero ↔ d.toRat = 0 := by
  have : (10 : ℚ) ^ d.exp ≠ 0 := zpow_ne_zero _ (by norm_num)
  simp [isZero, toRat, this]

@[simp] theorem toRat_rawAdd (a b : Decimal) : (rawAdd a b).toRat = a.toRat + b.toRat := by
  rw [← toRat_align (d := a) (min_le_left a.exp b.exp),
    ← toRat_align (d := b) (min_le_right a.exp b.exp)]
  simp [rawAdd, toRat, add_mul]

@[simp] theorem toRat_rawMul (a b : Decimal) : (rawMul a b).toRat = a.toRat * b.toRat := by
  simp only [rawMul, toRat, zpow_add₀ (by norm_num : (10 : ℚ) ≠ 0)]
  push_cast
  ring

theorem toRat_max' (a b : Decimal) : (max' a b).toRat = max a.toRat b.toRat := by
  unfold max'
  split_ifs with h
  · rw [max_eq_right (le_of_lt (lt_iff.mp h))]
  · rw [max_eq_left (le_iff.mp (not_not.mp h))]

/-! ## Exactness -/

/-- `v` lies on the grid of `k` decimals and has at most `precision` digits there. -/
structure Fits (k : ℤ) (v : ℚ) : Prop where
  grid : ∃ z : ℤ, v = z * (10 : ℚ) ^ (-k)
  small : |v| < (10 : ℚ) ^ ((precision : ℤ) - k)

theorem excess_spec : ∀ (fuel n : ℕ), n < 10 ^ (precision + fuel) →
    (excess fuel n = 0 ∨ 10 ^ (precision - 1 + excess fuel n) ≤ n) ∧
      n < 10 ^ (precision + excess fuel n) := by
  intro fuel
  induction fuel with
  | zero => intro n hn; exact ⟨Or.inl rfl, by simpa [excess] using hn⟩
  | succ fuel ih =>
    intro n hn
    unfold excess
    split_ifs with hlt
    · exact ⟨Or.inl rfl, by simpa using hlt⟩
    · have hdiv : n / 10 < 10 ^ (precision + fuel) := by
        rw [Nat.div_lt_iff_lt_mul (by norm_num), ← pow_succ]
        exact hn
      obtain ⟨hlow, hhigh⟩ := ih _ hdiv
      refine ⟨Or.inr ?_, ?_⟩
      · rcases hlow with h0 | hlow
        · rw [h0]
          exact not_lt.mp hlt
        · rw [← add_assoc, pow_succ]
          exact (Nat.le_div_iff_mul_le (by norm_num)).mp hlow
      · rw [← add_assoc, pow_succ]
        exact (Nat.div_lt_iff_lt_mul (by norm_num)).mp hhigh

theorem lt_pow_log2 (n : ℕ) : n < 10 ^ (precision + (Nat.log2 n + 1)) := by
  refine lt_of_lt_of_le (Nat.lt_log2_self (n := n)) ?_
  exact (Nat.pow_le_pow_left (by norm_num) _).trans (Nat.pow_le_pow_right (by norm_num) (by omega))

theorem divHalfEven_of_dvd {n p : ℕ} (hp : 0 < p) (h : p ∣ n) : divHalfEven n p = n / p := by
  have h0 : n % p = 0 := Nat.mod_eq_zero_of_dvd h
  unfold divHalfEven
  simp only [h0]
  rw [if_neg (by omega)]

/-- A coefficient with `j` digits too many leaves the grid at least `j` digits above its end. -/
theorem Fits.exp_add_le {k : ℤ} {d : Decimal} {j : ℕ} (h : Fits k d.toRat)
    (hj : 10 ^ (precision - 1 + j) ≤ d.coeff.natAbs) : d.exp + j ≤ -k := by
  have habs : |d.toRat| = (d.coeff.natAbs : ℚ) * (10 : ℚ) ^ d.exp := by
    rw [toRat, abs_mul, abs_of_pos (zpow_pos (by norm_num : (0 : ℚ) < 10) _), Nat.cast_natAbs,
      Int.cast_abs]
  have hsmall := h.small
  have hcoeff : ((10 : ℚ) ^ ((precision - 1 + j : ℕ) : ℤ)) ≤ d.coeff.natAbs := by
    rw [zpow_natCast]
    exact_mod_cast hj
  have hlt : (10 : ℚ) ^ (((precision - 1 + j : ℕ) : ℤ) + d.exp) < 10 ^ ((precision : ℤ) - k) := by
    rw [zpow_add₀ (by norm_num : (10 : ℚ) ≠ 0)]
    refine lt_of_le_of_lt ?_ (habs ▸ hsmall)
    exact mul_le_mul_of_nonneg_right hcoeff (zpow_nonneg (by norm_num) _)
  have hexp := (zpow_lt_zpow_iff_right₀ (by norm_num : (1 : ℚ) < 10)).mp hlt
  simp only [precision] at hexp
  omega

theorem Fits.dvd_coeff {k : ℤ} {d : Decimal} {j : ℕ} (h : Fits k d.toRat)
    (hj : d.exp + j ≤ -k) : 10 ^ j ∣ d.coeff.natAbs := by
  obtain ⟨z, hz⟩ := h.grid
  have h10 : (10 : ℚ) ≠ 0 := by norm_num
  obtain ⟨m, hm⟩ : ∃ m : ℕ, -k = d.exp + j + m := ⟨(-k - d.exp - j).toNat, by omega⟩
  have hcoeff : (d.coeff : ℚ) = z * 10 ^ m * 10 ^ j := by
    have hne : (10 : ℚ) ^ d.exp ≠ 0 := zpow_ne_zero _ h10
    refine mul_right_cancel₀ hne ?_
    rw [← toRat, hz, hm, zpow_add₀ h10, zpow_add₀ h10, zpow_natCast, zpow_natCast]
    ring
  have hint : d.coeff = z * 10 ^ m * 10 ^ j := by exact_mod_cast hcoeff
  rw [hint, Int.natAbs_mul, Int.natAbs_pow]
  exact dvd_mul_left _ _

theorem sign_mul_natAbs_div {c : ℤ} {p : ℕ} (h : p ∣ c.natAbs) :
    c.sign * ((c.natAbs / p : ℕ) : ℤ) * p = c := by
  obtain ⟨m, hm⟩ := h
  rcases Nat.eq_zero_or_pos p with rfl | hp
  · have : c = 0 := by simpa using hm
    simp [this]
  · rw [hm, Nat.mul_div_cancel_left _ hp, mul_assoc, ← Nat.cast_mul, mul_comm m p, ← hm]
    exact Int.sign_mul_natAbs c

/-- **Rounding is exact on numbers that fit the context.** -/
theorem fix_exact {k : ℤ} {d : Decimal} (h : Fits k d.toRat) : (fix d).toRat = d.toRat := by
  set n := d.coeff.natAbs with hn
  obtain ⟨hlow, hhigh⟩ := excess_spec _ n (lt_pow_log2 n)
  unfold fix
  simp only [← hn]
  generalize excess (Nat.log2 n + 1) n = j at hlow hhigh ⊢
  rcases Nat.eq_zero_or_pos j with rfl | hj
  · simp
  have hle : 10 ^ (precision - 1 + j) ≤ d.coeff.natAbs := by
    rcases hlow with h0 | hlow
    · omega
    · exact hlow
  have hdvd : 10 ^ j ∣ d.coeff.natAbs := h.dvd_coeff (h.exp_add_le hle)
  have hq : divHalfEven n (10 ^ j) = n / 10 ^ j := divHalfEven_of_dvd (by positivity) hdvd
  have hlt : n / 10 ^ j < 10 ^ precision := by
    rw [Nat.div_lt_iff_lt_mul (by positivity), ← pow_add]
    exact hhigh
  rw [if_neg (by omega), hq, if_pos hlt]
  have hcoeff := sign_mul_natAbs_div hdvd
  have hcast : (d.coeff : ℚ) = ((d.coeff.sign * ((n / 10 ^ j : ℕ) : ℤ) : ℤ) : ℚ) * 10 ^ j := by
    have hcoeff' := congrArg (Int.cast : ℤ → ℚ) hcoeff
    rw [← hn, Int.cast_mul, Int.cast_natCast, Nat.cast_pow] at hcoeff'
    exact_mod_cast hcoeff'.symm
  simp only [toRat]
  rw [zpow_add₀ (by norm_num : (10 : ℚ) ≠ 0), zpow_natCast, hcast]
  ring

theorem add_exact {k : ℤ} {a b : Decimal} (h : Fits k (a.toRat + b.toRat)) :
    (a + b).toRat = a.toRat + b.toRat := by
  change (fix (rawAdd a b)).toRat = _
  rw [fix_exact (k := k) (by rwa [toRat_rawAdd]), toRat_rawAdd]

theorem sub_exact {k : ℤ} {a b : Decimal} (h : Fits k (a.toRat - b.toRat)) :
    (a - b).toRat = a.toRat - b.toRat := by
  have hneg := toRat_neg b
  change (a + -b).toRat = _
  rw [add_exact (k := k) (by rw [hneg]; simpa [sub_eq_add_neg] using h), hneg, sub_eq_add_neg]

theorem mul_exact {k : ℤ} {a b : Decimal} (h : Fits k (a.toRat * b.toRat)) :
    (a * b).toRat = a.toRat * b.toRat := by
  change (fix (rawMul a b)).toRat = _
  rw [fix_exact (k := k) (by rwa [toRat_rawMul]), toRat_rawMul]

/-! ## Rounding and order -/

theorem div_le_divHalfEven (n p : ℕ) : n / p ≤ divHalfEven n p := by
  unfold divHalfEven
  dsimp only
  split_ifs <;> omega

/-- Above the context's digits a number is rounded at its last kept digit. -/
theorem toRat_fix_of_excess {d : Decimal} {j : ℕ}
    (hj : excess (Nat.log2 d.coeff.natAbs + 1) d.coeff.natAbs = j + 1) :
    (fix d).toRat = d.coeff.sign * (divHalfEven d.coeff.natAbs (10 ^ (j + 1)) : ℕ) *
      (10 : ℚ) ^ (d.exp + (j + 1 : ℕ)) := by
  set n := d.coeff.natAbs with hn
  obtain ⟨-, hhigh⟩ := excess_spec _ n (lt_pow_log2 n)
  rw [hj] at hhigh
  unfold fix
  simp only [← hn]
  rw [hj, if_neg (by omega)]
  split_ifs with hq
  · simp [toRat]
  · have hdiv : n / 10 ^ (j + 1) < 10 ^ precision := by
      rw [Nat.div_lt_iff_lt_mul (by positivity), ← pow_add]
      exact hhigh
    have hround : divHalfEven n (10 ^ (j + 1)) = 10 ^ precision := by
      have hle : divHalfEven n (10 ^ (j + 1)) ≤ n / 10 ^ (j + 1) + 1 := by
        unfold divHalfEven
        dsimp only
        split_ifs <;> omega
      omega
    have hten : (10 : ℚ) ≠ 0 := by norm_num
    rw [hround]
    simp only [toRat]
    rw [zpow_add₀ hten (d.exp + (j + 1 : ℕ)) 1, show (10 ^ precision / 10 : ℕ) = 10 ^ 27 from by
      decide +kernel]
    simp only [precision]
    push_cast
    ring

/-- The excess is determined by its bounds. -/
theorem excess_eq {fuel n j : ℕ} (hn : n < 10 ^ (precision + fuel))
    (hlow : j = 0 ∨ 10 ^ (precision - 1 + j) ≤ n) (hhigh : n < 10 ^ (precision + j)) :
    excess fuel n = j := by
  obtain ⟨hlow', hhigh'⟩ := excess_spec fuel n hn
  have hstep : ∀ {a b : ℕ}, n < 10 ^ (precision + a) → (b = 0 ∨ 10 ^ (precision - 1 + b) ≤ n) →
      b ≤ a := by
    intro a b ha hb
    rcases hb with rfl | hb
    · exact Nat.zero_le a
    · have hlt := (Nat.pow_lt_pow_iff_right (by norm_num : 1 < 10)).mp (lt_of_le_of_lt hb ha)
      simp only [precision] at hlt
      omega
  exact le_antisymm (hstep hhigh hlow') (hstep hhigh' hlow)

/-- One more trailing zero does not change the rounded quotient. -/
theorem divHalfEven_mul_ten (n p : ℕ) : divHalfEven (n * 10) (p * 10) = divHalfEven n p := by
  unfold divHalfEven
  dsimp only
  rw [Nat.mul_div_mul_right _ _ (by norm_num), Nat.mul_mod_mul_right]
  refine if_congr ?_ rfl rfl
  constructor <;> intro h <;> omega

/-- Rounding does not depend on how many trailing zeros are written. -/
theorem toRat_fix_mul_ten (c e : ℤ) : (fix ⟨c * 10, e⟩).toRat = (fix ⟨c, e + 1⟩).toRat := by
  have hten : (10 : ℚ) ≠ 0 := by norm_num
  have hvalue : toRat ⟨c * 10, e⟩ = toRat ⟨c, e + 1⟩ := by
    simp only [toRat]
    rw [zpow_add₀ hten]
    push_cast
    ring
  have habs : (c * 10).natAbs = c.natAbs * 10 := by rw [Int.natAbs_mul]; rfl
  have hsign : (c * 10).sign = c.sign := by
    rw [Int.sign_mul, Int.sign_eq_one_of_pos (by norm_num : (0 : ℤ) < 10), mul_one]
  have hexcess : ∀ d : Decimal, excess (Nat.log2 d.coeff.natAbs + 1) d.coeff.natAbs = 0 →
      fix d = d := by
    intro d h0
    unfold fix
    dsimp only
    rw [h0, if_pos rfl]
  obtain ⟨hlow, hhigh⟩ := excess_spec _ c.natAbs (lt_pow_log2 _)
  cases hj : excess (Nat.log2 c.natAbs + 1) c.natAbs with
  | zero =>
    rw [hexcess ⟨c, e + 1⟩ hj, ← hvalue]
    rw [hj] at hhigh
    by_cases hfits : c.natAbs * 10 < 10 ^ precision
    · rw [hexcess]
      refine excess_eq (lt_pow_log2 _) (Or.inl rfl) ?_
      rw [habs]
      exact hfits
    · have hone : excess (Nat.log2 (c * 10).natAbs + 1) (c * 10).natAbs = 0 + 1 := by
        refine excess_eq (lt_pow_log2 _) (Or.inr ?_) ?_
        · rw [habs]
          exact not_lt.mp hfits
        · rw [habs, pow_succ]
          exact Nat.mul_lt_mul_of_pos_right hhigh (by norm_num)
      rw [toRat_fix_of_excess (d := ⟨c * 10, e⟩) hone]
      dsimp only
      rw [habs, hsign, pow_one, divHalfEven_of_dvd (by norm_num) (Dvd.intro_left _ rfl),
        Nat.mul_div_cancel _ (by norm_num)]
      rw [hvalue]
      have hc := congrArg (Int.cast : ℤ → ℚ) (Int.sign_mul_natAbs c)
      rw [Int.cast_mul, Int.cast_natCast] at hc
      simp only [toRat]
      rw [hc]
      rfl
  | succ j =>
    have hsucc : excess (Nat.log2 (c * 10).natAbs + 1) (c * 10).natAbs = (j + 1) + 1 := by
      rw [hj] at hlow hhigh
      refine excess_eq (lt_pow_log2 _) (Or.inr ?_) ?_
      · rw [habs, ← add_assoc, pow_succ]
        exact Nat.mul_le_mul_right 10 (hlow.resolve_left (by omega))
      · rw [habs, ← add_assoc, pow_succ]
        exact Nat.mul_lt_mul_of_pos_right hhigh (by norm_num)
    rw [toRat_fix_of_excess (d := ⟨c * 10, e⟩) hsucc, toRat_fix_of_excess (d := ⟨c, e + 1⟩) hj]
    dsimp only
    rw [habs, hsign, pow_succ 10 (j + 1), divHalfEven_mul_ten]
    congr 2
    push_cast
    ring

/-- What does not depend on the trailing zeros that are written depends on the number only. -/
theorem congr_of_mul_ten {α : Type} {f : Decimal → α} (hf : ∀ c e, f ⟨c * 10, e⟩ = f ⟨c, e + 1⟩)
    {a b : Decimal} (h : a.toRat = b.toRat) : f a = f b := by
  have hten : (10 : ℚ) ≠ 0 := by norm_num
  have hzeros : ∀ (k : ℕ) (c e : ℤ), f ⟨c * 10 ^ k, e⟩ = f ⟨c, e + k⟩ := by
    intro k
    induction k with
    | zero => intro c e; simp
    | succ k ih =>
      intro c e
      rw [pow_succ, ← mul_assoc, hf, ih]
      congr 2
      push_cast
      ring
  have hle : ∀ {a b : Decimal}, a.toRat = b.toRat → b.exp ≤ a.exp → f a = f b := by
    intro a b h hexp
    obtain ⟨k, hk⟩ : ∃ k : ℕ, a.exp = b.exp + k := ⟨(a.exp - b.exp).toNat, by omega⟩
    have hcoeff : b.coeff = a.coeff * 10 ^ k := by
      have hne : (10 : ℚ) ^ b.exp ≠ 0 := zpow_ne_zero _ hten
      have hq : (b.coeff : ℚ) = a.coeff * 10 ^ k := by
        refine mul_right_cancel₀ hne ?_
        rw [← toRat, ← h, toRat, hk, zpow_add₀ hten, zpow_natCast]
        ring
      exact_mod_cast hq
    have hb : b = ⟨a.coeff * 10 ^ k, b.exp⟩ := by rw [← hcoeff]
    rw [hb, hzeros, ← hk]
  rcases le_total b.exp a.exp with hexp | hexp
  · exact hle h hexp
  · exact (hle h.symm hexp).symm

/-- **Rounding depends on the number only**, not on the form it is written in. -/
theorem fix_congr {a b : Decimal} (h : a.toRat = b.toRat) : (fix a).toRat = (fix b).toRat :=
  congr_of_mul_ten (f := fun d => (fix d).toRat) toRat_fix_mul_ten h

theorem add_congr {a a' b b' : Decimal} (ha : a.toRat = a'.toRat) (hb : b.toRat = b'.toRat) :
    (a + b).toRat = (a' + b').toRat :=
  fix_congr (by rw [toRat_rawAdd, toRat_rawAdd, ha, hb])

/-- A nonnegative number that fits the context stays below what it was below. -/
theorem le_fix {k : ℤ} {y : ℚ} {d : Decimal} (hy : Fits k y) (hpos : 0 ≤ y) (h : y ≤ d.toRat) :
    y ≤ (fix d).toRat := by
  have hten : (10 : ℚ) ≠ 0 := by norm_num
  have hcoeff : 0 ≤ d.coeff := by
    have hd : 0 ≤ (d.coeff : ℚ) * (10 : ℚ) ^ d.exp := le_trans hpos h
    have hc := nonneg_of_mul_nonneg_left hd (zpow_pos (by norm_num : (0 : ℚ) < 10) d.exp)
    exact_mod_cast hc
  set n := d.coeff.natAbs with hn
  obtain ⟨hlow, -⟩ := excess_spec _ n (lt_pow_log2 n)
  cases hj : excess (Nat.log2 n + 1) n with
  | zero =>
    have hfix : fix d = d := by
      unfold fix
      simp only [← hn]
      rw [hj, if_pos rfl]
    rwa [hfix]
  | succ j =>
    rw [toRat_fix_of_excess (d := d) (by rw [← hn]; exact hj), ← hn]
    have hlow' : 10 ^ (precision - 1 + (j + 1)) ≤ n := by
      rcases hlow with h0 | hlow
      · omega
      · rwa [hj] at hlow
    have hone : d.coeff.sign = 1 := by
      refine Int.sign_eq_one_of_pos ?_
      have : 0 < n := lt_of_lt_of_le (by positivity) hlow'
      omega
    have hvalue : d.toRat = (n : ℚ) * (10 : ℚ) ^ d.exp := by
      unfold toRat
      rw [hn, Nat.cast_natAbs, abs_of_nonneg hcoeff]
    -- `m` steps of the rounding grid stay below the rounded number
    have hsteps : ∀ m : ℕ, m * 10 ^ (j + 1) ≤ n → (m : ℚ) * (10 : ℚ) ^ (d.exp + (j + 1 : ℕ)) ≤
        (d.coeff.sign : ℚ) * (divHalfEven n (10 ^ (j + 1)) : ℕ) *
          (10 : ℚ) ^ (d.exp + (j + 1 : ℕ)) := by
      intro m hm
      rw [hone, Int.cast_one, one_mul]
      refine mul_le_mul_of_nonneg_right ?_ (zpow_nonneg (by norm_num) _)
      have hmq : m ≤ n / 10 ^ (j + 1) := (Nat.le_div_iff_mul_le (by positivity)).mpr hm
      exact_mod_cast hmq.trans (div_le_divHalfEven _ _)
    by_cases hgrid : d.exp + (j + 1 : ℕ) ≤ -k
    · obtain ⟨z, hz⟩ := hy.grid
      obtain ⟨i, hi⟩ : ∃ i : ℕ, -k = d.exp + (j + 1 : ℕ) + i := ⟨(-k - d.exp - (j + 1 : ℕ)).toNat, by omega⟩
      have hz0 : 0 ≤ z := by
        rw [hz] at hpos
        have hc := nonneg_of_mul_nonneg_left hpos (zpow_pos (by norm_num : (0 : ℚ) < 10) (-k))
        exact_mod_cast hc
      obtain ⟨m, rfl⟩ := Int.eq_ofNat_of_zero_le hz0
      have hval : y = ((m * 10 ^ i : ℕ) : ℚ) * (10 : ℚ) ^ (d.exp + (j + 1 : ℕ)) := by
        rw [hz, hi, zpow_add₀ hten (d.exp + (j + 1 : ℕ)) i, zpow_natCast]
        push_cast
        ring
      rw [hval]
      refine hsteps _ ?_
      rw [hval, hvalue, zpow_add₀ hten, zpow_natCast, mul_comm ((10 : ℚ) ^ d.exp), ← mul_assoc] at h
      have hle := le_of_mul_le_mul_right h (zpow_pos (by norm_num : (0 : ℚ) < 10) d.exp)
      exact_mod_cast hle
    · refine le_trans ?_ (hsteps (10 ^ (precision - 1)) (by rw [← pow_add]; exact hlow'))
      have hsmall := hy.small
      rw [abs_of_nonneg hpos] at hsmall
      refine le_of_lt (lt_of_lt_of_le hsmall ?_)
      rw [Nat.cast_pow, Nat.cast_ofNat, ← zpow_natCast, ← zpow_add₀ hten]
      refine zpow_le_zpow_right₀ (by norm_num) ?_
      simp only [precision]
      omega

/-- `v` lies on the grid of `k` decimals. -/
theorem Fits.of_nonneg {k : ℤ} {v : ℚ} (hgrid : ∃ z : ℤ, v = z * (10 : ℚ) ^ (-k)) (hpos : 0 ≤ v)
    (hsmall : v < (10 : ℚ) ^ ((precision : ℤ) - k)) : Fits k v :=
  ⟨hgrid, by rwa [abs_of_nonneg hpos]⟩

/-- **A sum of nonnegative numbers that fits the context is exact**, whatever the order. -/
theorem foldl_add_exact {k : ℤ} (ds : List Decimal) (init : Decimal)
    (hgrid : ∀ d ∈ ds, ∃ z : ℤ, d.toRat = z * (10 : ℚ) ^ (-k)) (hpos : ∀ d ∈ ds, 0 ≤ d.toRat)
    (hinit : ∃ z : ℤ, init.toRat = z * (10 : ℚ) ^ (-k)) (hinit0 : 0 ≤ init.toRat)
    (hsmall : init.toRat + (ds.map toRat).sum < (10 : ℚ) ^ ((precision : ℤ) - k)) :
    (ds.foldl (· + ·) init).toRat = init.toRat + (ds.map toRat).sum := by
  induction ds generalizing init with
  | nil => simp
  | cons d ds ih =>
    obtain ⟨z, hz⟩ := hgrid d List.mem_cons_self
    obtain ⟨w, hw⟩ := hinit
    have hd := hpos d List.mem_cons_self
    have hrest : 0 ≤ (ds.map toRat).sum := by
      refine List.sum_nonneg fun v hv => ?_
      obtain ⟨e, he, rfl⟩ := List.mem_map.mp hv
      exact hpos e (List.mem_cons_of_mem _ he)
    have hnext : ∃ z : ℤ, init.toRat + d.toRat = z * (10 : ℚ) ^ (-k) := ⟨w + z, by
      rw [hz, hw]
      push_cast
      ring⟩
    rw [List.map_cons, List.sum_cons] at hsmall ⊢
    have hsum : (init + d).toRat = init.toRat + d.toRat :=
      add_exact (k := k) (Fits.of_nonneg hnext (by linarith) (by linarith))
    rw [List.foldl_cons, ih (init + d) (fun e he => hgrid e (List.mem_cons_of_mem _ he))
      (fun e he => hpos e (List.mem_cons_of_mem _ he)) (by rwa [hsum]) (by rw [hsum]; linarith)
      (by rw [hsum]; linarith), hsum]
    ring

end Decimal
end BpEngine
