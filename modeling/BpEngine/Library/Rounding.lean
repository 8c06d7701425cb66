import BpEngine.Library.Decimal

/-!
# Rounding errors

How far an operation of the context can be from the exact one.

* `abs_fix_sub_le`: rounding changes a number by at most the fraction `roundoff` of it.
* `fix_nonneg_iff`, `fix_pos_iff`: it keeps the sign, and rounds nothing but zero to zero.
* `slack` is a factor that covers the rounding of one operation, up or down (`fix_le_mul_slack`,
  `le_fix_mul_slack`); `div_le` and `quantizeDown_le` bound a quotient, `foldl_add_le` a sum.
-/

namespace BpEngine.Decimal

/-- Half a unit in the last of the context's digits, for a number that begins with a one. -/
def roundoff : ℚ := 5 / 10 ^ precision

theorem roundoff_nonneg : 0 ≤ roundoff := by
  unfold roundoff
  positivity

theorem roundoff_lt_one : roundoff < 1 := by
  norm_num [roundoff, precision]

@[simp] theorem toRat_one : (1 : Decimal).toRat = 1 := by
  change (ofInt 1).toRat = 1
  simp

theorem toRat_min' (a b : Decimal) : (min' a b).toRat = min a.toRat b.toRat := by
  unfold min'
  split_ifs with h
  · rw [min_eq_right (le_of_lt (lt_iff.mp h))]
  · rw [min_eq_left (not_lt.mp fun hlt => h (lt_iff.mpr hlt))]

theorem two_mul_divHalfEven_le {n p : ℕ} (hp : 0 < p) :
    2 * (divHalfEven n p * p) ≤ 2 * n + p ∧ 2 * n ≤ 2 * (divHalfEven n p * p) + p := by
  have hsplit := Nat.div_add_mod n p
  have hmod := Nat.mod_lt n hp
  have hup : (n / p + 1) * p = p * (n / p) + p := by ring
  have hdown : n / p * p = p * (n / p) := mul_comm _ _
  unfold divHalfEven
  dsimp only
  split_ifs with h
  · rw [hup]
    omega
  · rw [hdown]
    omega

/-- **Rounding changes a number by a small fraction of it.** -/
theorem abs_fix_sub_le (d : Decimal) :
    |(fix d).toRat - d.toRat| ≤ roundoff * |d.toRat| := by
  set n := d.coeff.natAbs with hn
  obtain ⟨hlow, -⟩ := excess_spec _ n (lt_pow_log2 n)
  cases hj : excess (Nat.log2 n + 1) n with
  | zero =>
    have hfix : fix d = d := by
      unfold fix
      simp only [← hn]
      rw [hj, if_pos rfl]
    rw [hfix, sub_self, abs_zero]
    exact mul_nonneg roundoff_nonneg (abs_nonneg _)
  | succ j =>
    rw [hj] at hlow
    have hlarge : 10 ^ (precision - 1 + (j + 1)) ≤ n := hlow.resolve_left (by omega)
    have hten : (10 : ℚ) ≠ 0 := by norm_num
    have hpow : (0 : ℚ) < 10 ^ d.exp := zpow_pos (by norm_num) _
    have hvalue : |d.toRat| = n * (10 : ℚ) ^ d.exp := by
      rw [toRat, abs_mul, abs_of_pos hpow, hn, Nat.cast_natAbs, Int.cast_abs]
    have hsign : (d.coeff : ℚ) = d.coeff.sign * n := by
      have hc := congrArg (Int.cast : ℤ → ℚ) (Int.sign_mul_natAbs d.coeff)
      rw [Int.cast_mul, Int.cast_natCast] at hc
      exact hc.symm
    -- what is rounded away is at most half a step of the rounding grid
    obtain ⟨hup, hdown⟩ := two_mul_divHalfEven_le (n := n) (p := 10 ^ (j + 1)) (by positivity)
    have hstep : |(divHalfEven n (10 ^ (j + 1)) : ℚ) * 10 ^ (j + 1) - n| ≤ 10 ^ (j + 1) / 2 := by
      have hup' : (2 : ℚ) * (divHalfEven n (10 ^ (j + 1)) * 10 ^ (j + 1)) ≤
          2 * n + 10 ^ (j + 1) := by exact_mod_cast hup
      have hdown' : (2 : ℚ) * n ≤
          2 * (divHalfEven n (10 ^ (j + 1)) * 10 ^ (j + 1)) + 10 ^ (j + 1) := by
        exact_mod_cast hdown
      rw [abs_le]
      constructor <;> linarith
    have hgrid : (10 : ℚ) ^ (j + 1) / 2 ≤ roundoff * n := by
      have hlarge' : (10 : ℚ) ^ 27 * 10 ^ (j + 1) ≤ n := by
        rw [← pow_add]
        exact_mod_cast hlarge
      have hroundoff : roundoff * (10 : ℚ) ^ 27 = 1 / 2 := by norm_num [roundoff, precision]
      calc (10 : ℚ) ^ (j + 1) / 2 = roundoff * (10 ^ 27 * 10 ^ (j + 1)) := by
            rw [← mul_assoc, hroundoff]
            ring
        _ ≤ roundoff * n := mul_le_mul_of_nonneg_left hlarge' roundoff_nonneg
    have herror : (fix d).toRat - d.toRat =
        d.coeff.sign * ((divHalfEven n (10 ^ (j + 1)) : ℚ) * 10 ^ (j + 1) - n) * 10 ^ d.exp := by
      rw [toRat_fix_of_excess (d := d) (by rw [← hn]; exact hj), ← hn, toRat, hsign,
        zpow_add₀ hten, zpow_natCast]
      ring
    have hone : |(d.coeff.sign : ℚ)| ≤ 1 := by
      rcases Int.sign_trichotomy d.coeff with h | h | h <;> rw [h] <;> norm_num
    rw [herror, abs_mul, abs_mul, abs_of_pos hpow, hvalue, ← mul_assoc]
    refine mul_le_mul_of_nonneg_right ?_ hpow.le
    calc |(d.coeff.sign : ℚ)| * |(divHalfEven n (10 ^ (j + 1)) : ℚ) * 10 ^ (j + 1) - n|
        ≤ 1 * (10 ^ (j + 1) / 2) := mul_le_mul hone hstep (abs_nonneg _) (by norm_num)
      _ ≤ roundoff * n := by rw [one_mul]; exact hgrid

theorem fix_le_of_nonneg {d : Decimal} (h : 0 ≤ d.toRat) :
    (fix d).toRat ≤ d.toRat * (1 + roundoff) := by
  have herror := (abs_le.mp (abs_fix_sub_le d)).2
  rw [abs_of_nonneg h] at herror
  linarith

theorem le_fix_of_nonneg {d : Decimal} (h : 0 ≤ d.toRat) :
    d.toRat * (1 - roundoff) ≤ (fix d).toRat := by
  have herror := (abs_le.mp (abs_fix_sub_le d)).1
  rw [abs_of_nonneg h] at herror
  linarith

theorem fix_pos {d : Decimal} (h : 0 < d.toRat) : 0 < (fix d).toRat :=
  lt_of_lt_of_le (mul_pos h (by linarith [roundoff_lt_one])) (le_fix_of_nonneg h.le)

theorem fix_nonneg {d : Decimal} (h : 0 ≤ d.toRat) : 0 ≤ (fix d).toRat :=
  le_trans (mul_nonneg h (by linarith [roundoff_lt_one])) (le_fix_of_nonneg h)

/-! ## Operations on numbers that are not negative -/

theorem toRat_rawSub (a b : Decimal) : (rawAdd a (neg b)).toRat = a.toRat - b.toRat := by
  have hneg := toRat_neg b
  change (neg b).toRat = -b.toRat at hneg
  rw [toRat_rawAdd, hneg, sub_eq_add_neg]

theorem le_sub_of_nonneg {a b : Decimal} (h : b.toRat ≤ a.toRat) :
    (a.toRat - b.toRat) * (1 - roundoff) ≤ (a - b).toRat := by
  have := le_fix_of_nonneg (d := rawAdd a (neg b)) (by rw [toRat_rawSub]; linarith)
  rwa [toRat_rawSub] at this

theorem sub_nonneg {a b : Decimal} (h : b.toRat ≤ a.toRat) : 0 ≤ (a - b).toRat :=
  le_trans (mul_nonneg (by linarith) (by linarith [roundoff_lt_one])) (le_sub_of_nonneg h)

/-! ## One factor for each operation -/

/-- A factor that covers the rounding of one operation. -/
def slack : ℚ := 1 + 1 / 10 ^ 27

theorem one_le_slack : 1 ≤ slack := by norm_num [slack]

theorem slack_pos : 0 < slack := lt_of_lt_of_le one_pos one_le_slack

theorem one_le_slack_pow (n : ℕ) : 1 ≤ slack ^ n := one_le_pow₀ one_le_slack

/-- A number that is at most `y` is rounded to at most `y`, up to one factor. -/
theorem fix_le_mul_slack {d : Decimal} {y : ℚ} (h : d.toRat ≤ y) (hy : 0 ≤ y) :
    (fix d).toRat ≤ y * slack := by
  have hfactor : 1 + roundoff ≤ slack := by norm_num [slack, roundoff, precision]
  rcases le_total 0 d.toRat with hpos | hneg
  · calc (fix d).toRat ≤ d.toRat * (1 + roundoff) := fix_le_of_nonneg hpos
      _ ≤ y * slack := mul_le_mul h hfactor (by linarith [roundoff_nonneg]) hy
  · have herror := (abs_le.mp (abs_fix_sub_le d)).2
    rw [abs_of_nonpos hneg] at herror
    have hnonpos : d.toRat * (1 - roundoff) ≤ 0 :=
      mul_nonpos_of_nonpos_of_nonneg hneg (by linarith [roundoff_lt_one])
    have := mul_nonneg hy slack_pos.le
    linarith

/-- A number that is not negative is at most what it is rounded to, up to one factor. -/
theorem le_fix_mul_slack {d : Decimal} (h : 0 ≤ d.toRat) : d.toRat ≤ (fix d).toRat * slack := by
  have hfactor : 1 ≤ (1 - roundoff) * slack := by norm_num [slack, roundoff, precision]
  calc d.toRat ≤ d.toRat * ((1 - roundoff) * slack) := le_mul_of_one_le_right h hfactor
    _ = d.toRat * (1 - roundoff) * slack := by ring
    _ ≤ (fix d).toRat * slack := mul_le_mul_of_nonneg_right (le_fix_of_nonneg h) slack_pos.le

theorem add_le_mul_slack {a b : Decimal} {y : ℚ} (h : a.toRat + b.toRat ≤ y) (hy : 0 ≤ y) :
    (a + b).toRat ≤ y * slack := fix_le_mul_slack (d := rawAdd a b) (by rwa [toRat_rawAdd]) hy

theorem sub_le_mul_slack {a b : Decimal} {y : ℚ} (h : a.toRat - b.toRat ≤ y) (hy : 0 ≤ y) :
    (a - b).toRat ≤ y * slack :=
  fix_le_mul_slack (d := rawAdd a (neg b)) (by rwa [toRat_rawSub]) hy

theorem mul_le_mul_slack {a b : Decimal} {y : ℚ} (h : a.toRat * b.toRat ≤ y) (hy : 0 ≤ y) :
    (a * b).toRat ≤ y * slack := fix_le_mul_slack (d := rawMul a b) (by rwa [toRat_rawMul]) hy

theorem le_add_mul_slack {a b : Decimal} (h : 0 ≤ a.toRat + b.toRat) :
    a.toRat + b.toRat ≤ (a + b).toRat * slack := by
  have := le_fix_mul_slack (d := rawAdd a b) (by rwa [toRat_rawAdd])
  rwa [toRat_rawAdd] at this

theorem le_sub_mul_slack {a b : Decimal} (h : b.toRat ≤ a.toRat) :
    a.toRat - b.toRat ≤ (a - b).toRat * slack := by
  have := le_fix_mul_slack (d := rawAdd a (neg b)) (by rw [toRat_rawSub]; linarith)
  rwa [toRat_rawSub] at this

theorem le_mul_mul_slack {a b : Decimal} (h : 0 ≤ a.toRat * b.toRat) :
    a.toRat * b.toRat ≤ (a * b).toRat * slack := by
  have := le_fix_mul_slack (d := rawMul a b) (by rwa [toRat_rawMul])
  rwa [toRat_rawMul] at this

theorem mul_nonneg' {a b : Decimal} (h : 0 ≤ a.toRat * b.toRat) : 0 ≤ (a * b).toRat :=
  fix_nonneg (d := rawMul a b) (by rwa [toRat_rawMul])

/-- **A sum** of numbers below given ones is below their sum, up to one factor for each of them. -/
theorem foldl_add_le {ds : List Decimal} {ys : List ℚ} (init : Decimal) {y : ℚ}
    (h : List.Forall₂ (fun d y => d.toRat ≤ y ∧ 0 ≤ y) ds ys) (hinit : init.toRat ≤ y) (hy : 0 ≤ y) :
    (ds.foldl (· + ·) init).toRat ≤ (y + ys.sum) * slack ^ ds.length := by
  have hnonneg : ∀ {ds : List Decimal} {ys : List ℚ},
      List.Forall₂ (fun d y => d.toRat ≤ y ∧ 0 ≤ y) ds ys → 0 ≤ ys.sum := by
    intro ds ys h
    induction h with
    | nil => simp
    | cons hfirst _ ih =>
      rw [List.sum_cons]
      linarith [hfirst.2]
  induction h generalizing init y with
  | nil => simpa using hinit
  | @cons d first ds ys hfirst hrest ih =>
    have hsum : 0 ≤ ys.sum := hnonneg hrest
    have hstep : (init + d).toRat ≤ (y + first) * slack :=
      add_le_mul_slack (by linarith [hfirst.1]) (by linarith [hfirst.2])
    have hstep0 : 0 ≤ (y + first) * slack := mul_nonneg (by linarith [hfirst.2]) slack_pos.le
    rw [List.foldl_cons, List.length_cons, List.sum_cons]
    calc (ds.foldl (· + ·) (init + d)).toRat
        ≤ ((y + first) * slack + ys.sum) * slack ^ ds.length := ih _ hstep hstep0
      _ ≤ ((y + first) * slack + ys.sum * slack) * slack ^ ds.length := by
          have := le_mul_of_one_le_right hsum one_le_slack
          exact mul_le_mul_of_nonneg_right (by linarith) (pow_nonneg slack_pos.le _)
      _ = (y + (first + ys.sum)) * slack ^ (ds.length + 1) := by ring

/-! ## Quotients -/

theorem toRat_stripZeros (ideal : ℤ) (fuel : ℕ) (d : Decimal) :
    (stripZeros ideal fuel d).toRat = d.toRat := by
  induction fuel generalizing d with
  | zero => rfl
  | succ fuel ih =>
    unfold stripZeros
    split_ifs with h
    · rw [ih, toRat, toRat, zpow_add₀ (by norm_num : (10 : ℚ) ≠ 0)]
      have hdiv : (d.coeff : ℚ) = (d.coeff / 10 : ℤ) * 10 := by
        have hmul : d.coeff / 10 * 10 = d.coeff := Int.ediv_mul_cancel (Int.dvd_of_emod_eq_zero h.2)
        exact_mod_cast hmul.symm
      rw [hdiv]
      push_cast
      ring
    · rfl

theorem pow_digits_le {n : ℕ} (hn : 0 < n) : 10 ^ (digits n - 1) ≤ n := by
  by_contra hlt
  rcases Nat.eq_zero_or_pos (digits n - 1) with h | h
  · rw [h] at hlt
    omega
  · have hle := (Nat.length_toDigits_le_iff (by norm_num : 1 < 10) h).mpr (not_le.mp hlt)
    unfold digits at h hle
    omega

theorem lt_pow_digits (n : ℕ) : n < 10 ^ digits n :=
  (Nat.length_toDigits_le_iff (by norm_num) Nat.length_toDigits_pos).mp le_rfl

/-- **A quotient** is rounded to at most the exact one, up to two factors. -/
theorem div_le {a b c : Decimal} (h : div a b = some c) (ha : 0 < a.toRat) (hb : 0 < b.toRat) :
    c.toRat ≤ a.toRat / b.toRat * slack ^ 2 := by
  have hten : (10 : ℚ) ≠ 0 := by norm_num
  have hcoeff : ∀ {d : Decimal}, 0 < d.toRat → 0 < d.coeff := by
    intro d hd
    have hc := pos_of_mul_pos_left hd (zpow_nonneg (by norm_num : (0 : ℚ) ≤ 10) d.exp)
    exact_mod_cast hc
  have hvalue : ∀ {d : Decimal}, 0 < d.coeff → d.toRat = d.coeff.natAbs * (10 : ℚ) ^ d.exp := by
    intro d hd
    rw [toRat, Nat.cast_natAbs, abs_of_pos hd]
  have ha0 := hcoeff ha
  have hb0 := hcoeff hb
  have hav := hvalue ha0
  have hbv := hvalue hb0
  unfold div at h
  rw [if_neg (by omega), if_neg (by omega), Int.sign_eq_one_of_pos ha0, Int.sign_eq_one_of_pos hb0] at h
  simp only [one_mul] at h
  set A := a.coeff.natAbs with hA
  set B := b.coeff.natAbs with hB
  have hA0 : 0 < A := by omega
  have hB0 : 0 < B := by omega
  set shift : ℤ := digits B - digits A + precision + 1 with hshift
  set n := A * 10 ^ shift.toNat with hn
  set m := B * 10 ^ (-shift).toNat with hm
  have hm0 : 0 < m := by positivity
  have hmq : (0 : ℚ) < m := by exact_mod_cast hm0
  -- the scaled quotient is the quotient, moved by `shift` digits
  have hquotient : a.toRat / b.toRat = (n : ℚ) / m * 10 ^ (a.exp - b.exp - shift) := by
    have hpow : (10 : ℚ) ^ shift.toNat = 10 ^ shift * 10 ^ (-shift).toNat := by
      rw [← zpow_natCast (10 : ℚ) shift.toNat, ← zpow_natCast (10 : ℚ) (-shift).toNat,
        ← zpow_add₀ hten]
      congr 1
      omega
    have hBq : (B : ℚ) ≠ 0 := by exact_mod_cast hB0.ne'
    have hexp : (10 : ℚ) ^ (a.exp - b.exp - shift) * 10 ^ shift * 10 ^ b.exp = 10 ^ a.exp := by
      rw [← zpow_add₀ hten, ← zpow_add₀ hten]
      congr 1
      ring
    rw [hav, hbv, hn, hm]
    push_cast
    rw [hpow, ← hexp]
    have h1 : (10 : ℚ) ^ b.exp ≠ 0 := zpow_ne_zero _ hten
    have h2 : (10 : ℚ) ^ (-shift).toNat ≠ 0 := pow_ne_zero _ hten
    field_simp
  have hscale : (0 : ℚ) < 10 ^ (a.exp - b.exp - shift) := zpow_pos (by norm_num) _
  have hlarge : 10 ^ 28 * m ≤ n := by
    have hlow := pow_digits_le hA0
    have hhigh := (lt_pow_digits B).le
    have hdigits : 0 < digits A := Nat.length_toDigits_pos
    rw [hn, hm]
    rcases le_total 0 shift with hs | hs
    · have hzero : (-shift).toNat = 0 := by omega
      rw [hzero, pow_zero, mul_one]
      calc 10 ^ 28 * B ≤ 10 ^ 28 * 10 ^ digits B := Nat.mul_le_mul_left _ hhigh
        _ = 10 ^ (digits A - 1) * 10 ^ shift.toNat := by
          rw [← pow_add, ← pow_add]
          congr 1
          simp only [precision] at hshift
          omega
        _ ≤ A * 10 ^ shift.toNat := Nat.mul_le_mul_right _ hlow
    · have hzero : shift.toNat = 0 := by omega
      rw [hzero, pow_zero, mul_one]
      calc 10 ^ 28 * (B * 10 ^ (-shift).toNat)
          ≤ 10 ^ 28 * (10 ^ digits B * 10 ^ (-shift).toNat) :=
            Nat.mul_le_mul_left _ (Nat.mul_le_mul_right _ hhigh)
        _ = 10 ^ (digits A - 1) := by
          rw [← pow_add, ← pow_add]
          congr 1
          simp only [precision] at hshift
          omega
        _ ≤ A := hlow
  have hratio : (10 : ℚ) ^ 28 ≤ n / m := by
    rw [le_div_iff₀ hmq]
    exact_mod_cast hlarge
  -- what is rounded is at most one more than the integer part
  have hround : ∀ {d : Decimal} {q : ℕ}, c = fix d → d.toRat = q * (10 : ℚ) ^ (a.exp - b.exp - shift) →
      q ≤ n / m + 1 → c.toRat ≤ a.toRat / b.toRat * slack ^ 2 := by
    intro d q hc hd hq
    have hqm : (q : ℚ) ≤ (n : ℚ) / m * slack := by
      have hfloor : ((n / m : ℕ) : ℚ) ≤ n / m := Nat.cast_div_le
      have hq' : (q : ℚ) ≤ (n / m : ℕ) + 1 := by exact_mod_cast hq
      have hone : (1 : ℚ) ≤ (n : ℚ) / m * (1 / 10 ^ 27) := by
        have : (1 : ℚ) ≤ 10 ^ 28 * (1 / 10 ^ 27) := by norm_num
        exact this.trans (mul_le_mul_of_nonneg_right hratio (by norm_num))
      unfold slack
      rw [mul_add, mul_one]
      linarith
    have hy : (0 : ℚ) ≤ n / m * slack * 10 ^ (a.exp - b.exp - shift) := by
      have := slack_pos
      positivity
    have hle : d.toRat ≤ n / m * slack * 10 ^ (a.exp - b.exp - shift) := by
      rw [hd]
      exact mul_le_mul_of_nonneg_right hqm hscale.le
    rw [hc, hquotient]
    refine (fix_le_mul_slack hle hy).trans (le_of_eq ?_)
    ring
  split_ifs at h with hexact hfive
  · cases h
    refine hround rfl ?_ (Nat.le_succ (n / m))
    rw [toRat_stripZeros, toRat]
    push_cast
    rfl
  · cases h
    refine hround rfl ?_ le_rfl
    rw [toRat]
    push_cast
    rfl
  · cases h
    refine hround rfl ?_ (Nat.le_succ (n / m))
    rw [toRat]
    push_cast
    rfl

/-- A positive number that was rounded down is at most what it was rounded from. -/
theorem quantizeDown_le {d c : Decimal} {e : ℤ} (h : quantizeDown d e = some c)
    (hc : 0 < c.toRat) : c.toRat ≤ d.toRat := by
  unfold quantizeDown at h
  dsimp only at h
  split_ifs at h with hexp hsmall hsmall
  · cases h
    exact (toRat_align hexp).le
  · cases h
    have hten : (10 : ℚ) ≠ 0 := by norm_num
    have hpow : (0 : ℚ) < 10 ^ d.exp := zpow_pos (by norm_num) _
    obtain ⟨j, hj⟩ : ∃ j : ℕ, e = d.exp + j := ⟨(e - d.exp).toNat, by omega⟩
    have hjn : (e - d.exp).toNat = j := by omega
    have hcoeff : 0 ≤ d.coeff := by
      have hpos := pos_of_mul_pos_left hc (zpow_nonneg (by norm_num : (0 : ℚ) ≤ 10) e)
      have hquotient : 0 < d.coeff.tdiv (10 ^ (e - d.exp).toNat) := by exact_mod_cast hpos
      by_contra hneg
      have hnonneg : 0 ≤ (-d.coeff).tdiv (10 ^ (e - d.exp).toNat) :=
        Int.tdiv_nonneg (by omega) (by positivity)
      rw [Int.neg_tdiv] at hnonneg
      omega
    rw [toRat, toRat, hj, zpow_add₀ hten, zpow_natCast]
    have hle : d.coeff.tdiv (10 ^ j) * 10 ^ j ≤ d.coeff := by
      rw [Int.tdiv_eq_ediv_of_nonneg hcoeff]
      exact Int.ediv_mul_le _ (by positivity)
    have hleq : (d.coeff.tdiv (10 ^ j) : ℚ) * 10 ^ j ≤ d.coeff := by exact_mod_cast hle
    have hsame : d.exp + (j : ℤ) - d.exp = j := by ring
    rw [hsame, Int.toNat_natCast]
    calc (d.coeff.tdiv (10 ^ j) : ℚ) * (10 ^ d.exp * 10 ^ j)
        = d.coeff.tdiv (10 ^ j) * 10 ^ j * 10 ^ d.exp := by ring
      _ ≤ d.coeff * 10 ^ d.exp := mul_le_mul_of_nonneg_right hleq hpow.le

end BpEngine.Decimal
