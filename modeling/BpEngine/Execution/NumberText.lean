import BpEngine.Execution.Documents
import BpEngine.Library.DecimalText

/-!
# Reading positional texts

`Decimal(text)` of what `format(value, "f")` wrote: the number itself, with a positive power of ten
written out.

* `unsignedDecimal_mantissa` reads digits with a point among them.
* `decimalOfText_fixedChars` is the round trip for numbers that are not negative.
-/

namespace BpEngine

open Decimal (mantissa)

section Digits

variable {cs : List Char}

theorem toNat_of_isDigit {c : Char} (h : c.isDigit = true) : 48 ≤ c.toNat ∧ c.toNat ≤ 57 := by
  simpa using Char.isDigit_iff_toNat.mp h

theorem digitValue_of_isDigit {c : Char} (h : c.isDigit = true) :
    IsoTime.digitValue c = some (c.toNat - 48) := if_pos (toNat_of_isDigit h)

theorem digitValue_isSome {c : Char} (h : c.isDigit = true) :
    (IsoTime.digitValue c).isSome = true := by
  rw [digitValue_of_isDigit h]
  rfl

/-- Digits are read as the number they stand for. -/
theorem number_of_isDigit (h : ∀ c ∈ cs, c.isDigit = true) :
    IsoTime.number cs = some (Nat.ofDigitChars 10 cs 0) := by
  unfold IsoTime.number
  generalize 0 = start
  induction cs generalizing start with
  | nil => rfl
  | cons c rest ih =>
    rw [List.foldlM_cons, digitValue_of_isDigit (h c List.mem_cons_self)]
    exact ih (fun d hd => h d (List.mem_cons_of_mem _ hd)) _

theorem digitsOf_append {rest : List Char} (h : ∀ c ∈ cs, c.isDigit = true)
    (hrest : digitsOf rest = []) : digitsOf (cs ++ rest) = cs := by
  unfold digitsOf at hrest ⊢
  rw [List.takeWhile_append_of_pos fun c hc => digitValue_isSome (h c hc), hrest, List.append_nil]

theorem digitsOf_self (h : ∀ c ∈ cs, c.isDigit = true) : digitsOf cs = cs := by
  have happend : digitsOf (cs ++ []) = cs := digitsOf_append h rfl
  rwa [List.append_nil] at happend

end Digits

/-- Digits alone. -/
theorem unsignedDecimal_whole {digits : List Char} (hdigits : ∀ c ∈ digits, c.isDigit = true)
    (hne : digits ≠ []) :
    unsignedDecimal digits = some ⟨(Nat.ofDigitChars 10 digits 0 : ℕ), 0⟩ := by
  unfold unsignedDecimal
  simp only [digitsOf_self hdigits, List.drop_length, List.head?_nil, reduceCtorEq, if_false,
    List.append_nil, if_neg hne, number_of_isDigit hdigits]
  rfl

/-- Digits with a point among them. -/
theorem unsignedDecimal_point {whole fraction : List Char} (hwhole : ∀ c ∈ whole, c.isDigit = true)
    (hfraction : ∀ c ∈ fraction, c.isDigit = true) (hne : whole ≠ []) :
    unsignedDecimal (whole ++ '.' :: fraction) =
      some ⟨(Nat.ofDigitChars 10 (whole ++ fraction) 0 : ℕ), -(fraction.length : ℤ)⟩ := by
  have hfront : digitsOf (whole ++ '.' :: fraction) = whole := digitsOf_append hwhole (by rfl)
  have hall : ∀ c ∈ whole ++ fraction, c.isDigit = true := by
    intro c hc
    rcases List.mem_append.mp hc with hc | hc
    · exact hwhole c hc
    · exact hfraction c hc
  unfold unsignedDecimal
  simp only [hfront, List.drop_left, List.head?_cons, List.tail_cons, if_true, digitsOf_self hfraction,
    List.drop_length, List.append_eq_nil_iff, hne, false_and, if_false, number_of_isDigit hall]
  rfl

/-- A mantissa is read as its digits, with the place of its point. -/
theorem unsignedDecimal_mantissa {digits : List Char} (hdigits : ∀ c ∈ digits, c.isDigit = true)
    (hne : digits ≠ []) {place : ℤ} (hplace : place ≤ digits.length) :
    unsignedDecimal (mantissa digits place) =
      some ⟨(Nat.ofDigitChars 10 digits 0 : ℕ), place - digits.length⟩ := by
  have hzeros : ∀ k : ℕ, ∀ c ∈ List.replicate k '0' ++ digits, c.isDigit = true := by
    intro k c hc
    rcases List.mem_append.mp hc with hc | hc
    · rw [List.eq_of_mem_replicate hc]
      rfl
    · exact hdigits c hc
  unfold mantissa
  split_ifs with hneg hlt
  · have hzero : ∀ c ∈ ['0'], c.isDigit = true := by
      intro c hc
      rw [List.mem_singleton.mp hc]
      rfl
    have hread := unsignedDecimal_point hzero (hzeros (-place).toNat) (List.cons_ne_nil _ _)
    rw [List.singleton_append] at hread
    rw [hread, List.singleton_append, Nat.ofDigitChars_cons, Nat.ofDigitChars_append]
    simp only [Nat.mul_zero, Nat.zero_add, Nat.ofDigitChars_replicate_zero, List.length_append,
      List.length_replicate, Option.some.injEq, Decimal.mk.injEq]
    refine ⟨by simp, ?_⟩
    push_cast
    rw [Int.toNat_of_nonneg (by omega)]
    ring
  · have hwhole : ∀ c ∈ digits.take place.toNat, c.isDigit = true :=
      fun c hc => hdigits c (List.mem_of_mem_take hc)
    have hfraction : ∀ c ∈ digits.drop place.toNat, c.isDigit = true :=
      fun c hc => hdigits c (List.mem_of_mem_drop hc)
    have hfront : digits.take place.toNat ≠ [] := by
      rw [ne_eq, List.take_eq_nil_iff, not_or]
      exact ⟨by omega, hne⟩
    have hread := unsignedDecimal_point hwhole hfraction hfront
    rw [hread, List.take_append_drop, List.length_drop]
    simp only [Option.some.injEq, Decimal.mk.injEq, true_and]
    omega
  · have hend : place - digits.length = 0 := by omega
    rw [unsignedDecimal_whole hdigits hne, hend]

/-! ## Positional texts -/

/-- What has no blanks is not stripped. -/
theorem stripChars_of_all {l : List Char} (h : ∀ c ∈ l, isSpace c = false) : stripChars l = l := by
  have hdrop : ∀ l : List Char, (∀ c ∈ l, isSpace c = false) → l.dropWhile isSpace = l := by
    intro l hl
    cases l with
    | nil => rfl
    | cons c rest => exact List.dropWhile_cons_of_neg (by simp [hl c List.mem_cons_self])
  unfold stripChars
  rw [hdrop l h, hdrop l.reverse fun c hc => h c (List.mem_reverse.mp hc), List.reverse_reverse]

/-- A text without blanks is not stripped. -/
theorem strip_of_all {value : String} (h : ∀ c ∈ value.toList, isSpace c = false) :
    strip value = value := by
  unfold strip
  split_ifs
  · rfl
  · rw [stripChars_of_all h, String.ofList_toList]

/-- A digit or a point is no blank, no underscore and no sign, and no capital. -/
theorem plain_of_digit {c : Char} (h : c.isDigit = true ∨ c = '.') :
    isSpace c = false ∧ c ≠ '_' ∧ c ≠ '-' ∧ c ≠ '+' ∧ c ≠ 'i' ∧ c ≠ 'n' ∧ c ≠ 's' ∧
      c.toLower = c := by
  have hcode : 46 ≤ c.toNat ∧ c.toNat ≤ 57 := by
    rcases h with h | rfl
    · have hbounds := toNat_of_isDigit h
      omega
    · decide
  have hne : ∀ d : Char, d.toNat < 46 ∨ 57 < d.toNat → c ≠ d := by
    rintro d hd rfl
    omega
  refine ⟨?_, hne _ (by decide), hne _ (by decide), hne _ (by decide), hne _ (by decide),
    hne _ (by decide), hne _ (by decide), ?_⟩
  · simp only [isSpace, Bool.or_eq_false_iff, Bool.and_eq_false_iff, decide_eq_false_iff_not,
      beq_eq_false_iff_ne]
    omega
  · unfold Char.toLower
    rw [dif_neg]
    intro hupper
    have hlow : 65 ≤ c.toNat := hupper.1
    omega

variable {d : Decimal}

/-- A number that is not negative has no sign. -/
theorem fixedChars_of_nonneg (h : 0 ≤ d.formatF.coeff) :
    d.fixedChars = mantissa d.formatF.digitChars (d.formatF.exp + d.formatF.digitChars.length) := by
  unfold Decimal.fixedChars Decimal.signOf
  rw [if_neg (not_lt.mpr h), List.nil_append]

/-- The characters of a number that is not negative. -/
theorem mem_fixedChars_of_nonneg (h : 0 ≤ d.formatF.coeff) {c : Char} (hc : c ∈ d.fixedChars) :
    c.isDigit = true ∨ c = '.' := by
  rw [fixedChars_of_nonneg h] at hc
  exact Decimal.mem_mantissa (fun c hc => Decimal.isDigit_of_mem_digitChars hc) hc

/-- **A positional text is read as the number it shows.** -/
theorem decimalOfText_fixedChars (h : 0 ≤ d.formatF.coeff) :
    decimalOfText (String.ofList d.fixedChars) = some (.finite d.formatF) := by
  have hplain : ∀ c ∈ d.fixedChars, _ := fun c hc => plain_of_digit (mem_fixedChars_of_nonneg h hc)
  have hdigits : ∀ c ∈ d.formatF.digitChars, c.isDigit = true :=
    fun c hc => Decimal.isDigit_of_mem_digitChars hc
  have hne : d.formatF.digitChars ≠ [] := List.ne_nil_of_length_pos d.formatF.length_digitChars_pos
  have hexp := Decimal.formatF_exp d
  have hread : unsignedDecimal d.fixedChars = some d.formatF := by
    rw [fixedChars_of_nonneg h, unsignedDecimal_mantissa hdigits hne (by omega)]
    have hcoeff : ((Nat.ofDigitChars 10 d.formatF.digitChars 0 : ℕ) : ℤ) = d.formatF.coeff := by
      unfold Decimal.digitChars
      rw [Nat.ofDigitChars_ten_toDigits]
      exact Int.natAbs_of_nonneg h
    rw [hcoeff]
    simp
  have hstrip : stripChars d.fixedChars = d.fixedChars := stripChars_of_all fun c hc => (hplain c hc).1
  have hfilter : d.fixedChars.filter (· ≠ '_') = d.fixedChars :=
    List.filter_eq_self.mpr fun c hc => by simpa using (hplain c hc).2.1
  have hlower : d.fixedChars.map Char.toLower = d.fixedChars := by
    have hid : d.fixedChars.map Char.toLower = d.fixedChars.map id :=
      List.map_congr_left fun c hc => (hplain c hc).2.2.2.2.2.2.2
    rw [hid, List.map_id]
  have hnonempty : d.fixedChars ≠ [] := by
    intro hnil
    rw [hnil] at hread
    cases hread
  obtain ⟨c, rest, hcons⟩ := List.exists_cons_of_ne_nil hnonempty
  obtain ⟨-, -, hminus, hplus, hi, hn, hs, -⟩ := hplain c (hcons ▸ List.mem_cons_self)
  unfold decimalOfText
  rw [String.toList_ofList, hstrip, hfilter]
  rw [hcons] at hlower hread ⊢
  have hwords : ∀ letters : List Char, letters.head? ≠ some c → ¬ c :: rest = letters ∧
      ¬ (letters ≠ [] ∧ (c :: rest).take letters.length = letters) := by
    intro letters hhead
    cases letters with
    | nil => exact ⟨List.cons_ne_nil _ _, fun h => h.1 rfl⟩
    | cons first others =>
      have hfirst : ¬ c = first := fun heq => hhead (by rw [heq]; rfl)
      simp [hfirst]
  have hinf := (hwords "inf".toList (by simpa using Ne.symm hi)).1
  have hinfinity := (hwords "infinity".toList (by simpa using Ne.symm hi)).1
  have hnan := (hwords "nan".toList (by simpa using Ne.symm hn)).2
  have hsnan := (hwords "snan".toList (by simpa using Ne.symm hs)).2
  have hnan' : ¬ (c :: rest).take "nan".toList.length = "nan".toList :=
    fun heq => hnan ⟨by decide, heq⟩
  have hsnan' : ¬ (c :: rest).take "snan".toList.length = "snan".toList :=
    fun heq => hsnan ⟨by decide, heq⟩
  simp only [List.head?_cons, Option.some.injEq, hminus, hplus, decide_false, Bool.false_eq_true,
    or_self, if_false, hlower, hinf, hinfinity, hnan', hsnan', false_and, hread, Option.map_some]

end BpEngine
