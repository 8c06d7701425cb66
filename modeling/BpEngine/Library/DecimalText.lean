import BpEngine.Library.Decimal

/-!
# Decimals as texts

The scientific text of a decimal number: the digits of the coefficient with a point at the place the
exponent gives, or, when the exponent is positive or the number is small, after the first digit and
with a power of ten.

* `text` is `str` of a finite decimal.
* `readBack` reads the form from the characters; `readBack_chars` says that it is the one that was
  written, so a text is the text of one form only (`text_injective`).
* `fixedChars` is the positional text, without a power of ten; `readBack_fixedChars` reads it back.
-/

namespace BpEngine.Decimal

/-- The digits with the point after the first `place` of them. -/
def mantissa (digits : List Char) (place : ℤ) : List Char :=
  if place ≤ 0 then '0' :: '.' :: (List.replicate (-place).toNat '0' ++ digits)
  else if place < digits.length then digits.take place.toNat ++ '.' :: digits.drop place.toNat
  else digits

/-- The power of ten, which is left out when it is zero. -/
def power (n : ℤ) : List Char :=
  if n = 0 then [] else 'E' :: (if n < 0 then '-' else '+') :: Nat.toDigits 10 n.natAbs

/-- The sign of a negative number. -/
def signOf (coeff : ℤ) : List Char := if coeff < 0 then ['-'] else []

/-- The digits of the coefficient. -/
def digitChars (d : Decimal) : List Char := Nat.toDigits 10 d.coeff.natAbs

/-- Where the point is: at its own place, unless that takes a power of ten. -/
def place (d : Decimal) : ℤ :=
  if d.exp ≤ 0 ∧ -6 < d.exp + d.digitChars.length then d.exp + d.digitChars.length else 1

def chars (d : Decimal) : List Char :=
  signOf d.coeff ++ mantissa d.digitChars d.place ++ power (d.exp + d.digitChars.length - d.place)

/-- `str(d)`. -/
def text (d : Decimal) : String := String.ofList d.chars

example : text ⟨50, -2⟩ = "0.50" := by decide +kernel

example : text ⟨-12, 3⟩ = "-1.2E+4" := by decide +kernel

/-! ## Reading a text back -/

/-- The power of ten after the `E`. -/
def readPower (cs : List Char) : ℤ :=
  match cs.dropWhile (· ≠ 'E') with
  | _ :: sign :: digits =>
    if sign = '-' then -(Nat.ofDigitChars 10 digits 0 : ℤ) else Nat.ofDigitChars 10 digits 0
  | _ => 0

/-- The number of digits after the point. -/
def readScale (cs : List Char) : ℕ :=
  ((cs.takeWhile (· ≠ 'E')).dropWhile (· ≠ '.')).length - 1

/-- The digits, without the point, as a number. -/
def readCoeff (cs : List Char) : ℤ :=
  if cs.head? = some '-' then -(Nat.ofDigitChars 10 ((cs.takeWhile (· ≠ 'E')).filter Char.isDigit) 0 : ℤ)
  else Nat.ofDigitChars 10 ((cs.takeWhile (· ≠ 'E')).filter Char.isDigit) 0

def readBack (cs : List Char) : Decimal := ⟨readCoeff cs, readPower cs - readScale cs⟩

theorem isDigit_of_mem_digitChars {d : Decimal} {c : Char} (h : c ∈ d.digitChars) :
    c.isDigit = true := Nat.isDigit_of_mem_toDigits (by decide) (by decide) h

theorem length_digitChars_pos (d : Decimal) : 0 < d.digitChars.length := Nat.length_toDigits_pos

/-- The point is at the end of the digits at the latest. -/
theorem place_le (d : Decimal) : d.place ≤ d.digitChars.length := by
  have hpos := d.length_digitChars_pos
  unfold place
  split_ifs with h
  · omega
  · omega

/-- The characters of a mantissa are digits, and the point when it stands before the end. -/
theorem mem_mantissa {digits : List Char} (hdigits : ∀ c ∈ digits, c.isDigit = true) {place : ℤ}
    {c : Char} (h : c ∈ mantissa digits place) : c.isDigit = true ∨ c = '.' := by
  unfold mantissa at h
  split_ifs at h
  · simp only [List.mem_cons, List.mem_append, List.mem_replicate] at h
    rcases h with rfl | rfl | ⟨-, rfl⟩ | h
    · exact .inl rfl
    · exact .inr rfl
    · exact .inl rfl
    · exact .inl (hdigits c h)
  · rcases List.mem_append.mp h with h | h
    · exact .inl (hdigits c (List.mem_of_mem_take h))
    · rcases List.mem_cons.mp h with rfl | h
      · exact .inr rfl
      · exact .inl (hdigits c (List.mem_of_mem_drop h))
  · exact .inl (hdigits c h)

theorem dropWhile_of_all {p : Char → Bool} {l : List Char} (h : ∀ c ∈ l, p c = true) :
    l.dropWhile p = [] := by
  have hnil : (l ++ []).dropWhile p = ([] : List Char).dropWhile p := List.dropWhile_append_of_pos h
  rwa [List.append_nil] at hnil

theorem mantissa_ne_nil (d : Decimal) : mantissa d.digitChars d.place ≠ [] := by
  unfold mantissa
  split_ifs
  · exact List.cons_ne_nil _ _
  · exact List.append_ne_nil_of_right_ne_nil _ (List.cons_ne_nil _ _)
  · exact List.ne_nil_of_length_pos d.length_digitChars_pos

/-- The value of the digits of a mantissa. -/
theorem value_mantissa {digits : List Char} (hdigits : ∀ c ∈ digits, c.isDigit = true) (place : ℤ) :
    Nat.ofDigitChars 10 ((mantissa digits place).filter Char.isDigit) 0 =
      Nat.ofDigitChars 10 digits 0 := by
  have hall : digits.filter Char.isDigit = digits := List.filter_eq_self.mpr hdigits
  unfold mantissa
  split_ifs
  · have hzeros : ∀ k : ℕ, (List.replicate k '0').filter Char.isDigit = List.replicate k '0' :=
      fun k => List.filter_eq_self.mpr fun c hc => by rw [List.eq_of_mem_replicate hc]; rfl
    rw [List.filter_cons_of_pos (by rfl), List.filter_cons_of_neg (by decide), List.filter_append,
      hzeros, hall, Nat.ofDigitChars_cons, Nat.ofDigitChars_append]
    simp
  · rw [List.filter_append, List.filter_cons_of_neg (by decide), ← List.filter_append,
      List.take_append_drop, hall]
  · rw [hall]

/-- The digits after the point of a mantissa. -/
theorem scale_mantissa {digits : List Char} (hdigits : ∀ c ∈ digits, c.isDigit = true) {place : ℤ}
    (hplace : place ≤ digits.length) :
    ((((mantissa digits place).dropWhile (· ≠ '.')).length - 1 : ℕ) : ℤ) = digits.length - place := by
  have hpoint : ∀ c ∈ digits, decide (c ≠ '.') = true := by
    intro c hc
    have hdigit := hdigits c hc
    refine decide_eq_true fun h => ?_
    rw [h] at hdigit
    exact absurd hdigit (by decide)
  unfold mantissa
  split_ifs with hneg hlt
  · rw [List.dropWhile_cons_of_pos (by decide), List.dropWhile_cons_of_neg (by decide)]
    simp only [List.length_cons, List.length_append, List.length_replicate]
    omega
  · rw [List.dropWhile_append_of_pos fun c hc => hpoint c (List.mem_of_mem_take hc),
      List.dropWhile_cons_of_neg (by decide)]
    simp only [List.length_cons, List.length_drop]
    omega
  · rw [dropWhile_of_all hpoint]
    simp only [List.length_nil]
    omega

/-- A power starts with its `E`, and is read as it was written. -/
theorem readPower_power {front : List Char} (hfront : ∀ c ∈ front, c ≠ 'E') (n : ℤ) :
    (front ++ power n).takeWhile (· ≠ 'E') = front ∧ readPower (front ++ power n) = n := by
  have hall : ∀ c ∈ front, decide (c ≠ 'E') = true := fun c hc => decide_eq_true (hfront c hc)
  unfold readPower power
  rw [List.dropWhile_append_of_pos hall]
  split_ifs with h0 hneg
  · rw [List.takeWhile_append_of_pos hall, h0]
    exact ⟨List.append_nil front, rfl⟩
  · rw [List.takeWhile_append_of_pos hall, List.takeWhile_cons_of_neg (by decide), List.append_nil,
      List.dropWhile_cons_of_neg (by decide)]
    refine ⟨rfl, ?_⟩
    dsimp only
    rw [if_pos rfl, Nat.ofDigitChars_ten_toDigits]
    omega
  · rw [List.takeWhile_append_of_pos hall, List.takeWhile_cons_of_neg (by decide), List.append_nil,
      List.dropWhile_cons_of_neg (by decide)]
    refine ⟨rfl, ?_⟩
    dsimp only
    rw [if_neg (by decide), Nat.ofDigitChars_ten_toDigits]
    omega

/-- **A decimal is read back as it was written.** -/
theorem readBack_chars (d : Decimal) : readBack d.chars = d := by
  have hdigits : ∀ c ∈ d.digitChars, c.isDigit = true := fun c hc => isDigit_of_mem_digitChars hc
  have hmantissa : ∀ c ∈ mantissa d.digitChars d.place, c.isDigit = true ∨ c = '.' :=
    fun c hc => mem_mantissa hdigits hc
  have hfront : ∀ c ∈ signOf d.coeff ++ mantissa d.digitChars d.place, c ≠ 'E' := by
    intro c hc
    rcases List.mem_append.mp hc with hc | hc
    · unfold signOf at hc
      split_ifs at hc
      · rw [List.mem_singleton.mp hc]
        decide
      · cases hc
    · rintro rfl
      rcases hmantissa _ hc with h | h
      · exact absurd h (by decide)
      · exact absurd h (by decide)
  obtain ⟨hbefore, hpower⟩ :=
    readPower_power hfront (d.exp + d.digitChars.length - d.place)
  have hscale : (readScale d.chars : ℤ) = d.digitChars.length - d.place := by
    rw [← scale_mantissa hdigits d.place_le]
    unfold readScale chars
    rw [hbefore]
    have hsign : ∀ c ∈ signOf d.coeff, decide (c ≠ '.') = true := by
      intro c hc
      unfold signOf at hc
      split_ifs at hc
      · rw [List.mem_singleton.mp hc]
        decide
      · cases hc
    rw [List.dropWhile_append_of_pos hsign]
  have hvalue : Nat.ofDigitChars 10 ((d.chars.takeWhile (· ≠ 'E')).filter Char.isDigit) 0 =
      d.coeff.natAbs := by
    unfold chars
    rw [hbefore, List.filter_append]
    have hsign : (signOf d.coeff).filter Char.isDigit = [] := by
      unfold signOf
      split_ifs
      · rfl
      · rfl
    rw [hsign, List.nil_append, value_mantissa hdigits]
    exact Nat.ofDigitChars_ten_toDigits
  have hhead : d.chars.head? = some '-' ↔ d.coeff < 0 := by
    unfold chars signOf
    split_ifs with hneg
    · simp [hneg]
    · refine iff_of_false (fun h => ?_) hneg
      obtain ⟨first, rest, hcons⟩ := List.exists_cons_of_ne_nil (mantissa_ne_nil d)
      rw [hcons] at h
      have hfirst : first = '-' := Option.some.inj h
      rcases hmantissa first (by rw [hcons]; exact List.mem_cons_self) with hc | hc
      · rw [hfirst] at hc
        exact absurd hc (by decide)
      · rw [hfirst] at hc
        exact absurd hc (by decide)
  have hcoeff : readCoeff d.chars = d.coeff := by
    unfold readCoeff
    rw [hvalue]
    split_ifs with h
    · have hneg := hhead.mp h
      omega
    · have hneg : ¬ d.coeff < 0 := fun hneg => h (hhead.mpr hneg)
      omega
  unfold readBack
  rw [hcoeff, hscale]
  unfold chars
  rw [hpower]
  have hexp : d.exp + d.digitChars.length - d.place - (d.digitChars.length - d.place) = d.exp := by
    ring
  rw [hexp]

theorem text_injective {a b : Decimal} (h : a.text = b.text) : a = b := by
  have hchars : a.chars = b.chars := by
    have hlist := congrArg String.toList h
    unfold text at hlist
    rwa [String.toList_ofList, String.toList_ofList] at hlist
  rw [← readBack_chars a, hchars, readBack_chars b]

/-! ## Positional texts -/

/-- `format(d, "f")`: a positive power of ten is written out in zeros. -/
def fixedChars (d : Decimal) : List Char :=
  signOf d.formatF.coeff ++
    mantissa d.formatF.digitChars (d.formatF.exp + d.formatF.digitChars.length)

example : fixedChars ⟨-12, 3⟩ = "-12000".toList := by decide +kernel

example : fixedChars ⟨50, -4⟩ = "0.0050".toList := by decide +kernel

theorem formatF_exp (d : Decimal) : d.formatF.exp ≤ 0 := by
  unfold formatF
  split_ifs with h
  · exact le_rfl
  · exact not_lt.mp h

@[simp] theorem toRat_formatF (d : Decimal) : d.formatF.toRat = d.toRat := by
  unfold formatF
  split_ifs with h
  · have halign := toRat_align (d := d) h.le
    simpa [toRat] using halign
  · rfl

/-- The sign is no digit and no point, and the rest is made of these. -/
theorem mem_fixedChars {d : Decimal} {c : Char} (h : c ∈ d.fixedChars) :
    c = '-' ∨ c.isDigit = true ∨ c = '.' := by
  unfold fixedChars signOf at h
  rcases List.mem_append.mp h with h | h
  · split_ifs at h
    · exact .inl (List.mem_singleton.mp h)
    · cases h
  · exact .inr (mem_mantissa (fun c hc => isDigit_of_mem_digitChars hc) h)

/-- **A positional text is read back** as the number without its positive power of ten. -/
theorem readBack_fixedChars (d : Decimal) : readBack d.fixedChars = d.formatF := by
  have hexp := formatF_exp d
  unfold fixedChars
  generalize d.formatF = d at hexp ⊢
  have hdigits : ∀ c ∈ d.digitChars, c.isDigit = true := fun c hc => isDigit_of_mem_digitChars hc
  have hplace : d.exp + d.digitChars.length ≤ d.digitChars.length := by omega
  generalize hmade : signOf d.coeff ++ mantissa d.digitChars (d.exp + d.digitChars.length) = cs
  have hmem : ∀ c ∈ cs, c = '-' ∨ c.isDigit = true ∨ c = '.' := by
    intro c hc
    rw [← hmade] at hc
    unfold signOf at hc
    rcases List.mem_append.mp hc with hc | hc
    · split_ifs at hc
      · exact .inl (List.mem_singleton.mp hc)
      · cases hc
    · exact .inr (mem_mantissa hdigits hc)
  have hfront : ∀ c ∈ cs, c ≠ 'E' := by
    rintro c hc rfl
    rcases hmem _ hc with h | h | h
    all_goals exact absurd h (by decide)
  obtain ⟨hbefore, hpower⟩ := readPower_power hfront 0
  rw [power, if_pos rfl, List.append_nil] at hbefore hpower
  have hsign : ∀ c ∈ signOf d.coeff, decide (c ≠ '.') = true := by
    intro c hc
    unfold signOf at hc
    split_ifs at hc
    · rw [List.mem_singleton.mp hc]
      decide
    · cases hc
  have hscale : (readScale cs : ℤ) = -d.exp := by
    have hmantissa := scale_mantissa hdigits hplace
    unfold readScale
    rw [hbefore, ← hmade, List.dropWhile_append_of_pos hsign, hmantissa]
    ring
  have hsignDigits : (signOf d.coeff).filter Char.isDigit = [] := by
    unfold signOf
    split_ifs
    · rfl
    · rfl
  have hvalue : Nat.ofDigitChars 10 ((cs.takeWhile (· ≠ 'E')).filter Char.isDigit) 0 =
      d.coeff.natAbs := by
    rw [hbefore, ← hmade, List.filter_append, hsignDigits, List.nil_append, value_mantissa hdigits]
    exact Nat.ofDigitChars_ten_toDigits
  have hhead : cs.head? = some '-' ↔ d.coeff < 0 := by
    rw [← hmade]
    unfold signOf
    split_ifs with hneg
    · simp [hneg]
    · refine iff_of_false (fun h => ?_) hneg
      rw [List.nil_append] at h
      rcases mem_mantissa hdigits (List.mem_of_mem_head? h) with hc | hc
      all_goals exact absurd hc (by decide)
  have hcoeff : readCoeff cs = d.coeff := by
    unfold readCoeff
    rw [hvalue]
    split_ifs with h
    · have hneg := hhead.mp h
      omega
    · have hneg : ¬ d.coeff < 0 := fun hneg => h (hhead.mpr hneg)
      omega
  unfold readBack
  rw [hcoeff, hpower, hscale, zero_sub, neg_neg]

/-- Numbers with the same positional text are equal. -/
theorem toRat_of_fixedChars {a b : Decimal} (h : a.fixedChars = b.fixedChars) :
    a.toRat = b.toRat := by
  rw [← toRat_formatF a, ← toRat_formatF b, ← readBack_fixedChars a, h, readBack_fixedChars b]

end BpEngine.Decimal
