import BpEngine.AutoApprover.Decider
import BpEngine.Execution.ApprovalPrompt
import BpEngine.Execution.NumberText
import BpEngine.Library.Rounding

/-!
# Prompts are read back

The approval prompts of `execution/telegram_approval.py`, read by the auto-approver, and the deadline
that it computes from them.

* `isNumber_fixedChars`, `isTenths_oneDecimal`: what the prompts show as numbers are numbers to the
  patterns.
* `promptText_joinLines` captures the texts of a prompt; `promptOf_captured` are the numbers in it.
* `remaining_error` bounds what rounding the remaining time to a float and to tenths takes away.
* `deadline_le` compares the two clocks; `prompt_roundTrip` is the whole statement.
-/

namespace BpEngine.AutoApprover

open TelegramApproval (Validated Quote Checked promptLines joinLines fixedText oneDecimal
  remainingSeconds)
open Decimal (mantissa)

/-! ## Numbers in the patterns -/

theorem isDigit_eq (c : Char) : isDigit c = c.isDigit := by
  rw [Bool.eq_iff_iff, Char.isDigit_iff_toNat]
  simp only [isDigit, Bool.and_eq_true, decide_eq_true_eq]
  exact Iff.rfl

theorem takeWhile_isDigit {cs rest : List Char} (h : ∀ c ∈ cs, c.isDigit = true)
    (hrest : rest.takeWhile isDigit = []) : (cs ++ rest).takeWhile isDigit = cs := by
  rw [List.takeWhile_append_of_pos fun c hc => by rw [isDigit_eq, h c hc], hrest, List.append_nil]

theorem all_isDigit {cs : List Char} (h : ∀ c ∈ cs, c.isDigit = true) : cs.all isDigit = true := by
  rw [List.all_eq_true]
  intro c hc
  rw [isDigit_eq, h c hc]

/-- The first digit of a positive number is not zero. -/
theorem head_toDigits {n : ℕ} (h : 0 < n) : (Nat.toDigits 10 n).head? ≠ some '0' := by
  induction n using Nat.strongRecOn with
  | ind n ih =>
    by_cases hsmall : n < 10
    · rw [Nat.toDigits_of_lt_base hsmall]
      have hdigit : ∀ k < 10, 0 < k → Nat.digitChar k ≠ '0' := by decide
      simpa using hdigit n hsmall h
    · rw [Nat.toDigits_of_base_le (by decide) (by omega), List.head?_append_of_ne_nil]
      · exact ih (n / 10) (by omega) (by omega)
      · exact Nat.toDigits_ne_nil

/-- Digits without a zero in front, alone. -/
theorem isNumber_whole {digits : List Char} (hdigits : ∀ c ∈ digits, c.isDigit = true)
    (hne : digits ≠ []) (hhead : digits.head? ≠ some '0') : isNumber digits = true := by
  have hwhole : (digits ++ []).takeWhile isDigit = digits := takeWhile_isDigit hdigits rfl
  rw [List.append_nil] at hwhole
  unfold isNumber
  simp [hwhole, hne, hhead]

/-- Digits with a point among them. -/
theorem isNumber_point {whole fraction : List Char} (hwhole : ∀ c ∈ whole, c.isDigit = true)
    (hfraction : ∀ c ∈ fraction, c.isDigit = true) (hne : fraction ≠ [])
    (hfront : whole = ['0'] ∨ (whole ≠ [] ∧ whole.head? ≠ some '0')) :
    isNumber (whole ++ '.' :: fraction) = true := by
  have htake : (whole ++ '.' :: fraction).takeWhile isDigit = whole :=
    takeWhile_isDigit hwhole (by rfl)
  unfold isNumber
  simp [htake, all_isDigit hfraction, hne, hfront]

/-- A mantissa is a number to the patterns, unless its digits start with a zero. -/
theorem isNumber_mantissa {digits : List Char} (hdigits : ∀ c ∈ digits, c.isDigit = true)
    (hne : digits ≠ []) (hhead : digits.head? ≠ some '0') (place : ℤ) :
    isNumber (mantissa digits place) = true := by
  unfold mantissa
  split_ifs with hneg hlt
  · have hzeros : ∀ c ∈ List.replicate (-place).toNat '0' ++ digits, c.isDigit = true := by
      intro c hc
      rcases List.mem_append.mp hc with hc | hc
      · rw [List.eq_of_mem_replicate hc]
        rfl
      · exact hdigits c hc
    have hzero : ∀ c ∈ ['0'], c.isDigit = true := by
      intro c hc
      rw [List.mem_singleton.mp hc]
      rfl
    exact isNumber_point hzero hzeros (List.append_ne_nil_of_right_ne_nil _ hne) (.inl rfl)
  · have hfront : ∀ c ∈ digits.take place.toNat, c.isDigit = true :=
      fun c hc => hdigits c (List.mem_of_mem_take hc)
    have hback : ∀ c ∈ digits.drop place.toNat, c.isDigit = true :=
      fun c hc => hdigits c (List.mem_of_mem_drop hc)
    have hdrop : digits.drop place.toNat ≠ [] := by
      rw [ne_eq, List.drop_eq_nil_iff]
      omega
    refine isNumber_point hfront hback hdrop (.inr ⟨?_, ?_⟩)
    · rw [ne_eq, List.take_eq_nil_iff, not_or]
      exact ⟨by omega, hne⟩
    · rw [List.head?_take, if_neg (by omega)]
      exact hhead
  · exact isNumber_whole hdigits hne hhead

/-- **What is shown of a positive number is a number to the patterns.** -/
theorem isNumber_fixedChars {d : Decimal} (h : 0 < d.formatF.coeff) :
    isNumber d.fixedChars = true := by
  rw [fixedChars_of_nonneg h.le]
  refine isNumber_mantissa (fun c hc => Decimal.isDigit_of_mem_digitChars hc)
    (List.ne_nil_of_length_pos d.formatF.length_digitChars_pos) ?_ _
  exact head_toDigits (by omega)

/-- Tenths of at least one. -/
theorem fixedChars_tenths {n : ℕ} (h : 10 ≤ n) : Decimal.fixedChars ⟨n, -1⟩ =
    Nat.toDigits 10 (n / 10) ++ '.' :: [Nat.digitChar (n % 10)] := by
  have hform : Decimal.formatF ⟨n, -1⟩ = ⟨n, -1⟩ := if_neg (by simp)
  have hdigits : Decimal.digitChars ⟨n, -1⟩ =
      Nat.toDigits 10 (n / 10) ++ [Nat.digitChar (n % 10)] := Nat.toDigits_of_base_le (by decide) h
  have hpos : 0 < (Nat.toDigits 10 (n / 10)).length := Nat.length_toDigits_pos
  rw [fixedChars_of_nonneg (by rw [hform]; simp), hform, hdigits]
  unfold mantissa
  have hplace : (-1 + ((Nat.toDigits 10 (n / 10) ++ [Nat.digitChar (n % 10)]).length : ℤ)) =
      (Nat.toDigits 10 (n / 10)).length := by
    rw [List.length_append, List.length_singleton]
    push_cast
    ring
  rw [hplace, if_neg (by omega), if_pos (by simp), Int.toNat_natCast, List.take_left, List.drop_left]

/-- **What is shown of the remaining time are tenths to the pattern.** -/
theorem isTenths_fixedChars {n : ℕ} (h : 10 ≤ n) : isTenths (Decimal.fixedChars ⟨n, -1⟩) = true := by
  have hdigits : ∀ c ∈ Nat.toDigits 10 (n / 10), c.isDigit = true :=
    fun c hc => Nat.isDigit_of_mem_toDigits (by decide) (by decide) hc
  have hlast : isDigit (Nat.digitChar (n % 10)) = true := by
    have hall : ∀ k < 10, isDigit (Nat.digitChar k) = true := by decide
    exact hall _ (Nat.mod_lt n (by decide))
  have htake : (Nat.toDigits 10 (n / 10) ++ '.' :: [Nat.digitChar (n % 10)]).takeWhile isDigit =
      Nat.toDigits 10 (n / 10) := takeWhile_isDigit hdigits (by rfl)
  rw [fixedChars_tenths h]
  unfold isTenths
  simp [htake, hlast, Nat.toDigits_ne_nil]

/-! ## Lines -/

theorem afterLead_append (lead : String) (rest : List Char) :
    afterLead lead (lead.toList ++ rest) = some rest := by
  unfold afterLead
  rw [if_pos (by simp), List.drop_left]

theorem numberLine_append (lead : String) {d : Decimal} (h : 0 < d.formatF.coeff) :
    numberLine lead (lead ++ fixedText d).toList = some (fixedText d) := by
  unfold numberLine fixedText
  rw [String.toList_append, String.toList_ofList, afterLead_append]
  simp [isNumber_fixedChars h]

theorem remainingLine_append {n : ℕ} (h : 10 ≤ n) :
    remainingLine ("Time remaining: " ++ fixedText ⟨n, -1⟩ ++ "s").toList = some (fixedText ⟨n, -1⟩) := by
  have hs : "s".toList = ['s'] := by decide
  have hshown : (fixedText ⟨n, -1⟩).toList = Decimal.fixedChars ⟨n, -1⟩ := String.toList_ofList
  unfold remainingLine
  rw [String.toList_append, String.toList_append, hshown, List.append_assoc, afterLead_append, hs]
  simp [isTenths_fixedChars h, fixedText]

theorem sideLine_append {side : String} (h : side ∈ ["up", "down"]) :
    sideLine ("Side: " ++ side.toUpper).toList = some side.toUpper := by
  simp only [List.mem_cons, List.not_mem_nil, or_false] at h
  rcases h with rfl | rfl
  · decide +kernel
  · decide +kernel

/-- Lines are found again where they were joined. -/
theorem splitOn_joinLines {lines : List String} (hne : lines ≠ [])
    (h : ∀ line ∈ lines, '\n' ∉ line.toList) :
    (joinLines lines).toList.splitOn '\n' = lines.map String.toList := by
  unfold joinLines
  rw [String.toList_ofList, List.splitOn_intercalate]
  · intro l hl
    obtain ⟨line, hline, rfl⟩ := List.mem_map.mp hl
    exact h line hline
  · simpa using hne

/-- No line feed is shown in a number that is not negative. -/
theorem not_mem_fixedText {d : Decimal} (h : 0 ≤ d.formatF.coeff) : '\n' ∉ (fixedText d).toList := by
  unfold fixedText
  rw [String.toList_ofList]
  intro hmem
  rcases mem_fixedChars_of_nonneg h hmem with hc | hc
  · exact absurd hc (by decide)
  · exact absurd hc (by decide)

/-! ## Prompts -/

/-- The texts a prompt shows. -/
def captured (validated : Validated) : PromptText where
  side := validated.selectedSide.toUpper
  limitPrice := fixedText validated.limitPrice
  shares := fixedText validated.requestedShares
  maximumSpend := fixedText validated.targetNotionalUsd
  timeRemaining := fixedText (oneDecimal (remainingSeconds validated))

/-- What the patterns ask of a payload that was validated. -/
structure Shown (validated : Validated) (tenths : ℕ) : Prop where
  side : validated.selectedSide ∈ ["up", "down"]
  limitPrice : 0 < validated.limitPrice.formatF.coeff
  requestedShares : 0 < validated.requestedShares.formatF.coeff
  target : 0 < validated.targetNotionalUsd.formatF.coeff
  remaining : oneDecimal (remainingSeconds validated) = ⟨tenths, -1⟩
  enough : 10 ≤ tenths

/-- **A prompt is read back**, with either title and the tail that belongs to it. -/
theorem promptText_joinLines {validated : Validated} {tenths : ℕ} (h : Shown validated tenths)
    {title : String} {tail : List String}
    (hprompt : isPrompt title.toList (tail.map String.toList) = true)
    (htitle : ∀ line ∈ title :: tail, '\n' ∉ line.toList) :
    promptText (joinLines (promptLines title tail validated)) = some (captured validated) := by
  have hside : '\n' ∉ ("Side: " ++ validated.selectedSide.toUpper).toList := by
    have hsides := h.side
    simp only [List.mem_cons, List.not_mem_nil, or_false] at hsides
    rcases hsides with hup | hdown
    · rw [hup]
      decide +kernel
    · rw [hdown]
      decide +kernel
  have hshown : ∀ (lead : String) (d : Decimal), '\n' ∉ lead.toList → 0 ≤ d.formatF.coeff →
      '\n' ∉ (lead ++ fixedText d).toList := by
    intro lead d hlead hd
    rw [String.toList_append, List.mem_append, not_or]
    exact ⟨hlead, not_mem_fixedText hd⟩
  have hremaining : '\n' ∉ ("Time remaining: " ++
      fixedText (oneDecimal (remainingSeconds validated)) ++ "s").toList := by
    rw [String.toList_append, List.mem_append, not_or, h.remaining]
    refine ⟨hshown _ _ (by decide) ?_, by decide⟩
    unfold Decimal.formatF
    rw [if_neg (by simp)]
    exact Int.natCast_nonneg tenths
  have hlines : ∀ line ∈ promptLines title tail validated, '\n' ∉ line.toList := by
    simp only [promptLines, List.forall_mem_append, List.forall_mem_cons, List.not_mem_nil,
      false_implies, implies_true, and_true] at htitle ⊢
    exact ⟨⟨htitle.1, by decide, hside, hshown _ _ (by decide) h.limitPrice.le,
      hshown _ _ (by decide) h.requestedShares.le, hshown _ _ (by decide) h.target.le, hremaining⟩,
      htitle.2⟩
  unfold promptText
  rw [splitOn_joinLines (by simp [promptLines]) hlines]
  have hempty : "".toList = [] := rfl
  simp only [promptLines, List.cons_append, List.nil_append, List.map_cons, hempty, hprompt, if_true,
    sideLine_append h.side, numberLine_append _ h.limitPrice, numberLine_append _ h.requestedShares,
    numberLine_append _ h.target, h.remaining, remainingLine_append h.enough, captured]
  rfl

/-! ## The remaining time -/

/-- The remaining time in tenths, for microseconds. -/
def tenthsOf (remaining : ℤ) : ℤ :=
  Binary64.roundHalfEven (Binary64.round ((remaining : ℚ) / 1000000) * 10)

theorem oneDecimal_eq (validated : Validated) :
    oneDecimal (remainingSeconds validated) = ⟨tenthsOf validated.secondsRemaining, -1⟩ := rfl

theorem toRat_tenths (n : ℤ) : Decimal.toRat ⟨n, -1⟩ = n / 10 := by
  unfold Decimal.toRat
  rw [zpow_neg_one]
  rfl

section Remaining

variable {remaining : ℤ}

/-- The tenths are at most half a tenth away from the float. -/
theorem tenths_error_float (remaining : ℤ) : |(tenthsOf remaining : ℚ) / 10 -
    Binary64.round ((remaining : ℚ) / 1000000)| ≤ 1 / 20 := by
  have herror := Binary64.abs_roundHalfEven_sub_le (Binary64.round ((remaining : ℚ) / 1000000) * 10)
  unfold tenthsOf
  rw [abs_le] at herror ⊢
  constructor <;> linarith [herror.1, herror.2]

/-- **The tenths are at most half a tenth away** while the float is exact to a microsecond. -/
theorem tenths_error (hpos : 0 < remaining) (hsmall : remaining < 2 ^ 34 * 1000000) :
    |tenthsOf remaining * 100000 - remaining| ≤ 50000 := by
  have hq : (0 : ℚ) < remaining / 1000000 := by
    have : (0 : ℚ) < remaining := by exact_mod_cast hpos
    positivity
  have hlt : (remaining : ℚ) / 1000000 < (2 : ℚ) ^ (34 : ℤ) := by
    rw [div_lt_iff₀ (by norm_num)]
    have : (remaining : ℚ) < 2 ^ 34 * 1000000 := by exact_mod_cast hsmall
    norm_num at this ⊢
    exact this
  have hfloat := Binary64.abs_round_sub_le_of_lt hq hlt
  have hulp : (2 : ℚ) ^ ((34 : ℤ) - 54) < 1 / 1000000 := by norm_num
  have htenths := tenths_error_float remaining
  have hbound : |(tenthsOf remaining : ℚ) * 100000 - remaining| < 50001 := by
    rw [abs_le] at hfloat htenths
    rw [abs_lt]
    constructor <;> linarith [hfloat.1, hfloat.2, htenths.1, htenths.2]
  have hint : |tenthsOf remaining * 100000 - remaining| < 50001 := by exact_mod_cast hbound
  omega

/-- At least twenty seconds are shown when at least twenty seconds remain, and not more than twice what
remains. -/
theorem tenths_bounds (h : 20000000 ≤ remaining) :
    200 ≤ tenthsOf remaining ∧ tenthsOf remaining * 50000 ≤ remaining + 50000 := by
  have hq : (0 : ℚ) < remaining / 1000000 := by
    have : (20000000 : ℚ) ≤ remaining := by exact_mod_cast h
    linarith
  have hrel := Binary64.abs_round_sub_le_rel hq
  have htenths := tenths_error_float remaining
  have hhalf : (remaining : ℚ) / 1000000 / 2 ^ 53 ≤ remaining / 1000000 / 1000000000 := by
    gcongr
    norm_num
  rw [abs_le] at hrel htenths
  have hlow : (tenthsOf remaining : ℚ) * 100000 ≥ remaining - remaining / 1000000000 - 50000 := by
    linarith [hrel.1, htenths.1]
  have hhigh : (tenthsOf remaining : ℚ) * 100000 ≤ remaining + remaining / 1000000000 + 50000 := by
    linarith [hrel.2, htenths.2]
  have hR : (20000000 : ℚ) ≤ remaining := by exact_mod_cast h
  constructor
  · have hlow' : (199 : ℚ) < tenthsOf remaining := by linarith
    have : 199 < tenthsOf remaining := by exact_mod_cast hlow'
    omega
  · have hhigh' : (tenthsOf remaining : ℚ) * 50000 ≤ remaining + 50000 := by linarith
    exact_mod_cast hhigh'

end Remaining

/-! ## The two clocks -/

/-- The integer part of an integer in decimal form. -/
theorem integral_eq {d : Decimal} {m : ℤ} (h : d.toRat = m) :
    (if 0 ≤ d.exp then d.align 0 else d.coeff.tdiv (10 ^ d.exp.natAbs)) = m := by
  split_ifs with hexp
  · have halign := Decimal.toRat_align hexp
    rw [zpow_zero, mul_one, h] at halign
    exact_mod_cast halign
  · have hcoeff : (d.coeff : ℚ) = m * 10 ^ d.exp.natAbs := by
      have hneg : d.exp = -(d.exp.natAbs : ℤ) := by omega
      unfold Decimal.toRat at h
      rw [hneg, zpow_neg, zpow_natCast] at h
      rw [← h]
      field_simp
    have hint : d.coeff = m * 10 ^ d.exp.natAbs := by exact_mod_cast hcoeff
    rw [hint, Int.mul_tdiv_cancel _ (by positivity)]

/-- **The deadline** is computed without rounding. -/
theorem approvalDeadline_eq {sent deadline tenths : ℤ} (hlow : 0 ≤ tenths) (hhigh : tenths < 10 ^ 20)
    (h : approvalDeadline sent ⟨tenths, -1⟩ = .ok deadline) :
    deadline = sent + min 45000000 (tenths * 100000 - 10000000) - 2000000 := by
  have hrest : ((⟨tenths, -1⟩ : Decimal) - Decimal.ofInt submitSafetyFloorSeconds).toRat =
      tenths / 10 - 10 := by
    have hfloor : (Decimal.ofInt submitSafetyFloorSeconds).toRat = 10 := by
      rw [Decimal.toRat_ofInt]
      rfl
    have hlow' : (0 : ℚ) ≤ tenths := by exact_mod_cast hlow
    have hhigh' : (tenths : ℚ) < 10 ^ 20 := by exact_mod_cast hhigh
    rw [Decimal.sub_exact (k := 1), hfloor, toRat_tenths]
    rw [hfloor, toRat_tenths]
    refine ⟨⟨tenths - 100, ?_⟩, ?_⟩
    · rw [zpow_neg_one]
      push_cast
      ring
    · rw [abs_lt]
      norm_num [Decimal.precision]
      constructor <;> linarith
  have hlifetime : (Decimal.min' (Decimal.ofInt maxApprovalLifetimeSeconds)
      ((⟨tenths, -1⟩ : Decimal) - Decimal.ofInt submitSafetyFloorSeconds)).toRat =
        (min 45000000 (tenths * 100000 - 10000000) : ℤ) / 1000000 := by
    rw [Decimal.toRat_min', hrest, Decimal.toRat_ofInt]
    have hmax : (maxApprovalLifetimeSeconds : ℚ) = 45 := rfl
    rw [hmax, Int.cast_min, ← min_div_div_right (by norm_num)]
    push_cast
    congr 1 <;> ring
  have hbounds : |((min 45000000 (tenths * 100000 - 10000000) : ℤ) : ℚ)| < 10 ^ 28 := by
    have hint : |min 45000000 (tenths * 100000 - 10000000)| < (10 : ℤ) ^ 28 := by
      rw [abs_lt]
      omega
    exact_mod_cast hint
  have hmillion : (⟨1000000, 0⟩ : Decimal).toRat = 1000000 := by norm_num [Decimal.toRat]
  unfold approvalDeadline at h
  generalize Decimal.min' (Decimal.ofInt maxApprovalLifetimeSeconds)
    ((⟨tenths, -1⟩ : Decimal) - Decimal.ofInt submitSafetyFloorSeconds) = lifetime at h hlifetime
  generalize min 45000000 (tenths * 100000 - 10000000) = micros at hlifetime hbounds ⊢
  have hproduct : lifetime.toRat * (⟨1000000, 0⟩ : Decimal).toRat = micros := by
    rw [hlifetime, hmillion]
    ring
  have hscaled : (lifetime * ⟨1000000, 0⟩ : Decimal).toRat = micros := by
    rw [Decimal.mul_exact (k := 0), hproduct]
    rw [hproduct]
    exact ⟨⟨micros, by simp⟩, by simpa [Decimal.precision] using hbounds⟩
  simp only [bind_eq_ok, require_eq_ok, integral_eq hscaled] at h
  obtain ⟨-, -, -, -, -, -, -, -, hdeadline⟩ := h
  rw [← Except.ok.inj hdeadline]
  rfl

/-- **The deadline of the auto-approver is not after the expiry of the record.** -/
theorem deadline_le {created marketEnd sent deadline : ℤ} (hmargin : 20000000 ≤ marketEnd - created)
    (hrange : marketEnd - created < 10 ^ 18) (hsent : sent ≤ created + 1950000)
    (h : approvalDeadline sent ⟨tenthsOf (marketEnd - created), -1⟩ = .ok deadline) :
    deadline ≤ min (created + 45000000) (marketEnd - 10000000) := by
  obtain ⟨hlow, hhigh⟩ := tenths_bounds hmargin
  have hdeadline := approvalDeadline_eq (by omega) (by omega) h
  by_cases hsmall : marketEnd - created < 2 ^ 34 * 1000000
  · have herror := tenths_error (by omega) hsmall
    rw [abs_le] at herror
    omega
  · -- the lifetime is capped long before such a market ends
    omega

/-! ## Prompts and records of one payload -/

/-- The two prompts. -/
inductive PromptKind where
  | ready
  | candidate

def PromptKind.build (C : Crypto) : PromptKind → Dict → DateTime → Outcome String
  | .ready => TelegramApproval.buildPrompt C
  | .candidate => TelegramApproval.buildCandidatePrompt C

section RoundTrip

variable {C : Crypto} {prepared : Dict} {observedAt : DateTime}

theorem formatF_formatF (d : Decimal) : d.formatF.formatF = d.formatF :=
  if_neg (not_lt.mpr (Decimal.formatF_exp d))

theorem coeff_formatF_pos {d : Decimal} (h : 0 < d.toRat) : 0 < d.formatF.coeff := by
  rw [← Decimal.toRat_formatF] at h
  have hpow : (0 : ℚ) < (10 : ℚ) ^ d.formatF.exp := zpow_pos (by norm_num) _
  have hcoeff : (0 : ℚ) < d.formatF.coeff := (mul_pos_iff_of_pos_right hpow).mp h
  exact_mod_cast hcoeff

theorem finiteOf_fixedText {d : Decimal} (h : 0 ≤ d.formatF.coeff) :
    finiteOf (fixedText d) = some d.formatF := by
  unfold finiteOf fixedText
  rw [decimalOfText_fixedChars h]

/-- What was validated can be shown. -/
theorem shown_of_checked {observed : Timestamp} {quote : Quote} {validated : Validated}
    (h : Checked prepared observed TelegramApproval.minApprovalWindowSeconds quote validated) :
    Shown validated (tenthsOf validated.secondsRemaining).toNat := by
  have hmargin : 20000000 ≤ validated.secondsRemaining := h.margin
  obtain ⟨hlow, -⟩ := tenths_bounds hmargin
  exact {
    side := h.sides
    limitPrice := by
      rw [h.limitPrice, formatF_formatF]
      exact coeff_formatF_pos h.limitPos
    requestedShares := by
      rw [h.requestedShares, formatF_formatF]
      exact coeff_formatF_pos h.sharesPos
    target := by
      rw [h.target, formatF_formatF]
      exact coeff_formatF_pos (h.targetFive ▸ by norm_num)
    remaining := by
      rw [oneDecimal_eq, Int.toNat_of_nonneg (by omega)]
    enough := by omega }

/-- The numbers a prompt shows. -/
theorem promptOf_captured {observed : Timestamp} {quote : Quote} {validated : Validated}
    (h : Checked prepared observed TelegramApproval.minApprovalWindowSeconds quote validated) :
    ∃ prompt, promptOf (captured validated) = some prompt ∧
      prompt.side = validated.selectedSide.toUpper ∧
      prompt.limitPrice.toRat = quote.limitPrice.toRat ∧
      prompt.shares.toRat = quote.requestedShares.toRat ∧
      prompt.maximumSpend.toRat = quote.target.toRat ∧
      prompt.timeRemaining = ⟨tenthsOf validated.secondsRemaining, -1⟩ := by
  have hshown := shown_of_checked h
  have hmargin : 20000000 ≤ validated.secondsRemaining := h.margin
  obtain ⟨hlow, -⟩ := tenths_bounds hmargin
  have htenths : Decimal.formatF ⟨tenthsOf validated.secondsRemaining, -1⟩ =
      ⟨tenthsOf validated.secondsRemaining, -1⟩ := if_neg (by simp)
  have hremaining : finiteOf (fixedText (oneDecimal (remainingSeconds validated))) =
      some ⟨tenthsOf validated.secondsRemaining, -1⟩ := by
    rw [oneDecimal_eq, finiteOf_fixedText, htenths]
    rw [htenths]
    exact (by omega : 0 ≤ tenthsOf validated.secondsRemaining)
  have hlimit : validated.limitPrice.formatF.toRat = quote.limitPrice.toRat := by
    rw [h.limitPrice, formatF_formatF, Decimal.toRat_formatF]
  have hshares : validated.requestedShares.formatF.toRat = quote.requestedShares.toRat := by
    rw [h.requestedShares, formatF_formatF, Decimal.toRat_formatF]
  have htarget : validated.targetNotionalUsd.formatF.toRat = quote.target.toRat := by
    rw [h.target, formatF_formatF, Decimal.toRat_formatF]
  have hfive : targetNotionalUsd.toRat = 5 := by norm_num [targetNotionalUsd, Decimal.toRat]
  have hone : (⟨1, 0⟩ : Decimal).toRat = 1 := by norm_num [Decimal.toRat]
  unfold promptOf captured
  simp only [finiteOf_fixedText hshown.limitPrice.le, finiteOf_fixedText hshown.requestedShares.le,
    finiteOf_fixedText hshown.target.le, hremaining, Option.bind_eq_bind, Option.bind_some]
  rw [if_neg, if_neg, if_neg, if_neg]
  · exact ⟨_, rfl, rfl, by rw [Decimal.toRat_formatF, hlimit], by rw [Decimal.toRat_formatF, hshares],
      by rw [Decimal.toRat_formatF, hfive, h.targetFive], rfl⟩
  · rw [Decimal.lt_iff, Decimal.toRat_ofInt, toRat_tenths, not_lt]
    have hmin : (minApprovalWindowSeconds : ℚ) = 20 := rfl
    have hlow' : (200 : ℚ) ≤ tenthsOf validated.secondsRemaining := by exact_mod_cast hlow
    rw [hmin]
    linarith
  · rw [Decimal.le_iff, Decimal.toRat_zero, hshares, not_le]
    exact h.sharesPos
  · rw [not_not, Decimal.lt_iff, Decimal.le_iff, Decimal.toRat_zero, hlimit, hone]
    exact ⟨h.limitPos, h.limitLe⟩
  · rw [not_not, Decimal.same_iff, htarget, hfive]
    exact h.targetFive

/-- The text of either prompt is read as what it shows. -/
theorem promptText_build {kind : PromptKind} {text : String}
    (h : kind.build C prepared observedAt = .ok text) :
    ∃ observed quote validated, TelegramApproval.validatePrepared C prepared observedAt
        TelegramApproval.minApprovalWindowSeconds = .ok validated ∧
      TelegramApproval.utc observedAt = .ok observed ∧
      Checked prepared observed TelegramApproval.minApprovalWindowSeconds quote validated ∧
      promptText text = some (captured validated) := by
  cases kind with
  | ready =>
    simp only [PromptKind.build, TelegramApproval.buildPrompt, bind_eq_ok] at h
    obtain ⟨validated, hvalidated, htext⟩ := h
    obtain ⟨observed, quote, hobserved, hchecked⟩ :=
      TelegramApproval.validatePrepared_checked hvalidated
    refine ⟨observed, quote, validated, hvalidated, hobserved, hchecked, ?_⟩
    rw [← Except.ok.inj htext]
    exact promptText_joinLines (shown_of_checked hchecked) (by decide +kernel) (by decide +kernel)
  | candidate =>
    simp only [PromptKind.build, TelegramApproval.buildCandidatePrompt, bind_eq_ok] at h
    obtain ⟨validated, hvalidated, htext⟩ := h
    obtain ⟨observed, quote, hobserved, hchecked⟩ :=
      TelegramApproval.validatePrepared_checked hvalidated
    refine ⟨observed, quote, validated, hvalidated, hobserved, hchecked, ?_⟩
    rw [← Except.ok.inj htext]
    exact promptText_joinLines (shown_of_checked hchecked) (by decide +kernel) (by decide +kernel)

/-- What is read of a prompt: the numbers of the payload, and the tenths that remain. -/
structure ReadBack (prepared : Dict) (observed : Timestamp) (quote : Quote) (text : String)
    (prompt : PromptMatch) : Prop where
  parsed : parsePrompt (some text) = (do approvalSource; pure (some prompt))
  side : prompt.side = (TelegramApproval.selectedSideOf quote.request prepared).toUpper
  limitPrice : prompt.limitPrice.toRat = quote.limitPrice.toRat
  shares : prompt.shares.toRat = quote.requestedShares.toRat
  maximumSpend : prompt.maximumSpend.toRat = quote.target.toRat
  timeRemaining : prompt.timeRemaining = ⟨tenthsOf (quote.marketEnd - observed), -1⟩

theorem readBack_build {kind : PromptKind} {text : String}
    (h : kind.build C prepared observedAt = .ok text) :
    ∃ observed quote validated prompt, TelegramApproval.validatePrepared C prepared observedAt
        TelegramApproval.minApprovalWindowSeconds = .ok validated ∧
      TelegramApproval.utc observedAt = .ok observed ∧
      Checked prepared observed TelegramApproval.minApprovalWindowSeconds quote validated ∧
      ReadBack prepared observed quote text prompt := by
  obtain ⟨observed, quote, validated, hvalidated, hobserved, hchecked, htext⟩ := promptText_build h
  obtain ⟨prompt, hprompt, hside, hlimit, hshares, hspend, hremaining⟩ := promptOf_captured hchecked
  refine ⟨observed, quote, validated, prompt, hvalidated, hobserved, hchecked, {
    parsed := ?_
    side := hside.trans (congrArg String.toUpper hchecked.side)
    limitPrice := hlimit
    shares := hshares
    maximumSpend := hspend
    timeRemaining := by rw [hremaining, hchecked.remaining] }⟩
  unfold parsePrompt
  simp only [Option.bind_some, htext, hprompt]

end RoundTrip

/-! ## Round trip and deadline -/

/-- The remaining time of a prompt is within half a tenth of the float, and of the true time while this
is below `2 ^ 34` seconds. -/
def RemainingWithin (quote : Quote) (observed : Timestamp) (prompt : PromptMatch) : Prop :=
  |prompt.timeRemaining.toRat -
      Binary64.round (((quote.marketEnd - observed : ℤ) : ℚ) / 1000000)| ≤ 1 / 20 ∧
    (quote.marketEnd - observed < 2 ^ 34 * 1000000 →
      |prompt.timeRemaining.toRat - ((quote.marketEnd - observed : ℤ) : ℚ) / 1000000| ≤ 1 / 20)

theorem remainingWithin_of_readBack {prepared : Dict} {observed : Timestamp} {quote : Quote}
    {text : String} {prompt : PromptMatch} (h : ReadBack prepared observed quote text prompt)
    (hpos : 0 < quote.marketEnd - observed) : RemainingWithin quote observed prompt := by
  unfold RemainingWithin
  rw [h.timeRemaining, toRat_tenths]
  generalize quote.marketEnd - observed = remaining at hpos
  refine ⟨tenths_error_float remaining, fun hsmall => ?_⟩
  have herror := tenths_error hpos hsmall
  have hcast : |(tenthsOf remaining : ℚ) * 100000 - remaining| ≤ 50000 := by exact_mod_cast herror
  rw [abs_le] at hcast ⊢
  constructor <;> linarith [hcast.1, hcast.2]

/-- No click before a deadline of the auto-approver finds the record expired. -/
def InTime (pending : Dict) (created : Timestamp) (prompt : PromptMatch) : Prop :=
  ∃ expires, TelegramApproval.pendingTime pending "created_at" = .ok created ∧
    TelegramApproval.pendingTime pending "expires_at" = .ok expires ∧
    ∀ sent deadline, sent ≤ created + 1950000 →
      approvalDeadline sent prompt.timeRemaining = .ok deadline →
      deadline ≤ expires ∧ ∀ clickedAt clicked, TelegramApproval.utc clickedAt = .ok clicked →
        clicked < deadline → TelegramApproval.checkPending pending clickedAt = .ok ()

/-- **Prompt round trip and deadline.** -/
theorem prompt_roundTrip (C : Crypto) (kind : PromptKind) (prepared : Dict) (observedAt : DateTime)
    (userId chatId : ℤ) (nonce : Option String) (drawn text : String) (pending : Dict)
    (htext : kind.build C prepared observedAt = .ok text)
    (hpending : TelegramApproval.newPending C prepared userId chatId observedAt nonce drawn =
      .ok pending) :
    ∃ observed quote validated prompt, TelegramApproval.utc observedAt = .ok observed ∧
      Checked prepared observed TelegramApproval.minApprovalWindowSeconds quote validated ∧
      ReadBack prepared observed quote text prompt ∧ RemainingWithin quote observed prompt ∧
      InTime pending observed prompt := by
  obtain ⟨observed, quote, validated, prompt, hvalidated, hobserved, hchecked, hread⟩ :=
    readBack_build htext
  obtain ⟨again, created, quote', hagain, hcreated, hchecked', hcreatedAt, hexpiresAt, hstatus⟩ :=
    TelegramApproval.newPending_eq_ok hpending
  obtain rfl := Except.ok.inj (hvalidated.symm.trans hagain)
  obtain rfl := Except.ok.inj (hobserved.symm.trans hcreated)
  have hmarketEnd : quote'.marketEnd = quote.marketEnd :=
    Except.ok.inj (hchecked'.marketEnd.symm.trans hchecked.marketEnd)
  have hmargin : 20000000 ≤ quote.marketEnd - observed := by
    rw [← hchecked.remaining]
    exact hchecked.margin
  refine ⟨observed, quote, validated, prompt, hobserved, hchecked, hread,
    remainingWithin_of_readBack hread (by linarith), _, hcreatedAt, hexpiresAt, ?_⟩
  intro sent deadline hsent hdeadline
  rw [hread.timeRemaining] at hdeadline
  have hrange : quote.marketEnd - observed < 10 ^ 18 := by
    have hend := (TelegramApproval.marketEndOf_inRange hchecked.marketEnd).2
    have hstart := (inUtc_inRange hobserved).1
    linarith
  have hle := deadline_le hmargin hrange hsent hdeadline
  rw [hmarketEnd] at hexpiresAt ⊢
  refine ⟨hle, fun clickedAt clicked hclicked hbefore => ?_⟩
  have hopen := not_le.mpr (hbefore.trans_le hle)
  unfold TelegramApproval.checkPending
  rw [hclicked, ok_bind, hstatus, hexpiresAt]
  exact TelegramApproval.check_true hopen

/-! ### Sample payloads -/

/-- A payload with its numbers in exponents, for a market that ends then. -/
def samplePayload (marketEndAt : String) : Dict :=
  [("status", .str "prepared"),
    ("action", .str "submit"),
    ("intent_id", .str "intent-1"),
    ("prediction_id", .str "prediction-1"),
    ("paper_order_id", .str "paper-1"),
    ("market_end_at", .str marketEndAt),
    ("policy", .obj [("policy_version", .str "v3-live-canary-v1"),
      ("max_submission_attempts", .int 1)]),
    ("request", .obj [("selected_side", .str "up"), ("target_notional_usd", .str "5.00"),
      ("limit_price", .str "7.2E-1"), ("requested_shares", .str "0.68E+1")])]

/-- SHA-256 on the encoding of the sample's request. -/
def requestDigest : HexDigest := ⟨"2c3fe56d255796f7cce9f0f27e439e8591684ccc07f32cd093432f748b6ac325", by decide +kernel⟩

/-- Values are their own encoding; only the request is hashed, and nothing is signed. -/
def payloadCrypto : Crypto where
  Encoded := Json
  encode := id
  encode_injective := fun _ _ h => h
  sha256 := fun _ => requestDigest
  hmac := fun _ _ => requestDigest

theorem samplePayload_built : (PromptKind.candidate.build payloadCrypto
    (samplePayload "2026-01-01T00:05:00+00:00") (utcDateTime (Timestamp.ofSeconds 1767225845))).isOk =
      true := by decide +kernel

theorem samplePayload_pending : (TelegramApproval.newPending payloadCrypto
    (samplePayload "2026-01-01T00:05:00+00:00") 7 7 (utcDateTime (Timestamp.ofSeconds 1767225845)) none
    "AbCdEfGh-_123456").isOk = true := by decide +kernel

/-- A prompt 55 seconds before the end of the market. -/
theorem prompt_roundTrip_sample : ∃ observed quote text prompt pending,
    ReadBack (samplePayload "2026-01-01T00:05:00+00:00") observed quote text prompt ∧
      RemainingWithin quote observed prompt ∧ InTime pending observed prompt := by
  obtain ⟨text, htext⟩ := exists_ok_of_isOk samplePayload_built
  obtain ⟨pending, hpending⟩ := exists_ok_of_isOk samplePayload_pending
  obtain ⟨observed, quote, validated, prompt, -, -, hread, hremaining, hinTime⟩ :=
    prompt_roundTrip payloadCrypto .candidate (samplePayload "2026-01-01T00:05:00+00:00")
      (utcDateTime (Timestamp.ofSeconds 1767225845)) 7 7 none "AbCdEfGh-_123456" text pending htext
      hpending
  exact ⟨observed, quote, text, prompt, pending, hread, hremaining, hinTime⟩

/-- Where a microsecond is lost in the float, the tenths are half a tenth and a microsecond away. -/
theorem tenthsOf_far : tenthsOf 17179869184050001 = 171798691840 := by decide +kernel

theorem farPayload_built : (PromptKind.ready.build payloadCrypto
    (samplePayload "2514-05-30T01:53:04.050001+00:00") (utcDateTime 0)).isOk = true := by
  decide +kernel

theorem farPayload_pending : (TelegramApproval.newPending payloadCrypto
    (samplePayload "2514-05-30T01:53:04.050001+00:00") 7 7 (utcDateTime 0) none
    "AbCdEfGh-_123456").isOk = true := by decide +kernel

/-- Not every prompt is within half a tenth: `2 ^ 34` seconds before the end the float is too coarse. -/
theorem prompt_remaining_far : ¬ ∀ (C : Crypto) (kind : PromptKind) (prepared : Dict)
    (observedAt : DateTime) (userId chatId : ℤ) (nonce : Option String) (drawn text : String)
    (pending : Dict), kind.build C prepared observedAt = .ok text →
    TelegramApproval.newPending C prepared userId chatId observedAt nonce drawn = .ok pending →
    ∀ observed quote validated prompt, TelegramApproval.utc observedAt = .ok observed →
      Checked prepared observed TelegramApproval.minApprovalWindowSeconds quote validated →
      ReadBack prepared observed quote text prompt →
      |prompt.timeRemaining.toRat - ((quote.marketEnd - observed : ℤ) : ℚ) / 1000000| ≤ 1 / 20 := by
  intro hall
  obtain ⟨text, htext⟩ := exists_ok_of_isOk farPayload_built
  obtain ⟨pending, hpending⟩ := exists_ok_of_isOk farPayload_pending
  obtain ⟨observed, quote, validated, prompt, -, hobserved, hchecked, hread⟩ := readBack_build htext
  have herror := hall payloadCrypto .ready _ _ _ _ _ _ text pending htext hpending observed quote
    validated prompt hobserved hchecked hread
  have hzero : TelegramApproval.utc (utcDateTime 0) = .ok 0 := by decide +kernel
  have hend : TelegramApproval.marketEndOf (samplePayload "2514-05-30T01:53:04.050001+00:00") =
      .ok 17179869184050001 := by decide +kernel
  have hmarketEnd : quote.marketEnd = 17179869184050001 :=
    Except.ok.inj (hchecked.marketEnd.symm.trans hend)
  obtain rfl := Except.ok.inj (hobserved.symm.trans hzero)
  rw [hread.timeRemaining, hmarketEnd, sub_zero, toRat_tenths, tenthsOf_far] at herror
  norm_num [abs_le] at herror

end BpEngine.AutoApprover
