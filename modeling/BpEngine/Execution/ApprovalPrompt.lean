import BpEngine.Execution.TelegramApproval
import BpEngine.Library.Binary64
import BpEngine.Library.DecimalText

/-!
# Approval prompts

`build_prompt`, `build_candidate_prompt` and `new_pending` of `execution/telegram_approval.py`: the text
an approval is asked with, and the record that is waiting for it.

* `promptLines` are the lines both prompts share, between a title and a tail of their own.
* `newPending_eq_ok`: the record expires after the lifetime of an approval or with the safety floor
  before the end of the market, whichever comes first.
-/

namespace BpEngine.TelegramApproval

/-- `MIN_APPROVAL_WINDOW_SECONDS`. -/
def minApprovalWindowSeconds : ℤ := 20

/-- `MAX_APPROVAL_LIFETIME_SECONDS`. -/
def maxApprovalLifetimeSeconds : ℤ := 45

/-! ## The prompts -/

/-- `format(value, "f")`. -/
def fixedText (value : Decimal) : String := String.ofList value.fixedChars

/-- A binary float with one decimal, half to even: the number that `format(value, ".1f")` shows. -/
def oneDecimal (value : ℚ) : Decimal := ⟨Binary64.roundHalfEven (value * 10), -1⟩

/-- `float(validated["seconds_remaining"])`: `total_seconds` divides the microseconds. -/
def remainingSeconds (validated : Validated) : ℚ :=
  Binary64.round ((validated.secondsRemaining : ℚ) / 1000000)

/-- The lines of a prompt. -/
def promptLines (title : String) (tail : List String) (validated : Validated) : List String :=
  [title,
    "",
    "Side: " ++ validated.selectedSide.toUpper,
    "Limit: " ++ fixedText validated.limitPrice,
    "Shares: " ++ fixedText validated.requestedShares,
    "Maximum spend: $" ++ fixedText validated.targetNotionalUsd,
    "Time remaining: " ++ fixedText (oneDecimal (remainingSeconds validated)) ++ "s"] ++ tail

/-- The lines, with line feeds between them. -/
def joinLines (lines : List String) : String :=
  String.ofList (List.intercalate ['\n'] (lines.map String.toList))

/-- `build_prompt`. -/
def buildPrompt (C : Crypto) (prepared : Dict) (observedAt : DateTime) : Outcome String := do
  let validated ← validatePrepared C prepared observedAt minApprovalWindowSeconds
  .ok (joinLines (promptLines "BP V3 LIVE TRADE READY"
    ["", "Approve only if you want this exact real-money order submitted."] validated))

/-- `build_candidate_prompt`. -/
def buildCandidatePrompt (C : Crypto) (prepared : Dict) (observedAt : DateTime) :
    Outcome String := do
  let validated ← validatePrepared C prepared observedAt minApprovalWindowSeconds
  .ok (joinLines (promptLines "BP V3 LIVE TRADE CANDIDATE"
    ["", "Final live risk and Johannesburg execution checks are still running. " ++
        "Approval does not bypass them.", "",
      "Approve only if you want this exact real-money order submitted " ++
        "when every final gate passes."] validated))

/-! ## The pending record -/

/-- `datetime.fromisoformat(text).astimezone(UTC)` of a time with an offset. -/
def awareTime (text : String) : Outcome Timestamp := do
  inUtc .valueError "naive time" (← dateTimeOf text)

/-- `new_pending`; `drawn` is what `secrets.token_urlsafe` gives. -/
def newPending (C : Crypto) (prepared : Dict) (telegramUserId telegramChatId : ℤ)
    (createdAt : DateTime) (nonce : Option String) (drawn : String) : Outcome Dict := do
  let validated ← validatePrepared C prepared createdAt minApprovalWindowSeconds
  let created ← utc createdAt
  let marketEnd ← awareTime validated.marketEndAt
  let expires := min (← addSeconds created maxApprovalLifetimeSeconds)
    (← addSeconds marketEnd (-submitSafetyFloorSeconds))
  check (¬ expires ≤ created) "approval window already closed"
  let nonce := nonce.getD drawn
  check (nonce ≠ "" ∧ ':' ∉ nonce.toList ∧ (bytes nonce).length ≤ 40) "approval nonce invalid"
  .ok [("schema_version", .int 1),
    ("status", .str "pending"),
    ("intent_id", .str validated.intentId),
    ("prediction_id", .str validated.predictionId),
    ("paper_order_id", .str validated.paperOrderId),
    ("request_sha256", .str validated.requestSha256),
    ("telegram_user_id", .int telegramUserId),
    ("telegram_chat_id", .int telegramChatId),
    ("nonce", .str nonce),
    ("created_at", .str (IsoTime.isoformat created)),
    ("expires_at", .str (IsoTime.isoformat expires))]

/-- A time of the record. -/
def pendingTime (pending : Dict) (name : String) : Outcome Timestamp :=
  match pending.lookup name with
  | none => raise .keyError name
  | some value => awareTime value.text

/-- The first checks of `validate_callback`: the record is pending and has not expired. -/
def checkPending (pending : Dict) (observedAt : DateTime) : Outcome Unit := do
  let observed ← utc observedAt
  check ((pending.get "status").isStr "pending") "approval is not pending"
  let expires ← pendingTime pending "expires_at"
  check (¬ expires ≤ observed) "approval expired"

/-! ## What was validated -/

/-- The numbers of a prepared payload, and the end of its market. -/
structure Quote where
  request : Dict
  limitPrice : Decimal
  requestedShares : Decimal
  target : Decimal
  marketEnd : Timestamp

/-- The payload has these numbers, they pass the checks, and they are what was validated. -/
structure Checked (prepared : Dict) (observed : Timestamp) (minimum : ℤ) (quote : Quote)
    (validated : Validated) : Prop where
  request : prepared.get "request" = .obj quote.request
  limit : decimalOf (quote.request.get "limit_price") "limit_price" = .ok quote.limitPrice
  shares : decimalOf (quote.request.get "requested_shares") "requested_shares" =
    .ok quote.requestedShares
  spend : decimalOf (quote.request.get "target_notional_usd") "target_notional_usd" = .ok quote.target
  marketEnd : marketEndOf prepared = .ok quote.marketEnd
  side : validated.selectedSide = selectedSideOf quote.request prepared
  sides : validated.selectedSide ∈ ["up", "down"]
  limitPrice : validated.limitPrice = quote.limitPrice.formatF
  limitPos : 0 < quote.limitPrice.toRat
  limitLe : quote.limitPrice.toRat ≤ 1
  requestedShares : validated.requestedShares = quote.requestedShares.formatF
  sharesPos : 0 < quote.requestedShares.toRat
  target : validated.targetNotionalUsd = quote.target.formatF
  targetFive : quote.target.toRat = 5
  remaining : validated.secondsRemaining = quote.marketEnd - observed
  margin : Timestamp.ofSeconds minimum ≤ validated.secondsRemaining
  written : validated.marketEndAt = IsoTime.isoformat quote.marketEnd

section Spec

variable {C : Crypto} {prepared : Dict} {observedAt : DateTime}

theorem validatePrepared_checked {minimum : ℤ} {validated : Validated}
    (h : validatePrepared C prepared observedAt minimum = .ok validated) :
    ∃ observed quote, utc observedAt = .ok observed ∧
      Checked prepared observed minimum quote validated := by
  simp only [validatePrepared, bind_eq_ok, check_eq_ok] at h
  obtain ⟨observed, hobserved, -, -, -, -, policy, -, request, hrequest, -, -, attempts, -, -, -,
    target, htarget, -, hfive, -, -, marketEnd, hmarketEnd, -, hmargin, price, hprice, shares, hshares,
    -, hside, -, ⟨hpos, hle⟩, -, hsharesPos, hvalidated⟩ := h
  obtain rfl := Except.ok.inj hvalidated
  refine ⟨observed, ⟨request, price, shares, target, marketEnd⟩, hobserved, ?_⟩
  have hzero : (0 : Decimal).toRat = 0 := Decimal.toRat_zero
  exact {
    request := requireMapping_eq_ok hrequest
    limit := hprice
    shares := hshares
    spend := htarget
    marketEnd := hmarketEnd
    side := rfl
    sides := hside
    limitPrice := rfl
    limitPos := by rwa [Decimal.lt_iff, hzero] at hpos
    limitLe := by
      rw [Decimal.le_iff] at hle
      simpa [Decimal.toRat] using hle
    requestedShares := rfl
    sharesPos := by rwa [Decimal.le_iff, hzero, not_le] at hsharesPos
    target := rfl
    targetFive := by
      rw [Decimal.same_iff] at hfive
      simpa [Decimal.toRat] using hfive
    remaining := rfl
    margin := not_lt.mp hmargin
    written := rfl }

theorem awareTime_isoformat {time : Timestamp} (h : IsoTime.InRange time) :
    awareTime (IsoTime.isoformat time) = .ok time := by
  unfold awareTime
  rw [dateTimeOf_isoformat h, ok_bind, inUtc_utcDateTime h]

/-- **When a pending record expires.** -/
theorem newPending_eq_ok {userId chatId : ℤ} {nonce : Option String} {drawn : String} {pending : Dict}
    (h : newPending C prepared userId chatId observedAt nonce drawn = .ok pending) :
    ∃ validated created quote, validatePrepared C prepared observedAt minApprovalWindowSeconds =
        .ok validated ∧ utc observedAt = .ok created ∧
      Checked prepared created minApprovalWindowSeconds quote validated ∧
      pendingTime pending "created_at" = .ok created ∧
      pendingTime pending "expires_at" = .ok (min
        (created + Timestamp.ofSeconds maxApprovalLifetimeSeconds)
        (quote.marketEnd + Timestamp.ofSeconds (-submitSafetyFloorSeconds))) ∧
      pending.get "status" = .str "pending" := by
  simp only [newPending, bind_eq_ok, check_eq_ok, addSeconds_eq_ok] at h
  obtain ⟨validated, hvalidated, created, hcreated, marketEnd, hmarketEnd, _, ⟨hlifetime, rfl⟩, _,
    ⟨hmargin, rfl⟩, -, -, -, -, hpending⟩ := h
  obtain ⟨observed, quote, hobserved, hchecked⟩ := validatePrepared_checked hvalidated
  obtain rfl := Except.ok.inj (hcreated.symm.trans hobserved)
  rw [hchecked.written, awareTime_isoformat (marketEndOf_inRange hchecked.marketEnd)] at hmarketEnd
  obtain rfl := Except.ok.inj hmarketEnd
  obtain rfl := Except.ok.inj hpending
  refine ⟨validated, created, quote, hvalidated, hcreated, hchecked, ?_, ?_, rfl⟩
  · exact awareTime_isoformat (inUtc_inRange hcreated)
  · exact awareTime_isoformat ⟨le_min hlifetime.1 hmargin.1, (min_le_left _ _).trans_lt hlifetime.2⟩

end Spec

end BpEngine.TelegramApproval
