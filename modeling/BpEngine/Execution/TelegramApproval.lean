import BpEngine.Execution.Documents

/-!
# Telegram approvals

`validate_prepared` and `validate_approved_handoff` of `execution/telegram_approval.py`: the checks of
a prepared payload and of the approval that it was given.
-/

namespace BpEngine.TelegramApproval

/-- `if not condition: raise ApprovalError(message)`. -/
def check (condition : Prop) [Decidable condition] (message : String) : Outcome Unit :=
  require condition .approvalError message

/-- `_utc`. -/
def utc (value : DateTime) : Outcome Timestamp :=
  inUtc .approvalError "datetime must be timezone-aware" value

/-- `_decimal`. -/
def decimalOf (value : Json) (name : String) : Outcome Decimal :=
  match decimalOfText value.text with
  | none => raise .approvalError (name ++ " must be numeric")
  | some (.finite number) => .ok number
  | some _ => raise .approvalError (name ++ " must be finite")

/-- `SUBMIT_SAFETY_FLOOR_SECONDS`. -/
def submitSafetyFloorSeconds : ℤ := 10

/-- What `validate_prepared` returns. -/
structure Validated where
  intentId : String
  predictionId : String
  paperOrderId : String
  marketEndAt : String
  /-- In microseconds. -/
  secondsRemaining : ℤ
  selectedSide : String
  limitPrice : Decimal
  requestedShares : Decimal
  targetNotionalUsd : Decimal
  requestSha256 : String

/-- `request.get("selected_side") or prepared.get("selected_side") or ""`. -/
def selectedSideOf (request prepared : Dict) : String :=
  if (request.get "selected_side").truthy then (request.get "selected_side").text
  else (prepared.get "selected_side").textOrEmpty

/-- `market_end_at` as a `datetime`; a `ValueError` is replaced. -/
def marketEndOf (prepared : Dict) : Outcome Timestamp :=
  match IsoTime.fromisoformat (prepared.get "market_end_at").textOrEmpty with
  | none => raise .approvalError "market_end_at invalid"
  | some time => utc time

/-- `validate_prepared`. -/
def validatePrepared (C : Crypto) (prepared : Dict) (observedAt : DateTime)
    (minimumSecondsRemaining : ℤ) : Outcome Validated := do
  let observed ← utc observedAt
  check ((prepared.get "status").isStr "prepared") "prepared status invalid"
  check ((prepared.get "action").isStr "submit") "prepared action invalid"
  let policy ← requireMapping (prepared.get "policy") .approvalError
    "prepared policy/request missing"
  let request ← requireMapping (prepared.get "request") .approvalError
    "prepared policy/request missing"
  check ((policy.get "policy_version").isStr "v3-live-canary-v1") "policy version mismatch"
  check ((← (policy.getOr "max_submission_attempts" (.int 0)).toInt) = 1)
    "submission attempt policy mismatch"
  let target ← decimalOf (request.get "target_notional_usd") "target_notional_usd"
  check (Decimal.Same target ⟨5, 0⟩) "target notional changed"
  let intentId := (prepared.get "intent_id").textOrEmpty
  let predictionId := (prepared.get "prediction_id").textOrEmpty
  let paperOrderId := (prepared.get "paper_order_id").textOrEmpty
  check (intentId ≠ "" ∧ predictionId ≠ "" ∧ paperOrderId ≠ "") "prepared identity missing"
  let marketEnd ← marketEndOf prepared
  check (¬ marketEnd - observed < Timestamp.ofSeconds minimumSecondsRemaining)
    "prepared intent too close to market end"
  let limitPrice ← decimalOf (request.get "limit_price") "limit_price"
  let requestedShares ← decimalOf (request.get "requested_shares") "requested_shares"
  check (selectedSideOf request prepared ∈ ["up", "down"]) "selected side invalid"
  check (0 < limitPrice ∧ limitPrice ≤ ⟨1, 0⟩) "limit price invalid"
  check (¬ requestedShares ≤ 0) "requested shares invalid"
  .ok {
    intentId
    predictionId
    paperOrderId
    marketEndAt := IsoTime.isoformat marketEnd
    secondsRemaining := marketEnd - observed
    selectedSide := selectedSideOf request prepared
    limitPrice := Decimal.formatF limitPrice
    requestedShares := Decimal.formatF requestedShares
    targetNotionalUsd := Decimal.formatF target
    requestSha256 := C.payloadSha256 request }

/-- What `validate_approved_handoff` returns. -/
structure Approved extends Validated where
  approvedAt : String
  expiresAt : String
  callbackQueryId : String
  telegramUserId : ℤ
  telegramChatId : ℤ

/-- `_utc(datetime.fromisoformat(str(approval[name])))`; a missing entry and a `ValueError` are
replaced, an error of `_utc` is not. -/
def approvalTime (approval : Dict) (name : String) : Outcome Timestamp :=
  match approval.lookup name with
  | none => raise .approvalError "approval timestamps invalid"
  | some value =>
    match IsoTime.fromisoformat value.text with
    | none => raise .approvalError "approval timestamps invalid"
    | some time => utc time

/-- `validate_approved_handoff`. -/
def validateApprovedHandoff (C : Crypto) (prepared approval : Dict) (observedAt : DateTime) :
    Outcome Approved := do
  let observed ← utc observedAt
  check ((approval.get "status").isStr "approved") "approval is not approved"
  let validated ← validatePrepared C prepared (utcDateTime observed) submitSafetyFloorSeconds
  check ((approval.get "intent_id").textOrEmpty = validated.intentId) "approved intent_id mismatch"
  check ((approval.get "prediction_id").textOrEmpty = validated.predictionId)
    "approved prediction_id mismatch"
  check ((approval.get "paper_order_id").textOrEmpty = validated.paperOrderId)
    "approved paper_order_id mismatch"
  check ((approval.get "request_sha256").textOrEmpty = validated.requestSha256)
    "approved request changed"
  let approvedAt ← approvalTime approval "approved_at"
  let expiresAt ← approvalTime approval "expires_at"
  check (¬ expiresAt ≤ approvedAt) "approval timestamp invalid"
  check (¬ observed < approvedAt) "approval timestamp is in the future"
  check (¬ expiresAt ≤ observed) "approval expired"
  .ok {
    validated with
    approvedAt := IsoTime.isoformat approvedAt
    expiresAt := IsoTime.isoformat expiresAt
    callbackQueryId := (approval.get "callback_query_id").textOrEmpty
    telegramUserId := ← (approval.getOr "telegram_user_id" (.int 0)).toInt
    telegramChatId := ← (approval.getOr "telegram_chat_id" (.int 0)).toInt }

/-! ## What the checks establish -/

section Spec

variable {C : Crypto} {prepared approval : Dict} {observedAt : DateTime} {observed : Timestamp}

@[simp] theorem check_eq_ok {condition : Prop} [Decidable condition] {message : String} {u : Unit} :
    check condition message = .ok u ↔ condition := require_eq_ok

theorem check_true {condition : Prop} [Decidable condition] {message : String} (h : condition) :
    check condition message = .ok () := check_eq_ok.2 h

theorem approvalTime_inRange {name : String} {time : Timestamp}
    (h : approvalTime approval name = .ok time) : IsoTime.InRange time := by
  unfold approvalTime at h
  split at h
  · exact absurd h raise_ne_ok
  · split at h
    · exact absurd h raise_ne_ok
    · exact inUtc_inRange h

theorem marketEndOf_inRange {time : Timestamp} (h : marketEndOf prepared = .ok time) :
    IsoTime.InRange time := by
  unfold marketEndOf at h
  split at h
  · exact absurd h raise_ne_ok
  · exact inUtc_inRange h

/-- A validated payload has an id, and its market ends after the margin. -/
theorem validatePrepared_eq_ok {minimum : ℤ} {validated : Validated}
    (h : validatePrepared C prepared observedAt minimum = .ok validated) :
    ∃ marketEnd, marketEndOf prepared = .ok marketEnd ∧
      validated.marketEndAt = IsoTime.isoformat marketEnd ∧ validated.intentId ≠ "" ∧
      ∃ observed, utc observedAt = .ok observed ∧
        observed + Timestamp.ofSeconds minimum ≤ marketEnd := by
  simp only [validatePrepared, bind_eq_ok, check_eq_ok] at h
  obtain ⟨observed, hobserved, -, -, -, -, policy, -, request, -, -, -, attempts, -, -, -, target, -,
    -, -, -, hids, marketEnd, hmarketEnd, -, hmargin, price, -, shares, -, -, -, -, -, -, -,
    hvalidated⟩ := h
  cases hvalidated
  refine ⟨marketEnd, hmarketEnd, rfl, hids.1, observed, hobserved, ?_⟩
  have := not_lt.mp hmargin
  linarith

/-- An approval that is accepted was given before, and is not expired. -/
theorem validateApprovedHandoff_eq_ok {approved : Approved}
    (h : validateApprovedHandoff C prepared approval observedAt = .ok approved) :
    ∃ observed approvedAt expiresAt, utc observedAt = .ok observed ∧
      approvalTime approval "approved_at" = .ok approvedAt ∧
      approvalTime approval "expires_at" = .ok expiresAt ∧
      approved.approvedAt = IsoTime.isoformat approvedAt ∧
      approved.expiresAt = IsoTime.isoformat expiresAt ∧
      approvedAt ≤ observed ∧ observed < expiresAt ∧
      validatePrepared C prepared (utcDateTime observed) submitSafetyFloorSeconds =
        .ok approved.toValidated := by
  simp only [validateApprovedHandoff, bind_eq_ok, check_eq_ok] at h
  obtain ⟨observed, hobserved, -, -, validated, hvalidated, -, -, -, -, -, -, -, -, approvedAt,
    happrovedAt, expiresAt, hexpiresAt, -, -, -, hpast, -, hopen, user, -, chat, -, happroved⟩ := h
  cases happroved
  exact ⟨observed, approvedAt, expiresAt, hobserved, happrovedAt, hexpiresAt, rfl, rfl,
    not_lt.mp hpast, not_le.mp hopen, hvalidated⟩

end Spec

end BpEngine.TelegramApproval
