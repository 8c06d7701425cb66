import BpEngine.FastLive.Account

/-!
# Recording results, official reconciliations and settlements

The three writers of `execution/fast_live_result.py`.  Each runs in one transaction: it either
returns the ledger after its writes or raises and leaves the ledger as it was.

* `recordFastLiveResult` records the outcome of an attempt and its reconciliation row;
* `recordOfficialReconciliation` records what the exchange reports of an accepted order;
* `settlePosition` closes a confirmed fill once the market has an official outcome.
-/

namespace BpEngine.FastLive

open BpEngine.Execution BpEngine.LiveReadiness BpEngine.Table

/-- `_intent`: the fast-live intent with the given id. -/
def findIntent (ledger : Ledger) (intentId : String) : Outcome IntentRow :=
  match ledger.intents.find? fun row =>
      row.intentId == intentId && row.payload.policyVersion == canaryPolicyVersion with
  | none => raise .fastLiveResultError "unknown fast-live intent"
  | some row =>
    if row.payload.evidence.phase = fastLivePhase then .ok row
    else raise .fastLiveResultError "intent is not a fast-live intent"

/-- One comparison of `_validate_binding`. -/
def validateBound (name expected : String) (actual : Option String) : Outcome Unit :=
  require (expected ≠ "" ∧ orEmpty actual = expected) .fastLiveResultError
    s!"fast-live result binding mismatch: {name}"

/-- `_validate_binding`. -/
def validateBinding (intent : IntentRow) (result : FastLiveResult) : Outcome Unit := do
  validateBound "prediction_id" intent.payload.predictionId result.predictionId
  validateBound "paper_order_id" intent.payload.evidence.paperOrderId result.paperOrderId
  validateBound "request_sha256" intent.payload.evidence.requestSha256 result.requestSha256

/-- `str(result.get("external_order_id") or "") or None`. -/
def externalOrder (result : FastLiveResult) : Option String :=
  result.externalOrderId.join.filter (· ≠ "")

/-- `_store_reconciliation`: a row that carries the clean account over. -/
def storeReconciliation (D : Digests) (ledger : Ledger) (observedAt : Timestamp)
    (intentId : String) (externalOrderId : Option String) (status : ResultStatus)
    (submissionAttemptConsumed : Bool) (unresolvedCount criticalCount : ℤ) :
    Outcome (StoreResult ReconciliationRow) := do
  let (carriedFrom, account) ← carryCleanAccount ledger observedAt
  storeReconciliationRun D ledger observedAt unresolvedCount criticalCount
    { source := some .fastLiveResult
      reconciliationKind := some (if criticalCount ≠ 0 then
        .fastLiveSubmissionPendingOfficialReconciliation else .fastLiveTerminalNoExposure)
      intentId := some intentId
      externalOrderId
      status := some status
      submissionAttemptConsumed := some submissionAttemptConsumed
      accountSnapshot := some account
      accountSnapshotCarriedFrom := some carriedFrom }

/-! ## Recording a result -/

/-- What `record_fast_live_result` returns. -/
structure RecordResponse where
  alreadyTerminal : Bool
  intentId : String
  eventType : Option EventType := none
  externalOrderId : Option String := none
  reconciliationId : Option String := none
  officialReconciliationRequired : Bool
deriving DecidableEq, Repr

/-- The statuses a result without an attempt may have. -/
def isNonAttemptStatus : ResultStatus → Bool
  | .freshBookRejected | .preAttemptRetryExhausted | .telegramSkipped | .telegramExpired
  | .approvalRecoveryBlocked | .preSubmissionBlocked => true
  | _ => false

/-- The text of a status in the `reason` of a closed intent. -/
def ResultStatus.text : ResultStatus → String
  | .networkSubmissionAttemptStarting => "network_submission_attempt_starting"
  | .accepted => "accepted"
  | .rejected => "rejected"
  | .submissionUnknown => "submission_unknown"
  | .alreadyTerminal => "already_terminal"
  | .freshBookRejected => "fresh_book_rejected"
  | .preAttemptRetryExhausted => "pre_attempt_retry_exhausted"
  | .telegramSkipped => "telegram_skipped"
  | .telegramExpired => "telegram_expired"
  | .approvalRecoveryBlocked => "approval_recovery_blocked"
  | .preSubmissionBlocked => "pre_submission_blocked"
  | .other text => text

/-- `str(result.get("reason") or status)`. -/
def closeReason (result : FastLiveResult) (status : ResultStatus) : String :=
  if orEmpty result.reason = "" then status.text else orEmpty result.reason

/-- A result whose attempt was not consumed: the intent is closed before submission. -/
def recordClosed (D : Digests) (ledger : Ledger) (result : FastLiveResult) (intentId : String)
    (status : ResultStatus) (observedAt : Timestamp) : Outcome (Ledger × RecordResponse) := do
  require (isNonAttemptStatus status = true) .fastLiveResultError
    "unsupported non-attempt fast-live result"
  let event ← storeOrderEvent ledger ⟨intentId, .closedBeforeSubmission, none⟩ intentId
    .closedBeforeSubmission observedAt none
    { phase := fastLivePhase
      status := some status
      reason := some (closeReason result status)
      errorType := result.errorType
      marketability := result.marketability
      submissionAttemptConsumed := some false }
  let stored ← storeReconciliation D event.ledger observedAt intentId none status false 0 0
  .ok (stored.ledger,
    { alreadyTerminal := false
      intentId
      eventType := some .closedBeforeSubmission
      reconciliationId := some stored.record.reconciliationId
      officialReconciliationRequired := false })

/-- The event type of a consumed attempt; `none` for an already terminal one. -/
def attemptEvent (status : ResultStatus) (externalOrderId : Option String) :
    Outcome (Option EventType) :=
  match status with
  | .accepted =>
    if externalOrderId = none then
      raise .fastLiveResultError "accepted fast-live result missing order id"
    else .ok (some .accepted)
  | .rejected => .ok (some .rejected)
  | .submissionUnknown => .ok (some .submissionUnknown)
  | .alreadyTerminal => .ok none
  | _ => raise .fastLiveResultError "unsupported attempted fast-live result status"

/-- The type of the event of a cancellation. -/
def cancelEvent (cancellation : Cancellation) : EventType :=
  if cancellation.cancelled then .cancelled else .cancellationUnknown

/-- The event of the cancellation that follows an accepted order. -/
def storeCancellation (ledger : Ledger) (result : FastLiveResult) (intentId : String)
    (eventType : EventType) (externalOrderId : Option String) (observedAt : Timestamp) :
    Outcome Ledger :=
  match result.cancellation with
  | some cancellation =>
    if eventType = .accepted ∧ externalOrderId ≠ none then do
      let stored ← storeOrderEvent ledger ⟨intentId, cancelEvent cancellation, none⟩ intentId
        (cancelEvent cancellation) observedAt externalOrderId
        { phase := fastLivePhase
          cancellation := some cancellation
          ttlSeconds := some 2 }
      .ok stored.ledger
    else .ok ledger
  | none => .ok ledger

/-- A result whose attempt was consumed and has an outcome to record. -/
def recordAttempt (D : Digests) (ledger : Ledger) (result : FastLiveResult) (intentId : String)
    (status : ResultStatus) (eventType : EventType) (observedAt : Timestamp) :
    Outcome (Ledger × RecordResponse) := do
  let externalOrderId := externalOrder result
  let event ← storeOrderEvent ledger ⟨intentId, eventType, none⟩ intentId eventType observedAt
    externalOrderId
    { phase := fastLivePhase
      status := some status
      marketability := result.marketability
      quoteSource := result.quoteSource
      sourceToReceive := result.sourceToReceive
      quoteLatency := result.quoteLatency
      signLatency := result.signLatency
      quoteToPost := result.quoteToPost
      postLatency := result.postLatency
      submissionAttemptConsumed := some true }
  let cancelled ← storeCancellation event.ledger result intentId eventType externalOrderId
    observedAt
  let official : Bool := eventType ≠ .rejected
  let count : ℤ := if official then 1 else 0
  let stored ← storeReconciliation D cancelled observedAt intentId
    (if official then externalOrderId else none) status true count count
  .ok (stored.ledger,
    { alreadyTerminal := false
      intentId
      eventType := some eventType
      externalOrderId
      reconciliationId := some stored.record.reconciliationId
      officialReconciliationRequired := official })

/-- `record_fast_live_result`. -/
def recordFastLiveResult (D : Digests) (ledger : Ledger) (result : FastLiveResult)
    (observedAt : Timestamp) : Outcome (Ledger × RecordResponse) := do
  let intentId := orEmpty result.intentId
  match result.status with
  | none => raise .fastLiveResultError "fast-live result identity missing"
  | some status =>
    require (intentId ≠ "") .fastLiveResultError "fast-live result identity missing"
    let intent ← findIntent ledger intentId
    validateBinding intent result
    if result.consumed then
      match ← attemptEvent status (externalOrder result) with
      | none =>
        .ok (ledger,
          { alreadyTerminal := true
            intentId
            officialReconciliationRequired := true })
      | some eventType => recordAttempt D ledger result intentId status eventType observedAt
    else recordClosed D ledger result intentId status observedAt

/-! ## Official reconciliation -/

/-- What `record_fast_live_official_reconciliation` returns. -/
structure OfficialResponse where
  intentId : String
  externalOrderId : String
  reconciliationId : String
  confirmedFilledShares : Decimal
  confirmedFilledNotionalUsd : Decimal
  settlementReconciliationRequired : Bool
deriving DecidableEq, Repr

/-- The evidence of an official reconciliation row. -/
def officialEvidence (intentId externalOrderId carriedFrom : String) (official : OfficialState)
    (filledShares filledNotional : Decimal) (account : AccountEvidence) : ReconciliationEvidence :=
  let zeroFill : Bool := filledShares.isZero
  { source := some .fastLiveOfficialReconciliation
    reconciliationKind := some (if zeroFill then .postSubmissionOfficialZeroFill
      else .postSubmissionOfficialFillOpenExposure)
    intentId := some intentId
    externalOrderId := some externalOrderId
    officialOpenOrderCount := some 0
    confirmedFilledShares := some filledShares.formatF
    confirmedFilledNotionalUsd := some filledNotional.formatF
    officialFillState := official.fillState
    networkSubmissionAttemptConsumed := some true
    matchingTradeCount := some (official.matchingTradeCount.getD 0)
    accountSnapshot := some
      { totalExposureUsd := (if zeroFill then 0 else filledNotional).formatF
        realizedDailyPnlUsd := account.realizedDailyPnlUsd.formatF
        consecutiveLosses := account.consecutiveLosses }
    accountSnapshotCarriedFrom := some carriedFrom }

/-- `record_fast_live_official_reconciliation`. -/
def recordOfficialReconciliation (D : Digests) (ledger : Ledger) (result : FastLiveResult)
    (official : OfficialState) (observedAt : Timestamp) :
    Outcome (Ledger × OfficialResponse) := do
  let intentId := orEmpty result.intentId
  let externalOrderId := orEmpty result.externalOrderId.join
  require (intentId ≠ "" ∧ externalOrderId ≠ "") .fastLiveResultError
    "official reconciliation binding missing"
  require (official.orderStillOpen ≠ some true) .fastLiveResultError "official order still open"
  require (official.openOrderCount.getD (-1) = 0) .fastLiveResultError
    "official open orders present"
  let filledShares := official.confirmedFilledShares.getD 0
  let filledNotional := official.confirmedFilledNotionalUsd.getD 0
  require (0 ≤ filledShares ∧ 0 ≤ filledNotional) .fastLiveResultError
    "official fill totals invalid"
  let intent ← findIntent ledger intentId
  validateBinding intent result
  require (∃ event ∈ ledger.events, event.intentId = intentId ∧ event.eventType = .accepted ∧
      event.externalOrderId = some externalOrderId) .fastLiveResultError
    "accepted event missing before reconciliation"
  let (carriedFrom, account) ← carryPendingAccount ledger intentId observedAt
  let count : ℤ := if filledShares.isZero then 0 else 1
  let stored ← storeReconciliationRun D ledger observedAt count count
    (officialEvidence intentId externalOrderId carriedFrom official filledShares filledNotional
      account)
  .ok (stored.ledger,
    { intentId
      externalOrderId
      reconciliationId := stored.record.reconciliationId
      confirmedFilledShares := filledShares.formatF
      confirmedFilledNotionalUsd := filledNotional.formatF
      settlementReconciliationRequired := 0 < filledShares })

/-! ## Settlement -/

/-- The columns of `live_prediction_evaluations` the settlement reads. -/
structure Evaluation where
  predictionId : String
  officialOutcome : String
  labelVersion : String
deriving DecidableEq, Repr

/-- What `settle_fast_live_position_if_resolved` returns. -/
inductive SettleResponse where
  | alreadySettled (intentId reconciliationId : String) (riskRealizedPnlUsd : Decimal)
  | waiting (reason intentId : String)
  | settled (intentId reconciliationId officialOutcome : String) (selectedSide : Side)
      (confirmedFilledShares confirmedFilledNotionalUsd modeledFeeUsd riskRealizedPnlUsd : Decimal)
      (consecutiveLosses : ℤ)
deriving DecidableEq, Repr

/-- The row is the official settlement of the intent. -/
def isSettlementOf (intentId : String) (row : ReconciliationRow) : Bool :=
  row.payload.evidence.intentId == some intentId &&
    row.payload.evidence.reconciliationKind == some .fastLiveOfficialSettlement

/-- The row is an official confirmed fill of the intent. -/
def isFillOf (intentId : String) (row : ReconciliationRow) : Bool :=
  row.payload.evidence.intentId == some intentId &&
    row.payload.evidence.reconciliationKind == some .postSubmissionOfficialFillOpenExposure

/-- The amounts of a settlement. -/
structure Settlement where
  filledShares : Decimal
  filledNotional : Decimal
  averageFillPrice : Decimal
  modeledFee : Decimal
  riskRealizedPnl : Decimal
deriving DecidableEq, Repr

/-- The average price of a confirmed fill, which must be a positive fill at a price within
`(0, 1]`. -/
def averageFillPrice (filledShares filledNotional : Decimal) : Outcome Decimal := do
  require (0 < filledShares ∧ 0 < filledNotional) .fastLiveResultError
    "settlement requires positive confirmed fill"
  match Decimal.div filledNotional filledShares with
  | none => raise .arithmeticError "division by zero"
  | some average =>
    require (0 < average ∧ average ≤ 1) .fastLiveResultError "average live fill price invalid"
    .ok average

/-- The amounts of a settlement, from the confirmed fill and the outcome. -/
def settlementAmounts (filledShares filledNotional feeRate average : Decimal) (won : Bool) :
    Settlement :=
  let payout : Decimal := if won then filledShares else 0
  let modeledFee := filledShares * feeRate * average * (1 - average)
  ⟨filledShares, filledNotional, average, modeledFee, payout - filledNotional - modeledFee⟩

/-- `str(official_outcome).strip().lower()` as a side. -/
def outcomeSide (officialOutcome : String) : Outcome Side :=
  if lower (strip officialOutcome) = "up" then .ok .up
  else if lower (strip officialOutcome) = "down" then .ok .down
  else raise .fastLiveResultError "official outcome invalid"

/-- The account after a settlement: the day's result of the fill's account plus the settlement's,
and the losses counted on. -/
def settledAccount (fill : ReconciliationRow) (account : AccountEvidence) (pnl : Decimal)
    (observedAt : Timestamp) : AccountEvidence :=
  { totalExposureUsd := 0
    realizedDailyPnlUsd := (dailyPnlForObserved account.realizedDailyPnlUsd
      fill.payload.observedAt observedAt + pnl).formatF
    consecutiveLosses := if pnl < 0 then account.consecutiveLosses + 1 else 0 }

/-- The text of a side. -/
def sideText : Side → String
  | .up => "up"
  | .down => "down"

/-- The external order id of a fill row, when it has one. -/
def fillOrder (fill : ReconciliationRow) : Option String :=
  fill.payload.evidence.externalOrderId.filter (· ≠ "")

/-- The evidence of a settlement row. -/
def settlementEvidence (intent : IntentRow) (intentId : String) (fill : ReconciliationRow)
    (evaluation : Evaluation) (amounts : Settlement) (settled : AccountEvidence) :
    ReconciliationEvidence :=
  { source := some .fastLiveSettlement
    reconciliationKind := some .fastLiveOfficialSettlement
    intentId := some intentId
    externalOrderId := fillOrder fill
    paperOrderId := some intent.payload.evidence.paperOrderId
    labelVersion := some evaluation.labelVersion
    officialOutcome := some evaluation.officialOutcome
    selectedSide := some (sideText intent.payload.evidence.selectedSide)
    confirmedFilledShares := some amounts.filledShares.formatF
    confirmedFilledNotionalUsd := some amounts.filledNotional.formatF
    averageFillPrice := some amounts.averageFillPrice.formatF
    modeledFeeRate := some intent.payload.evidence.modeledFeeRate.formatF
    modeledFeeUsd := some amounts.modeledFee.formatF
    riskRealizedPnlUsd := some amounts.riskRealizedPnl.formatF
    feeAccountingBasis := some "frozen_v3_signal_fee_formula_not_wallet_audited"
    accountSnapshot := some settled
    accountSnapshotCarriedFrom := some fill.reconciliationId }

/-- The writes of a settlement: the event and the row. -/
def storeSettlement (D : Digests) (ledger : Ledger) (intent : IntentRow) (intentId : String)
    (fill : ReconciliationRow) (account : AccountEvidence) (evaluation : Evaluation)
    (amounts : Settlement) (observedAt : Timestamp) : Outcome (Ledger × SettleResponse) := do
  let event ← storeOrderEvent ledger ⟨intentId, .settled, some evaluation.labelVersion⟩ intentId
    .settled observedAt (fillOrder fill)
    { phase := fastLivePhase
      paperOrderId := some intent.payload.evidence.paperOrderId
      labelVersion := some evaluation.labelVersion
      officialOutcome := some evaluation.officialOutcome
      selectedSide := some (sideText intent.payload.evidence.selectedSide)
      confirmedFilledShares := some amounts.filledShares.formatF
      confirmedFilledNotionalUsd := some amounts.filledNotional.formatF
      modeledFeeUsd := some amounts.modeledFee.formatF
      riskRealizedPnlUsd := some amounts.riskRealizedPnl.formatF }
  let settled := settledAccount fill account amounts.riskRealizedPnl observedAt
  let stored ← storeReconciliationRun D event.ledger observedAt 0 0
    (settlementEvidence intent intentId fill evaluation amounts settled)
  .ok (stored.ledger,
    .settled intentId stored.record.reconciliationId evaluation.officialOutcome
      intent.payload.evidence.selectedSide amounts.filledShares.formatF
      amounts.filledNotional.formatF amounts.modeledFee.formatF amounts.riskRealizedPnl.formatF
      settled.consecutiveLosses)

/-- The settlement of a confirmed fill with an official outcome. -/
def settleFill (D : Digests) (ledger : Ledger) (intent : IntentRow) (intentId : String)
    (fill : ReconciliationRow) (evaluation : Evaluation) (observedAt : Timestamp) :
    Outcome (Ledger × SettleResponse) := do
  let feeRate := intent.payload.evidence.modeledFeeRate
  require (0 ≤ feeRate ∧ feeRate ≤ 1) .fastLiveResultError "bound modeled fee rate invalid"
  let filledShares := fill.payload.evidence.confirmedFilledShares.getD 0
  let filledNotional := fill.payload.evidence.confirmedFilledNotionalUsd.getD 0
  let average ← averageFillPrice filledShares filledNotional
  let outcome ← outcomeSide evaluation.officialOutcome
  let amounts := settlementAmounts filledShares filledNotional feeRate average
    (intent.payload.evidence.selectedSide = outcome)
  match fill.payload.evidence.accountSnapshot with
  | none => raise .fastLiveResultError "fill reconciliation account snapshot missing"
  | some account =>
    storeSettlement D ledger intent intentId fill account evaluation amounts observedAt

/-- `settle_fast_live_position_if_resolved`.  `evaluations` are the rows of
`live_prediction_evaluations`, latest first. -/
def settlePosition (D : Digests) (ledger : Ledger) (evaluations : List Evaluation)
    (intentId : String) (observedAt : Timestamp) : Outcome (Ledger × SettleResponse) := do
  let intentId := strip intentId
  require (intentId ≠ "") .fastLiveResultError "settlement intent id missing"
  let intent ← findIntent ledger intentId
  require (intent.payload.evidence.paperOrderId ≠ "") .fastLiveResultError
    "fast-live paper order id missing"
  let rows := latestFirst (·.payload.observedAt) ledger.reconciliations
  match rows.find? (isSettlementOf intentId) with
  | some row =>
    .ok (ledger, .alreadySettled intentId row.reconciliationId
      (row.payload.evidence.riskRealizedPnlUsd.getD 0))
  | none =>
    match rows.find? (isFillOf intentId) with
    | none => .ok (ledger, .waiting "confirmed_live_fill_not_available" intentId)
    | some fill =>
      match evaluations.find? (·.predictionId == intent.payload.predictionId) with
      | none => .ok (ledger, .waiting "official_outcome_not_available" intentId)
      | some evaluation => settleFill D ledger intent intentId fill evaluation observedAt

end BpEngine.FastLive
