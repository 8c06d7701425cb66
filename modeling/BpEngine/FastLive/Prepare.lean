import BpEngine.FastLive.Account

/-!
# Preparing a fast-live candidate

`prepare_fast_live_candidate` of `execution/fast_live_prepare.py`: the gate on a pending intent, the
choice of a prediction, the risk decision on the derived account and the write of the order intent,
in one transaction.

* `PrepareInput` holds the arguments and what the transaction reads from the tables outside the live
  ledger (predictions, paper cash, liquidity, the source clock).
* `prepareFastLiveCandidate` is the operation; `createIntent` is its last step.
-/

namespace BpEngine.FastLive

open BpEngine.Execution BpEngine.LiveReadiness BpEngine.Table

/-! ## Constants -/

/-- `CANARY_TARGET_NOTIONAL_USD`. -/
def canaryTargetNotionalUsd : Decimal := ⟨5, 0⟩

/-- `CANARY_MIN_PREPARE_ARM_WINDOW_SECONDS`. -/
def canaryMinPrepareArmWindowSeconds : Decimal := ⟨30, 0⟩

/-- `continuous_fast_live_policy`: the canary policy without cooldown. -/
def continuousFastLivePolicy (maxConsecutiveLosses : ℤ) : Outcome LiveRiskPolicy := do
  require (0 ≤ maxConsecutiveLosses) .valueError "max_consecutive_losses must be nonnegative"
  .ok
    { maxTradeSizeUsd := ⟨10, 0⟩
      maxTotalExposureUsd := ⟨10, 0⟩
      maxDailyLossUsd := ⟨10, 0⟩
      maxConsecutiveLosses
      minEdge := ⟨75, -3⟩
      minProbability := ⟨0, 0⟩
      minLiquidityUsd := ⟨5, 0⟩
      maxSpread := ⟨10, -2⟩
      maxPredictionAgeSeconds := ⟨30, 0⟩
      minTimeToExpirySeconds := ⟨15, 0⟩
      cooldownSeconds := ⟨0, 0⟩
      policyVersion := canaryPolicyVersion }

/-- `frozen_v3_paper_config`. -/
def frozenV3PaperConfig : PaperExecutionConfig :=
  { executionVersion := .paperExecutionV3FrozenV1
    predictionVersion := some "v3-frozen-paper-v1" }

/-! ## Inputs and responses -/

/-- `InterlockDecision`: an eligible one has no reasons. -/
structure InterlockDecision where
  eligible : Bool
  reasons : List String
deriving DecidableEq, Repr

/-- The constructor call of `InterlockDecision`. -/
def InterlockDecision.create (eligible : Bool) (reasons : List String) :
    Outcome InterlockDecision := do
  require (∀ reason ∈ reasons, strip reason ≠ "") .valueError
    "interlock reasons must contain nonblank strings"
  let normalized := (reasons.map strip).foldl appendNew []
  require (eligible = true → normalized = []) .valueError
    "eligible interlock decision cannot contain blocking reasons"
  .ok ⟨eligible, normalized⟩

/-- The request mapping of a preview, before it is checked. -/
structure RawRequest where
  predictionId : String
  predictionSemanticSha256 : String
  conditionId : String
  tokenId : String
  selectedSide : String
  action : String
  requestedShares : Decimal
  targetNotionalUsd : Decimal
  submittedAt : Timestamp
  arrivalAt : Timestamp
  expiresAt : Timestamp
  limitPrice : Decimal
  executionVersion : ExecutionVersion
  executionConfigSha256 : String
deriving DecidableEq, Repr

/-- The entries of a preview that the finalisation reads. -/
structure Preview where
  status : String
  riskStatus : String
  request : Option RawRequest
  predictionId : String
  paperOrderId : String
  requestId : String
  marketEndAt : Timestamp
deriving DecidableEq, Repr

/-- The arguments of `prepare_fast_live_candidate` and what it reads outside the live ledger:
the rows of `live_predictions` in insertion order, the paper cash, the displayed liquidity and the
source clock. -/
structure PrepareInput where
  activatedAt : Timestamp
  observedAt : Timestamp
  preview : Option Preview
  interlock : InterlockDecision
  apiHealthy : Bool
  officialOpenOrderCount : ℤ
  collateralBalanceUsd : Decimal
  initialReconciliationVerified : Bool
  maxConsecutiveLosses : ℤ
  predictions : List Prediction
  availablePaperCash : Outcome Decimal
  selectedLiquidityUsd : Option Decimal
  sourceTimeHealth : SourceTimeHealth

/-- The deterministic entries of the timing record. -/
structure PrepareTiming where
  predictionScheduledAt : Timestamp
  predictionRecordedAt : Timestamp
  paperOrderSubmittedAt : Timestamp
  preparedObservedAt : Timestamp
deriving DecidableEq, Repr

/-- What `prepare_fast_live_candidate` returns. -/
inductive PrepareResponse where
  | blockedByIntent (intentId : String)
  | waiting
  | blockedByPaper (paperStatus : TerminalStatus) (paperReason predictionId : String)
      (retryable : Bool)
  | skipped (reasons : List String) (retryable : Bool) (predictionId paperOrderId : String)
  | insufficientArmWindow (predictionId paperOrderId : String) (timeToExpirySeconds : Decimal)
  | prepared (intentId requestId riskDecisionId predictionId paperOrderId : String)
      (marketEndAt : Timestamp) (timing : PrepareTiming) (request : ExecutionOrderRequest)
      (policy : LiveRiskPolicy)
deriving DecidableEq

/-! ## The steps -/

/-- The evidence of the baseline row. -/
def baselineEvidence (input : PrepareInput) : ReconciliationEvidence :=
  { source := some .initialVerifiedAccountBaseline
    officialOpenOrderCount := some input.officialOpenOrderCount
    collateralBalanceUsd := some input.collateralBalanceUsd
    accountSnapshot := some ⟨0, 0, 0⟩ }

/-- `_ensure_initial_reconciliation`: an empty ledger gets a clean baseline row. -/
def ensureInitialReconciliation (D : Digests) (ledger : Ledger) (input : PrepareInput) :
    Outcome Ledger := do
  require (input.officialOpenOrderCount = 0) .runtimeError "official_open_orders_present"
  require (canaryTargetNotionalUsd ≤ input.collateralBalanceUsd) .runtimeError
    "insufficient_official_collateral"
  if ledger.intents ≠ [] ∨ ledger.reconciliations ≠ [] then .ok ledger
  else
    let stored ← storeReconciliationRun D ledger input.observedAt 0 0 (baselineEvidence input)
    .ok stored.ledger

/-- The ledger a preparation starts from. -/
def startingLedger (D : Digests) (ledger : Ledger) (input : PrepareInput) : Outcome Ledger :=
  if input.initialReconciliationVerified then .ok ledger
  else ensureInitialReconciliation D ledger input

/-- `_unresolved_pending_intent_id`: the latest intent, when it has no terminal event and no
official row reports it unfilled. -/
def unresolvedPendingIntentId (ledger : Ledger) (observedAt : Timestamp) : Option String :=
  match (ledger.intents.filter (·.payload.policyVersion == canaryPolicyVersion)).getLast? with
  | none => none
  | some pending =>
    if terminalEvent ledger pending.intentId ≠ none then none
    else if pending.intentId ∈ zeroFillIntents (rowsUpTo ledger observedAt) then none
    else some pending.intentId

/-- `CANARY_RETRYABLE_RISK_REASONS`. -/
def canaryRetryableRiskReasons : List String :=
  ["liquidity_missing", "liquidity_below_minimum", "api_unhealthy"]

/-- `_retryable_risk_reasons`. -/
def retryableRiskReasons (reasons : List String) : Bool :=
  let normalized := (reasons.map strip).filter (· ≠ "")
  !normalized.isEmpty && normalized.all (· ∈ canaryRetryableRiskReasons)

/-- `_FAST_LIVE_SOURCE_TIME_RETRYABLE_REASONS`. -/
def sourceTimeRetryableReasons : List String :=
  ["polymarket_source_time_unavailable", "polymarket_source_lag", "polymarket_source_clock_ahead"]

/-- `_fast_live_retryable_risk_reasons`. -/
def fastLiveRetryableRiskReasons (reasons : List String) : Bool :=
  let normalized := (reasons.map strip).filter (· ≠ "")
  let specific := normalized.filter (· ≠ "live_interlock_blocked")
  !specific.isEmpty &&
    specific.all fun reason =>
      reason ∈ sourceTimeRetryableReasons || retryableRiskReasons [reason]

/-- `_session_evaluated_prediction_ids`. -/
def sessionEvaluatedPredictionIds (ledger : Ledger) (activatedAt : Timestamp) : List String :=
  (ledger.riskDecisions.filter fun row =>
    row.payload.policyVersion == canaryPolicyVersion && activatedAt ≤ row.payload.createdAt &&
      (row.payload.decision.eligible || !retryableRiskReasons row.payload.decision.reasons)).map
    (·.payload.predictionId)

/-- The tradable frozen predictions since the activation. -/
def isCandidate (activatedAt : Timestamp) (prediction : Prediction) : Bool :=
  prediction.predictionVersion == "v3-frozen-paper-v1" && prediction.trade &&
    prediction.executable && activatedAt ≤ prediction.recordedAt

/-- `_prediction_candidate` without a preview time: the first candidate not evaluated yet. -/
def predictionCandidate (ledger : Ledger) (input : PrepareInput) : Option Prediction :=
  ((input.predictions.filter (isCandidate input.activatedAt)).insertionSort
    (fun a b => a.recordedAt ≤ b.recordedAt)).find? fun prediction =>
      prediction.predictionId ∉ sessionEvaluatedPredictionIds ledger input.activatedAt

/-- The request a preview carries, checked again. -/
def requestFromRaw (raw : RawRequest) : Outcome ExecutionOrderRequest :=
  match ExecutionOrderRequest.create raw.predictionId raw.predictionSemanticSha256
      raw.conditionId raw.tokenId raw.selectedSide raw.action raw.requestedShares
      raw.targetNotionalUsd raw.submittedAt raw.arrivalAt raw.expiresAt raw.limitPrice
      raw.executionVersion raw.executionConfigSha256 with
  | .ok request => .ok request
  | .error _ => raise .runtimeError "fast live preview request invalid"

/-- `_request_from_preview`. -/
def requestFromPreview (D : Digests) (preview : Preview) :
    Outcome (String × ExecutionOrderRequest) := do
  require (preview.status = "prepared") .runtimeError "fast live preview is not prepared"
  require (preview.riskStatus = "pending") .runtimeError "fast live preview risk status changed"
  match preview.request with
  | none => raise .runtimeError "fast live preview request missing"
  | some raw =>
    let request ← requestFromRaw raw
    require (preview.predictionId = request.predictionId) .runtimeError
      "fast live preview prediction binding changed"
    let paperOrderId := D.paperOrderId request.predictionId request.executionVersion
    require (preview.paperOrderId = paperOrderId) .runtimeError
      "fast live preview paper order binding changed"
    require (preview.requestId = D.requestId request) .runtimeError
      "fast live preview request id changed"
    .ok (paperOrderId, request)

/-- The order a preparation works on. -/
structure Candidate where
  prediction : Prediction
  paperOrderId : String
  request : ExecutionOrderRequest

/-- Either the order to go on with or the response that ends the preparation. -/
abbrev CandidateChoice := PrepareResponse ⊕ Candidate

/-- The candidate of a preparation without a preview: the next prediction and its paper order. -/
def candidateFromPrediction (D : Digests) (ledger : Ledger) (input : PrepareInput) :
    Outcome CandidateChoice :=
  match predictionCandidate ledger input with
  | none => .ok (.inl .waiting)
  | some prediction => do
    let cash ← input.availablePaperCash
    match ← buildPaperOrder D.toExecutionDigests prediction frozenV3PaperConfig cash with
    | .terminal draft =>
      .ok (.inl (.blockedByPaper draft.status draft.reason prediction.predictionId
        (draft.status = .insufficientPaperCash)))
    | .order draft =>
      .ok (.inr ⟨prediction,
        D.paperOrderId draft.request.predictionId draft.request.executionVersion, draft.request⟩)

/-- The candidate of a preparation that finalises a preview. -/
def candidateFromPreview (D : Digests) (input : PrepareInput) (preview : Preview) :
    Outcome CandidateChoice := do
  let (paperOrderId, request) ← requestFromPreview D preview
  match input.predictions.find? fun prediction =>
      prediction.predictionId == request.predictionId &&
        isCandidate input.activatedAt prediction with
  | none => raise .runtimeError "frozen preview prediction is no longer available"
  | some prediction =>
    require (preview.marketEndAt = prediction.marketEndAt) .runtimeError
      "fast live preview market end changed"
    .ok (.inr ⟨prediction, paperOrderId, request⟩)

/-- The candidate of a preparation, with or without a preview. -/
def chooseCandidate (D : Digests) (ledger : Ledger) (input : PrepareInput) :
    Outcome CandidateChoice :=
  match input.preview with
  | none => candidateFromPrediction D ledger input
  | some preview => candidateFromPreview D input preview

/-- `_source_request_matches`. -/
def sourceRequestMatches (prediction : Prediction) (request : ExecutionOrderRequest) : Bool :=
  let selectedSide := lower prediction.selectedSide
  let expectedToken :=
    if selectedSide = "up" then prediction.upTokenId else prediction.downTokenId
  prediction.predictionId == request.predictionId &&
    prediction.semanticSha256 == request.predictionSemanticSha256 &&
    prediction.conditionId == request.conditionId &&
    selectedSide == (match request.selectedSide with | .up => "up" | .down => "down") &&
    expectedToken == request.tokenId &&
    request.submittedAt == prediction.recordedAt &&
    request.expiresAt ≤ prediction.marketEndAt &&
    prediction.selectedAsk.any (· ≤ request.limitPrice) &&
    request.requestedShares * request.limitPrice ≤ request.targetNotionalUsd

/-- The risk context of a candidate. -/
def riskContext (input : PrepareInput) (candidate : Candidate) (account : LiveAccountSnapshot) :
    LiveRiskContext :=
  { predictionId := candidate.prediction.predictionId
    predictionSemanticSha256 := candidate.prediction.semanticSha256
    recordedAt := candidate.prediction.recordedAt
    marketEndAt := candidate.prediction.marketEndAt
    trade := candidate.prediction.trade
    executable := candidate.prediction.executable
    probability := candidate.prediction.calibratedProbability
    expectedEdge := candidate.prediction.costAdjustedEdge.getD ⟨-1, 0⟩
    selectedAsk := candidate.prediction.selectedAsk
    spread := candidate.prediction.selectedSpread
    selectedLiquidityUsd := input.selectedLiquidityUsd
    requestedNotionalUsd := candidate.request.targetNotionalUsd
    observedAt := input.observedAt
    apiHealthy := input.apiHealthy
    duplicateIntent := false
    account }

/-- The risk decision on a candidate, with the effective interlock. -/
def decideRisk (input : PrepareInput) (policy : LiveRiskPolicy) (candidate : Candidate)
    (account : LiveAccountSnapshot) : Outcome (InterlockDecision × LiveRiskDecision) := do
  let interlock ← InterlockDecision.create
    (input.interlock.eligible && input.sourceTimeHealth.eligible)
    (input.interlock.reasons ++ input.sourceTimeHealth.reason.toList)
  let context ← (riskContext input candidate account).create
  let decision ← evaluateLiveRisk policy context interlock.eligible interlock.reasons
  .ok (interlock, decision)

/-- The write of the risk decision. -/
def storeDecision (D : Digests) (ledger : Ledger) (input : PrepareInput)
    (policy : LiveRiskPolicy) (candidate : Candidate) (account : LiveAccountSnapshot)
    (interlock : InterlockDecision) (decision : LiveRiskDecision) :
    Outcome (StoreResult RiskDecisionRow) :=
  storeRiskDecision D ledger candidate.request.predictionId
    candidate.request.predictionSemanticSha256 policy.policyVersion decision account
    { phase := fastLivePhase
      requestId := D.requestId candidate.request
      paperOrderId := candidate.paperOrderId
      conditionId := candidate.request.conditionId
      tokenId := candidate.request.tokenId
      selectedSide := candidate.request.selectedSide
      requestedNotionalUsd := candidate.request.targetNotionalUsd
      selectedLiquidityUsd := input.selectedLiquidityUsd
      apiHealthy := input.apiHealthy
      officialOpenOrderCount := input.officialOpenOrderCount
      collateralBalanceUsd := input.collateralBalanceUsd
      interlockEligible := interlock.eligible
      interlockReasons := interlock.reasons
      polymarketSourceTime := input.sourceTimeHealth
      fastLive := true
      finalizedFromPreview := input.preview.isSome }
    input.observedAt

/-- The write of the order intent and the response of a prepared candidate. -/
def createIntent (D : Digests) (ledger : Ledger) (input : PrepareInput) (policy : LiveRiskPolicy)
    (candidate : Candidate) (riskDecisionId : String) : Outcome (Ledger × PrepareResponse) := do
  let request := candidate.request
  match candidate.prediction.feeRate with
  | none => raise .arithmeticError "invalid operation"
  | some feeRate =>
    require (0 ≤ feeRate ∧ feeRate ≤ 1) .runtimeError "frozen prediction fee rate invalid"
    let stored ← storeOrderIntent D ledger request.predictionId policy.policyVersion
      (D.requestId request) riskDecisionId request.tokenId "BUY" request.requestedShares
      request.limitPrice input.observedAt
      { phase := fastLivePhase
        predictionSemanticSha256 := request.predictionSemanticSha256
        conditionId := request.conditionId
        selectedSide := request.selectedSide
        executionVersion := request.executionVersion
        executionConfigSha256 := request.executionConfigSha256
        paperOrderId := candidate.paperOrderId
        requestSha256 := D.requestSha256 request
        modeledFeeRate := feeRate
        fastLive := true
        finalizedFromPreview := input.preview.isSome }
    .ok (stored.ledger,
      .prepared stored.record.intentId (D.requestId request) riskDecisionId request.predictionId
        candidate.paperOrderId candidate.prediction.marketEndAt
        ⟨candidate.prediction.scheduledAt, candidate.prediction.recordedAt, request.submittedAt,
          input.observedAt⟩ request policy)

/-- The part of the preparation that has a candidate: the risk decision and the intent. -/
def finalizeCandidate (D : Digests) (ledger : Ledger) (input : PrepareInput)
    (policy : LiveRiskPolicy) (candidate : Candidate) : Outcome (Ledger × PrepareResponse) := do
  require (candidate.request.targetNotionalUsd ≤ canaryTargetNotionalUsd ∧
      canaryTargetNotionalUsd ≤ candidate.request.targetNotionalUsd) .runtimeError
    "frozen paper order target changed"
  require (candidate.request.targetNotionalUsd ≤ policy.maxTradeSizeUsd) .runtimeError
    "frozen paper order exceeds live ceiling"
  require (sourceRequestMatches candidate.prediction candidate.request = true) .runtimeError
    "frozen paper order no longer matches source prediction"
  let account ← accountSnapshot ledger input.observedAt
  let (interlock, decision) ← decideRisk input policy candidate account
  let stored ← storeDecision D ledger input policy candidate account interlock decision
  if decision.eligible = false then
    .ok (stored.ledger,
      .skipped decision.reasons (fastLiveRetryableRiskReasons decision.reasons)
        candidate.request.predictionId candidate.paperOrderId)
  else
    let armWindow := Timestamp.seconds (candidate.prediction.marketEndAt - input.observedAt)
    if armWindow < canaryMinPrepareArmWindowSeconds then
      .ok (stored.ledger,
        .insufficientArmWindow candidate.request.predictionId candidate.paperOrderId armWindow)
    else createIntent D stored.ledger input policy candidate stored.record.decisionId

/-- `prepare_fast_live_candidate`. -/
def prepareFastLiveCandidate (D : Digests) (ledger : Ledger) (input : PrepareInput) :
    Outcome (Ledger × PrepareResponse) := do
  let policy ← continuousFastLivePolicy input.maxConsecutiveLosses
  let ledger ← startingLedger D ledger input
  match unresolvedPendingIntentId ledger input.observedAt with
  | some intentId => .ok (ledger, .blockedByIntent intentId)
  | none =>
    match ← chooseCandidate D ledger input with
    | .inl response => .ok (ledger, response)
    | .inr candidate => finalizeCandidate D ledger input policy candidate

end BpEngine.FastLive
