import BpEngine.FastLive.Prepare

/-!
# The live canary

`execution/canary.py`: the preparation of the next canary intent, the record of a submission, and
the reconciliation of an intent that was never submitted, each one transaction on the live ledger.

* `CanaryInput` holds the arguments of `prepare_next_canary` and what it reads from the tables
  outside the live ledger (paper orders, predictions, liquidity).
* `prepareNextCanary`, `recordCanarySubmission`, `reconcileUnsubmittedCanaryIntent` are the
  operations.
-/

namespace BpEngine.Canary

open BpEngine.Execution BpEngine.FastLive BpEngine.LiveReadiness BpEngine.Table

/-! ## Constants -/

/-- The phase every canary document carries. -/
def canaryPhase : String := "phase15_v3_live_canary_v1"

/-- `CANARY_MAX_TRADE_SIZE_USD`. -/
def canaryMaxTradeSizeUsd : Decimal := ⟨10, 0⟩

/-- `CANARY_MAX_SUBMISSION_ATTEMPTS`. -/
def canaryMaxSubmissionAttempts : ℤ := 1

/-- `CANARY_MAX_ACCEPTED_ORDERS`. -/
def canaryMaxAcceptedOrders : ℤ := 1

/-- `canary_policy`. -/
def canaryPolicy : LiveRiskPolicy where
  maxTradeSizeUsd := canaryMaxTradeSizeUsd
  maxTotalExposureUsd := ⟨10, 0⟩
  maxDailyLossUsd := ⟨10, 0⟩
  maxConsecutiveLosses := 1
  minEdge := ⟨75, -3⟩
  minProbability := ⟨0, 0⟩
  minLiquidityUsd := ⟨5, 0⟩
  maxSpread := ⟨10, -2⟩
  maxPredictionAgeSeconds := ⟨30, 0⟩
  minTimeToExpirySeconds := ⟨15, 0⟩
  cooldownSeconds := ⟨86400, 0⟩
  policyVersion := canaryPolicyVersion

/-! ## Inputs and responses -/

/-- The columns of `paper_orders` the canary reads. -/
structure PaperOrderRow where
  paperOrderId : String
  predictionId : String
  predictionSemanticSha256 : String
  conditionId : String
  tokenId : String
  selectedSide : String
  requestedShares : Decimal
  targetNotionalUsd : Decimal
  submittedAt : Timestamp
  arrivalAt : Timestamp
  expiresAt : Timestamp
  limitPrice : Decimal
  executionVersion : ExecutionVersion
  executionConfigSha256 : String
  createdAt : Timestamp
deriving DecidableEq, Repr

/-- The arguments of `prepare_next_canary` and what it reads outside the live ledger: the rows of
`paper_orders` and `live_predictions` in insertion order, and the displayed liquidity. -/
structure CanaryInput where
  activatedAt : Timestamp
  observedAt : Timestamp
  interlock : InterlockDecision
  apiHealthy : Bool
  officialOpenOrderCount : ℤ
  collateralBalanceUsd : Decimal
  authorizedSubmissionAttemptLimit : ℤ := canaryMaxSubmissionAttempts
  authorizedAcceptedOrderLimit : ℤ := canaryMaxAcceptedOrders
  paperOrders : List PaperOrderRow
  predictions : List Prediction
  selectedLiquidityUsd : Option Decimal

/-- What `prepare_next_canary` returns. -/
inductive CanaryResponse where
  | submissionAttemptLimitReached (submissionAttemptCount : ℕ)
  | acceptedOrderLimitReached (acceptedOrderCount : ℕ)
  | blockedByIntent (intentId : String)
  | waiting
  | skipped (reasons : List String) (retryable : Bool) (predictionId paperOrderId : String)
  | insufficientArmWindow (predictionId paperOrderId : String) (timeToExpirySeconds : Decimal)
  | prepared (intentId requestId predictionId paperOrderId : String) (marketEndAt : Timestamp)
      (request : ExecutionOrderRequest)
deriving DecidableEq

/-! ## Counting the events -/

/-- `_event_count`: the events of the given types that join an intent of the canary. -/
def eventCount (ledger : Ledger) (types : EventType → Bool) : ℕ :=
  ((ledger.intents.filter (·.payload.policyVersion == canaryPolicyVersion)).map fun intent =>
    (ledger.events.filter fun event =>
      event.intentId == intent.intentId && types event.eventType).length).sum

/-- `_submission_attempt_count`. -/
def submissionAttemptCount (ledger : Ledger) : ℕ := eventCount ledger (·.isSubmissionAttempt)

/-- `_accepted_count`. -/
def acceptedCount (ledger : Ledger) : ℕ := eventCount ledger (· == .accepted)

/-! ## Preparing the next canary -/

/-- `_ensure_initial_reconciliation`: an empty ledger gets a clean baseline row. -/
def ensureInitialReconciliation (D : Digests) (ledger : Ledger) (observedAt : Timestamp)
    (officialOpenOrderCount : ℤ) (collateralBalanceUsd : Decimal) : Outcome Ledger := do
  require (officialOpenOrderCount = 0) .runtimeError "official_open_orders_present"
  require (canaryTargetNotionalUsd ≤ collateralBalanceUsd) .runtimeError
    "insufficient_official_collateral"
  if ledger.intents ≠ [] ∨ ledger.reconciliations ≠ [] then .ok ledger
  else
    let stored ← storeReconciliationRun D ledger observedAt 0 0
      { source := some .initialVerifiedAccountBaseline
        officialOpenOrderCount := some officialOpenOrderCount
        collateralBalanceUsd := some collateralBalanceUsd
        accountSnapshot := some ⟨0, 0, 0⟩ }
    .ok stored.ledger

/-- The latest intent of the canary, when it has no terminal event. -/
def pendingIntentId (ledger : Ledger) : Option String :=
  match (ledger.intents.filter (·.payload.policyVersion == canaryPolicyVersion)).getLast? with
  | none => none
  | some pending =>
    if terminalEvent ledger pending.intentId = none then some pending.intentId else none

/-- `_evaluated_prediction_ids`. -/
def evaluatedPredictionIds (ledger : Ledger) : List String :=
  (ledger.riskDecisions.filter fun row =>
    row.payload.policyVersion == canaryPolicyVersion &&
      (row.payload.decision.eligible || !retryableRiskReasons row.payload.decision.reasons)).map
    (·.payload.predictionId)

/-- `_candidate`: the first paper order since the activation whose prediction was not evaluated and
is still tradable. -/
def candidate (ledger : Ledger) (input : CanaryInput) : Option (PaperOrderRow × Prediction) :=
  ((input.paperOrders.filter fun order =>
      order.executionVersion == .paperExecutionV3FrozenV1 &&
        input.activatedAt ≤ order.createdAt).insertionSort
    (fun a b => a.createdAt ≤ b.createdAt)).findSome? fun order =>
      if order.predictionId ∈ evaluatedPredictionIds ledger then none
      else
        (input.predictions.find? fun prediction =>
          prediction.predictionId == order.predictionId &&
            prediction.predictionVersion == "v3-frozen-paper-v1" && prediction.trade &&
            prediction.executable).map fun prediction => (order, prediction)

/-- The request of `_draft_from_rows`. -/
def requestFromOrder (order : PaperOrderRow) : Outcome ExecutionOrderRequest :=
  ExecutionOrderRequest.create order.predictionId order.predictionSemanticSha256 order.conditionId
    order.tokenId order.selectedSide "BUY" order.requestedShares order.targetNotionalUsd
    order.submittedAt order.arrivalAt order.expiresAt order.limitPrice order.executionVersion
    order.executionConfigSha256

/-- `_account_snapshot` of `execution/live.py`. -/
def liveAccountSnapshot (ledger : Ledger) (observedAt : Timestamp) : Outcome LiveAccountSnapshot :=
  baseAccountSnapshot ledger observedAt (rowsUpTo ledger observedAt)

/-- The risk context of a canary. -/
def canaryContext (input : CanaryInput) (prediction : Prediction) (request : ExecutionOrderRequest)
    (account : LiveAccountSnapshot) : LiveRiskContext where
  predictionId := prediction.predictionId
  predictionSemanticSha256 := prediction.semanticSha256
  recordedAt := prediction.recordedAt
  marketEndAt := prediction.marketEndAt
  trade := prediction.trade
  executable := prediction.executable
  probability := prediction.calibratedProbability
  expectedEdge := prediction.costAdjustedEdge.getD ⟨-1, 0⟩
  selectedAsk := prediction.selectedAsk
  spread := prediction.selectedSpread
  selectedLiquidityUsd := input.selectedLiquidityUsd
  requestedNotionalUsd := request.targetNotionalUsd
  observedAt := input.observedAt
  apiHealthy := input.apiHealthy
  duplicateIntent := false
  account

/-- The seconds to the end of the market. -/
def armWindow (input : CanaryInput) (prediction : Prediction) : Decimal :=
  Timestamp.seconds (prediction.marketEndAt - input.observedAt)

/-- The evidence of the risk decision on a canary. -/
def canaryRiskEvidence (D : Digests) (input : CanaryInput) (order : PaperOrderRow)
    (prediction : Prediction) (request : ExecutionOrderRequest) : RiskDecisionEvidence where
  phase := canaryPhase
  requestId := D.requestId request
  paperOrderId := order.paperOrderId
  conditionId := request.conditionId
  tokenId := request.tokenId
  selectedSide := request.selectedSide
  requestedNotionalUsd := request.targetNotionalUsd
  selectedLiquidityUsd := input.selectedLiquidityUsd
  apiHealthy := input.apiHealthy
  officialOpenOrderCount := input.officialOpenOrderCount
  collateralBalanceUsd := input.collateralBalanceUsd
  interlockEligible := input.interlock.eligible
  interlockReasons := input.interlock.reasons
  polymarketSourceTime := ⟨false, none, none, none, none, none⟩
  fastLive := false
  finalizedFromPreview := false
  stagingInterlock := true
  prepareArmWindowSeconds := some (armWindow input prediction)
  prepareArmWindowMinSeconds := some canaryMinPrepareArmWindowSeconds

/-- The evidence of a canary intent. -/
def canaryIntentEvidence (order : PaperOrderRow) (request : ExecutionOrderRequest) :
    IntentEvidence where
  phase := canaryPhase
  predictionSemanticSha256 := request.predictionSemanticSha256
  conditionId := request.conditionId
  selectedSide := request.selectedSide
  executionVersion := request.executionVersion
  executionConfigSha256 := request.executionConfigSha256
  paperOrderId := order.paperOrderId
  requestSha256 := ""
  modeledFeeRate := 0
  fastLive := false
  finalizedFromPreview := false

/-- The part of the preparation that has a candidate. -/
def prepareCandidate (D : Digests) (ledger : Ledger) (input : CanaryInput) (order : PaperOrderRow)
    (prediction : Prediction) : Outcome (Ledger × CanaryResponse) := do
  let request ← requestFromOrder order
  require (Decimal.Same request.targetNotionalUsd canaryTargetNotionalUsd) .runtimeError
    "frozen paper order target changed"
  require (request.targetNotionalUsd ≤ canaryMaxTradeSizeUsd) .runtimeError
    "frozen paper order exceeds authorized canary ceiling"
  require (sourceRequestMatches prediction request = true) .runtimeError
    "frozen paper order no longer matches source prediction"
  let account ← liveAccountSnapshot ledger input.observedAt
  let context ← (canaryContext input prediction request account).create
  let decision ← evaluateLiveRisk canaryPolicy context input.interlock.eligible
    input.interlock.reasons
  let decided ← storeRiskDecision D ledger request.predictionId request.predictionSemanticSha256
    canaryPolicy.policyVersion decision account
    (canaryRiskEvidence D input order prediction request) input.observedAt
  if decision.eligible = false then
    .ok (decided.ledger, .skipped decision.reasons (retryableRiskReasons decision.reasons)
      request.predictionId order.paperOrderId)
  else if armWindow input prediction < canaryMinPrepareArmWindowSeconds then
    .ok (decided.ledger, .insufficientArmWindow request.predictionId order.paperOrderId
      (armWindow input prediction))
  else
    let stored ← storeOrderIntent D decided.ledger request.predictionId canaryPolicy.policyVersion
      (D.requestId request) decided.record.decisionId request.tokenId "BUY" request.requestedShares
      request.limitPrice input.observedAt (canaryIntentEvidence order request)
    .ok (stored.ledger, .prepared stored.record.intentId (D.requestId request)
      request.predictionId order.paperOrderId prediction.marketEndAt request)

/-- `prepare_next_canary`. -/
def prepareNextCanary (D : Digests) (ledger : Ledger) (input : CanaryInput) :
    Outcome (Ledger × CanaryResponse) := do
  require (input.authorizedSubmissionAttemptLimit = canaryMaxSubmissionAttempts ∨
      input.authorizedSubmissionAttemptLimit = 2) .valueError
    "authorized submission attempt limit must be 1 or 2"
  require (input.authorizedAcceptedOrderLimit = canaryMaxAcceptedOrders ∨
      input.authorizedAcceptedOrderLimit = 2) .valueError
    "authorized accepted order limit must be 1 or 2"
  let ledger ← ensureInitialReconciliation D ledger input.observedAt input.officialOpenOrderCount
    input.collateralBalanceUsd
  if input.authorizedSubmissionAttemptLimit ≤ submissionAttemptCount ledger then
    .ok (ledger, .submissionAttemptLimitReached (submissionAttemptCount ledger))
  else if input.authorizedAcceptedOrderLimit ≤ acceptedCount ledger then
    .ok (ledger, .acceptedOrderLimitReached (acceptedCount ledger))
  else
    match pendingIntentId ledger with
    | some intentId => .ok (ledger, .blockedByIntent intentId)
    | none =>
      match candidate ledger input with
      | none => .ok (ledger, .waiting)
      | some (order, prediction) => prepareCandidate D ledger input order prediction

/-! ## Reconciling an intent that was never submitted -/

/-- The `geoblock` entry of the executor health. -/
structure HealthGeoblock where
  blocked : Option Bool
  country : String
deriving DecidableEq, Repr

/-- The `account` entry of the executor health. -/
structure HealthAccount where
  openOrderCount : ℤ
  collateralBalanceUsd : Decimal
  cleanForCanary : Option Bool
deriving DecidableEq, Repr

/-- The entries of the executor health the reconciliation reads. -/
structure ExecutorHealth where
  status : String
  geoblock : Option HealthGeoblock
  account : Option HealthAccount
  killSwitchEngaged : Option Bool
  activationValid : Option Bool
  submissionReady : Option Bool
  liveOrderSubmitted : Option Bool
deriving DecidableEq, Repr

/-- The checks of the executor health; the result is the collateral. -/
def checkHealth (health : ExecutorHealth) : Outcome Decimal := do
  require (health.status = "ok") .runtimeError "executor_health_not_ok"
  match health.geoblock with
  | none => raise .runtimeError "executor_geoblock_missing"
  | some geoblock =>
    require (geoblock.blocked = some false ∧ geoblock.country = "ZA") .runtimeError
      "executor_geography_not_authorized"
    match health.account with
    | none => raise .runtimeError "executor_account_missing"
    | some account =>
      require (account.openOrderCount = 0) .runtimeError "official_open_orders_present"
      require (canaryTargetNotionalUsd ≤ account.collateralBalanceUsd) .runtimeError
        "insufficient_official_collateral"
      require (account.cleanForCanary = some true) .runtimeError "executor_account_not_clean"
      require (health.killSwitchEngaged = some true) .runtimeError "kill_switch_not_engaged"
      require (health.activationValid = some false) .runtimeError "activation_still_valid"
      require (health.submissionReady = some false) .runtimeError "submission_still_ready"
      require (health.liveOrderSubmitted = some false) .runtimeError
        "live_order_submission_detected"
      .ok account.collateralBalanceUsd

/-- The intent is one of the canary. -/
def isCanaryIntent (ledger : Ledger) (intentId : String) : Prop :=
  ∃ intent ∈ ledger.intents, intent.intentId = intentId ∧
    intent.payload.policyVersion = canaryPolicyVersion

instance (ledger : Ledger) (intentId : String) : Decidable (isCanaryIntent ledger intentId) := by
  unfold isCanaryIntent; infer_instance

/-- An event of the intent has one of the types. -/
def hasEvent (ledger : Ledger) (intentId : String) (types : EventType → Bool) : Bool :=
  ledger.events.any fun event => event.intentId == intentId && types event.eventType

/-- What `reconcile_unsubmitted_canary_intent` returns. -/
inductive ReconcileResponse where
  | alreadyReconciled (intentId : String)
  | reconciled (intentId reconciliationId : String)
deriving DecidableEq, Repr

/-- `reconcile_unsubmitted_canary_intent`. -/
def reconcileUnsubmittedCanaryIntent (D : Digests) (ledger : Ledger) (intentId : String)
    (observedAt : Timestamp) (reason : String) (health : ExecutorHealth) :
    Outcome (Ledger × ReconcileResponse) := do
  require (strip reason ≠ "") .valueError "reason must not be blank"
  let collateral ← checkHealth health
  require (isCanaryIntent ledger intentId) .runtimeError "unknown canary intent"
  require (hasEvent ledger intentId (·.isSubmissionAttempt) = false) .runtimeError
    "canary_submission_attempt_already_recorded"
  if hasEvent ledger intentId (· == .closedBeforeSubmission) then
    .ok (ledger, .alreadyReconciled intentId)
  else
    let carried ← latestCleanAccount ledger observedAt
    let event ← storeOrderEvent ledger ⟨intentId, .closedBeforeSubmission, none⟩ intentId
      .closedBeforeSubmission observedAt none
      { phase := canaryPhase
        reason := some (strip reason)
        submissionAttemptConsumed := some false
        killSwitchEngaged := some true
        activationValid := some false
        submissionReady := some false
        liveOrderSubmitted := some false
        officialOpenOrderCount := some 0
        collateralBalanceUsd := some collateral }
    let stored ← storeReconciliationRun D event.ledger observedAt 0 0
      { phase := some canaryPhase
        intentId := some intentId
        reconciliationKind := some .preSubmissionIntentClose
        reason := some (strip reason)
        submissionAttemptConsumed := some false
        officialOpenOrderCount := some 0
        collateralBalanceUsd := some collateral
        accountSnapshotCarriedFrom := carried.map Prod.fst
        accountSnapshot := carried.map Prod.snd }
    .ok (stored.ledger, .reconciled intentId stored.record.reconciliationId)

/-! ## Recording a submission -/

/-- The `cancellation` entry of a submission result. -/
structure CanaryCancellation where
  cancelled : Bool
  status : String
  message : String
deriving DecidableEq, Repr

/-- The entries of a submission result; a missing text is empty. -/
structure CanaryResult where
  accepted : Bool
  status : String
  code : String
  message : String
  externalOrderId : String
  geoblock : Option String
  cancellation : Option CanaryCancellation
deriving DecidableEq, Repr

/-- `str(result.get("external_order_id") or "") or None`. -/
def CanaryResult.order (result : CanaryResult) : Option String :=
  if result.externalOrderId = "" then none else some result.externalOrderId

/-- The type of the event of a submission. -/
def CanaryResult.eventType (result : CanaryResult) : EventType :=
  if result.accepted = true ∧ result.order ≠ none then .accepted
  else if lower result.status = "rejected" then .rejected
  else .submissionUnknown

/-- The type of the event of a cancellation. -/
def CanaryCancellation.eventType (cancellation : CanaryCancellation) : EventType :=
  if cancellation.cancelled then .cancelled
  else if cancellation.status = "not_cancelled" then .cancelRejected
  else .cancellationUnknown

/-- The event of the cancellation that follows an accepted order. -/
def storeCanaryCancellation (ledger : Ledger) (intentId : String) (observedAt : Timestamp)
    (result : CanaryResult) : Outcome Ledger :=
  match result.cancellation with
  | some cancellation =>
    if result.accepted = true ∧ result.order ≠ none then do
      let stored ← storeOrderEvent ledger ⟨intentId, cancellation.eventType, none⟩ intentId
        cancellation.eventType observedAt result.order
        { phase := canaryPhase
          statusText := some cancellation.status
          message := some cancellation.message
          ttlSeconds := some 2 }
      .ok stored.ledger
    else .ok ledger
  | none => .ok ledger

/-- `record_canary_submission`; the response is the type of the event and the order. -/
def recordCanarySubmission (ledger : Ledger) (intentId : String) (observedAt : Timestamp)
    (result : CanaryResult) : Outcome (Ledger × EventType × Option String) := do
  require (isCanaryIntent ledger intentId) .runtimeError "unknown canary intent"
  let event ← storeOrderEvent ledger ⟨intentId, result.eventType, none⟩ intentId result.eventType
    observedAt result.order
    { phase := canaryPhase
      statusText := some result.status
      code := some result.code
      message := some result.message
      remoteGeoblock := result.geoblock }
  let cancelled ← storeCanaryCancellation event.ledger intentId observedAt result
  .ok (cancelled, result.eventType, result.order)

end BpEngine.Canary
