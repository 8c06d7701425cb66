import BpEngine.Core

/-!
# Results and evidence

The mappings the fast-live components exchange and store, one record each, with an optional field
for every key that may be missing.

* `FastLiveResult` is the result mapping: what the executor returns, what the receiver publishes
  and what the source records.
* `OfficialState` is what the official probe observed of an order.
* `EventEvidence` and `ReconciliationEvidence` are the `evidence` documents of the live ledger.

Latencies are kept in nanoseconds; texts that hold a decimal are kept as the decimal.
-/

namespace BpEngine.FastLive

/-- The statuses a fast-live result carries. -/
inductive ResultStatus where
  | networkSubmissionAttemptStarting
  | accepted
  | rejected
  | submissionUnknown
  | alreadyTerminal
  | freshBookRejected
  | preAttemptRetryExhausted
  | telegramSkipped
  | telegramExpired
  | approvalRecoveryBlocked
  | preSubmissionBlocked
  | other (text : String)
deriving DecidableEq, Repr

/-- What `marketable_depth` returns. -/
structure Marketability where
  marketable : Bool
  fullSizeMarketable : Bool
  bestAsk : Option Decimal
  marketableDepth : Decimal
  requestedShares : Decimal
  limitPrice : Decimal
deriving DecidableEq, Repr

/-- The outcome of a cancellation. -/
structure Cancellation where
  cancelled : Bool
  notCancelled : String
deriving DecidableEq, Repr

/-- One trade of the account that belongs to the probed order. -/
structure MatchingTrade where
  tradeId : String
  shares : Decimal
  price : Decimal
  status : String
deriving DecidableEq, Repr

/-- The fill states of an official probe. -/
inductive FillState where
  | officialProbeNotRun
  | officialProbeFailed
  | orderStillOpen
  | fillObservedNotFinal
  | confirmedFill
  | zeroFillObserved
deriving DecidableEq, Repr

/-- What the official probe observed of an order; a probe that failed has no sample. -/
structure OfficialState where
  officialReconciliationComplete : Bool
  fillState : Option FillState := none
  error : Option String := none
  probeAttempts : Option ℕ := none
  snapshotStable : Option Bool := none
  orderStillOpen : Option Bool := none
  openOrderCount : Option ℤ := none
  matchingTradeCount : Option ℤ := none
  matchingTrades : Option (List MatchingTrade) := none
  confirmedFilledShares : Option Decimal := none
  confirmedFilledNotionalUsd : Option Decimal := none
deriving DecidableEq, Repr

/-- Where the asks of a quote came from. -/
inductive QuoteSource where
  | stream
  | http
deriving DecidableEq, Repr

/-- A fast-live result.  `externalOrderId` tells a missing key from a null. -/
structure FastLiveResult where
  status : Option ResultStatus := none
  intentId : Option String := none
  predictionId : Option String := none
  paperOrderId : Option String := none
  requestSha256 : Option String := none
  schemaVersion : Option ℤ := none
  authorizationId : Option String := none
  startedAt : Option Timestamp := none
  accepted : Option Bool := none
  externalOrderId : Option (Option String) := none
  networkSubmissionAttemptConsumed : Option Bool := none
  realOrderSubmitted : Option Bool := none
  submissionOutcomeKnown : Option Bool := none
  recoveredFromAttemptMarker : Option Bool := none
  reason : Option String := none
  errorType : Option String := none
  code : Option String := none
  message : Option String := none
  initialOrderStatus : Option String := none
  marketability : Option Marketability := none
  cancellationPending : Option Bool := none
  cancellation : Option Cancellation := none
  officialReconciliation : Option OfficialState := none
  safetyObservedAt : Option Timestamp := none
  receivedAt : Option Timestamp := none
  postStartedAt : Option Timestamp := none
  postCompletedAt : Option Timestamp := none
  quoteLatency : Option ℤ := none
  quoteSource : Option QuoteSource := none
  signLatency : Option ℤ := none
  quoteToPost : Option ℤ := none
  postLatency : Option ℤ := none
  preAttemptRetryCount : Option ℕ := none
  replayedResult : Option Bool := none
  recoveredPendingCancellation : Option Bool := none
  recoveredAt : Option Timestamp := none
  recoveryResultPublishPending : Option Bool := none
  recoveryResultPublishedAt : Option Timestamp := none
  envelopeCreatedAt : Option Timestamp := none
  messageReceivedAt : Option Timestamp := none
  sourceToReceive : Option ℤ := none
  prepareRecoveredAfterRestart : Option Bool := none
  prepareCreatedAt : Option Timestamp := none
  approvalCreatedAt : Option Timestamp := none
  approvalReceivedAt : Option Timestamp := none
  approvalToReceive : Option ℤ := none
  approvalDecisionReplayed : Option Bool := none
  approvalDecisionRecovered : Option Bool := none
  resultMessageId : Option String := none
deriving DecidableEq, Repr

/-- `result.get("network_submission_attempt_consumed") is True`. -/
def FastLiveResult.consumed (result : FastLiveResult) : Bool :=
  result.networkSubmissionAttemptConsumed = some true

/-! ## Evidence of the live ledger -/

/-- The types of the events of a live intent. -/
inductive EventType where
  | accepted
  | rejected
  | submissionUnknown
  | closedBeforeSubmission
  | cancelled
  | cancelRejected
  | cancellationUnknown
  | settled
deriving DecidableEq, Repr

/-- The evidence of an event, whoever writes it; the live gateway writes no phase, which is the
empty text here, and the canary and the gateway write the status as a text. -/
structure EventEvidence where
  phase : String
  status : Option ResultStatus := none
  reason : Option String := none
  errorType : Option String := none
  marketability : Option Marketability := none
  quoteSource : Option QuoteSource := none
  sourceToReceive : Option ℤ := none
  quoteLatency : Option ℤ := none
  signLatency : Option ℤ := none
  quoteToPost : Option ℤ := none
  postLatency : Option ℤ := none
  submissionAttemptConsumed : Option Bool := none
  cancellation : Option Cancellation := none
  ttlSeconds : Option ℕ := none
  paperOrderId : Option String := none
  labelVersion : Option String := none
  officialOutcome : Option String := none
  selectedSide : Option String := none
  confirmedFilledShares : Option Decimal := none
  confirmedFilledNotionalUsd : Option Decimal := none
  modeledFeeUsd : Option Decimal := none
  riskRealizedPnlUsd : Option Decimal := none
  statusText : Option String := none
  code : Option String := none
  message : Option String := none
  remoteGeoblock : Option String := none
  killSwitchEngaged : Option Bool := none
  activationValid : Option Bool := none
  submissionReady : Option Bool := none
  liveOrderSubmitted : Option Bool := none
  officialOpenOrderCount : Option ℤ := none
  collateralBalanceUsd : Option Decimal := none
  requestSha256 : Option String := none
  executorResult : Option FastLiveResult := none
  networkSubmissionAttemptConsumed : Option Bool := none
  realOrderSubmitted : Option Bool := none
deriving DecidableEq, Repr

/-- The kinds of reconciliation rows. -/
inductive ReconciliationKind where
  | fastLiveSubmissionPendingOfficialReconciliation
  | fastLiveTerminalNoExposure
  | postSubmissionOfficialZeroFill
  | postSubmissionOfficialFillOpenExposure
  | fastLiveOfficialSettlement
  | preSubmissionIntentClose
  | fastLivePreSubmissionClose
deriving DecidableEq, Repr

/-- The operations that write reconciliation rows. -/
inductive ReconciliationSource where
  | initialVerifiedAccountBaseline
  | fastLiveResult
  | fastLiveOfficialReconciliation
  | fastLiveSettlement
deriving DecidableEq, Repr

/-- The `account_snapshot` document of a reconciliation row. -/
structure AccountEvidence where
  totalExposureUsd : Decimal
  realizedDailyPnlUsd : Decimal
  consecutiveLosses : ℤ
deriving DecidableEq, Repr

/-- The codes of the issues a reconciliation with the official orders finds. -/
inductive IssueCode where
  | intentWithoutExternalResult
  | orderCreatedWhileRiskBlocked
  | duplicateExternalOrderId
  | externalOrderWithoutLocalIntent
  | externalTokenMismatch
  | externalSideMismatch
  | externalOrderSizeMismatch
  | externalLimitPriceMismatch
  | filledAmountExceedsRequest
  | fillPriceAboveLimit
  | unknownExternalState
  | externalStateFromFuture
  | staleExternalState
  | cancellationDisagreement
deriving DecidableEq, Repr

/-- The text of an issue's code. -/
def IssueCode.text : IssueCode → String
  | .intentWithoutExternalResult => "intent_without_external_result"
  | .orderCreatedWhileRiskBlocked => "order_created_while_risk_blocked"
  | .duplicateExternalOrderId => "duplicate_external_order_id"
  | .externalOrderWithoutLocalIntent => "external_order_without_local_intent"
  | .externalTokenMismatch => "external_token_mismatch"
  | .externalSideMismatch => "external_side_mismatch"
  | .externalOrderSizeMismatch => "external_order_size_mismatch"
  | .externalLimitPriceMismatch => "external_limit_price_mismatch"
  | .filledAmountExceedsRequest => "filled_amount_exceeds_request"
  | .fillPriceAboveLimit => "fill_price_above_limit"
  | .unknownExternalState => "unknown_external_state"
  | .externalStateFromFuture => "external_state_from_future"
  | .staleExternalState => "stale_external_state"
  | .cancellationDisagreement => "cancellation_disagreement"

/-- A value in the evidence of an issue. -/
inductive IssueValue where
  | text (value : String)
  | number (value : Decimal)
  | count (value : ℕ)
deriving DecidableEq, Repr

/-- `ReconciliationIssue`; the evidence by its keys. -/
structure ReconciliationIssue where
  code : IssueCode
  critical : Bool
  intentId : Option String := none
  externalOrderId : Option String := none
  evidence : List (String × IssueValue) := []
deriving DecidableEq, Repr

/-- The evidence of a reconciliation row, whoever writes it. -/
structure ReconciliationEvidence where
  source : Option ReconciliationSource := none
  reconciliationKind : Option ReconciliationKind := none
  intentId : Option String := none
  externalOrderId : Option String := none
  status : Option ResultStatus := none
  submissionAttemptConsumed : Option Bool := none
  networkSubmissionAttemptConsumed : Option Bool := none
  officialOpenOrderCount : Option ℤ := none
  collateralBalanceUsd : Option Decimal := none
  confirmedFilledShares : Option Decimal := none
  confirmedFilledNotionalUsd : Option Decimal := none
  officialFillState : Option FillState := none
  matchingTradeCount : Option ℤ := none
  paperOrderId : Option String := none
  labelVersion : Option String := none
  officialOutcome : Option String := none
  selectedSide : Option String := none
  averageFillPrice : Option Decimal := none
  modeledFeeRate : Option Decimal := none
  modeledFeeUsd : Option Decimal := none
  riskRealizedPnlUsd : Option Decimal := none
  feeAccountingBasis : Option String := none
  accountSnapshot : Option AccountEvidence := none
  accountSnapshotCarriedFrom : Option String := none
  phase : Option String := none
  reason : Option String := none
  requestSha256 : Option String := none
  localIntentCount : Option ℕ := none
  localEventCount : Option ℕ := none
  officialOrderCount : Option ℕ := none
  issues : Option (List ReconciliationIssue) := none
deriving DecidableEq, Repr

end BpEngine.FastLive
