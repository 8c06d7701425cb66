import BpEngine.Library.Table
import BpEngine.Execution.Paper
import BpEngine.FastLive.Records
import BpEngine.LiveReadiness.Risk

/-!
# The live ledger and its repository

`live_readiness/repository.py` over the tables of `storage/live_readiness_schema.py`.  The four
tables are append-only; every write is keyed by an identifier that is a digest of its content
(an order intent by prediction and policy version), and compares the content of a row it finds.

* `Digests` are the identifier derivations; all that is assumed of them is that an intent id has
  no blanks around it.
* `Ledger` is the state, `storeRiskDecision`, `storeOrderIntent`, `storeOrderEvent` and
  `storeReconciliationRun` are the writes.
* `numeric` is a value as a `Numeric(38, 18)` column holds it.
-/

namespace BpEngine.LiveReadiness

open BpEngine.Execution BpEngine.FastLive BpEngine.Table

/-! ## Rows -/

/-- What the source clock of the market stream says about a quote. -/
structure SourceTimeHealth where
  eligible : Bool
  reason : Option String
  receivedAt : Option Timestamp
  sourceTimestamp : Option Timestamp
  sourceAgeSeconds : Option Decimal
  transportLagSeconds : Option Decimal
deriving DecidableEq, Repr

/-- The evidence of a risk decision of the fast-live preparation; the canary and the live gateway
leave out what they do not write. -/
structure RiskDecisionEvidence where
  phase : String
  requestId : String
  paperOrderId : String
  conditionId : String
  tokenId : String
  selectedSide : Side
  requestedNotionalUsd : Decimal
  selectedLiquidityUsd : Option Decimal
  apiHealthy : Bool
  officialOpenOrderCount : ℤ
  collateralBalanceUsd : Decimal
  interlockEligible : Bool
  interlockReasons : List String
  polymarketSourceTime : SourceTimeHealth
  fastLive : Bool
  finalizedFromPreview : Bool
  stagingInterlock : Bool := false
  prepareArmWindowSeconds : Option Decimal := none
  prepareArmWindowMinSeconds : Option Decimal := none
  duplicateIntent : Option Bool := none
deriving DecidableEq

/-- The content of a risk decision. -/
structure RiskDecisionPayload where
  predictionId : String
  predictionSemanticSha256 : String
  policyVersion : String
  decision : LiveRiskDecision
  accountSnapshot : LiveAccountSnapshot
  evidence : RiskDecisionEvidence
  createdAt : Timestamp
deriving DecidableEq

/-- A row of `live_risk_decisions`. -/
structure RiskDecisionRow where
  decisionId : String
  payload : RiskDecisionPayload
deriving DecidableEq

/-- The evidence of an order intent. -/
structure IntentEvidence where
  phase : String
  predictionSemanticSha256 : String
  conditionId : String
  selectedSide : Side
  executionVersion : ExecutionVersion
  executionConfigSha256 : String
  paperOrderId : String
  requestSha256 : String
  modeledFeeRate : Decimal
  fastLive : Bool
  finalizedFromPreview : Bool
deriving DecidableEq, Repr

/-- The content of an order intent. -/
structure IntentPayload where
  predictionId : String
  policyVersion : String
  requestId : String
  riskDecisionId : String
  tokenId : String
  side : String
  size : Decimal
  limitPrice : Decimal
  preSubmitAt : Timestamp
  evidence : IntentEvidence
deriving DecidableEq, Repr

/-- A row of `live_order_intents`: the content and the two amounts as the columns hold them. -/
structure IntentRow where
  intentId : String
  payload : IntentPayload
  size : Decimal
  limitPrice : Decimal
deriving DecidableEq, Repr

/-- The key of an event: the intent, the type, and the label version of a settlement. -/
structure EventKey where
  intentId : String
  eventType : EventType
  label : Option String := none
deriving DecidableEq, Repr

/-- A row of `live_order_events`, which is its content. -/
structure EventRow where
  eventKey : EventKey
  intentId : String
  eventType : EventType
  observedAt : Timestamp
  externalOrderId : Option String
  evidence : EventEvidence
deriving DecidableEq, Repr

/-- The content of a reconciliation row. -/
structure ReconciliationPayload where
  observedAt : Timestamp
  unresolvedCount : ℤ
  criticalCount : ℤ
  evidence : ReconciliationEvidence
deriving DecidableEq, Repr

/-- A row of `live_reconciliation_runs`. -/
structure ReconciliationRow where
  reconciliationId : String
  payload : ReconciliationPayload
deriving DecidableEq, Repr

/-- The live tables, each in insertion order. -/
structure Ledger where
  riskDecisions : List RiskDecisionRow := []
  intents : List IntentRow := []
  events : List EventRow := []
  reconciliations : List ReconciliationRow := []
deriving DecidableEq

/-- The identifiers that are derived from a digest of their content. -/
structure Digests extends ExecutionDigests where
  /-- `derive_id("live-request", semantic_sha256(request.as_mapping(raw=True)))`. -/
  requestId : ExecutionOrderRequest → String
  /-- `payload_sha256(request.as_mapping())`. -/
  requestSha256 : ExecutionOrderRequest → String
  /-- `derive_id("live-risk", digest)`. -/
  riskDecisionId : RiskDecisionPayload → String
  /-- `derive_id("live-intent", digest)`. -/
  intentId : IntentPayload → String
  /-- `derive_id("live-reconciliation", digest)`. -/
  reconciliationId : ReconciliationPayload → String
  intentId_ne_empty : ∀ payload, intentId payload ≠ ""
  strip_intentId : ∀ payload, strip (intentId payload) = intentId payload

/-! ## Field checks -/

/-- `_text`: the stripped text, which must not be blank. -/
def text (value field : String) : Outcome String :=
  if strip value = "" then raise .valueError s!"{field} must not be blank" else .ok (strip value)

/-- `_sha`: a digest with blanks around it, in lower case. -/
def sha (value field : String) : Outcome String :=
  if isHex64 (lower (strip value)) then .ok (lower (strip value))
  else raise .valueError s!"{field} must be a 64-character SHA-256 digest"

/-- A value as a `Numeric(38, 18)` column holds it. -/
def numeric (value : Decimal) : Decimal := value.roundToScale 18

/-- A value with at most 20 digits before the point, which a `Numeric(38, 18)` column can hold. -/
def FitsNumeric (value : Decimal) : Prop := (numeric value).coeff.natAbs < 10 ^ 38

instance (value : Decimal) : Decidable (FitsNumeric value) :=
  inferInstanceAs (Decidable (_ < _))

/-! ## Writes -/

/-- The stored row and the ledger after the write. -/
structure StoreResult (ρ : Type) where
  created : Bool
  record : ρ
  ledger : Ledger

/-- `store_risk_decision`. -/
def storeRiskDecision (D : Digests) (ledger : Ledger)
    (predictionId predictionSemanticSha256 policyVersion : String) (decision : LiveRiskDecision)
    (accountSnapshot : LiveAccountSnapshot) (evidence : RiskDecisionEvidence)
    (createdAt : Timestamp) : Outcome (StoreResult RiskDecisionRow) := do
  let prediction ← text predictionId "prediction_id"
  let predictionSha ← sha predictionSemanticSha256 "prediction_semantic_sha256"
  let version ← text policyVersion "policy_version"
  let payload : RiskDecisionPayload :=
    ⟨prediction, predictionSha, version, decision, accountSnapshot, evidence, createdAt⟩
  let decisionId := D.riskDecisionId payload
  let stored ← existingOrInsert ledger.riskDecisions (·.decisionId == decisionId) (·.payload)
    ⟨decisionId, payload⟩
    (⟨.liveRiskDecisionConflict, "risk decision id collides with different semantic content"⟩ :
      Raised)
  .ok ⟨stored.created, stored.row, { ledger with riskDecisions := stored.table }⟩

/-- `store_order_intent`: the natural key is the prediction and the policy version. -/
def storeOrderIntent (D : Digests) (ledger : Ledger)
    (predictionId policyVersion requestId riskDecisionId tokenId side : String)
    (size limitPrice : Decimal) (preSubmitAt : Timestamp) (evidence : IntentEvidence) :
    Outcome (StoreResult IntentRow) := do
  let prediction ← text predictionId "prediction_id"
  let version ← text policyVersion "policy_version"
  let request ← text requestId "request_id"
  let riskId ← text riskDecisionId "risk_decision_id"
  let token ← text tokenId "token_id"
  require (strip side ≠ "") .valueError "side must not be blank"
  require (strip side = "BUY") .valueError "side must be BUY for live readiness v1"
  require (0 < size) .valueError "size must be positive"
  require (0 < limitPrice ∧ limitPrice ≤ 1) .valueError "limit_price must be within (0, 1]"
  let payload : IntentPayload :=
    ⟨prediction, version, request, riskId, token, "BUY", size, limitPrice, preSubmitAt, evidence⟩
  let new : IntentRow := ⟨D.intentId payload, payload, numeric size, numeric limitPrice⟩
  let stored ← existingOrInsert ledger.intents
    (fun row => row.payload.predictionId == prediction && row.payload.policyVersion == version)
    (·.payload) new
    (⟨.liveOrderIntentConflict,
      "live order intent natural key collides with different semantic content"⟩ : Raised)
  -- what the table checks of a new row: the columns, the two CHECK constraints, the unique id
  require (stored.created → FitsNumeric size ∧ FitsNumeric limitPrice) .integrityError
    "numeric field overflow"
  require (stored.created → 0 < new.size ∧ 0 < new.limitPrice ∧ new.limitPrice ≤ 1)
    .integrityError "ck_live_intent_positive_size, ck_live_intent_limit_price"
  require (stored.created → ∀ row ∈ ledger.intents, row.intentId ≠ new.intentId)
    .integrityError "uq_live_intent_id"
  .ok ⟨stored.created, stored.row, { ledger with intents := stored.table }⟩

/-- `store_order_event`. -/
def storeOrderEvent (ledger : Ledger) (eventKey : EventKey) (intentId : String)
    (eventType : EventType) (observedAt : Timestamp) (externalOrderId : Option String)
    (evidence : EventEvidence) : Outcome (StoreResult EventRow) := do
  let intent ← text intentId "intent_id"
  let orderId ← externalOrderId.mapM fun id => text id "external_order_id"
  let row : EventRow := ⟨eventKey, intent, eventType, observedAt, orderId, evidence⟩
  let stored ← existingOrInsert ledger.events (·.eventKey == eventKey) id row
    (⟨.liveOrderEventConflict, "live order event key collides with different semantic content"⟩ :
      Raised)
  .ok ⟨stored.created, stored.row, { ledger with events := stored.table }⟩

/-- `store_reconciliation_run`. -/
def storeReconciliationRun (D : Digests) (ledger : Ledger) (observedAt : Timestamp)
    (unresolvedCount criticalCount : ℤ) (evidence : ReconciliationEvidence) :
    Outcome (StoreResult ReconciliationRow) := do
  require (0 ≤ unresolvedCount) .valueError "unresolved_count must be nonnegative"
  require (0 ≤ criticalCount ∧ criticalCount ≤ unresolvedCount) .valueError
    "critical_count must be nonnegative and no greater than unresolved_count"
  let payload : ReconciliationPayload := ⟨observedAt, unresolvedCount, criticalCount, evidence⟩
  let reconciliationId := D.reconciliationId payload
  let stored ← existingOrInsert ledger.reconciliations (·.reconciliationId == reconciliationId)
    (·.payload) ⟨reconciliationId, payload⟩
    (⟨.liveReconciliationConflict, "reconciliation id collides with different semantic content"⟩ :
      Raised)
  .ok ⟨stored.created, stored.row, { ledger with reconciliations := stored.table }⟩

end BpEngine.LiveReadiness
