import BpEngine.Execution.Canary
import BpEngine.Library.Pool

/-!
# The live execution gateway

`submit_order` of `execution/live.py`: one transaction that decides and persists the intent, the
call of the client, and one transaction that records its outcome.

* `SubmitCall` holds the arguments of a call and what it reads outside the live ledger;
  `persistIntent` is the first transaction.
* `GatewayOp` lists the effects of a call and `submitOrder` is the program over them.
* `gatewayHost` serves them from a `GatewayWorld`: the transactions are computed, the client and a
  failing database answer what they like.
-/

namespace BpEngine.Gateway

open BpEngine.Execution BpEngine.FastLive BpEngine.LiveReadiness BpEngine.Canary

/-! ## Arguments and results -/

/-- The arguments of `submit_order`, the policy of the gateway, and what the call reads outside the
live ledger. -/
structure SubmitCall where
  policy : LiveRiskPolicy
  request : ExecutionOrderRequest
  observedAt : Timestamp
  prediction : Option Prediction
  selectedLiquidityUsd : Option Decimal
  interlock : InterlockDecision
  apiHealthy : Bool
  /-- `_text` of the request's `__post_init__` strips the identifier. -/
  predictionId_clean : strip request.predictionId = request.predictionId
deriving DecidableEq

/-- `ExecutionOrderAck`. -/
structure ExecutionOrderAck where
  orderId : String
  accepted : Bool
  observedAt : Timestamp
  reason : String
deriving DecidableEq, Repr

/-- The constructor call of `ExecutionOrderAck`. -/
def ExecutionOrderAck.create (orderId : String) (accepted : Bool) (observedAt : Timestamp)
    (reason : String) : Outcome ExecutionOrderAck := do
  let order ← Execution.text orderId "order_id"
  let why ← Execution.text reason "reason"
  .ok ⟨order, accepted, observedAt, why⟩

/-- `LiveClientOrderResult`. -/
structure LiveClientOrderResult where
  accepted : Bool
  externalOrderId : Option String
  status : String
  code : String
  message : String
deriving DecidableEq, Repr

/-! ## The first transaction -/

/-- `_intent_for_prediction`; the table has at most one such row. -/
def intentForPrediction (ledger : Ledger) (predictionId policyVersion : String) :
    Option IntentRow :=
  ledger.intents.find? fun row =>
    row.payload.predictionId == predictionId && row.payload.policyVersion == policyVersion

/-- `_replay_submission_ack`: the acknowledgement of the recorded attempt, when there is one. -/
def replaySubmissionAck (ledger : Ledger) (intent : IntentRow) (observedAt : Timestamp) :
    Outcome (Option ExecutionOrderAck) :=
  match ledger.events.reverse.find? fun event =>
      event.intentId == intent.intentId && event.eventType.isSubmissionAttempt with
  | none => .ok none
  | some event =>
    if event.eventType = .accepted ∧ orEmpty event.externalOrderId ≠ "" then
      (ExecutionOrderAck.create (orEmpty event.externalOrderId) true observedAt "existing").map some
    else if event.eventType = .rejected then
      (ExecutionOrderAck.create intent.intentId false observedAt
        (if orEmpty event.evidence.code = "" then "rejected" else orEmpty event.evidence.code)).map
        some
    else
      (ExecutionOrderAck.create intent.intentId false observedAt "submission_unknown").map some

/-- The risk context of a call. -/
def gatewayContext (call : SubmitCall) (prediction : Prediction) (duplicateIntent : Bool)
    (account : LiveAccountSnapshot) : LiveRiskContext where
  predictionId := prediction.predictionId
  predictionSemanticSha256 := prediction.semanticSha256
  recordedAt := prediction.recordedAt
  marketEndAt := prediction.marketEndAt
  trade := prediction.trade
  executable := prediction.executable
  probability := prediction.calibratedProbability
  expectedEdge := prediction.costAdjustedEdge.getD ⟨-1, 0⟩
  selectedAsk := prediction.selectedAsk
  spread := prediction.selectedSpread
  selectedLiquidityUsd := call.selectedLiquidityUsd
  requestedNotionalUsd := call.request.targetNotionalUsd
  observedAt := call.observedAt
  apiHealthy := call.apiHealthy
  duplicateIntent
  account

/-- The evidence of the risk decision; the entries of the fast-live documents are left out. -/
def gatewayRiskEvidence (D : Digests) (call : SubmitCall) (duplicateIntent : Bool) :
    RiskDecisionEvidence where
  phase := ""
  requestId := D.requestId call.request
  paperOrderId := ""
  conditionId := call.request.conditionId
  tokenId := call.request.tokenId
  selectedSide := call.request.selectedSide
  requestedNotionalUsd := call.request.targetNotionalUsd
  selectedLiquidityUsd := call.selectedLiquidityUsd
  apiHealthy := call.apiHealthy
  officialOpenOrderCount := 0
  collateralBalanceUsd := 0
  interlockEligible := call.interlock.eligible
  interlockReasons := call.interlock.reasons
  polymarketSourceTime := ⟨false, none, none, none, none, none⟩
  fastLive := false
  finalizedFromPreview := false
  duplicateIntent := some duplicateIntent

/-- The evidence of the intent. -/
def gatewayIntentEvidence (request : ExecutionOrderRequest) : IntentEvidence where
  phase := ""
  predictionSemanticSha256 := request.predictionSemanticSha256
  conditionId := request.conditionId
  selectedSide := request.selectedSide
  executionVersion := request.executionVersion
  executionConfigSha256 := request.executionConfigSha256
  paperOrderId := ""
  requestSha256 := ""
  modeledFeeRate := 0
  fastLive := false
  finalizedFromPreview := false

/-- What the first transaction ends with: an acknowledgement, or the intent to submit. -/
inductive Persisted where
  | ack (ack : ExecutionOrderAck)
  | intent (intentId : String)
deriving DecidableEq, Repr

/-- The part of the first transaction that no recorded attempt answers. -/
def decideIntent (D : Digests) (ledger : Ledger) (call : SubmitCall) (prediction : Prediction)
    (duplicateIntent : Bool) : Outcome (Ledger × Persisted) := do
  let account ← liveAccountSnapshot ledger call.observedAt
  let context ← (gatewayContext call prediction duplicateIntent account).create
  let decision ← evaluateLiveRisk call.policy context call.interlock.eligible
    call.interlock.reasons
  let decided ← storeRiskDecision D ledger call.request.predictionId
    call.request.predictionSemanticSha256 call.policy.policyVersion decision account
    (gatewayRiskEvidence D call duplicateIntent) call.observedAt
  if decision.eligible = false then
    let ack ← ExecutionOrderAck.create (D.requestId call.request) false call.observedAt
      (decision.reasons.headD "live_risk_blocked")
    .ok (decided.ledger, .ack ack)
  else
    let stored ← storeOrderIntent D decided.ledger call.request.predictionId
      call.policy.policyVersion (D.requestId call.request) decided.record.decisionId
      call.request.tokenId "BUY" call.request.requestedShares call.request.limitPrice
      call.observedAt (gatewayIntentEvidence call.request)
    .ok (stored.ledger, .intent stored.record.intentId)

/-- The first transaction of `submit_order`. -/
def persistIntent (D : Digests) (ledger : Ledger) (call : SubmitCall) :
    Outcome (Ledger × Persisted) :=
  let mismatch : Outcome (Ledger × Persisted) :=
    (ExecutionOrderAck.create (D.requestId call.request) false call.observedAt
      "source_prediction_mismatch").map fun ack => (ledger, .ack ack)
  match call.prediction with
  | none => mismatch
  | some prediction =>
    if sourceRequestMatches prediction call.request = false then mismatch
    else
      match intentForPrediction ledger call.request.predictionId call.policy.policyVersion with
      | none => decideIntent D ledger call prediction false
      | some existing => do
        match ← replaySubmissionAck ledger existing call.observedAt with
        | some ack => .ok (ledger, .ack ack)
        | none => decideIntent D ledger call prediction true

/-! ## The effects of a call -/

/-- An order handed to the client, with the prediction and the policy it is for. -/
structure Submission where
  predictionId : String
  policyVersion : String
  tokenId : String
  price : Decimal
  size : Decimal
deriving DecidableEq, Repr

/-- The order of a call. -/
def SubmitCall.submission (call : SubmitCall) : Submission where
  predictionId := call.request.predictionId
  policyVersion := call.policy.policyVersion
  tokenId := call.request.tokenId
  price := call.request.limitPrice
  size := call.request.requestedShares

/-- The event that records the outcome of a submission. -/
structure SubmissionEvent where
  intentId : String
  eventType : EventType
  observedAt : Timestamp
  externalOrderId : Option String
  evidence : EventEvidence
deriving DecidableEq

/-- The effects of a call: the two transactions, the client's constructor and its submission. -/
inductive GatewayOp where
  | persist (call : SubmitCall)
  | createClient
  | submitLimitBuy (submission : Submission)
  | storeEvent (event : SubmissionEvent)

/-- The answers; a constructor or a submission that raises answers `false` and `none`. -/
def GatewayOp.Ans : GatewayOp → Type
  | .persist _ => Outcome Persisted
  | .createClient => Bool
  | .submitLimitBuy _ => Option LiveClientOrderResult
  | .storeEvent _ => Outcome Unit

/-- A program of the gateway. -/
abbrev GatewayM (α : Type) := Program GatewayOp GatewayOp.Ans Raised α

def persist (call : SubmitCall) : GatewayM (Outcome Persisted) := Program.call (GatewayOp.persist call)

def createClient : GatewayM Bool := Program.call GatewayOp.createClient

def submitLimitBuy (submission : Submission) : GatewayM (Option LiveClientOrderResult) :=
  Program.call (GatewayOp.submitLimitBuy submission)

def storeEvent (event : SubmissionEvent) : GatewayM (Outcome Unit) :=
  Program.call (GatewayOp.storeEvent event)

/-- The event a submission is recorded with, and the order and reason it is acknowledged with. -/
def submissionEvent (intentId : String) (observedAt : Timestamp) :
    Option LiveClientOrderResult → SubmissionEvent × String × Bool × String
  | none =>
    (⟨intentId, .submissionUnknown, observedAt, none,
      { phase := "", statusText := some "submission_unknown", code := some "client_exception" }⟩,
      intentId, false, "submission_unknown")
  | some result =>
    if result.accepted = true ∧ orEmpty result.externalOrderId ≠ "" then
      (⟨intentId, .accepted, observedAt, result.externalOrderId,
        { phase := "", statusText := some result.status, code := some result.code,
          message := some result.message }⟩,
        orEmpty result.externalOrderId, true, "accepted")
    else if result.accepted = false ∧ lower result.status = "rejected" then
      (⟨intentId, .rejected, observedAt, result.externalOrderId,
        { phase := "", statusText := some result.status, code := some result.code,
          message := some result.message }⟩,
        intentId, false, if result.code = "" then "rejected" else result.code)
    else
      (⟨intentId, .submissionUnknown, observedAt, result.externalOrderId,
        { phase := "", statusText := some result.status, code := some result.code }⟩,
        intentId, false, "submission_unknown")

/-- The client is made and given the order; an exception of either is caught. -/
def submitToClient (call : SubmitCall) : GatewayM (Option LiveClientOrderResult) := do
  if ← createClient then submitLimitBuy call.submission
  else pure none

/-- `submit_order`. -/
def submitOrder (call : SubmitCall) : GatewayM ExecutionOrderAck := do
  match ← Program.ofExcept (← persist call) with
  | .ack ack => pure ack
  | .intent intentId =>
    let (event, orderId, accepted, reason) :=
      submissionEvent intentId call.observedAt (← submitToClient call)
    Program.ofExcept (← storeEvent event)
    Program.ofExcept (ExecutionOrderAck.create orderId accepted call.observedAt reason)

/-! ## The world -/

/-- What outlives a call: the ledger, and the orders the client was given. -/
structure GatewayWorld where
  ledger : Ledger := {}
  submissions : List Submission := []

/-- Rows that other operations append. -/
def appendRows (ledger rows : Ledger) : Ledger where
  riskDecisions := ledger.riskDecisions ++ rows.riskDecisions
  intents := ledger.intents ++ rows.intents
  events := ledger.events ++ rows.events
  reconciliations := ledger.reconciliations ++ rows.reconciliations

/-- `_store_submission_event`. -/
def storeSubmissionEvent (ledger : Ledger) (event : SubmissionEvent) : Outcome (Ledger × Unit) :=
  (storeOrderEvent ledger ⟨event.intentId, event.eventType, none⟩ event.intentId event.eventType
    event.observedAt event.externalOrderId event.evidence).map fun stored => (stored.ledger, ())

/-! ## Cancelling -/

/-- `LiveClientCancelResult`. -/
structure LiveClientCancelResult where
  cancelled : Bool
  status : String
  message : String
deriving DecidableEq, Repr

/-- The event a cancellation of the accepted order `orderId` is recorded with. -/
def cancellationEvent (intentId orderId : String) (observedAt : Timestamp) :
    Option LiveClientCancelResult → SubmissionEvent
  | none =>
    ⟨intentId, .cancellationUnknown, observedAt, some orderId,
      { phase := "", statusText := some "cancellation_unknown", code := some "client_exception" }⟩
  | some result =>
    let eventType : EventType :=
      if result.cancelled then .cancelled
      else if result.status = "not_cancelled" then .cancelRejected
      else .cancellationUnknown
    ⟨intentId, eventType, observedAt, some orderId,
      { phase := "", statusText := some result.status, message := some result.message }⟩

/-- What `cancel_order` does to the ledger, with the client's answer: nothing for an order that was
not accepted or whose intent is cancelled already. -/
def cancelOrder (ledger : Ledger) (orderId : String) (observedAt : Timestamp)
    (answer : Option LiveClientCancelResult) : Outcome Ledger :=
  match ledger.events.reverse.find? fun event =>
      event.externalOrderId == some orderId && event.eventType == .accepted with
  | none => .ok ledger
  | some accepted =>
    if hasEvent ledger accepted.intentId (· == .cancelled) then .ok ledger
    else
      (storeSubmissionEvent ledger (cancellationEvent accepted.intentId orderId observedAt
        answer)).map Prod.fst

/-! ## Serving the effects -/

/-- A transaction: it fails when the proposed answer is an error, and is computed otherwise; what
fails is rolled back. -/
def GatewayWorld.transact {α : Type} (world : GatewayWorld) (proposal : Outcome α)
    (computed : Outcome (Ledger × α)) : Outcome α × GatewayWorld :=
  match proposal, computed with
  | .error raised, _ => (.error raised, world)
  | .ok _, .error raised => (.error raised, world)
  | .ok _, .ok (ledger, value) => (.ok value, { world with ledger })

/-- The answer to an effect: the transactions are computed, the client answers what it likes. -/
def GatewayWorld.serve (D : Digests) (world : GatewayWorld) :
    (op : GatewayOp) → op.Ans → Option (op.Ans × GatewayWorld)
  | .persist call, proposal => some (world.transact proposal (persistIntent D world.ledger call))
  | .createClient, answer => some (answer, world)
  | .submitLimitBuy submission, answer =>
    some (answer, { world with submissions := world.submissions ++ [submission] })
  | .storeEvent event, proposal =>
    some (world.transact proposal (storeSubmissionEvent world.ledger event))

/-- Calls of the gateway, crashes, and rows of other operations. -/
def gatewayHost (D : Digests) :
    Host GatewayWorld SubmitCall Ledger GatewayOp GatewayOp.Ans Raised ExecutionOrderAck where
  start := submitOrder
  serve := GatewayWorld.serve D
  stop := id
  outside world rows := { world with ledger := appendRows world.ledger rows }

end BpEngine.Gateway
