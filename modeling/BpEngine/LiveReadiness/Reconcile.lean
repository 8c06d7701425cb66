import BpEngine.LiveReadiness.Repository

/-!
# The reconciliation with the official orders

`reconcile_snapshot` of `live_readiness/service.py`: the issues between the live ledger and a
snapshot of the official orders, and the row that records them.

* `OfficialOrderSnapshot` is an order of the venue with the checks of its `__post_init__`.
* `intentIssues` are the issues the ledger alone shows of an intent, `orderIssues` those of an
  order that the snapshot lists; `reconciliationIssues` collects them.
-/

namespace BpEngine.LiveReadiness

open BpEngine.Execution BpEngine.FastLive

/-! ## Snapshots and issues -/

/-- `OfficialOrderSnapshot`: the side is in upper case, the status in lower case. -/
structure OfficialOrderSnapshot where
  externalOrderId : String
  tokenId : String
  side : String
  status : String
  originalSize : Decimal
  filledSize : Decimal
  limitPrice : Decimal
  averageFillPrice : Option Decimal
  observedAt : Timestamp
  externalOrderId_ne : externalOrderId ≠ ""
  side_eq : side = "BUY" ∨ side = "SELL"
  originalSize_pos : 0 < originalSize
  filledSize_nonneg : 0 ≤ filledSize
  limitPrice_pos : 0 < limitPrice
  limitPrice_le_one : limitPrice ≤ 1
  average_le_one : ∀ price ∈ averageFillPrice, 0 < price ∧ price ≤ 1

/-- `_KNOWN_EXTERNAL_STATUSES`. -/
def knownExternalStatuses : List String :=
  ["open", "live", "partially_filled", "filled", "matched", "cancelled", "canceled", "expired",
    "rejected"]

/-- `_TERMINAL_CANCELLATION_STATUSES`. -/
def terminalCancellationStatuses : List String := ["cancelled", "canceled"]

/-- The key issues are told apart and sorted by. -/
def issueKey (issue : ReconciliationIssue) : String × String × String :=
  (issue.code.text, orEmpty issue.externalOrderId, orEmpty issue.intentId)

/-- `_issue_sort_key` of the first is at most that of the second. -/
def issueLe (a b : ReconciliationIssue) : Prop :=
  (issueKey a).1 < (issueKey b).1 ∨ (issueKey a).1 = (issueKey b).1 ∧
    ((issueKey a).2.1 < (issueKey b).2.1 ∨ (issueKey a).2.1 = (issueKey b).2.1 ∧
      (issueKey a).2.2 ≤ (issueKey b).2.2)

instance : DecidableRel issueLe := fun a b => by unfold issueLe; infer_instance

/-- `ReconciliationResult`. -/
structure ReconciliationResult where
  observedAt : Timestamp
  unresolvedCount : ℕ
  criticalDiscrepancyCount : ℕ
  issues : List ReconciliationIssue
deriving DecidableEq, Repr

/-! ## The intents of the ledger -/

/-- `events_by_intent`. -/
def eventsOf (ledger : Ledger) (intentId : String) : List EventRow :=
  ledger.events.filter (·.intentId == intentId)

/-- The external orders of an intent's events. -/
def externalIds (ledger : Ledger) (intentId : String) : List String :=
  (((eventsOf ledger intentId).map fun event => orEmpty event.externalOrderId).filter
    (· ≠ "")).dedup

/-- An event of the intent says that it was rejected. -/
def wasRejected (ledger : Ledger) (intentId : String) : Bool :=
  (eventsOf ledger intentId).any (·.eventType == .rejected)

/-- `risk_by_id`; the identifiers are unique. -/
def riskById (ledger : Ledger) (decisionId : String) : Option RiskDecisionRow :=
  ledger.riskDecisions.find? (·.decisionId == decisionId)

/-- The issue of an intent that is not rejected and has no external order. -/
def missingResultIssue (ledger : Ledger) (intent : IntentRow) : List ReconciliationIssue :=
  if wasRejected ledger intent.intentId = false ∧ externalIds ledger intent.intentId = [] then
    [{ code := .intentWithoutExternalResult
       critical := true
       intentId := some intent.intentId
       evidence := [("prediction_id", .text intent.payload.predictionId)] }]
  else []

/-- The issue of an intent that has an external order though its risk decision blocked it. -/
def blockedRiskIssue (ledger : Ledger) (intent : IntentRow) : List ReconciliationIssue :=
  match riskById ledger intent.payload.riskDecisionId with
  | none => []
  | some risk =>
    match (externalIds ledger intent.intentId).insertionSort (· ≤ ·) with
    | [] => []
    | first :: _ =>
      if risk.payload.decision.eligible then []
      else
        [{ code := .orderCreatedWhileRiskBlocked
           critical := true
           intentId := some intent.intentId
           externalOrderId := some first
           evidence := [("risk_decision_id", .text intent.payload.riskDecisionId)] }]

/-- The issues the ledger alone shows of an intent. -/
def intentIssues (ledger : Ledger) (intent : IntentRow) : List ReconciliationIssue :=
  missingResultIssue ledger intent ++ blockedRiskIssue ledger intent

/-- `local_external_to_intent` and `duplicate_local_external_ids`. -/
structure LocalOrders where
  intentOf : List (String × IntentRow) := []
  duplicates : List String := []

/-- One external order of an intent: the first intent that has it keeps it. -/
def LocalOrders.add (orders : LocalOrders) (intent : IntentRow) (externalOrderId : String) :
    LocalOrders :=
  match orders.intentOf.lookup externalOrderId with
  | none => { orders with intentOf := orders.intentOf ++ [(externalOrderId, intent)] }
  | some existing =>
    if existing.intentId ≠ intent.intentId then
      { orders with duplicates := orders.duplicates.insert externalOrderId }
    else orders

/-- The external orders of all intents. -/
def localOrders (ledger : Ledger) : LocalOrders :=
  ledger.intents.foldl (fun orders intent =>
    (externalIds ledger intent.intentId).foldl (fun orders id => orders.add intent id) orders) {}

/-! ## The official orders -/

/-- The issue that two intents, or two official orders, have one external order. -/
def duplicateIssue (externalOrderId : String) (evidence : List (String × IssueValue)) :
    ReconciliationIssue where
  code := .duplicateExternalOrderId
  critical := true
  externalOrderId := some externalOrderId
  evidence := evidence

/-- A critical issue of a listed order of an intent, when the check fails. -/
def orderIssue (failed : Prop) [Decidable failed] (code : IssueCode) (intent : IntentRow)
    (order : OfficialOrderSnapshot) (evidence : List (String × IssueValue)) :
    List ReconciliationIssue :=
  if failed then
    [{ code
       critical := true
       intentId := some intent.intentId
       externalOrderId := some order.externalOrderId
       evidence }]
  else []

/-- The checks of a listed order against the intent that has it. -/
def matchedIssues (ledger : Ledger) (observedAt : Timestamp) (staleAfterSeconds : Decimal)
    (intent : IntentRow) (order : OfficialOrderSnapshot) : List ReconciliationIssue :=
  let side := intent.payload.side.toUpper
  let age := Timestamp.seconds (observedAt - order.observedAt)
  let cancelled := (eventsOf ledger intent.intentId).any (·.eventType == .cancelled)
  orderIssue (order.tokenId ≠ intent.payload.tokenId) .externalTokenMismatch intent order
      [("expected_token_id", .text intent.payload.tokenId)] ++
    orderIssue (order.side ≠ side) .externalSideMismatch intent order
      [("expected_side", .text side)] ++
    orderIssue (¬ Decimal.Same order.originalSize intent.size) .externalOrderSizeMismatch intent
      order [("requested_size", .number intent.size),
        ("official_original_size", .number order.originalSize)] ++
    orderIssue (¬ Decimal.Same order.limitPrice intent.limitPrice) .externalLimitPriceMismatch
      intent order [("local_limit_price", .number intent.limitPrice),
        ("official_limit_price", .number order.limitPrice)] ++
    orderIssue (intent.size < order.filledSize) .filledAmountExceedsRequest intent order
      [("requested_size", .number intent.size), ("filled_size", .number order.filledSize)] ++
    (match order.averageFillPrice with
      | none => []
      | some price =>
        orderIssue (side = "BUY" ∧ intent.limitPrice < price) .fillPriceAboveLimit intent order
          [("limit_price", .number intent.limitPrice), ("average_fill_price", .number price)]) ++
    orderIssue (order.status ∉ knownExternalStatuses) .unknownExternalState intent order
      [("status", .text order.status)] ++
    orderIssue (age < 0) .externalStateFromFuture intent order [] ++
    orderIssue (¬ age < 0 ∧ staleAfterSeconds < age) .staleExternalState intent order
      [("age_seconds", .number age)] ++
    orderIssue (cancelled = true ∧ order.status ∉ terminalCancellationStatuses)
      .cancellationDisagreement intent order [("official_status", .text order.status)]

/-- The issues of a listed order. -/
def orderIssues (ledger : Ledger) (orders : LocalOrders) (observedAt : Timestamp)
    (staleAfterSeconds : Decimal) (order : OfficialOrderSnapshot) : List ReconciliationIssue :=
  match orders.intentOf.lookup order.externalOrderId with
  | none =>
    [{ code := .externalOrderWithoutLocalIntent
       critical := true
       externalOrderId := some order.externalOrderId
       evidence := [("status", .text order.status)] }]
  | some intent => matchedIssues ledger observedAt staleAfterSeconds intent order

/-- The identifiers of a snapshot in order. -/
def officialIds (officialOrders : List OfficialOrderSnapshot) : List String :=
  (officialOrders.map (·.externalOrderId)).dedup.insertionSort (· ≤ ·)

/-- `first_official`, by the identifiers in order. -/
def firstOfficial (officialOrders : List OfficialOrderSnapshot) : List OfficialOrderSnapshot :=
  (officialIds officialOrders).filterMap fun id =>
    officialOrders.find? (·.externalOrderId == id)

/-! ## The reconciliation -/

/-- `_deduplicate_issues`: the first issue with each key. -/
def deduplicateIssues (issues : List ReconciliationIssue) : List ReconciliationIssue :=
  issues.foldl (fun unique issue =>
    if unique.any fun other => issueKey other == issueKey issue then unique
    else unique ++ [issue]) []

/-- The issues in the order they are found. -/
def foundIssues (ledger : Ledger) (officialOrders : List OfficialOrderSnapshot)
    (observedAt : Timestamp) (staleAfterSeconds : Decimal) : List ReconciliationIssue :=
  let orders := localOrders ledger
  ledger.intents.flatMap (intentIssues ledger) ++
    (orders.duplicates.insertionSort (· ≤ ·)).map
      (fun id => duplicateIssue id [("source", .text "local_events")]) ++
    ((officialIds officialOrders).filter fun id =>
        1 < officialOrders.countP (·.externalOrderId == id)).map (fun id =>
      duplicateIssue id [("source", .text "official_snapshot"),
        ("count", .count (officialOrders.countP (·.externalOrderId == id)))]) ++
    (firstOfficial officialOrders).flatMap (orderIssues ledger orders observedAt staleAfterSeconds)

/-- `_reconciliation_issues`, sorted by `_issue_sort_key`. -/
def reconciliationIssues (ledger : Ledger) (officialOrders : List OfficialOrderSnapshot)
    (observedAt : Timestamp) (staleAfterSeconds : Decimal) : List ReconciliationIssue :=
  (deduplicateIssues (foundIssues ledger officialOrders observedAt staleAfterSeconds)).insertionSort
    issueLe

/-- `reconcile_snapshot`. -/
def reconcileSnapshot (D : Digests) (ledger : Ledger) (officialOrders : List OfficialOrderSnapshot)
    (observedAt : Timestamp) (staleAfterSeconds : Decimal) :
    Outcome (Ledger × ReconciliationResult) := do
  let issues := reconciliationIssues ledger officialOrders observedAt staleAfterSeconds
  let result : ReconciliationResult :=
    ⟨observedAt, issues.length, issues.countP (·.critical), issues⟩
  let stored ← storeReconciliationRun D ledger observedAt result.unresolvedCount
    result.criticalDiscrepancyCount
    { localIntentCount := some ledger.intents.length
      localEventCount := some ledger.events.length
      officialOrderCount := some officialOrders.length
      issues := some issues }
  .ok (stored.ledger, result)

end BpEngine.LiveReadiness
