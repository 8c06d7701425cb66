import BpEngine.FastLive.LedgerRun

/-!
# Recording an executor result

The function `record_fast_live_result` of `execution/fast_live_prepare.py`, which shares its name
with the one of `execution/fast_live_result.py` modelled in `Result`.  It stores the executor's
result as a whole and looks for earlier events of the intent before it writes.
-/

namespace BpEngine.FastLive.Prepare

open BpEngine.FastLive BpEngine.LiveReadiness BpEngine.Table

/-- What the function returns. -/
inductive ExecutorResponse where
  | alreadyRecorded (intentId : String) (eventType : EventType)
  | recordedNetworkAttempt (intentId : String) (eventType : EventType)
      (externalOrderId : Option String)
  | alreadyClosedBeforeSubmission (intentId : String)
  | closedBeforeSubmission (intentId reconciliationId : String)
deriving DecidableEq, Repr

/-- The latest event of the intent among the submission attempts. -/
def latestAttempt (ledger : Ledger) (intentId : String) : Option EventType :=
  (ledger.events.reverse.find? fun event =>
    event.intentId == intentId && event.eventType.isSubmissionAttempt).map (·.eventType)

/-- The intent was closed before any submission. -/
def isClosed (ledger : Ledger) (intentId : String) : Bool :=
  ledger.events.any fun event =>
    event.intentId == intentId && event.eventType == .closedBeforeSubmission

/-- `str(result.get("external_order_id") or "").strip() or None`. -/
def strippedOrder (result : FastLiveResult) : Option String :=
  some (strip (orEmpty result.externalOrderId.join)) |>.filter (· ≠ "")

/-- The event type of a network attempt. -/
def attemptType (result : FastLiveResult) (status : ResultStatus) : EventType :=
  if result.accepted = some true ∧ strippedOrder result ≠ none then .accepted
  else if strip status.text = "rejected" then .rejected
  else .submissionUnknown

/-- The type of the event of a cancellation. -/
def cancelType (cancellation : Cancellation) : EventType :=
  if cancellation.cancelled then .cancelled
  else if strip cancellation.notCancelled ≠ "" then .cancelRejected
  else .cancellationUnknown

/-- The event of the cancellation that follows an accepted order. -/
def storeCancelEvent (ledger : Ledger) (result : FastLiveResult) (intentId requestSha256 : String)
    (observedAt : Timestamp) : Outcome Ledger :=
  match result.cancellation with
  | some cancellation =>
    if result.accepted = some true ∧ strippedOrder result ≠ none then do
      let stored ← storeOrderEvent ledger ⟨intentId, cancelType cancellation, none⟩ intentId
        (cancelType cancellation) observedAt (strippedOrder result)
        { phase := fastLivePhase
          requestSha256 := some requestSha256
          cancellation := some cancellation
          ttlSeconds := some 2 }
      .ok stored.ledger
    else .ok ledger
  | none => .ok ledger

/-- The branch of a consumed network attempt. -/
def recordNetworkAttempt (ledger : Ledger) (result : FastLiveResult)
    (intentId requestSha256 : String) (status : ResultStatus) (observedAt : Timestamp) :
    Outcome (Ledger × ExecutorResponse) :=
  match latestAttempt ledger intentId with
  | some existing => .ok (ledger, .alreadyRecorded intentId existing)
  | none => do
    let eventType := attemptType result status
    let event ← storeOrderEvent ledger ⟨intentId, eventType, none⟩ intentId eventType observedAt
      (strippedOrder result)
      { phase := fastLivePhase
        requestSha256 := some requestSha256
        executorResult := some result
        networkSubmissionAttemptConsumed := some true
        realOrderSubmitted := some (result.realOrderSubmitted = some true) }
    let cancelled ← storeCancelEvent event.ledger result intentId requestSha256 observedAt
    .ok (cancelled, .recordedNetworkAttempt intentId eventType (strippedOrder result))

/-- The branch of a result without a network attempt. -/
def recordPreSubmissionClose (D : Digests) (ledger : Ledger) (result : FastLiveResult)
    (intentId requestSha256 : String) (status : ResultStatus) (observedAt : Timestamp) :
    Outcome (Ledger × ExecutorResponse) :=
  if isClosed ledger intentId then .ok (ledger, .alreadyClosedBeforeSubmission intentId)
  else do
    require (latestAttempt ledger intentId = none) .runtimeError
      "cannot recycle fast live intent after network attempt"
    let carried ← latestCleanAccount ledger observedAt
    let event ← storeOrderEvent ledger ⟨intentId, .closedBeforeSubmission, none⟩ intentId
      .closedBeforeSubmission observedAt none
      { phase := fastLivePhase
        reason := some (strip status.text)
        requestSha256 := some requestSha256
        executorResult := some result
        networkSubmissionAttemptConsumed := some false
        realOrderSubmitted := some false }
    let stored ← storeReconciliationRun D event.ledger observedAt 0 0
      { phase := some fastLivePhase
        intentId := some intentId
        reconciliationKind := some .fastLivePreSubmissionClose
        reason := some (strip status.text)
        requestSha256 := some requestSha256
        networkSubmissionAttemptConsumed := some false
        accountSnapshot := carried.map Prod.snd
        accountSnapshotCarriedFrom := carried.map Prod.fst }
    .ok (stored.ledger, .closedBeforeSubmission intentId stored.record.reconciliationId)

/-- `record_fast_live_result` of the prepare module. -/
def recordFastLiveResult (D : Digests) (ledger : Ledger) (result : FastLiveResult)
    (observedAt : Timestamp) : Outcome (Ledger × ExecutorResponse) := do
  let intentId := strip (orEmpty result.intentId)
  let requestSha256 := strip (orEmpty result.requestSha256)
  match result.status with
  | none => raise .runtimeError "fast live result binding missing"
  | some status =>
    require (intentId ≠ "" ∧ requestSha256 ≠ "" ∧ strip status.text ≠ "") .runtimeError
      "fast live result binding missing"
    require (result.consumed = false → result.realOrderSubmitted ≠ some true) .runtimeError
      "fast live result claims order without network attempt"
    require (∃ intent ∈ ledger.intents, intent.intentId = intentId ∧
        intent.payload.policyVersion = canaryPolicyVersion) .runtimeError
      "unknown fast live intent"
    if result.consumed then
      recordNetworkAttempt ledger result intentId requestSha256 status observedAt
    else recordPreSubmissionClose D ledger result intentId requestSha256 status observedAt

end BpEngine.FastLive.Prepare
