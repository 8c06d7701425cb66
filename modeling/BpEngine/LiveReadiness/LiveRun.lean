import BpEngine.Execution.CanaryRun
import BpEngine.Execution.GatewayRun
import BpEngine.LiveReadiness.Reconcile

/-!
# Runs of the live ledger

Every operation that writes the live ledger as one machine, and what holds of every ledger it
reaches.

* `LiveOp`, `applyLive`, `execLive`: the operations of fast-live, of the canary and of the gateway,
  and the reconciliation with the official orders.
* `Extends` is what every operation does: it appends, its intents have an eligible risk decision,
  and a row of an official zero fill comes with the order it is about.
* `Backed` is the invariant that follows (`backed_liveLedgerAfter`).
-/

namespace BpEngine.LiveReadiness

open BpEngine.Execution BpEngine.FastLive BpEngine.Canary BpEngine.Gateway BpEngine.Table

/-! ## The machine -/

/-- One operation that writes the live ledger; a submission of the gateway is its two
transactions. -/
inductive LiveOp where
  | canary (op : CanaryOp)
  | persist (call : SubmitCall)
  | submission (intentId : String) (observedAt : Timestamp) (answer : Option LiveClientOrderResult)
  | cancel (orderId : String) (observedAt : Timestamp) (answer : Option LiveClientCancelResult)
  | reconcile (officialOrders : List OfficialOrderSnapshot) (observedAt : Timestamp)
      (staleAfterSeconds : Decimal)

/-- The ledger an operation returns, or the exception it raises.  The gateway records the outcome of
an intent it has persisted. -/
def applyLive (D : Digests) (ledger : Ledger) : LiveOp → Outcome Ledger
  | .canary op => applyCanary D ledger op
  | .persist call => (persistIntent D ledger call).map Prod.fst
  | .submission intentId t answer =>
    if intentId ∈ ledger.intents.map (·.intentId) then
      (storeSubmissionEvent ledger (submissionEvent intentId t answer).1).map Prod.fst
    else .ok ledger
  | .cancel orderId t answer => cancelOrder ledger orderId t answer
  | .reconcile officialOrders t staleAfterSeconds =>
    (reconcileSnapshot D ledger officialOrders t staleAfterSeconds).map Prod.fst

/-- The ledger after an operation; one that raises is rolled back. -/
def execLive (D : Digests) (ledger : Ledger) (op : LiveOp) : Ledger :=
  match applyLive D ledger op with
  | .ok after => after
  | .error _ => ledger

/-- The ledger after a run from the empty ledger. -/
def liveLedgerAfter (D : Digests) (ops : List LiveOp) : Ledger :=
  Machine.run (execLive D) {} ops

/-- The identifier of a risk decision has no blanks around it. -/
def CleanRiskIds (D : Digests) : Prop :=
  ∀ payload, strip (D.riskDecisionId payload) = D.riskDecisionId payload

/-! ## What every operation does -/

/-- The risk decision of the intent is recorded, and it is eligible. -/
def RiskBacked (ledger : Ledger) (intent : IntentRow) : Prop :=
  ∃ risk, riskById ledger intent.payload.riskDecisionId = some risk ∧
    risk.payload.decision.eligible = true

/-- The intent of the row has an event with an external order. -/
def OrderBacked (ledger : Ledger) (row : ReconciliationRow) : Prop :=
  ∃ event ∈ ledger.events, event.intentId = orEmpty row.payload.evidence.intentId ∧
    orEmpty event.externalOrderId ≠ ""

/-- The row reports an official zero fill. -/
def IsZeroFill (row : ReconciliationRow) : Prop :=
  row.payload.evidence.reconciliationKind = some .postSubmissionOfficialZeroFill

/-- An operation appends; a new intent has an eligible decision and a new row of a zero fill comes
with an order. -/
structure Extends (before after : Ledger) : Prop where
  risks : ∃ extra, after.riskDecisions = before.riskDecisions ++ extra
  events : ∃ extra, after.events = before.events ++ extra
  intents : ∀ intent ∈ after.intents, intent ∈ before.intents ∨ RiskBacked after intent
  rows : ∀ row ∈ after.reconciliations,
    row ∈ before.reconciliations ∨ (IsZeroFill row → OrderBacked after row)

/-- **The invariant**: intents have an eligible decision, zero fills an order. -/
structure Backed (ledger : Ledger) : Prop where
  intents : ∀ intent ∈ ledger.intents, RiskBacked ledger intent
  rows : ∀ row ∈ ledger.reconciliations, IsZeroFill row → OrderBacked ledger row

theorem RiskBacked.mono {before after : Ledger} {intent : IntentRow} (h : RiskBacked before intent)
    (hrisks : ∃ extra, after.riskDecisions = before.riskDecisions ++ extra) :
    RiskBacked after intent := by
  obtain ⟨risk, hfind, heligible⟩ := h
  obtain ⟨extra, heq⟩ := hrisks
  refine ⟨risk, ?_, heligible⟩
  unfold riskById at hfind ⊢
  rw [heq, List.find?_append, hfind]
  rfl

theorem OrderBacked.mono {before after : Ledger} {row : ReconciliationRow}
    (h : OrderBacked before row) (hevents : ∃ extra, after.events = before.events ++ extra) :
    OrderBacked after row := by
  obtain ⟨event, hevent, hmatch⟩ := h
  obtain ⟨extra, heq⟩ := hevents
  exact ⟨event, by rw [heq]; exact List.mem_append_left _ hevent, hmatch⟩

theorem Extends.refl (ledger : Ledger) : Extends ledger ledger :=
  ⟨⟨[], by simp⟩, ⟨[], by simp⟩, fun _ h => Or.inl h, fun _ h => Or.inl h⟩

theorem Extends.trans {before middle after : Ledger} (h : Extends before middle)
    (h' : Extends middle after) : Extends before after := by
  obtain ⟨risks, hrisks⟩ := h.risks
  obtain ⟨risks', hrisks'⟩ := h'.risks
  obtain ⟨events, hevents⟩ := h.events
  obtain ⟨events', hevents'⟩ := h'.events
  refine ⟨⟨risks ++ risks', by rw [hrisks', hrisks, List.append_assoc]⟩,
    ⟨events ++ events', by rw [hevents', hevents, List.append_assoc]⟩, ?_, ?_⟩
  · intro intent hintent
    rcases h'.intents intent hintent with hold | hnew
    · exact (h.intents intent hold).imp id (·.mono h'.risks)
    · exact Or.inr hnew
  · intro row hrow
    rcases h'.rows row hrow with hold | hnew
    · exact (h.rows row hold).imp id fun hback hzero => (hback hzero).mono h'.events
    · exact Or.inr hnew

/-- An operation keeps the invariant. -/
theorem Backed.extend {before after : Ledger} (h : Backed before) (hext : Extends before after) :
    Backed after := by
  refine ⟨fun intent hintent => ?_, fun row hrow => ?_⟩
  · rcases hext.intents intent hintent with hold | hnew
    · exact (h.intents intent hold).mono hext.risks
    · exact hnew
  · rcases hext.rows row hrow with hold | hnew
    · exact fun hzero => (h.rows row hold hzero).mono hext.events
    · exact hnew

/-! ## The writes -/

section Writes

variable {D : Digests} {ledger : Ledger}

theorem extends_event {key : EventKey} {intentId : String} {type : EventType} {t : Timestamp}
    {externalOrderId : Option String} {evidence : EventEvidence} {stored : StoreResult EventRow}
    (h : storeOrderEvent ledger key intentId type t externalOrderId evidence = .ok stored) :
    Extends ledger stored.ledger := by
  obtain ⟨hledger, row, -, -, -, -, -, hevents⟩ := storeOrderEvent_spec h
  rw [hledger]
  refine ⟨⟨[], by simp⟩, ?_, fun _ h => Or.inl h, fun _ h => Or.inl h⟩
  rcases hevents with heq | ⟨heq, -⟩
  · exact ⟨[], by simp [heq]⟩
  · exact ⟨[row], heq⟩

theorem extends_row {t : Timestamp} {unresolved critical : ℤ} {evidence : ReconciliationEvidence}
    {stored : StoreResult ReconciliationRow}
    (hback : evidence.reconciliationKind = some .postSubmissionOfficialZeroFill →
      ∃ event ∈ ledger.events, event.intentId = orEmpty evidence.intentId ∧
        orEmpty event.externalOrderId ≠ "")
    (h : storeReconciliationRun D ledger t unresolved critical evidence = .ok stored) :
    Extends ledger stored.ledger := by
  obtain ⟨hrow, hledger⟩ := storeReconciliationRun_spec h
  rw [hledger]
  refine ⟨⟨[], by simp⟩, ⟨[], by simp⟩, fun _ h => Or.inl h, fun row hmem => ?_⟩
  rcases hrow.cases with ⟨heq, -⟩ | ⟨heq, -⟩
  · rw [heq] at hmem
    exact Or.inl hmem
  · rw [heq] at hmem
    rcases List.mem_append.mp hmem with hmem | hmem
    · exact Or.inl hmem
    · rw [List.mem_singleton.mp hmem]
      exact Or.inr hback

/-- A stored decision is found by its identifier. -/
theorem extends_decision {predictionId sha policyVersion : String} {decision : LiveRiskDecision}
    {account : LiveAccountSnapshot} {evidence : RiskDecisionEvidence} {t : Timestamp}
    {stored : StoreResult RiskDecisionRow}
    (h : storeRiskDecision D ledger predictionId sha policyVersion decision account evidence t
      = .ok stored) :
    Extends ledger stored.ledger ∧
      riskById stored.ledger stored.record.decisionId = some stored.record ∧
      stored.record.payload.decision = decision ∧
      ∃ payload, stored.record.decisionId = D.riskDecisionId payload := by
  simp only [storeRiskDecision, bind_eq_ok, Except.ok.injEq] at h
  obtain ⟨prediction, -, predictionSha, -, version, -, s, hs, rfl⟩ := h
  have hfind := existingOrInsert_find (by simp) hs
  rcases existingOrInsert_eq_ok hs with ⟨ht, -, hkey, hcontent, -⟩ | ⟨ht, hrow, -, -⟩
  · rw [beq_iff_eq] at hkey
    refine ⟨⟨⟨[], by simp [ht]⟩, ⟨[], by simp⟩, fun _ h => Or.inl h, fun _ h => Or.inl h⟩, ?_, ?_,
      _, hkey⟩
    · unfold riskById
      rw [hkey]
      exact hfind
    · rw [hcontent]
  · refine ⟨⟨⟨[_], ht⟩, ⟨[], by simp⟩, fun _ h => Or.inl h, fun _ h => Or.inl h⟩, ?_, ?_, ?_⟩
    · unfold riskById
      rw [hrow] at hfind ⊢
      exact hfind
    · rw [hrow]
    · rw [hrow]
      exact ⟨_, rfl⟩

theorem extends_intent {predictionId policyVersion requestId riskDecisionId tokenId side : String}
    {size limitPrice : Decimal} {t : Timestamp} {evidence : IntentEvidence}
    {stored : StoreResult IntentRow} {risk : RiskDecisionRow}
    (hclean : strip riskDecisionId = riskDecisionId)
    (hrisk : riskById ledger riskDecisionId = some risk)
    (heligible : risk.payload.decision.eligible = true)
    (h : storeOrderIntent D ledger predictionId policyVersion requestId riskDecisionId tokenId side
      size limitPrice t evidence = .ok stored) : Extends ledger stored.ledger := by
  simp only [storeOrderIntent, bind_eq_ok, require_eq_ok, Except.ok.injEq] at h
  obtain ⟨prediction, -, version, -, request, -, riskId, hriskId, token, -, _, -, _, -, _, -,
    _, -, s, hs, _, -, _, -, _, -, rfl⟩ := h
  refine ⟨⟨[], by simp⟩, ⟨[], by simp⟩, fun intent hmem => ?_, fun _ h => Or.inl h⟩
  change intent ∈ s.table at hmem
  rcases existingOrInsert_eq_ok hs with ⟨ht, -⟩ | ⟨ht, -, -, -⟩
  · rw [ht] at hmem
    exact Or.inl hmem
  · rw [ht] at hmem
    rcases List.mem_append.mp hmem with hmem | hmem
    · exact Or.inl hmem
    · rw [List.mem_singleton.mp hmem]
      refine Or.inr ⟨risk, ?_, heligible⟩
      change riskById ledger riskId = some risk
      rw [text_eq_ok hriskId, hclean, hrisk]

/-- A row that is not one of a zero fill. -/
theorem extends_other {t : Timestamp} {unresolved critical : ℤ} {evidence : ReconciliationEvidence}
    {stored : StoreResult ReconciliationRow}
    (hkind : evidence.reconciliationKind ≠ some .postSubmissionOfficialZeroFill)
    (h : storeReconciliationRun D ledger t unresolved critical evidence = .ok stored) :
    Extends ledger stored.ledger :=
  extends_row (fun hzero => absurd hzero hkind) h

end Writes

/-! ## The operations of fast-live -/

section FastLiveOps

variable {D : Digests} {ledger after : Ledger} {t : Timestamp}

theorem extends_storeCancellation {result : FastLiveResult} {intentId : String} {type : EventType}
    {externalOrderId : Option String}
    (h : storeCancellation ledger result intentId type externalOrderId t = .ok after) :
    Extends ledger after := by
  unfold storeCancellation at h
  split at h
  · split_ifs at h
    · obtain ⟨stored, hs, hok⟩ := bind_eq_ok.mp h
      cases hok
      exact extends_event hs
    · cases h
      exact .refl _
  · cases h
    exact .refl _

theorem extends_storeReconciliation {intentId : String} {externalOrderId : Option String}
    {status : ResultStatus} {consumed : Bool} {unresolved critical : ℤ}
    {stored : StoreResult ReconciliationRow}
    (h : storeReconciliation D ledger t intentId externalOrderId status consumed unresolved critical
      = .ok stored) : Extends ledger stored.ledger := by
  simp only [storeReconciliation, bind_eq_ok] at h
  obtain ⟨⟨carriedFrom, account⟩, -, hstore⟩ := h
  refine extends_other ?_ hstore
  dsimp only
  split_ifs <;> simp

theorem extends_result {result : FastLiveResult} {response : RecordResponse}
    (h : recordFastLiveResult D ledger result t = .ok (after, response)) :
    Extends ledger after := by
  unfold recordFastLiveResult at h
  cases hstatus : result.status with
  | none =>
    simp only [hstatus] at h
    exact absurd h raise_ne_ok
  | some status =>
    simp only [hstatus, bind_eq_ok, require_eq_ok] at h
    obtain ⟨_, -, intent, -, _, -, h⟩ := h
    split_ifs at h with hconsumed
    · obtain ⟨type, -, h⟩ := bind_eq_ok.mp h
      cases type with
      | none =>
        cases h
        exact .refl _
      | some type =>
        simp only [recordAttempt, bind_eq_ok, Except.ok.injEq, Prod.mk.injEq] at h
        obtain ⟨event, hevent, cancelled, hcancelled, stored, hstored, rfl, -⟩ := h
        exact ((extends_event hevent).trans (extends_storeCancellation hcancelled)).trans
          (extends_storeReconciliation hstored)
    · simp only [recordClosed, bind_eq_ok, Except.ok.injEq, Prod.mk.injEq] at h
      obtain ⟨_, -, event, hevent, stored, hstored, rfl, -⟩ := h
      exact (extends_event hevent).trans (extends_storeReconciliation hstored)

/-- **A row of a zero fill** is written for an accepted order. -/
theorem extends_official {result : FastLiveResult} {official : OfficialState}
    {response : OfficialResponse}
    (h : recordOfficialReconciliation D ledger result official t = .ok (after, response)) :
    Extends ledger after := by
  simp only [recordOfficialReconciliation, bind_eq_ok, require_eq_ok, Except.ok.injEq,
    Prod.mk.injEq] at h
  obtain ⟨_, hbinding, _, -, _, -, _, -, intent, -, _, -, _, haccepted, ⟨carriedFrom, account⟩, -,
    stored, hstored, rfl, -⟩ := h
  refine extends_row (fun _ => ?_) hstored
  obtain ⟨event, hevent, hid, -, horder⟩ := haccepted
  refine ⟨event, hevent, hid, ?_⟩
  rw [horder]
  exact hbinding.2

theorem extends_settle {evaluations : List Evaluation} {intentId : String}
    {response : SettleResponse}
    (h : settlePosition D ledger evaluations intentId t = .ok (after, response)) :
    Extends ledger after := by
  simp only [settlePosition, bind_eq_ok, require_eq_ok] at h
  obtain ⟨_, -, intent, -, _, -, h⟩ := h
  split at h
  · cases h
    exact .refl _
  split at h
  · cases h
    exact .refl _
  next fill _ =>
  split at h
  · cases h
    exact .refl _
  next evaluation _ =>
  simp only [settleFill, bind_eq_ok, require_eq_ok] at h
  obtain ⟨_, -, average, -, outcome, -, h⟩ := h
  split at h
  · exact absurd h raise_ne_ok
  · simp only [storeSettlement, bind_eq_ok, Except.ok.injEq, Prod.mk.injEq] at h
    obtain ⟨event, hevent, stored, hstored, rfl, -⟩ := h
    exact (extends_event hevent).trans (extends_other (by simp [settlementEvidence]) hstored)

theorem extends_prepare {input : PrepareInput} {response : PrepareResponse}
    (hclean : CleanRiskIds D)
    (h : prepareFastLiveCandidate D ledger input = .ok (after, response)) :
    Extends ledger after := by
  simp only [prepareFastLiveCandidate, bind_eq_ok] at h
  obtain ⟨policy, -, middle, hmiddle, h⟩ := h
  have hstart : Extends ledger middle := by
    unfold startingLedger at hmiddle
    split_ifs at hmiddle
    · cases hmiddle
      exact .refl _
    · simp only [FastLive.ensureInitialReconciliation, bind_eq_ok] at hmiddle
      obtain ⟨_, -, _, -, hmiddle⟩ := hmiddle
      split_ifs at hmiddle
      · cases hmiddle
        exact .refl _
      · obtain ⟨stored, hstored, hok⟩ := bind_eq_ok.mp hmiddle
        cases hok
        exact extends_other (by simp [baselineEvidence]) hstored
  refine hstart.trans ?_
  split at h
  · cases h
    exact .refl _
  · obtain ⟨choice, -, h⟩ := bind_eq_ok.mp h
    cases choice with
    | inl response =>
      cases h
      exact .refl _
    | inr candidate =>
      simp only [finalizeCandidate, bind_eq_ok] at h
      obtain ⟨_, -, _, -, _, -, account, -, ⟨interlock, decision⟩, -, decided, hdecided, h⟩ := h
      obtain ⟨hext, hrisk, hsame, payload, hid⟩ := extends_decision hdecided
      split_ifs at h with heligible harm
      · cases h
        exact hext
      · cases h
        exact hext
      · unfold createIntent at h
        split at h
        · exact absurd h raise_ne_ok
        · simp only [bind_eq_ok, Except.ok.injEq, Prod.mk.injEq] at h
          obtain ⟨_, -, stored, hstored, rfl, -⟩ := h
          refine hext.trans (extends_intent ?_ hrisk ?_ hstored)
          · rw [hid]
            exact hclean payload
          · rw [hsame]
            exact Bool.not_eq_false _ ▸ heligible

theorem extends_storeCancelEvent {result : FastLiveResult} {intentId requestSha256 : String}
    (h : Prepare.storeCancelEvent ledger result intentId requestSha256 t = .ok after) :
    Extends ledger after := by
  unfold Prepare.storeCancelEvent at h
  split at h
  · split_ifs at h
    · obtain ⟨stored, hs, hok⟩ := bind_eq_ok.mp h
      cases hok
      exact extends_event hs
    · cases h
      exact .refl _
  · cases h
    exact .refl _

theorem extends_executorResult {result : FastLiveResult} {response : Prepare.ExecutorResponse}
    (h : Prepare.recordFastLiveResult D ledger result t = .ok (after, response)) :
    Extends ledger after := by
  unfold Prepare.recordFastLiveResult at h
  cases hstatus : result.status with
  | none =>
    simp only [hstatus] at h
    exact absurd h raise_ne_ok
  | some status =>
    simp only [hstatus, bind_eq_ok, require_eq_ok] at h
    obtain ⟨_, -, _, -, _, -, h⟩ := h
    split_ifs at h with hconsumed
    · unfold Prepare.recordNetworkAttempt at h
      split at h
      · cases h
        exact .refl _
      · simp only [bind_eq_ok, Except.ok.injEq, Prod.mk.injEq] at h
        obtain ⟨event, hevent, cancelled, hcancelled, rfl, -⟩ := h
        exact (extends_event hevent).trans (extends_storeCancelEvent hcancelled)
    · unfold Prepare.recordPreSubmissionClose at h
      split_ifs at h
      · cases h
        exact .refl _
      · simp only [bind_eq_ok, Except.ok.injEq, Prod.mk.injEq] at h
        obtain ⟨_, -, carried, -, event, hevent, stored, hstored, rfl, -⟩ := h
        exact (extends_event hevent).trans (extends_other (by simp) hstored)

end FastLiveOps

/-! ## The operations of the canary -/

section CanaryOps

variable {D : Digests} {ledger after : Ledger} {t : Timestamp}

theorem extends_canarySubmission {intentId : String} {result : CanaryResult}
    {response : EventType × Option String}
    (h : recordCanarySubmission ledger intentId t result = .ok (after, response)) :
    Extends ledger after := by
  simp only [recordCanarySubmission, bind_eq_ok, Except.ok.injEq, Prod.mk.injEq] at h
  obtain ⟨_, -, event, hevent, cancelled, hcancelled, rfl, -⟩ := h
  refine (extends_event hevent).trans ?_
  unfold storeCanaryCancellation at hcancelled
  split at hcancelled
  · split_ifs at hcancelled
    · obtain ⟨stored, hs, hok⟩ := bind_eq_ok.mp hcancelled
      cases hok
      exact extends_event hs
    · cases hcancelled
      exact .refl _
  · cases hcancelled
    exact .refl _

theorem extends_canaryReconcile {intentId reason : String} {health : ExecutorHealth}
    {response : ReconcileResponse}
    (h : reconcileUnsubmittedCanaryIntent D ledger intentId t reason health
      = .ok (after, response)) : Extends ledger after := by
  simp only [reconcileUnsubmittedCanaryIntent, bind_eq_ok] at h
  obtain ⟨_, -, collateral, -, _, -, _, -, h⟩ := h
  split_ifs at h
  · cases h
    exact .refl _
  · simp only [bind_eq_ok, Except.ok.injEq, Prod.mk.injEq] at h
    obtain ⟨carried, -, event, hevent, stored, hstored, rfl, -⟩ := h
    exact (extends_event hevent).trans (extends_other (by simp) hstored)

theorem extends_canaryPrepare {input : CanaryInput} {response : CanaryResponse}
    (hclean : CleanRiskIds D) (h : prepareNextCanary D ledger input = .ok (after, response)) :
    Extends ledger after := by
  simp only [prepareNextCanary, bind_eq_ok] at h
  obtain ⟨_, -, _, -, middle, hmiddle, h⟩ := h
  have hstart : Extends ledger middle := by
    simp only [Canary.ensureInitialReconciliation, bind_eq_ok] at hmiddle
    obtain ⟨_, -, _, -, hmiddle⟩ := hmiddle
    split_ifs at hmiddle
    · cases hmiddle
      exact .refl _
    · obtain ⟨stored, hstored, hok⟩ := bind_eq_ok.mp hmiddle
      cases hok
      exact extends_other (by simp) hstored
  refine hstart.trans ?_
  split_ifs at h
  · cases h
    exact .refl _
  · cases h
    exact .refl _
  split at h
  · cases h
    exact .refl _
  split at h
  · cases h
    exact .refl _
  simp only [prepareCandidate, bind_eq_ok] at h
  obtain ⟨request, -, _, -, _, -, _, -, account, -, context, -, decision, -, decided, hdecided, h⟩ := h
  obtain ⟨hext, hrisk, hsame, payload, hid⟩ := extends_decision hdecided
  split_ifs at h with heligible harm
  · cases h
    exact hext
  · cases h
    exact hext
  · obtain ⟨stored, hstored, hok⟩ := bind_eq_ok.mp h
    cases hok
    refine hext.trans (extends_intent ?_ hrisk ?_ hstored)
    · rw [hid]
      exact hclean payload
    · rw [hsame]
      exact Bool.not_eq_false _ ▸ heligible

end CanaryOps

/-! ## The operations of the gateway -/

section GatewayOps

variable {D : Digests} {ledger after : Ledger} {t : Timestamp}

theorem extends_submissionEvent {event : SubmissionEvent}
    (h : (storeSubmissionEvent ledger event).map Prod.fst = .ok after) : Extends ledger after := by
  unfold storeSubmissionEvent at h
  cases hstore : storeOrderEvent ledger ⟨event.intentId, event.eventType, none⟩ event.intentId
      event.eventType event.observedAt event.externalOrderId event.evidence with
  | error raised =>
    rw [hstore] at h
    cases h
  | ok stored =>
    rw [hstore] at h
    cases h
    exact extends_event hstore

theorem extends_cancel {orderId : String} {answer : Option LiveClientCancelResult}
    (h : Gateway.cancelOrder ledger orderId t answer = .ok after) : Extends ledger after := by
  unfold Gateway.cancelOrder at h
  split at h
  · cases h
    exact .refl _
  · split_ifs at h
    · cases h
      exact .refl _
    · exact extends_submissionEvent h

theorem extends_persist {call : SubmitCall} {persisted : Persisted} (hclean : CleanRiskIds D)
    (h : persistIntent D ledger call = .ok (after, persisted)) : Extends ledger after := by
  rcases persistIntent_cases h with ⟨rfl, -⟩ | ⟨prediction, duplicate, hdecide, -⟩
  · exact .refl _
  simp only [decideIntent, bind_eq_ok] at hdecide
  obtain ⟨account, -, context, -, decision, -, decided, hdecided, h⟩ := hdecide
  obtain ⟨hext, hrisk, hsame, payload, hid⟩ := extends_decision hdecided
  split_ifs at h with heligible
  · obtain ⟨ack, -, hok⟩ := bind_eq_ok.mp h
    cases hok
    exact hext
  · obtain ⟨stored, hstored, hok⟩ := bind_eq_ok.mp h
    cases hok
    refine hext.trans (extends_intent ?_ hrisk ?_ hstored)
    · rw [hid]
      exact hclean payload
    · rw [hsame]
      exact Bool.not_eq_false _ ▸ heligible

end GatewayOps

/-! ## The run -/

/-- **What every operation does.** -/
theorem extends_applyLive {D : Digests} {ledger after : Ledger} {op : LiveOp}
    (hclean : CleanRiskIds D) (h : applyLive D ledger op = .ok after) : Extends ledger after := by
  cases op with
  | canary op =>
    cases op with
    | fastLive op =>
      cases op with
      | prepare input =>
        obtain ⟨response, hr⟩ := map_fst_eq_ok.mp h
        exact extends_prepare hclean hr
      | result result t =>
        obtain ⟨response, hr⟩ := map_fst_eq_ok.mp h
        exact extends_result hr
      | official result official t =>
        obtain ⟨response, hr⟩ := map_fst_eq_ok.mp h
        exact extends_official hr
      | settle evaluations intentId t =>
        obtain ⟨response, hr⟩ := map_fst_eq_ok.mp h
        exact extends_settle hr
    | executorResult result t =>
      obtain ⟨response, hr⟩ := map_fst_eq_ok.mp h
      exact extends_executorResult hr
    | prepare input =>
      obtain ⟨response, hr⟩ := map_fst_eq_ok.mp h
      exact extends_canaryPrepare hclean hr
    | submission intentId t result =>
      obtain ⟨response, hr⟩ := map_fst_eq_ok.mp h
      exact extends_canarySubmission hr
    | reconcile intentId t reason health =>
      obtain ⟨response, hr⟩ := map_fst_eq_ok.mp h
      exact extends_canaryReconcile hr
  | persist call =>
    obtain ⟨persisted, hr⟩ := map_fst_eq_ok.mp h
    exact extends_persist hclean hr
  | submission intentId t answer =>
    simp only [applyLive] at h
    split_ifs at h
    · exact extends_submissionEvent h
    · cases h
      exact .refl _
  | cancel orderId t answer => exact extends_cancel h
  | reconcile officialOrders t staleAfterSeconds =>
    obtain ⟨result, hr⟩ := map_fst_eq_ok.mp h
    simp only [reconcileSnapshot, bind_eq_ok, Except.ok.injEq, Prod.mk.injEq] at hr
    obtain ⟨stored, hstored, rfl, -⟩ := hr
    exact extends_other (by simp) hstored

theorem backed_execLive {D : Digests} {ledger : Ledger} (hclean : CleanRiskIds D) (op : LiveOp)
    (h : Backed ledger) : Backed (execLive D ledger op) := by
  unfold execLive
  cases happly : applyLive D ledger op with
  | error raised => exact h
  | ok after => exact h.extend (extends_applyLive hclean happly)

/-- **Every reachable ledger is backed.** -/
theorem backed_liveLedgerAfter {D : Digests} (hclean : CleanRiskIds D) (ops : List LiveOp) :
    Backed (liveLedgerAfter D ops) :=
  Machine.run_invariant' (execLive D) (fun _ op h => backed_execLive hclean op h)
    ⟨fun _ h => absurd h List.not_mem_nil, fun _ h => absurd h List.not_mem_nil⟩ ops

end BpEngine.LiveReadiness
