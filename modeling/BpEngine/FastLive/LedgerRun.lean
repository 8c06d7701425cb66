import BpEngine.Library.Machine
import BpEngine.FastLive.Prepare
import BpEngine.FastLive.Result

/-!
# Runs of the live ledger

The four operations on the live ledger as one machine, and what one operation can do to it.

* `LedgerOp`, `apply`, `exec`: an operation, its outcome, and its effect (none when it raises).
* `EventWrite`, `RowWrite`: the effect of a write by key on the two event tables.
* `result_cases`, `official_cases`, `settle_cases`, `prepare_cases`: everything an operation that
  returns did to the ledger.
-/

namespace BpEngine.FastLive

open BpEngine.LiveReadiness BpEngine.Table

/-- One call of a fast-live operation on the ledger. -/
inductive LedgerOp where
  | prepare (input : PrepareInput)
  | result (result : FastLiveResult) (observedAt : Timestamp)
  | official (result : FastLiveResult) (official : OfficialState) (observedAt : Timestamp)
  | settle (evaluations : List Evaluation) (intentId : String) (observedAt : Timestamp)

/-- The instant an operation is observed at. -/
def LedgerOp.observedAt : LedgerOp → Timestamp
  | .prepare input => input.observedAt
  | .result _ t => t
  | .official _ _ t => t
  | .settle _ _ t => t

/-- The ledger an operation returns, or the exception it raises. -/
def apply (D : Digests) (ledger : Ledger) : LedgerOp → Outcome Ledger
  | .prepare input => (prepareFastLiveCandidate D ledger input).map Prod.fst
  | .result result t => (recordFastLiveResult D ledger result t).map Prod.fst
  | .official result official t =>
    (recordOfficialReconciliation D ledger result official t).map Prod.fst
  | .settle evaluations intentId t => (settlePosition D ledger evaluations intentId t).map Prod.fst

/-- The ledger after an operation; one that raises is rolled back. -/
def exec (D : Digests) (ledger : Ledger) (op : LedgerOp) : Ledger :=
  match apply D ledger op with
  | .ok after => after
  | .error _ => ledger

/-- The ledger after a run from the empty ledger. -/
def ledgerAfter (D : Digests) (ops : List LedgerOp) : Ledger := Machine.run (exec D) {} ops

theorem map_fst_eq_ok {α β : Type} {x : Outcome (α × β)} {a : α} :
    x.map Prod.fst = .ok a ↔ ∃ b, x = .ok (a, b) := by
  cases x with
  | error e => simp [Except.map]
  | ok p =>
    obtain ⟨c, d⟩ := p
    simp [Except.map]

/-- An operation either raised, and the ledger is as it was, or returned the ledger after it. -/
theorem exec_cases (D : Digests) (ledger : Ledger) (op : LedgerOp) :
    exec D ledger op = ledger ∨ apply D ledger op = .ok (exec D ledger op) := by
  unfold exec
  cases h : apply D ledger op with
  | error e => exact Or.inl rfl
  | ok after => exact Or.inr rfl

/-! ## Writes by key -/

/-- Events of one intent were appended: of the terminal types only `type`, and the event of that
type is there afterwards. -/
structure EventWrite (before after : List EventRow) (intentId : String) (type : EventType) :
    Prop where
  appended : ∃ extra, after = before ++ extra ∧
    ∀ e ∈ extra, e.intentId = intentId ∧ (e.eventType.isTerminal = true → e.eventType = type)
  present : ∃ e ∈ after, e.intentId = intentId ∧ e.eventType = type

/-- A row with the given content was appended unless it was there. -/
inductive RowWrite (D : Digests) (before : List ReconciliationRow)
    (payload : ReconciliationPayload) : List ReconciliationRow → Prop
  | existing (row : ReconciliationRow) (mem : row ∈ before) (content : row.payload = payload) :
    RowWrite D before payload before
  | created (fresh : ∀ row ∈ before, row.reconciliationId ≠ D.reconciliationId payload) :
    RowWrite D before payload (before ++ [⟨D.reconciliationId payload, payload⟩])

theorem RowWrite.cases {D : Digests} {before after : List ReconciliationRow}
    {payload : ReconciliationPayload} (h : RowWrite D before payload after) :
    (after = before ∧ ∃ row ∈ before, row.payload = payload) ∨
      (after = before ++ [⟨D.reconciliationId payload, payload⟩] ∧
        ∀ row ∈ before, row.reconciliationId ≠ D.reconciliationId payload) := by
  cases h with
  | existing row mem content => exact Or.inl ⟨rfl, row, mem, content⟩
  | created fresh => exact Or.inr ⟨rfl, fresh⟩

theorem storeReconciliationRun_spec {D : Digests} {ledger : Ledger} {t : Timestamp}
    {unresolved critical : ℤ} {evidence : ReconciliationEvidence}
    {stored : StoreResult ReconciliationRow}
    (h : storeReconciliationRun D ledger t unresolved critical evidence = .ok stored) :
    RowWrite D ledger.reconciliations ⟨t, unresolved, critical, evidence⟩
        stored.ledger.reconciliations ∧
      stored.ledger = { ledger with reconciliations := stored.ledger.reconciliations } := by
  simp only [storeReconciliationRun, bind_eq_ok, require_eq_ok, Except.ok.injEq] at h
  obtain ⟨_, -, _, -, s, hs, rfl⟩ := h
  refine ⟨?_, rfl⟩
  rcases existingOrInsert_eq_ok hs with ⟨ht, hmem, -, hc, -⟩ | ⟨ht, -, hfresh, -⟩
  · simp only [ht]
    exact .existing s.row hmem hc
  · simp only [ht]
    exact .created fun row hrow heq => by simpa [heq] using hfresh row hrow

theorem storeOrderEvent_spec {ledger : Ledger} {key : EventKey} {intentId : String}
    {type : EventType} {t : Timestamp} {externalOrderId : Option String}
    {evidence : EventEvidence} {stored : StoreResult EventRow}
    (h : storeOrderEvent ledger key intentId type t externalOrderId evidence = .ok stored) :
    stored.ledger = { ledger with events := stored.ledger.events } ∧
      ∃ row : EventRow, row.eventKey = key ∧ row.intentId = strip intentId ∧
        row.eventType = type ∧ row.observedAt = t ∧ row ∈ stored.ledger.events ∧
        (stored.ledger.events = ledger.events ∨
          stored.ledger.events = ledger.events ++ [row] ∧ ∀ e ∈ ledger.events, e.eventKey ≠ key) := by
  simp only [storeOrderEvent, text, bind_eq_ok, Except.ok.injEq] at h
  obtain ⟨intent, hi, orderId, -, s, hs, rfl⟩ := h
  have hstrip : intent = strip intentId := by
    split_ifs at hi
    · exact absurd hi raise_ne_ok
    · exact (Except.ok.inj hi).symm
  subst hstrip
  refine ⟨rfl, ⟨key, strip intentId, type, t, orderId, evidence⟩, rfl, rfl, rfl, rfl, ?_⟩
  rcases existingOrInsert_eq_ok hs with ⟨ht, hmem, -, hc, -⟩ | ⟨ht, -, hfresh, -⟩
  · simp only [ht]
    have hrow : s.row = ⟨key, strip intentId, type, t, orderId, evidence⟩ := hc
    exact ⟨hrow ▸ hmem, Or.inl trivial⟩
  · simp only [ht]
    refine ⟨by simp, Or.inr ⟨trivial, fun e he heq => ?_⟩⟩
    simpa [heq] using hfresh e he

/-! ## What a result does -/

/-- The writes of a recorded result: the event of its type, and a row at `t` that carries the clean
account over, critical exactly when the order may be open. -/
structure ResultStep (D : Digests) (before after : Ledger) (result : FastLiveResult)
    (t : Timestamp) (intentId : String) (type : EventType) (count : ℤ)
    (evidence : ReconciliationEvidence) : Prop where
  intentId_eq : orEmpty result.intentId = intentId
  intent : ∃ intent ∈ before.intents, intent.intentId = intentId
  terminal : type.isTerminal = true
  consumption : (result.consumed = true ∧ type.isSubmissionAttempt = true) ∨
    (result.consumed = false ∧ type = .closedBeforeSubmission)
  count_eq : count = if type = .accepted ∨ type = .submissionUnknown then 1 else 0
  outcome : (type = .accepted ∨ type = .submissionUnknown) ∨ result.status = some .rejected ∨
    result.consumed = false
  events : EventWrite before.events after.events intentId type
  carried : ∃ carriedFrom account, carryCleanAccount before t = .ok (carriedFrom, account) ∧
    evidence.accountSnapshot = some account ∧
    evidence.accountSnapshotCarriedFrom = some carriedFrom
  source : evidence.source = some .fastLiveResult
  intent_evidence : evidence.intentId = some intentId
  kind : evidence.reconciliationKind = some (if count ≠ 0 then
    .fastLiveSubmissionPendingOfficialReconciliation else .fastLiveTerminalNoExposure)
  rows : RowWrite D before.reconciliations ⟨t, count, count, evidence⟩ after.reconciliations
  intents : after.intents = before.intents
  riskDecisions : after.riskDecisions = before.riskDecisions

theorem rowsUpTo_congr {a b : Ledger} (h : a.reconciliations = b.reconciliations)
    (t : Timestamp) : rowsUpTo a t = rowsUpTo b t := by simp [rowsUpTo, h]

theorem carryCleanAccount_congr {a b : Ledger} (h : a.reconciliations = b.reconciliations)
    (t : Timestamp) : carryCleanAccount a t = carryCleanAccount b t := by
  simp [carryCleanAccount, latestCleanAccount, rowsUpTo_congr h, h]

theorem storeReconciliation_spec {D : Digests} {ledger : Ledger} {t : Timestamp}
    {intentId : String} {externalOrderId : Option String} {status : ResultStatus} {consumed : Bool}
    {unresolved critical : ℤ} {stored : StoreResult ReconciliationRow}
    (h : storeReconciliation D ledger t intentId externalOrderId status consumed unresolved critical
      = .ok stored) :
    ∃ carriedFrom account evidence,
      carryCleanAccount ledger t = .ok (carriedFrom, account) ∧
      evidence.accountSnapshot = some account ∧
      evidence.accountSnapshotCarriedFrom = some carriedFrom ∧
      evidence.source = some .fastLiveResult ∧ evidence.intentId = some intentId ∧
      evidence.reconciliationKind = some (if critical ≠ 0 then
        .fastLiveSubmissionPendingOfficialReconciliation else .fastLiveTerminalNoExposure) ∧
      RowWrite D ledger.reconciliations ⟨t, unresolved, critical, evidence⟩
        stored.ledger.reconciliations ∧
      stored.ledger = { ledger with reconciliations := stored.ledger.reconciliations } := by
  simp only [storeReconciliation, bind_eq_ok] at h
  obtain ⟨⟨carriedFrom, account⟩, hcarry, hstore⟩ := h
  obtain ⟨hrow, hledger⟩ := storeReconciliationRun_spec hstore
  exact ⟨carriedFrom, account, _, hcarry, rfl, rfl, rfl, rfl, rfl, hrow, hledger⟩

/-- The effect of one event on the table. -/
theorem EventWrite.of_store {ledger : Ledger} {intentId : String} {type : EventType}
    {t : Timestamp} {externalOrderId : Option String} {evidence : EventEvidence}
    {stored : StoreResult EventRow} (hstrip : strip intentId = intentId)
    (h : storeOrderEvent ledger ⟨intentId, type, none⟩ intentId type t externalOrderId evidence
      = .ok stored) : EventWrite ledger.events stored.ledger.events intentId type := by
  obtain ⟨-, row, -, hid, htype, -, hmem, hevents⟩ := storeOrderEvent_spec h
  refine ⟨?_, row, hmem, hid.trans hstrip, htype⟩
  rcases hevents with he | ⟨he, -⟩
  · exact ⟨[], by simp [he], by simp⟩
  · refine ⟨[row], he, fun e hin => ?_⟩
    rw [List.mem_singleton.mp hin]
    exact ⟨hid.trans hstrip, fun _ => htype⟩

/-- A further event of the intent that is not terminal changes nothing of the effect. -/
theorem EventWrite.append {before middle after : List EventRow} {intentId : String}
    {type : EventType} (h : EventWrite before middle intentId type)
    (ha : ∃ extra, after = middle ++ extra ∧
      ∀ e ∈ extra, e.intentId = intentId ∧ e.eventType.isTerminal = false) :
    EventWrite before after intentId type := by
  obtain ⟨⟨extra, hm, hextra⟩, e, he, hid⟩ := h
  obtain ⟨more, rfl, hmore⟩ := ha
  refine ⟨⟨extra ++ more, by simp [hm], fun x hx => ?_⟩, e, List.mem_append_left _ he, hid⟩
  rcases List.mem_append.mp hx with hx | hx
  · exact hextra x hx
  · exact ⟨(hmore x hx).1, fun ht => by simp [(hmore x hx).2] at ht⟩

theorem storeCancellation_spec {ledger after : Ledger} {result : FastLiveResult}
    {intentId : String} {type : EventType} {externalOrderId : Option String} {t : Timestamp}
    (hstrip : strip intentId = intentId)
    (h : storeCancellation ledger result intentId type externalOrderId t = .ok after) :
    after = { ledger with events := after.events } ∧
      ∃ extra, after.events = ledger.events ++ extra ∧
        ∀ e ∈ extra, e.intentId = intentId ∧ e.eventType.isTerminal = false := by
  have hsame : ∀ {after : Ledger}, .ok ledger = (.ok after : Outcome Ledger) →
      after = { ledger with events := after.events } ∧
        ∃ extra, after.events = ledger.events ++ extra ∧
          ∀ e ∈ extra, e.intentId = intentId ∧ e.eventType.isTerminal = false := by
    intro after h
    cases h
    exact ⟨rfl, [], by simp, by simp⟩
  unfold storeCancellation at h
  cases hcancel : result.cancellation with
  | none =>
    rw [hcancel] at h
    exact hsame h
  | some cancellation =>
    simp only [hcancel] at h
    split_ifs at h with hc
    · obtain ⟨stored, hs, hok⟩ := bind_eq_ok.mp h
      cases hok
      obtain ⟨hledger, row, -, hid, htype, -, -, hevents⟩ := storeOrderEvent_spec hs
      refine ⟨hledger, ?_⟩
      rcases hevents with he | ⟨he, -⟩
      · exact ⟨[], by simp [he], by simp⟩
      · refine ⟨[row], he, fun e hin => ?_⟩
        rw [List.mem_singleton.mp hin]
        refine ⟨hid.trans hstrip, ?_⟩
        rw [htype]
        unfold cancelEvent
        split_ifs <;> rfl
    · exact hsame h

theorem findIntent_spec {ledger : Ledger} {intentId : String} {row : IntentRow}
    (h : findIntent ledger intentId = .ok row) :
    row ∈ ledger.intents ∧ row.intentId = intentId := by
  unfold findIntent at h
  split at h
  · exact absurd h raise_ne_ok
  · next found hfind =>
    split_ifs at h with hphase
    · cases h
      have hp := List.find?_some hfind
      simp only [Bool.and_eq_true, beq_iff_eq] at hp
      exact ⟨List.mem_of_find?_eq_some hfind, hp.1⟩
    · exact absurd h raise_ne_ok

theorem recordClosed_spec {D : Digests} {ledger after : Ledger} {result : FastLiveResult}
    {intentId : String} {status : ResultStatus} {t : Timestamp} {response : RecordResponse}
    (hid : orEmpty result.intentId = intentId) (hconsumed : result.consumed = false)
    (hintent : ∃ intent ∈ ledger.intents, intent.intentId = intentId)
    (hstrip : strip intentId = intentId)
    (h : recordClosed D ledger result intentId status t = .ok (after, response)) :
    ∃ evidence, ResultStep D ledger after result t intentId .closedBeforeSubmission 0 evidence := by
  simp only [recordClosed, bind_eq_ok, Except.ok.injEq, Prod.mk.injEq] at h
  obtain ⟨_, -, event, hevent, stored, hstored, rfl, -⟩ := h
  obtain ⟨hledger, -⟩ := storeOrderEvent_spec hevent
  obtain ⟨carriedFrom, account, evidence, hcarry, hacc, hfrom, hsource, hev, hkind, hrow, hst⟩ :=
    storeReconciliation_spec hstored
  have hrec : event.ledger.reconciliations = ledger.reconciliations := by rw [hledger]
  refine ⟨evidence, hid, hintent, rfl, Or.inr ⟨hconsumed, rfl⟩, rfl, Or.inr (Or.inr hconsumed), ?_,
    ⟨carriedFrom, account, ?_, hacc, hfrom⟩, hsource, hev, hkind, hrec ▸ hrow, ?_, ?_⟩
  · have hevents : stored.ledger.events = event.ledger.events := by rw [hst]
    exact hevents ▸ EventWrite.of_store hstrip hevent
  · rw [← carryCleanAccount_congr hrec]
    exact hcarry
  · rw [hst, hledger]
  · rw [hst, hledger]

theorem recordAttempt_spec {D : Digests} {ledger after : Ledger} {result : FastLiveResult}
    {intentId : String} {status : ResultStatus} {type : EventType} {t : Timestamp}
    {response : RecordResponse} (hid : orEmpty result.intentId = intentId)
    (hintent : ∃ intent ∈ ledger.intents, intent.intentId = intentId)
    (hstrip : strip intentId = intentId) (hconsumed : result.consumed = true)
    (htype : type.isSubmissionAttempt = true)
    (houtcome : (type = .accepted ∨ type = .submissionUnknown) ∨ result.status = some .rejected)
    (h : recordAttempt D ledger result intentId status type t = .ok (after, response)) :
    ∃ evidence, ResultStep D ledger after result t intentId type
      (if type = .accepted ∨ type = .submissionUnknown then 1 else 0) evidence := by
  simp only [recordAttempt, bind_eq_ok, Except.ok.injEq, Prod.mk.injEq] at h
  obtain ⟨event, hevent, cancelled, hcancelled, stored, hstored, rfl, -⟩ := h
  obtain ⟨hledger, -⟩ := storeOrderEvent_spec hevent
  obtain ⟨hcledger, hcevents⟩ := storeCancellation_spec hstrip hcancelled
  obtain ⟨carriedFrom, account, evidence, hcarry, hacc, hfrom, hsource, hev, hkind, hrow, hst⟩ :=
    storeReconciliation_spec hstored
  have hrec : cancelled.reconciliations = ledger.reconciliations := by rw [hcledger, hledger]
  have hcount : (if decide (type ≠ .rejected) = true then (1 : ℤ) else 0) =
      if type = .accepted ∨ type = .submissionUnknown then 1 else 0 := by
    cases type <;> first | rfl | exact absurd htype (by decide)
  rw [hcount] at hrow hkind
  refine ⟨evidence, hid, hintent, by simp [EventType.isTerminal, htype],
    Or.inl ⟨hconsumed, htype⟩, rfl, houtcome.imp_right Or.inl, ?_, ⟨carriedFrom, account, ?_, hacc, hfrom⟩,
    hsource, hev, hkind, hrec ▸ hrow, ?_, ?_⟩
  · have hevents : stored.ledger.events = cancelled.events := by rw [hst]
    exact hevents ▸ (EventWrite.of_store hstrip hevent).append hcevents
  · rw [← carryCleanAccount_congr hrec]
    exact hcarry
  · rw [hst, hcledger, hledger]
  · rw [hst, hcledger, hledger]

theorem attemptEvent_spec {status : ResultStatus} {externalOrderId : Option String}
    {type : EventType} (h : attemptEvent status externalOrderId = .ok (some type)) :
    type.isSubmissionAttempt = true := by
  cases status <;> simp only [attemptEvent, Except.ok.injEq, Option.some.injEq, reduceCtorEq,
    raise_ne_ok] at h
  case accepted =>
    split_ifs at h
    · exact absurd h raise_ne_ok
    · cases h
      rfl
  all_goals
    subst h
    rfl

theorem attemptEvent_outcome {status : ResultStatus} {externalOrderId : Option String}
    {type : EventType} (h : attemptEvent status externalOrderId = .ok (some type)) :
    (type = .accepted ∨ type = .submissionUnknown) ∨ some status = some .rejected := by
  cases status <;> simp only [attemptEvent, Except.ok.injEq, Option.some.injEq, reduceCtorEq,
    raise_ne_ok] at h
  case accepted =>
    split_ifs at h
    · exact absurd h raise_ne_ok
    · cases h
      exact Or.inl (Or.inl rfl)
  case rejected => exact Or.inr rfl
  case submissionUnknown =>
    subst h
    exact Or.inl (Or.inr rfl)

theorem attemptEvent_eq_none {status : ResultStatus} {externalOrderId : Option String} :
    attemptEvent status externalOrderId = .ok none ↔ status = .alreadyTerminal := by
  cases status <;> simp only [attemptEvent, Except.ok.injEq, reduceCtorEq, raise_ne_ok]
  split_ifs <;> simp

/-- **What recording a result does**: nothing for an already terminal attempt, otherwise the event
of its type and a row that carries the clean account over. -/
theorem result_cases {D : Digests} {ledger after : Ledger} {result : FastLiveResult}
    {t : Timestamp} {response : RecordResponse}
    (hclean : ∀ intent ∈ ledger.intents, strip intent.intentId = intent.intentId)
    (h : recordFastLiveResult D ledger result t = .ok (after, response)) :
    (after = ledger ∧ result.consumed = true ∧ result.status = some .alreadyTerminal) ∨
      ¬ (result.consumed = true ∧ result.status = some .alreadyTerminal) ∧
        ∃ intentId type count evidence,
          ResultStep D ledger after result t intentId type count evidence := by
  unfold recordFastLiveResult at h
  cases hstatus : result.status with
  | none =>
    simp only [hstatus] at h
    exact absurd h raise_ne_ok
  | some status =>
    simp only [hstatus, bind_eq_ok, require_eq_ok] at h
    obtain ⟨-, -, intent, hfind, -, -, h⟩ := h
    obtain ⟨hmem, hid⟩ := findIntent_spec hfind
    have hintent : ∃ i ∈ ledger.intents, i.intentId = orEmpty result.intentId := ⟨intent, hmem, hid⟩
    have hstrip : strip (orEmpty result.intentId) = orEmpty result.intentId := hid ▸ hclean _ hmem
    split_ifs at h with hconsumed
    · obtain ⟨event, hevent, h⟩ := bind_eq_ok.mp h
      cases event with
      | none =>
        cases h
        exact Or.inl ⟨rfl, hconsumed, congrArg some (attemptEvent_eq_none.mp hevent)⟩
      | some type =>
        refine Or.inr ⟨?_, _, _, _, recordAttempt_spec rfl hintent hstrip hconsumed
          (attemptEvent_spec hevent) (hstatus ▸ attemptEvent_outcome hevent) h⟩
        rintro ⟨-, hterm⟩
        cases hterm
        rw [attemptEvent_eq_none.mpr rfl] at hevent
        cases hevent
    · refine Or.inr ⟨fun hc => hconsumed hc.1, _, _, _, recordClosed_spec rfl (Bool.not_eq_true _ ▸ hconsumed)
        hintent hstrip h⟩

/-! ## What an official reconciliation does -/

/-- The filled shares and the filled amount an official mapping reports. -/
def OfficialState.filledShares (official : OfficialState) : Decimal :=
  official.confirmedFilledShares.getD 0

def OfficialState.filledNotional (official : OfficialState) : Decimal :=
  official.confirmedFilledNotionalUsd.getD 0

/-- The unresolved and critical count of an official row: an open fill is critical. -/
def OfficialState.openCount (official : OfficialState) : ℤ :=
  if official.filledShares.isZero then 0 else 1

/-- The write of an official reconciliation: a row at `t` with the account of the intent's pending
row. -/
structure OfficialStep (D : Digests) (before after : Ledger) (result : FastLiveResult)
    (official : OfficialState) (t : Timestamp) (carriedFrom : String) (account : AccountEvidence) :
    Prop where
  intent : ∃ intent ∈ before.intents, intent.intentId = orEmpty result.intentId
  accepted : ∃ event ∈ before.events, event.intentId = orEmpty result.intentId ∧
    event.eventType = .accepted
  filledShares_nonneg : 0 ≤ official.filledShares
  filledNotional_nonneg : 0 ≤ official.filledNotional
  carried : carryPendingAccount before (orEmpty result.intentId) t = .ok (carriedFrom, account)
  rows : RowWrite D before.reconciliations
    ⟨t, official.openCount, official.openCount,
      officialEvidence (orEmpty result.intentId) (orEmpty result.externalOrderId.join) carriedFrom
        official official.filledShares official.filledNotional account⟩
    after.reconciliations
  events : after.events = before.events
  intents : after.intents = before.intents
  riskDecisions : after.riskDecisions = before.riskDecisions

theorem official_cases {D : Digests} {ledger after : Ledger} {result : FastLiveResult}
    {official : OfficialState} {t : Timestamp} {response : OfficialResponse}
    (h : recordOfficialReconciliation D ledger result official t = .ok (after, response)) :
    ∃ carriedFrom account, OfficialStep D ledger after result official t carriedFrom account := by
  simp only [recordOfficialReconciliation, bind_eq_ok, require_eq_ok, Except.ok.injEq,
    Prod.mk.injEq] at h
  obtain ⟨_, -, _, -, _, -, _, hnonneg, intent, hfind, _, -, _, haccepted, ⟨carriedFrom, account⟩,
    hcarry, stored, hstored, rfl, -⟩ := h
  obtain ⟨hmem, hid⟩ := findIntent_spec hfind
  obtain ⟨event, hevent, hev, htype, -⟩ := haccepted
  obtain ⟨hrow, hledger⟩ := storeReconciliationRun_spec hstored
  exact ⟨carriedFrom, account, ⟨intent, hmem, hid⟩, ⟨event, hevent, hev, htype⟩, hnonneg.1,
    hnonneg.2, hcarry, hrow, by rw [hledger], by rw [hledger], by rw [hledger]⟩

/-! ## What a settlement does -/

/-- The writes of a settlement: an event that is not terminal, and a clean row at `t` whose account
continues the one of the latest confirmed fill. -/
structure SettleStep (D : Digests) (before after : Ledger) (t : Timestamp) (intentId : String)
    (fill : ReconciliationRow) (account : AccountEvidence) (pnl : Decimal)
    (evidence : ReconciliationEvidence) : Prop where
  intent : ∃ intent ∈ before.intents, intent.intentId = intentId
  intentId_ne : intentId ≠ ""
  unsettled : ∀ row ∈ before.reconciliations, isSettlementOf intentId row = false
  fill_mem : fill ∈ before.reconciliations
  isFill : isFillOf intentId fill = true
  fill_latest : (latestFirst (fun row : ReconciliationRow => row.payload.observedAt)
    before.reconciliations).find? (isFillOf intentId) = some fill
  fill_account : fill.payload.evidence.accountSnapshot = some account
  kind : evidence.reconciliationKind = some .fastLiveOfficialSettlement
  intent_evidence : evidence.intentId = some intentId
  account_evidence : evidence.accountSnapshot = some (settledAccount fill account pnl t)
  pnl_evidence : evidence.riskRealizedPnlUsd = some pnl.formatF
  carried : evidence.accountSnapshotCarriedFrom = some fill.reconciliationId
  rows : RowWrite D before.reconciliations ⟨t, 0, 0, evidence⟩ after.reconciliations
  events : ∃ extra, after.events = before.events ++ extra ∧
    ∀ e ∈ extra, e.intentId = intentId ∧ e.eventType.isTerminal = false
  intents : after.intents = before.intents
  riskDecisions : after.riskDecisions = before.riskDecisions

theorem storeSettlement_spec {D : Digests} {ledger after : Ledger} {intent : IntentRow}
    {intentId : String} {fill : ReconciliationRow} {account : AccountEvidence}
    {evaluation : Evaluation} {amounts : Settlement} {t : Timestamp} {response : SettleResponse}
    (hmem : intent ∈ ledger.intents) (hid : intent.intentId = intentId) (hne : intentId ≠ "")
    (hstrip : strip intentId = intentId)
    (hunsettled : ∀ row ∈ ledger.reconciliations, isSettlementOf intentId row = false)
    (hfill : (latestFirst (fun row : ReconciliationRow => row.payload.observedAt)
      ledger.reconciliations).find? (isFillOf intentId) = some fill)
    (haccount : fill.payload.evidence.accountSnapshot = some account)
    (h : storeSettlement D ledger intent intentId fill account evaluation amounts t
      = .ok (after, response)) :
    ∃ evidence, SettleStep D ledger after t intentId fill account amounts.riskRealizedPnl
      evidence := by
  simp only [storeSettlement, bind_eq_ok, Except.ok.injEq, Prod.mk.injEq] at h
  obtain ⟨event, hevent, stored, hstored, rfl, -⟩ := h
  obtain ⟨hledger, row, -, hrid, htype, -, -, hevents⟩ := storeOrderEvent_spec hevent
  obtain ⟨hrow, hst⟩ := storeReconciliationRun_spec hstored
  have hrec : event.ledger.reconciliations = ledger.reconciliations := by rw [hledger]
  refine ⟨settlementEvidence intent intentId fill evaluation amounts
    (settledAccount fill account amounts.riskRealizedPnl t), ?_⟩
  refine
    { intent := ⟨intent, hmem, hid⟩
      intentId_ne := hne
      unsettled := hunsettled
      fill_mem := (mem_latestFirst _).mp (List.mem_of_find?_eq_some hfill)
      isFill := List.find?_some hfill
      fill_latest := hfill
      fill_account := haccount
      kind := by simp only [settlementEvidence]
      intent_evidence := by simp only [settlementEvidence]
      account_evidence := by simp only [settlementEvidence]
      pnl_evidence := by simp only [settlementEvidence]
      carried := by simp only [settlementEvidence]
      rows := hrec ▸ hrow
      events := ?_
      intents := by rw [hst, hledger]
      riskDecisions := by rw [hst, hledger] }
  have hafter : stored.ledger.events = event.ledger.events := by rw [hst]
  rw [hafter]
  rcases hevents with he | ⟨he, -⟩
  · exact ⟨[], by simp [he], by simp⟩
  · refine ⟨[row], he, fun e hin => ?_⟩
    rw [List.mem_singleton.mp hin]
    exact ⟨hrid.trans hstrip, by rw [htype]; rfl⟩

theorem settleFill_spec {D : Digests} {ledger after : Ledger} {intent : IntentRow}
    {intentId : String} {fill : ReconciliationRow} {evaluation : Evaluation} {t : Timestamp}
    {response : SettleResponse} (hmem : intent ∈ ledger.intents) (hid : intent.intentId = intentId)
    (hne : intentId ≠ "") (hstrip : strip intentId = intentId)
    (hunsettled : ∀ row ∈ ledger.reconciliations, isSettlementOf intentId row = false)
    (hfill : (latestFirst (fun row : ReconciliationRow => row.payload.observedAt)
      ledger.reconciliations).find? (isFillOf intentId) = some fill)
    (h : settleFill D ledger intent intentId fill evaluation t = .ok (after, response)) :
    ∃ account pnl evidence, SettleStep D ledger after t intentId fill account pnl evidence := by
  simp only [settleFill, bind_eq_ok, require_eq_ok] at h
  obtain ⟨_, -, average, -, outcome, -, h⟩ := h
  cases haccount : fill.payload.evidence.accountSnapshot with
  | none =>
    simp only [haccount] at h
    exact absurd h raise_ne_ok
  | some account =>
    simp only [haccount] at h
    exact ⟨account, _, storeSettlement_spec hmem hid hne hstrip hunsettled hfill haccount h⟩

/-- **What a settlement does**: nothing when there is nothing to settle, otherwise one event and one
row. -/
theorem settle_cases {D : Digests} {ledger after : Ledger} {evaluations : List Evaluation}
    {intentId : String} {t : Timestamp} {response : SettleResponse}
    (hclean : ∀ intent ∈ ledger.intents, strip intent.intentId = intent.intentId)
    (h : settlePosition D ledger evaluations intentId t = .ok (after, response)) :
    after = ledger ∨
      ∃ fill account pnl evidence,
        SettleStep D ledger after t (strip intentId) fill account pnl evidence := by
  simp only [settlePosition, bind_eq_ok, require_eq_ok] at h
  obtain ⟨_, hne, intent, hfind, _, -, h⟩ := h
  obtain ⟨hmem, hid⟩ := findIntent_spec hfind
  have hstrip : strip (strip intentId) = strip intentId := by
    have hrow := hclean intent hmem
    rwa [hid] at hrow
  split at h
  · cases h
    exact Or.inl rfl
  · next hnone =>
    have hunsettled : ∀ row ∈ ledger.reconciliations,
        isSettlementOf (strip intentId) row = false := fun row hrow =>
      Bool.not_eq_true _ ▸ List.find?_eq_none.mp hnone row ((mem_latestFirst _).mpr hrow)
    split at h
    · cases h
      exact Or.inl rfl
    · next fill hfill =>
      split at h
      · cases h
        exact Or.inl rfl
      · obtain ⟨account, pnl, evidence, hstep⟩ := settleFill_spec hmem hid hne hstrip hunsettled
          hfill h
        exact Or.inr ⟨fill, account, pnl, evidence, hstep⟩

/-! ## What a preparation does -/

/-- The baseline row of an empty ledger. -/
structure Baseline (D : Digests) (before after : Ledger) (t : Timestamp)
    (evidence : ReconciliationEvidence) : Prop where
  no_intents : before.intents = []
  no_rows : before.reconciliations = []
  account : evidence.accountSnapshot = some ⟨0, 0, 0⟩
  carried : evidence.accountSnapshotCarriedFrom = none
  kind : evidence.reconciliationKind = none
  row : after = { before with reconciliations :=
    [⟨D.reconciliationId ⟨t, 0, 0, evidence⟩, ⟨t, 0, 0, evidence⟩⟩] }

/-- What a preparation checked of the ledger before it created the intent `new`. -/
structure NewIntent (ledger : Ledger) (t : Timestamp) (new : IntentRow) : Prop where
  no_pending : unresolvedPendingIntentId ledger t = none
  account : ∃ account, accountSnapshot ledger t = .ok account ∧
    account.unresolvedCriticalReconciliation = 0
  preSubmitAt : new.payload.preSubmitAt = t
  policyVersion : new.payload.policyVersion = canaryPolicyVersion
  intentId_ne : new.intentId ≠ ""
  strip_intentId : strip new.intentId = new.intentId
  size_pos : 0 < new.size
  limitPrice_pos : 0 < new.limitPrice
  fresh : ∀ row ∈ ledger.intents, row.intentId ≠ new.intentId
  naturalKey : ∀ row ∈ ledger.intents, ¬ (row.payload.predictionId = new.payload.predictionId ∧
    row.payload.policyVersion = new.payload.policyVersion)

/-- The effect of a preparation: a baseline row in an empty ledger, and possibly one intent. -/
structure PrepareStep (D : Digests) (before after : Ledger) (t : Timestamp) (middle : Ledger) :
    Prop where
  baseline : middle = before ∨ ∃ evidence, Baseline D before middle t evidence
  events : after.events = middle.events
  rows : after.reconciliations = middle.reconciliations
  intents : after.intents = middle.intents ∨
    ∃ new, after.intents = middle.intents ++ [new] ∧ NewIntent middle t new

theorem storeOrderIntent_spec {D : Digests} {ledger : Ledger}
    {predictionId policyVersion requestId riskDecisionId tokenId side : String}
    {size limitPrice : Decimal} {t : Timestamp} {evidence : IntentEvidence}
    {stored : StoreResult IntentRow}
    (h : storeOrderIntent D ledger predictionId policyVersion requestId riskDecisionId tokenId side
      size limitPrice t evidence = .ok stored) :
    stored.ledger = { ledger with intents := stored.ledger.intents } ∧
      (stored.ledger.intents = ledger.intents ∨
        ∃ new : IntentRow, stored.ledger.intents = ledger.intents ++ [new] ∧
          new.payload.preSubmitAt = t ∧ new.payload.policyVersion = strip policyVersion ∧
          (∃ payload, new.intentId = D.intentId payload) ∧ 0 < new.size ∧ 0 < new.limitPrice ∧
          (∀ row ∈ ledger.intents, row.intentId ≠ new.intentId) ∧
          ∀ row ∈ ledger.intents, ¬ (row.payload.predictionId = new.payload.predictionId ∧
            row.payload.policyVersion = new.payload.policyVersion)) := by
  simp only [storeOrderIntent, bind_eq_ok, require_eq_ok, Except.ok.injEq] at h
  obtain ⟨prediction, -, version, hversion, request, -, riskId, -, token, -, _, -, _, -, _, -, _, -,
    s, hs, _, -, _, hcheck, _, hfresh, rfl⟩ := h
  refine ⟨rfl, ?_⟩
  have hv : version = strip policyVersion := by
    unfold text at hversion
    split_ifs at hversion
    · exact absurd hversion raise_ne_ok
    · exact (Except.ok.inj hversion).symm
  rcases existingOrInsert_eq_ok hs with ⟨ht, -⟩ | ⟨ht, -, hkey, hcreated⟩
  · exact Or.inl ht
  · obtain ⟨hsize, hprice, -⟩ := hcheck hcreated
    refine Or.inr ⟨_, ht, rfl, hv, ⟨_, rfl⟩, hsize, hprice, hfresh hcreated, fun row hrow => ?_⟩
    have hrow' := hkey row hrow
    simpa using hrow'

theorem createIntent_spec {D : Digests} {ledger after : Ledger} {input : PrepareInput}
    {policy : LiveRiskPolicy} {candidate : Candidate} {riskDecisionId : String}
    {response : PrepareResponse} (hversion : policy.policyVersion = canaryPolicyVersion)
    (h : createIntent D ledger input policy candidate riskDecisionId = .ok (after, response)) :
    after = { ledger with intents := after.intents } ∧
      (after.intents = ledger.intents ∨
        ∃ new : IntentRow, after.intents = ledger.intents ++ [new] ∧
          new.payload.preSubmitAt = input.observedAt ∧
          new.payload.policyVersion = canaryPolicyVersion ∧
          (∃ payload, new.intentId = D.intentId payload) ∧ 0 < new.size ∧ 0 < new.limitPrice ∧
          (∀ row ∈ ledger.intents, row.intentId ≠ new.intentId) ∧
          ∀ row ∈ ledger.intents, ¬ (row.payload.predictionId = new.payload.predictionId ∧
            row.payload.policyVersion = new.payload.policyVersion)) := by
  unfold createIntent at h
  cases hfee : candidate.prediction.feeRate with
  | none =>
    simp only [hfee] at h
    exact absurd h raise_ne_ok
  | some feeRate =>
    simp only [hfee, bind_eq_ok, Except.ok.injEq, Prod.mk.injEq] at h
    obtain ⟨_, -, stored, hstored, rfl, -⟩ := h
    obtain ⟨hledger, hintents⟩ := storeOrderIntent_spec hstored
    refine ⟨hledger, hintents.imp id ?_⟩
    rintro ⟨new, hnew, hpre, hpol, hrest⟩
    refine ⟨new, hnew, hpre, ?_, hrest⟩
    have hstrip : strip canaryPolicyVersion = canaryPolicyVersion := by decide
    rw [hpol, hversion, hstrip]

theorem storeRiskDecision_spec {D : Digests} {ledger : Ledger}
    {predictionId predictionSha policyVersion : String} {decision : LiveRiskDecision}
    {account : LiveAccountSnapshot} {evidence : RiskDecisionEvidence} {t : Timestamp}
    {stored : StoreResult RiskDecisionRow}
    (h : storeRiskDecision D ledger predictionId predictionSha policyVersion decision account
      evidence t = .ok stored) :
    stored.ledger = { ledger with riskDecisions := stored.ledger.riskDecisions } := by
  simp only [storeRiskDecision, bind_eq_ok, Except.ok.injEq] at h
  obtain ⟨_, -, _, -, _, -, s, -, rfl⟩ := h
  rfl

/-- An eligible decision found no critical reconciliation. -/
theorem decideRisk_eligible {input : PrepareInput} {policy : LiveRiskPolicy}
    {candidate : Candidate} {account : LiveAccountSnapshot} {interlock : InterlockDecision}
    {decision : LiveRiskDecision}
    (h : decideRisk input policy candidate account = .ok (interlock, decision))
    (heligible : decision.eligible = true) : account.unresolvedCriticalReconciliation = 0 := by
  simp only [decideRisk, bind_eq_ok, Except.ok.injEq, Prod.mk.injEq] at h
  obtain ⟨_, -, context, hcontext, decision', hdecision, -, rfl⟩ := h
  have hrules := (eligible_iff hdecision).mp heligible .reconciliation
  rw [LiveRiskContext.create_eq_ok hcontext] at hrules
  exact of_decide_eq_true hrules

/-- **What a preparation with a candidate does.** -/
theorem finalizeCandidate_spec {D : Digests} {ledger after : Ledger} {input : PrepareInput}
    {policy : LiveRiskPolicy} {candidate : Candidate} {response : PrepareResponse}
    (hversion : policy.policyVersion = canaryPolicyVersion)
    (hpending : unresolvedPendingIntentId ledger input.observedAt = none)
    (h : finalizeCandidate D ledger input policy candidate = .ok (after, response)) :
    after.events = ledger.events ∧ after.reconciliations = ledger.reconciliations ∧
      (after.intents = ledger.intents ∨
        ∃ new, after.intents = ledger.intents ++ [new] ∧ NewIntent ledger input.observedAt new) := by
  simp only [finalizeCandidate, bind_eq_ok] at h
  obtain ⟨_, -, _, -, _, -, account, haccount, ⟨interlock, decision⟩, hdecision, stored, hstored, h⟩ :=
    h
  have hledger := storeRiskDecision_spec hstored
  have hsame : stored.ledger.events = ledger.events ∧
      stored.ledger.reconciliations = ledger.reconciliations ∧
      stored.ledger.intents = ledger.intents := by rw [hledger]; exact ⟨rfl, rfl, rfl⟩
  split_ifs at h with heligible harm
  · cases h
    exact ⟨hsame.1, hsame.2.1, Or.inl hsame.2.2⟩
  · cases h
    exact ⟨hsame.1, hsame.2.1, Or.inl hsame.2.2⟩
  · obtain ⟨hafter, hintents⟩ := createIntent_spec hversion h
    have hevents : after.events = stored.ledger.events := by rw [hafter]
    have hrows : after.reconciliations = stored.ledger.reconciliations := by rw [hafter]
    refine ⟨hevents.trans hsame.1, hrows.trans hsame.2.1, ?_⟩
    rw [hsame.2.2] at hintents
    refine hintents.imp id ?_
    rintro ⟨new, hnew, hpre, hpol, ⟨payload, hid⟩, hsize, hprice, hfresh, hkey⟩
    refine ⟨new, hnew, hpending, ⟨account, haccount, ?_⟩, hpre, hpol, ?_, ?_, hsize, hprice, hfresh,
      hkey⟩
    · exact decideRisk_eligible hdecision (Bool.not_eq_false _ ▸ heligible)
    · rw [hid]
      exact D.intentId_ne_empty payload
    · rw [hid]
      exact D.strip_intentId payload

theorem ensureInitialReconciliation_spec {D : Digests} {ledger after : Ledger}
    {input : PrepareInput} (h : ensureInitialReconciliation D ledger input = .ok after) :
    after = ledger ∨ ∃ evidence, Baseline D ledger after input.observedAt evidence := by
  simp only [ensureInitialReconciliation, bind_eq_ok] at h
  obtain ⟨_, -, _, -, h⟩ := h
  split_ifs at h with hempty
  · cases h
    exact Or.inl rfl
  · obtain ⟨stored, hstored, hok⟩ := bind_eq_ok.mp h
    cases hok
    obtain ⟨hrow, hledger⟩ := storeReconciliationRun_spec hstored
    rw [not_or, not_not, not_not] at hempty
    refine Or.inr ⟨baselineEvidence input, hempty.1, hempty.2, rfl, rfl, rfl, ?_⟩
    rw [hempty.2] at hrow
    rw [hledger]
    generalize stored.ledger.reconciliations = rows at hrow ⊢
    cases hrow with
    | existing row hmem => exact absurd hmem (by simp)
    | created => rfl

/-- **What a preparation does.** -/
theorem prepare_cases {D : Digests} {ledger after : Ledger} {input : PrepareInput}
    {response : PrepareResponse}
    (h : prepareFastLiveCandidate D ledger input = .ok (after, response)) :
    ∃ middle, PrepareStep D ledger after input.observedAt middle := by
  simp only [prepareFastLiveCandidate, bind_eq_ok] at h
  obtain ⟨policy, hpolicy, middle, hmiddle, h⟩ := h
  have hversion : policy.policyVersion = canaryPolicyVersion := by
    simp only [continuousFastLivePolicy, bind_eq_ok, Except.ok.injEq] at hpolicy
    obtain ⟨_, -, rfl⟩ := hpolicy
    rfl
  have hbaseline : middle = ledger ∨
      ∃ evidence, Baseline D ledger middle input.observedAt evidence := by
    unfold startingLedger at hmiddle
    split_ifs at hmiddle
    · cases hmiddle
      exact Or.inl rfl
    · exact ensureInitialReconciliation_spec hmiddle
  refine ⟨middle, ?_⟩
  split at h
  · cases h
    exact ⟨hbaseline, rfl, rfl, Or.inl rfl⟩
  · next hpending =>
    obtain ⟨choice, -, h⟩ := bind_eq_ok.mp h
    cases choice with
    | inl response =>
      cases h
      exact ⟨hbaseline, rfl, rfl, Or.inl rfl⟩
    | inr candidate =>
      obtain ⟨hevents, hrows, hintents⟩ := finalizeCandidate_spec hversion hpending h
      exact ⟨hbaseline, hevents, hrows, hintents⟩

end BpEngine.FastLive
