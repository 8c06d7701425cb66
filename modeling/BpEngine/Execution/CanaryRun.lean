import BpEngine.Execution.Canary
import BpEngine.FastLive.ExecutorResult

/-!
# Runs of a ledger with a canary

The operations of the canary and of fast-live on one ledger as one machine, and what one operation
does to the terminal events of the intents.

* `CanaryOp`, `applyCanary`, `execCanary`: an operation, its outcome, and its effect.
* `Growth` is the effect on the intents and events of an operation that returns: the intents grow,
  and either no terminal event is written, or one of one intent.
* `submission_growth`, `reconcile_growth`, `executorResult_growth`, `prepare_growth`,
  `fastLive_growth`: the effect of each operation, with what it checked before.
-/

namespace BpEngine.Canary

open BpEngine.Execution BpEngine.FastLive BpEngine.LiveReadiness BpEngine.Table

/-- One call of an operation on a ledger that the canary shares with fast-live. -/
inductive CanaryOp where
  | fastLive (op : LedgerOp)
  | executorResult (result : FastLiveResult) (observedAt : Timestamp)
  | prepare (input : CanaryInput)
  | submission (intentId : String) (observedAt : Timestamp) (result : CanaryResult)
  | reconcile (intentId : String) (observedAt : Timestamp) (reason : String)
      (health : ExecutorHealth)

/-- The ledger an operation returns, or the exception it raises. -/
def applyCanary (D : Digests) (ledger : Ledger) : CanaryOp → Outcome Ledger
  | .fastLive op => apply D ledger op
  | .executorResult result t => (Prepare.recordFastLiveResult D ledger result t).map Prod.fst
  | .prepare input => (prepareNextCanary D ledger input).map Prod.fst
  | .submission intentId t result => (recordCanarySubmission ledger intentId t result).map Prod.fst
  | .reconcile intentId t reason health =>
    (reconcileUnsubmittedCanaryIntent D ledger intentId t reason health).map Prod.fst

/-- The ledger after an operation; one that raises is rolled back. -/
def execCanary (D : Digests) (ledger : Ledger) (op : CanaryOp) : Ledger :=
  match applyCanary D ledger op with
  | .ok after => after
  | .error _ => ledger

/-- The ledger after a run from the empty ledger. -/
def canaryLedgerAfter (D : Digests) (ops : List CanaryOp) : Ledger :=
  Machine.run (execCanary D) {} ops

theorem execCanary_cases (D : Digests) (ledger : Ledger) (op : CanaryOp) :
    execCanary D ledger op = ledger ∨
      applyCanary D ledger op = .ok (execCanary D ledger op) := by
  unfold execCanary
  cases h : applyCanary D ledger op with
  | error e => exact Or.inl rfl
  | ok after => exact Or.inr rfl

/-! ## The effect of an operation -/

/-- The intents have the identifiers the events are stored under, and every event is one of an
intent. -/
structure Owned (ledger : Ledger) : Prop where
  clean : ∀ intent ∈ ledger.intents, strip intent.intentId = intent.intentId
  ids : (ledger.intents.map (·.intentId)).Nodup
  events : ∀ event ∈ ledger.events, ∃ intent ∈ ledger.intents, intent.intentId = event.intentId

/-- The intents are those of before, or one more that no earlier event belongs to. -/
def IntentsGrow (before after : Ledger) : Prop :=
  after.intents = before.intents ∨
    ∃ new : IntentRow, after.intents = before.intents ++ [new] ∧
      strip new.intentId = new.intentId ∧ ∀ row ∈ before.intents, row.intentId ≠ new.intentId

/-- What an operation does to the terminal events: one of the types `types` of the intent
`intentId` is written, or nothing; and nothing only when there is no such type or nothing else is
done either. -/
inductive TerminalEffect (before after : Ledger) (intentId : String) (types : EventType → Bool) :
    Prop
  | quiet (idle : after = before ∨ ∀ type, types type = false)
      (appended : ∃ extra, after.events = before.events ++ extra ∧
        ∀ e ∈ extra, (∃ intent ∈ before.intents, intent.intentId = e.intentId) ∧
          e.eventType.isTerminal = false)
  | written (type : EventType) (hasType : types type = true) (terminal : type.isTerminal = true)
      (owner : ∃ intent ∈ before.intents, intent.intentId = intentId)
      (write : EventWrite before.events after.events intentId type)

/-- The effect of an operation that returned. -/
structure Growth (before after : Ledger) (intentId : String) (types : EventType → Bool) : Prop where
  intents : IntentsGrow before after
  events : TerminalEffect before after intentId types

theorem TerminalEffect.same {before after : Ledger} {intentId : String} {types : EventType → Bool}
    (hidle : after = before ∨ ∀ type, types type = false) (h : after.events = before.events) :
    TerminalEffect before after intentId types :=
  .quiet hidle ⟨[], by simp [h], by simp⟩

theorem Owned.empty : Owned {} := ⟨by simp, List.nodup_nil, by simp⟩

/-- An operation keeps the ledger owned. -/
theorem Growth.owned {before after : Ledger} {intentId : String} {types : EventType → Bool}
    (h : Owned before) (hg : Growth before after intentId types) : Owned after := by
  have hsub : ∀ {id : String}, (∃ intent ∈ before.intents, intent.intentId = id) →
      ∃ intent ∈ after.intents, intent.intentId = id := by
    rintro id ⟨intent, hmem, hid⟩
    rcases hg.intents with heq | ⟨new, heq, -⟩
    · exact ⟨intent, heq ▸ hmem, hid⟩
    · exact ⟨intent, by rw [heq]; exact List.mem_append_left _ hmem, hid⟩
  have hevents : ∃ extra, after.events = before.events ++ extra ∧
      ∀ e ∈ extra, ∃ intent ∈ before.intents, intent.intentId = e.intentId := by
    cases hg.events with
    | quiet idle appended =>
      obtain ⟨extra, heq, hextra⟩ := appended
      exact ⟨extra, heq, fun e he => (hextra e he).1⟩
    | written type hasType terminal owner write =>
      obtain ⟨extra, heq, hextra⟩ := write.appended
      exact ⟨extra, heq, fun e he => by rw [(hextra e he).1]; exact owner⟩
  refine ⟨?_, ?_, ?_⟩
  · rcases hg.intents with heq | ⟨new, heq, hstrip, -⟩
    · rw [heq]
      exact h.clean
    · intro intent hmem
      rw [heq] at hmem
      rcases List.mem_append.mp hmem with hmem | hmem
      · exact h.clean intent hmem
      · rw [List.mem_singleton.mp hmem]
        exact hstrip
  · rcases hg.intents with heq | ⟨new, heq, -, hfresh⟩
    · rw [heq]
      exact h.ids
    · rw [heq, List.map_append, List.nodup_append]
      refine ⟨h.ids, by simp, fun a ha b hb hab => ?_⟩
      obtain ⟨row, hrow, rfl⟩ := List.mem_map.mp ha
      rw [List.map_cons, List.map_nil, List.mem_singleton] at hb
      exact hfresh row hrow (hab.trans hb)
  · obtain ⟨extra, heq, hextra⟩ := hevents
    rw [heq]
    intro e he
    rcases List.mem_append.mp he with he | he
    · exact hsub (h.events e he)
    · exact hsub (hextra e he)

/-! ## The terminal events after a write -/

theorem hasEvent_iff {ledger : Ledger} {intentId : String} {types : EventType → Bool} :
    hasEvent ledger intentId types = true ↔
      ∃ e ∈ ledger.events, e.intentId = intentId ∧ types e.eventType = true := by
  simp [hasEvent, List.any_eq_true]

/-- Events without one of the types leave the question open as it was. -/
theorem hasEvent_append {before after : Ledger} {intentId : String} {types : EventType → Bool}
    {extra : List EventRow} (hevents : after.events = before.events ++ extra)
    (hextra : ∀ e ∈ extra, e.intentId = intentId → types e.eventType = false) :
    hasEvent after intentId types = hasEvent before intentId types := by
  have hnone : extra.any (fun event => event.intentId == intentId && types event.eventType)
      = false := by
    rw [List.any_eq_false]
    intro e he
    by_cases hid : e.intentId = intentId
    · simp [hextra e he hid]
    · simp [hid]
  unfold hasEvent
  rw [hevents, List.any_append, hnone, Bool.or_false]

/-- An operation that writes no terminal event leaves the terminal events alone. -/
theorem hasEvent_quiet {before after : Ledger} {types : EventType → Bool}
    (hterminal : ∀ type, types type = true → type.isTerminal = true)
    (h : ∃ extra, after.events = before.events ++ extra ∧
      ∀ e ∈ extra, (∃ intent ∈ before.intents, intent.intentId = e.intentId) ∧
        e.eventType.isTerminal = false) (intentId : String) :
    hasEvent after intentId types = hasEvent before intentId types := by
  obtain ⟨extra, hevents, hextra⟩ := h
  refine hasEvent_append hevents fun e he _ => ?_
  by_contra htype
  rw [Bool.not_eq_false] at htype
  have hnot := (hextra e he).2
  rw [hterminal _ htype] at hnot
  cases hnot

section Write

variable {before after : Ledger} {intentId : String} {type : EventType}
  (h : EventWrite before.events after.events intentId type)

include h

theorem hasEvent_write_ne {other : String} {types : EventType → Bool} (hne : other ≠ intentId) :
    hasEvent after other types = hasEvent before other types := by
  obtain ⟨extra, hevents, hextra⟩ := h.appended
  refine hasEvent_append hevents fun e he hid => ?_
  exact absurd (hid.symm.trans (hextra e he).1) hne

/-- Terminal events of other types are those of before. -/
theorem hasEvent_write_other {types : EventType → Bool}
    (hterminal : ∀ type, types type = true → type.isTerminal = true) (htype : types type = false)
    (other : String) : hasEvent after other types = hasEvent before other types := by
  obtain ⟨extra, hevents, hextra⟩ := h.appended
  refine hasEvent_append hevents fun e he _ => ?_
  by_contra hsome
  rw [Bool.not_eq_false] at hsome
  rw [(hextra e he).2 (hterminal _ hsome), htype] at hsome
  cases hsome

/-- The written event is there. -/
theorem hasEvent_write_self {types : EventType → Bool} (htype : types type = true) :
    hasEvent after intentId types = true := by
  obtain ⟨e, he, hid, heq⟩ := h.present
  exact hasEvent_iff.mpr ⟨e, he, hid, heq ▸ htype⟩

end Write

/-! ## Stored events -/

section Stored

variable {ledger after : Ledger} {intentId : String} {type : EventType} {t : Timestamp}
  {externalOrderId : Option String} {evidence : EventEvidence} {stored : StoreResult EventRow}

/-- An event that is not terminal adds nothing to the effect. -/
theorem store_quiet (hstrip : strip intentId = intentId) (htype : type.isTerminal = false)
    (h : storeOrderEvent ledger ⟨intentId, type, none⟩ intentId type t externalOrderId evidence
      = .ok stored) :
    stored.ledger = { ledger with events := stored.ledger.events } ∧
      ∃ extra, stored.ledger.events = ledger.events ++ extra ∧
        ∀ e ∈ extra, e.intentId = intentId ∧ e.eventType.isTerminal = false := by
  obtain ⟨hledger, row, -, hid, hkind, -, -, hevents⟩ := storeOrderEvent_spec h
  refine ⟨hledger, ?_⟩
  rcases hevents with he | ⟨he, -⟩
  · exact ⟨[], by simp [he], by simp⟩
  · refine ⟨[row], he, fun e hin => ?_⟩
    rw [List.mem_singleton.mp hin]
    exact ⟨hid.trans hstrip, by rw [hkind]; exact htype⟩

theorem storeCanaryCancellation_spec {result : CanaryResult} (hstrip : strip intentId = intentId)
    (h : storeCanaryCancellation ledger intentId t result = .ok after) :
    after = { ledger with events := after.events } ∧
      ∃ extra, after.events = ledger.events ++ extra ∧
        ∀ e ∈ extra, e.intentId = intentId ∧ e.eventType.isTerminal = false := by
  unfold storeCanaryCancellation at h
  split at h
  · next cancellation _ =>
    split_ifs at h
    · obtain ⟨stored, hs, hok⟩ := bind_eq_ok.mp h
      cases hok
      refine store_quiet hstrip ?_ hs
      unfold CanaryCancellation.eventType
      split_ifs <;> rfl
    · cases h
      exact ⟨rfl, [], by simp, by simp⟩
  · cases h
    exact ⟨rfl, [], by simp, by simp⟩

theorem storeCancelEvent_spec {result : FastLiveResult} {requestSha256 : String}
    (hstrip : strip intentId = intentId)
    (h : Prepare.storeCancelEvent ledger result intentId requestSha256 t = .ok after) :
    after = { ledger with events := after.events } ∧
      ∃ extra, after.events = ledger.events ++ extra ∧
        ∀ e ∈ extra, e.intentId = intentId ∧ e.eventType.isTerminal = false := by
  unfold Prepare.storeCancelEvent at h
  split at h
  · next cancellation _ =>
    split_ifs at h
    · obtain ⟨stored, hs, hok⟩ := bind_eq_ok.mp h
      cases hok
      refine store_quiet hstrip ?_ hs
      unfold Prepare.cancelType
      split_ifs <;> rfl
    · cases h
      exact ⟨rfl, [], by simp, by simp⟩
  · cases h
    exact ⟨rfl, [], by simp, by simp⟩

end Stored

/-! ## What each operation does -/

/-- The intent whose terminal events an operation may write. -/
def subject : CanaryOp → String
  | .fastLive (.result result _) => orEmpty result.intentId
  | .executorResult result _ => strip (orEmpty result.intentId)
  | .submission intentId _ _ => intentId
  | .reconcile intentId _ _ _ => intentId
  | _ => ""

/-- The types of the terminal events a result writes. -/
def resultTypes (result : FastLiveResult) : EventType → Bool :=
  if result.consumed then EventType.isSubmissionAttempt else (· == .closedBeforeSubmission)

/-- The types of the terminal events an operation may write. -/
def writable : CanaryOp → EventType → Bool
  | .fastLive (.result result _) => resultTypes result
  | .executorResult result _ => resultTypes result
  | .submission _ _ _ => EventType.isSubmissionAttempt
  | .reconcile _ _ _ _ => (· == .closedBeforeSubmission)
  | _ => fun _ => false

section Operations

variable {D : Digests} {ledger after : Ledger} {t : Timestamp}

theorem fastLive_growth {op : LedgerOp} (h : Owned ledger) (ha : apply D ledger op = .ok after) :
    Growth ledger after (subject (.fastLive op)) (writable (.fastLive op)) := by
  cases op with
  | prepare input =>
    obtain ⟨response, hr⟩ := map_fst_eq_ok.mp ha
    obtain ⟨middle, hs⟩ := prepare_cases hr
    have hmiddle : middle.intents = ledger.intents ∧ middle.events = ledger.events := by
      rcases hs.baseline with rfl | ⟨evidence, hb⟩
      · exact ⟨rfl, rfl⟩
      · rw [hb.row]
        exact ⟨rfl, rfl⟩
    refine ⟨?_, .same (Or.inr fun _ => rfl) (hs.events.trans hmiddle.2)⟩
    rcases hs.intents with heq | ⟨new, heq, hnew⟩
    · exact Or.inl (heq.trans hmiddle.1)
    · refine Or.inr ⟨new, by rw [heq, hmiddle.1], hnew.strip_intentId, ?_⟩
      rw [← hmiddle.1]
      exact hnew.fresh
  | result result t =>
    obtain ⟨response, hr⟩ := map_fst_eq_ok.mp ha
    rcases result_cases h.clean hr with ⟨rfl, -⟩ | ⟨-, intentId, type, count, evidence, hs⟩
    · exact ⟨Or.inl rfl, .same (Or.inl rfl) rfl⟩
    · obtain rfl := hs.intentId_eq
      refine ⟨Or.inl hs.intents, .written type ?_ hs.terminal hs.intent hs.events⟩
      rcases hs.consumption with ⟨hconsumed, htype⟩ | ⟨hconsumed, rfl⟩
      · simp [writable, resultTypes, hconsumed, htype]
      · simp [writable, resultTypes, hconsumed]
  | official result official t =>
    obtain ⟨response, hr⟩ := map_fst_eq_ok.mp ha
    obtain ⟨carriedFrom, account, hs⟩ := official_cases hr
    exact ⟨Or.inl hs.intents, .same (Or.inr fun _ => rfl) hs.events⟩
  | settle evaluations intentId t =>
    obtain ⟨response, hr⟩ := map_fst_eq_ok.mp ha
    rcases settle_cases h.clean hr with rfl | ⟨fill, account, pnl, evidence, hs⟩
    · exact ⟨Or.inl rfl, .same (Or.inl rfl) rfl⟩
    · obtain ⟨extra, heq, hextra⟩ := hs.events
      refine ⟨Or.inl hs.intents, .quiet (Or.inr fun _ => rfl)
        ⟨extra, heq, fun e he => ⟨?_, (hextra e he).2⟩⟩⟩
      rw [(hextra e he).1]
      exact hs.intent

theorem executorResult_growth {result : FastLiveResult} {response : Prepare.ExecutorResponse}
    (h : Owned ledger)
    (ha : Prepare.recordFastLiveResult D ledger result t = .ok (after, response)) :
    Growth ledger after (strip (orEmpty result.intentId)) (resultTypes result) := by
  unfold Prepare.recordFastLiveResult at ha
  cases hstatus : result.status with
  | none =>
    simp only [hstatus] at ha
    exact absurd ha raise_ne_ok
  | some status =>
    simp only [hstatus, bind_eq_ok, require_eq_ok] at ha
    obtain ⟨_, -, _, -, _, ⟨intent, hmem, hid, -⟩, ha⟩ := ha
    have howner : ∃ intent ∈ ledger.intents, intent.intentId = strip (orEmpty result.intentId) :=
      ⟨intent, hmem, hid⟩
    have hstrip := h.clean intent hmem
    rw [hid] at hstrip
    split_ifs at ha with hconsumed
    · unfold Prepare.recordNetworkAttempt at ha
      split at ha
      · cases ha
        exact ⟨Or.inl rfl, .same (Or.inl rfl) rfl⟩
      · simp only [bind_eq_ok, Except.ok.injEq, Prod.mk.injEq] at ha
        obtain ⟨event, hevent, cancelled, hcancelled, rfl, -⟩ := ha
        obtain ⟨hledger, -⟩ := storeOrderEvent_spec hevent
        obtain ⟨hsame, hquiet⟩ := storeCancelEvent_spec hstrip hcancelled
        have htype : (Prepare.attemptType result status).isSubmissionAttempt = true := by
          unfold Prepare.attemptType
          split_ifs <;> rfl
        refine ⟨Or.inl ?_, .written (Prepare.attemptType result status) ?_ ?_ howner ?_⟩
        · rw [hsame, hledger]
        · simp [resultTypes, hconsumed, htype]
        · simp [EventType.isTerminal, htype]
        · exact (EventWrite.of_store hstrip hevent).append hquiet
    · unfold Prepare.recordPreSubmissionClose at ha
      split_ifs at ha with hclosed
      · cases ha
        exact ⟨Or.inl rfl, .same (Or.inl rfl) rfl⟩
      · simp only [bind_eq_ok, Except.ok.injEq, Prod.mk.injEq] at ha
        obtain ⟨_, -, carried, -, event, hevent, stored, hstored, rfl, -⟩ := ha
        obtain ⟨hledger, -⟩ := storeOrderEvent_spec hevent
        obtain ⟨-, hst⟩ := storeReconciliationRun_spec hstored
        refine ⟨Or.inl ?_, .written .closedBeforeSubmission ?_ rfl howner ?_⟩
        · rw [hst, hledger]
        · simp [resultTypes, hconsumed]
        · rw [hst]
          exact EventWrite.of_store hstrip hevent

/-- A result without a consumed attempt that changes the ledger found no submission attempt. -/
theorem executorResult_guard {result : FastLiveResult} {response : Prepare.ExecutorResponse}
    (hconsumed : result.consumed = false)
    (ha : Prepare.recordFastLiveResult D ledger result t = .ok (after, response)) :
    after = ledger ∨
      hasEvent ledger (strip (orEmpty result.intentId)) (·.isSubmissionAttempt) = false := by
  unfold Prepare.recordFastLiveResult at ha
  cases hstatus : result.status with
  | none =>
    simp only [hstatus] at ha
    exact absurd ha raise_ne_ok
  | some status =>
    simp only [hstatus, bind_eq_ok, require_eq_ok, hconsumed, Bool.false_eq_true, if_false] at ha
    obtain ⟨_, -, _, -, _, -, ha⟩ := ha
    unfold Prepare.recordPreSubmissionClose at ha
    split_ifs at ha with hclosed
    · cases ha
      exact Or.inl rfl
    · obtain ⟨_, hnone, -⟩ := bind_eq_ok.mp ha
      rw [require_eq_ok] at hnone
      refine Or.inr ?_
      unfold Prepare.latestAttempt at hnone
      rw [Option.map_eq_none_iff, List.find?_eq_none] at hnone
      unfold hasEvent
      rw [List.any_eq_false]
      exact fun event hevent => hnone event (List.mem_reverse.mpr hevent)

theorem submission_growth {intentId : String} {result : CanaryResult}
    {response : EventType × Option String} (h : Owned ledger)
    (ha : recordCanarySubmission ledger intentId t result = .ok (after, response)) :
    Growth ledger after intentId EventType.isSubmissionAttempt ∧
      after.intents = ledger.intents := by
  simp only [recordCanarySubmission, bind_eq_ok, require_eq_ok, Except.ok.injEq,
    Prod.mk.injEq] at ha
  obtain ⟨_, ⟨intent, hmem, hid, -⟩, event, hevent, cancelled, hcancelled, rfl, -⟩ := ha
  have hstrip := h.clean intent hmem
  rw [hid] at hstrip
  obtain ⟨hledger, -⟩ := storeOrderEvent_spec hevent
  obtain ⟨hsame, hquiet⟩ := storeCanaryCancellation_spec hstrip hcancelled
  have htype : result.eventType.isSubmissionAttempt = true := by
    unfold CanaryResult.eventType
    split_ifs <;> rfl
  have hintents : cancelled.intents = ledger.intents := by rw [hsame, hledger]
  refine ⟨⟨Or.inl hintents, .written result.eventType htype ?_ ⟨intent, hmem, hid⟩ ?_⟩, hintents⟩
  · simp [EventType.isTerminal, htype]
  · exact (EventWrite.of_store hstrip hevent).append hquiet

/-- A reconciliation writes only when it found no submission attempt. -/
theorem reconcile_growth {intentId reason : String} {health : ExecutorHealth}
    {response : ReconcileResponse} (h : Owned ledger)
    (ha : reconcileUnsubmittedCanaryIntent D ledger intentId t reason health
      = .ok (after, response)) :
    Growth ledger after intentId (· == .closedBeforeSubmission) ∧
      after.intents = ledger.intents ∧
      hasEvent ledger intentId (·.isSubmissionAttempt) = false := by
  simp only [reconcileUnsubmittedCanaryIntent, bind_eq_ok, require_eq_ok] at ha
  obtain ⟨_, -, collateral, -, _, ⟨intent, hmem, hid, -⟩, _, hnone, ha⟩ := ha
  have hstrip := h.clean intent hmem
  rw [hid] at hstrip
  split_ifs at ha with hclosed
  · cases ha
    exact ⟨⟨Or.inl rfl, .same (Or.inl rfl) rfl⟩, rfl, hnone⟩
  · simp only [bind_eq_ok, Except.ok.injEq, Prod.mk.injEq] at ha
    obtain ⟨carried, -, event, hevent, stored, hstored, rfl, -⟩ := ha
    obtain ⟨hledger, -⟩ := storeOrderEvent_spec hevent
    obtain ⟨-, hst⟩ := storeReconciliationRun_spec hstored
    have hintents : stored.ledger.intents = ledger.intents := by rw [hst, hledger]
    refine ⟨⟨Or.inl hintents, .written .closedBeforeSubmission rfl rfl ⟨intent, hmem, hid⟩ ?_⟩,
      hintents, hnone⟩
    rw [hst]
    exact EventWrite.of_store hstrip hevent

/-! ## What a preparation of the canary does -/

/-- A preparation leaves the events alone and creates at most one intent, and only when it found
fewer attempts than authorized and no pending intent. -/
structure CanaryPrepared (ledger after : Ledger) (limit : ℤ) : Prop where
  events : after.events = ledger.events
  intents : after.intents = ledger.intents ∨
    ∃ new : IntentRow, after.intents = ledger.intents ++ [new] ∧
      strip new.intentId = new.intentId ∧
      (∀ row ∈ ledger.intents, row.intentId ≠ new.intentId) ∧
      new.payload.policyVersion = canaryPolicyVersion ∧
      submissionAttemptCount ledger < limit ∧ pendingIntentId ledger = none

theorem ensureInitialReconciliation_same {officialOpenOrderCount : ℤ} {collateral : Decimal}
    (h : ensureInitialReconciliation D ledger t officialOpenOrderCount collateral = .ok after) :
    after.intents = ledger.intents ∧ after.events = ledger.events := by
  simp only [ensureInitialReconciliation, bind_eq_ok] at h
  obtain ⟨_, -, _, -, h⟩ := h
  split_ifs at h
  · cases h
    exact ⟨rfl, rfl⟩
  · obtain ⟨stored, hstored, hok⟩ := bind_eq_ok.mp h
    cases hok
    rw [(storeReconciliationRun_spec hstored).2]
    exact ⟨rfl, rfl⟩

theorem prepareCandidate_spec {input : CanaryInput} {order : PaperOrderRow}
    {prediction : Prediction} {response : CanaryResponse}
    (h : prepareCandidate D ledger input order prediction = .ok (after, response)) :
    after.events = ledger.events ∧
      (after.intents = ledger.intents ∨
        ∃ new : IntentRow, after.intents = ledger.intents ++ [new] ∧
          strip new.intentId = new.intentId ∧
          (∀ row ∈ ledger.intents, row.intentId ≠ new.intentId) ∧
          new.payload.policyVersion = canaryPolicyVersion) := by
  simp only [prepareCandidate, bind_eq_ok] at h
  obtain ⟨request, -, _, -, _, -, _, -, account, -, context, -, decision, -, decided, hdecided, h⟩ := h
  have hledger := storeRiskDecision_spec hdecided
  have hsame : decided.ledger.events = ledger.events ∧ decided.ledger.intents = ledger.intents := by
    rw [hledger]
    exact ⟨rfl, rfl⟩
  split_ifs at h
  · cases h
    exact ⟨hsame.1, Or.inl hsame.2⟩
  · cases h
    exact ⟨hsame.1, Or.inl hsame.2⟩
  · obtain ⟨stored, hstored, hok⟩ := bind_eq_ok.mp h
    cases hok
    obtain ⟨hstore, hintents⟩ := storeOrderIntent_spec hstored
    refine ⟨by rw [hstore]; exact hsame.1, ?_⟩
    rw [hsame.2] at hintents
    refine hintents.imp id ?_
    rintro ⟨new, heq, -, hversion, ⟨payload, hid⟩, -, -, hfresh, -⟩
    refine ⟨new, heq, ?_, hfresh, hversion.trans (by decide)⟩
    rw [hid]
    exact D.strip_intentId payload

theorem prepare_spec {input : CanaryInput} {response : CanaryResponse}
    (h : prepareNextCanary D ledger input = .ok (after, response)) :
    CanaryPrepared ledger after input.authorizedSubmissionAttemptLimit := by
  simp only [prepareNextCanary, bind_eq_ok] at h
  obtain ⟨_, -, _, -, middle, hmiddle, h⟩ := h
  obtain ⟨hintents, hevents⟩ := ensureInitialReconciliation_same hmiddle
  have hcount : submissionAttemptCount middle = submissionAttemptCount ledger := by
    simp only [submissionAttemptCount, eventCount, hintents, hevents]
  have hpending : pendingIntentId middle = pendingIntentId ledger := by
    unfold pendingIntentId terminalEvent
    rw [hintents, hevents]
  split_ifs at h with hlimit haccepted
  · cases h
    exact ⟨hevents, Or.inl hintents⟩
  · cases h
    exact ⟨hevents, Or.inl hintents⟩
  split at h
  · cases h
    exact ⟨hevents, Or.inl hintents⟩
  next hnone =>
  split at h
  · cases h
    exact ⟨hevents, Or.inl hintents⟩
  · obtain ⟨hsame, hgrown⟩ := prepareCandidate_spec h
    refine ⟨hsame.trans hevents, ?_⟩
    rw [hintents] at hgrown
    refine hgrown.imp id ?_
    rintro ⟨new, heq, hstrip, hfresh, hversion⟩
    refine ⟨new, heq, hstrip, hfresh, hversion, ?_, hpending.symm.trans hnone⟩
    rw [← hcount]
    exact not_le.mp hlimit

/-- **What an operation does to intents and terminal events.** -/
theorem canary_growth {op : CanaryOp} (h : Owned ledger)
    (ha : applyCanary D ledger op = .ok after) : Growth ledger after (subject op) (writable op) := by
  cases op with
  | fastLive op => exact fastLive_growth h ha
  | executorResult result t =>
    obtain ⟨response, hr⟩ := map_fst_eq_ok.mp ha
    exact executorResult_growth h hr
  | prepare input =>
    obtain ⟨response, hr⟩ := map_fst_eq_ok.mp ha
    have hs := prepare_spec hr
    refine ⟨?_, .same (Or.inr fun _ => rfl) hs.events⟩
    exact hs.intents.imp id fun ⟨new, heq, hstrip, hfresh, _⟩ => ⟨new, heq, hstrip, hfresh⟩
  | submission intentId t result =>
    obtain ⟨response, hr⟩ := map_fst_eq_ok.mp ha
    exact (submission_growth h hr).1
  | reconcile intentId t reason health =>
    obtain ⟨response, hr⟩ := map_fst_eq_ok.mp ha
    exact (reconcile_growth h hr).1

theorem owned_exec (op : CanaryOp) (h : Owned ledger) : Owned (execCanary D ledger op) := by
  rcases execCanary_cases D ledger op with heq | ha
  · rwa [heq]
  · exact (canary_growth h ha).owned h

end Operations

end BpEngine.Canary
