import BpEngine.FastLive.LedgerInvariant

/-!
# Recording a result again

What a second `record_fast_live_result` with the same result does, whatever happened to the ledger
in between.

* `RecordedAgain` is the law a redelivery should follow: the second call returns and leaves the
  events, the reconciliation rows and every account snapshot as they are.
* `recordedAgain_iff`: it holds exactly for a consumed result that says `already_terminal`.  Every
  other result writes a row that carries the account over from the latest row, and such a row is
  new (`carried_row_is_new`), or raises.
* the `sample` definitions are a small market with one prediction per intent.
-/

namespace BpEngine.FastLive

open BpEngine.Execution BpEngine.LiveReadiness BpEngine.Table

/-- Recording `result` at `t` returns and leaves what the ledger says unchanged. -/
def RecordedAgain (D : Digests) (ledger : Ledger) (result : FastLiveResult) (t : Timestamp) :
    Prop :=
  ∃ after response, recordFastLiveResult D ledger result t = .ok (after, response) ∧
    after.events = ledger.events ∧ after.reconciliations = ledger.reconciliations ∧
    ∀ observedAt, accountSnapshot after observedAt = accountSnapshot ledger observedAt

/-- The result says that its attempt had ended before. -/
def SaysAlreadyTerminal (result : FastLiveResult) : Prop :=
  result.consumed = true ∧ result.status = some .alreadyTerminal

instance (result : FastLiveResult) : Decidable (SaysAlreadyTerminal result) := by
  unfold SaysAlreadyTerminal; infer_instance

/-- A recorded result that writes at all appends a row. -/
theorem ResultStep.row_appended {D : Digests} {before after : Ledger} {result : FastLiveResult}
    {t : Timestamp} {intentId : String} {type : EventType} {count : ℤ}
    {evidence : ReconciliationEvidence} (h : RowsWellFormed before.reconciliations)
    (hs : ResultStep D before after result t intentId type count evidence) :
    after.reconciliations = before.reconciliations ++
      [⟨D.reconciliationId ⟨t, count, count, evidence⟩, ⟨t, count, count, evidence⟩⟩] := by
  obtain ⟨carriedFrom, account, hcarry, -, hfrom⟩ := hs.carried
  rcases hs.rows.cases with ⟨-, row, hmem, hcontent⟩ | ⟨hafter, -⟩
  · have hnew := carried_row_is_new h hcarry hmem (by rw [hcontent])
    exact absurd (by rw [hcontent]; exact hfrom) hnew
  · exact hafter

/-- The call that records an already terminal result only reads. -/
theorem record_alreadyTerminal {D : Digests} {ledger : Ledger} {result : FastLiveResult}
    {t : Timestamp} {intent : IntentRow} (hterminal : SaysAlreadyTerminal result)
    (hid : orEmpty result.intentId ≠ "")
    (hfind : findIntent ledger (orEmpty result.intentId) = .ok intent)
    (hbind : validateBinding intent result = .ok ()) :
    recordFastLiveResult D ledger result t =
      .ok (ledger, ⟨true, orEmpty result.intentId, none, none, none, true⟩) := by
  obtain ⟨hconsumed, hstatus⟩ := hterminal
  simp [recordFastLiveResult, hstatus, require, hid, hfind, hbind, hconsumed, attemptEvent]

/-- A result that was recorded is bound to an intent of the ledger. -/
theorem record_bound {D : Digests} {ledger after : Ledger} {result : FastLiveResult}
    {t : Timestamp} {response : RecordResponse}
    (h : recordFastLiveResult D ledger result t = .ok (after, response)) :
    orEmpty result.intentId ≠ "" ∧ ∃ intent,
      findIntent ledger (orEmpty result.intentId) = .ok intent ∧
        validateBinding intent result = .ok () := by
  unfold recordFastLiveResult at h
  cases hstatus : result.status with
  | none =>
    simp only [hstatus] at h
    exact absurd h raise_ne_ok
  | some status =>
    simp only [hstatus, bind_eq_ok, require_eq_ok] at h
    obtain ⟨_, hid, intent, hfind, _, hbind, -⟩ := h
    exact ⟨hid, intent, hfind, hbind⟩

/-- **Recording a result again is idempotent exactly for an already terminal one**, in every
reachable ledger, after any operations in between and at any instant. -/
theorem recordedAgain_iff (D : Digests) (ops between : List LedgerOp) (result : FastLiveResult)
    (t t' : Timestamp) (after : Ledger) (response : RecordResponse)
    (h : recordFastLiveResult D (ledgerAfter D ops) result t = .ok (after, response)) :
    RecordedAgain D (Machine.run (exec D) after between) result t' ↔
      SaysAlreadyTerminal result := by
  have hwf : WellFormed after := by
    have hstep := wellFormed_exec (D := D) (.result result t) (wellFormed_ledgerAfter D ops)
    have hexec : exec D (ledgerAfter D ops) (.result result t) = after := by
      simp [exec, apply, h, Except.map]
    rwa [hexec] at hstep
  have hwf' : WellFormed (Machine.run (exec D) after between) :=
    Machine.run_invariant' (exec D) (fun _ op hw => wellFormed_exec op hw) hwf between
  have hclean : ∀ intent ∈ (Machine.run (exec D) after between).intents,
      strip intent.intentId = intent.intentId :=
    fun intent hmem => (hwf'.intent intent hmem).2.1
  constructor
  · rintro ⟨last, response', hlast, -, hrows, -⟩
    rcases result_cases hclean hlast with ⟨-, hterminal⟩ | ⟨-, _, _, _, _, hs⟩
    · exact hterminal
    · rw [hs.row_appended hwf'.rows] at hrows
      simp at hrows
  · intro hterminal
    obtain ⟨hid, intent, hfind, hbind⟩ := record_bound h
    have hsame : findIntent after (orEmpty result.intentId) = .ok intent := by
      have hrun := findIntent_run (D := D) (wellFormed_ledgerAfter D ops) [.result result t] hfind
      simpa [exec, apply, h, Except.map] using hrun
    have hlast := record_alreadyTerminal (D := D) (t := t') hterminal hid
      (findIntent_run (D := D) hwf between hsame) hbind
    exact ⟨_, _, hlast, rfl, rfl, fun _ => rfl⟩

/-! ## A small market -/

/-- Readable identifiers in place of digests. -/
def sampleDigests : Digests where
  paperOrderId predictionId _ := "paper-" ++ predictionId
  executionConfigSha256 _ := "c0c0c0c0c0c0c0c0c0c0c0c0c0c0c0c0c0c0c0c0c0c0c0c0c0c0c0c0c0c0c0c0"
  requestId request := "live-request-" ++ request.predictionId
  requestSha256 request := "request-" ++ request.predictionId
  riskDecisionId payload := "live-risk-" ++ payload.predictionId
  intentId payload :=
    if payload.predictionId = "a" then "live-intent-a"
    else if payload.predictionId = "b" then "live-intent-b" else "live-intent-c"
  reconciliationId payload := "live-reconciliation-" ++ toString payload.observedAt
  intentId_ne_empty payload := by split_ifs <;> decide
  strip_intentId payload := by split_ifs <;> decide

/-- A tradable prediction: half a dollar a share, no fee, five minutes to go. -/
def samplePrediction (predictionId : String) : Prediction where
  predictionId
  semanticSha256 := "ab01ab01ab01ab01ab01ab01ab01ab01ab01ab01ab01ab01ab01ab01ab01ab01"
  predictionVersion := "v3-frozen-paper-v1"
  conditionId := "condition"
  upTokenId := "token-up"
  downTokenId := "token-down"
  trade := true
  executable := true
  selectedSide := "up"
  selectedAsk := some ⟨5, -1⟩
  selectedSpread := some ⟨1, -2⟩
  slippageBuffer := 0
  feeRate := some 0
  calibratedProbability := ⟨7, -1⟩
  costAdjustedEdge := some ⟨1, -1⟩
  recordedAt := 0
  scheduledAt := 0
  marketEndAt := Timestamp.ofSeconds 300

/-- The arguments of a preparation of the prediction in healthy conditions. -/
def samplePrepareInput (predictionId : String) (observedAt : Timestamp) : PrepareInput where
  activatedAt := 0
  observedAt
  preview := none
  interlock := ⟨true, []⟩
  apiHealthy := true
  officialOpenOrderCount := 0
  collateralBalanceUsd := ⟨100, 0⟩
  initialReconciliationVerified := false
  maxConsecutiveLosses := 3
  predictions := [samplePrediction predictionId]
  availablePaperCash := .ok ⟨100, 0⟩
  selectedLiquidityUsd := some ⟨100, 0⟩
  sourceTimeHealth := ⟨true, none, none, none, none, none⟩

/-- A preparation of the prediction in healthy conditions. -/
def samplePrepare (predictionId : String) (observedAt : Timestamp) : LedgerOp :=
  .prepare (samplePrepareInput predictionId observedAt)

/-- A result of the prediction's attempt with the given status. -/
def sampleResult (predictionId : String) (status : ResultStatus) : FastLiveResult :=
  { status := some status
    intentId := some ("live-intent-" ++ predictionId)
    predictionId := some predictionId
    paperOrderId := some ("paper-" ++ predictionId)
    requestSha256 := some ("request-" ++ predictionId)
    externalOrderId := some (some ("order-" ++ predictionId))
    networkSubmissionAttemptConsumed := some true
    realOrderSubmitted := some true }

/-- An official state with a complete fill of ten shares. -/
def sampleFill : OfficialState where
  officialReconciliationComplete := true
  fillState := some .confirmedFill
  openOrderCount := some 0
  confirmedFilledShares := some ⟨10, 0⟩
  confirmedFilledNotionalUsd := some ⟨5, 0⟩

/-- An official state without any fill. -/
def sampleZeroFill : OfficialState where
  officialReconciliationComplete := true
  fillState := some .zeroFillObserved
  openOrderCount := some 0
  confirmedFilledShares := some 0
  confirmedFilledNotionalUsd := some 0

/-- The ledger of one prepared intent. -/
def sampleLedger : Ledger := ledgerAfter sampleDigests [samplePrepare "a" 1]

/-- The rejected result of the sample market, recorded at 2, does not leave the ledger unchanged
when it is recorded again at 3. -/
theorem recordedAgain_sample :
    ¬ RecordedAgain sampleDigests
      (Machine.run (exec sampleDigests)
        (exec sampleDigests sampleLedger (.result (sampleResult "a" .rejected) 2)) [])
      (sampleResult "a" .rejected) 3 := by
  rw [recordedAgain_iff sampleDigests [samplePrepare "a" 1] [] (sampleResult "a" .rejected) 2 3 _
    ⟨false, "live-intent-a", some .rejected, some "order-a", some "live-reconciliation-2", false⟩
    (by decide +kernel)]
  decide

/-- **Recording a result again is not idempotent**: an accepted result recorded at 2 cannot be
recorded again at 3. -/
theorem not_recordedAgain :
    ¬ ∀ (D : Digests) (ops between : List LedgerOp) (result : FastLiveResult) (t t' : Timestamp)
      (after : Ledger) (response : RecordResponse),
      recordFastLiveResult D (ledgerAfter D ops) result t = .ok (after, response) →
        RecordedAgain D (Machine.run (exec D) after between) result t' := by
  intro hall
  have hfirst : (recordFastLiveResult sampleDigests sampleLedger (sampleResult "a" .accepted)
      2).toOption.isSome = true := by decide +kernel
  have hagain : ((recordFastLiveResult sampleDigests sampleLedger (sampleResult "a" .accepted)
      2).bind fun first =>
        recordFastLiveResult sampleDigests first.1 (sampleResult "a" .accepted) 3).toOption.isSome
      = false := by decide +kernel
  cases hr : recordFastLiveResult sampleDigests sampleLedger (sampleResult "a" .accepted) 2 with
  | error e => simp [hr, Except.toOption] at hfirst
  | ok first =>
    obtain ⟨last, response, hlast, -⟩ := hall sampleDigests [samplePrepare "a" 1] [] _ 2 3 first.1
      first.2 hr
    rw [Machine.run_nil] at hlast
    simp [hr, Except.bind, hlast, Except.toOption] at hagain

end BpEngine.FastLive
