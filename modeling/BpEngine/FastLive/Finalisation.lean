import BpEngine.FastLive.Redelivery

/-!
# Finalising a preview again

What repeated preparations for one preview do, in any run of the live ledger.

* `intentsOf` are the intents of a prediction; `FinalizedOnce` is the law: at most one intent, and no
  call for the preview raises `LiveOrderIntentConflict`.
* `PassesRisk` is a call that passes the pending gate, the checks of its candidate and the risk
  rules; `FinalizesFresh` is the condition: such a call finds no earlier intent of the prediction.
* `predictions_nodup`: at most one intent for each prediction, in every run.
* `prepare_conflict`: a conflict is raised only by a call that passes the risk rules while an
  earlier intent of the prediction is in the ledger.
-/

namespace BpEngine.FastLive

open BpEngine.Execution BpEngine.LiveReadiness BpEngine.Table

/-! ## The law -/

/-- The intents of a prediction. -/
def intentsOf (ledger : Ledger) (predictionId : String) : List IntentRow :=
  ledger.intents.filter (·.payload.predictionId = predictionId)

/-- The operation is a preparation for the preview. -/
def finalizes (preview : Preview) : LedgerOp → Bool
  | .prepare input => input.preview == some preview
  | _ => false

/-- The operation raises `LiveOrderIntentConflict`. -/
def conflicts (D : Digests) (ledger : Ledger) (op : LedgerOp) : Bool :=
  raises .liveOrderIntentConflict (apply D ledger op)

/-- The preparations of a run for the preview create at most one intent, and none of them raises
`LiveOrderIntentConflict`. -/
def FinalizedOnce (D : Digests) (ops : List LedgerOp) (preview : Preview) : Prop :=
  (intentsOf (ledgerAfter D ops) (strip preview.predictionId)).length ≤ 1 ∧
    Machine.Along (exec D)
      (fun ledger op => finalizes preview op = true → conflicts D ledger op = false) {} ops

instance (D : Digests) (ops : List LedgerOp) (preview : Preview) :
    Decidable (FinalizedOnce D ops preview) := inferInstanceAs (Decidable (_ ∧ _))

/-! ## The condition -/

/-- The call passes the pending gate, the checks of its candidate and the risk rules: it is about to
write an intent on the risk decision `decided`. -/
structure PassesRisk (D : Digests) (ledger : Ledger) (input : PrepareInput) (start : Ledger)
    (policy : LiveRiskPolicy) (candidate : Candidate) (decided : StoreResult RiskDecisionRow)
    (feeRate : Decimal) : Prop where
  policy_eq : continuousFastLivePolicy input.maxConsecutiveLosses = .ok policy
  start_eq : startingLedger D ledger input = .ok start
  gate : unresolvedPendingIntentId start input.observedAt = none
  candidate_eq : chooseCandidate D start input = .ok (.inr candidate)
  target : Decimal.Same candidate.request.targetNotionalUsd canaryTargetNotionalUsd
  ceiling : candidate.request.targetNotionalUsd ≤ policy.maxTradeSizeUsd
  source : sourceRequestMatches candidate.prediction candidate.request = true
  decision : ∃ account interlock decision,
    accountSnapshot start input.observedAt = .ok account ∧
      decideRisk input policy candidate account = .ok (interlock, decision) ∧
      decision.eligible = true ∧
      storeDecision D start input policy candidate account interlock decision = .ok decided
  armWindow : canaryMinPrepareArmWindowSeconds ≤
    Timestamp.seconds (candidate.prediction.marketEndAt - input.observedAt)
  fee : candidate.prediction.feeRate = some feeRate ∧ 0 ≤ feeRate ∧ feeRate ≤ 1

/-- The content of the intent a call writes. -/
def intentContent (D : Digests) (input : PrepareInput) (policy : LiveRiskPolicy)
    (candidate : Candidate) (decisionId : String) (feeRate : Decimal) : IntentPayload :=
  { predictionId := strip candidate.request.predictionId
    policyVersion := strip policy.policyVersion
    requestId := strip (D.requestId candidate.request)
    riskDecisionId := strip decisionId
    tokenId := strip candidate.request.tokenId
    side := "BUY"
    size := candidate.request.requestedShares
    limitPrice := candidate.request.limitPrice
    preSubmitAt := input.observedAt
    evidence :=
      { phase := fastLivePhase
        predictionSemanticSha256 := candidate.request.predictionSemanticSha256
        conditionId := candidate.request.conditionId
        selectedSide := candidate.request.selectedSide
        executionVersion := candidate.request.executionVersion
        executionConfigSha256 := candidate.request.executionConfigSha256
        paperOrderId := candidate.paperOrderId
        requestSha256 := D.requestSha256 candidate.request
        modeledFeeRate := feeRate
        fastLive := true
        finalizedFromPreview := input.preview.isSome } }

/-- A call for the preview that passes the risk rules finds no earlier intent of its prediction,
other than one with the very same content. -/
def FinalizesFresh (D : Digests) (preview : Preview) (ledger : Ledger) (op : LedgerOp) : Prop :=
  ∀ input, op = .prepare input → input.preview = some preview →
    ∀ start policy candidate decided feeRate,
      PassesRisk D ledger input start policy candidate decided feeRate →
      ∀ row ∈ ledger.intents,
        row.payload.predictionId = strip candidate.request.predictionId →
          row.payload = intentContent D input policy candidate decided.record.decisionId feeRate

/-! ## One intent for each prediction -/

theorem PrepareStep.predictions_nodup {D : Digests} {before after middle : Ledger}
    {t : Timestamp} (hwf : WellFormed before)
    (h : (before.intents.map (·.payload.predictionId)).Nodup)
    (hs : PrepareStep D before after t middle) :
    (after.intents.map (·.payload.predictionId)).Nodup := by
  rcases hs.intents with heq | ⟨new, heq, hnew⟩
  · rwa [heq, hs.middle_intents]
  · have hkey := hnew.naturalKey
    rw [heq, hs.middle_intents] at *
    rw [List.map_append, List.nodup_append]
    refine ⟨h, by simp, fun a ha b hb hab => ?_⟩
    obtain ⟨row, hrow, rfl⟩ := List.mem_map.mp ha
    rw [List.map_cons, List.map_nil, List.mem_singleton] at hb
    refine hkey row hrow ⟨hab.trans hb, ?_⟩
    rw [(hwf.intent row hrow).2.2, hnew.policyVersion]

/-- **At most one intent for each prediction**, in every run. -/
theorem predictions_nodup (D : Digests) (ops : List LedgerOp) :
    ((ledgerAfter D ops).intents.map (·.payload.predictionId)).Nodup := by
  refine (Machine.run_invariant' (exec D) (J := fun ledger => WellFormed ledger ∧
    (ledger.intents.map (·.payload.predictionId)).Nodup) ?_ ⟨.empty, List.nodup_nil⟩ ops).2
  rintro ledger op ⟨hwf, hnodup⟩
  refine ⟨wellFormed_exec op hwf, ?_⟩
  have hclean : ∀ intent ∈ ledger.intents, strip intent.intentId = intent.intentId :=
    fun intent hmem => (hwf.intent intent hmem).2.1
  rcases exec_cases D ledger op with heq | ha
  · rwa [heq]
  generalize exec D ledger op = after at ha ⊢
  cases op with
  | prepare input =>
    obtain ⟨response, hr⟩ := map_fst_eq_ok.mp ha
    obtain ⟨middle, hs⟩ := prepare_cases hr
    exact hs.predictions_nodup hwf hnodup
  | result result t =>
    obtain ⟨response, hr⟩ := map_fst_eq_ok.mp ha
    rcases result_cases hclean hr with ⟨rfl, -⟩ | ⟨-, intentId, type, count, evidence, hs⟩
    · exact hnodup
    · rwa [hs.intents]
  | official result official t =>
    obtain ⟨response, hr⟩ := map_fst_eq_ok.mp ha
    obtain ⟨carriedFrom, account, hs⟩ := official_cases hr
    rwa [hs.intents]
  | settle evaluations intentId t =>
    obtain ⟨response, hr⟩ := map_fst_eq_ok.mp ha
    rcases settle_cases hclean hr with rfl | ⟨fill, account, pnl, evidence, hs⟩
    · exact hnodup
    · rwa [hs.intents]

theorem intentsOf_length_le (D : Digests) (ops : List LedgerOp) (predictionId : String) :
    (intentsOf (ledgerAfter D ops) predictionId).length ≤ 1 := by
  have hnodup := predictions_nodup D ops
  generalize (ledgerAfter D ops) = ledger at hnodup ⊢
  have hcount := List.nodup_iff_count_le_one.mp hnodup predictionId
  unfold intentsOf
  rw [List.count_eq_countP, List.countP_map, List.countP_eq_length_filter] at hcount
  refine le_trans (le_of_eq ?_) hcount
  congr 1

/-! ## Where a conflict comes from -/

section Conflict

variable {D : Digests} {ledger after : Ledger} {input : PrepareInput} {policy : LiveRiskPolicy}
  {candidate : Candidate}

/-- A write by key raises its conflict only against a row with the key and other content. -/
theorem raises_existingOrInsert {ρ κ : Type} [DecidableEq κ] {cls : PyClass} {table : List ρ}
    {hasKey : ρ → Bool} {content : ρ → κ} {new : ρ} {conflict : Raised}
    (h : raises cls (existingOrInsert table hasKey content new conflict) = true) :
    conflict.cls = cls ∧ ∃ row ∈ table, hasKey row = true ∧ content row ≠ content new := by
  unfold existingOrInsert at h
  split at h
  · next row hfind =>
    split_ifs at h with hcontent
    · cases h
    · exact ⟨by simpa using h, row, List.mem_of_find?_eq_some hfind, List.find?_some hfind, hcontent⟩
  · cases h

theorem raises_text {value field : String} :
    raises .liveOrderIntentConflict (LiveReadiness.text value field) = false := by
  unfold LiveReadiness.text
  split_ifs <;> rfl

theorem raises_create {exposure pnl : Decimal} {losses critical : ℤ} {last : Option Timestamp} :
    raises .liveOrderIntentConflict (LiveAccountSnapshot.create exposure pnl losses last critical) =
      false := by
  unfold LiveAccountSnapshot.create
  split_ifs <;> rfl

theorem raises_accountSnapshot {t : Timestamp} :
    raises .liveOrderIntentConflict (accountSnapshot ledger t) = false := by
  rw [Bool.eq_false_iff]
  intro h
  simp only [accountSnapshot, raises_bind, raises_create, Bool.false_eq_true, and_false,
    exists_false, or_false] at h
  unfold baseAccountSnapshot at h
  dsimp only at h
  split at h
  · exact absurd h (by simp [raises_create])
  · exact absurd h (by simp [raises_create])

theorem raises_storeReconciliationRun {t : Timestamp} {unresolved critical : ℤ}
    {evidence : ReconciliationEvidence} : raises .liveOrderIntentConflict
      (storeReconciliationRun D ledger t unresolved critical evidence) = false := by
  rw [Bool.eq_false_iff]
  intro h
  simp only [storeReconciliationRun, raises_bind, raises_require, raises_ok, reduceCtorEq,
    and_false, Bool.false_eq_true, exists_false, or_false, false_or, require_eq_ok] at h
  obtain ⟨_, -, _, -, h⟩ := h
  cases (raises_existingOrInsert h).1

theorem raises_startingLedger :
    raises .liveOrderIntentConflict (startingLedger D ledger input) = false := by
  unfold startingLedger ensureInitialReconciliation
  split_ifs
  · rfl
  all_goals
    rw [Bool.eq_false_iff]
    intro h
    simp [raises_bind, raises_storeReconciliationRun] at h

theorem raises_requestFromRaw {raw : RawRequest} :
    raises .liveOrderIntentConflict (requestFromRaw raw) = false := by
  unfold requestFromRaw
  split <;> rfl

/-- The candidate of a preview raises no conflict. -/
theorem raises_chooseCandidate {preview : Preview} (hpreview : input.preview = some preview) :
    raises .liveOrderIntentConflict (chooseCandidate D ledger input) = false := by
  rw [Bool.eq_false_iff]
  intro h
  unfold chooseCandidate candidateFromPreview requestFromPreview at h
  rw [hpreview] at h
  simp only [raises_bind] at h
  rcases h with h | ⟨request, -, h⟩
  · simp only [raises_require, reduceCtorEq, and_false, false_or] at h
    obtain ⟨_, -, _, -, h⟩ := h
    split at h
    · cases h
    · simp [raises_bind, raises_requestFromRaw] at h
  · split at h
    · cases h
    · simp [raises_bind] at h

theorem raises_decideRisk {account : LiveAccountSnapshot} :
    raises .liveOrderIntentConflict (decideRisk input policy candidate account) = false := by
  rw [Bool.eq_false_iff]
  intro h
  simp only [decideRisk, InterlockDecision.create, LiveRiskContext.create, evaluateLiveRisk,
    normalizedReasons, raises_bind, raises_require, raises_ok, reduceCtorEq, and_false,
    Bool.false_eq_true, exists_false, or_false, false_or] at h
  obtain ⟨_, -, _, -, h⟩ := h
  split_ifs at h <;> cases h

theorem raises_storeDecision {account : LiveAccountSnapshot} {interlock : InterlockDecision}
    {decision : LiveRiskDecision} : raises .liveOrderIntentConflict
      (storeDecision D ledger input policy candidate account interlock decision) = false := by
  rw [Bool.eq_false_iff]
  intro h
  simp only [storeDecision, storeRiskDecision, raises_bind, raises_text, raises_ok,
    Bool.false_eq_true, and_false, exists_false, or_false, false_or] at h
  obtain ⟨_, -, h⟩ := h
  rcases h with h | ⟨_, -, _, -, h⟩
  · unfold sha at h
    split_ifs at h <;> cases h
  · cases (raises_existingOrInsert h).1

/-- The write of an intent conflicts only with an intent of the prediction with other content. -/
theorem createIntent_conflict {decisionId : String}
    (h : raises .liveOrderIntentConflict
      (createIntent D ledger input policy candidate decisionId) = true) :
    ∃ feeRate, (candidate.prediction.feeRate = some feeRate ∧ 0 ≤ feeRate ∧ feeRate ≤ 1) ∧
      ∃ row ∈ ledger.intents, row.payload.predictionId = strip candidate.request.predictionId ∧
        row.payload ≠ intentContent D input policy candidate decisionId feeRate := by
  unfold createIntent at h
  cases hfee : candidate.prediction.feeRate with
  | none =>
    simp only [hfee] at h
    cases h
  | some feeRate =>
    simp only [hfee, raises_bind, raises_require, require_eq_ok, raises_ok, reduceCtorEq,
      and_false, Bool.false_eq_true, exists_false, or_false, false_or] at h
    obtain ⟨_, hrange, h⟩ := h
    refine ⟨feeRate, ⟨rfl, hrange⟩, ?_⟩
    simp only [storeOrderIntent, raises_bind, raises_text, raises_require, raises_ok, reduceCtorEq,
      and_false, Bool.false_eq_true, exists_false, or_false, false_or] at h
    obtain ⟨prediction, hprediction, version, hversion', request, hrequest, risk, hrisk, token,
      htoken, _, -, _, -, _, -, _, -, h⟩ := h
    obtain ⟨-, row, hrow, hkey, hcontent⟩ := raises_existingOrInsert h
    have htext : ∀ {value field result : String}, LiveReadiness.text value field = .ok result →
        result = strip value := by
      intro value field result hok
      unfold LiveReadiness.text at hok
      split_ifs at hok
      · exact absurd hok raise_ne_ok
      · exact (Except.ok.inj hok).symm
    simp only [Bool.and_eq_true, beq_iff_eq] at hkey
    refine ⟨row, hrow, hkey.1.trans (htext hprediction), fun heq => hcontent ?_⟩
    rw [heq, htext hprediction, htext hversion', htext hrequest, htext hrisk, htext htoken]
    rfl

/-- **A conflict of a call for a preview comes from an earlier intent of its prediction**: the call
passes the gate and the risk rules, and the earlier intent has other content. -/
theorem prepare_conflict {preview : Preview} (hpreview : input.preview = some preview)
    (h : raises .liveOrderIntentConflict (prepareFastLiveCandidate D ledger input) = true) :
    ∃ start policy candidate decided feeRate,
      PassesRisk D ledger input start policy candidate decided feeRate ∧
        ∃ row ∈ start.intents, row.payload.predictionId = strip candidate.request.predictionId ∧
          row.payload ≠
            intentContent D input policy candidate decided.record.decisionId feeRate := by
  unfold prepareFastLiveCandidate at h
  rcases raises_bind.mp h with h | ⟨policy, hpolicy, h⟩
  · exact absurd h (by simp [continuousFastLivePolicy, raises_bind])
  rcases raises_bind.mp h with h | ⟨start, hstart, h⟩
  · rw [raises_startingLedger] at h
    cases h
  split at h
  · cases h
  next hgate =>
  rcases raises_bind.mp h with h | ⟨choice, hchoice, h⟩
  · rw [raises_chooseCandidate hpreview] at h
    cases h
  cases choice with
  | inl response => cases h
  | inr candidate =>
    simp only [finalizeCandidate, raises_bind, raises_require, require_eq_ok, reduceCtorEq,
      and_false, false_or, raises_accountSnapshot, raises_decideRisk, raises_storeDecision,
      Bool.false_eq_true] at h
    obtain ⟨_, htarget, _, hceiling, _, hsource, account, haccount, ⟨interlock, decision⟩,
      hdecision, decided, hdecided, h⟩ := h
    split_ifs at h with heligible harm
    · cases h
    · cases h
    have hsame : decided.ledger.intents = start.intents := by
      rw [storeRiskDecision_spec hdecided]
    obtain ⟨feeRate, hfee, row, hrow, hid, hcontent⟩ := createIntent_conflict h
    refine ⟨start, policy, candidate, decided, feeRate, ?_, row, hsame ▸ hrow, hid, hcontent⟩
    exact ⟨hpolicy, hstart, hgate, hchoice, htarget, hceiling, hsource,
      ⟨account, interlock, decision, haccount, hdecision, Bool.not_eq_false _ ▸ heligible, hdecided⟩,
      not_not.mp harm, hfee⟩

end Conflict

/-! ## The run -/

/-- A preview of the sample prediction: ten shares at half a dollar. -/
def samplePreview : Preview where
  status := "prepared"
  riskStatus := "pending"
  request := some
    { predictionId := "a"
      predictionSemanticSha256 := (samplePrediction "a").semanticSha256
      conditionId := "condition"
      tokenId := "token-up"
      selectedSide := "up"
      action := "BUY"
      requestedShares := ⟨10, 0⟩
      targetNotionalUsd := ⟨5, 0⟩
      submittedAt := 0
      arrivalAt := 250000
      expiresAt := 2250000
      limitPrice := ⟨5, -1⟩
      executionVersion := .paperExecutionV3FrozenV1
      executionConfigSha256 := sampleDigests.executionConfigSha256 frozenV3PaperConfig }
  predictionId := "a"
  paperOrderId := "paper-a"
  requestId := "live-request-a"
  marketEndAt := Timestamp.ofSeconds 300

/-- A preparation of the preview in healthy conditions. -/
def sampleFinalize (observedAt : Timestamp) : LedgerOp :=
  .prepare { samplePrepareInput "a" observedAt with preview := some samplePreview }

/-- The readable identifiers, with the instant in the id of a risk decision. -/
def timedDigests : Digests :=
  { sampleDigests with
    riskDecisionId := fun payload =>
      "live-risk-" ++ payload.predictionId ++ "-" ++ toString payload.createdAt }

/-- A result of the sample prediction that was blocked before any submission. -/
def sampleBlocked : FastLiveResult :=
  { sampleResult "a" .preSubmissionBlocked with
    externalOrderId := some none
    networkSubmissionAttemptConsumed := some false
    realOrderSubmitted := some false }

end BpEngine.FastLive
