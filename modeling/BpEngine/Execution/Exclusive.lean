import BpEngine.Execution.CanaryRun
import BpEngine.FastLive.Redelivery

/-!
# Closed or submitted, not both

Whether an intent can have both a closed event and an event of a submission attempt.

* `reconcile_unsubmitted_canary_intent` and the close of an executor result look for an attempt
  first; `record_canary_submission`, the results with an attempt, and `record_fast_live_result`
  look for nothing (`competing`, `guarded`).
* `exclusive_iff` is the exact condition on a run: an operation that writes a terminal event finds
  none of the other sort.
* A submission recorded for an intent that was closed gives it both (`not_exclusive`).
-/

namespace BpEngine.Canary

open BpEngine.Execution BpEngine.FastLive BpEngine.LiveReadiness

/-- No intent has both a closed event and an event of a submission attempt. -/
def Exclusive (ledger : Ledger) : Prop :=
  ∀ intentId, ¬ (hasEvent ledger intentId (· == .closedBeforeSubmission) = true ∧
    hasEvent ledger intentId EventType.isSubmissionAttempt = true)

/-- The types that a result must find no event of. -/
def resultCompeting (result : FastLiveResult) : EventType → Bool :=
  if result.consumed then (· == .closedBeforeSubmission) else EventType.isSubmissionAttempt

/-- The types that exclude the terminal event an operation writes. -/
def competing : CanaryOp → EventType → Bool
  | .fastLive (.result result _) => resultCompeting result
  | .executorResult result _ => resultCompeting result
  | .submission _ _ _ => (· == .closedBeforeSubmission)
  | .reconcile _ _ _ _ => EventType.isSubmissionAttempt
  | _ => fun _ => false

/-- The operations that look for the competing events themselves. -/
def guarded : CanaryOp → Bool
  | .executorResult result _ => !result.consumed
  | .reconcile _ _ _ _ => true
  | _ => false

/-- An operation that does not look for competing events finds none, or changes nothing. -/
def WritesAlone (D : Digests) (ledger : Ledger) (op : CanaryOp) : Prop :=
  guarded op = true ∨ execCanary D ledger op = ledger ∨
    hasEvent ledger (subject op) (competing op) = false

instance (D : Digests) (ledger : Ledger) (op : CanaryOp) : Decidable (WritesAlone D ledger op) := by
  unfold WritesAlone; infer_instance

theorem exclusive_empty : Exclusive {} := by
  rintro intentId ⟨hclosed, -⟩
  cases hclosed

/-! ## One operation -/

theorem closed_terminal (type : EventType) (h : (type == .closedBeforeSubmission) = true) :
    type.isTerminal = true := by
  rw [beq_iff_eq] at h
  rw [h]
  rfl

theorem attempt_terminal (type : EventType) (h : type.isSubmissionAttempt = true) :
    type.isTerminal = true := by
  simp [EventType.isTerminal, h]

/-- An operation writes attempts and competes with closes, or the other way round. -/
theorem writable_cases (op : CanaryOp) :
    (writable op = EventType.isSubmissionAttempt ∧ competing op = (· == .closedBeforeSubmission)) ∨
    (writable op = (· == .closedBeforeSubmission) ∧ competing op = EventType.isSubmissionAttempt) ∨
    (writable op = (fun _ => false) ∧ competing op = (fun _ => false)) := by
  have hresult : ∀ result : FastLiveResult,
      (resultTypes result = EventType.isSubmissionAttempt ∧
        resultCompeting result = (· == .closedBeforeSubmission)) ∨
      (resultTypes result = (· == .closedBeforeSubmission) ∧
        resultCompeting result = EventType.isSubmissionAttempt) := by
    intro result
    unfold resultTypes resultCompeting
    split_ifs
    · exact Or.inl ⟨rfl, rfl⟩
    · exact Or.inr ⟨rfl, rfl⟩
  cases op with
  | fastLive op =>
    cases op with
    | result result t => exact (hresult result).imp id Or.inl
    | prepare input => exact Or.inr (Or.inr ⟨rfl, rfl⟩)
    | official result official t => exact Or.inr (Or.inr ⟨rfl, rfl⟩)
    | settle evaluations intentId t => exact Or.inr (Or.inr ⟨rfl, rfl⟩)
  | executorResult result t => exact (hresult result).imp id Or.inl
  | prepare input => exact Or.inr (Or.inr ⟨rfl, rfl⟩)
  | submission intentId t result => exact Or.inl ⟨rfl, rfl⟩
  | reconcile intentId t reason health => exact Or.inr (Or.inl ⟨rfl, rfl⟩)

/-- The operations with a check find no competing event, or change nothing. -/
theorem alone_of_guarded {D : Digests} {ledger : Ledger} {op : CanaryOp} (hO : Owned ledger)
    (h : guarded op = true) :
    execCanary D ledger op = ledger ∨ hasEvent ledger (subject op) (competing op) = false := by
  rcases execCanary_cases D ledger op with hsame | hok
  · exact Or.inl hsame
  cases op with
  | fastLive op => cases h
  | prepare input => cases h
  | submission intentId t result => cases h
  | executorResult result t =>
    obtain ⟨response, hr⟩ := map_fst_eq_ok.mp hok
    have hconsumed : result.consumed = false := by simpa [guarded] using h
    refine (executorResult_guard hconsumed hr).imp id fun hnone => ?_
    simp only [subject, competing, resultCompeting, hconsumed, Bool.false_eq_true, if_false]
    exact hnone
  | reconcile intentId t reason health =>
    obtain ⟨response, hr⟩ := map_fst_eq_ok.mp hok
    exact Or.inr (reconcile_growth hO hr).2.2

theorem writesAlone_iff {D : Digests} {ledger : Ledger} {op : CanaryOp} (hO : Owned ledger) :
    WritesAlone D ledger op ↔
      execCanary D ledger op = ledger ∨ hasEvent ledger (subject op) (competing op) = false := by
  constructor
  · rintro (h | h)
    · exact alone_of_guarded hO h
    · exact h
  · exact Or.inr

/-- A written attempt keeps the events exclusive exactly when there was no close. -/
theorem exclusive_attempt_iff {before after : Ledger} {intentId : String} {type : EventType}
    (hw : EventWrite before.events after.events intentId type)
    (htype : type.isSubmissionAttempt = true) (h : Exclusive before) :
    Exclusive after ↔ hasEvent before intentId (· == .closedBeforeSubmission) = false := by
  have hclosed := hasEvent_write_other hw closed_terminal (by cases type <;> first | rfl | cases htype)
  constructor
  · intro hafter
    by_contra hsome
    rw [Bool.not_eq_false, ← hclosed] at hsome
    exact hafter intentId ⟨hsome, hasEvent_write_self hw htype⟩
  · rintro hnone other ⟨hc, ha⟩
    rw [hclosed] at hc
    by_cases hid : other = intentId
    · rw [hid, hnone] at hc
      cases hc
    · rw [hasEvent_write_ne hw hid] at ha
      exact h other ⟨hc, ha⟩

/-- A written close keeps the events exclusive exactly when there was no attempt. -/
theorem exclusive_close_iff {before after : Ledger} {intentId : String}
    (hw : EventWrite before.events after.events intentId .closedBeforeSubmission)
    (h : Exclusive before) :
    Exclusive after ↔ hasEvent before intentId EventType.isSubmissionAttempt = false := by
  have hattempt := hasEvent_write_other hw attempt_terminal rfl
  constructor
  · intro hafter
    by_contra hsome
    rw [Bool.not_eq_false, ← hattempt] at hsome
    exact hafter intentId ⟨hasEvent_write_self hw rfl, hsome⟩
  · rintro hnone other ⟨hc, ha⟩
    rw [hattempt] at ha
    by_cases hid : other = intentId
    · rw [hid, hnone] at ha
      cases ha
    · rw [hasEvent_write_ne hw hid] at hc
      exact h other ⟨hc, ha⟩

/-- **One operation keeps the events exclusive exactly when it writes alone.** -/
theorem exclusive_exec_iff {D : Digests} {ledger : Ledger} {op : CanaryOp} (hO : Owned ledger)
    (h : Exclusive ledger) : Exclusive (execCanary D ledger op) ↔ WritesAlone D ledger op := by
  rw [writesAlone_iff hO]
  by_cases hsame : execCanary D ledger op = ledger
  · simp only [hsame, true_or, iff_true]
    exact h
  have hok := (execCanary_cases D ledger op).resolve_left hsame
  rw [or_iff_right hsame]
  cases (canary_growth hO hok).events with
  | quiet idle appended =>
    have hcompeting : competing op = fun _ => false := by
      have hidle := idle.resolve_left hsame
      rcases writable_cases op with ⟨hw, -⟩ | ⟨hw, -⟩ | ⟨-, hc⟩
      · have hacc := hidle .accepted
        rw [hw] at hacc
        cases hacc
      · have hcls := hidle .closedBeforeSubmission
        rw [hw] at hcls
        cases hcls
      · exact hc
    have hnone : hasEvent ledger (subject op) (fun _ => false) = false := by simp [hasEvent]
    rw [hcompeting, hnone]
    refine iff_of_true (fun intentId hboth => h intentId ?_) rfl
    rwa [hasEvent_quiet closed_terminal appended, hasEvent_quiet attempt_terminal appended] at hboth
  | written type hasType terminal owner write =>
    rcases writable_cases op with ⟨hw, hc⟩ | ⟨hw, hc⟩ | ⟨hw, -⟩
    · rw [hw] at hasType
      rw [hc]
      exact exclusive_attempt_iff write hasType h
    · rw [hw, beq_iff_eq] at hasType
      rw [hasType] at write
      rw [hc]
      exact exclusive_close_iff write h
    · rw [hw] at hasType
      cases hasType

/-! ## The run -/

/-- **Every ledger of a run is exclusive exactly when every operation of the run writes alone.** -/
theorem exclusive_iff (D : Digests) (ops : List CanaryOp) :
    Machine.Along (execCanary D) (fun ledger op => Exclusive (execCanary D ledger op)) {} ops ↔
      Machine.Along (execCanary D) (WritesAlone D) {} ops :=
  Machine.along_iff (execCanary D) (fun _ op hO => owned_exec op hO)
    (fun _ _ hO h => exclusive_exec_iff hO h) .empty exclusive_empty ops

/-! ## A late submission -/

/-- The paper order of the sample prediction. -/
def samplePaperOrder (predictionId : String) : PaperOrderRow where
  paperOrderId := "paper-" ++ predictionId
  predictionId
  predictionSemanticSha256 := (samplePrediction predictionId).semanticSha256
  conditionId := "condition"
  tokenId := "token-up"
  selectedSide := "up"
  requestedShares := ⟨10, 0⟩
  targetNotionalUsd := ⟨5, 0⟩
  submittedAt := 0
  arrivalAt := 250000
  expiresAt := 2000000
  limitPrice := ⟨5, -1⟩
  executionVersion := .paperExecutionV3FrozenV1
  executionConfigSha256 := "c0c0c0c0c0c0c0c0c0c0c0c0c0c0c0c0c0c0c0c0c0c0c0c0c0c0c0c0c0c0c0c0"
  createdAt := 0

/-- The arguments of a preparation of the prediction's canary in healthy conditions. -/
def sampleCanaryInput (predictionId : String) (observedAt : Timestamp) : CanaryInput where
  activatedAt := 0
  observedAt
  interlock := ⟨true, []⟩
  apiHealthy := true
  officialOpenOrderCount := 0
  collateralBalanceUsd := ⟨100, 0⟩
  paperOrders := [samplePaperOrder predictionId]
  predictions := [samplePrediction predictionId]
  selectedLiquidityUsd := some ⟨100, 0⟩

/-- An executor that has not submitted anything and cannot. -/
def sampleHealth : ExecutorHealth where
  status := "ok"
  geoblock := some ⟨some false, "ZA"⟩
  account := some ⟨0, ⟨100, 0⟩, some true⟩
  killSwitchEngaged := some true
  activationValid := some false
  submissionReady := some false
  liveOrderSubmitted := some false

/-- A rejected submission. -/
def sampleRejection : CanaryResult where
  accepted := false
  status := "rejected"
  code := ""
  message := ""
  externalOrderId := ""
  geoblock := none
  cancellation := none

/-- The canary of prediction `a` is prepared, closed, and its submission is reported after that. -/
def sampleLateSubmission : List CanaryOp :=
  [.prepare (sampleCanaryInput "a" 1),
    .reconcile "live-intent-a" 2 "operator closed the canary" sampleHealth,
    .submission "live-intent-a" 3 sampleRejection]

/-- **The submission of a closed canary is recorded**: the intent then has both events. -/
theorem not_exclusive :
    ¬ ∀ (D : Digests) (ops : List CanaryOp), Exclusive (canaryLedgerAfter D ops) := by
  intro hall
  have hboth : hasEvent (canaryLedgerAfter sampleDigests sampleLateSubmission) "live-intent-a"
      (· == .closedBeforeSubmission) = true ∧
    hasEvent (canaryLedgerAfter sampleDigests sampleLateSubmission) "live-intent-a"
      EventType.isSubmissionAttempt = true := by decide +kernel
  exact hall sampleDigests sampleLateSubmission "live-intent-a" hboth

end BpEngine.Canary
