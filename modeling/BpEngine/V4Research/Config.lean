import BpEngine.Features.Coverage

/-!
# The frozen configuration of V4 research

`v4_research/config.py`: `V4GateBConfig`, what its `__post_init__` checks, and the payload that is
hashed.

* `postInit` are the checks, in their order.
* `Geometry` is what they say about the windows of the folds and of the final split; `geometry` reads it
  off.
* `foldWindows` and `finalWindows` are these windows.
-/

namespace BpEngine.V4Research

open BpEngine.Features BpEngine.Features.Coverage

/-- `V4GateBConfig`.  The bounds of the epoch are instants, the durations microseconds. -/
structure V4GateBConfig (F : Type) where
  researchPlanVersion : String
  datasetVersion : String
  featureVersion : String
  labelVersion : String
  horizonSeconds : ℤ
  featureOffsetsSeconds : List ℤ
  epochStart : Timestamp
  epochEnd : Timestamp
  trainDuration : ℤ
  validationDuration : ℤ
  testDuration : ℤ
  stepDuration : ℤ
  finalHoldoutDuration : ℤ
  embargoMarkets : ℤ
  minTrainMarkets : ℤ
  minValidationMarkets : ℤ
  minTestMarkets : ℤ
  minFinalHoldoutMarkets : ℤ
  ordinaryFoldCount : ℤ
  knownRegimes : List String
  minKnownRegimeMarkets : ℤ
  predictorNames : List String
  shortContextPredictorNames : List String
  forecastCandidates : List String
  primaryValidationMetric : String
  validationTieBreakers : List String
  nonlinearReplacementRule : String
  calibrationCandidates : List String
  calibrationEligibilityRule : String
  offsetCandidatesSeconds : List ℤ
  feeRate : F
  slippageBuffer : F
  minEdgeGrid : List F
  noTradeCandidate : Bool
  maxSelectedBookAgeSeconds : ℤ
  minValidationTradesPerFold : ℤ
  requiredNonNegativeValidationFolds : ℤ
  requirePositiveAggregateValidationPnl : Bool
  reportingSlices : List String
  minReportingSliceMarkets : ℤ
  sideSpecificPolicyAllowed : Bool
  regimeSpecificPolicyAllowed : Bool
  coverageFrontierRequired : Bool
  drawdownReportingRequired : Bool
  losingStreakReportingRequired : Bool
  profitFactorReportingRequired : Bool
  executionAvailabilityReportRequired : Bool

variable {F : Type} (A : CoverageFloats F)

/-! ## The checks -/

/-- The loop that checks fields which must be positive. -/
def requirePositive (fields : List (String × ℤ)) : Outcome Unit :=
  fields.forM fun field =>
    require (¬ field.2 ≤ 0) .valueError (field.1 ++ " must be positive")

/-- The loop that checks fields which must hold names. -/
def requireNames (fields : List (String × List String)) : Outcome Unit :=
  fields.forM fun field => do
    require (field.2 ≠ [] ∧ ∀ value ∈ field.2, strip value ≠ "") .valueError
      (field.1 ++ " must contain non-empty values")
    require field.2.Nodup .valueError (field.1 ++ " must be unique")

/-- The loop that checks texts. -/
def requireTexts (fields : List (String × String)) : Outcome Unit :=
  fields.forM fun field =>
    require (strip field.2 ≠ "") .valueError (field.1 ++ " must be non-empty")

/-- The floats are sorted and unique. -/
def increasing (values : List F) : Bool :=
  (values.zip values.tail).all fun pair => A.lt pair.1 pair.2

namespace V4GateBConfig

variable (config : V4GateBConfig F)

/-- The time of the ordinary folds. -/
def ordinarySpan : ℤ := config.epochEnd - config.epochStart - config.finalHoldoutDuration

/-- What the first fold spans, and every other one. -/
def firstFoldSpan : ℤ := config.trainDuration + config.validationDuration + config.testDuration

/-- The fields of `__post_init__`'s second loop. -/
def counts : List (String × ℤ) :=
  [("min_train_markets", config.minTrainMarkets),
    ("min_validation_markets", config.minValidationMarkets),
    ("min_test_markets", config.minTestMarkets),
    ("min_final_holdout_markets", config.minFinalHoldoutMarkets),
    ("ordinary_fold_count", config.ordinaryFoldCount),
    ("min_known_regime_markets", config.minKnownRegimeMarkets),
    ("max_selected_book_age_seconds", config.maxSelectedBookAgeSeconds),
    ("min_validation_trades_per_fold", config.minValidationTradesPerFold),
    ("required_non_negative_validation_folds", config.requiredNonNegativeValidationFolds),
    ("min_reporting_slice_markets", config.minReportingSliceMarkets)]

/-- The fields of its first loop. -/
def durations : List (String × ℤ) :=
  [("train_duration", config.trainDuration), ("validation_duration", config.validationDuration),
    ("test_duration", config.testDuration), ("step_duration", config.stepDuration),
    ("final_holdout_duration", config.finalHoldoutDuration)]

/-- `__post_init__`, as far as the windows go. -/
def checkGeometry : Outcome Unit := do
  require (config.epochStart < config.epochEnd) .valueError "epoch_end must be after epoch_start"
  require (0 < config.horizonSeconds) .valueError "horizon_seconds must be positive"
  require (config.featureOffsetsSeconds.dedup.insertionSort (· ≤ ·) = config.featureOffsetsSeconds)
    .valueError "feature_offsets_seconds must be sorted and unique"
  require (∀ offset ∈ config.featureOffsetsSeconds, ¬ (offset ≤ 0 ∨ config.horizonSeconds ≤ offset))
    .valueError "feature offsets must be within the market horizon"
  requirePositive config.durations
  require (config.testDuration ≤ config.stepDuration) .valueError
    "step_duration must be at least test_duration"
  require (0 ≤ config.embargoMarkets) .valueError "embargo_markets must be non-negative"
  requirePositive config.counts
  require (config.firstFoldSpan ≤ config.ordinarySpan) .valueError
    "epoch is too short for one ordinary fold"
  require ((config.ordinarySpan - config.firstFoldSpan) / config.stepDuration + 1 =
    config.ordinaryFoldCount) .valueError "ordinary_fold_count does not match frozen geometry"

/-- `__post_init__`, after the windows. -/
def checkRules : Outcome Unit := do
  requireNames
    [("known_regimes", config.knownRegimes), ("predictor_names", config.predictorNames),
      ("short_context_predictor_names", config.shortContextPredictorNames),
      ("forecast_candidates", config.forecastCandidates),
      ("validation_tie_breakers", config.validationTieBreakers),
      ("calibration_candidates", config.calibrationCandidates),
      ("reporting_slices", config.reportingSlices)]
  require (∀ name ∈ config.shortContextPredictorNames, name ∈ config.predictorNames) .valueError
    "short-context predictors must be V4 predictors"
  requireTexts
    [("primary_validation_metric", config.primaryValidationMetric),
      ("nonlinear_replacement_rule", config.nonlinearReplacementRule),
      ("calibration_eligibility_rule", config.calibrationEligibilityRule)]
  require (config.offsetCandidatesSeconds = config.featureOffsetsSeconds) .valueError
    "offset candidates must equal frozen feature offsets"
  require (¬ (A.lt config.feeRate A.zero = true ∨ A.lt config.slippageBuffer A.zero = true))
    .valueError "execution costs must be non-negative"
  require (¬ config.minEdgeGrid.isEmpty = true) .valueError "min_edge_grid must be non-empty"
  require (increasing A config.minEdgeGrid = true) .valueError
    "min_edge_grid must be sorted and unique"
  require (¬ (config.minEdgeGrid.any fun value => A.lt value A.zero) = true) .valueError
    "min_edge_grid must be non-negative"
  require (config.requiredNonNegativeValidationFolds ≤ config.ordinaryFoldCount) .valueError
    "required_non_negative_validation_folds cannot exceed ordinary folds"
  require (config.sideSpecificPolicyAllowed = false) .valueError
    "V4 preregistration forbids side-specific policy tuning"
  require (config.regimeSpecificPolicyAllowed = false) .valueError
    "V4 preregistration forbids regime-specific policy tuning"

/-- `__post_init__`; that the bounds of the epoch have a time zone is their type. -/
def postInit : Outcome Unit := do
  config.checkGeometry
  config.checkRules A

end V4GateBConfig

/-! ## The payload -/

/-- Texts, as a value. -/
def textList (texts : List String) : Value F := .list (texts.map .text)

/-- Integers, as a value. -/
def intList (numbers : List ℤ) : Value F := .list (numbers.map .int)

/-- `v4_gate_b_config_payload`. -/
def configPayload (config : V4GateBConfig F) : Value F :=
  .obj [("research_plan_version", .text config.researchPlanVersion),
    ("dataset_version", .text config.datasetVersion),
    ("feature_version", .text config.featureVersion), ("label_version", .text config.labelVersion),
    ("horizon_seconds", .int config.horizonSeconds),
    ("feature_offsets_seconds", intList config.featureOffsetsSeconds),
    ("epoch_start", .time config.epochStart), ("epoch_end", .time config.epochEnd),
    ("train_duration_seconds", .float (A.totalSeconds config.trainDuration)),
    ("validation_duration_seconds", .float (A.totalSeconds config.validationDuration)),
    ("test_duration_seconds", .float (A.totalSeconds config.testDuration)),
    ("step_duration_seconds", .float (A.totalSeconds config.stepDuration)),
    ("final_holdout_duration_seconds", .float (A.totalSeconds config.finalHoldoutDuration)),
    ("embargo_markets", .int config.embargoMarkets),
    ("min_train_markets", .int config.minTrainMarkets),
    ("min_validation_markets", .int config.minValidationMarkets),
    ("min_test_markets", .int config.minTestMarkets),
    ("min_final_holdout_markets", .int config.minFinalHoldoutMarkets),
    ("ordinary_fold_count", .int config.ordinaryFoldCount),
    ("known_regimes", textList config.knownRegimes),
    ("min_known_regime_markets", .int config.minKnownRegimeMarkets),
    ("predictor_names", textList config.predictorNames),
    ("short_context_predictor_names", textList config.shortContextPredictorNames),
    ("forecast_candidates", textList config.forecastCandidates),
    ("primary_validation_metric", .text config.primaryValidationMetric),
    ("validation_tie_breakers", textList config.validationTieBreakers),
    ("nonlinear_replacement_rule", .text config.nonlinearReplacementRule),
    ("calibration_candidates", textList config.calibrationCandidates),
    ("calibration_eligibility_rule", .text config.calibrationEligibilityRule),
    ("offset_candidates_seconds", intList config.offsetCandidatesSeconds),
    ("fee_rate", .float config.feeRate), ("slippage_buffer", .float config.slippageBuffer),
    ("min_edge_grid", .list (config.minEdgeGrid.map .float)),
    ("no_trade_candidate", .bool config.noTradeCandidate),
    ("max_selected_book_age_seconds", .int config.maxSelectedBookAgeSeconds),
    ("min_validation_trades_per_fold", .int config.minValidationTradesPerFold),
    ("required_non_negative_validation_folds", .int config.requiredNonNegativeValidationFolds),
    ("require_positive_aggregate_validation_pnl", .bool config.requirePositiveAggregateValidationPnl),
    ("reporting_slices", textList config.reportingSlices),
    ("min_reporting_slice_markets", .int config.minReportingSliceMarkets),
    ("side_specific_policy_allowed", .bool config.sideSpecificPolicyAllowed),
    ("regime_specific_policy_allowed", .bool config.regimeSpecificPolicyAllowed),
    ("coverage_frontier_required", .bool config.coverageFrontierRequired),
    ("drawdown_reporting_required", .bool config.drawdownReportingRequired),
    ("losing_streak_reporting_required", .bool config.losingStreakReportingRequired),
    ("profit_factor_reporting_required", .bool config.profitFactorReportingRequired),
    ("execution_availability_report_required", .bool config.executionAvailabilityReportRequired)]

/-! ## The windows -/

/-- Three adjacent windows. -/
structure Windows where
  trainStart : Timestamp
  trainEnd : Timestamp
  validationEnd : Timestamp
  testEnd : Timestamp

namespace V4GateBConfig

variable (config : V4GateBConfig F)

/-- The windows of an ordinary fold. -/
def foldWindows (index : ℕ) : Windows :=
  let trainStart := config.epochStart + index * config.stepDuration
  let trainEnd := trainStart + config.trainDuration
  let validationEnd := trainEnd + config.validationDuration
  ⟨trainStart, trainEnd, validationEnd, validationEnd + config.testDuration⟩

/-- The windows of the final split, of which the last is the holdout. -/
def finalWindows : Windows :=
  let holdoutStart := config.epochEnd - config.finalHoldoutDuration
  let trainEnd := holdoutStart - config.validationDuration
  ⟨trainEnd - config.trainDuration, trainEnd, holdoutStart, config.epochEnd⟩

/-- What the checks say about the windows. -/
structure Geometry : Prop where
  horizon : 0 < config.horizonSeconds
  train : 0 < config.trainDuration
  validation : 0 < config.validationDuration
  test : 0 < config.testDuration
  holdout : 0 < config.finalHoldoutDuration
  step : config.testDuration ≤ config.stepDuration
  embargo : 0 ≤ config.embargoMarkets
  minTrain : 0 < config.minTrainMarkets
  minValidation : 0 < config.minValidationMarkets
  /-- The last fold ends before the holdout. -/
  folds : ∀ index : ℕ, (index : ℤ) < config.ordinaryFoldCount →
    index * config.stepDuration + config.firstFoldSpan ≤ config.ordinarySpan

end V4GateBConfig

theorem requirePositive_eq_ok {fields : List (String × ℤ)} {u : Unit}
    (h : requirePositive fields = .ok u) : ∀ field ∈ fields, 0 < field.2 := by
  intro field hfield
  exact not_le.mp (require_eq_ok.mp (forM_eq_ok.mp h field hfield))

/-- **What a configuration that its constructor accepts says about the windows.** -/
theorem V4GateBConfig.geometry {config : V4GateBConfig F} {u : Unit}
    (h : config.postInit A = .ok u) : config.Geometry := by
  obtain ⟨_, h, -⟩ := bind_eq_ok.mp h
  obtain ⟨_, -, h⟩ := bind_eq_ok.mp h
  obtain ⟨_, hhorizon, h⟩ := bind_eq_ok.mp h
  obtain ⟨_, -, h⟩ := bind_eq_ok.mp h
  obtain ⟨_, -, h⟩ := bind_eq_ok.mp h
  obtain ⟨_, hdurations, h⟩ := bind_eq_ok.mp h
  obtain ⟨_, hstep, h⟩ := bind_eq_ok.mp h
  obtain ⟨_, hembargo, h⟩ := bind_eq_ok.mp h
  obtain ⟨_, hcounts, h⟩ := bind_eq_ok.mp h
  obtain ⟨_, -, h⟩ := bind_eq_ok.mp h
  have hcount := require_eq_ok.mp h
  have hduration := requirePositive_eq_ok hdurations
  have hpositive := requirePositive_eq_ok hcounts
  unfold durations at hduration
  unfold counts at hpositive
  simp only [List.mem_cons, List.not_mem_nil, or_false, forall_eq_or_imp, forall_eq] at hduration hpositive
  obtain ⟨htrain, hvalidation, htest, hstepPos, hholdout⟩ := hduration
  refine ⟨require_eq_ok.mp hhorizon, htrain, hvalidation, htest, hholdout, require_eq_ok.mp hstep,
    require_eq_ok.mp hembargo, hpositive.1, hpositive.2.1, ?_⟩
  intro index hindex
  -- the fold count is one more than the steps that fit
  have hle : (index : ℤ) ≤ (config.ordinarySpan - config.firstFoldSpan) / config.stepDuration := by
    omega
  have hfit := (Int.le_ediv_iff_mul_le hstepPos).mp hle
  linarith

end BpEngine.V4Research
