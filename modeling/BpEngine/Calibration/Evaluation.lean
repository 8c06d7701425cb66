import BpEngine.Calibration.Dataset

/-!
# The calibration evaluation

`calibration/evaluation.py` with what it calls: the market-price predictor of
`backtesting/predictor.py` and `modeling/baselines.py`, the rows at an offset of
`backtesting/selection.py`, the choice of a calibrator and of an edge policy.

* `foldPredictorFit` and `predictProba` are the market-price baseline with its training prior.
* `selectCalibrator` and `selectValidationEdgePolicy` are the two choices.
* `evaluatePartition` is `_evaluate_partition`.
The logistic regression is a parameter.  Of the metrics those are kept that a choice reads.
-/

namespace BpEngine.Calibration

open BpEngine.Features BpEngine.Prospective

variable {F : Type} (A : Arithmetic F)

/-- `sum(values)`. -/
def total (values : List F) : F := values.foldl A.add A.zero

/-- `min(max(value, 1e-6), 1.0 - 1e-6)`. -/
def clip (value : F) : F := A.min' (A.max' value A.epsilon) (A.sub A.one A.epsilon)

/-! ## Baselines -/

/-- `equal_market_weights`. -/
def equalMarketWeights (rows : List (SupervisedRow F)) : List F :=
  rows.map fun row => A.div A.one (A.ofInt ((rows.map (·.conditionId)).count row.conditionId))

/-- `PriorBaseline.fit`. -/
def priorFit (rows : List (SupervisedRow F)) (weights : List F) : Outcome F := do
  require (rows.length = weights.length ∧ rows ≠ []) .valueError
    "rows and weights must have equal non-zero length"
  let whole := total A weights
  require (A.isFinite whole = true ∧ A.lt A.zero whole = true) .valueError
    "weights must have positive finite sum"
  .ok (A.div (total A (rows.zipWith (fun row weight => A.mul (A.ofInt row.target) weight) weights))
    whole)

/-- `MarketPriceBaseline`: the checked fallback probability. -/
def marketPriceBaseline (fallback : F) : Outcome F := do
  require (A.isProbability fallback = true) .valueError "fallback_probability must be in [0, 1]"
  .ok fallback

/-- `MarketPriceBaseline.predict_proba`, of one row. -/
def predictRow (fallback : F) (row : SupervisedRow F) : Outcome F :=
  match row.predictors.get "pm_up_price" with
  | none => .ok (clip A fallback)
  | some value => do
    require (A.isFinite value = true) .valueError "pm_up_price must be finite when present"
    .ok (clip A value)

/-- `MarketPriceBaseline.predict_proba`. -/
def predictProba (fallback : F) (rows : List (SupervisedRow F)) : Outcome (List F) :=
  rows.mapM (predictRow A fallback)

/-- `MarketPriceFoldPredictor.fit`: the fallback probability. -/
def foldPredictorFit (rows : List (SupervisedRow F)) : Outcome F := do
  let prior ← priorFit A rows (equalMarketWeights A rows)
  marketPriceBaseline A prior

/-! ## Partitions -/

/-- `_rows_for_conditions`. -/
def rowsForConditions (rows : List (SupervisedRow F)) (conditionIds : List String) :
    List (SupervisedRow F) :=
  rows.filter fun row => row.conditionId ∈ conditionIds

/-- `rows_at_offset`. -/
def rowsAtOffset (rows : List (SupervisedRow F)) (offsetSeconds : ℤ) :
    Outcome (List (SupervisedRow F)) := do
  require (0 < offsetSeconds) .valueError "offset_seconds must be positive"
  let selected := rows.filter fun row => row.featureOffsetSeconds = offsetSeconds
  require ((selected.map (·.conditionId)).Nodup) .valueError
    ("duplicate condition at offset " ++ toString offsetSeconds)
  .ok selected

/-- The rows of a partition at an offset, in the order of its markets. -/
structure PartitionRows (F : Type) where
  rows : List (SupervisedRow F)
  missing : List String
  coverage : F

/-- `_selected_partition_rows`. -/
def selectedPartitionRows (rows : List (SupervisedRow F)) (conditionIds : List String)
    (offsetSeconds : ℤ) : Outcome (PartitionRows F) := do
  let selected ← rowsAtOffset rows offsetSeconds
  let ordered := conditionIds.filterMap fun conditionId =>
    selected.find? fun row => row.conditionId = conditionId
  .ok
    { rows := ordered
      missing := conditionIds.filter fun conditionId =>
        conditionId ∉ selected.map (·.conditionId)
      coverage := if conditionIds = [] then A.zero
        else A.div (A.ofInt ordered.length) (A.ofInt conditionIds.length) }

/-- `_market_probability_observed`. -/
def marketProbabilityObserved (row : SupervisedRow F) : Bool :=
  observedMarketProbability A row.predictors

/-- `_observed_inputs`. -/
def observedInputs (rows : List (SupervisedRow F)) (probabilities : List F) :
    Outcome (List (SupervisedRow F) × List F) := do
  require (rows.length = probabilities.length) .valueError
    "rows and probabilities must have equal length"
  .ok ((rows.zip probabilities).filter fun pair => marketProbabilityObserved A pair.1).unzip

/-! ## Metrics -/

/-- `MetricSummary`, as far as a choice reads it. -/
structure MetricSummary (F : Type) where
  logLoss : F
  brierScore : F

/-- `math.log(min(max(value, 1e-15), 1 - 1e-15))`. -/
def clippedLog (value : F) : Outcome F :=
  let epsilon := A.ofDecimal ⟨1, -15⟩
  match A.log (A.min' (A.max' value epsilon) (A.sub A.one epsilon)) with
  | none => raise .valueError "math domain error"
  | some result => .ok result

/-- A term of the log loss. -/
def logLossTerm (entry : SupervisedRow F × F × F) : Outcome F := do
  let (row, probability, weight) := entry
  let up ← clippedLog A probability
  let down ← clippedLog A (A.sub A.one probability)
  .ok (A.mul weight (A.add (A.mul (A.ofInt row.target) up) (A.mul (A.ofInt (1 - row.target)) down)))

/-- A term of the Brier score. -/
def brierTerm (entry : SupervisedRow F × F × F) : F :=
  let difference := A.sub entry.2.1 (A.ofInt entry.1.target)
  A.mul entry.2.2 (A.mul difference difference)

/-- `evaluate_probabilities`. -/
def evaluateProbabilities (rows : List (SupervisedRow F)) (probabilities weights : List F) :
    Outcome (MetricSummary F) := do
  require (rows ≠ []) .valueError "rows must not be empty"
  require (rows.length = probabilities.length ∧ rows.length = weights.length) .valueError
    "rows, probabilities, and weights must have equal length"
  require (weights.all (fun weight => A.isFinite weight && A.lt A.zero weight) = true) .valueError
    "weights must be positive and finite"
  require (probabilities.all A.isProbability = true) .valueError
    "probability must be finite and within [0, 1]"
  let entries := rows.zip (probabilities.zip weights)
  let whole := total A weights
  let terms ← entries.mapM (logLossTerm A)
  .ok ⟨A.div (A.neg (total A terms)) whole, A.div (total A (entries.map (brierTerm A))) whole⟩

/-- `_metric_pair`. -/
def metricPair (rows : List (SupervisedRow F)) (raw calibrated : List F) :
    Outcome (Option (MetricSummary F × MetricSummary F)) := do
  let (observedRows, observedRaw) ← observedInputs A rows raw
  if observedRows = [] then .ok none
  else
    let (_, observedCalibrated) ← observedInputs A rows calibrated
    let weights := equalMarketWeights A observedRows
    let rawMetrics ← evaluateProbabilities A observedRows observedRaw weights
    let calibratedMetrics ← evaluateProbabilities A observedRows observedCalibrated weights
    .ok (some (rawMetrics, calibratedMetrics))

/-! ## The choice of a calibrator -/

/-- `CalibrationCandidate`. -/
structure CalibrationCandidate (F : Type) where
  method : String
  fit : CalibrationFit F
  validationMetrics : MetricSummary F

/-- `CalibrationSelection`. -/
structure CalibrationSelection (F : Type) where
  method : String
  fit : CalibrationFit F
  validationMetrics : MetricSummary F
  candidates : List (CalibrationCandidate F)

/-- `LogisticRegression`: the intercept and the coefficient of a fit of features, targets and
weights. -/
abbrev LogisticRegression (F : Type) := List (F × ℤ × F) → F × F

/-- `_validate_inputs`. -/
def validateInputs (rows : List (SupervisedRow F)) (probabilities : List F) :
    Outcome (List F) := do
  require (rows ≠ []) .valueError "rows must not be empty"
  require (rows.length = probabilities.length) .valueError
    "rows and probabilities must have equal length"
  require (∀ row ∈ rows, row.target = 0 ∨ row.target = 1) .valueError "targets must be binary"
  probabilities.mapM (clipProbability A)

/-- `PlattCalibrator.fit`: the intercept and the coefficient; a `CalibrationRejected` is `none`. -/
def plattFit (regression : LogisticRegression F) (rows : List (SupervisedRow F))
    (probabilities weights : List F) : Outcome (Option (F × F)) := do
  let clipped ← validateInputs A rows probabilities
  require (weights.length = rows.length) .valueError "weights must match rows"
  require (weights.all (fun weight => A.isFinite weight && A.lt A.zero weight) = true) .valueError
    "weights must be positive and finite"
  if ¬ ((rows.map (·.target)).contains 0 = true ∧ (rows.map (·.target)).contains 1 = true) then
    .ok none
  else
    let features ← clipped.mapM (logit A)
    let fitted := regression (features.zip ((rows.map (·.target)).zip weights))
    if ¬ (A.isFinite fitted.1 = true ∧ A.isFinite fitted.2 = true) then .ok none
    else if A.le fitted.2 A.zero = true then .ok none
    else .ok (some fitted)

/-- `select_calibrator`. -/
def selectCalibrator (regression : LogisticRegression F) (trainRows : List (SupervisedRow F))
    (trainProbabilities : List F) (validationRows : List (SupervisedRow F))
    (validationProbabilities : List F) : Outcome (CalibrationSelection F) := do
  let _ ← validateInputs A trainRows trainProbabilities
  let _ ← validateInputs A validationRows validationProbabilities
  let identityFit : CalibrationFit F := ⟨"identity", none, none⟩
  let weights := equalMarketWeights A validationRows
  let identityValidation ← validationProbabilities.mapM (identityPredict A)
  let identityMetrics ← evaluateProbabilities A validationRows identityValidation weights
  let identity : CalibrationCandidate F := ⟨"identity", identityFit, identityMetrics⟩
  match ← plattFit A regression trainRows trainProbabilities (equalMarketWeights A trainRows) with
  | none => .ok ⟨"identity", identityFit, identityMetrics, [identity]⟩
  | some (intercept, coefficient) =>
    let fit : CalibrationFit F := ⟨"platt", some intercept, some coefficient⟩
    let plattValidation ← validationProbabilities.mapM (plattPredict A intercept coefficient)
    let plattMetrics ← evaluateProbabilities A validationRows plattValidation weights
    let candidates := [identity, ⟨"platt", fit, plattMetrics⟩]
    if A.lt plattMetrics.logLoss identityMetrics.logLoss = true ∧
        A.lt plattMetrics.brierScore identityMetrics.brierScore = true then
      .ok ⟨"platt", fit, plattMetrics, candidates⟩
    else .ok ⟨"identity", identityFit, identityMetrics, candidates⟩

/-! ## The choice of an edge policy -/

/-- `EdgePolicyMetrics`, as far as the choice reads it. -/
structure EdgePolicyMetrics (F : Type) where
  predictionMarkets : ℕ
  executableMarkets : ℕ
  tradeCount : ℕ
  realizedPnlAfterAssumedCosts : F
  meanRealizedPnlAfterAssumedCosts : Option F

/-- What a trade earns after the assumed costs. -/
def assumedCostPnl (config : EdgeConfig F) (target : ℤ) (decision : EdgeDecision F) : F :=
  let payout := if target = decision.predictedTarget then A.one else A.zero
  let gross := A.sub payout (decision.ask.getD A.zero)
  A.sub (A.sub gross decision.fee) config.slippageBuffer

/-- `edge_decision`. -/
def edgeDecision (row : SupervisedRow F) (probabilityUp : F) (config : EdgeConfig F)
    (minEdge : Option F) : Outcome (EdgeDecision F) :=
  edgeDecisionFromPredictors A row.predictors probabilityUp config minEdge

/-- `evaluate_edge_policy`. -/
def evaluateEdgePolicy (rows : List (SupervisedRow F)) (probabilitiesUp : List F)
    (config : EdgeConfig F) (minEdge : Option F) : Outcome (EdgePolicyMetrics F) := do
  require (rows ≠ []) .valueError "rows must not be empty"
  require (rows.length = probabilitiesUp.length) .valueError
    "rows and probabilities must have equal length"
  let decisions ← (rows.zip probabilitiesUp).mapM fun pair => do
    let decision ← edgeDecision A pair.1 pair.2 config minEdge
    pure (pair.1.target, decision)
  let executable := decisions.filter fun entry => entry.2.executable
  let pnl := (executable.filter fun entry => entry.2.trade).map fun entry =>
    assumedCostPnl A config entry.1 entry.2
  let realized := total A pnl
  .ok
    { predictionMarkets := rows.length
      executableMarkets := executable.length
      tradeCount := pnl.length
      realizedPnlAfterAssumedCosts := realized
      meanRealizedPnlAfterAssumedCosts :=
        if pnl = [] then none else some (A.div realized (A.ofInt pnl.length)) }

/-- `EdgeThresholdCandidate`. -/
structure EdgeThresholdCandidate (F : Type) where
  minEdge : F
  metrics : EdgePolicyMetrics F
  eligible : Bool

/-- `EdgePolicySelection`. -/
structure EdgePolicySelection (F : Type) where
  policy : String
  minEdge : Option F
  validationMetrics : EdgePolicyMetrics F
  candidates : List (EdgeThresholdCandidate F)

/-- One threshold of the grid. -/
def thresholdCandidate (rows : List (SupervisedRow F)) (probabilitiesUp : List F)
    (config : EdgeConfig F) (minEdge : F) : Outcome (EdgeThresholdCandidate F) := do
  let metrics ← evaluateEdgePolicy A rows probabilitiesUp config (some minEdge)
  .ok ⟨minEdge, metrics, config.minValidationTrades ≤ metrics.tradeCount &&
    A.lt A.zero metrics.realizedPnlAfterAssumedCosts &&
    metrics.meanRealizedPnlAfterAssumedCosts.any (A.lt A.zero)⟩

/-- The key of `max` is larger: `(realized, mean, min_edge)`. -/
def largerKey (a b : EdgeThresholdCandidate F) : Bool :=
  let keys (candidate : EdgeThresholdCandidate F) : F × F × F :=
    (candidate.metrics.realizedPnlAfterAssumedCosts,
      candidate.metrics.meanRealizedPnlAfterAssumedCosts.getD A.zero, candidate.minEdge)
  let (a₁, a₂, a₃) := keys a
  let (b₁, b₂, b₃) := keys b
  A.lt b₁ a₁ || (A.same a₁ b₁ && (A.lt b₂ a₂ || (A.same a₂ b₂ && A.lt b₃ a₃)))

/-- `select_validation_edge_policy`. -/
def selectValidationEdgePolicy (rows : List (SupervisedRow F)) (probabilitiesUp : List F)
    (config : EdgeConfig F) : Outcome (EdgePolicySelection F) := do
  let candidates ← config.minEdgeGrid.mapM (thresholdCandidate A rows probabilitiesUp config)
  match candidates.filter (·.eligible) with
  | [] => do
    let metrics ← evaluateEdgePolicy A rows probabilitiesUp config none
    .ok ⟨"no_trade", none, metrics, candidates⟩
  | first :: others =>
    let selected := others.foldl (fun best next => if largerKey A next best then next else best) first
    .ok ⟨"trade_threshold", some selected.minEdge, selected.metrics, candidates⟩

/-! ## A partition -/

/-- `CalibrationEdgePrediction`. -/
structure CalibrationEdgePrediction (F : Type) where
  conditionId : String
  target : ℤ
  rawProbability : F
  calibratedProbability : F
  marketProbabilityObserved : Bool
  edgeDecision : EdgeDecision F

/-- `_EvaluationCore`. -/
structure EvaluationCore (F : Type) where
  selectedRows : List (SupervisedRow F)
  missingConditionIds : List String
  predictionCoverage : F
  observedMarketPriceCount : ℕ
  observedMarketPriceCoverage : F
  calibrationSelection : CalibrationSelection F
  edgePolicySelection : EdgePolicySelection F
  metrics : Option (MetricSummary F × MetricSummary F)
  edgeMetrics : EdgePolicyMetrics F
  predictions : List (CalibrationEdgePrediction F)

/-- The predictor and the two choices. -/
structure Fitted (F : Type) where
  fallback : F
  calibration : CalibrationSelection F
  edgePolicy : EdgePolicySelection F

/-- The partitions of an evaluation. -/
structure SourceSpec where
  membershipSha256 : String
  trainConditionIds : List String
  validationConditionIds : List String
  evaluationConditionIds : List String
  selectedOffsetSeconds : ℤ
deriving DecidableEq

/-- One entry of `_prediction_reports`. -/
def predictionReport (config : EdgeConfig F) (minEdge : Option F)
    (entry : SupervisedRow F × F × F) : Outcome (CalibrationEdgePrediction F) := do
  let (row, raw, calibrated) := entry
  let decision ← edgeDecision A row calibrated config minEdge
  .ok ⟨row.conditionId, row.target, raw, calibrated, marketProbabilityObserved A row, decision⟩

section Partition

variable (regression : LogisticRegression F) (dataset : DatasetSnapshot F) (source : SourceSpec)
  (config : EdgeConfig F)

/-- `_fit_and_select`. -/
def fitAndSelect : Outcome (Fitted F) := do
  let trainAll := rowsForConditions dataset.rows source.trainConditionIds
  let validationAll := rowsForConditions dataset.rows source.validationConditionIds
  let train ← selectedPartitionRows A trainAll source.trainConditionIds source.selectedOffsetSeconds
  let validation ← selectedPartitionRows A validationAll source.validationConditionIds
    source.selectedOffsetSeconds
  require (train.missing = []) .valueError
    ("calibration train partition is missing the frozen offset for " ++ train.missing.headD "")
  require (validation.missing = []) .valueError
    ("calibration validation partition is missing the frozen offset for " ++
      validation.missing.headD "")
  let fallback ← foldPredictorFit A trainAll
  let rawTrain ← predictProba A fallback train.rows
  let rawValidation ← predictProba A fallback validation.rows
  let (observedTrainRows, observedTrain) ← observedInputs A train.rows rawTrain
  let (observedValidationRows, observedValidation) ← observedInputs A validation.rows rawValidation
  require (observedTrainRows ≠ []) .valueError
    "calibration train partition has no observed market probabilities"
  require (observedValidationRows ≠ []) .valueError
    "calibration validation partition has no observed market probabilities"
  let calibration ← selectCalibrator A regression observedTrainRows observedTrain
    observedValidationRows observedValidation
  let calibratedValidation ← rawValidation.mapM (applyCalibration A calibration.fit)
  let edgePolicy ← selectValidationEdgePolicy A validation.rows calibratedValidation config
  .ok ⟨fallback, calibration, edgePolicy⟩

/-- `_evaluate_partition`. -/
def evaluatePartition : Outcome (EvaluationCore F) := do
  let fitted ← fitAndSelect A regression dataset source config
  let evaluationAll := rowsForConditions dataset.rows source.evaluationConditionIds
  let evaluation ← selectedPartitionRows A evaluationAll source.evaluationConditionIds
    source.selectedOffsetSeconds
  require (evaluation.rows ≠ []) .valueError "evaluation partition has no rows at the frozen offset"
  let raw ← predictProba A fitted.fallback evaluation.rows
  let calibrated ← raw.mapM (applyCalibration A fitted.calibration.fit)
  let metrics ← metricPair A evaluation.rows raw calibrated
  let edgeMetrics ←
    evaluateEdgePolicy A evaluation.rows calibrated config fitted.edgePolicy.minEdge
  let predictions ← (evaluation.rows.zip (raw.zip calibrated)).mapM
    (predictionReport A config fitted.edgePolicy.minEdge)
  let observed := evaluation.rows.countP (marketProbabilityObserved A)
  .ok
    { selectedRows := evaluation.rows
      missingConditionIds := evaluation.missing
      predictionCoverage := evaluation.coverage
      observedMarketPriceCount := observed
      observedMarketPriceCoverage :=
        A.div (A.ofInt observed) (A.ofInt evaluation.rows.length)
      calibrationSelection := fitted.calibration
      edgePolicySelection := fitted.edgePolicy
      metrics
      edgeMetrics
      predictions }

end Partition

/-! ## The final report -/

/-- `CalibrationEdgeFinalReport`; its evaluation core is kept as it is. -/
structure CalibrationEdgeFinalReport (F : Type) where
  membershipSha256 : String
  trainConditionIds : List String
  validationConditionIds : List String
  holdoutConditionIds : List String
  selectedOffsetSeconds : ℤ
  calibrationSelectionFitPartition : String := "train"
  calibrationSelectionPartition : String := "validation"
  edgeSelectionPartition : String := "validation"
  evaluationPartition : String := "holdout"
  expectedHoldoutMarkets : ℕ
  core : EvaluationCore F

/-- `evaluate_final_source`. -/
def evaluateFinalSource (regression : LogisticRegression F) (dataset : DatasetSnapshot F)
    (source : SourceSpec) (config : EdgeConfig F) : Outcome (CalibrationEdgeFinalReport F) := do
  let core ← evaluatePartition A regression dataset source config
  .ok
    { membershipSha256 := source.membershipSha256
      trainConditionIds := source.trainConditionIds
      validationConditionIds := source.validationConditionIds
      holdoutConditionIds := core.selectedRows.map (·.conditionId)
      selectedOffsetSeconds := source.selectedOffsetSeconds
      expectedHoldoutMarkets := source.evaluationConditionIds.length
      core }

end BpEngine.Calibration
