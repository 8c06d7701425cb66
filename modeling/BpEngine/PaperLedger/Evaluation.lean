import BpEngine.PaperLedger.Records

/-!
# Labels and evaluations

How the official outcome of a market becomes the evaluation of its predictions
(`labels/repository.py`, `live_prediction/evaluation.py`, and the evaluation ledger of
`live_prediction/repository.py`).

* `storeLabel` is `MarketLabelRepository.store`: one label for each market and label version.
* `appendAvailableEvaluations` evaluates every prediction whose label is there, once.
* `Scoring` is the floating-point part of an evaluation: its scores, and how stored ones are compared.
The digest of an evaluation and the time a label was generated at are left out.
-/

namespace BpEngine.PaperLedger

open BpEngine.Execution

/-! ## Records -/

/-- `OFFICIAL_LABEL_VERSION`. -/
def officialLabelVersion : String := "official-outcome-v1"

/-- The columns of `live_predictions` that an evaluation reads besides the ones execution does. -/
structure LivePrediction extends Prediction where
  slug : String
  horizonSeconds : ℤ
  marketStartAt : Timestamp
  sourceLabelVersion : String
  predictedTarget : ℤ
  rawProbability : Decimal
  fee : Decimal
deriving DecidableEq

/-- `MarketLabel`. -/
structure MarketLabel where
  conditionId : String
  gammaMarketId : String
  slug : String
  horizonSeconds : ℤ
  marketStartAt : Timestamp
  marketEndAt : Timestamp
  officialOutcome : String
  startReference : Option Decimal
  endReference : Option Decimal
  resolutionSource : String
  rulesHash : String
  labelSource : String
  labelVersion : String
  sourceSnapshotSha256 : String
  sourceObservedAt : Timestamp
deriving DecidableEq

/-- The numbers an evaluation keeps. -/
structure Scores where
  rawLogLoss : Decimal
  rawBrier : Decimal
  calibratedLogLoss : Decimal
  calibratedBrier : Decimal
  hypotheticalGrossPnl : Option Decimal
  hypotheticalAssumedCostPnl : Option Decimal
deriving DecidableEq

/-- `LivePredictionEvaluation`, and a row of `live_prediction_evaluations`. -/
structure Evaluation extends Scores where
  predictionId : String
  labelVersion : String
  officialOutcome : String
  officialTarget : ℤ
  labelSource : String
  labelSourceSnapshotSha256 : String
  labelSourceObservedAt : Timestamp
  evaluatedAt : Timestamp
  correct : Bool
deriving DecidableEq

/-- The floating-point arithmetic of evaluations. -/
structure Scoring where
  /-- The scores of a prediction that turned out to have the target. -/
  score : LivePrediction → ℤ → Outcome Scores
  /-- `math.isclose` of a stored number and an expected one. -/
  close : Decimal → Decimal → Bool

/-! ## Labels -/

/-- `MarketLabelRepository._validate`. -/
def validateLabel (label : MarketLabel) : Outcome Unit := do
  require (0 < label.horizonSeconds) .valueError "horizon_seconds must be positive"
  require (label.marketStartAt < label.marketEndAt) .valueError
    "market_end_at must be after market_start_at"
  require (label.marketEndAt ≤ label.sourceObservedAt) .valueError
    "source_observed_at must be at or after market_end_at"
  require (label.officialOutcome = "Up" ∨ label.officialOutcome = "Down") .valueError
    "official_outcome must be Up or Down"

/-- Equality of `_normalize_decimal`. -/
def sameReference : Option Decimal → Option Decimal → Bool
  | none, none => true
  | some a, some b => Decimal.Same a b
  | _, _ => false

/-- Equality of `_semantic_values`. -/
def MarketLabel.same (label other : MarketLabel) : Bool :=
  other.gammaMarketId = label.gammaMarketId && other.slug = label.slug &&
    other.horizonSeconds = label.horizonSeconds && other.marketStartAt = label.marketStartAt &&
    other.marketEndAt = label.marketEndAt && other.officialOutcome = label.officialOutcome &&
    sameReference other.startReference label.startReference &&
    sameReference other.endReference label.endReference &&
    other.resolutionSource = label.resolutionSource && other.rulesHash = label.rulesHash &&
    other.labelSource = label.labelSource &&
    other.sourceSnapshotSha256 = label.sourceSnapshotSha256 &&
    other.sourceObservedAt = label.sourceObservedAt

/-- The label of a market, by a label version. -/
def findLabel (labels : List MarketLabel) (conditionId labelVersion : String) :
    Option MarketLabel :=
  labels.find? fun label => label.conditionId = conditionId && label.labelVersion = labelVersion

/-- The row the database makes of a label: the references are `Numeric(24, 12)` columns. -/
def MarketLabel.written (label : MarketLabel) : MarketLabel :=
  { label with
    startReference := label.startReference.map (·.roundToScale 12)
    endReference := label.endReference.map (·.roundToScale 12) }

/-- `MarketLabelRepository.store`. -/
def storeLabel (labels : List MarketLabel) (label : MarketLabel) : Outcome (List MarketLabel) := do
  validateLabel label
  match findLabel labels label.conditionId label.labelVersion with
  | none => .ok (labels ++ [label.written])
  | some row =>
    require (label.same row = true) .labelConflict
      ("conflicting label for condition=" ++ label.conditionId ++ " version=" ++ label.labelVersion)
    .ok labels

/-! ## One evaluation -/

/-- `_ledger_sha256`: the digest without its `sha256:`. -/
def ledgerSha256 (value name : String) : Outcome String := do
  let digest :=
    if value.startsWith "sha256:" then String.ofList (value.toList.drop 7) else value
  require (isHex64 digest = true) .evaluationIntegrityError
    (name ++ " must be a SHA-256 digest with optional sha256: prefix")
  .ok digest

/-- `_validate_identity`. -/
def validateIdentity (prediction : LivePrediction) (label : MarketLabel) : Outcome Unit := do
  require (prediction.conditionId = label.conditionId) .evaluationIntegrityError
    "condition_id mismatch between prediction and label"
  require (prediction.slug = label.slug) .evaluationIntegrityError
    "slug mismatch between prediction and label"
  require (prediction.horizonSeconds = label.horizonSeconds) .evaluationIntegrityError
    "horizon_seconds mismatch between prediction and label"
  require (prediction.sourceLabelVersion = label.labelVersion) .evaluationIntegrityError
    "label_version mismatch between prediction and label"
  require (label.labelVersion = officialLabelVersion) .evaluationIntegrityError
    ("label_version must be " ++ officialLabelVersion)
  require (prediction.marketStartAt = label.marketStartAt) .evaluationIntegrityError
    "market_start_at mismatch between prediction and label"
  require (prediction.marketEndAt = label.marketEndAt) .evaluationIntegrityError
    "market_end_at mismatch between prediction and label"
  require (prediction.marketEndAt ≤ label.sourceObservedAt) .evaluationIntegrityError
    "label source_observed_at must be at or after market_end"
  require (prediction.recordedAt < label.sourceObservedAt) .evaluationIntegrityError
    "prediction recorded_at must be before label source_observed_at"
  require (prediction.recordedAt < prediction.marketEndAt) .evaluationIntegrityError
    "prediction recorded_at must be before market_end"

/-- `evaluate_prediction`. -/
def evaluatePrediction (scoring : Scoring) (prediction : LivePrediction) (label : MarketLabel)
    (evaluatedAt : Timestamp) : Outcome Evaluation := do
  validateIdentity prediction label
  let labelSourceSnapshotSha256 ←
    ledgerSha256 label.sourceSnapshotSha256 "label.source_snapshot_sha256"
  require (label.sourceObservedAt ≤ evaluatedAt) .evaluationIntegrityError
    "evaluated_at must not precede label source_observed_at"
  require (label.officialOutcome = "Up" ∨ label.officialOutcome = "Down") .evaluationIntegrityError
    "official_outcome must be Up or Down"
  let officialTarget : ℤ := if label.officialOutcome = "Up" then 1 else 0
  let scores ← scoring.score prediction officialTarget
  .ok
    { scores with
      predictionId := prediction.predictionId
      labelVersion := label.labelVersion
      officialOutcome := label.officialOutcome
      officialTarget
      labelSource := label.labelSource
      labelSourceSnapshotSha256
      labelSourceObservedAt := label.sourceObservedAt
      evaluatedAt
      correct := prediction.predictedTarget = officialTarget }

/-! ## The evaluation ledger -/

/-- `LivePredictionEvaluationRepository.get`. -/
def findEvaluation (evaluations : List Evaluation) (predictionId labelVersion : String) :
    Option Evaluation :=
  evaluations.find? fun row => row.predictionId = predictionId && row.labelVersion = labelVersion

/-- `_evidence_values_equal` of two numbers. -/
def closeNumbers (scoring : Scoring) : Option Decimal → Option Decimal → Bool
  | none, none => true
  | some stored, some expected => scoring.close stored expected
  | _, _ => false

/-- `_existing_evidence_mismatch`: the first field that differs. -/
def existingEvidenceMismatch (scoring : Scoring) (stored expected : Evaluation) : Option String :=
  let fields : List (String × Bool) :=
    [("prediction_id", stored.predictionId = expected.predictionId),
      ("label_version", stored.labelVersion = expected.labelVersion),
      ("official_outcome", stored.officialOutcome = expected.officialOutcome),
      ("official_target", stored.officialTarget = expected.officialTarget),
      ("label_source", stored.labelSource = expected.labelSource),
      ("label_source_snapshot_sha256",
        stored.labelSourceSnapshotSha256 = expected.labelSourceSnapshotSha256),
      ("label_source_observed_at", stored.labelSourceObservedAt = expected.labelSourceObservedAt),
      ("evaluated_at", stored.evaluatedAt = expected.evaluatedAt),
      ("correct", stored.correct = expected.correct),
      ("raw_log_loss", closeNumbers scoring stored.rawLogLoss expected.rawLogLoss),
      ("raw_brier", closeNumbers scoring stored.rawBrier expected.rawBrier),
      ("calibrated_log_loss",
        closeNumbers scoring stored.calibratedLogLoss expected.calibratedLogLoss),
      ("calibrated_brier", closeNumbers scoring stored.calibratedBrier expected.calibratedBrier),
      ("hypothetical_gross_pnl",
        closeNumbers scoring stored.hypotheticalGrossPnl expected.hypotheticalGrossPnl),
      ("hypothetical_assumed_cost_pnl",
        closeNumbers scoring stored.hypotheticalAssumedCostPnl expected.hypotheticalAssumedCostPnl)]
  (fields.find? fun field => !field.2).map (·.1)

/-- `LivePredictionEvaluationRepository._validate`. -/
def validateEvaluation (evaluation : Evaluation) : Outcome Unit := do
  require (evaluation.labelVersion ≠ "") .valueError "label_version must not be empty"
  require (evaluation.labelSource ≠ "") .valueError "label_source must not be empty"
  require (isHex64 evaluation.predictionId = true) .valueError
    "prediction_id must be a 64-character lowercase hex SHA-256 digest"
  require (isHex64 evaluation.labelSourceSnapshotSha256 = true) .valueError
    "label_source_snapshot_sha256 must be a 64-character lowercase hex SHA-256 digest"
  require (evaluation.labelSourceObservedAt ≤ evaluation.evaluatedAt) .valueError
    "evaluated_at must not precede label_source_observed_at"
  require (evaluation.officialOutcome = "Up" ∨ evaluation.officialOutcome = "Down") .valueError
    "official_outcome must be Up or Down"
  require (evaluation.officialTarget = if evaluation.officialOutcome = "Up" then 1 else 0)
    .valueError "official_target must match official_outcome"
  require (0 ≤ evaluation.rawLogLoss) .valueError "raw_log_loss must be non-negative"
  require (0 ≤ evaluation.rawBrier) .valueError "raw_brier must be non-negative"
  require (0 ≤ evaluation.calibratedLogLoss) .valueError "calibrated_log_loss must be non-negative"
  require (0 ≤ evaluation.calibratedBrier) .valueError "calibrated_brier must be non-negative"

/-- `LivePredictionEvaluationRepository.store` of an evaluation that `get` does not find, of a
prediction that is there. -/
def storeEvaluation (evaluations : List Evaluation) (evaluation : Evaluation) :
    Outcome (List Evaluation) := do
  validateEvaluation evaluation
  .ok (evaluations ++ [evaluation])

/-- The loop of `append_available_evaluations`, for one prediction. -/
def appendEvaluation (scoring : Scoring) (labels : List MarketLabel) (evaluatedAt : Timestamp)
    (evaluations : List Evaluation) (prediction : LivePrediction) : Outcome (List Evaluation) := do
  if prediction.sourceLabelVersion ≠ officialLabelVersion then .ok evaluations
  else
    match findLabel labels prediction.conditionId prediction.sourceLabelVersion with
    | none => .ok evaluations
    | some label =>
      match findEvaluation evaluations prediction.predictionId label.labelVersion with
      | some stored =>
        let evaluation ← evaluatePrediction scoring prediction label stored.evaluatedAt
        match existingEvidenceMismatch scoring stored evaluation with
        | some field =>
          raise .livePredictionEvaluationConflict
            ("conflicting live prediction evaluation prediction_id=" ++ evaluation.predictionId ++
              " label_version=" ++ evaluation.labelVersion ++ " field=" ++ field)
        | none => .ok evaluations
      | none =>
        let evaluation ← evaluatePrediction scoring prediction label evaluatedAt
        storeEvaluation evaluations evaluation

/-- `append_available_evaluations`. -/
def appendAvailableEvaluations (scoring : Scoring) (labels : List MarketLabel)
    (predictions : List LivePrediction) (evaluatedAt : Timestamp) (evaluations : List Evaluation) :
    Outcome (List Evaluation) :=
  predictions.foldlM (appendEvaluation scoring labels evaluatedAt) evaluations

end BpEngine.PaperLedger
