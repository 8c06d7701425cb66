import BpEngine.Core
import BpEngine.Library.Windows
import Mathlib.Data.List.Sort

/-!
# Walk-forward folds

`backtesting/folds.py`: the markets of a dataset on a time line, and the plan that trains, validates
and tests on windows of it.  A split has three adjacent windows; a market that straddles a boundary is
purged, and the last markets of the earlier two windows are under embargo.

* `buildMarketTimeline` groups the rows of a dataset into markets.
* `split` is what a fold and the final split have in common.
* `foldsFrom` is the loop over the folds; its fuel bounds the steps that end before the holdout.
The digests of memberships and of the plan are parameters.
-/

namespace BpEngine.Backtesting

open BpEngine.Windows

/-! ## Records -/

/-- The columns of a `SupervisedRow` that a plan reads. -/
structure SupervisedRow where
  conditionId : String
  slug : String
  horizonSeconds : ℤ
  marketStartAt : Timestamp
  marketEndAt : Timestamp
  target : ℤ
deriving DecidableEq

/-- `DatasetSnapshot`. -/
structure DatasetSnapshot where
  horizonSeconds : ℤ
  start : Timestamp
  finish : Timestamp
  rows : List SupervisedRow
  datasetSha256 : String

/-- `WalkForwardConfig` with the checks of its `__post_init__`; durations are in microseconds. -/
structure WalkForwardConfig where
  trainDuration : ℤ
  validationDuration : ℤ
  testDuration : ℤ
  stepDuration : ℤ
  finalHoldoutDuration : ℤ
  embargoMarkets : ℕ := 1
  minTrainMarkets : ℕ := 24
  minValidationMarkets : ℕ := 6
  minTestMarkets : ℕ := 6
  minMarketPriceCoverage : Decimal := ⟨80, -2⟩
  minPredictionCoverage : Decimal := ⟨90, -2⟩
  train_pos : 0 < trainDuration
  validation_pos : 0 < validationDuration
  test_pos : 0 < testDuration
  step_pos : 0 < stepDuration
  holdout_pos : 0 < finalHoldoutDuration
  test_le_step : testDuration ≤ stepDuration
  minTrain_pos : 0 < minTrainMarkets := by decide
  minValidation_pos : 0 < minValidationMarkets := by decide
  minTest_pos : 0 < minTestMarkets := by decide
  priceCoverage_mem : 0 ≤ minMarketPriceCoverage ∧ minMarketPriceCoverage ≤ 1 := by decide
  predictionCoverage_mem : 0 ≤ minPredictionCoverage ∧ minPredictionCoverage ≤ 1 := by decide

/-- `MarketRecord`. -/
structure MarketRecord where
  conditionId : String
  slug : String
  horizonSeconds : ℤ
  marketStartAt : Timestamp
  marketEndAt : Timestamp
  target : ℤ
deriving DecidableEq

/-- `FoldPartition`. -/
structure FoldPartition where
  name : String
  start : Timestamp
  finish : Timestamp
  conditionIds : List String
deriving DecidableEq

/-- `WalkForwardFold`. -/
structure WalkForwardFold where
  index : ℕ
  train : FoldPartition
  validation : FoldPartition
  test : FoldPartition
  purgedConditionIds : List String
  embargoConditionIds : List String
  membershipSha256 : String
deriving DecidableEq

/-- `WalkForwardPlan`. -/
structure WalkForwardPlan where
  folds : List WalkForwardFold
  finalTrain : FoldPartition
  finalValidation : FoldPartition
  finalHoldout : FoldPartition
  finalPurgedConditionIds : List String
  finalEmbargoConditionIds : List String
  planSha256 : String
deriving DecidableEq

/-- The digests of `canonical_hash`. -/
structure FoldDigests where
  /-- `_membership_hash`. -/
  membership : (index : ℕ) → (train validation test : FoldPartition) →
    (purged embargo : List String) → String
  /-- The digest of the final split. -/
  finalMembership : (train validation holdout purged embargo : List String) → String
  /-- The digest of the plan. -/
  plan : (datasetSha256 : String) → WalkForwardConfig → (folds : List String) →
    (finalMembership : String) → String

/-! ## The time line -/

/-- The static columns of a row: what the rows of a market agree on. -/
def SupervisedRow.metadata (row : SupervisedRow) : String × ℤ × Timestamp × Timestamp × ℤ :=
  (row.slug, row.horizonSeconds, row.marketStartAt, row.marketEndAt, row.target)

/-- The market of an id, from the rows that have it. -/
def marketRecord (dataset : DatasetSnapshot) (conditionId : String) : Outcome MarketRecord := do
  let rows := dataset.rows.filter fun row => row.conditionId = conditionId
  match rows with
  | [] => raise .indexError "list index out of range"
  | first :: rest =>
    require (rest.all (fun row => row.metadata = first.metadata) = true) .valueError
      ("static market metadata mismatch for condition_id=" ++ conditionId)
    require (first.horizonSeconds = dataset.horizonSeconds) .valueError
      ("static market metadata mismatch for condition_id=" ++ conditionId)
    require (first.marketStartAt < first.marketEndAt) .valueError
      "market_end_at must be after market_start_at"
    require (first.target = 0 ∨ first.target = 1) .valueError "target must be binary"
    .ok ⟨conditionId, first.slug, first.horizonSeconds, first.marketStartAt, first.marketEndAt,
      first.target⟩

/-- `(item.market_start_at, item.condition_id)` in lexicographic order. -/
def startsFirst (a b : MarketRecord) : Prop :=
  a.marketStartAt < b.marketStartAt ∨
    a.marketStartAt = b.marketStartAt ∧ a.conditionId ≤ b.conditionId

instance : DecidableRel startsFirst := fun _ _ => inferInstanceAs (Decidable (_ ∨ _ ∧ _))

/-- `build_market_timeline`. -/
def buildMarketTimeline (dataset : DatasetSnapshot) : Outcome (List MarketRecord) := do
  let timeline ← (dataset.rows.map (·.conditionId)).eraseDups.mapM (marketRecord dataset)
  .ok (timeline.insertionSort startsFirst)

/-! ## Partitions -/

/-- `_contained`, of one market. -/
def contained (a b : Timestamp) (market : MarketRecord) : Bool :=
  Within MarketRecord.marketStartAt MarketRecord.marketEndAt a b market

/-- `_crosses_boundary`. -/
def crossesBoundary (market : MarketRecord) (boundary : Timestamp) : Bool :=
  Straddles MarketRecord.marketStartAt MarketRecord.marketEndAt boundary market

/-- `_purged_at_boundaries`. -/
def purgedAtBoundaries (timeline : List MarketRecord) (boundaries : List Timestamp) :
    List String :=
  (timeline.filter fun market => boundaries.any (crossesBoundary market)).map (·.conditionId)

/-- `_embargo_earlier_partition`: the records that are kept, and the ids of the last `count`. -/
def embargoEarlierPartition (records : List MarketRecord) (count : ℕ) :
    List MarketRecord × List String :=
  if count = 0 then (records, [])
  else
    (records.take (records.length - count),
      (records.drop (records.length - count)).map (·.conditionId))

/-- `_partition`. -/
def partition (name : String) (start finish : Timestamp) (records : List MarketRecord) :
    FoldPartition :=
  ⟨name, start, finish, records.map (·.conditionId)⟩

/-- `records_by_id[condition_id].target` of the ids. -/
def targetsOf (timeline : List MarketRecord) (conditionIds : List String) : List ℤ :=
  conditionIds.filterMap fun conditionId =>
    (timeline.find? fun market => market.conditionId = conditionId).map (·.target)

/-- `_validate_partition`. -/
def validatePartition (timeline : List MarketRecord) (minimum : ℕ) (partition : FoldPartition) :
    Outcome Unit := do
  require (minimum ≤ partition.conditionIds.length) .foldEligibilityError
    (partition.name ++ " requires at least " ++ toString minimum ++ " markets; found " ++
      toString partition.conditionIds.length)
  let targets := targetsOf timeline partition.conditionIds
  require (0 ∈ targets ∧ 1 ∈ targets ∧ ∀ target ∈ targets, target = 0 ∨ target = 1)
    .foldEligibilityError (partition.name ++ " must contain both classes")

/-- The partitions of three adjacent windows. -/
structure Split where
  train : FoldPartition
  validation : FoldPartition
  test : FoldPartition
  purged : List String
  embargo : List String
deriving DecidableEq

/-- The partitions a fold and the final split make of the windows between four instants. -/
def split (timeline : List MarketRecord) (embargoMarkets : ℕ)
    (trainName validationName testName : String)
    (trainStart trainEnd validationEnd testEnd : Timestamp) : Split :=
  let train :=
    embargoEarlierPartition (timeline.filter (contained trainStart trainEnd)) embargoMarkets
  let validation :=
    embargoEarlierPartition (timeline.filter (contained trainEnd validationEnd)) embargoMarkets
  { train := partition trainName trainStart trainEnd train.1
    validation := partition validationName trainEnd validationEnd validation.1
    test := partition testName validationEnd testEnd
      (timeline.filter (contained validationEnd testEnd))
    purged := purgedAtBoundaries timeline [trainStart, trainEnd, validationEnd, testEnd]
    embargo := train.2 ++ validation.2 }

/-- The partitions of a split are evaluable. -/
def Split.validate (split : Split) (timeline : List MarketRecord) (config : WalkForwardConfig) :
    Outcome Unit := do
  validatePartition timeline config.minTrainMarkets split.train
  validatePartition timeline config.minValidationMarkets split.validation
  validatePartition timeline config.minTestMarkets split.test

/-! ## The plan -/

namespace WalkForwardConfig

/-- What a fold spans. -/
def span (config : WalkForwardConfig) : ℤ :=
  config.trainDuration + config.validationDuration + config.testDuration

/-- The end of the test window of the fold that starts at an instant. -/
def testEnd (config : WalkForwardConfig) (foldStart : Timestamp) : Timestamp :=
  foldStart + config.trainDuration + config.validationDuration + config.testDuration

/-- The split of the fold that starts at an instant. -/
def foldSplit (config : WalkForwardConfig) (timeline : List MarketRecord) (foldStart : Timestamp) :
    Split :=
  split timeline config.embargoMarkets "train" "validation" "test" foldStart
    (foldStart + config.trainDuration)
    (foldStart + config.trainDuration + config.validationDuration) (config.testEnd foldStart)

end WalkForwardConfig

/-- One pass of the loop over the folds. -/
def foldAt (D : FoldDigests) (timeline : List MarketRecord) (config : WalkForwardConfig)
    (index : ℕ) (foldStart : Timestamp) : Outcome WalkForwardFold := do
  let split := config.foldSplit timeline foldStart
  split.validate timeline config
  .ok ⟨index, split.train, split.validation, split.test, split.purged, split.embargo,
    D.membership index split.train split.validation split.test split.purged split.embargo⟩

/-- `while True`: folds are added until the test window of the next one ends in the holdout. -/
def foldsFrom (D : FoldDigests) (timeline : List MarketRecord) (config : WalkForwardConfig)
    (holdoutStart : Timestamp) : ℕ → ℕ → Timestamp → Outcome (List WalkForwardFold)
  | 0, _, _ => .ok []
  | fuel + 1, index, foldStart =>
    if holdoutStart < config.testEnd foldStart then .ok []
    else do
      let fold ← foldAt D timeline config index foldStart
      let folds ←
        foldsFrom D timeline config holdoutStart fuel (index + 1) (foldStart + config.stepDuration)
      .ok (fold :: folds)

/-- `build_walk_forward_plan`. -/
def buildWalkForwardPlan (D : FoldDigests) (dataset : DatasetSnapshot)
    (config : WalkForwardConfig) : Outcome WalkForwardPlan := do
  require (dataset.start < dataset.finish) .valueError "dataset.start must be before dataset.end"
  let timeline ← buildMarketTimeline dataset
  let holdoutStart := dataset.finish - config.finalHoldoutDuration
  require (dataset.start < holdoutStart) .foldEligibilityError
    "final holdout leaves no walk-forward history"
  let folds ← foldsFrom D timeline config holdoutStart (holdoutStart - dataset.start).toNat 0
    dataset.start
  require (3 ≤ folds.length) .foldEligibilityError
    ("walk-forward plan requires at least 3 eligible folds; found " ++ toString folds.length)
  let finalTrainEnd := holdoutStart - config.validationDuration
  let finalTrainStart := finalTrainEnd - config.trainDuration
  require (dataset.start ≤ finalTrainStart) .foldEligibilityError
    "final train window begins before dataset start"
  let final := split timeline config.embargoMarkets "final_train" "final_validation"
    "final_holdout" finalTrainStart finalTrainEnd holdoutStart dataset.finish
  final.validate timeline config
  let finalMembershipSha := D.finalMembership final.train.conditionIds
    final.validation.conditionIds final.test.conditionIds final.purged final.embargo
  .ok
    { folds
      finalTrain := final.train
      finalValidation := final.validation
      finalHoldout := final.test
      finalPurgedConditionIds := final.purged
      finalEmbargoConditionIds := final.embargo
      planSha256 := D.plan dataset.datasetSha256 config (folds.map (·.membershipSha256))
        finalMembershipSha }

end BpEngine.Backtesting
