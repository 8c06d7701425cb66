import BpEngine.V4Research.Config

/-!
# Whether a plan can be made

`v4_research/readiness.py`: from the rows of a feature table, a report that says how many markets each
partition of the plan would have, and what keeps the plan from being made.

* `FeatureTable` is the table, with what its constraint says.
* `previewMarket`, `splitCounts` and `partitionFeasibility` count the markets of the partitions.
* `assessReadiness` is the report.
-/

namespace BpEngine.V4Research

open BpEngine.Features BpEngine.Features.Coverage

/-! ## The table -/

/-- The columns of `market_features` that research reads. -/
structure FeatureRow extends CoverageRow where
  slug : String
  horizonSeconds : ℤ
  marketEndAt : Timestamp

/-- `market_features`, with `uq_market_features_condition_time_version`. -/
structure FeatureTable where
  rows : List FeatureRow
  unique : (rows.map fun row => (row.conditionId, row.featureAt, row.featureVersion)).Nodup

/-- The rows of a market, under its id, in the order of the first rows. -/
def grouped (rows : List FeatureRow) : List (String × List FeatureRow) :=
  (rows.map (·.conditionId)).eraseDups.map fun conditionId =>
    (conditionId, rows.filter fun row => row.conditionId = conditionId)

variable {F : Type} (A : CoverageFloats F)

/-- The rows that the `where` clauses keep. -/
def eligible (table : FeatureTable) (config : V4GateBConfig F) : List FeatureRow :=
  table.rows.filter fun row => row.featureVersion = config.featureVersion ∧
    config.epochStart ≤ row.marketStartAt ∧ row.marketStartAt < config.epochEnd

/-- `order_by(condition_id, feature_offset_seconds, id)`. -/
def eligibleKey (row : FeatureRow) : String ×ₗ ℤ ×ₗ ℤ :=
  toLex (row.conditionId, toLex (row.featureOffsetSeconds, row.id))

/-- `_eligible_rows`. -/
def eligibleRows (table : FeatureTable) (config : V4GateBConfig F) : List FeatureRow :=
  (eligible table config).insertionSort fun a b => eligibleKey a ≤ eligibleKey b

/-! ## Availability -/

/-- `available / total if total else 0.0`. -/
def share (available total : ℤ) : F :=
  if total = 0 then A.zero else A.div (A.ofInt available) (A.ofInt total)

/-- `_source_availability`. -/
def sourceAvailability (coverage : CoverageReport F) : Outcome (List (String × F)) :=
  sourcePrefixes.mapM fun name =>
    match (coverage.sources.lookup name).bind fun source => source.lookup "current_state" with
    | none => raise .keyError name
    | some current => .ok (name, share A current.availableCount coverage.rowCount)

/-- The returns of two minutes do not exist a minute into the market. -/
def structurallyMissing (field : String) (row : FeatureRow) : Bool :=
  "_return_120s".toList.isSuffixOf field.toList && row.featureOffsetSeconds = 60

/-- `_return_availability`. -/
def returnAvailability (rows : List FeatureRow) (fields : List String)
    (ignoreStructural120sAt60 : Bool) : List (String × F) :=
  fields.map fun field =>
    let eligible := rows.filter fun row =>
      !(ignoreStructural120sAt60 && structurallyMissing field row)
    let available := eligible.filter fun row => (finite A (row.features.get field)).isSome
    (field, share A available.length eligible.length)

/-- `_has_complete_offsets`. -/
def hasCompleteOffsets (rows : List FeatureRow) (expectedOffsets : List ℤ) : Bool :=
  !(grouped rows).isEmpty && (grouped rows).all fun market =>
    (market.2.map (·.featureOffsetSeconds)).toFinset = expectedOffsets.toFinset

/-! ## The partitions -/

/-- The times of a market whose rows have the offsets and agree on the times. -/
def previewMarket (expectedOffsets : Finset ℤ) (rows : List FeatureRow) :
    Option (Timestamp × Timestamp) :=
  let offsets := rows.map (·.featureOffsetSeconds)
  if offsets.length ≠ expectedOffsets.card ∨ offsets.toFinset ≠ expectedOffsets then none
  else
    match (rows.map (·.marketStartAt)).dedup, (rows.map (·.marketEndAt)).dedup with
    | [start], [finish] => some (start, finish)
    | _, _ => none

/-- `contained`. -/
def containedCount (markets : List (Timestamp × Timestamp)) (start finish : Timestamp) : ℤ :=
  (markets.filter fun market => start ≤ market.1 ∧ market.2 ≤ finish).length

/-- How many markets the partitions of three windows have; the last is the holdout in the final
split. -/
structure SplitCounts where
  train : ℤ
  validation : ℤ
  test : ℤ
deriving DecidableEq, Repr

/-- The counts of three windows, after the embargo. -/
def splitCounts (markets : List (Timestamp × Timestamp)) (embargoMarkets : ℤ) (windows : Windows) :
    SplitCounts where
  train := max 0 (containedCount markets windows.trainStart windows.trainEnd - embargoMarkets)
  validation :=
    max 0 (containedCount markets windows.trainEnd windows.validationEnd - embargoMarkets)
  test := containedCount markets windows.validationEnd windows.testEnd

/-- `partition_market_counts`: the folds in their order, then the final split. -/
structure PartitionMarketCounts where
  folds : List SplitCounts
  final : SplitCounts
deriving DecidableEq, Repr

/-- What keeps the plan from being made, of one split. -/
def countBlockers (config : V4GateBConfig F) (name lastName : String) (lastMinimum : ℤ)
    (counts : SplitCounts) : List String :=
  (if counts.train < config.minTrainMarkets then
    [name ++ "_train_market_count_below_minimum"] else []) ++
  (if counts.validation < config.minValidationMarkets then
    [name ++ "_validation_market_count_below_minimum"] else []) ++
  (if counts.test < lastMinimum then
    [name ++ "_" ++ lastName ++ "_market_count_below_minimum"] else [])

/-- The name of a fold. -/
def foldName (index : ℕ) : String := "fold_" ++ toString index

/-- `_partition_feasibility`; the blockers are sorted when they are reported. -/
def partitionFeasibility (rows : List FeatureRow) (config : V4GateBConfig F) :
    PartitionMarketCounts × List String :=
  let markets := (grouped rows).filterMap fun market =>
    previewMarket config.featureOffsetsSeconds.toFinset market.2
  let folds := (List.range config.ordinaryFoldCount.toNat).map fun index =>
    splitCounts markets config.embargoMarkets (config.foldWindows index)
  let final := splitCounts markets config.embargoMarkets config.finalWindows
  let blockers := folds.zipIdx.flatMap fun fold =>
    countBlockers config (foldName fold.2) "test" config.minTestMarkets fold.1
  (⟨folds, final⟩,
    blockers ++ countBlockers config "final" "holdout" config.minFinalHoldoutMarkets final)

/-! ## The report -/

/-- The regime of a name. -/
def regimeOf (name : String) : Option Regime :=
  [("bull", Regime.bull), ("bear", .bear), ("sideways_mixed", .sidewaysMixed),
    ("unknown", .unknown)].lookup name

/-- `regime_market_counts`. -/
def regimeMarketCounts (coverage : CoverageReport F) (knownRegimes : List String) :
    Outcome (List (String × ℕ)) :=
  knownRegimes.mapM fun name =>
    match (regimeOf name).bind fun regime => coverage.regime.lookup regime with
    | none => raise .keyError name
    | some counts => .ok (name, counts.marketCount)

/-- `CURRENT_STATE_AVAILABILITY_THRESHOLD`. -/
def currentStateAvailabilityThreshold : F := A.ofDecimal ⟨90, -2⟩

/-- `SHORT_RETURN_AVAILABILITY_THRESHOLD`. -/
def shortReturnAvailabilityThreshold : F := A.ofDecimal ⟨90, -2⟩

/-- `REGIME_RETURN_AVAILABILITY_THRESHOLD`. -/
def regimeReturnAvailabilityThreshold : F := A.ofDecimal ⟨75, -2⟩

/-- The blockers of the values below a threshold. -/
def belowThreshold (values : List (String × F)) (threshold : F) (suffix : String) : List String :=
  (values.filter fun value => A.lt value.2 threshold).map fun value => value.1 ++ suffix

/-- The blocker, when its condition holds. -/
def blockerIf (condition : Bool) (reason : String) : List String :=
  if condition then [reason] else []

/-- The report of `assess_v4_gate_b_readiness`. -/
structure ReadinessReport (F : Type) where
  ready : Bool
  blockingReasons : List String
  epochComplete : Bool
  coverage : CoverageReport F
  sourceAvailability : List (String × F)
  shortReturnAvailability : List (String × F)
  regimeReturnAvailability : List (String × F)
  regimeMarketCounts : List (String × ℕ)
  partitionMarketCounts : PartitionMarketCounts
  readinessInputSha256 : String
  labelsRead : Bool := false
  trainingPerformed : Bool := false
  policySelected : Bool := false

/-- The counts of a split, as a value. -/
def SplitCounts.value (counts : SplitCounts) (lastName : String) : Value F :=
  .obj [("train", .int counts.train), ("validation", .int counts.validation),
    (lastName, .int counts.test)]

/-- The counts of all splits, as a value. -/
def PartitionMarketCounts.value (counts : PartitionMarketCounts) : Value F :=
  .obj ((counts.folds.zipIdx.map fun fold => (foldName fold.2, fold.1.value "test")) ++
    [("final", counts.final.value "holdout")])

/-- Floats under names, as a value. -/
def floatEntries (values : List (String × F)) : Value F :=
  .obj (values.map fun value => (value.1, .float value.2))

/-- Counts under names, as a value. -/
def countEntries (counts : List (String × ℕ)) : Value F :=
  .obj (counts.map fun count => (count.1, .int count.2))

/-- The values that `readiness_input_sha256` is the hash of. -/
def readinessValue (config : V4GateBConfig F) (asOf : Timestamp) (coverage : CoverageReport F)
    (source short regime : List (String × F)) (regimes : List (String × ℕ))
    (counts : PartitionMarketCounts) (blockingReasons : List String) : Value F :=
  .obj [("config", configPayload A config), ("as_of", .time asOf),
    ("coverage_input_sha256", .text coverage.coverageInputSha256),
    ("current_state_availability_threshold", .float (currentStateAvailabilityThreshold A)),
    ("short_return_availability_threshold", .float (shortReturnAvailabilityThreshold A)),
    ("regime_return_availability_threshold", .float (regimeReturnAvailabilityThreshold A)),
    ("source_availability", floatEntries source), ("short_return_availability", floatEntries short),
    ("regime_return_availability", floatEntries regime),
    ("regime_market_counts", countEntries regimes), ("partition_market_counts", counts.value),
    ("blocking_reasons", textList blockingReasons)]

/-- `_aware_utc`; a datetime without a time zone is `none`. -/
def awareUtc (name : String) : Option Timestamp → Outcome Timestamp
  | none => raise .valueError (name ++ " must be timezone-aware")
  | some time => .ok time

/-- `blockers`: what keeps the plan from being made. -/
def readinessBlockers (config : V4GateBConfig F) (checkedAt : Timestamp) (coverage : CoverageReport F)
    (rows : List FeatureRow) (source short regime : List (String × F)) (regimes : List (String × ℕ)) :
    List String :=
  (partitionFeasibility rows config).2 ++
    blockerIf (checkedAt < config.epochEnd) "epoch_incomplete" ++
    blockerIf (0 < coverage.futureCutoffViolationCount) "future_cutoff_violations" ++
    blockerIf (0 < coverage.polymarketPredictorKeyCount) "polymarket_predictor_keys_present" ++
    blockerIf (0 < coverage.regimeInvariantViolationCount) "regime_invariant_violations" ++
    blockerIf (!hasCompleteOffsets rows config.featureOffsetsSeconds) "incomplete_market_offsets" ++
    blockerIf rows.isEmpty "no_eligible_markets" ++
    belowThreshold A source (currentStateAvailabilityThreshold A)
      "_current_state_availability_below_0.90" ++
    belowThreshold A short (shortReturnAvailabilityThreshold A) "_availability_below_0.90" ++
    belowThreshold A regime (regimeReturnAvailabilityThreshold A) "_availability_below_0.75" ++
    (regimes.filter fun count => (count.2 : ℤ) < config.minKnownRegimeMarkets).map fun count =>
      count.1 ++ "_market_count_below_minimum"

/-- `tuple(sorted(blockers))` of a set. -/
def sortedReasons (blockers : List String) : List String := blockers.dedup.insertionSort (· ≤ ·)

/-- `assess_v4_gate_b_readiness`. -/
def assessReadiness (table : FeatureTable) (asOf : Option Timestamp) (config : V4GateBConfig F) :
    Outcome (ReadinessReport F) := do
  let checkedAt ← awareUtc "as_of" asOf
  let coverage ← buildV4CoverageReport A (table.rows.map (·.toCoverageRow)) (some config.epochStart)
    (some config.epochEnd)
  let rows := eligibleRows table config
  let source ← sourceAvailability A coverage
  let short := returnAvailability A rows shortReturnFields true
  let regime := returnAvailability A rows regimeReturnFields false
  let regimes ← regimeMarketCounts coverage config.knownRegimes
  let counts := (partitionFeasibility rows config).1
  let blockingReasons := sortedReasons
    (readinessBlockers A config checkedAt coverage rows source short regime regimes)
  let digest ← canonicalHash A.toFloats
    (readinessValue A config checkedAt coverage source short regime regimes counts blockingReasons)
  .ok
    { ready := blockingReasons.isEmpty
      blockingReasons
      epochComplete := config.epochEnd ≤ checkedAt
      coverage
      sourceAvailability := source
      shortReturnAvailability := short
      regimeReturnAvailability := regime
      regimeMarketCounts := regimes
      partitionMarketCounts := counts
      readinessInputSha256 := digest }

end BpEngine.V4Research
