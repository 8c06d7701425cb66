import BpEngine.Library.Windows
import BpEngine.V4Research.Readiness

/-!
# The plan

`v4_research/plan.py`: the markets of the feature rows, distributed over the windows of the folds and of
the final split.

* `buildMarkets` groups the rows into markets and checks their metadata.
* `splitMarkets` distributes markets over three windows, with an embargo at the end of the first two.
* `buildFold`, `buildFinalPartition` and `assertPartitionIntegrity` make the parts of the plan,
  `buildV4GateBPlan` is the whole.
-/

namespace BpEngine.V4Research

open BpEngine.Features BpEngine.Features.Coverage

variable {F : Type} (A : CoverageFloats F)

/-! ## Markets -/

/-- A market of the plan. -/
structure PlanMarket where
  conditionId : String
  slug : String
  horizonSeconds : ℤ
  marketStartAt : Timestamp
  marketEndAt : Timestamp
deriving DecidableEq

/-- `order_by(market_start_at, condition_id, feature_offset_seconds, id)`. -/
def loadKey (row : FeatureRow) : ℤ ×ₗ String ×ₗ ℤ ×ₗ ℤ :=
  toLex (row.marketStartAt, toLex (row.conditionId, toLex (row.featureOffsetSeconds, row.id)))

/-- `_load_feature_rows`. -/
def loadFeatureRows (table : FeatureTable) (config : V4GateBConfig F) : List FeatureRow :=
  (eligible table config).insertionSort fun a b => loadKey a ≤ loadKey b

/-- The time so many seconds after another. -/
def afterSeconds (time : Timestamp) (seconds : ℤ) : Timestamp := time + Timestamp.ofSeconds seconds

/-- `static_identity`. -/
def FeatureRow.staticIdentity (row : FeatureRow) : String × ℤ × Timestamp × Timestamp :=
  (row.slug, row.horizonSeconds, row.marketStartAt, row.marketEndAt)

/-- The body of the loop over the rows of a market. -/
def checkRow (conditionId : String) (first row : FeatureRow) : Outcome Unit := do
  require (row.staticIdentity = first.staticIdentity) .v4PlanIntegrityError
    (conditionId ++ " has inconsistent static market metadata")
  require (row.featureAt = afterSeconds first.marketStartAt row.featureOffsetSeconds)
    .v4PlanIntegrityError
    (conditionId ++ " has feature time inconsistent with offset " ++ toString row.featureOffsetSeconds)

/-- The market of an id and its rows. -/
def buildMarket (config : V4GateBConfig F) (conditionId : String) (rows : List FeatureRow) :
    Outcome PlanMarket :=
  match rows with
  | [] => raise .indexError "list index out of range"
  | first :: rest => do
    require (first.horizonSeconds = config.horizonSeconds) .v4PlanIntegrityError
      (conditionId ++ " has unexpected horizon " ++ toString first.horizonSeconds)
    require (first.marketEndAt = afterSeconds first.marketStartAt config.horizonSeconds)
      .v4PlanIntegrityError (conditionId ++ " market bounds do not match frozen horizon")
    (first :: rest).forM (checkRow conditionId first)
    let offsets := (first :: rest).map (·.featureOffsetSeconds)
    require offsets.Nodup .v4PlanIntegrityError (conditionId ++ " has duplicate feature offsets")
    require (offsets.toFinset = config.featureOffsetsSeconds.toFinset) .v4PlanIntegrityError
      (conditionId ++ " does not have exact frozen feature offsets")
    .ok ⟨conditionId, first.slug, first.horizonSeconds, first.marketStartAt, first.marketEndAt⟩

/-- The descriptor of a row. -/
def manifestDescriptor (row : FeatureRow) : Value F :=
  .obj [("condition_id", .text row.conditionId), ("slug", .text row.slug),
    ("horizon_seconds", .int row.horizonSeconds), ("market_start_at", .time row.marketStartAt),
    ("market_end_at", .time row.marketEndAt), ("feature_at", .time row.featureAt),
    ("feature_offset_seconds", .int row.featureOffsetSeconds),
    ("input_fingerprint", .text row.inputFingerprint), ("feature_hash", .text row.featureHash)]

/-- The order the descriptors are sorted in. -/
def manifestKey (row : FeatureRow) : ℤ ×ₗ String ×ₗ ℤ ×ₗ String ×ₗ String :=
  toLex (row.marketStartAt, toLex (row.conditionId, toLex (row.featureOffsetSeconds,
    toLex (row.inputFingerprint, row.featureHash))))

/-- The hash of the rows. -/
def featureManifest (rows : List FeatureRow) : Outcome String :=
  canonicalHash A.toFloats (.list
    ((rows.insertionSort fun a b => manifestKey a ≤ manifestKey b).map manifestDescriptor))

/-- The order of the markets. -/
def marketKey (market : PlanMarket) : ℤ ×ₗ String := toLex (market.marketStartAt, market.conditionId)

/-- `_build_markets`. -/
def buildMarkets (rows : List FeatureRow) (config : V4GateBConfig F) :
    Outcome (List PlanMarket × String) := do
  let markets ← (grouped rows).mapM fun market => buildMarket config market.1 market.2
  let manifest ← featureManifest A rows
  .ok (markets.insertionSort fun a b => marketKey a ≤ marketKey b, manifest)

/-! ## Windows -/

/-- `fully_contained`. -/
def contained (start finish : Timestamp) (market : PlanMarket) : Bool :=
  start ≤ market.marketStartAt ∧ market.marketEndAt ≤ finish

/-- `overlaps`. -/
def overlaps (start finish : Timestamp) (market : PlanMarket) : Bool :=
  market.marketStartAt < finish ∧ start < market.marketEndAt

/-- `_condition_ids`. -/
def conditionIds (markets : List PlanMarket) : List String := markets.map (·.conditionId)

/-- `_window_members`: the markets that a window contains, and the ids of those it cuts. -/
def windowMembers (markets : List PlanMarket) (start finish : Timestamp) :
    List PlanMarket × List String :=
  (markets.filter (contained start finish),
    conditionIds (markets.filter fun market =>
      !contained start finish market && overlaps start finish market))

/-- `_embargo_earlier_side`. -/
def embargoEarlierSide (markets : List PlanMarket) (embargoMarkets : ℤ) :
    Outcome (List PlanMarket × List String) :=
  if embargoMarkets = 0 then .ok (markets, [])
  else do
    require (embargoMarkets ≤ markets.length) .v4PlanIntegrityError
      "partition is too small for frozen embargo"
    let count := markets.length - embargoMarkets.toNat
    .ok (markets.take count, conditionIds (markets.drop count))

/-- The markets of three windows. -/
structure Split where
  train : List PlanMarket
  validation : List PlanMarket
  test : List PlanMarket
  purged : List String
  embargo : List String
deriving DecidableEq

/-- What `_build_fold` and `_build_final_partition` make of their windows. -/
def splitMarkets (markets : List PlanMarket) (embargoMarkets : ℤ) (windows : Windows) :
    Outcome Split := do
  let train := windowMembers markets windows.trainStart windows.trainEnd
  let validation := windowMembers markets windows.trainEnd windows.validationEnd
  let test := windowMembers markets windows.validationEnd windows.testEnd
  let keptTrain ← embargoEarlierSide train.1 embargoMarkets
  let keptValidation ← embargoEarlierSide validation.1 embargoMarkets
  .ok
    { train := keptTrain.1
      validation := keptValidation.1
      test := test.1
      purged := (train.2 ++ validation.2 ++ test.2).dedup.insertionSort (· ≤ ·)
      embargo := keptTrain.2 ++ keptValidation.2 }

/-- `_validate_minimum`. -/
def validateMinimum (label : String) (markets : List PlanMarket) (minimum : ℤ) : Outcome Unit :=
  require (minimum ≤ markets.length) .v4PlanIntegrityError
    (label ++ " requires at least " ++ toString minimum ++ " markets; found " ++
      toString markets.length)

/-- The checks of a split. -/
def Split.validate (split : Split) (config : V4GateBConfig F) (name lastName : String)
    (lastMinimum : ℤ) : Outcome Unit := do
  validateMinimum (name ++ " train") split.train config.minTrainMarkets
  validateMinimum (name ++ " validation") split.validation config.minValidationMarkets
  validateMinimum (name ++ " " ++ lastName) split.test lastMinimum

/-! ## The parts of the plan -/

/-- The bounds of a window, as texts. -/
structure Bounds where
  start : String
  finish : String
deriving DecidableEq

/-- `_iso` of two bounds. -/
def boundsOf (start finish : Timestamp) : Bounds :=
  ⟨IsoTime.isoformat start, IsoTime.isoformat finish⟩

/-- `_partition_payload`. -/
structure PartitionPayload extends Bounds where
  conditionIds : List String
deriving DecidableEq

/-- A fold of the plan. -/
structure PlanFold where
  index : ℕ
  train : PartitionPayload
  validation : PartitionPayload
  test : PartitionPayload
  purgedConditionIds : List String
  embargoConditionIds : List String
  membershipSha256 : String := ""
deriving DecidableEq

/-- The final split of the plan. -/
structure PlanFinal where
  train : Bounds
  validation : Bounds
  holdout : Bounds
  trainConditionIds : List String
  validationConditionIds : List String
  holdoutConditionIds : List String
  purgedConditionIds : List String
  embargoConditionIds : List String
  membershipSha256 : String := ""
deriving DecidableEq

/-- The bounds, as the entries of a dictionary. -/
def Bounds.entries (bounds : Bounds) : List (String × Value F) :=
  [("start", .text bounds.start), ("end", .text bounds.finish)]

def PartitionPayload.value (payload : PartitionPayload) : Value F :=
  .obj (payload.entries ++ [("condition_ids", textList payload.conditionIds)])

/-- The payload of a fold before its hash is added. -/
def PlanFold.entries (fold : PlanFold) : List (String × Value F) :=
  [("index", .int fold.index), ("train", fold.train.value), ("validation", fold.validation.value),
    ("test", fold.test.value), ("purged_condition_ids", textList fold.purgedConditionIds),
    ("embargo_condition_ids", textList fold.embargoConditionIds)]

/-- The payload of the final split before its hash is added. -/
def PlanFinal.entries (final : PlanFinal) : List (String × Value F) :=
  [("train", .obj final.train.entries), ("validation", .obj final.validation.entries),
    ("holdout", .obj final.holdout.entries),
    ("train_condition_ids", textList final.trainConditionIds),
    ("validation_condition_ids", textList final.validationConditionIds),
    ("holdout_condition_ids", textList final.holdoutConditionIds),
    ("purged_condition_ids", textList final.purgedConditionIds),
    ("embargo_condition_ids", textList final.embargoConditionIds)]

/-- A payload with its hash. -/
def withMembership (entries : List (String × Value F)) (membership : String) : Value F :=
  .obj (entries ++ [("membership_sha256", .text membership)])

/-- The fold of a split. -/
def foldOf (index : ℕ) (windows : Windows) (split : Split) : PlanFold where
  index := index
  train := ⟨boundsOf windows.trainStart windows.trainEnd, conditionIds split.train⟩
  validation := ⟨boundsOf windows.trainEnd windows.validationEnd, conditionIds split.validation⟩
  test := ⟨boundsOf windows.validationEnd windows.testEnd, conditionIds split.test⟩
  purgedConditionIds := split.purged
  embargoConditionIds := split.embargo

/-- The final split of a split. -/
def finalOf (windows : Windows) (split : Split) : PlanFinal where
  train := boundsOf windows.trainStart windows.trainEnd
  validation := boundsOf windows.trainEnd windows.validationEnd
  holdout := boundsOf windows.validationEnd windows.testEnd
  trainConditionIds := conditionIds split.train
  validationConditionIds := conditionIds split.validation
  holdoutConditionIds := conditionIds split.test
  purgedConditionIds := split.purged
  embargoConditionIds := split.embargo

/-- `_build_fold`. -/
def buildFold (markets : List PlanMarket) (config : V4GateBConfig F) (index : ℕ) :
    Outcome PlanFold := do
  let windows := config.foldWindows index
  let split ← splitMarkets markets config.embargoMarkets windows
  split.validate config ("fold " ++ toString index) "test" config.minTestMarkets
  let fold := foldOf index windows split
  let membership ← canonicalHash A.toFloats (.obj fold.entries)
  .ok { fold with membershipSha256 := membership }

/-- `_build_final_partition`. -/
def buildFinalPartition (markets : List PlanMarket) (config : V4GateBConfig F) :
    Outcome PlanFinal := do
  let windows := config.finalWindows
  let split ← splitMarkets markets config.embargoMarkets windows
  split.validate config "final" "holdout" config.minFinalHoldoutMarkets
  let final := finalOf windows split
  let membership ← canonicalHash A.toFloats (.obj final.entries)
  .ok { final with membershipSha256 := membership }

/-- `_assert_partition_integrity`. -/
def assertPartitionIntegrity (folds : List PlanFold) (final : PlanFinal) : Outcome Unit := do
  let ordinaryTestIds := folds.flatMap fun fold => fold.test.conditionIds
  require ordinaryTestIds.Nodup .v4PlanIntegrityError "ordinary test membership is not unique"
  require (∀ conditionId ∈ ordinaryTestIds, conditionId ∉ final.holdoutConditionIds)
    .v4PlanIntegrityError "ordinary test membership overlaps final holdout"

/-! ## The plan -/

/-- The result of `build_v4_gate_b_plan`. -/
structure V4GateBPlan where
  researchPlanVersion : String
  datasetVersion : String
  featureVersion : String
  labelVersion : String
  horizonSeconds : ℤ
  featureOffsetsSeconds : List ℤ
  epochStart : String
  epochEnd : String
  marketCount : ℕ
  knownRegimeMarketCounts : List (String × ℕ)
  readinessInputSha256 : String
  configSha256 : String
  featureManifestSha256 : String
  folds : List PlanFold
  final : PlanFinal
  labelsRead : Bool := false
  trainingPerformed : Bool := false
  policySelected : Bool := false
  finalHoldoutEvaluated : Bool := false
  planSha256 : String := ""
deriving DecidableEq

/-- The payload of the plan before its hash is added. -/
def V4GateBPlan.value (plan : V4GateBPlan) : Value F :=
  .obj [("research_plan_version", .text plan.researchPlanVersion),
    ("dataset_version", .text plan.datasetVersion),
    ("feature_version", .text plan.featureVersion), ("label_version", .text plan.labelVersion),
    ("horizon_seconds", .int plan.horizonSeconds),
    ("feature_offsets_seconds", intList plan.featureOffsetsSeconds),
    ("epoch_start", .text plan.epochStart), ("epoch_end", .text plan.epochEnd),
    ("market_count", .int plan.marketCount),
    ("known_regime_market_counts", countEntries plan.knownRegimeMarketCounts),
    ("readiness_input_sha256", .text plan.readinessInputSha256),
    ("config_sha256", .text plan.configSha256),
    ("feature_manifest_sha256", .text plan.featureManifestSha256),
    ("folds", .list (plan.folds.map fun fold => withMembership fold.entries fold.membershipSha256)),
    ("final", withMembership plan.final.entries plan.final.membershipSha256),
    ("labels_read", .bool plan.labelsRead), ("training_performed", .bool plan.trainingPerformed),
    ("policy_selected", .bool plan.policySelected),
    ("final_holdout_evaluated", .bool plan.finalHoldoutEvaluated)]

/-- `build_v4_gate_b_plan`. -/
def buildV4GateBPlan (table : FeatureTable) (asOf : Option Timestamp) (config : V4GateBConfig F) :
    Outcome V4GateBPlan := do
  let readiness ← assessReadiness A table asOf config
  require (readiness.ready = true) .v4PlanIntegrityError
    ("readiness failed: " ++ ",".intercalate readiness.blockingReasons)
  let (markets, manifest) ← buildMarkets A (loadFeatureRows table config) config
  require (¬ markets.isEmpty = true) .v4PlanIntegrityError "no eligible V4 markets in frozen epoch"
  let folds ← (List.range config.ordinaryFoldCount.toNat).mapM (buildFold A markets config)
  let final ← buildFinalPartition A markets config
  assertPartitionIntegrity folds final
  let configSha256 ← canonicalHash A.toFloats (configPayload A config)
  let plan : V4GateBPlan :=
    { researchPlanVersion := config.researchPlanVersion
      datasetVersion := config.datasetVersion
      featureVersion := config.featureVersion
      labelVersion := config.labelVersion
      horizonSeconds := config.horizonSeconds
      featureOffsetsSeconds := config.featureOffsetsSeconds
      epochStart := IsoTime.isoformat config.epochStart
      epochEnd := IsoTime.isoformat config.epochEnd
      marketCount := markets.length
      knownRegimeMarketCounts := readiness.regimeMarketCounts
      readinessInputSha256 := readiness.readinessInputSha256
      configSha256
      featureManifestSha256 := manifest
      folds
      final }
  let digest ← canonicalHash A.toFloats plan.value
  .ok { plan with planSha256 := digest }

end BpEngine.V4Research
