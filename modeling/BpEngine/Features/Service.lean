import BpEngine.Features.TradeFlow

/-!
# Building a feature

`build_feature` of `features/service.py`: the sources are read as of an instant, the calculators make
groups of them, and the groups are merged into one row with its cutoffs, fingerprint and hash.
-/

namespace BpEngine.Features

variable {F : Type} (floats : Floats F)

/-- `MarketFeature`. -/
structure MarketFeature (F : Type) where
  conditionId : String
  slug : String
  horizonSeconds : ℤ
  marketStartAt : Timestamp
  marketEndAt : Timestamp
  featureAt : Timestamp
  featureOffsetSeconds : ℤ
  featureVersion : String
  features : List (String × Value F)
  missingFlags : List (String × Bool)
  sourceCutoffs : List (String × String)
  inputFingerprint : String
  featureHash : String
  generatedAt : Timestamp

/-! ## Merging -/

/-- The merged groups. -/
structure Merged (F : Type) where
  features : List (String × Value F) := []
  missing : List (String × Bool) := []
  cutoffs : List (String × Timestamp) := []
  observations : List (Value F) := []

/-- `_put_unique`; both of its errors are one here, a key that is there already. -/
def putUnique {α : Type} (kind : String) (target : List (String × α)) (entry : String × α) :
    Outcome (List (String × α)) := do
  require (¬ target.any fun known => known.1 = entry.1) .runtimeError
    ("duplicate " ++ kind ++ " key: " ++ entry.1)
  .ok (target ++ [entry])

/-- One group of `_merge_groups`. -/
def mergeGroup (merged : Merged F) (group : FeatureGroup F) : Outcome (Merged F) := do
  let features ← group.values.foldlM (putUnique "feature") merged.features
  let missing ← group.missingFlags.foldlM (putUnique "missing flag") merged.missing
  let cutoffs ← group.sourceCutoffs.foldlM (putUnique "source cutoff") merged.cutoffs
  .ok { features, missing, cutoffs, observations := merged.observations ++ group.observations }

/-- `_merge_groups`. -/
def mergeGroups (groups : List (FeatureGroup F)) : Outcome (Merged F) :=
  groups.foldlM mergeGroup {}

/-- `sorted(cutoffs)`. -/
def sortedByKey {α : Type} (entries : List (String × α)) : List (String × α) :=
  entries.insertionSort fun a b => a.1 ≤ b.1

/-- One cutoff of `_serialize_cutoffs`. -/
def serializeCutoff (featureAt : Timestamp) (cutoff : String × Timestamp) :
    Outcome (String × String) := do
  require (¬ featureAt < cutoff.2) .runtimeError ("future source cutoff for " ++ cutoff.1)
  .ok (cutoff.1, utcText cutoff.2)

/-- `_serialize_cutoffs`. -/
def serializeCutoffs (cutoffs : List (String × Timestamp)) (featureAt : Timestamp) :
    Outcome (List (String × String)) :=
  (sortedByKey cutoffs).mapM (serializeCutoff featureAt)

/-- A descriptor with its hash, the key it is sorted by. -/
def hashed (descriptor : Value F) : Outcome (String × Value F) := do
  let key ← canonicalHash floats descriptor
  .ok (key, descriptor)

/-- `_fingerprint`. -/
def fingerprint (descriptors : List (Value F)) : Outcome String := do
  let keyed ← descriptors.mapM (hashed floats)
  canonicalHash floats (.list ((sortedByKey keyed).map Prod.snd))

/-- `_target_descriptor`, of either kind of target. -/
def targetDescriptor (kind version : String) (target : FeatureTarget) (featureAt : Timestamp) :
    Value F :=
  .obj [("kind", .text kind), ("condition_id", .text target.conditionId),
    ("slug", .text target.slug), ("horizon_seconds", .int target.horizonSeconds),
    ("market_start_at", .time target.marketStartAt), ("market_end_at", .time target.marketEndAt),
    ("feature_at", .time featureAt), ("feature_version", .text version)]

/-- The row of the merged groups. -/
def assemble (kind version : String) (target : FeatureTarget) (featureAt generatedAt : Timestamp)
    (groups : List (FeatureGroup F)) : Outcome (MarketFeature F) := do
  let merged ← mergeGroups groups
  let sourceCutoffs ← serializeCutoffs merged.cutoffs featureAt
  let inputFingerprint ← fingerprint floats
    (targetDescriptor kind version target featureAt :: merged.observations)
  let featureHash ← canonicalHash floats (.obj [("features", .obj merged.features),
    ("missing_flags", .obj (merged.missing.map fun flag => (flag.1, .bool flag.2)))])
  .ok
    { conditionId := target.conditionId
      slug := target.slug
      horizonSeconds := target.horizonSeconds
      marketStartAt := target.marketStartAt
      marketEndAt := target.marketEndAt
      featureAt
      featureOffsetSeconds := (featureAt - target.marketStartAt) / 1000000
      featureVersion := version
      features := merged.features
      missingFlags := merged.missing
      sourceCutoffs
      inputFingerprint
      featureHash
      generatedAt }

/-! ## The feature -/

/-- `_target_times`. -/
def targetTimes (target : FeatureTarget) : Outcome (Timestamp × Timestamp) := do
  require (¬ target.horizonSeconds ≤ 0) .valueError "horizon_seconds must be positive"
  require (¬ target.marketEndAt ≤ target.marketStartAt) .valueError
    "market_end_at must be after market_start_at"
  require ((target.marketEndAt - target.marketStartAt) / 1000000 = target.horizonSeconds) .valueError
    "target horizon_seconds must match market window"
  .ok (target.marketStartAt, target.marketEndAt)

/-- The state of the book of a side: the latest price of the side says which asset it is of. -/
def sideState (db : Database) (target : FeatureTarget) (price : Option PriceRow)
    (featureAt : Timestamp) : Outcome (Option StateObservation) :=
  match price with
  | none => .ok none
  | some row =>
    latestState db "polymarket" "market" target.conditionId (some row.assetId) featureAt

/-- `FEATURE_VERSION`. -/
def featureVersion : String := "core-v1"

/-- `build_feature`, with no repository to store the row in. -/
def buildFeature (db : Database) (target : FeatureTarget) (featureAt generatedAt : Timestamp) :
    Outcome (MarketFeature F) := do
  let (startAt, endAt) ← targetTimes target
  require (startAt < featureAt ∧ featureAt < endAt) .valueError
    "feature_at must be strictly inside market window"
  let upPrice ← latestPolymarketPrice db target.conditionId "Up" featureAt
  let downPrice ← latestPolymarketPrice db target.conditionId "Down" featureAt
  let upState ← sideState db target upPrice featureAt
  let downState ← sideState db target downPrice featureAt
  let candles ← closedCandles db "coinbase" "spot" "BTC-USD" 60 featureAt 32
  let bybitSpot ← latestState db "bybit" "spot" "BTCUSDT" none featureAt
  let bybitLinear ← latestState db "bybit" "linear" "BTCUSDT" none featureAt
  let geometry ← timeGeometry floats target featureAt
  let prices ← polymarketPrices floats upPrice downPrice featureAt
  let upBook ← bookState floats "pm_up" upState
  let downBook ← bookState floats "pm_down" downState
  let coinbase ← coinbaseCandles floats candles startAt
  let bybit ← bybitState floats bybitSpot bybitLinear
  let trades ← rawTradeGroups floats db target featureAt
  assemble floats "feature_target" featureVersion target featureAt generatedAt
    ([geometry, prices, upBook, downBook, coinbase, bybit, officialReference] ++ trades)

end BpEngine.Features
