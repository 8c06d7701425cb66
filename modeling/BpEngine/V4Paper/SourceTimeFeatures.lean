import BpEngine.V4Paper.SourceTime

/-!
# The features of a market, and whether its sources are ready

`probe_core_source_time_v4_readiness` and `build_source_time_v4_features` of
`v4_paper/source_time_features.py`. The probe reads each venue at the start of the market and at the
decision; the builder reads it at eight instants and makes the feature groups of what it read.

* `targetTimes` are the checks that both begin with.
* `probeCoreSourceTimeV4Readiness` sets its flags itself; `buildSourceTimeV4Features` gets them from
  the groups, which `mergeGroups` puts together.
-/

namespace BpEngine.V4Paper.SourceTime

open BpEngine.Execution
open BpEngine.Features (FeatureGroup FeatureTarget Value Venue ShortAnchorSet RegimeAnchorSet
  timeGeometry shortReturnGroup regimeReturnGroup crossVenueGroup regimeConsensusGroup regimeValue)
open BpEngine.Prospective (Arithmetic)

/-! ## Targets -/

/-- `V4FeatureTarget`. -/
structure V4FeatureTarget where
  conditionId : String
  slug : String
  horizonSeconds : ℤ
  marketStartAt : DateTime
  marketEndAt : DateTime

/-- `_utc`. -/
def utc (value : DateTime) (name : String) : Outcome Timestamp :=
  inUtc .v4SourceTimeFeatureError (name ++ " must be timezone-aware") value

/-- The times of a target, in UTC, and the decision. -/
structure TargetTimes where
  start : Timestamp
  end_ : Timestamp
  decision : Timestamp

/-- The checks of the target, the same in the probe and in the builder. -/
def targetTimes (target : V4FeatureTarget) (decisionAt : DateTime) : Outcome TargetTimes := do
  let decision ← utc decisionAt "decision_at"
  let start ← utc target.marketStartAt "market_start_at"
  let end_ ← utc target.marketEndAt "market_end_at"
  require (target.horizonSeconds = 300 ∧ (end_ - start).tdiv 1000000 = 300)
    .v4SourceTimeFeatureError "V4 target must be a 300-second market"
  let expectedDecision ← addSeconds start 240
  require (decision = expectedDecision) .v4SourceTimeFeatureError
    "V4 decision_at must equal market_start_at + 240s"
  .ok { start, end_, decision }

/-! ## What both return -/

/-- A venue: the prefix of its names, and where its events are. -/
structure VenueSpec where
  name : String
  source : String
  stream : String
  instrument : String

def coinbaseSpec : VenueSpec := ⟨"coinbase", "coinbase", "spot", "BTC-USD"⟩

def bybitSpotSpec : VenueSpec := ⟨"bybit_spot", "bybit", "spot", "BTCUSDT"⟩

def bybitLinearSpec : VenueSpec := ⟨"bybit_linear", "bybit", "linear", "BTCUSDT"⟩

/-- `venue_specs`. -/
def venueSpecs : List VenueSpec := [coinbaseSpec, bybitSpotSpec, bybitLinearSpec]

/-- `V4_CORE_SOURCE_REQUIRED_FLAGS`. -/
def coreSourceRequiredFlags : List String :=
  ["coinbase_market_start_missing", "coinbase_market_start_stale", "coinbase_current_missing",
    "coinbase_current_stale", "bybit_spot_market_start_missing", "bybit_spot_market_start_stale",
    "bybit_spot_current_missing", "bybit_spot_current_stale", "bybit_linear_market_start_missing",
    "bybit_linear_market_start_stale", "bybit_linear_current_missing", "bybit_linear_current_stale"]

/-- `core_source_ineligible_reasons`. -/
def coreSourceIneligibleReasons (missingFlags : OrderedDict String Bool) : List String :=
  coreSourceRequiredFlags.filter fun flag => (missingFlags.get? flag).getD true

/-- `core_source_ready`. -/
def coreSourceReady (missingFlags : OrderedDict String Bool) : Bool :=
  (coreSourceIneligibleReasons missingFlags).isEmpty

/-- What was read at an anchor, under its name; the evidence after the first item is of a ticker, or is
numbered. -/
structure AnchorRead where
  key : String
  ofTicker : Bool
  price : PriceRead

/-- The evidence of an anchor, under its keys. -/
def AnchorRead.evidence (read : AnchorRead) : List (String × SourceTimeEventEvidence) :=
  read.price.2.zipIdx.map fun item =>
    (read.key ++ (if item.2 = 0 then "" else if read.ofTicker then "_ticker"
      else "_" ++ toString item.2), item.1)

/-- `source_evidence`. -/
def sourceEvidence (reads : List AnchorRead) : OrderedDict String SourceTimeEventEvidence :=
  OrderedDict.ofPairs (reads.flatMap AnchorRead.evidence)

variable {F : Type} (A : Arithmetic F)

/-- One call of `latest_price` for a venue. -/
def readAnchor (connection : Connection) (venue : VenueSpec) (key : String) (ofTicker : Bool)
    (requested : Timestamp) (includeLinearTickerState : Bool) : Reading AnchorRead := do
  let price ← latestPrice A connection venue.source venue.stream venue.instrument requested
    includeLinearTickerState
  pure ⟨key, ofTicker, price⟩

/-- The request of a venue at an instant. -/
def VenueSpec.request (venue : VenueSpec) (requested : Timestamp) (tickerOnly : Bool) :
    CandidateKey :=
  ⟨venue.source, venue.stream, venue.instrument, requested, tickerOnly⟩

/-! ## The probe -/

/-- `CoreSourceTimeReadiness`. -/
structure CoreSourceTimeReadiness where
  conditionId : String
  decisionAt : Timestamp
  missingFlags : OrderedDict String Bool
  sourceEvidence : OrderedDict String SourceTimeEventEvidence

/-- The flags of an anchor. -/
def AnchorRead.flags (read : AnchorRead) : List (String × Bool) :=
  [(read.key ++ "_missing", read.price.1.isNone),
    (read.key ++ "_stale", read.price.1.any fun state => !state.observation.fresh)]

/-- What the probe reads of a venue. -/
def probeVenue (connection : Connection) (times : TargetTimes) (venue : VenueSpec) :
    Reading (List AnchorRead) := do
  let readCore (name : String) (requested : Timestamp) : Reading AnchorRead :=
    readAnchor A connection venue (venue.name ++ "_" ++ name) false requested false
  let marketStart ← readCore "market_start" times.start
  let current ← readCore "current" times.decision
  pure [marketStart, current]

/-- `probe_core_source_time_v4_readiness`. -/
def probeCoreSourceTimeV4Readiness (connection : Connection) (target : V4FeatureTarget)
    (decisionAt : DateTime) : Reading CoreSourceTimeReadiness := do
  let times ← Reading.of (targetTimes target decisionAt)
  prefetchCandidateRows connection (venueSpecs.flatMap fun venue =>
    [venue.request times.start false, venue.request times.decision false])
  let coinbase ← probeVenue A connection times coinbaseSpec
  let bybitSpot ← probeVenue A connection times bybitSpotSpec
  let bybitLinear ← probeVenue A connection times bybitLinearSpec
  let reads := coinbase ++ bybitSpot ++ bybitLinear
  pure
    { conditionId := target.conditionId
      decisionAt := times.decision
      missingFlags := OrderedDict.ofPairs
        (coreSourceRequiredFlags.map (fun flag => (flag, false)) ++ reads.flatMap AnchorRead.flags)
      sourceEvidence := sourceEvidence reads }

/-! ## The builder -/

/-- `SourceTimeV4Features`. -/
structure SourceTimeV4Features (F : Type) where
  featureVersion : String
  conditionId : String
  decisionAt : Timestamp
  predictors : OrderedDict String (Value F)
  missingFlags : OrderedDict String Bool
  sourceCutoffs : OrderedDict String Timestamp
  sourceEvidence : OrderedDict String SourceTimeEventEvidence

/-- `V4_SOURCE_TIME_FEATURE_VERSION`. -/
def v4SourceTimeFeatureVersion : String := "v4-source-time-features-v2"

/-- One entry of `_merge_groups`. -/
def putUnique {α : Type} (kind : String) (target : OrderedDict String α) (entry : String × α) :
    Outcome (OrderedDict String α) := do
  require ((target.get? entry.1).isNone = true) .v4SourceTimeFeatureError
    ("duplicate V4 " ++ kind ++ ": " ++ entry.1)
  .ok (target.set entry.1 entry.2)

/-- What `_merge_groups` returns. -/
structure MergedGroups (F : Type) where
  values : OrderedDict String (Value F)
  missing : OrderedDict String Bool
  cutoffs : OrderedDict String Timestamp

/-- One group of `_merge_groups`. -/
def mergeGroup (merged : MergedGroups F) (group : FeatureGroup F) : Outcome (MergedGroups F) := do
  let values ← group.values.foldlM (putUnique "feature") merged.values
  let missing ← group.missingFlags.foldlM (putUnique "missing flag") merged.missing
  let cutoffs ← group.sourceCutoffs.foldlM (putUnique "cutoff") merged.cutoffs
  .ok { values, missing, cutoffs }

/-- `_merge_groups`. -/
def mergeGroups (groups : List (FeatureGroup F)) : Outcome (MergedGroups F) :=
  groups.foldlM mergeGroup ⟨.empty, .empty, .empty⟩

/-- The instants a venue is read at. -/
structure AnchorTimes where
  marketStart : Timestamp
  trailing120s : Timestamp
  trailing60s : Timestamp
  trailing30s : Timestamp
  current : Timestamp
  trailing60m : Timestamp
  trailing15m : Timestamp
  trailing5m : Timestamp

/-- `short_times` and `regime_times`. -/
def anchorTimes (times : TargetTimes) : Outcome AnchorTimes := do
  let trailing120s ← addSeconds times.decision (-120)
  let trailing60s ← addSeconds times.decision (-60)
  let trailing30s ← addSeconds times.decision (-30)
  let trailing60m ← addSeconds times.decision (-3600)
  let trailing15m ← addSeconds times.decision (-900)
  let trailing5m ← addSeconds times.decision (-300)
  .ok
    { marketStart := times.start
      trailing120s
      trailing60s
      trailing30s
      current := times.decision
      trailing60m
      trailing15m
      trailing5m }

/-- The requests of a venue; the state of the linear ticker is one more. -/
def AnchorTimes.requests (times : AnchorTimes) (venue : VenueSpec) : List CandidateKey :=
  ([times.marketStart, times.trailing120s, times.trailing60s, times.trailing30s, times.current,
    times.trailing60m, times.trailing15m, times.trailing5m].map fun requested =>
      venue.request requested false) ++
    if venue.name = "bybit_linear" then [venue.request times.current true] else []

/-- What a turn of the loop over the venues makes. -/
structure SourceVenue (F : Type) where
  venue : Venue F
  reads : List AnchorRead

/-- A turn of the loop over the venues. -/
def readSourceVenue (connection : Connection) (times : AnchorTimes) (venue : VenueSpec) :
    Reading (SourceVenue F) := do
  let readShort (name : String) (requested : Timestamp) : Reading AnchorRead :=
    readAnchor A connection venue (venue.name ++ "_" ++ name) true requested
      (venue.name = "bybit_linear" && name = "current")
  let readRegime (name : String) (requested : Timestamp) : Reading AnchorRead :=
    readAnchor A connection venue (venue.name ++ "_regime_" ++ name) false requested false
  let marketStart ← readShort "market_start" times.marketStart
  let trailing120s ← readShort "trailing_120s" times.trailing120s
  let trailing60s ← readShort "trailing_60s" times.trailing60s
  let trailing30s ← readShort "trailing_30s" times.trailing30s
  let current ← readShort "current" times.current
  let short : ShortAnchorSet :=
    { marketStart := marketStart.price.1
      trailing120s := trailing120s.price.1
      trailing60s := trailing60s.price.1
      trailing30s := trailing30s.price.1
      current := current.price.1 }
  let shortGroup ← Reading.of (shortReturnGroup A.toFloats venue.name short)
  let trailing60m ← readRegime "trailing_60m" times.trailing60m
  let trailing15m ← readRegime "trailing_15m" times.trailing15m
  let trailing5m ← readRegime "trailing_5m" times.trailing5m
  let regime : RegimeAnchorSet :=
    { trailing60m := trailing60m.price.1
      trailing15m := trailing15m.price.1
      trailing5m := trailing5m.price.1
      current := short.current }
  let regimeGroup ← Reading.of (regimeReturnGroup A.toFloats venue.name regime)
  pure
    { venue := { short, shortGroup, regimeGroup }
      reads := [marketStart, trailing120s, trailing60s, trailing30s, current, trailing60m,
        trailing15m, trailing5m] }

/-- `build_source_time_v4_features`. -/
def buildSourceTimeV4Features (connection : Connection) (target : V4FeatureTarget)
    (decisionAt : DateTime) : Reading (SourceTimeV4Features F) := do
  let times ← Reading.of (targetTimes target decisionAt)
  let geometry ← Reading.of (timeGeometry A.toFloats
    ⟨target.conditionId, target.slug, target.horizonSeconds, times.start, times.end_⟩ times.decision)
  let anchors ← Reading.of (anchorTimes times)
  prefetchCandidateRows connection (venueSpecs.flatMap anchors.requests)
  let coinbase ← readSourceVenue A connection anchors coinbaseSpec
  let bybitSpot ← readSourceVenue A connection anchors bybitSpotSpec
  let bybitLinear ← readSourceVenue A connection anchors bybitLinearSpec
  let crossVenue ← Reading.of (crossVenueGroup A.toFloats coinbase.venue.short bybitSpot.venue.short
    bybitLinear.venue.short)
  let consensus := regimeConsensusGroup A.toFloats fun horizon =>
    [regimeValue "coinbase" horizon coinbase.venue.regimeGroup,
      regimeValue "bybit_spot" horizon bybitSpot.venue.regimeGroup,
      regimeValue "bybit_linear" horizon bybitLinear.venue.regimeGroup]
  let merged ← Reading.of (mergeGroups
    [geometry, coinbase.venue.shortGroup, coinbase.venue.regimeGroup, bybitSpot.venue.shortGroup,
      bybitSpot.venue.regimeGroup, bybitLinear.venue.shortGroup, bybitLinear.venue.regimeGroup,
      crossVenue, consensus])
  pure
    { featureVersion := v4SourceTimeFeatureVersion
      conditionId := target.conditionId
      decisionAt := times.decision
      predictors := merged.values
      missingFlags := merged.missing
      sourceCutoffs := merged.cutoffs
      sourceEvidence := sourceEvidence (coinbase.reads ++ bybitSpot.reads ++ bybitLinear.reads) }

end BpEngine.V4Paper.SourceTime
