import BpEngine.Features.Service

/-!
# Building a V4 feature

`build_v4_feature` of `features/v4_service.py` with the calculators of `v4_calculators.py`: for each
venue the returns to earlier instants, then what the venues say together.

* `ShortAnchorSet` and `RegimeAnchorSet` are the states a venue is read at.
* `shortReturnGroup`, `regimeReturnGroup`, `crossVenueGroup` and `regimeConsensusGroup` are the
  calculators; a direction is an integer, the float of which is the value.
-/

namespace BpEngine.Features

variable {F : Type} (floats : Floats F)

/-! ## Anchors -/

/-- `BTCShortAnchorSet`. -/
structure ShortAnchorSet where
  marketStart : Option BtcStateObservation
  trailing120s : Option BtcStateObservation
  trailing60s : Option BtcStateObservation
  trailing30s : Option BtcStateObservation
  current : Option BtcStateObservation

/-- `BTCRegimeAnchorSet`. -/
structure RegimeAnchorSet where
  trailing60m : Option BtcStateObservation
  trailing15m : Option BtcStateObservation
  trailing5m : Option BtcStateObservation
  current : Option BtcStateObservation

/-- `_descriptor`. -/
def btcDescriptor (state : BtcStateObservation) : Value F :=
  .obj [("kind", .text "btc_compact_state"), ("row_id", .int state.observation.row.id),
    ("bucket_at", .time state.observation.row.bucketAt),
    ("last_event_at", .time state.observation.row.lastEventAt),
    ("source", .text state.observation.row.source), ("stream", .text state.observation.row.stream),
    ("instrument", .text state.observation.row.instrument), ("price", .decimal state.price),
    ("fresh", .bool state.observation.fresh),
    ("age_seconds", .float (floats.totalSeconds state.observation.age))]

/-- `observation` where it is `_usable`: there, and fresh. -/
def usable (state : Option BtcStateObservation) : Option BtcStateObservation :=
  state.filter fun state => state.observation.fresh

/-- A value that may be missing. -/
def floatValue : Option F → Value F
  | none => .none
  | some value => .float value

/-- `value if math.isfinite(value) else None`. -/
def finiteOrNone (value : F) : Option F := if floats.isFinite value then some value else none

/-- `_simple_return`, and `_basis` with the two the other way. -/
def stateReturn (current anchor : Option BtcStateObservation) : Outcome (Option F) :=
  match usable current, usable anchor with
  | some current, some anchor =>
    if current.price ≤ 0 ∨ anchor.price ≤ 0 then .ok none
    else do
      let ratio ← quotient current.price anchor.price
      .ok (finiteOrNone floats (floats.ofDecimal (ratio - 1)))
  | _, _ => .ok none

/-- The group of the values and of the states, each under its name. -/
def stateGroup (name : String) (values : List (String × Value F))
    (items : List (String × Option BtcStateObservation)) : FeatureGroup F where
  values
  missingFlags := items.flatMap fun item =>
    [(name ++ "_" ++ item.1 ++ "_missing", item.2.isNone),
      (name ++ "_" ++ item.1 ++ "_stale", item.2.any fun state => !state.observation.fresh)]
  sourceCutoffs := items.filterMap fun item =>
    item.2.map fun state => (name ++ "_" ++ item.1 ++ "_state", state.effectiveAt)
  observations := items.filterMap fun item => item.2.map (btcDescriptor floats)

/-- `short_return_group`. -/
def shortReturnGroup (name : String) (anchors : ShortAnchorSet) : Outcome (FeatureGroup F) := do
  require (name ≠ "") .valueError "prefix must not be empty"
  let fromMarketStart ← stateReturn floats anchors.current anchors.marketStart
  let return30s ← stateReturn floats anchors.current anchors.trailing30s
  let return60s ← stateReturn floats anchors.current anchors.trailing60s
  let return120s ← stateReturn floats anchors.current anchors.trailing120s
  .ok (stateGroup floats name
    [(name ++ "_return_from_market_start", floatValue fromMarketStart),
      (name ++ "_return_30s", floatValue return30s), (name ++ "_return_60s", floatValue return60s),
      (name ++ "_return_120s", floatValue return120s)]
    [("market_start", anchors.marketStart), ("trailing_120s", anchors.trailing120s),
      ("trailing_60s", anchors.trailing60s), ("trailing_30s", anchors.trailing30s),
      ("current", anchors.current)])

/-- `regime_return_group`. -/
def regimeReturnGroup (name : String) (anchors : RegimeAnchorSet) : Outcome (FeatureGroup F) := do
  require (name ≠ "") .valueError "prefix must not be empty"
  let return5m ← stateReturn floats anchors.current anchors.trailing5m
  let return15m ← stateReturn floats anchors.current anchors.trailing15m
  let return60m ← stateReturn floats anchors.current anchors.trailing60m
  .ok (stateGroup floats name
    [(name ++ "_return_5m", floatValue return5m), (name ++ "_return_15m", floatValue return15m),
      (name ++ "_return_60m", floatValue return60m)]
    [("regime_trailing_60m", anchors.trailing60m), ("regime_trailing_15m", anchors.trailing15m),
      ("regime_trailing_5m", anchors.trailing5m)])

/-! ## Directions -/

/-- `_direction`: 1, -1 or 0. -/
def direction (value : Option F) : Option ℤ :=
  match value with
  | none => none
  | some value =>
    if !floats.isFinite value then none
    else if floats.isPositive value then some 1
    else if floats.isNegative value then some (-1)
    else some 0

/-- `_majority_direction`. -/
def majorityDirection (values : List (Option F)) : Option ℤ :=
  let usable := ((values.map (direction floats)).filterMap id).filter (· ≠ 0)
  if usable.length < 2 then none
  else if 2 ≤ usable.count 1 then some 1
  else if 2 ≤ usable.count (-1) then some (-1)
  else some 0

/-- `_all_venue_agreement`. -/
def allVenueAgreement (values : List (Option F)) : Option ℤ :=
  let directions := values.map (direction floats)
  if directions.any Option.isNone then none
  else
    let nonzero := (directions.filterMap id).filter (· ≠ 0)
    if nonzero = [] then some 0
    else if nonzero.dedup.length = 1 ∧ nonzero.length = 3 then some 1
    else some 0

/-- The float of a direction. -/
def directionValue (value : Option ℤ) : Value F := floatValue (value.map floats.ofInt)

/-- `1.0 if flag else (0.0 if complete else None)`. -/
def flagValue (flag complete : Bool) : Value F :=
  directionValue floats (if flag then some 1 else if complete then some 0 else none)

/-- A group whose flags are the values that are missing. -/
def flaggedGroup (values : List (String × Value F)) : FeatureGroup F where
  values
  missingFlags := values.map fun entry => (entry.1 ++ "_missing", entry.2.isNone)

/-- `regime_consensus_group`, of the returns of the three venues by their horizon. -/
def regimeConsensusGroup (returns : String → List (Option F)) : FeatureGroup F :=
  let of5m := majorityDirection floats (returns "5m")
  let of15m := majorityDirection floats (returns "15m")
  let of60m := majorityDirection floats (returns "60m")
  let directions := [of5m, of15m, of60m]
  let complete := directions.all Option.isSome
  let bull := complete && directions.all (· = some 1)
  let bear := complete && directions.all (· = some (-1))
  let score :=
    if complete then some (floats.div (floats.ofInt (directions.filterMap id).sum) (floats.ofInt 3))
    else none
  flaggedGroup
    [("regime_5m_direction", directionValue floats of5m),
      ("regime_15m_direction", directionValue floats of15m),
      ("regime_60m_direction", directionValue floats of60m),
      ("regime_5m_venue_agreement", directionValue floats (allVenueAgreement floats (returns "5m"))),
      ("regime_15m_venue_agreement",
        directionValue floats (allVenueAgreement floats (returns "15m"))),
      ("regime_60m_venue_agreement",
        directionValue floats (allVenueAgreement floats (returns "60m"))),
      ("regime_trend_score", floatValue score), ("regime_bull", flagValue floats bull complete),
      ("regime_bear", flagValue floats bear complete),
      ("regime_sideways_mixed", flagValue floats (complete && !bull && !bear) complete)]

/-! ## Between venues -/

/-- `_direction_agreement`; a value of neither sign is zero. -/
def directionAgreement (left right : Option F) : Option ℤ :=
  match left, right with
  | some left, some right =>
    let signed (value : F) : Bool := floats.isPositive value || floats.isNegative value
    if !signed left || !signed right then none
    else if floats.isPositive left = floats.isPositive right then some 1
    else some 0
  | _, _ => none

/-- `_state_float`. -/
def stateFloat (state : Option BtcStateObservation) (key : String) : Option F :=
  match usable state with
  | none => none
  | some state =>
    let raw := state.observation.row.state.get key
    if isBlank raw then none
    else
      match decimalOfText raw.text with
      | some (.finite value) => finiteOrNone floats (floats.ofDecimal value)
      | _ => none

/-- `cross_venue_group`. -/
def crossVenueGroup (coinbase bybitSpot bybitLinear : ShortAnchorSet) :
    Outcome (FeatureGroup F) := do
  let coinbaseReturn ← stateReturn floats coinbase.current coinbase.marketStart
  let spotReturn ← stateReturn floats bybitSpot.current bybitSpot.marketStart
  let linearReturn ← stateReturn floats bybitLinear.current bybitLinear.marketStart
  let basis ← stateReturn floats bybitLinear.current bybitSpot.current
  let spread :=
    match coinbaseReturn, spotReturn with
    | some coinbase, some spot => some (floats.sub coinbase spot)
    | _, _ => none
  .ok (flaggedGroup
    [("coinbase_bybit_spot_return_spread", floatValue spread),
      ("coinbase_bybit_spot_direction_agree",
        directionValue floats (directionAgreement floats coinbaseReturn spotReturn)),
      ("spot_linear_direction_agree",
        directionValue floats (directionAgreement floats spotReturn linearReturn)),
      ("bybit_linear_vs_spot_basis", floatValue basis),
      ("bybit_linear_funding_rate", floatValue (stateFloat floats bybitLinear.current "funding_rate")),
      ("bybit_linear_open_interest",
        floatValue (stateFloat floats bybitLinear.current "open_interest"))])

/-! ## The feature -/

/-- `_target_times`. -/
def v4TargetTimes (target : FeatureTarget) : Outcome (Timestamp × Timestamp) := do
  require (target.horizonSeconds = 300) .valueError
    "V4 regime-aware targets must have horizon_seconds == 300"
  require (¬ target.marketEndAt ≤ target.marketStartAt) .valueError
    "market_end_at must be after market_start_at"
  require ((target.marketEndAt - target.marketStartAt) / 1000000 = 300) .valueError
    "V4 regime-aware market window must be exactly 300 seconds"
  .ok (target.marketStartAt, target.marketEndAt)

/-- `V4_OFFSETS_SECONDS`. -/
def v4OffsetsSeconds : List ℤ := [60, 120, 180, 240]

/-- `V4_FEATURE_VERSION`. -/
def v4FeatureVersion : String := "core-v4-regime-aware"

/-- `_short_anchor_set`. -/
def shortAnchorSet (db : Database) (source stream instrument : String)
    (marketStartAt featureAt : Timestamp) : Outcome ShortAnchorSet := do
  let read (requestedAt : Timestamp) : Outcome (Option BtcStateObservation) :=
    if requestedAt < marketStartAt then .ok none
    else latestBtcState db source stream instrument requestedAt
  let marketStart ← read marketStartAt
  let trailing120s ← read (featureAt - Timestamp.ofSeconds 120)
  let trailing60s ← read (featureAt - Timestamp.ofSeconds 60)
  let trailing30s ← read (featureAt - Timestamp.ofSeconds 30)
  let current ← read featureAt
  .ok { marketStart, trailing120s, trailing60s, trailing30s, current }

/-- `_regime_anchor_set`. -/
def regimeAnchorSet (db : Database) (source stream instrument : String) (featureAt : Timestamp)
    (current : Option BtcStateObservation) : Outcome RegimeAnchorSet := do
  let read (seconds : ℤ) : Outcome (Option BtcStateObservation) :=
    latestBtcState db source stream instrument (featureAt - Timestamp.ofSeconds seconds)
  let trailing60m ← read 3600
  let trailing15m ← read 900
  let trailing5m ← read 300
  .ok { trailing60m, trailing15m, trailing5m, current }

/-- What the loop of `build_v4_feature` makes of a venue. -/
structure Venue (F : Type) where
  short : ShortAnchorSet
  shortGroup : FeatureGroup F
  regimeGroup : FeatureGroup F

/-- One turn of the loop. -/
def readVenue (db : Database) (name stream instrument : String) (startAt featureAt : Timestamp) :
    Outcome (Venue F) := do
  let source := if name = "coinbase" then "coinbase" else "bybit"
  let short ← shortAnchorSet db source stream instrument startAt featureAt
  let shortGroup ← shortReturnGroup floats name short
  let regime ← regimeAnchorSet db source stream instrument featureAt short.current
  let regimeGroup ← regimeReturnGroup floats name regime
  .ok { short, shortGroup, regimeGroup }

/-- `_regime_values`, of one horizon. -/
def regimeValue (name horizon : String) (group : FeatureGroup F) : Option F :=
  match group.values.lookup (name ++ "_return_" ++ horizon) with
  | some (.float value) => some value
  | _ => none

/-- `build_v4_feature`, with no repository to store the row in. -/
def buildV4Feature (db : Database) (target : FeatureTarget) (featureAt generatedAt : Timestamp) :
    Outcome (MarketFeature F) := do
  let (startAt, endAt) ← v4TargetTimes target
  require (startAt < featureAt ∧ featureAt < endAt) .valueError
    "feature_at must be strictly inside market window"
  require (featureAt ∈ v4OffsetsSeconds.map fun offset => startAt + Timestamp.ofSeconds offset)
    .valueError "feature_at must be one of the fixed V4 offsets"
  let geometry ← timeGeometry floats target featureAt
  let coinbase ← readVenue floats db "coinbase" "spot" "BTC-USD" startAt featureAt
  let bybitSpot ← readVenue floats db "bybit_spot" "spot" "BTCUSDT" startAt featureAt
  let bybitLinear ← readVenue floats db "bybit_linear" "linear" "BTCUSDT" startAt featureAt
  let crossVenue ← crossVenueGroup floats coinbase.short bybitSpot.short bybitLinear.short
  let consensus := regimeConsensusGroup floats fun horizon =>
    [regimeValue "coinbase" horizon coinbase.regimeGroup,
      regimeValue "bybit_spot" horizon bybitSpot.regimeGroup,
      regimeValue "bybit_linear" horizon bybitLinear.regimeGroup]
  assemble floats "v4_feature_target" v4FeatureVersion target featureAt generatedAt
    [geometry, coinbase.shortGroup, coinbase.regimeGroup, bybitSpot.shortGroup,
      bybitSpot.regimeGroup, bybitLinear.shortGroup, bybitLinear.regimeGroup, crossVenue, consensus]

end BpEngine.Features
