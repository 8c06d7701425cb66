import BpEngine.Features.Sources
import BpEngine.Library.DecimalContext
import BpEngine.Library.DecimalText
import Mathlib.Data.List.DropRight

/-!
# Feature groups

The values a feature is made of, after `features/hashing.py` and `features/calculators.py`.

* `Value` is a value of a feature or of a descriptor; `canonicalize` is what `canonical_hash` hashes.
* `FeatureGroup` is what a calculator returns: values, missing flags, the cutoff of each source, and
  the descriptors of the rows it was given.
* `timeGeometry`, `polymarketPrices`, `bookState`, `coinbaseCandles`, `bybitState` and
  `officialReference` are the calculators.
Binary floats are a parameter (`Floats`), with the text and the digest of a value.
-/

namespace BpEngine.Features

/-! ## Values -/

/-- A value: of a feature, of a descriptor of a row, or of both. -/
inductive Value (F : Type) where
  | none
  | bool (value : Bool)
  | int (value : ℤ)
  | text (value : String)
  | time (value : Timestamp)
  | decimal (value : Decimal)
  | float (value : F)
  | json (value : Json)
  | obj (entries : List (String × Value F))
  | list (items : List (Value F))

/-- Binary floats, and the SHA-256 of the JSON text of a canonical value. -/
structure Floats (F : Type) where
  ofDecimal : Decimal → F
  ofInt : ℤ → F
  totalSeconds : ℤ → F
  isFinite : F → Bool
  isPositive : F → Bool
  isNegative : F → Bool
  add : F → F → F
  sub : F → F → F
  div : F → F → F
  log : F → Option F
  pstdev : List F → F
  digest : Value F → String

/-! ### Canonical values -/

/-- `rendered.rstrip("0").rstrip(".")` of a text with a point. -/
def withoutZeros (rendered : List Char) : List Char :=
  if '.' ∈ rendered then (rendered.rdropWhile (· = '0')).rdropWhile (· = '.') else rendered

/-- `_decimal_text`; a number that is too large for the context raises when it is normalized. -/
def decimalText (value : Decimal) : Outcome String :=
  match value.normalize with
  | none => raise .arithmeticError "[<class 'decimal.Overflow'>]"
  | some normalized =>
    .ok (if normalized.coeff = 0 then "0" else String.ofList (withoutZeros normalized.fixedChars))

/-- `value.astimezone(UTC).isoformat().replace("+00:00", "Z")`. -/
def utcText (value : Timestamp) : String := (IsoTime.isoformat value).replace "+00:00" "Z"

section Canonical

variable {F : Type} (floats : Floats F)

mutual

/-- `_canonicalize`. -/
def canonicalize : Value F → Outcome (Value F)
  | .time value => .ok (.text (utcText value))
  | .decimal value => do .ok (.text (← decimalText value))
  | .float value => do
    require (floats.isFinite value = true) .valueError "float values must be finite"
    .ok (.float value)
  | .obj entries => do .ok (.obj (← canonicalizeEntries entries))
  | .list items => do .ok (.list (← canonicalizeItems items))
  | value => .ok value

def canonicalizeEntries : List (String × Value F) → Outcome (List (String × Value F))
  | [] => .ok []
  | (key, value) :: entries => do
    let first ← canonicalize value
    let rest ← canonicalizeEntries entries
    .ok ((key, first) :: rest)

def canonicalizeItems : List (Value F) → Outcome (List (Value F))
  | [] => .ok []
  | item :: items => do
    let first ← canonicalize item
    let rest ← canonicalizeItems items
    .ok (first :: rest)

end

/-- `canonical_hash`. -/
def canonicalHash (value : Value F) : Outcome String := do
  let canonical ← canonicalize floats value
  .ok (floats.digest canonical)

end Canonical

/-! ## Groups -/

/-- `FeatureGroup`. -/
structure FeatureGroup (F : Type) where
  values : List (String × Value F) := []
  missingFlags : List (String × Bool) := []
  sourceCutoffs : List (String × Timestamp) := []
  observations : List (Value F) := []

/-- `FeatureTarget` and `V4FeatureTarget`. -/
structure FeatureTarget where
  conditionId : String
  slug : String
  horizonSeconds : ℤ
  marketStartAt : Timestamp
  marketEndAt : Timestamp

variable {F : Type} (floats : Floats F)

/-- `_float`. -/
def finiteFloat (value : F) (name : String) : Outcome (Value F) := do
  require (floats.isFinite value = true) .valueError (name ++ " must be finite")
  .ok (.float value)

/-- `_float` of a decimal. -/
def floatOf (value : Decimal) (name : String) : Outcome (Value F) :=
  finiteFloat floats (floats.ofDecimal value) name

/-- `_float` of a decimal that may be missing. -/
def floatOrNone (value : Option Decimal) (name : String) : Outcome (Value F) :=
  match value with
  | none => .ok .none
  | some value => floatOf floats value name

/-- `_state_number`. -/
def stateNumber (state : StateObservation) (key : String) : Outcome (Option Decimal) :=
  let value := state.row.state.get key
  if isBlank value then .ok none
  else
    match decimalOfText value.text with
    | some (.finite number) => .ok (some number)
    | some _ => raise .valueError (key ++ " must be finite")
    | none => raise .valueError (key ++ " must be numeric")

/-- A text that may be missing. -/
def textOrNone : Option String → Value F
  | none => .none
  | some value => .text value

/-- `_price_descriptor`. -/
def priceDescriptor (row : PriceRow) : Value F :=
  .obj [("kind", .text "polymarket_price"), ("row_id", .int row.id), ("source", .text row.source),
    ("condition_id", .text row.conditionId), ("asset_id", .text row.assetId),
    ("outcome", .text row.outcome), ("observed_at", .time row.observedAt),
    ("price", .decimal row.price), ("fidelity_minutes", .int row.fidelityMinutes)]

/-- `_state_descriptor`. -/
def stateDescriptor (observation : StateObservation) : Value F :=
  .obj [("kind", .text "compact_state"), ("row_id", .int observation.row.id),
    ("state_key", .text observation.row.stateKey), ("bucket_at", .time observation.row.bucketAt),
    ("last_event_at", .time observation.row.lastEventAt), ("source", .text observation.row.source),
    ("stream", .text observation.row.stream), ("instrument", .text observation.row.instrument),
    ("asset_id", textOrNone observation.row.assetId), ("fresh", .bool observation.fresh),
    ("state", .json (.obj observation.row.state))]

/-- `_candle_descriptor`. -/
def candleDescriptor (row : CandleRow) : Value F :=
  .obj [("kind", .text "btc_candle"), ("row_id", .int row.id), ("source", .text row.source),
    ("market_type", .text row.marketType), ("symbol", .text row.symbol),
    ("interval_seconds", .int row.intervalSeconds), ("bucket_at", .time row.bucketAt),
    ("open", .decimal row.openPrice), ("high", .decimal row.high), ("low", .decimal row.low),
    ("close", .decimal row.close), ("volume", .decimal row.volume),
    ("turnover", match row.turnover with
      | none => .none
      | some turnover => .decimal turnover)]

/-! ## The calculators -/

/-- `time_geometry`. -/
def timeGeometry (target : FeatureTarget) (featureAt : Timestamp) : Outcome (FeatureGroup F) := do
  require (¬ target.horizonSeconds ≤ 0) .valueError "horizon_seconds must be positive"
  require (¬ target.marketEndAt ≤ target.marketStartAt) .valueError
    "market_end_at must be after market_start_at"
  require (target.marketStartAt < featureAt ∧ featureAt < target.marketEndAt) .valueError
    "feature_at must be strictly inside market window"
  let elapsed := featureAt - target.marketStartAt
  let remaining := target.marketEndAt - featureAt
  let fraction ← finiteFloat floats
    (floats.div (floats.totalSeconds elapsed) (floats.ofInt target.horizonSeconds)) "fraction_elapsed"
  .ok
    { values := [("seconds_elapsed", .int (elapsed / 1000000)),
        ("seconds_remaining", .int (remaining / 1000000)), ("fraction_elapsed", fraction),
        ("horizon_seconds", .int target.horizonSeconds)] }

/-- The part of `polymarket_prices` about one side: its price and its staleness. -/
def sidePrice (label name : String) (price : Option PriceRow) (featureAt : Timestamp) :
    Outcome (Value F × Value F) :=
  match price with
  | none => .ok (.none, .none)
  | some row => do
    require (¬ featureAt < row.effectiveAt) .valueError
      (label ++ " price observation exceeds feature_at")
    let value ← floatOf floats row.price (name ++ "_price")
    let staleness ← finiteFloat floats (floats.totalSeconds (featureAt - row.effectiveAt))
      (name ++ "_price_staleness_s")
    .ok (value, staleness)

/-- `polymarket_prices`. -/
def polymarketPrices (up down : Option PriceRow) (featureAt : Timestamp) :
    Outcome (FeatureGroup F) := do
  let (upPrice, upStaleness) ← sidePrice floats "Up" "pm_up" up featureAt
  let (downPrice, downStaleness) ← sidePrice floats "Down" "pm_down" down featureAt
  let (total, difference) ←
    match up, down with
    | some up, some down => do
      let total ← floatOf floats (up.price + down.price) "pm_price_sum"
      let difference ← floatOf floats (up.price - down.price) "pm_up_minus_down"
      pure (total, difference)
    | _, _ => pure (Value.none, Value.none)
  .ok
    { values := [("pm_up_price", upPrice), ("pm_down_price", downPrice), ("pm_price_sum", total),
        ("pm_up_minus_down", difference), ("pm_up_price_staleness_s", upStaleness),
        ("pm_down_price_staleness_s", downStaleness)]
      missingFlags := [("pm_up_price_missing", up.isNone), ("pm_down_price_missing", down.isNone)]
      sourceCutoffs :=
        (up.map fun row => ("polymarket_up_price", row.effectiveAt)).toList ++
          (down.map fun row => ("polymarket_down_price", row.effectiveAt)).toList
      observations := (up.map priceDescriptor).toList ++ (down.map priceDescriptor).toList }

/-- The quotient of two decimals; the divisor is positive where it is used. -/
def quotient (a b : Decimal) : Outcome Decimal :=
  match a.div b with
  | none => raise .arithmeticError "division by zero"
  | some value => .ok value

/-- The numbers of a fresh book. -/
def freshBookValues (name : String) (state : StateObservation) :
    Outcome (List (String × Value F) × Bool) := do
  let bid ← stateNumber state "best_bid"
  let ask ← stateNumber state "best_ask"
  let bidDepth ← stateNumber state "bid_depth"
  let askDepth ← stateNumber state "ask_depth"
  let bidValue ← floatOrNone floats bid (name ++ "_best_bid")
  let askValue ← floatOrNone floats ask (name ++ "_best_ask")
  let (mid, spread) ←
    match bid, ask with
    | some bid, some ask => do
      let middle ← quotient (bid + ask) (.ofInt 2)
      let mid ← floatOf floats middle (name ++ "_mid")
      let spread ← floatOf floats (ask - bid) (name ++ "_spread")
      pure (mid, spread)
    | _, _ => pure (Value.none, Value.none)
  let bidDepthValue ← floatOrNone floats bidDepth (name ++ "_bid_depth")
  let askDepthValue ← floatOrNone floats askDepth (name ++ "_ask_depth")
  let imbalance ←
    match bidDepth, askDepth with
    | some bidDepth, some askDepth =>
      if 0 < bidDepth + askDepth then do
        let ratio ← quotient (bidDepth - askDepth) (bidDepth + askDepth)
        floatOf floats ratio (name ++ "_book_imbalance")
      else pure .none
    | _, _ => pure .none
  .ok ([(name ++ "_best_bid", bidValue), (name ++ "_best_ask", askValue), (name ++ "_mid", mid),
      (name ++ "_spread", spread), (name ++ "_bid_depth", bidDepthValue),
      (name ++ "_ask_depth", askDepthValue), (name ++ "_book_imbalance", imbalance)],
    bid.isNone || ask.isNone)

/-- `dict.fromkeys(_book_keys(prefix))`. -/
def noBookValues (name : String) : List (String × Value F) :=
  ["_best_bid", "_best_ask", "_mid", "_spread", "_bid_depth", "_ask_depth", "_book_imbalance"].map
    fun key => (name ++ key, .none)

/-- `book_state`. -/
def bookState (name : String) (state : Option StateObservation) : Outcome (FeatureGroup F) :=
  match state with
  | none => .ok
      { values := noBookValues name
        missingFlags := [(name ++ "_book_missing", true), (name ++ "_book_stale", false)] }
  | some state => do
    let (values, missing) ←
      if state.fresh then freshBookValues floats name state else pure (noBookValues name, true)
    .ok
      { values
        missingFlags := [(name ++ "_book_missing", missing), (name ++ "_book_stale", !state.fresh)]
        sourceCutoffs := [(name ++ "_book_state", state.effectiveAt)]
        observations := [stateDescriptor state] }

/-- `_simple_return`. -/
def simpleReturn (latest earlier : Decimal) (name : String) : Outcome (Value F) := do
  require (¬ (earlier ≤ 0 ∨ latest ≤ 0)) .valueError (name ++ " requires positive prices")
  let ratio ← quotient latest earlier
  floatOf floats (ratio - 1) name

/-- `math.log(float(current / previous))`. -/
def logReturn (pair : Decimal × Decimal) : Outcome F := do
  let ratio ← quotient pair.2 pair.1
  match floats.log (floats.ofDecimal ratio) with
  | none => raise .valueError "math domain error"
  | some value => .ok value

/-- `_realized_volatility`. -/
def realizedVolatility (candles : List CandleRow) (periods : ℕ) : Outcome (Value F) :=
  if candles.length < periods + 1 then .ok .none
  else do
    let closes := (candles.drop (candles.length - (periods + 1))).map CandleRow.close
    require (¬ closes.any fun close => close ≤ 0) .valueError
      "volatility requires positive finite closes"
    let returns ← (closes.zip closes.tail).mapM (logReturn floats)
    finiteFloat floats (floats.pstdev returns) ("realized_volatility_" ++ toString periods)

/-- `ordered[-(periods + 1)].close`, where there is one. -/
def periodReturn (ordered : List CandleRow) (latest : CandleRow) (periods : ℕ) :
    Outcome (Value F) :=
  match ordered.reverse[periods]? with
  | none => .ok .none
  | some earlier =>
    simpleReturn floats latest.close earlier.close ("coinbase_return_" ++ toString periods ++ "m")

/-- The value is missing. -/
def Value.isNone : Value F → Bool
  | .none => true
  | _ => false

/-- `coinbase_candles`. -/
def coinbaseCandles (candles : List CandleRow) (marketStartAt : Timestamp) :
    Outcome (FeatureGroup F) :=
  let ordered := candles.insertionSort (Relation.oldestFirst CandleRow.effectiveAt CandleRow.id)
  match ordered.getLast? with
  | none => .ok
      { values := ["coinbase_latest_close", "coinbase_return_1m", "coinbase_return_5m",
          "coinbase_return_15m", "coinbase_realized_vol_5m", "coinbase_realized_vol_15m",
          "coinbase_return_from_prestart_close"].map fun key => (key, .none)
        missingFlags := [("coinbase_candles_missing", true)] }
  | some latest => do
    require (¬ latest.close ≤ 0) .valueError "coinbase latest close must be positive and finite"
    let latestClose ← floatOf floats latest.close "coinbase_latest_close"
    let return1 ← periodReturn floats ordered latest 1
    let return5 ← periodReturn floats ordered latest 5
    let return15 ← periodReturn floats ordered latest 15
    let volatility5 ← realizedVolatility floats ordered 5
    let volatility15 ← realizedVolatility floats ordered 15
    let prestart ←
      match (ordered.filter fun candle => candle.effectiveAt ≤ marketStartAt).getLast? with
      | none => pure .none
      | some candle =>
        simpleReturn floats latest.close candle.close "coinbase_return_from_prestart_close"
    .ok
      { values := [("coinbase_latest_close", latestClose), ("coinbase_return_1m", return1),
          ("coinbase_return_5m", return5), ("coinbase_return_15m", return15),
          ("coinbase_realized_vol_5m", volatility5), ("coinbase_realized_vol_15m", volatility15),
          ("coinbase_return_from_prestart_close", prestart)]
        missingFlags := [("coinbase_candles_missing",
          [return1, return5, return15, volatility5, volatility15].any Value.isNone)]
        sourceCutoffs := [("coinbase_candles", latest.effectiveAt)]
        observations := ordered.map candleDescriptor }

/-- `_fresh_state_values`: the numbers of a fresh state, by the keys that are read of it. -/
def freshStateValues (state : Option StateObservation) :
    Outcome (Option (String → Option Decimal)) :=
  match state with
  | none => .ok none
  | some state =>
    if state.fresh then do
      let last ← stateNumber state "last_price"
      let bid ← stateNumber state "best_bid"
      let ask ← stateNumber state "best_ask"
      let mark ← stateNumber state "mark_price"
      let index ← stateNumber state "index_price"
      let fundingRate ← stateNumber state "funding_rate"
      let openInterest ← stateNumber state "open_interest"
      .ok (some fun key => match key with
        | "last" => last
        | "best_bid" => bid
        | "best_ask" => ask
        | "mark" => mark
        | "index" => index
        | "funding_rate" => fundingRate
        | "open_interest" => openInterest
        | _ => none)
    else .ok none

/-- `bybit_state`. -/
def bybitState (spot linear : Option StateObservation) : Outcome (FeatureGroup F) := do
  let spotValues ← freshStateValues spot
  let linearValues ← freshStateValues linear
  let ofSpot (key : String) : Option Decimal := spotValues.bind (· key)
  let ofLinear (key : String) : Option Decimal := linearValues.bind (· key)
  let spotLast ← floatOrNone floats (ofSpot "last") "bybit_spot_last"
  let spotMid ←
    match ofSpot "best_bid", ofSpot "best_ask" with
    | some bid, some ask => do
      let middle ← quotient (bid + ask) (.ofInt 2)
      floatOf floats middle "bybit_spot_mid"
    | _, _ => pure .none
  let linearLast ← floatOrNone floats (ofLinear "last") "bybit_linear_last"
  let linearMark ← floatOrNone floats (ofLinear "mark") "bybit_linear_mark"
  let linearIndex ← floatOrNone floats (ofLinear "index") "bybit_linear_index"
  let fundingRate ← floatOrNone floats (ofLinear "funding_rate") "bybit_linear_funding_rate"
  let openInterest ← floatOrNone floats (ofLinear "open_interest") "bybit_linear_open_interest"
  let basis ←
    match ofSpot "last", ofLinear "last" with
    | some spotLast, some linearLast =>
      simpleReturn floats linearLast spotLast "bybit_linear_vs_spot_basis"
    | _, _ => pure .none
  .ok
    { values := [("bybit_spot_last", spotLast), ("bybit_spot_mid", spotMid),
        ("bybit_linear_last", linearLast), ("bybit_linear_mark", linearMark),
        ("bybit_linear_index", linearIndex), ("bybit_linear_funding_rate", fundingRate),
        ("bybit_linear_open_interest", openInterest), ("bybit_linear_vs_spot_basis", basis)]
      missingFlags := [("bybit_spot_state_missing", !spot.any StateObservation.fresh),
        ("bybit_linear_state_missing", !linear.any StateObservation.fresh)]
      sourceCutoffs :=
        (spot.map fun state => ("bybit_spot_state", state.effectiveAt)).toList ++
          (linear.map fun state => ("bybit_linear_state", state.effectiveAt)).toList
      observations := (spot.map stateDescriptor).toList ++ (linear.map stateDescriptor).toList }

/-- `official_reference`. -/
def officialReference : FeatureGroup F where
  values := [("official_reference_distance", .none)]
  missingFlags := [("official_reference_missing", true)]

end BpEngine.Features
