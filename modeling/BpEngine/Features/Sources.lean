import BpEngine.Library.Query
import BpEngine.Storage.Records

/-!
# The sources of a feature

The tables a feature is built from, and the queries of `features/sources.py` and `v4_sources.py` and
of `load_trade_flow`.

* `PriceRow`, `CandleRow`, `StateRow` are rows, and the observations made of them; `effectiveAt` is
  when a row counts as known.
* `latestPolymarketPrice`, `closedCandles`, `latestState`, `latestBtcState` and `windowEvents` are the
  queries.
Instants are aware, so the conversions to UTC do nothing; an age is in microseconds.
-/

namespace BpEngine.Features

open BpEngine.Storage

/-! ## Rows -/

/-- A row of `polymarket_price_history`, a `PriceObservation`. -/
structure PriceRow where
  id : ℕ
  source : String
  conditionId : String
  assetId : String
  outcome : String
  observedAt : Timestamp
  price : Decimal
  fidelityMinutes : ℤ

/-- A row of `btc_candles`, a `CandleObservation`. -/
structure CandleRow where
  id : ℕ
  source : String
  marketType : String
  symbol : String
  intervalSeconds : ℤ
  bucketAt : Timestamp
  openPrice : Decimal
  high : Decimal
  low : Decimal
  close : Decimal
  volume : Decimal
  turnover : Option Decimal

/-- A row of `market_state_1s`. -/
structure StateRow where
  id : ℕ
  bucketAt : Timestamp
  stateKey : String
  source : String
  stream : String
  instrument : String
  marketId : Option String
  assetId : Option String
  lastEventAt : Timestamp
  state : Dict

/-- `PriceObservation.effective_at`. -/
def PriceRow.effectiveAt (row : PriceRow) : Timestamp := row.observedAt

/-- `CandleObservation.effective_at`. -/
def CandleRow.effectiveAt (row : CandleRow) : Timestamp :=
  row.bucketAt + Timestamp.ofSeconds row.intervalSeconds

/-- `StateObservation.effective_at`. -/
def StateRow.effectiveAt (row : StateRow) : Timestamp := max row.bucketAt row.lastEventAt

/-- `StateObservation`: the row, and its age when it was read. -/
structure StateObservation where
  row : StateRow
  fresh : Bool
  age : ℤ

/-- `effective_at`. -/
def StateObservation.effectiveAt (observation : StateObservation) : Timestamp :=
  observation.row.effectiveAt

/-- The tables a feature is built from. -/
structure Database where
  prices : Relation PriceRow PriceRow.id
  candles : Relation CandleRow CandleRow.id
  states : Relation StateRow StateRow.id
  rawEvents : Relation RawRow RawRow.id

/-! ## The queries -/

/-- `state_fresh_seconds`, in microseconds. -/
def stateFreshAge : ℤ := 10000000

/-- `latest_polymarket_price`. -/
def latestPolymarketPrice (db : Database) (conditionId outcome : String) (featureAt : Timestamp) :
    Outcome (Option PriceRow) :=
  match (db.prices.select
      (fun row => row.conditionId = conditionId && row.outcome = outcome &&
        row.observedAt ≤ featureAt)
      (Relation.newestFirst PriceRow.observedAt PriceRow.id)).head? with
  | none => .ok none
  | some row => do
    require (¬ featureAt < row.observedAt) .featureLeakageError
      "polymarket price observed_at exceeds feature_at"
    .ok (some row)

/-- The candle closed before the feature. -/
def checkCandle (featureAt : Timestamp) (row : CandleRow) : Outcome CandleRow := do
  require (¬ featureAt < row.effectiveAt) .featureLeakageError "candle close exceeds feature_at"
  .ok row

/-- `closed_candles`: the last ones, the oldest first. -/
def closedCandles (db : Database) (source marketType symbol : String) (intervalSeconds : ℤ)
    (featureAt : Timestamp) (limit : ℕ) : Outcome (List CandleRow) := do
  require (¬ intervalSeconds ≤ 0) .valueError "interval_seconds must be positive"
  require (limit ≠ 0) .valueError "limit must be positive"
  let latestBucket := featureAt - Timestamp.ofSeconds intervalSeconds
  let rows := (db.candles.select
    (fun row => row.source = source && row.marketType = marketType && row.symbol = symbol &&
      row.intervalSeconds = intervalSeconds && row.bucketAt ≤ latestBucket)
    (Relation.newestFirst CandleRow.bucketAt CandleRow.id)).take limit
  rows.reverse.mapM (checkCandle featureAt)

/-- `latest_state`. -/
def latestState (db : Database) (source stream instrument : String) (assetId : Option String)
    (featureAt : Timestamp) : Outcome (Option StateObservation) :=
  match (db.states.select
      (fun row => row.source = source && row.stream = stream && row.instrument = instrument &&
        row.bucketAt ≤ featureAt && row.lastEventAt ≤ featureAt && row.assetId = assetId)
      (Relation.newestFirst StateRow.bucketAt StateRow.id)).head? with
  | none => .ok none
  | some row => do
    require (¬ featureAt < row.bucketAt) .featureLeakageError "state bucket_at exceeds feature_at"
    require (¬ featureAt < row.lastEventAt) .featureLeakageError
      "state last_event_at exceeds feature_at"
    let age := featureAt - row.lastEventAt
    .ok (some { row, fresh := age ≤ stateFreshAge, age })

/-- `BTCStateObservation`: a state with a positive price. -/
structure BtcStateObservation where
  observation : StateObservation
  price : Decimal

/-- `_effective_at`. -/
def BtcStateObservation.effectiveAt (observation : BtcStateObservation) : Timestamp :=
  observation.observation.effectiveAt

/-- `raw_price in (None, "")`. -/
def isBlank (value : Json) : Bool :=
  match value with
  | .null => true
  | .str text => text = ""
  | _ => false

/-- `latest_btc_state`. -/
def latestBtcState (db : Database) (source stream instrument : String) (asOf : Timestamp) :
    Outcome (Option BtcStateObservation) := do
  match ← latestState db source stream instrument none asOf with
  | none => .ok none
  | some observation =>
    let rawPrice := observation.row.state.get "last_price"
    if isBlank rawPrice then .ok none
    else
      match decimalOfText rawPrice.text with
      | some (.finite price) =>
        .ok (if price ≤ 0 then none else some { observation, price })
      | _ => .ok none

/-! ### Raw events -/

/-- `RAW_EXCLUSIONS`: the intervals without a proven raw coverage. -/
def rawExclusions : List (Timestamp × Timestamp) :=
  [(1787428800000000, 1787432400000000), (1787518800000000, 1787566696692122)]

/-- `raw_window_exclusion(start, end) is not None`, of a window that is not empty. -/
def rawWindowExcluded (startAt endAt : Timestamp) : Bool :=
  rawExclusions.any fun exclusion => startAt < exclusion.2 && exclusion.1 < endAt

/-- The events `load_trade_flow` reads, unless the window is excluded: those received in the
`windowSeconds` up to the feature, in the order they were received. -/
def windowEvents (db : Database) (source stream instrument : String) (featureAt : Timestamp)
    (windowSeconds : ℤ) : List RawRow :=
  let left := featureAt - Timestamp.ofSeconds windowSeconds
  db.rawEvents.select
    (fun row => row.event.source = source && row.event.stream = stream &&
      row.event.instrument = instrument && left < row.receivedAt && row.receivedAt ≤ featureAt)
    (Relation.oldestFirst RawRow.receivedAt RawRow.id)

/-! ## What was known at an instant -/

/-- The databases have the same rows among those that are effective by `at`. -/
structure SamePast (until_ : Timestamp) (db other : Database) : Prop where
  prices : Relation.Agree (fun row => row.effectiveAt ≤ until_) db.prices other.prices
  candles : Relation.Agree (fun row => row.effectiveAt ≤ until_) db.candles other.candles
  states : Relation.Agree (fun row => row.effectiveAt ≤ until_) db.states other.states
  rawEvents : Relation.Agree (fun row => row.receivedAt ≤ until_) db.rawEvents other.rawEvents

end BpEngine.Features
