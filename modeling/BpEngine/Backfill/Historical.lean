import BpEngine.Execution.Documents

/-!
# Historical observations

`storage/historical.py` and `backfill/provenance.py`: observations of a provider are written once, and
written again only when they agree with what is stored.

* `Column` is a `Numeric` column: it rounds to its scale.
* `Observations` is what a table does with an observation: the row it becomes, and whether a row agrees
  with it; `Observations.store` is the write.
* `storeBtcCandle` and `storePolymarketPrice` are the two uses.
* `recordArtifact` writes down that a response was received.
Rows are in the order of their ids, which are left out.
-/

namespace BpEngine.Backfill

/-! ## Columns -/

/-- A `Numeric(digits, scale)` column. -/
structure Column where
  digits : ℕ
  scale : ℕ

/-- The value the column keeps: rounded to the scale. -/
def Column.written (column : Column) (value : Decimal) : Outcome Decimal := do
  require ((value.roundToScale column.scale).coeff.natAbs < 10 ^ column.digits) .databaseError
    "numeric field overflow"
  .ok (value.roundToScale column.scale)

/-- The value the column keeps of one that may be null. -/
def Column.writtenOrNull (column : Column) : Option Decimal → Outcome (Option Decimal)
  | none => .ok none
  | some value => do .ok (some (← column.written value))

/-- The columns of prices. -/
def priceColumn : Column := ⟨24, 12⟩

/-- The columns of volumes. -/
def volumeColumn : Column := ⟨38, 18⟩

/-- `a == b` of values that may be null. -/
def sameOrNull : Option Decimal → Option Decimal → Bool
  | none, none => true
  | some a, some b => Decimal.Same a b
  | _, _ => false

/-! ## Tables of observations -/

/-- What a table does with an observation. -/
structure Observations (Obs Row Key : Type) where
  key : Obs → Key
  rowKey : Row → Key
  /-- The checks before the write. -/
  valid : Obs → Outcome Unit
  /-- The row the database makes of the observation. -/
  written : Obs → Outcome Row
  /-- `actual == expected`. -/
  agrees : Row → Obs → Bool
  conflict : Obs → Raised

/-- The table after a write, and `StoreResult`. -/
structure Stored (Row : Type) where
  table : List Row
  created : Bool

namespace Observations

variable {Obs Row Key : Type} [DecidableEq Key] (relation : Observations Obs Row Key)

/-- The row with the key of the observation. -/
def existing (table : List Row) (o : Obs) : Option Row :=
  table.find? fun row => relation.rowKey row = relation.key o

/-- The write of an observation. -/
def store (table : List Row) (o : Obs) : Outcome (Stored Row) := do
  relation.valid o
  match relation.existing table o with
  | none => do
    let row ← relation.written o
    .ok ⟨table ++ [row], true⟩
  | some row =>
    if relation.agrees row o then .ok ⟨table, false⟩ else .error (relation.conflict o)

end Observations

/-! ### Candles -/

/-- The columns of `uq_btc_candles_source_market_symbol_interval_bucket`. -/
structure CandleKey where
  source : String
  marketType : String
  symbol : String
  intervalSeconds : ℤ
  bucketAt : Timestamp
deriving DecidableEq

/-- `BtcCandle`, and a row of `btc_candles`. -/
structure BtcCandle where
  key : CandleKey
  opening : Decimal
  high : Decimal
  low : Decimal
  close : Decimal
  volume : Decimal
  turnover : Option Decimal
  rawPayload : Json

/-- The row of a candle. -/
def BtcCandle.written (candle : BtcCandle) : Outcome BtcCandle := do
  let opening ← priceColumn.written candle.opening
  let high ← priceColumn.written candle.high
  let low ← priceColumn.written candle.low
  let close ← priceColumn.written candle.close
  let volume ← volumeColumn.written candle.volume
  let turnover ← volumeColumn.writtenOrNull candle.turnover
  .ok { candle with opening, high, low, close, volume, turnover }

/-- `actual == expected` of a row and a candle. -/
def BtcCandle.agrees (row candle : BtcCandle) : Bool :=
  Decimal.Same row.opening candle.opening && Decimal.Same row.high candle.high &&
    Decimal.Same row.low candle.low && Decimal.Same row.close candle.close &&
    Decimal.Same row.volume candle.volume && sameOrNull row.turnover candle.turnover

def historicalConflict (message : String) : Raised := ⟨.historicalDataConflict, message⟩

/-- `btc_candles`. -/
def btcCandles : Observations BtcCandle BtcCandle CandleKey where
  key := BtcCandle.key
  rowKey := BtcCandle.key
  valid candle :=
    require (0 < candle.key.intervalSeconds) .valueError "interval_seconds must be positive"
  written := BtcCandle.written
  agrees := BtcCandle.agrees
  conflict candle := historicalConflict ("conflicting BTC candle for source=" ++ candle.key.source ++
    " market_type=" ++ candle.key.marketType ++ " symbol=" ++ candle.key.symbol ++ " interval=" ++
    toString candle.key.intervalSeconds ++ " bucket_at=" ++ IsoTime.isoformat candle.key.bucketAt)

/-- `store_btc_candle`. -/
def storeBtcCandle (table : List BtcCandle) (candle : BtcCandle) : Outcome (Stored BtcCandle) :=
  btcCandles.store table candle

/-! ### Prices -/

/-- The columns of `uq_polymarket_price_history_asset_time_fidelity`. -/
structure PriceKey where
  assetId : String
  observedAt : Timestamp
  fidelityMinutes : ℤ
deriving DecidableEq

/-- `PolymarketPricePoint`, and a row of `polymarket_price_history`. -/
structure PricePoint where
  key : PriceKey
  conditionId : String
  outcome : String
  price : Decimal
  source : String := "polymarket_clob_prices_history"

/-- The row of a price. -/
def PricePoint.written (point : PricePoint) : Outcome PricePoint := do
  let price ← priceColumn.written point.price
  .ok { point with price }

/-- `actual == expected` of a row and a price. -/
def PricePoint.agrees (row point : PricePoint) : Bool :=
  row.source = point.source && row.conditionId = point.conditionId &&
    row.outcome = point.outcome && Decimal.Same row.price point.price

/-- `polymarket_price_history`. -/
def polymarketPriceHistory : Observations PricePoint PricePoint PriceKey where
  key := PricePoint.key
  rowKey := PricePoint.key
  valid point :=
    require (0 < point.key.fidelityMinutes) .valueError "fidelity_minutes must be positive"
  written := PricePoint.written
  agrees := PricePoint.agrees
  conflict point := historicalConflict ("conflicting Polymarket price history for asset=" ++
    point.key.assetId ++ " observed_at=" ++ IsoTime.isoformat point.key.observedAt ++
    " fidelity=" ++ toString point.key.fidelityMinutes)

/-- `store_polymarket_price`. -/
def storePolymarketPrice (table : List PricePoint) (point : PricePoint) :
    Outcome (Stored PricePoint) :=
  polymarketPriceHistory.store table point

/-! ## Provenance -/

/-- `BackfillStats`. -/
structure BackfillStats where
  rowsInserted : ℕ := 0
  rowsExisting : ℕ := 0
  chunksFetched : ℕ := 0
deriving DecidableEq, Repr

/-- `BackfillArtifact`. -/
structure Artifact where
  runId : String
  artifactKey : String
  source : String
  dataset : String
  requestParams : Dict
  downloadedAt : Timestamp
  responseSha256 : String
  rowCount : ℕ

/-- `artifact_key`; `digest` is `canonical_json_sha256`. -/
def artifactKey (digest : Json → String) (source dataset : String) (requestParams : Dict) : String :=
  digest (.obj [("source", .str source), ("dataset", .str dataset),
    ("request_params", .obj requestParams)])

/-- `record_artifact`. -/
def recordArtifact (artifacts : List Artifact) (artifact : Artifact) : List Artifact :=
  if artifacts.any fun row => row.runId = artifact.runId ∧ row.artifactKey = artifact.artifactKey ∧
      row.responseSha256 = artifact.responseSha256 then artifacts
  else artifacts ++ [artifact]

/-! ## Backfills -/

/-- What a backfill has done: its table, the artifacts, and its counts. -/
structure Progress (Row : Type) where
  table : List Row
  artifacts : List Artifact
  stats : BackfillStats := {}

/-- The counts after a write. -/
def BackfillStats.count (stats : BackfillStats) (created : Bool) : BackfillStats :=
  if created then { stats with rowsInserted := stats.rowsInserted + 1 }
  else { stats with rowsExisting := stats.rowsExisting + 1 }

/-- The loop over the observations of a response. -/
def storeAll {Obs Row : Type} (store : List Row → Obs → Outcome (Stored Row)) :
    Progress Row → List Obs → Outcome (Progress Row)
  | progress, [] => .ok progress
  | progress, o :: rest => do
    let stored ← store progress.table o
    storeAll store
      { progress with table := stored.table, stats := progress.stats.count stored.created } rest

/-- A response: its observations with their times, what it is recorded by, and the time a backfill asks
it for. -/
structure Chunk (Obs : Type) where
  start : Timestamp
  finish : Timestamp
  observations : List (Timestamp × Obs)
  artifact : Artifact

/-- One turn of the loop over requests: the response is recorded, and its observations in the window are
stored. -/
def storeChunk {Obs Row : Type} (store : List Row → Obs → Outcome (Stored Row))
    (progress : Progress Row) (chunk : Outcome (Chunk Obs)) : Outcome (Progress Row) := do
  let chunk ← chunk
  storeAll store
    { progress with
      artifacts := recordArtifact progress.artifacts chunk.artifact
      stats := { progress.stats with chunksFetched := progress.stats.chunksFetched + 1 } }
    ((chunk.observations.filter fun o => chunk.start ≤ o.1 ∧ o.1 < chunk.finish).map Prod.snd)

end BpEngine.Backfill
