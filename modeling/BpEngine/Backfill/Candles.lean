import BpEngine.Backfill.Historical
import BpEngine.Library.Binary64

/-!
# Backfilling candles

`backfill/bybit.py` and `backfill/coinbase.py`: a time line is cut into windows, each window is asked
for with bounds that are integers, and what is answered is stored when it is in the window.

* `timestamp` is `datetime.timestamp`, `fromTimestamp` is `datetime.fromtimestamp`.
* `candleWindows` cuts the time line.
* `Provider` is what differs between the two: how a request is made from a window, and how a response
  is read; `bybit` and `coinbase` are the two, and `backfillCandles` is the loop they share.
The transport is a parameter: what it returns for the parameters of a request.
-/

namespace BpEngine.Backfill

/-! ## Times as floats -/

/-- `time.timestamp()`. -/
def timestamp (time : Timestamp) : ℚ := Binary64.round ((time : ℚ) / 1000000)

/-- `datetime.fromtimestamp(seconds, tz=UTC)`. -/
def fromTimestamp (seconds : ℚ) : Outcome Timestamp :=
  let whole := Binary64.truncate seconds
  let fraction := Binary64.roundHalfEven (Binary64.round ((seconds - whole) * 1000000))
  let time := whole * 1000000 + fraction
  if IsoTime.InRange time then .ok time
  else if whole.natAbs < 2 ^ 63 then raise .valueError "year is out of range"
  else raise .overflowError "timestamp out of range for platform time_t"

/-! ## Windows -/

/-- What a sum of a time and a duration raises outside the years 1 to 9999. -/
def dateOutOfRange : Raised := ⟨.overflowError, "date value out of range"⟩

/-- The loop of `iter_candle_windows`, for as many windows as there can be. -/
def windowsFrom (width finish : Timestamp) : ℕ → Timestamp → List (Outcome (Timestamp × Timestamp))
  | 0, _ => []
  | fuel + 1, cursor =>
    if cursor < finish then
      if IsoTime.InRange (cursor + width) then
        .ok (cursor, min (cursor + width) finish) ::
          windowsFrom width finish fuel (min (cursor + width) finish)
      else [.error dateOutOfRange]
    else []

/-- `iter_candle_windows`. -/
def candleWindows (start finish : Timestamp) (intervalSeconds maxCandles : ℤ) :
    List (Outcome (Timestamp × Timestamp)) :=
  if finish ≤ start then [raise .valueError "start must be before end"]
  else if intervalSeconds ≤ 0 then [raise .valueError "interval_seconds must be positive"]
  else if maxCandles ≤ 0 then [raise .valueError "max_candles must be positive"]
  else
    let width := Timestamp.ofSeconds (intervalSeconds * maxCandles)
    windowsFrom width finish ((finish - start) / width + 1).toNat start

/-! ## Responses -/

/-- `BybitKline` and `CoinbaseCandle`, without the row it was read from. -/
structure Candle where
  bucketAt : Timestamp
  opening : Decimal
  high : Decimal
  low : Decimal
  close : Decimal
  volume : Decimal
  turnover : Option Decimal
  rawPayload : Json

/-- `Decimal(str(value))`; an invalid text is an error of the response. -/
def rowNumeral (cls : PyClass) (message : String) (value : Json) : Outcome Numeral :=
  match decimalOfText value.text with
  | some number => .ok number
  | none => raise cls message

/-- The number of a numeral that is finite. -/
def finiteNumeral (cls : PyClass) (message : String) : Numeral → Outcome Decimal
  | .finite value => .ok value
  | _ => raise cls message

/-- An integer of a row; what `int` raises is an error of the response. -/
def rowInt (cls : PyClass) (message : String) (value : Json) : Outcome ℤ :=
  match value.toInt with
  | .ok n => .ok n
  | .error _ => raise cls message

def invalidKline : String := "Bybit kline row contains invalid numeric data"

def nonFiniteKline : String := "Bybit kline row contains non-finite numeric data"

/-- The milliseconds a Bybit row begins with. -/
def klineMilliseconds (row : Json) : Outcome ℤ :=
  match row with
  | .arr (bucket :: _) => rowInt .bybitHistoryError invalidKline bucket
  | _ => raise .bybitHistoryError "Bybit kline rows must contain at least seven values"

/-- The turnover of a row, which may be null. -/
def turnoverNumeral : Json → Outcome (Option Numeral)
  | .null => .ok none
  | value => do .ok (some (← rowNumeral .bybitHistoryError invalidKline value))

/-- A turnover that is finite unless it is null. -/
def finiteTurnover : Option Numeral → Outcome (Option Decimal)
  | none => .ok none
  | some turnover => do
    .ok (some (← finiteNumeral .bybitHistoryError "Bybit kline turnover must be finite" turnover))

/-- A row of a Bybit response. -/
def readKline (row : Json) : Outcome Candle :=
  match row with
  | .arr (bucket :: opening :: high :: low :: close :: volume :: turnover :: _) => do
    let bucketMs ← rowInt .bybitHistoryError invalidKline bucket
    let opening ← rowNumeral .bybitHistoryError invalidKline opening
    let high ← rowNumeral .bybitHistoryError invalidKline high
    let low ← rowNumeral .bybitHistoryError invalidKline low
    let close ← rowNumeral .bybitHistoryError invalidKline close
    let volume ← rowNumeral .bybitHistoryError invalidKline volume
    let turnover ← turnoverNumeral turnover
    let opening ← finiteNumeral .bybitHistoryError nonFiniteKline opening
    let high ← finiteNumeral .bybitHistoryError nonFiniteKline high
    let low ← finiteNumeral .bybitHistoryError nonFiniteKline low
    let close ← finiteNumeral .bybitHistoryError nonFiniteKline close
    let volume ← finiteNumeral .bybitHistoryError nonFiniteKline volume
    let turnover ← finiteTurnover turnover
    let bucketAt ← fromTimestamp (Binary64.round ((bucketMs : ℚ) / 1000))
    .ok { bucketAt, opening, high, low, close, volume, turnover, rawPayload := row }
  | _ => raise .bybitHistoryError "Bybit kline rows must contain at least seven values"

/-- Candles in the order of their buckets. -/
def byBucket (candles : List Candle) : List Candle :=
  candles.insertionSort fun a b => a.bucketAt ≤ b.bucketAt

/-- `BybitKlineResponse.from_payload`. -/
def readKlines (payload : Dict) : Outcome (List Candle) := do
  require (Json.isInt 0 (payload.get "retCode") = true) .bybitHistoryError
    ("Bybit kline request failed: retCode=" ++ (payload.get "retCode").text ++ " retMsg=" ++
      (payload.get "retMsg").text)
  match (payload.get "result").mapping with
  | none => raise .bybitHistoryError "Bybit kline response must contain result object"
  | some result =>
    match result.get "list" with
    | .arr rows => do .ok (byBucket (← rows.mapM readKline))
    | _ => raise .bybitHistoryError "Bybit kline result must contain list array"

def invalidCandle : String := "Coinbase candle row contains invalid or missing numeric data"

/-- `raw_row[name]`; a missing entry is an error of the response. -/
def rowItem (row : Dict) (name : String) : Outcome Json :=
  if row.has name then .ok (row.get name) else raise .coinbaseHistoryError invalidCandle

/-- A number of a Coinbase row. -/
def rowValue (row : Dict) (name : String) : Outcome Numeral := do
  rowNumeral .coinbaseHistoryError invalidCandle (← rowItem row name)

/-- The seconds of a Coinbase row. -/
def candleSeconds (row : Json) : Outcome ℤ :=
  match row with
  | .obj row => do rowInt .coinbaseHistoryError invalidCandle (← rowItem row "start")
  | _ => raise .coinbaseHistoryError "Coinbase candle rows must be JSON objects"

/-- The bucket of a Coinbase row; a year that is out of range is an error of the response, too. -/
def candleTime (seconds : ℤ) : Outcome Timestamp :=
  match fromTimestamp seconds with
  | .ok time => .ok time
  | .error raised =>
    if raised.cls = .valueError then raise .coinbaseHistoryError invalidCandle else .error raised

/-- A row of a Coinbase response. -/
def readCandle (row : Json) : Outcome Candle :=
  match row with
  | .obj entries => do
    let seconds ← candleSeconds row
    let bucketAt ← candleTime seconds
    let low ← rowValue entries "low"
    let high ← rowValue entries "high"
    let opening ← rowValue entries "open"
    let close ← rowValue entries "close"
    let volume ← rowValue entries "volume"
    let nonFinite := "Coinbase candle row contains non-finite numeric data"
    let opening ← finiteNumeral .coinbaseHistoryError nonFinite opening
    let high ← finiteNumeral .coinbaseHistoryError nonFinite high
    let low ← finiteNumeral .coinbaseHistoryError nonFinite low
    let close ← finiteNumeral .coinbaseHistoryError nonFinite close
    let volume ← finiteNumeral .coinbaseHistoryError nonFinite volume
    .ok { bucketAt, opening, high, low, close, volume, turnover := none, rawPayload := row }
  | _ => raise .coinbaseHistoryError "Coinbase candle rows must be JSON objects"

/-- `CoinbaseCandleResponse.from_payload`. -/
def readCandles (payload : Dict) : Outcome (List Candle) :=
  match payload.get "candles" with
  | .arr rows => do .ok (byBucket (← rows.mapM readCandle))
  | _ => raise .coinbaseHistoryError "Coinbase candle response must contain candles array"

/-! ## Requests -/

/-- What the two backfills do differently. -/
structure Provider where
  /-- The checks of the client before it asks. -/
  check : (symbol : String) → (limit : ℤ) → Outcome Unit
  /-- The first time asked for, in the unit of the provider. -/
  lower : Timestamp → ℤ
  /-- The last time asked for. -/
  upper : Timestamp → ℤ
  /-- The parameters of a request. -/
  params : (symbol : String) → (lower upper limit : ℤ) → Dict
  /-- The parameters it is recorded by. -/
  recorded : (symbol : String) → Dict → Dict
  notMapping : Raised
  read : Dict → Outcome (List Candle)
  /-- The time of a row, in the unit of the provider. -/
  rowTime : Json → Outcome ℤ
  source : String
  dataset : String
  marketType : String

/-- `get_klines` and `get_candles`: the candles of a response, the parameters it is recorded by, and its
payload. -/
def Provider.get (provider : Provider) (http : Dict → Outcome Json) (symbol : String)
    (start finish : Timestamp) (limit : ℤ) : Outcome (List Candle × Dict × Json) := do
  provider.check symbol limit
  require (start < finish) .valueError "start must be before end"
  let params := provider.params symbol (provider.lower start) (provider.upper finish) limit
  let payload ← http params
  match payload.mapping with
  | none => .error provider.notMapping
  | some entries => do
    let candles ← provider.read entries
    .ok (candles, provider.recorded symbol params, payload)

/-- The candle as it is stored. -/
def Provider.stored (provider : Provider) (symbol : String) (intervalSeconds : ℤ) (candle : Candle) :
    BtcCandle where
  key := ⟨provider.source, provider.marketType, symbol, intervalSeconds, candle.bucketAt⟩
  opening := candle.opening
  high := candle.high
  low := candle.low
  close := candle.close
  volume := candle.volume
  turnover := candle.turnover
  rawPayload := candle.rawPayload

/-- A backfill's arguments that no bound depends on. -/
structure Job where
  runId : String
  symbol : String
  downloadedAt : Timestamp
  intervalSeconds : ℤ
  maxCandles : ℤ
  digest : Json → String
  http : Dict → Outcome Json

/-- The chunk of a window. -/
def Provider.chunk (provider : Provider) (job : Job)
    (window : Outcome (Timestamp × Timestamp)) : Outcome (Chunk BtcCandle) := do
  let (start, finish) ← window
  let (candles, params, payload) ← provider.get job.http job.symbol start finish job.maxCandles
  .ok
    { start
      finish
      observations := candles.map fun candle =>
        (candle.bucketAt, provider.stored job.symbol job.intervalSeconds candle)
      artifact :=
        { runId := job.runId
          artifactKey := artifactKey job.digest provider.source provider.dataset params
          source := provider.source
          dataset := provider.dataset
          requestParams := params
          downloadedAt := job.downloadedAt
          responseSha256 := job.digest payload
          rowCount := candles.length } }

/-- The loop over the windows. -/
def Provider.backfill (provider : Provider) (job : Job) (start finish : Timestamp)
    (progress : Progress BtcCandle) : Outcome (Progress BtcCandle) :=
  (candleWindows start finish job.intervalSeconds job.maxCandles).foldlM
    (fun progress window => storeChunk storeBtcCandle progress (provider.chunk job window)) progress

/-! ### Bybit -/

/-- `_bybit_interval`. -/
def bybitInterval (intervalSeconds : ℤ) : Outcome String :=
  match [(60, "1"), (180, "3"), (300, "5"), (900, "15"), (1800, "30"), (3600, "60"), (7200, "120"),
      (14400, "240"), (21600, "360"), (43200, "720"), (86400, "D"), (604800, "W")].lookup
      intervalSeconds with
  | some interval => .ok interval
  | none => raise .valueError ("unsupported Bybit interval_seconds: " ++ toString intervalSeconds)

/-- `int(time.timestamp() * 1000)`. -/
def milliseconds (time : Timestamp) : ℤ :=
  Binary64.truncate (Binary64.round (timestamp time * 1000))

/-- `BybitHistoryClient` for a category and an interval. -/
def bybit (category interval : String) : Provider where
  check symbol limit := do
    require (category = "spot" ∨ category = "linear") .valueError "category must be spot or linear"
    require (symbol ≠ "") .valueError "symbol is required"
    require (1 ≤ limit ∧ limit ≤ 1000) .valueError "limit must be between 1 and 1000"
  lower := milliseconds
  upper time := milliseconds time - 1
  params symbol lower upper limit :=
    [("category", .str category), ("symbol", .str symbol), ("interval", .str interval),
      ("start", .str (toString lower)), ("end", .str (toString upper)),
      ("limit", .str (toString limit))]
  recorded _ params := params
  notMapping := ⟨.bybitHistoryError, "Bybit kline response must be a JSON object"⟩
  read := readKlines
  rowTime := klineMilliseconds
  source := "bybit"
  dataset := "kline_" ++ category
  marketType := category

/-- `backfill_bybit_candles`. -/
def backfillBybitCandles (job : Job) (category : String) (start finish : Timestamp)
    (progress : Progress BtcCandle) : Outcome (Progress BtcCandle) := do
  require (1 ≤ job.maxCandles ∧ job.maxCandles ≤ 1000) .valueError
    "max_candles_per_request must be between 1 and 1000"
  let interval ← bybitInterval job.intervalSeconds
  (bybit category interval).backfill job start finish progress

/-! ### Coinbase -/

/-- `_coinbase_granularity`. -/
def coinbaseGranularity (intervalSeconds : ℤ) : Outcome String :=
  match [(60, "ONE_MINUTE"), (300, "FIVE_MINUTE"), (900, "FIFTEEN_MINUTE"), (1800, "THIRTY_MINUTE"),
      (3600, "ONE_HOUR"), (7200, "TWO_HOUR"), (14400, "FOUR_HOUR"), (21600, "SIX_HOUR"),
      (86400, "ONE_DAY")].lookup intervalSeconds with
  | some granularity => .ok granularity
  | none => raise .valueError ("unsupported Coinbase interval_seconds: " ++ toString intervalSeconds)

/-- `int(time.timestamp())`. -/
def wholeSeconds (time : Timestamp) : ℤ := Binary64.truncate (timestamp time)

/-- `CoinbaseHistoryClient` for a granularity; the symbol is `product_id`, which is also part of the
path that is asked for. -/
def coinbase (granularity : String) : Provider where
  check symbol limit := do
    require (symbol ≠ "") .valueError "product_id is required"
    require (1 ≤ limit ∧ limit ≤ 350) .valueError "limit must be between 1 and 350"
  lower := wholeSeconds
  upper := wholeSeconds
  params symbol lower upper limit :=
    [("product_id", .str symbol), ("start", .str (toString lower)), ("end", .str (toString upper)),
      ("granularity", .str granularity), ("limit", .str (toString limit))]
  recorded _ params := params
  notMapping := ⟨.coinbaseHistoryError, "Coinbase candle response must be a JSON object"⟩
  read := readCandles
  rowTime := candleSeconds
  source := "coinbase"
  dataset := "public_product_candles"
  marketType := "spot"

/-- `backfill_coinbase_candles`. -/
def backfillCoinbaseCandles (job : Job) (start finish : Timestamp) (progress : Progress BtcCandle) :
    Outcome (Progress BtcCandle) := do
  require (1 ≤ job.maxCandles ∧ job.maxCandles ≤ 350) .valueError
    "max_candles_per_request must be between 1 and 350"
  let granularity ← coinbaseGranularity job.intervalSeconds
  (coinbase granularity).backfill job start finish progress

end BpEngine.Backfill
