import BpEngine.Backfill.Candles

/-!
# Backfilling prices

`backfill/polymarket_prices.py`: the price histories of the two assets of every market that starts in a
window of time.
-/

namespace BpEngine.Backfill

/-- The columns of `polymarket_markets` that are read. -/
structure PolymarketMarket where
  conditionId : String
  startAt : Timestamp
  endAt : Timestamp
  upTokenId : String
  downTokenId : String

/-- `PriceHistoryPoint`. -/
structure PriceHistoryPoint where
  observedAt : Timestamp
  price : Decimal

/-- The number of a timestamp; `None` unless it is an `int` or a `float`. -/
def secondsOf : Json → Option ℚ
  | .int value => some value
  | .float value => some (Binary64.round value.toRat)
  | _ => none

/-- An entry of a price history. -/
def readPoint (item : Json) : Outcome PriceHistoryPoint :=
  match item with
  | .obj item =>
    match secondsOf (Dict.get item "t") with
    | none => raise .polymarketPriceHistoryError "price-history timestamp must be numeric"
    | some seconds =>
      let invalid := "price-history entry contains invalid timestamp or price"
      let outside := "price-history price must be between 0 and 1"
      match decimalOfText (Dict.get item "p").text, fromTimestamp seconds with
      | some number, .ok observedAt => do
        let price ← finiteNumeral .polymarketPriceHistoryError outside number
        require (0 ≤ price ∧ price ≤ 1) .polymarketPriceHistoryError outside
        .ok ⟨observedAt, price⟩
      | _, _ => raise .polymarketPriceHistoryError invalid
  | _ => raise .polymarketPriceHistoryError "price-history entries must be JSON objects"

/-- `PriceHistoryResponse.from_payload`. -/
def readHistory (payload : Dict) : Outcome (List PriceHistoryPoint) :=
  match payload.get "history" with
  | .arr history => do
    let points ← history.mapM readPoint
    .ok (points.insertionSort fun a b => a.observedAt ≤ b.observedAt)
  | _ => raise .polymarketPriceHistoryError "price-history response must contain history array"

/-- A backfill's arguments other than its window. -/
structure PriceJob where
  runId : String
  downloadedAt : Timestamp
  fidelityMinutes : ℤ
  digest : Json → String
  http : Dict → Outcome Json

/-- `get_history`: the points of a response, its parameters and its payload. -/
def getHistory (job : PriceJob) (assetId : String) (start finish : Timestamp) :
    Outcome (List PriceHistoryPoint × Dict × Json) := do
  require (assetId ≠ "") .valueError "asset_id is required"
  require (start < finish) .valueError "start must be before end"
  require (0 < job.fidelityMinutes) .valueError "fidelity_minutes must be positive"
  let params : Dict := [("market", .str assetId), ("startTs", .str (toString (wholeSeconds start))),
    ("endTs", .str (toString (wholeSeconds finish))),
    ("fidelity", .str (toString job.fidelityMinutes))]
  let payload ← job.http params
  match payload.mapping with
  | none => raise .polymarketPriceHistoryError "price-history response must be a JSON object"
  | some entries => do .ok (← readHistory entries, params, payload)

/-- The chunk of an asset of a market. -/
def priceChunk (job : PriceJob) (market : PolymarketMarket) (outcome assetId : String) :
    Outcome (Chunk PricePoint) := do
  let (points, params, payload) ← getHistory job assetId market.startAt market.endAt
  .ok
    { start := market.startAt
      finish := market.endAt
      observations := points.map fun point => (point.observedAt,
        { key := ⟨assetId, point.observedAt, job.fidelityMinutes⟩
          conditionId := market.conditionId
          outcome
          price := point.price })
      artifact :=
        { runId := job.runId
          artifactKey := artifactKey job.digest "polymarket_clob" "prices_history" params
          source := "polymarket_clob"
          dataset := "prices_history"
          requestParams := params
          downloadedAt := job.downloadedAt
          responseSha256 := job.digest payload
          rowCount := points.length } }

/-- The requests of a backfill, in the order they are made in: the markets that start in the window, as
the query returns them, with both assets. -/
def priceRequests (markets : List PolymarketMarket) (start finish : Timestamp) :
    List (PolymarketMarket × String × String) :=
  (markets.filter fun market => start ≤ market.startAt ∧ market.startAt < finish).flatMap
    fun market => [(market, "Up", market.upTokenId), (market, "Down", market.downTokenId)]

/-- `backfill_polymarket_prices`. -/
def backfillPolymarketPrices (job : PriceJob) (markets : List PolymarketMarket)
    (start finish : Timestamp) (progress : Progress PricePoint) : Outcome (Progress PricePoint) := do
  require (start < finish) .valueError "start must be before end"
  require (0 < job.fidelityMinutes) .valueError "fidelity_minutes must be positive"
  (priceRequests markets start finish).foldlM
    (fun progress request =>
      storeChunk storePolymarketPrice progress (priceChunk job request.1 request.2.1 request.2.2))
    progress

end BpEngine.Backfill
