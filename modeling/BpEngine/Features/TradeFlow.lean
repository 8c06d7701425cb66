import BpEngine.Features.Groups

/-!
# Trade flows

What was bought and sold in the last minute before a feature, after `features/trade_flow.py`, and the
groups `features/service.py` makes of it.

* `tradesOf` reads the trades of an event, in the form of its source; what cannot be read is an error.
* `parseTradeFlow` sums them, `loadTradeFlow` reads the events of a window.
* `rawTradeGroups` are the groups of the four feeds, empty where the raw coverage is not proven.
-/

namespace BpEngine.Features

open BpEngine.Storage

/-! ## Reading a trade -/

/-- One trade of an event. -/
structure Trade where
  buys : Bool
  size : Decimal
  price : Json

/-- `TradeFlow`. -/
structure TradeFlow (F : Type) where
  buyVolume : Decimal
  sellVolume : Decimal
  signedVolume : Decimal
  tradeCount : ℕ
  observations : List (Value F)
  coverageCutoff : Timestamp
  coverageObservation : Value F

/-- `_decimal`. -/
def tradeDecimal (value : Json) (name : String) : Outcome Decimal :=
  match decimalOfText value.text with
  | none => raise .tradeFlowError (name ++ " must be numeric")
  | some (.finite number) =>
    if number < 0 then raise .tradeFlowError (name ++ " must be finite and non-negative")
    else .ok number
  | some _ => raise .tradeFlowError (name ++ " must be finite and non-negative")

/-- `str.upper()` as far as `BUY` and `SELL` go: the long s is the one letter beyond ASCII whose
capital is one of theirs. -/
def upperChar (c : Char) : Char := if c.toNat = 0x17F then 'S' else c.toUpper

/-- `_side`: whether the taker buys. -/
def tradeSide (value : Json) : Outcome Bool :=
  let normalized := match value with
    | .null => ""
    | value => String.ofList ((strip value.text).toList.map upperChar)
  if normalized = "BUY" then .ok true
  else if normalized = "SELL" then .ok false
  else raise .tradeFlowError "trade side must be explicitly BUY or SELL"

/-- `value` is a mapping. -/
def mappingOf (value : Json) (message : String) : Outcome Dict :=
  match value with
  | .obj entries => .ok entries
  | _ => raise .tradeFlowError message

/-- `value` is a list. -/
def listOf (value : Json) (message : String) : Outcome (List Json) :=
  match value with
  | .arr items => .ok items
  | _ => raise .tradeFlowError message

/-- `_polymarket_trades`. -/
def polymarketTrades (event : RawEvent) : Outcome (List Dict) :=
  if event.eventType ≠ "last_trade_price" then .ok []
  else
    match event.payload.get "size", event.payload.get "side" with
    | .null, _ => raise .tradeFlowError "Polymarket trade requires explicit side and size"
    | _, .null => raise .tradeFlowError "Polymarket trade requires explicit side and size"
    | _, _ => .ok [event.payload]

/-- The trades of a group of a Coinbase event. -/
def coinbaseGroup (value : Json) : Outcome (List Dict) := do
  let entries ← mappingOf value "Coinbase trade group must be a mapping"
  let trades ← listOf (entries.get "trades") "Coinbase trade group requires trades list"
  trades.mapM (mappingOf · "Coinbase trade must be a mapping")

/-- `_coinbase_trades`. -/
def coinbaseTrades (event : RawEvent) : Outcome (List Dict) :=
  if !event.eventType.startsWith "market_trades_" then .ok []
  else do
    let groups ← listOf (event.payload.get "events") "Coinbase market_trades event requires events list"
    let trades ← groups.mapM coinbaseGroup
    .ok trades.flatten

/-- `_bybit_trades`. -/
def bybitTrades (event : RawEvent) : Outcome (List Dict) :=
  if event.eventType ≠ "trade" then .ok []
  else do
    let trades ← listOf (event.payload.get "data") "Bybit trade event requires data list"
    trades.mapM (mappingOf · "Bybit trade must be a mapping")

/-- One trade, under the keys of its source. -/
def readTrade (source sideKey sizeKey priceKey : String) (trade : Dict) : Outcome Trade := do
  match trade.get sizeKey with
  | .null => raise .tradeFlowError (source ++ " trade requires size")
  | size =>
    let buys ← tradeSide (trade.get sideKey)
    let number ← tradeDecimal size "trade size"
    .ok { buys, size := number, price := trade.get priceKey }

/-- `_trades`. -/
def tradesOf (event : RawEvent) (source : String) : Outcome (List Trade) :=
  if source = "polymarket" then do
    (← polymarketTrades event).mapM (readTrade source "side" "size" "price")
  else if source = "coinbase" then do
    (← coinbaseTrades event).mapM (readTrade source "side" "size" "price")
  else if source = "bybit" then do
    (← bybitTrades event).mapM (readTrade source "S" "v" "p")
  else raise .valueError ("unsupported trade-flow source: " ++ source)

/-! ## The flow -/

variable {F : Type}

/-- `_coverage_descriptor`. -/
def coverageDescriptor (event : RawEvent) (source stream : String) (receivedAt : Timestamp) :
    Value F :=
  .obj [("kind", .text "raw_feed_coverage"), ("dedupe_key", .text event.dedupeKey),
    ("source", .text source), ("stream", .text stream), ("event_type", .text event.eventType),
    ("received_at", .time receivedAt)]

/-- The descriptor of a trade. -/
def tradeDescriptor (event : RawEvent) (source stream : String) (index : ℕ) (trade : Trade) :
    Value F :=
  .obj [("kind", .text "raw_trade"), ("dedupe_key", .text event.dedupeKey), ("source", .text source),
    ("stream", .text stream), ("event_type", .text event.eventType),
    ("received_at", .time event.receivedAt), ("trade_index", .int index),
    ("side", .text (if trade.buys then "BUY" else "SELL")), ("size", .decimal trade.size),
    ("price", .json trade.price)]

/-- `max(received_events, key=…)`: the first event of the largest time and key. -/
def latestEvent (events : List RawEvent) : Option RawEvent :=
  events.foldl (fun latest event =>
    match latest with
    | none => some event
    | some known =>
      if known.receivedAt < event.receivedAt ∨
          known.receivedAt = event.receivedAt ∧ known.dedupeKey < event.dedupeKey then some event
      else some known) none

/-- The volumes, the number of trades and their descriptors so far. -/
structure FlowSoFar (F : Type) where
  buyVolume : Decimal := 0
  sellVolume : Decimal := 0
  tradeCount : ℕ := 0
  observations : List (Value F) := []

/-- One event of the loop of `parse_trade_flow`. -/
def addEvent (source stream : String) (soFar : FlowSoFar F) (event : RawEvent) :
    Outcome (FlowSoFar F) := do
  let trades ← tradesOf event source
  .ok (trades.zipIdx.foldl (fun flow entry =>
    { buyVolume := if entry.1.buys then flow.buyVolume + entry.1.size else flow.buyVolume
      sellVolume := if entry.1.buys then flow.sellVolume else flow.sellVolume + entry.1.size
      tradeCount := flow.tradeCount + 1
      observations :=
        flow.observations ++ [tradeDescriptor event source stream entry.2 entry.1] }) soFar)

/-- `parse_trade_flow`. -/
def parseTradeFlow (events : List RawEvent) (source stream : String) :
    Outcome (Option (TradeFlow F)) :=
  let matching := events.filter fun event => event.source = source && event.stream = stream
  match latestEvent matching with
  | none => .ok none
  | some coverage => do
    let flow ← matching.foldlM (addEvent source stream) {}
    .ok (some
      { buyVolume := flow.buyVolume
        sellVolume := flow.sellVolume
        signedVolume := flow.buyVolume - flow.sellVolume
        tradeCount := flow.tradeCount
        observations := flow.observations
        coverageCutoff := coverage.receivedAt
        coverageObservation := coverageDescriptor coverage source stream coverage.receivedAt })

/-- `load_trade_flow` with its window of a minute. -/
def loadTradeFlow (db : Database) (source stream instrument : String) (featureAt : Timestamp) :
    Outcome (Option (TradeFlow F)) :=
  let left := featureAt - Timestamp.ofSeconds 60
  if rawWindowExcluded (left + 1) (featureAt + 1) then .ok none
  else
    parseTradeFlow ((windowEvents db source stream instrument featureAt 60).map RawRow.event)
      source stream

/-! ## The groups -/

variable (floats : Floats F)

/-- `_trade_group`. -/
def tradeGroup (name : String) (flow : Option (TradeFlow F)) : FeatureGroup F :=
  match flow with
  | none =>
    { values := ["_buy_volume", "_sell_volume", "_signed_volume", "_trade_count"].map
        fun key => (name ++ key, .none)
      missingFlags := [(name ++ "_missing", true)] }
  | some flow =>
    { values := [(name ++ "_buy_volume", .float (floats.ofDecimal flow.buyVolume)),
        (name ++ "_sell_volume", .float (floats.ofDecimal flow.sellVolume)),
        (name ++ "_signed_volume", .float (floats.ofDecimal flow.signedVolume)),
        (name ++ "_trade_count", .int flow.tradeCount)]
      missingFlags := [(name ++ "_missing", false)]
      sourceCutoffs := [(name, flow.coverageCutoff)]
      observations := flow.coverageObservation :: flow.observations }

/-- The group of the flags about all feeds. -/
def rawFlowFlags (missing excluded : Bool) : FeatureGroup F where
  missingFlags := [("raw_trade_flow_missing", missing), ("raw_trade_flow_excluded", excluded)]

/-- `_raw_trade_groups`. -/
def rawTradeGroups (db : Database) (target : FeatureTarget) (featureAt : Timestamp) :
    Outcome (List (FeatureGroup F)) :=
  let left := featureAt - Timestamp.ofSeconds 60
  if rawWindowExcluded (left + 1) (featureAt + 1) then
    .ok (rawFlowFlags true true :: ["polymarket_trade_flow", "coinbase_trade_flow",
      "bybit_spot_trade_flow", "bybit_linear_trade_flow"].map (tradeGroup floats · none))
  else do
    let polymarket ← loadTradeFlow db "polymarket" "market" target.conditionId featureAt
    let coinbase ← loadTradeFlow db "coinbase" "spot" "BTC-USD" featureAt
    let bybitSpot ← loadTradeFlow db "bybit" "spot" "BTCUSDT" featureAt
    let bybitLinear ← loadTradeFlow db "bybit" "linear" "BTCUSDT" featureAt
    .ok [rawFlowFlags (polymarket.isNone || coinbase.isNone || bybitSpot.isNone || bybitLinear.isNone)
        false,
      tradeGroup floats "polymarket_trade_flow" polymarket,
      tradeGroup floats "coinbase_trade_flow" coinbase,
      tradeGroup floats "bybit_spot_trade_flow" bybitSpot,
      tradeGroup floats "bybit_linear_trade_flow" bybitLinear]

end BpEngine.Features
