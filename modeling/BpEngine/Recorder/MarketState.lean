import BpEngine.Library.OrderedDict
import BpEngine.Storage.Records

/-!
# The market state reducer

`recorder/state.py`: raw events of three venues are reduced to what each market shows now.

* `Operand` is what `Decimal` makes of a text, with the comparisons and sums that may signal.
* A method that raises leaves behind what it had written: `Mutation` is the state after it, and what
  it raised.
* `levels`, `applyLevels` and `setQuoteState` reduce the levels of a book; `observe` is the reducer.
-/

namespace BpEngine.Recorder

open BpEngine.Storage (RawEvent)

/-! ## Decimals that may signal -/

/-- What `Decimal` makes of a text; the payload and the sign of a NaN are dropped. -/
inductive Operand where
  | quietNan
  | signalingNan
  | infinity (negative : Bool)
  | finite (value : Decimal)
deriving DecidableEq

/-- A trapped signal of the context. -/
def decimalSignal (condition : String) : Raised :=
  ⟨.arithmeticError, "[<class 'decimal." ++ condition ++ "'>]"⟩

/-- The text of a NaN names the signaling one. -/
def isSignaling (text : String) : Bool :=
  let cs := (stripChars text.toList).filter (· ≠ '_')
  let unsigned := if cs.head? = some '-' ∨ cs.head? = some '+' then cs.tail else cs
  unsigned.head?.map Char.toLower = some 's'

/-- `Decimal(text)`. -/
def operandOf (text : String) : Outcome Operand :=
  match decimalOfText text with
  | none => .error (decimalSignal "ConversionSyntax")
  | some .nan => .ok (if isSignaling text then .signalingNan else .quietNan)
  | some (.infinity negative) => .ok (.infinity negative)
  | some (.finite value) => .ok (.finite value)

namespace Operand

/-- `value == 0`. -/
def isZero : Operand → Outcome Bool
  | signalingNan => .error (decimalSignal "InvalidOperation")
  | finite value => .ok (value.coeff = 0)
  | _ => .ok false

/-- `a < b`; a comparison with a NaN signals. -/
def less : Operand → Operand → Outcome Bool
  | finite a, finite b => .ok (a < b)
  | infinity a, infinity b => .ok (a && !b)
  | infinity a, finite _ => .ok a
  | finite _, infinity b => .ok (!b)
  | _, _ => .error (decimalSignal "InvalidOperation")

/-- The result of an operation; a number above the largest exponent signals. -/
def inContext (value : Decimal) : Outcome Operand :=
  if value.coeff ≠ 0 ∧ 1000000 < value.exp + Decimal.digits value.coeff.natAbs then
    .error (decimalSignal "Overflow")
  else .ok (.finite value)

/-- `a + b`. -/
def add : Operand → Operand → Outcome Operand
  | signalingNan, _ => .error (decimalSignal "InvalidOperation")
  | _, signalingNan => .error (decimalSignal "InvalidOperation")
  | quietNan, _ => .ok quietNan
  | _, quietNan => .ok quietNan
  | infinity a, infinity b =>
    if a = b then .ok (infinity a) else .error (decimalSignal "InvalidOperation")
  | infinity a, finite _ => .ok (infinity a)
  | finite _, infinity b => .ok (infinity b)
  | finite a, finite b => inContext (a + b)

end Operand

/-- `format(value, "f")` of a number. -/
def fixedText (value : Decimal) : List Char :=
  let sign := if value.coeff < 0 then ['-'] else []
  let digits := Nat.toDigits 10 value.coeff.natAbs
  if 0 ≤ value.exp then sign ++ digits ++ List.replicate value.exp.toNat '0'
  else
    let scale := value.exp.natAbs
    let padded := List.replicate (scale + 1 - digits.length) '0' ++ digits
    sign ++ padded.take (padded.length - scale) ++ ['.'] ++ padded.drop (padded.length - scale)

/-- `_decimal_text`. -/
def decimalText : Operand → String
  | .quietNan => "NaN"
  | .signalingNan => "sNaN"
  | .infinity negative => if negative then "-Infinity" else "Infinity"
  | .finite value =>
    let rendered := fixedText value
    if '.' ∈ rendered then
      let stripped := (rendered.rdropWhile (· = '0')).rdropWhile (· = '.')
      if stripped = [] then "0" else String.ofList stripped
    else String.ofList rendered

/-! ## Levels -/

/-- The levels of a side: a size under each price, both as they were sent. -/
abbrev Levels := OrderedDict String String

/-- The sum of the sizes. -/
def totalSize (sizes : List String) : Outcome Operand :=
  sizes.foldlM (fun total size => do total.add (← operandOf size)) (.finite 0)

/-- `_sum_sizes`. -/
def sumSizes (levels : Levels) : Outcome String := do
  .ok (decimalText (← totalSize levels.values))

/-- The body of `max(levels, key=Decimal)` and of `min(levels, key=Decimal)`: an element replaces the
best one so far only when it is better. -/
def betterOf (highest : Bool) (best : String × Operand) (price : String) :
    Outcome (String × Operand) := do
  let value ← operandOf price
  let better ← if highest then best.2.less value else value.less best.2
  .ok (if better then (price, value) else best)

/-- `_best`. -/
def best (highest : Bool) (levels : Levels) : Outcome (Option String) :=
  match levels.keys with
  | [] => .ok none
  | first :: prices => do
    let value ← operandOf first
    let found ← prices.foldlM (betterOf highest) (first, value)
    .ok (some found.1)

/-- The price and the size of a level, when it has both. -/
def levelOf : Json → Option (String × String)
  | .obj entries => pair (Dict.get entries "price") (Dict.get entries "size")
  | .arr (price :: size :: _) => pair price size
  | _ => none
where
  pair : Json → Json → Option (String × String)
    | .null, _ => none
    | _, .null => none
    | price, size => some (price.text, size.text)

/-- `_levels`. -/
def levels : Json → Levels
  | .arr items => OrderedDict.ofPairs (items.filterMap levelOf)
  | _ => .empty

/-! ## Mutations -/

/-- What a method did: the state it left behind, and what it raised. -/
structure Mutation (σ : Type) where
  state : σ
  raised : Option Raised := none

variable {σ α : Type}

/-- Goes on with a value, or raises in the state. -/
def given (value : Outcome α) (state : σ) (next : α → Mutation σ) : Mutation σ :=
  match value with
  | .ok value => next value
  | .error raised => ⟨state, some raised⟩

/-- `Decimal(size) == 0`. -/
def isZeroSize (size : String) : Outcome Bool := do (← operandOf size).isZero

/-- The write of one level. -/
def applyLevel (side : Levels) (level : String × String) (zero : Bool) : Levels :=
  if zero then side.pop level.1 else side.set level.1 level.2

/-- `_apply_levels`. -/
def applyLevels (side : Levels) : List (String × String) → Mutation Levels
  | [] => ⟨side, none⟩
  | level :: rest =>
    given (isZeroSize level.2) side fun zero => applyLevels (applyLevel side level zero) rest

/-- The fields a market shows. -/
abbrev MarketState := OrderedDict String (Option String)

/-- `state.pop(name, None)` without a value, `state[name] = value` with one. -/
def writeOrPop (state : MarketState) (name : String) : Option String → MarketState
  | none => state.pop name
  | some value => state.set name (some value)

/-- `_set_quote_state`. -/
def setQuoteState (state : MarketState) (bids asks : Levels) : Mutation MarketState :=
  given (best true bids) state fun bestBid =>
    given (best false asks) state fun bestAsk =>
      let state := writeOrPop (writeOrPop state "best_bid" bestBid) "best_ask" bestAsk
      given (sumSizes bids) state fun bidDepth =>
        let state := state.set "bid_depth" (some bidDepth)
        given (sumSizes asks) state fun askDepth => ⟨state.set "ask_depth" (some askDepth), none⟩

/-! ## The reducer -/

/-- `_TrackedState`. -/
structure Tracked where
  source : String
  stream : String
  instrument : String
  marketId : Option String
  assetId : Option String
  lastEventAt : Timestamp
  state : MarketState
deriving DecidableEq

/-- `_Book`. -/
@[ext] structure Book where
  bids : Levels
  asks : Levels
deriving DecidableEq

def Book.empty : Book := ⟨.empty, .empty⟩

/-- `MarketStateReducer`. -/
@[ext] structure Reducer where
  states : OrderedDict String Tracked
  bybitBooks : OrderedDict String Book
deriving DecidableEq

/-- `MarketStateReducer()`. -/
def Reducer.new : Reducer := ⟨.empty, .empty⟩

/-- `asset_id or event.asset_id`. -/
def effectiveAsset (event : RawEvent) (assetId : Option String) : Option String :=
  if assetId.any (· ≠ "") then assetId else event.assetId

/-- `_state_key`. -/
def stateKey (event : RawEvent) (assetId : Option String) : String :=
  "/".intercalate ([event.source, event.stream, event.instrument] ++
    ((effectiveAsset event assetId).filter (· ≠ "")).toList)

/-- What `_touch` returns for a market that was or was not tracked. -/
def touched (event : RawEvent) (assetId : Option String) : Option Tracked → Tracked
  | none =>
    { source := event.source
      stream := event.stream
      instrument := event.instrument
      marketId := event.marketId
      assetId := effectiveAsset event assetId
      lastEventAt := event.receivedAt
      state := .empty }
  | some tracked =>
    if tracked.lastEventAt < event.receivedAt then { tracked with lastEventAt := event.receivedAt }
    else tracked

namespace Reducer

/-- `_touch`, followed by writes to the fields of the market it returns. -/
def withTouched (reducer : Reducer) (event : RawEvent) (assetId : Option String)
    (write : MarketState → Mutation MarketState) : Mutation Reducer :=
  let key := stateKey event assetId
  let tracked := touched event assetId (reducer.states.get? key)
  let written := write tracked.state
  ⟨{ reducer with states := reducer.states.set key { tracked with state := written.state } },
    written.raised⟩

end Reducer

/-- A loop over a table of fields: `state[state_name] = str(value)` for what the message has. -/
def copyFields (source : Dict) (fieldMap : List (String × String)) (state : MarketState) :
    MarketState :=
  fieldMap.foldl (fun state field =>
    match source.get field.1 with
    | .null => state
    | value => state.set field.2 (some value.text)) state

/-- The fields that are copied from the message, without an exception. -/
def copied (source : Dict) (fieldMap : List (String × String)) (state : MarketState) :
    Mutation MarketState := ⟨copyFields source fieldMap state, none⟩

/-- `_iso_utc` of a time. -/
def isoUtc (time : Timestamp) : String := (IsoTime.isoformat time).replace "+00:00" "Z"

/-- The fields of a `price_change`. -/
def priceChangeFields : List (String × String) :=
  [("best_bid", "best_bid"), ("best_ask", "best_ask"), ("price", "last_change_price"),
    ("size", "last_change_size"), ("side", "last_change_side")]

/-- The body of the loop over `price_changes`. -/
def observeChange (event : RawEvent) (reducer : Reducer) (change : Json) : Reducer :=
  match change.mapping with
  | none => reducer
  | some change =>
    if (change.get "asset_id").truthy then
      (reducer.withTouched event (some (change.get "asset_id").text)
        (copied change priceChangeFields)).state
    else reducer

/-- The writes of a `last_trade_price`. -/
def lastTradeFields (event : RawEvent) (state : MarketState) : MarketState :=
  let state := match event.payload.get "price" with
    | .null => state
    | price => (state.set "last_price" (some price.text)).set "last_trade_price" (some price.text)
  let state := copyFields event.payload [("size", "last_trade_size"), ("side", "last_trade_side")] state
  ((state.set "last_trade_source_at" (event.sourceTimestamp.map isoUtc)).set "last_trade_received_at"
    (some (isoUtc event.receivedAt))).set "last_trade_event_dedupe_key" (some event.dedupeKey)

/-- `payload.get("asset_id") or event.asset_id`, as a text. -/
def tradedAsset (event : RawEvent) : Option String :=
  if (event.payload.get "asset_id").truthy then some (event.payload.get "asset_id").text
  else event.assetId

/-- `_observe_polymarket`. -/
def observePolymarket (reducer : Reducer) (event : RawEvent) : Mutation Reducer :=
  if event.eventType = "book" then
    reducer.withTouched event none fun state =>
      setQuoteState state (levels (event.payload.get "bids")) (levels (event.payload.get "asks"))
  else if event.eventType = "price_change" then
    match event.payload.get "price_changes" with
    | .arr changes => ⟨changes.foldl (observeChange event) reducer, none⟩
    | _ => ⟨reducer, none⟩
  else if event.eventType = "last_trade_price" then
    reducer.withTouched event (tradedAsset event) fun state => ⟨lastTradeFields event state, none⟩
  else ⟨reducer, none⟩

/-- The writes of a book message to the book. -/
def applyBook (book : Book) (snapshot : Bool) (data : Dict) : Mutation Book :=
  let start := if snapshot then Book.empty else book
  let bids := applyLevels start.bids (levels (data.get "b")).entries
  match bids.raised with
  | some raised => ⟨⟨bids.state, start.asks⟩, some raised⟩
  | none =>
    let asks := applyLevels start.asks (levels (data.get "a")).entries
    ⟨⟨bids.state, asks.state⟩, asks.raised⟩

/-- The book of a market; `setdefault` begins with an empty one. -/
def Reducer.book (reducer : Reducer) (key : String) : Book :=
  (reducer.bybitBooks.get? key).getD Book.empty

/-- A book message: the book first, then the quotes of the market. -/
def observeBook (reducer : Reducer) (event : RawEvent) (data : Dict) : Mutation Reducer :=
  let key := stateKey event none
  let applied := applyBook (reducer.book key) (event.eventType = "orderbook_snapshot") data
  let reducer := { reducer with bybitBooks := reducer.bybitBooks.set key applied.state }
  reducer.withTouched event none fun state =>
    match applied.raised with
    | some raised => ⟨state, some raised⟩
    | none => setQuoteState state applied.state.bids applied.state.asks

/-- The fields of a Bybit ticker. -/
def bybitTickerFields : List (String × String) :=
  [("lastPrice", "last_price"), ("markPrice", "mark_price"), ("indexPrice", "index_price"),
    ("fundingRate", "funding_rate"), ("openInterest", "open_interest"),
    ("openInterestValue", "open_interest_value"), ("nextFundingTime", "next_funding_time"),
    ("bid1Price", "best_bid"), ("ask1Price", "best_ask")]

/-- The fields of a Bybit trade. -/
def bybitTradeFields : List (String × String) :=
  [("p", "last_price"), ("v", "last_trade_size"), ("S", "last_trade_side"), ("T", "last_trade_time")]

/-- The event is a message of the order book. -/
def isBookMessage (event : RawEvent) : Bool :=
  event.eventType = "orderbook_snapshot" || event.eventType = "orderbook_delta"

/-- The last item of a list that is not empty, if it is a mapping. -/
def lastMapping : Json → Option Dict
  | .arr items => items.getLast?.bind Json.mapping
  | _ => none

/-- The first item of a list that is not empty, if it is a mapping. -/
def firstMapping : Json → Option Dict
  | .arr items => items.head?.bind Json.mapping
  | _ => none

/-- `_observe_bybit`. -/
def observeBybit (reducer : Reducer) (event : RawEvent) : Mutation Reducer :=
  let data := event.payload.get "data"
  if isBookMessage event then
    match data.mapping with
    | none => reducer.withTouched event none fun state => ⟨state, none⟩
    | some data => observeBook reducer event data
  else
    reducer.withTouched event none fun state =>
      if event.eventType = "ticker" then
        match data.mapping with
        | none => ⟨state, none⟩
        | some data => copied data bybitTickerFields state
      else if event.eventType = "trade" then
        match lastMapping data with
        | none => ⟨state, none⟩
        | some trade => copied trade bybitTradeFields state
      else ⟨state, none⟩

/-- The fields of a Coinbase ticker. -/
def coinbaseTickerFields : List (String × String) :=
  [("price", "last_price"), ("best_bid", "best_bid"), ("best_bid_quantity", "best_bid_size"),
    ("best_ask", "best_ask"), ("best_ask_quantity", "best_ask_size"), ("volume_24_h", "volume_24h")]

/-- The fields of a Coinbase trade. -/
def coinbaseTradeFields : List (String × String) :=
  [("price", "last_price"), ("size", "last_trade_size"), ("side", "last_trade_side"),
    ("time", "last_trade_time")]

/-- `_observe_coinbase`. -/
def observeCoinbase (reducer : Reducer) (event : RawEvent) : Mutation Reducer :=
  match firstMapping (event.payload.get "events") with
  | none => ⟨reducer, none⟩
  | some first =>
    reducer.withTouched event none fun state =>
      if "ticker_".toList.isPrefixOf event.eventType.toList then
        match firstMapping (first.get "tickers") with
        | none => ⟨state, none⟩
        | some ticker => copied ticker coinbaseTickerFields state
      else if "market_trades_".toList.isPrefixOf event.eventType.toList then
        match lastMapping (first.get "trades") with
        | none => ⟨state, none⟩
        | some trade => copied trade coinbaseTradeFields state
      else ⟨state, none⟩

/-- `observe`. -/
def observe (reducer : Reducer) (event : RawEvent) : Mutation Reducer :=
  if event.source = "polymarket" then observePolymarket reducer event
  else if event.source = "bybit" then observeBybit reducer event
  else if event.source = "coinbase" then observeCoinbase reducer event
  else ⟨reducer, none⟩

/-- The reducer after an event; the recorder counts an error and goes on with what is left. -/
def observed (reducer : Reducer) (event : RawEvent) : Reducer := (observe reducer event).state

/-! ## Snapshots -/

/-- `MarketStateSnapshot`. -/
structure Snapshot where
  bucketAt : Timestamp
  stateKey : String
  tracked : Tracked
deriving DecidableEq

/-- `snapshots`. -/
def Reducer.snapshots (reducer : Reducer) (bucketAt : Timestamp) : List Snapshot :=
  let bucket := bucketAt / 1000000 * 1000000
  (reducer.states.entries.insertionSort fun a b => a.1 ≤ b.1).map fun entry =>
    ⟨bucket, entry.1, entry.2⟩

end BpEngine.Recorder
