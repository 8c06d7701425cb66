import BpEngine.Execution.Documents
import BpEngine.Features.TradeFlow
import BpEngine.Library.Query
import BpEngine.PaperLedger.Simulation

/-!
# Replaying a book

`execution/book.py`: the order book of a token, from a full book and the price changes after it.  A
dictionary from prices to sizes is the list of its items, with one item per number.

* `readLevels` and `readChange` read what a payload says, with every check; `applyChanges` carries the
  changes of one payload out, `applyEvents` is the loop over the payloads.
* `replayBookPayloads` replays from an anchor, `bookAt` finds anchor and changes in the raw events.
-/

namespace BpEngine.BookReplay

open PaperLedger (BookLevel setSize sizeAt byPrice)

/-! ## Books -/

/-- The dictionaries of a replay. -/
structure Sides where
  bids : List BookLevel
  asks : List BookLevel
deriving DecidableEq

/-- `ReplayedBook`, with its bids. -/
structure ReplayedBook extends PaperLedger.ReplayedBook where
  bids : List BookLevel
deriving DecidableEq

/-- `AppliedPayload`. -/
structure AppliedPayload where
  eventId : ℤ
  dedupeKey : String
  payload : Dict

/-- `BUY` or `SELL`. -/
inductive BookSide where
  | buy
  | sell
deriving DecidableEq, Repr

/-! ## Reading payloads -/

/-- `_text`. -/
def text (value : Json) (name : String) : Outcome String :=
  match value with
  | .str "" => raise .bookReplayError (name ++ " must be a non-empty string")
  | .str s => .ok s
  | _ => raise .bookReplayError (name ++ " must be a non-empty string")

/-- `_SHA256_RE`: a digest, with or without `sha256:` before it. -/
def isDedupeKey (value : String) : Bool :=
  isHex64 value ||
    (value.toList.take 7 = "sha256:".toList && isHex64 (String.ofList (value.toList.drop 7)))

/-- `_dedupe`. -/
def dedupe (value : String) : Outcome String :=
  if isDedupeKey value then .ok value
  else raise .bookReplayError "raw event dedupe key must be a lowercase SHA-256 digest"

/-- `_decimal`. -/
def decimal (value : Json) (name : String) : Outcome Decimal :=
  match value with
  | .bool _ => raise .bookReplayError (name ++ " must be numeric")
  | .null => raise .bookReplayError (name ++ " must be numeric")
  | value =>
    match decimalOfText value.text with
    | none => raise .bookReplayError (name ++ " must be numeric")
    | some (.finite number) => .ok number
    | some _ => raise .bookReplayError (name ++ " must be finite")

/-- `_price`. -/
def price (value : Json) : Outcome Decimal := do
  let numeric ← decimal value "price"
  require (0 ≤ numeric ∧ numeric ≤ 1) .bookReplayError "price must be within [0, 1]"
  .ok numeric

/-- `_size`. -/
def size (value : Json) : Outcome Decimal := do
  let numeric ← decimal value "size"
  require (¬ numeric < 0) .bookReplayError "size must be non-negative"
  .ok numeric

/-- A price and a size. -/
def readPair (priceOf sizeOf : Json) : Outcome BookLevel := do
  let price ← price priceOf
  let size ← size sizeOf
  .ok ⟨price, size⟩

/-- `_level`. -/
def readLevel : Json → Outcome BookLevel
  | .obj entries =>
    if Dict.has entries "price" && Dict.has entries "size" then
      readPair (Dict.get entries "price") (Dict.get entries "size")
    else raise .bookReplayError "book level requires price and size"
  | .arr (priceOf :: sizeOf :: _) => readPair priceOf sizeOf
  | .arr _ => raise .bookReplayError "book level requires price and size"
  | _ => raise .bookReplayError "book level must be an object or pair"

/-- `price in levels`. -/
def hasPrice (levels : List BookLevel) (price : Decimal) : Bool :=
  levels.any fun level => Decimal.Same level.price price

/-- `levels.pop(price, None)`. -/
def dropPrice (levels : List BookLevel) (price : Decimal) : List BookLevel :=
  levels.filter fun level => ¬ Decimal.Same level.price price

/-- The loop of `_levels`. -/
def levelsFrom (side : String) : List Json → List BookLevel → Outcome (List BookLevel)
  | [], result => .ok result
  | raw :: rest, result => do
    let level ← readLevel raw
    require (hasPrice result level.price = false) .bookReplayError
      ("duplicate " ++ side ++ " price level")
    levelsFrom side rest (if 0 < level.size then result ++ [level] else result)

/-- `_levels`. -/
def readLevels (payload : Json) (side : String) : Outcome (List BookLevel) :=
  match payload with
  | .arr items => levelsFrom side items []
  | _ => raise .bookReplayError (side ++ " levels must be a list")

/-- `_validate_market`. -/
def validateMarket (payload : Dict) (conditionId eventType : String) : Outcome Unit := do
  require (Json.isStr eventType (payload.get "event_type") = true) .bookReplayError
    ("expected " ++ eventType ++ " payload")
  let market ← text (payload.get "market") "market"
  require (market = conditionId) .bookReplayError
    "raw event market conflicts with requested condition"

/-- A bid reaches an ask: `max(bids) >= min(asks)` of two sides that are not empty. -/
def crossed (sides : Sides) : Bool :=
  sides.bids.any fun bid => sides.asks.any fun ask => ask.price ≤ bid.price

/-- `_validate_not_crossed`. -/
def validateNotCrossed (sides : Sides) : Outcome Unit :=
  require (crossed sides = false) .bookReplayError "replayed book is crossed or locked"

/-! ## Applying changes -/

/-- `str(change.get("side") or "").upper()`, if it is `BUY` or `SELL`. -/
def changeSide (change : Dict) : Option BookSide :=
  let side := String.ofList ((change.get "side").textOrEmpty.toList.map Features.upperChar)
  if side = "BUY" then some .buy else if side = "SELL" then some .sell else none

/-- The change is about the asset. -/
def concerns (assetId : String) (change : Dict) : Bool :=
  (change.get "asset_id").textOrEmpty = assetId

/-- A change of one level: its side, price and size. -/
structure LevelChange extends BookLevel where
  side : BookSide
deriving DecidableEq

/-- What a change of the asset says. -/
def readChange (change : Dict) : Outcome LevelChange :=
  match changeSide change with
  | none => raise .bookReplayError "price_change side must be BUY or SELL"
  | some side => do
    let price ← price (change.get "price")
    let size ← size (change.get "size")
    .ok ⟨⟨price, size⟩, side⟩

/-- A dictionary after the change of a level. -/
def writeLevel (levels : List BookLevel) (level : BookLevel) : List BookLevel :=
  if level.size.isZero then dropPrice levels level.price else setSize levels level

/-- The dictionaries after a change. -/
def Sides.write (sides : Sides) (change : LevelChange) : Sides :=
  match change.side with
  | .buy => { sides with bids := writeLevel sides.bids change.toBookLevel }
  | .sell => { sides with asks := writeLevel sides.asks change.toBookLevel }

/-- The loop of `_apply_changes`. -/
def applyChangesFrom (assetId : String) : List Json → Sides → Bool → Outcome (Sides × Bool)
  | [], sides, used => .ok (sides, used)
  | .obj change :: rest, sides, used =>
    if concerns assetId change then do
      let read ← readChange change
      applyChangesFrom assetId rest (sides.write read) true
    else applyChangesFrom assetId rest sides used
  | _ :: _, _, _ => raise .bookReplayError "price_change entry must be an object"

/-- `_apply_changes`. -/
def applyChanges (conditionId assetId : String) (sides : Sides) (payload : Dict) :
    Outcome (Sides × Bool) := do
  validateMarket payload conditionId "price_change"
  match payload.get "price_changes" with
  | .arr changes =>
    let applied ← applyChangesFrom assetId changes sides false
    if applied.2 then validateNotCrossed applied.1
    .ok applied
  | _ => raise .bookReplayError "price_change payload requires price_changes list"

/-! ## Replaying -/

/-- The state of the loop over the applied events. -/
structure Replay extends Sides where
  usedIds : List ℤ := []
  usedKeys : List String := []
  previousEventId : ℤ
deriving DecidableEq

/-- The body of the loop. -/
def applyEvent (conditionId assetId : String) (replay : Replay) (event : AppliedPayload) :
    Outcome Replay := do
  require (0 < event.eventId) .bookReplayError "applied event id must be positive"
  require (event.eventId ≠ replay.previousEventId) .bookReplayError "duplicate applied event id"
  let key ← dedupe event.dedupeKey
  let applied ← applyChanges conditionId assetId replay.toSides event.payload
  .ok
    { toSides := applied.1
      usedIds := if applied.2 then replay.usedIds ++ [event.eventId] else replay.usedIds
      usedKeys := if applied.2 then replay.usedKeys ++ [key] else replay.usedKeys
      previousEventId := event.eventId }

/-- `for event_id, dedupe_key, payload in applied_events`. -/
def applyEvents (conditionId assetId : String) : List AppliedPayload → Replay → Outcome Replay
  | [], replay => .ok replay
  | event :: events, replay => do
    let next ← applyEvent conditionId assetId replay event
    applyEvents conditionId assetId events next

/-- `sorted(bids.items(), reverse=True)`. -/
def bestBidFirst (bids : List BookLevel) : List BookLevel :=
  bids.insertionSort fun a b => b.price ≤ a.price

/-- The anchor of a replay. -/
structure Anchor where
  eventId : ℤ
  dedupeKey : String
  payload : Dict

/-- The state before the first applied event. -/
def startReplay (conditionId assetId : String) (anchor : Anchor) : Outcome Replay := do
  require (0 < anchor.eventId) .bookReplayError "anchor event id must be positive"
  let _ ← dedupe anchor.dedupeKey
  validateMarket anchor.payload conditionId "book"
  let asset ← text (anchor.payload.get "asset_id") "asset_id"
  require (asset = assetId) .bookReplayError "book anchor asset conflicts with requested token"
  let bids ← readLevels (anchor.payload.get "bids") "bid"
  let asks ← readLevels (anchor.payload.get "asks") "ask"
  validateNotCrossed ⟨bids, asks⟩
  .ok { bids, asks, previousEventId := anchor.eventId }

/-- The book that is returned for a state. -/
def Replay.book (conditionId assetId : String) (anchor : Anchor) (cutoff : Timestamp)
    (replay : Replay) : ReplayedBook where
  conditionId := conditionId
  assetId := assetId
  bids := bestBidFirst replay.bids
  asks := byPrice replay.asks
  anchorEventId := anchor.eventId
  anchorDedupeKey := anchor.dedupeKey
  appliedEventIds := replay.usedIds
  appliedDedupeKeys := replay.usedKeys
  replayCutoffAt := cutoff

/-- `replay_book_payloads`. -/
def replayBookPayloads (conditionId assetId : String) (anchor : Anchor)
    (appliedEvents : List AppliedPayload) (replayCutoffAt : Timestamp) : Outcome ReplayedBook := do
  let start ← startReplay conditionId assetId anchor
  let replay ← applyEvents conditionId assetId appliedEvents start
  .ok (replay.book conditionId assetId anchor replayCutoffAt)

/-! ## Reading the raw events -/

/-- `raw_market_events`. -/
abbrev RawEvents := Relation Storage.RawRow Storage.RawRow.id

/-- The row is an event of the market of the condition that was received in time. -/
def causal (conditionId eventType : String) (cutoff : Timestamp) (row : Storage.RawRow) : Bool :=
  row.event.source = "polymarket" && row.event.stream = "market" &&
    row.event.instrument = conditionId && row.event.eventType = eventType &&
    row.receivedAt ≤ cutoff

/-- `later_than_anchor`. -/
def laterThan (anchor row : Storage.RawRow) : Bool :=
  anchor.receivedAt < row.receivedAt || (row.receivedAt = anchor.receivedAt && anchor.id < row.id)

/-- The full books of the token up to the cutoff, the newest first. -/
def anchorRows (rows : RawEvents) (conditionId assetId : String) (cutoff : Timestamp) :
    List Storage.RawRow :=
  rows.select (fun row => causal conditionId "book" cutoff row && row.event.assetId = some assetId)
    (Relation.newestFirst Storage.RawRow.receivedAt Storage.RawRow.id)

/-- The price changes of the condition after the anchor up to the cutoff. -/
def changeRows (rows : RawEvents) (conditionId : String) (cutoff : Timestamp)
    (anchor : Storage.RawRow) : List Storage.RawRow :=
  rows.select (fun row => causal conditionId "price_change" cutoff row && laterThan anchor row)
    (Relation.oldestFirst Storage.RawRow.receivedAt Storage.RawRow.id)

/-- A row as an applied payload. -/
def applied (row : Storage.RawRow) : AppliedPayload :=
  ⟨row.id, row.event.dedupeKey, row.event.payload⟩

/-- `book_at`. -/
def bookAt (rows : RawEvents) (conditionId assetId : String) (observedAt : Timestamp) :
    Outcome (Option ReplayedBook) :=
  match (anchorRows rows conditionId assetId observedAt).head? with
  | none => .ok none
  | some anchor => do
    let book ← replayBookPayloads conditionId assetId
      ⟨anchor.id, anchor.event.dedupeKey, anchor.event.payload⟩
      ((changeRows rows conditionId observedAt anchor).map applied) observedAt
    .ok (some book)

end BpEngine.BookReplay
