import BpEngine.Execution.Book

/-!
# The streaming book

`execution/fast_live_book.py`: the asks of the subscribed tokens, kept by one thread from the market
stream and read by others.  What a method does while it holds the lock is one step.

* `snapshot` is what a reader gets, `handleMessage` what the stream thread does with one message: a full
  book is checked before it is put in place (`replaceBook`), price changes are made one after another in
  the dictionaries the readers see (`applyPriceChanges`).
* `StreamEvent` is a step of any thread; an exception ends the connection, and the cache is cleared in a
  step of its own.
-/

namespace BpEngine.StreamingBook

open PaperLedger (BookLevel setSize byPrice)
open BookReplay (changeSide writeLevel)

/-! ## The cache -/

/-- How long a connection and a quote count as alive. -/
structure CacheConfig where
  healthySeconds : ℚ := 15
  quoteFreshSeconds : ℚ := 1 / 4

/-- `StreamingBookCache`: what its methods read and write under the lock. -/
structure BookCache where
  desired : List String := []
  asks : String → List BookLevel := fun _ => []
  initialized : List String := []
  tokenActivity : String → Option ℚ := fun _ => none
  connected : Bool := false
  lastActivity : ℚ := 0

/-- The levels of a dictionary as texts: sorted, without empty ones, in fixed-point form. -/
def display (levels : List BookLevel) : List BookLevel :=
  ((byPrice levels).filter fun level => 0 < level.size).map fun level =>
    ⟨level.price.formatF, level.size.formatF⟩

/-- `snapshot`. -/
def snapshot (config : CacheConfig) (cache : BookCache) (tokenId : String) (now : ℚ) :
    Option (List BookLevel) :=
  let token := strip tokenId
  match cache.tokenActivity token with
  | none => none
  | some activity =>
    if cache.connected = true ∧ token ∈ cache.initialized ∧
        now - cache.lastActivity ≤ config.healthySeconds ∧
        now - activity ≤ config.quoteFreshSeconds then
      some (display (cache.asks token))
    else none

/-- `subscribe`. -/
def subscribe (tokenIds : List String) (cache : BookCache) : BookCache :=
  { cache with desired := (tokenIds.map strip).filter (· ≠ "") ++ cache.desired }

/-- `_set_disconnected`. -/
def setDisconnected (cache : BookCache) : BookCache :=
  { cache with
    connected := false
    initialized := []
    asks := fun _ => []
    tokenActivity := fun _ => none }

/-- `_mark_connected`. -/
def markConnected (now : ℚ) (cache : BookCache) : BookCache :=
  { cache with connected := true, lastActivity := now }

/-- `_mark_activity`. -/
def markActivity (now : ℚ) (cache : BookCache) : BookCache := { cache with lastActivity := now }

/-! ## Full books -/

/-- `_decimal`. -/
def decimal (value : Json) (name : String) : Outcome Decimal :=
  match decimalOfText value.text with
  | none => raise .fastBookStreamError (name ++ " must be numeric")
  | some (.finite number) => .ok number
  | some _ => raise .fastBookStreamError (name ++ " must be finite")

/-- The price and the size of an entry, in their ranges. -/
def readQuote (entry : Dict) (what outOfRange : String) : Outcome BookLevel := do
  let price ← decimal (entry.get "price") (what ++ " price")
  let size ← decimal (entry.get "size") (what ++ " size")
  require ((0 < price ∧ price ≤ 1) ∧ ¬ size < 0) .fastBookStreamError outOfRange
  .ok ⟨price, size⟩

/-- A level of a full book. -/
def readAsk (level : Dict) : Outcome BookLevel :=
  readQuote level "book ask" "market book ask out of range"

/-- `for level in asks`. -/
def asksFrom : List Json → List BookLevel → Outcome (List BookLevel)
  | [], levels => .ok levels
  | .obj level :: rest, levels => do
    let quote ← readAsk level
    asksFrom rest (if 0 < quote.size then setSize levels quote else levels)
  | _ :: _, _ => raise .fastBookStreamError "market book ask invalid"

/-- `str(entry.get("asset_id") or "").strip()`. -/
def tokenOf (entry : Dict) : String := strip (entry.get "asset_id").textOrEmpty

/-- The asks of a full book. -/
def readBook (payload : Dict) : Outcome (List BookLevel) :=
  match payload.get "asks" with
  | .arr asks =>
    if tokenOf payload = "" then raise .fastBookStreamError "market book payload invalid"
    else asksFrom asks []
  | _ => raise .fastBookStreamError "market book payload invalid"

/-- `_replace_book`. -/
def replaceBook (payload : Dict) (now : ℚ) (cache : BookCache) : Outcome BookCache := do
  let levels ← readBook payload
  let token := tokenOf payload
  if token ∈ cache.desired then
    .ok
      { cache with
        asks := Function.update cache.asks token levels
        initialized := token :: cache.initialized
        tokenActivity := Function.update cache.tokenActivity token (some now)
        lastActivity := now }
  else .ok cache

/-! ## Price changes -/

/-- The change is one of the asks of a token that has its book. -/
def selects (cache : BookCache) (change : Dict) : Bool :=
  tokenOf change ∈ cache.desired && tokenOf change ∈ cache.initialized &&
    changeSide change = some .sell

/-- What a change of the asks says. -/
def readChange (change : Dict) : Outcome BookLevel :=
  readQuote change "price change" "price change out of range"

/-- The dictionaries, the tokens that were changed, and the exception that ended the loop. -/
structure Applied where
  asks : String → List BookLevel
  touched : List String := []
  failed : Option Raised := none

/-- `for change in changes`, in place. -/
def changesFrom (cache : BookCache) : List Json → Applied → Applied
  | [], applied => applied
  | .obj change :: rest, applied =>
    if selects cache change then
      match readChange change with
      | .error raised => { applied with failed := some raised }
      | .ok level =>
        changesFrom cache rest
          { applied with
            asks := Function.update applied.asks (tokenOf change)
              (writeLevel (applied.asks (tokenOf change)) level)
            touched := tokenOf change :: applied.touched }
    else changesFrom cache rest applied
  | _ :: rest, applied => changesFrom cache rest applied

/-- `_apply_price_changes`: the cache after it, and its exception. -/
def applyPriceChanges (payload : Dict) (now : ℚ) (cache : BookCache) : BookCache × Option Raised :=
  match payload.get "price_changes" with
  | .arr changes =>
    let applied := changesFrom cache changes ⟨cache.asks, [], none⟩
    if applied.failed.isSome ∨ applied.touched = [] then
      ({ cache with asks := applied.asks }, applied.failed)
    else
      ({ cache with
          asks := applied.asks
          tokenActivity := fun token =>
            if token ∈ applied.touched then some now else cache.tokenActivity token
          lastActivity := now }, none)
  | _ => (cache, none)

/-- `_handle_payload`, for one message of a frame. -/
def handleMessage (message : Json) (now : ℚ) (cache : BookCache) : BookCache × Option Raised :=
  match message with
  | .obj payload =>
    let eventType := (Dict.get payload "event_type").textOrEmpty
    if eventType = "book" then
      match replaceBook payload now cache with
      | .ok after => (after, none)
      | .error raised => (cache, some raised)
    else if eventType = "price_change" then applyPriceChanges payload now cache
    else (cache, none)
  | _ => (cache, none)

/-! ## The threads -/

/-- Where the stream thread is: before or in a connection, or past the exception that ended one. -/
inductive StreamPhase where
  | waiting
  | connected
  | failed
deriving DecidableEq, Repr

/-- A step of the stream thread or of a subscriber; a reader changes nothing. -/
inductive StreamEvent where
  | subscribe (tokenIds : List String)
  | connected (now : ℚ)
  | message (message : Json) (now : ℚ)
  | pong (now : ℚ)
  | broken
  | disconnected

/-- The cache, the stream thread, and the messages it was given. -/
structure Stream where
  cache : BookCache := {}
  phase : StreamPhase := .waiting
  received : List Json := []

/-- One step; a step that the stream thread is not ready for does not happen. -/
def streamStep (stream : Stream) : StreamEvent → Stream
  | .subscribe tokenIds => { stream with cache := subscribe tokenIds stream.cache }
  | .connected now =>
    if stream.phase = .waiting then
      { stream with cache := markConnected now stream.cache, phase := .connected }
    else stream
  | .message message now =>
    if stream.phase = .connected then
      let handled := handleMessage message now stream.cache
      { cache := handled.1
        phase := if handled.2.isSome then .failed else .connected
        received := stream.received ++ [message] }
    else stream
  | .pong now =>
    if stream.phase = .connected then { stream with cache := markActivity now stream.cache }
    else stream
  | .broken => if stream.phase = .failed then stream else { stream with phase := .failed }
  | .disconnected =>
    if stream.phase = .failed then
      { stream with cache := setDisconnected stream.cache, phase := .waiting }
    else stream

end BpEngine.StreamingBook
