import BpEngine.Core
import BpEngine.Library.Machine
import Mathlib.Data.Finset.Basic

/-!
# The subscription of the Polymarket feed

`recorder/polymarket_coordinator.py` keeps the set of assets to follow, its updater in
`recorder/service.py` puts what changes into a queue, and the runner of `websocket_runner.py` sends
the changes and keeps the subscription it opens a new connection with.

* `Coordinator.refresh` says what is followed now, `controlMessages` what the updater puts.
* `applyUpdate` is `_apply_market_subscription_update`.
* `Connection` is where the runner stands; `exec` is what one task does between two awaits.
A sorted list of ids is its set.  Every failure of a frame, of a send, of an incident or of the
connection is the one action `fails`.
-/

namespace BpEngine.Recorder

/-! ## The coordinator -/

/-- What the coordinator reads of a `PolymarketMarket`. -/
structure MarketTokens where
  active : Bool
  windowEndAt : Timestamp
  upTokenId : String
  downTokenId : String

/-- `PolymarketSubscriptionCoordinator`. -/
structure Coordinator where
  grace : ℤ
  tokenExpiry : List (String × Timestamp) := []
  current : Finset String := ∅

/-- `SubscriptionDiff`. -/
structure SubscriptionDiff where
  added : Finset String
  removed : Finset String
  current : Finset String

/-- The expiry of a token: the later one is kept. -/
def extendExpiry (expiry : Timestamp) (tokenExpiry : List (String × Timestamp)) (tokenId : String) :
    List (String × Timestamp) :=
  match tokenExpiry.lookup tokenId with
  | none => tokenExpiry ++ [(tokenId, expiry)]
  | some known =>
    if known < expiry then
      tokenExpiry.map fun entry => if entry.1 = tokenId then (tokenId, expiry) else entry
    else tokenExpiry

/-- One market of the loop of `refresh`. -/
def noteMarket (grace : ℤ) (now : Timestamp) (tokenExpiry : List (String × Timestamp))
    (market : MarketTokens) : List (String × Timestamp) :=
  let expiry := market.windowEndAt + grace
  if !market.active || expiry < now then tokenExpiry
  else [market.upTokenId, market.downTokenId].foldl (extendExpiry expiry) tokenExpiry

/-- `refresh`, with the markets that were discovered. -/
def Coordinator.refresh (coordinator : Coordinator) (now : Timestamp) (markets : List MarketTokens) :
    SubscriptionDiff × Coordinator :=
  let noted := markets.foldl (noteMarket coordinator.grace now) coordinator.tokenExpiry
  let kept := noted.filter fun entry => now ≤ entry.2
  let desired := (kept.map Prod.fst).toFinset
  ({ added := desired \ coordinator.current
     removed := coordinator.current \ desired
     current := desired },
    { coordinator with tokenExpiry := kept, current := desired })

/-! ## Control messages -/

/-- A control message: the assets to subscribe, or not to. -/
inductive Update where
  | subscribe (assets : Finset String)
  | unsubscribe (assets : Finset String)

/-- `_asset_ids`: the ids that are not empty, if any. -/
def assetIds (assets : Finset String) : Option (Finset String) :=
  let normalized := assets.filter (· ≠ "")
  if normalized = ∅ then none else some normalized

/-- What the updater puts for one side of a difference; it raises where no id is left. -/
def controlMessages (message : Finset String → Update) (assets : Finset String) :
    Option (List Update) :=
  if assets = ∅ then some [] else (assetIds assets).map fun ids => [message ids]

/-- `_apply_market_subscription_update`, of a market subscription. -/
def applyUpdate (assets : Finset String) : Update → Finset String
  | .subscribe changes => assets.filter (· ≠ "") ∪ changes.filter (· ≠ "")
  | .unsubscribe changes => assets.filter (· ≠ "") \ changes.filter (· ≠ "")

/-! ## The runner -/

/-- Where the runner stands; `got` is the message its outbound task has taken. -/
inductive Connection where
  /-- There is no connection. -/
  | down
  /-- The subscription is being sent. -/
  | opening
  /-- It waits for its tasks. -/
  | waiting (got : Option Update)
  /-- It works on what was done; `ready` says that the outbound task was among it. -/
  | handling (ready : Bool) (got : Option Update)
  | returned

/-- The coordinator, the queue and the runner, with the messages taken from the queue so far and the
subscriptions that connections were opened with. -/
structure Feed where
  coordinator : Coordinator
  updating : Bool := true
  queue : List Update := []
  stop : Bool := false
  subscription : Finset String
  connection : Connection := .down
  taken : List Update := []
  opened : List (Finset String) := []

/-- What happens next. -/
inductive FeedAction where
  | setStop
  /-- The updater has discovered markets. -/
  | refreshes (now : Timestamp) (markets : List MarketTokens)
  /-- A connection opens, and the subscription is sent on it. -/
  | connects
  | subscribed
  /-- The outbound task takes a message. -/
  | takes
  /-- The wait returns, with the stop and a frame among what is done or not. -/
  | wakes (stopSeen received : Bool)
  /-- What was done is worked off. -/
  | finishes
  /-- An exception ends the connection. -/
  | fails
  /-- The runner ends, by the stop or by an exception outside of a connection. -/
  | ends

/-- `PolymarketCollectorComponent.run` up to its two tasks. -/
def openFeed (grace : ℤ) (now : Timestamp) (markets : List MarketTokens) : Option Feed :=
  let (initial, coordinator) := Coordinator.refresh { grace } now markets
  (assetIds initial.current).map fun subscription => { coordinator, subscription }

namespace Feed

/-- The updater with what a refresh returned. -/
def update (feed : Feed) (now : Timestamp) (markets : List MarketTokens) : Feed :=
  let (diff, coordinator) := feed.coordinator.refresh now markets
  match controlMessages .subscribe diff.added with
  | none => { feed with coordinator, updating := false }
  | some additions =>
    match controlMessages .unsubscribe diff.removed with
    | none => { feed with coordinator, queue := feed.queue ++ additions, updating := false }
    | some removals => { feed with coordinator, queue := feed.queue ++ additions ++ removals }

/-- The connection is over, and its outbound task is cancelled, or done. -/
def close (feed : Feed) : Feed :=
  { feed with connection := if feed.stop then .returned else .down }

/-- The outbound task takes the first message of the queue. -/
def take (feed : Feed) (connection : Option Update → Connection) : Feed :=
  match feed.queue with
  | [] => feed
  | message :: queue =>
    { feed with
      queue
      taken := feed.taken ++ [message]
      connection := connection (some message) }

/-- The loop of `_run_connection` after its wait, up to the first await: the message of the outbound
task is retained. -/
def wake (feed : Feed) (got : Option Update) : Feed :=
  match got with
  | none => { feed with connection := .handling false none }
  | some message =>
    { feed with
      subscription := applyUpdate feed.subscription message
      connection := .handling true (some message) }

/-- One action; an action that is not possible does nothing. -/
def exec (feed : Feed) (action : FeedAction) : Feed :=
  match feed.connection, action with
  | _, .setStop => { feed with stop := true }
  | _, .refreshes now markets => if feed.updating then feed.update now markets else feed
  | .down, .connects =>
    { feed with connection := .opening, opened := feed.opened ++ [feed.subscription] }
  | .opening, .subscribed => { feed with connection := .waiting none }
  | .waiting none, .takes => feed.take .waiting
  | .handling false none, .takes => feed.take (.handling false)
  | .waiting got, .wakes stopSeen received =>
    if stopSeen && feed.stop && !received then { feed with connection := .returned }
    else feed.wake got
  | .handling true _, .finishes => { feed with connection := .waiting none }
  | .handling false got, .finishes => { feed with connection := .waiting got }
  | .opening, .fails => feed.close
  | .handling _ _, .fails => feed.close
  | _, .ends => { feed with connection := .returned }
  | _, _ => feed

end Feed

end BpEngine.Recorder
