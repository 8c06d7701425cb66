import BpEngine.FastLive.Records
import BpEngine.Library.Pool

/-!
# The effects of the fast-live executor and receiver

What the executor and the receiver do to the outside: the files of the state directory, the clocks,
the exchange, the message queues and the memory of the receiver process.

* `Op` lists the operations and `Op.Ans` their answers; `FastLiveM` are the programs over them.
* `World` is what outlives a call: files and queues survive a crash, the memory of the process does
  not (`World.crash`).
* `World.serve` answers an operation.  What the world decides (files, locks, clocks) is computed;
  what comes from outside (the exchange, the kill switch, the safety cache, failing writes) is the
  proposed answer.
-/

namespace BpEngine.FastLive

/-! ## Payloads -/

/-- The `request` mapping of a verified payload; a number that does not parse is missing. -/
structure RequestMapping where
  tokenId : String
  action : String
  limitPrice : Option Decimal
  requestedShares : Option Decimal
  targetNotionalUsd : Option Decimal
deriving DecidableEq, Repr

/-- A verified payload: what `verify_envelope`, `verify_prepare_message` and the approval branch of
the receiver hand to the executor. -/
structure Verified where
  authorizationId : String
  intentId : String
  predictionId : String
  paperOrderId : String
  requestSha256 : String
  preparedSha256 : String
  createdAt : Timestamp
  expiresAt : Timestamp
  request : Option RequestMapping
  intentId_ne : intentId ≠ ""
  requestSha256_hex : isHex64 requestSha256 = true
deriving DecidableEq

/-- `SafetySnapshot`. -/
structure SafetySnapshot where
  observedAt : Timestamp
  geoblockBlocked : Bool
  geoblockCountry : String
  openOrderCount : ℤ
  collateralBalanceUsd : Decimal
deriving DecidableEq, Repr

/-- An order the client has signed. -/
structure SignedOrder where
  signature : String
deriving DecidableEq, Repr

/-- `PreparedFastLiveOrder`. -/
structure PreparedFastLiveOrder where
  intentId : String
  requestSha256 : String
  tokenId : String
  limitPrice : Decimal
  requestedShares : Decimal
  targetNotionalUsd : Decimal
  signedOrder : SignedOrder
  preparedAt : Timestamp
  signLatency : ℤ
deriving DecidableEq, Repr

/-- The price levels of a book; a number that does not parse is missing. -/
abbrev Levels := List (Option Decimal × Option Decimal)

/-- What the client answers to `post_order`. -/
inductive PostResponse where
  | accepted (orderId status : String)
  | rejected (code message : String)
  | other
deriving DecidableEq, Repr

/-- What the client answers to `cancel_order`. -/
inductive CancelResponse where
  | response (canceled : List String) (notCanceled : List (String × String))
  | other
deriving DecidableEq, Repr

/-- The part of a maker order in a trade; a number that does not parse is missing. -/
structure MakerOrder where
  orderId : String
  matchedAmount : Option Decimal
  price : Option Decimal
deriving DecidableEq, Repr

/-- A trade of the account. -/
structure AccountTrade where
  id : String
  takerOrderId : String
  size : Option Decimal
  price : Option Decimal
  status : String
  makerOrders : List MakerOrder
deriving DecidableEq, Repr

/-- What `_official_order_sample` finds of an order. -/
structure OfficialSample where
  orderStillOpen : Bool
  openOrderCount : ℤ
  matchingTrades : List MatchingTrade
deriving DecidableEq, Repr

/-- An approval message after its verification. -/
structure Approved where
  verified : Verified
  prepareSha256 : String
  approvalSha256 : String
  preparedObservedAt : Timestamp
deriving DecidableEq

/-- A message of the subscription; `invalid` has no known purpose or does not decode. -/
inductive Message where
  | warmup
  | prepare (verified : Verified)
  | approval (approved : Approved)
  | order (verified : Verified)
  | invalid
deriving DecidableEq

/-- The payload of an order or approval message. -/
def Message.payload : Message → Option Verified
  | .approval approved => some approved.verified
  | .order verified => some verified
  | _ => none

/-- An entry of `prepared_orders`. -/
structure CachedOrder where
  verified : Verified
  preparedOrder : PreparedFastLiveOrder
deriving DecidableEq

/-! ## Operations -/

/-- The directory of an attempt: the state root itself, or a directory below `attempts`. -/
abbrev Root := Option String

/-- The outcome of an exclusive create. -/
inductive CreateResult where
  | created
  | exists
  | failed
deriving DecidableEq, Repr

/-- What became of a published message: delivered and confirmed, lost, or delivered although the
publisher saw a failure. -/
inductive PublishResult where
  | confirmed (messageId : String)
  | lost
  | unconfirmed
deriving DecidableEq, Repr

/-- The operations of the executor and the receiver. -/
inductive Op where
  -- the files of an attempt
  | attemptExists (root : Root)
  | resultExists (root : Root)
  | readAttempt (root : Root)
  | readResult (root : Root)
  | createAttempt (root : Root)
  | writeAttempt (root : Root) (attempt : FastLiveResult)
  | replaceResult (root : Root) (result : FastLiveResult)
  | listRoots
  -- the kill switch, the safety cache and the clocks
  | killSwitch
  | reengageKillSwitch
  | safety
  | clock
  | loopClock
  | monotonicNs
  | sleep (micros : ℤ)
  -- the exchange
  | createLimitOrder (tokenId : String) (price size : Decimal)
  | bookSnapshot (tokenId : String)
  | getOrderBook (tokenId : String)
  | postOrder (verified : Verified) (order : SignedOrder)
  | cancelOrder (orderId : String)
  | listOpenOrders
  | listAccountTrades
  -- a loop that goes on
  | spin
  -- the receiver process
  | boot
  | runtimeExpired
  | subscribe
  | deliver (message : Message)
  | accepting
  | stopAccepting
  | authorize
  | verify (message : Message)
  | pruneCache (now : Timestamp)
  | takeCached (predictionId requestSha256 : String)
  | putCached (predictionId requestSha256 : String) (entry : CachedOrder)
  | lock
  | unlock
  | claimApproval (key : String)
  | writeClaim (key : String)
  | approvalResultExists (key : String)
  | readApprovalResult (key : String)
  | replaceApprovalResult (key : String) (result : FastLiveResult)
  | publish (result : FastLiveResult)
  | ack (message : Message)
  | nack (message : Message)

/-- The answers; a missing one is an exception of the operation. -/
@[reducible] def Op.Ans : Op → Type
  | .attemptExists _ | .resultExists _ | .killSwitch | .reengageKillSwitch => Bool
  | .readAttempt _ | .readResult _ | .readApprovalResult _ => Option FastLiveResult
  | .createAttempt _ | .claimApproval _ => CreateResult
  | .writeAttempt _ _ | .replaceResult _ _ | .replaceApprovalResult _ _ => Bool
  | .listRoots => List Root
  | .safety => Option SafetySnapshot
  | .clock | .loopClock => Timestamp
  | .monotonicNs => ℤ
  | .sleep _ | .spin | .boot | .subscribe | .deliver _ | .pruneCache _ | .putCached _ _ _ => Unit
  | .stopAccepting | .lock | .unlock | .ack _ | .nack _ => Unit
  | .createLimitOrder _ _ _ => Option SignedOrder
  | .bookSnapshot _ | .getOrderBook _ => Option Levels
  | .postOrder _ _ => Option PostResponse
  | .cancelOrder _ => Option CancelResponse
  | .listOpenOrders => Except String (List String)
  | .listAccountTrades => Except String (List AccountTrade)
  | .runtimeExpired | .accepting | .writeClaim _ | .approvalResultExists _ => Bool
  | .authorize | .verify _ => Option Raised
  | .takeCached _ _ => Option CachedOrder
  | .publish _ => PublishResult

/-- A program of the executor or the receiver. -/
abbrev FastLiveM := Program Op Op.Ans Raised

/-- One operation. -/
abbrev call (op : Op) : FastLiveM op.Ans := Program.call op

/-! ## The world -/

/-- The files of an attempt: a marker that was created but not written has no content. -/
structure AttemptFiles where
  attempt : Option (Option FastLiveResult) := none
  result : Option FastLiveResult := none

/-- One order handed to the exchange: the payload it was for, and the instant. -/
structure Post where
  verified : Verified
  postedAt : Timestamp

/-- An acknowledged message, and the files of the attempts at that moment. -/
structure Acked where
  message : Message
  files : Root → AttemptFiles

/-- What outlives a call. -/
structure World where
  now : Timestamp := 0
  files : Root → AttemptFiles := fun _ => {}
  roots : List Root := []
  approvalClaims : List String := []
  approvalResults : String → Option FastLiveResult := fun _ => none
  posts : List Post := []
  published : List FastLiveResult := []
  confirmed : List FastLiveResult := []
  acked : List Acked := []
  killSwitch : Bool := false
  -- the memory of the receiver process
  booted : Bool := false
  subscribed : Bool := false
  accepting : Bool := true
  locked : Bool := false
  cache : List ((String × String) × CachedOrder) := []

namespace World

/-- Changes the files of one attempt. -/
def setFiles (world : World) (root : Root) (files : AttemptFiles) : World :=
  { world with files := Function.update world.files root files }

/-- The process stops: its memory is gone. -/
def crash (world : World) : World :=
  { world with booted := false, subscribed := false, accepting := true, locked := false, cache := [] }

/-- A change from outside: time passes, or the operator sets or removes the kill switch. -/
inductive Change where
  | tick (micros : ℕ)
  | setKillSwitch (engaged : Bool)

/-- The world after a change from outside. -/
def change (world : World) : Change → World
  | .tick micros => { world with now := world.now + micros }
  | .setKillSwitch engaged => { world with killSwitch := engaged }

/-- An exclusive create of an attempt marker: a new marker has no content yet. -/
def createAttempt (world : World) (root : Root) : CreateResult → CreateResult × World
  | .failed => (.failed, world)
  | _ =>
    if (world.files root).attempt.isSome then (.exists, world)
    else
      (.created, { world.setFiles root { world.files root with attempt := some none } with
        roots := world.roots ++ [root] })

/-- The answer to an operation and the world after it; `none` blocks the call. -/
def serve (world : World) : (op : Op) → op.Ans → Option (op.Ans × World)
  | .attemptExists root, _ => some ((world.files root).attempt.isSome, world)
  | .resultExists root, _ => some ((world.files root).result.isSome, world)
  | .readAttempt root, _ => some ((world.files root).attempt.join, world)
  | .readResult root, _ => some ((world.files root).result, world)
  | .createAttempt root, proposal => some (world.createAttempt root proposal)
  | .writeAttempt root attempt, true =>
    some (true, world.setFiles root { world.files root with attempt := some (some attempt) })
  | .writeAttempt _ _, false => some (false, world)
  | .replaceResult root result, true =>
    some (true, world.setFiles root { world.files root with result := some result })
  | .replaceResult _ _, false => some (false, world)
  | .listRoots, _ => some (world.roots.insertionSort (orEmpty · ≤ orEmpty ·), world)
  | .killSwitch, unreadable => some (world.killSwitch || unreadable, world)
  | .reengageKillSwitch, true => some (true, { world with killSwitch := true })
  | .reengageKillSwitch, false => some (false, world)
  | .safety, snapshot => some (snapshot, world)
  | .clock, _ => some (world.now, world)
  | .loopClock, _ => some (world.now, world)
  | .monotonicNs, ns => some (ns, world)
  | .sleep micros, _ => some ((), { world with now := world.now + max micros 0 })
  | .createLimitOrder _ _ _, order => some (order, world)
  | .bookSnapshot _, levels => some (levels, world)
  | .getOrderBook _, levels => some (levels, world)
  | .postOrder verified _, response =>
    some (response, { world with posts := world.posts ++ [⟨verified, world.now⟩] })
  | .cancelOrder _, response => some (response, world)
  | .listOpenOrders, ids => some (ids, world)
  | .listAccountTrades, trades => some (trades, world)
  | .spin, _ => none
  | .boot, _ => if world.booted then none else some ((), { world with booted := true })
  | .runtimeExpired, expired => some (expired, world)
  | .subscribe, _ => some ((), { world with subscribed := true })
  | .deliver _, _ => if world.subscribed then some ((), world) else none
  | .accepting, _ => some (world.accepting, world)
  | .stopAccepting, _ => some ((), { world with accepting := false })
  | .authorize, failure => some (failure, world)
  | .verify _, failure => some (failure, world)
  | .pruneCache now, _ =>
    some ((), { world with
      cache := world.cache.filter fun entry => now < entry.2.verified.expiresAt })
  | .takeCached predictionId requestSha256, _ =>
    let key := (predictionId, requestSha256)
    some ((world.cache.find? fun entry => entry.1 == key).map (·.2),
      { world with cache := world.cache.filter fun entry => entry.1 != key })
  | .putCached predictionId requestSha256 entry, _ =>
    let key := (predictionId, requestSha256)
    some ((), { world with
      cache := (key, entry) :: world.cache.filter fun entry => entry.1 != key })
  | .lock, _ => if world.locked then none else some ((), { world with locked := true })
  | .unlock, _ => some ((), { world with locked := false })
  | .claimApproval _, .failed => some (.failed, world)
  | .claimApproval key, _ =>
    if key ∈ world.approvalClaims then some (.exists, world)
    else some (.created, { world with approvalClaims := world.approvalClaims ++ [key] })
  | .writeClaim _, written => some (written, world)
  | .approvalResultExists key, _ => some ((world.approvalResults key).isSome, world)
  | .readApprovalResult key, _ => some (world.approvalResults key, world)
  | .replaceApprovalResult key result, true =>
    some (true, { world with
      approvalResults := Function.update world.approvalResults key (some result) })
  | .replaceApprovalResult _ _, false => some (false, world)
  | .publish result, .confirmed messageId =>
    some (.confirmed messageId, { world with
      published := world.published ++ [result]
      confirmed := world.confirmed ++ [result] })
  | .publish _, .lost => some (.lost, world)
  | .publish result, .unconfirmed =>
    some (.unconfirmed, { world with published := world.published ++ [result] })
  | .ack message, _ => some ((), { world with acked := world.acked ++ [⟨message, world.files⟩] })
  | .nack _, _ => some ((), world)

end World

end BpEngine.FastLive
