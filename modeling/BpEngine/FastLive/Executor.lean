import BpEngine.FastLive.Effects

/-!
# The fast-live executor

`execution/fast_live_executor.py`: one submission attempt of a verified payload, its recovery after a
crash, and the loop that repeats an attempt which failed before it was consumed.

* `intentStateRoot` is the directory of the payload's attempt: the state root itself in one-shot
  mode, a directory of its own in continuous mode.
* `execute` replays what the directory holds (`replayAttempt`), or checks everything
  (`checkedQuote`), claims the attempt and posts the order (`submit`).
* `executeWithBoundedPreAttemptRetry` is the loop around it; `recoverPendingCancellations` and
  `markRecoveryResultPublished` are what a restarted receiver runs; `prepareOrder` signs ahead.
-/

namespace BpEngine.FastLive

/-- The constructor arguments of `FastLiveExecutor` and the digest it names directories with. -/
structure ExecutorConfig where
  continuousSession : Bool
  sha256 : String → String
  maxSafetyAgeSeconds : Decimal := 1
  orderTtl : ℤ := 2000000
  officialStability : ℤ := 3000000
  officialProbeAttempts : ℕ := 3
  probeAttempts_range : 1 ≤ officialProbeAttempts ∧ officialProbeAttempts ≤ 5 := by decide

def fastLiveTargetNotionalUsd : Decimal := ⟨5, 0⟩

/-- An exception of the exchange client. -/
def clientError : Raised := ⟨.runtimeError, "client error"⟩

/-- An exception of the file system. -/
def osError : Raised := ⟨.osError, "state file"⟩

/-- `raise FastLiveError(message)`. -/
def failClosed {α : Type} (message : String) : FastLiveM α := .fail ⟨.fastLiveError, message⟩

/-! ## Files -/

/-- The text a continuous attempt is named after. -/
def attemptIdentity (intentId requestSha256 : String) : String :=
  strip intentId ++ "\x00" ++ strip requestSha256

/-- `_intent_state_root` of a mapping with these two entries. -/
def stateRootOf (config : ExecutorConfig) (intentId requestSha256 : String) : Outcome Root :=
  if config.continuousSession then
    if strip intentId = "" ∨ strip requestSha256 = "" then
      raise .fastLiveError "fast live attempt identity missing"
    else .ok (some (config.sha256 (attemptIdentity intentId requestSha256)))
  else .ok none

/-- `_intent_state_root`. -/
def intentStateRoot (config : ExecutorConfig) (verified : Verified) : Outcome Root :=
  stateRootOf config verified.intentId verified.requestSha256

/-- `_read_json` of a result file. -/
def readResult (root : Root) : FastLiveM FastLiveResult := do
  match ← call (.readResult root) with
  | some result => pure result
  | none => failClosed "fast live state JSON invalid"

/-- `_read_json` of an attempt marker. -/
def readAttempt (root : Root) : FastLiveM FastLiveResult := do
  match ← call (.readAttempt root) with
  | some attempt => pure attempt
  | none => failClosed "fast live state JSON invalid"

/-- `_write_replace_json` of a result file. -/
def writeReplaceResult (root : Root) (result : FastLiveResult) : FastLiveM Unit := do
  if ← call (.replaceResult root result) then pure () else .fail osError

/-- `_write_exclusive_json` of an attempt marker. -/
def writeExclusiveAttempt (root : Root) (attempt : FastLiveResult) : FastLiveM Unit := do
  match ← call (.createAttempt root) with
  | .created => if ← call (.writeAttempt root attempt) then pure () else .fail osError
  | .exists => .fail ⟨.fileExistsError, "attempt.json"⟩
  | .failed => .fail osError

/-! ## Checks -/

/-- `_decimal`. -/
def decimal (value : Option Decimal) (name : String) : Outcome Decimal :=
  match value with
  | some d => .ok d
  | none => raise .fastLiveError s!"{name} must be numeric"

/-- `_require_fresh_safety`, once the snapshot and the time are known. -/
def checkSafety (config : ExecutorConfig) (snapshot : SafetySnapshot) (now : Timestamp) :
    Outcome SafetySnapshot := do
  let age := Timestamp.seconds (now - snapshot.observedAt)
  require (¬ (age < 0 ∨ config.maxSafetyAgeSeconds < age)) .fastLiveRetryableError
    "fast live safety snapshot stale"
  require (snapshot.geoblockBlocked = false) .fastLiveError "fast live geoblock blocked"
  require (snapshot.geoblockCountry = "ZA") .fastLiveError "fast live executor country mismatch"
  require (snapshot.openOrderCount = 0) .fastLiveError "fast live official open orders present"
  require (¬ snapshot.collateralBalanceUsd < fastLiveTargetNotionalUsd) .fastLiveError
    "fast live insufficient collateral"
  .ok snapshot

/-- `_require_fresh_safety`. -/
def requireFreshSafety (config : ExecutorConfig) : FastLiveM SafetySnapshot := do
  match ← call .safety with
  | none => .fail ⟨.fastLiveRetryableError, "fast live safety snapshot missing"⟩
  | some snapshot =>
    let now ← call .clock
    .ofExcept (checkSafety config snapshot now)

/-- `if self._kill_switch_engaged(): raise FastLiveError(message)`. -/
def requireKillSwitchOff (message : String) : FastLiveM Unit := do
  if ← call .killSwitch then failClosed message else pure ()

/-- The order a request asks for. -/
structure OrderTerms where
  tokenId : String
  limitPrice : Decimal
  shares : Decimal
  target : Decimal
deriving DecidableEq, Repr

/-- The checks of the request that `execute` and `prepare_order` make. -/
def orderTerms (request : Option RequestMapping) : Outcome OrderTerms := do
  match request with
  | none => raise .fastLiveError "fast live request missing"
  | some request =>
    let limitPrice ← decimal request.limitPrice "limit_price"
    let shares ← decimal request.requestedShares "requested_shares"
    let target ← decimal request.targetNotionalUsd "target_notional_usd"
    require (request.tokenId ≠ "") .fastLiveError "fast live token id missing"
    require (request.action = "BUY") .fastLiveError "fast live action must be BUY"
    require (Decimal.Same target fastLiveTargetNotionalUsd) .fastLiveError
      "fast live target changed"
    .ok ⟨request.tokenId, limitPrice, shares, target⟩

/-- One level of `marketable_depth`: the best price and the depth so far. -/
def addLevel (limit : Decimal) (best : Option Decimal) (depth : Decimal)
    (level : Option Decimal × Option Decimal) : Outcome (Option Decimal × Decimal) := do
  let price ← decimal level.1 "ask_price"
  let size ← decimal level.2 "ask_size"
  require (0 < price ∧ price ≤ 1 ∧ 0 < size) .fastLiveError "order book ask invalid"
  let best := match best with
    | none => price
    | some best => if price < best then price else best
  .ok (some best, if price ≤ limit then depth + size else depth)

/-- The loop of `marketable_depth`. -/
def depthOf (limit : Decimal) : Levels → Option Decimal → Decimal →
    Outcome (Option Decimal × Decimal)
  | [], best, depth => .ok (best, depth)
  | level :: levels, best, depth => do
    let (best, depth) ← addLevel limit best depth level
    depthOf limit levels best depth

/-- `marketable_depth`. -/
def marketableDepth (asks : Levels) (limit requested : Decimal) : Outcome Marketability := do
  require (¬ (requested ≤ 0 ∨ ¬ (0 < limit ∧ limit ≤ 1))) .fastLiveError
    "marketability request invalid"
  let (best, depth) ← depthOf limit asks none 0
  .ok
    { marketable := best.any fun best => best ≤ limit ∧ 0 < depth
      fullSizeMarketable := requested ≤ depth
      bestAsk := best.map Decimal.formatF
      marketableDepth := depth.formatF
      requestedShares := requested.formatF
      limitPrice := limit.formatF }

/-! ## Official state of an order -/

/-- `_trade_status_text`; the statuses are ASCII. -/
def tradeStatusText (status : String) : String :=
  let text := status.toUpper
  if text.startsWith "TRADE_STATUS_" then (text.drop 13).toString else text

/-- The later hits of one trade: another maker order with the id is refused. -/
def makerHit (orderId : String) (trade : AccountTrade) :
    List MakerOrder → Option MatchingTrade → Outcome (Option MatchingTrade)
  | [], hit => .ok hit
  | maker :: makers, hit =>
    if maker.orderId ≠ orderId then makerHit orderId trade makers hit
    else
      match hit with
      | some _ => raise .fastLiveError "order appears more than once in a single official trade"
      | none => do
        let shares ← decimal maker.matchedAmount "maker matched amount"
        let price ← decimal maker.price "maker price"
        makerHit orderId trade makers
          (some ⟨trade.id, shares.formatF, price.formatF, tradeStatusText trade.status⟩)

/-- The part of a trade that belongs to the order. -/
def tradeHit (orderId : String) (trade : AccountTrade) : Outcome (Option MatchingTrade) := do
  if trade.takerOrderId = orderId then
    let shares ← decimal trade.size "trade size"
    let price ← decimal trade.price "trade price"
    makerHit orderId trade trade.makerOrders
      (some ⟨trade.id, shares.formatF, price.formatF, tradeStatusText trade.status⟩)
  else makerHit orderId trade trade.makerOrders none

/-- The parts of the trades that belong to the order, in the order of the trades. -/
def matchingTrades (orderId : String) : List AccountTrade → Outcome (List MatchingTrade)
  | [] => .ok []
  | trade :: trades => do
    let hit ← tradeHit orderId trade
    let hits ← matchingTrades orderId trades
    .ok (hit.toList ++ hits)

/-- `_official_order_sample`; an exception is its class name. -/
def officialOrderSample (orderId : String) : FastLiveM (Except String OfficialSample) := do
  match ← call .listOpenOrders with
  | .error name => pure (.error name)
  | .ok openIds =>
    match ← call .listAccountTrades with
    | .error name => pure (.error name)
    | .ok trades =>
      match matchingTrades orderId trades with
      | .error _ => pure (.error "FastLiveError")
      | .ok hits =>
        pure (.ok
          { orderStillOpen := orderId ∈ openIds
            openOrderCount := openIds.length
            matchingTrades := hits.insertionSort (·.tradeId ≤ ·.tradeId) })

/-- What two samples say of the order. -/
def officialState (first second : OfficialSample) (requestedShares : Decimal) :
    Outcome OfficialState :=
  let confirmed := second.matchingTrades.filter (·.status = "CONFIRMED")
  let nonfinal := second.matchingTrades.filter (·.status ≠ "CONFIRMED")
  let confirmedShares := confirmed.foldl (fun sum row => sum + row.shares) 0
  let confirmedNotional := confirmed.foldl (fun sum row => sum + row.shares * row.price) 0
  if requestedShares < confirmedShares then
    raise .fastLiveError "confirmed fill exceeds requested shares"
  else .ok
    { officialReconciliationComplete := first = second ∧ second.orderStillOpen = false ∧
        nonfinal = [] ∧ second.openOrderCount = 0
      fillState := some <|
        if second.orderStillOpen then .orderStillOpen
        else if nonfinal ≠ [] then .fillObservedNotFinal
        else if confirmed ≠ [] then .confirmedFill
        else .zeroFillObserved
      snapshotStable := some (first = second)
      orderStillOpen := some second.orderStillOpen
      openOrderCount := some second.openOrderCount
      matchingTradeCount := some second.matchingTrades.length
      matchingTrades := some second.matchingTrades
      confirmedFilledShares := some confirmedShares.formatF
      confirmedFilledNotionalUsd := some confirmedNotional.formatF }

/-- `probe_official_order_state`; an exception is its class name. -/
def probeOfficialOrderState (config : ExecutorConfig) (orderId : String)
    (requestedShares : Decimal) : FastLiveM (Except String OfficialState) := do
  match ← officialOrderSample orderId with
  | .error name => pure (.error name)
  | .ok first =>
    call (.sleep config.officialStability)
    match ← officialOrderSample orderId with
    | .error name => pure (.error name)
    | .ok second =>
      match officialState first second requestedShares with
      | .error _ => pure (.error "FastLiveError")
      | .ok official => pure (.ok official)

/-- What the probe with the given number contributes to the result. -/
def probeOutcome (number : ℕ) : Except String OfficialState → OfficialState
  | .ok official => { official with probeAttempts := some number }
  | .error name =>
    { officialReconciliationComplete := false
      fillState := some .officialProbeFailed
      error := some name
      probeAttempts := some number }

/-- The probes that are left, from the given number on; `official` is the last outcome. -/
def probeLoop (config : ExecutorConfig) (orderId : String) (requestedShares : Decimal) :
    (left number : ℕ) → OfficialState → FastLiveM OfficialState
  | 0, _, official => pure official
  | left + 1, number, _ => do
    let probed ← probeOfficialOrderState config orderId requestedShares
    let official := probeOutcome number probed
    if official.officialReconciliationComplete then pure official
    else probeLoop config orderId requestedShares left (number + 1) official

/-- The cancellation of an order. -/
def cancelOrder (orderId : String) : FastLiveM Cancellation := do
  match ← call (.cancelOrder orderId) with
  | some (.response canceled notCanceled) =>
    pure ⟨orderId ∈ canceled, (notCanceled.lookup orderId).getD ""⟩
  | some .other => pure ⟨false, "unexpected cancellation response"⟩
  | none => pure ⟨false, "cancellation failed"⟩

/-- `_cancel_and_probe`. -/
def cancelAndProbe (config : ExecutorConfig) (orderId : String) (requestedShares : Decimal) :
    FastLiveM (Cancellation × OfficialState) := do
  let cancellation ← cancelOrder orderId
  let official ← probeLoop config orderId requestedShares config.officialProbeAttempts 1
    { officialReconciliationComplete := false, fillState := some .officialProbeNotRun }
  pure (cancellation, official)

/-- The result of an accepted order after its cancellation and probe. -/
def FastLiveResult.cancelled (result : FastLiveResult) (cancellation : Cancellation)
    (official : OfficialState) : FastLiveResult :=
  { result with
    cancellation := some cancellation
    cancellationPending := some false
    officialReconciliation := some official }

/-! ## Recovery -/

/-- The result that a restarted receiver has to publish. -/
def FastLiveResult.recovered (result : FastLiveResult) (recoveredAt : Timestamp) :
    FastLiveResult :=
  { result with
    recoveredPendingCancellation := some true
    recoveredAt := some recoveredAt
    recoveryResultPublishPending := some true }

/-- The recovered result once it has been published. -/
def FastLiveResult.recoveryPublished (result : FastLiveResult) (publishedAt : Timestamp) :
    FastLiveResult :=
  { result with
    recoveryResultPublishPending := some false
    recoveryResultPublishedAt := some publishedAt }

/-- The pending cancellation of one directory is carried out. -/
def recoverPending (config : ExecutorConfig) (root : Root) (result : FastLiveResult) :
    FastLiveM FastLiveResult := do
  if result.status ≠ some .accepted ∨ result.networkSubmissionAttemptConsumed ≠ some true ∨
      result.realOrderSubmitted ≠ some true then
    failClosed "pending cancellation result state invalid"
  else
    let orderId := orEmpty result.externalOrderId.join
    match result.marketability with
    | none => failClosed "pending cancellation binding missing"
    | some marketability =>
      if orderId = "" then failClosed "pending cancellation binding missing"
      else
        let (cancellation, official) ← cancelAndProbe config orderId marketability.requestedShares
        let recoveredAt ← call .clock
        let recovered := (result.cancelled cancellation official).recovered recoveredAt
        writeReplaceResult root recovered
        pure recovered

/-- The result that `recover_pending_cancellations` finds in one directory. -/
def recoverRoot (config : ExecutorConfig) (root : Root) : FastLiveM (Option FastLiveResult) := do
  if !(← call (.attemptExists root)) then pure none
  else if !(← call (.resultExists root)) then pure none
  else
    let result ← readResult root
    if result.cancellationPending ≠ some true then
      if result.recoveryResultPublishPending = some true then pure (some result) else pure none
    else
      let recovered ← recoverPending config root result
      pure (some recovered)

/-- The directories one after the other. -/
def recoverRoots (config : ExecutorConfig) : List Root → FastLiveM (List FastLiveResult)
  | [] => pure []
  | root :: roots => do
    let recovered ← recoverRoot config root
    let later ← recoverRoots config roots
    pure (recovered.toList ++ later)

/-- `recover_pending_cancellations`. -/
def recoverPendingCancellations (config : ExecutorConfig) : FastLiveM (List FastLiveResult) := do
  if config.continuousSession then
    let roots ← call .listRoots
    recoverRoots config roots
  else recoverRoots config [none]

/-- `mark_recovery_result_published`. -/
def markRecoveryResultPublished (config : ExecutorConfig) (result : FastLiveResult) :
    FastLiveM Unit := do
  let intentId := orEmpty result.intentId
  let requestSha256 := orEmpty result.requestSha256
  if intentId = "" ∨ requestSha256 = "" then
    failClosed "recovery result publish identity missing"
  else
    let root ← .ofExcept (stateRootOf config intentId requestSha256)
    let persisted ← readResult root
    if orEmpty persisted.intentId ≠ intentId ∨ orEmpty persisted.requestSha256 ≠ requestSha256 ∨
        persisted.recoveryResultPublishPending ≠ some true then
      failClosed "recovery result publish state mismatch"
    else
      let publishedAt ← call .clock
      writeReplaceResult root (persisted.recoveryPublished publishedAt)

/-! ## Signing ahead -/

/-- The client signs an order; the latency is what the monotonic clock says. -/
def signOrder (terms : OrderTerms) : FastLiveM (SignedOrder × ℤ) := do
  let started ← call .monotonicNs
  match ← call (.createLimitOrder terms.tokenId terms.limitPrice terms.shares) with
  | none => .fail clientError
  | some signedOrder =>
    let completed ← call .monotonicNs
    pure (signedOrder, completed - started)

/-- `prepare_order`. -/
def prepareOrder (config : ExecutorConfig) (verified : Verified) :
    FastLiveM PreparedFastLiveOrder := do
  let root ← .ofExcept (intentStateRoot config verified)
  if ← call (.attemptExists root) then failClosed "fast live attempt already exists"
  else
    let _ ← requireFreshSafety config
    let terms ← .ofExcept (orderTerms verified.request)
    let preparedAt ← call .clock
    let (signedOrder, signLatency) ← signOrder terms
    pure
      { intentId := verified.intentId
        requestSha256 := verified.requestSha256
        tokenId := terms.tokenId
        limitPrice := terms.limitPrice
        requestedShares := terms.shares
        targetNotionalUsd := terms.target
        signedOrder
        preparedAt
        signLatency }

/-! ## The attempt -/

/-- What an attempt knows of its payload when it quotes the book. -/
structure Quoted where
  safety : SafetySnapshot
  terms : OrderTerms
  receivedAt : Timestamp
  signedOrder : SignedOrder
  signLatency : ℤ
  marketability : Marketability
  quoteSource : QuoteSource
  quoteStarted : ℤ
  quoteCompleted : ℤ

/-- The signed order of the attempt: signed now, or the prepared one after its checks. -/
def signedOrderFor (verified : Verified) (terms : OrderTerms) :
    Option PreparedFastLiveOrder → FastLiveM (SignedOrder × ℤ)
  | none => signOrder terms
  | some prepared => do
    if prepared.requestSha256 ≠ verified.requestSha256 then
      failClosed "prepared order request hash mismatch"
    else if prepared.tokenId ≠ terms.tokenId ∨
        ¬ Decimal.Same prepared.limitPrice terms.limitPrice ∨
        ¬ Decimal.Same prepared.requestedShares terms.shares ∨
        ¬ Decimal.Same prepared.targetNotionalUsd terms.target then
      failClosed "prepared order request changed"
    else pure (prepared.signedOrder, prepared.signLatency)

/-- The asks of the token: from the stream, or fetched. -/
def quoteLevels (tokenId : String) : FastLiveM (Levels × QuoteSource) := do
  match ← call (.bookSnapshot tokenId) with
  | some levels => pure (levels, .stream)
  | none =>
    match ← call (.getOrderBook tokenId) with
    | some levels => pure (levels, .http)
    | none => .fail ⟨.fastLiveRetryableError, "fast live fresh order book unavailable"⟩

/-- `execute` up to the quote. -/
def checkedQuote (config : ExecutorConfig) (verified : Verified)
    (prepared : Option PreparedFastLiveOrder) : FastLiveM Quoted := do
  requireKillSwitchOff "fast live kill switch engaged"
  let safety ← requireFreshSafety config
  let terms ← .ofExcept (orderTerms verified.request)
  let receivedAt ← call .clock
  let (signedOrder, signLatency) ← signedOrderFor verified terms prepared
  let _ ← requireFreshSafety config
  requireKillSwitchOff "fast live kill switch engaged before quote"
  let quoteStarted ← call .monotonicNs
  let (levels, quoteSource) ← quoteLevels terms.tokenId
  let quoteCompleted ← call .monotonicNs
  let marketability ← .ofExcept (marketableDepth levels terms.limitPrice terms.shares)
  pure ⟨safety, terms, receivedAt, signedOrder, signLatency, marketability, quoteSource,
    quoteStarted, quoteCompleted⟩

/-- The result of a book that does not cover the order. -/
def freshBookRejected (verified : Verified) (quoted : Quoted) : FastLiveResult :=
  { status := some .freshBookRejected
    intentId := some verified.intentId
    predictionId := some verified.predictionId
    paperOrderId := some verified.paperOrderId
    requestSha256 := some verified.requestSha256
    marketability := some quoted.marketability
    networkSubmissionAttemptConsumed := some false
    realOrderSubmitted := some false
    quoteLatency := some (quoted.quoteCompleted - quoted.quoteStarted)
    quoteSource := some quoted.quoteSource
    signLatency := some quoted.signLatency }

/-- The attempt marker. -/
def attemptMarker (verified : Verified) (startedAt : Timestamp) : FastLiveResult :=
  { schemaVersion := some 1
    status := some .networkSubmissionAttemptStarting
    authorizationId := some verified.authorizationId
    intentId := some verified.intentId
    predictionId := some verified.predictionId
    paperOrderId := some verified.paperOrderId
    requestSha256 := some verified.requestSha256
    startedAt := some startedAt }

/-- The keys that every result of a consumed attempt without an order has. -/
def consumedAttempt (attempt : FastLiveResult) (status : ResultStatus) : FastLiveResult :=
  { attempt with
    status := some status
    accepted := some false
    externalOrderId := some none
    networkSubmissionAttemptConsumed := some true
    realOrderSubmitted := some true }

/-- The result of a post that raised. -/
def submissionUnknown (attempt : FastLiveResult) (quoted : Quoted) (postStartedAt : Timestamp)
    (postStarted : ℤ) : FastLiveResult :=
  { consumedAttempt attempt .submissionUnknown with
    submissionOutcomeKnown := some false
    marketability := some quoted.marketability
    safetyObservedAt := some quoted.safety.observedAt
    receivedAt := some quoted.receivedAt
    postStartedAt := some postStartedAt
    quoteLatency := some (quoted.quoteCompleted - quoted.quoteStarted)
    quoteSource := some quoted.quoteSource
    signLatency := some quoted.signLatency
    quoteToPost := some (postStarted - quoted.quoteCompleted) }

/-- The result of a rejected order. -/
def rejectedResult (attempt : FastLiveResult) (code message : String) : FastLiveResult :=
  { consumedAttempt attempt .rejected with code := some code, message := some message }

/-- The result of an accepted order before its cancellation. -/
def acceptedResult (attempt : FastLiveResult) (quoted : Quoted) (orderId status : String)
    (postStartedAt postCompletedAt : Timestamp) (postStarted postCompleted : ℤ) :
    FastLiveResult :=
  { attempt with
    status := some .accepted
    accepted := some true
    externalOrderId := some (some orderId)
    initialOrderStatus := some status
    networkSubmissionAttemptConsumed := some true
    realOrderSubmitted := some true
    cancellationPending := some true
    marketability := some quoted.marketability
    safetyObservedAt := some quoted.safety.observedAt
    receivedAt := some quoted.receivedAt
    postStartedAt := some postStartedAt
    postCompletedAt := some postCompletedAt
    quoteLatency := some (quoted.quoteCompleted - quoted.quoteStarted)
    quoteSource := some quoted.quoteSource
    signLatency := some quoted.signLatency
    postLatency := some (postCompleted - postStarted)
    quoteToPost := some (postStarted - quoted.quoteCompleted) }

/-- The accepted order rests for its time to live, is cancelled and probed. -/
def finishAccepted (config : ExecutorConfig) (root : Root) (terms : OrderTerms)
    (preliminary : FastLiveResult) (orderId : String) : FastLiveM FastLiveResult := do
  writeReplaceResult root preliminary
  call (.sleep config.orderTtl)
  let (cancellation, official) ← cancelAndProbe config orderId terms.shares
  let result := preliminary.cancelled cancellation official
  writeReplaceResult root result
  pure result

/-- The order is posted and the response recorded. -/
def postAttempt (config : ExecutorConfig) (root : Root) (verified : Verified) (quoted : Quoted)
    (attempt : FastLiveResult) : FastLiveM FastLiveResult := do
  let postStartedAt ← call .clock
  let postStarted ← call .monotonicNs
  match ← call (.postOrder verified quoted.signedOrder) with
  | none =>
    let result := submissionUnknown attempt quoted postStartedAt postStarted
    writeReplaceResult root result
    pure result
  | some response =>
    let postCompleted ← call .monotonicNs
    let postCompletedAt ← call .clock
    match response with
    | .rejected code message =>
      let result := rejectedResult attempt code message
      writeReplaceResult root result
      pure result
    | .other =>
      let result := consumedAttempt attempt .submissionUnknown
      writeReplaceResult root result
      pure result
    | .accepted orderId status =>
      finishAccepted config root quoted.terms
        (acceptedResult attempt quoted orderId status postStartedAt postCompletedAt postStarted
          postCompleted) orderId

/-- `execute` from the quote on: the attempt is claimed by its marker and posted. -/
def submit (config : ExecutorConfig) (root : Root) (verified : Verified) (quoted : Quoted) :
    FastLiveM FastLiveResult := do
  let _ ← requireFreshSafety config
  requireKillSwitchOff "fast live kill switch engaged before attempt"
  let startedAt ← call .clock
  let attempt := attemptMarker verified startedAt
  writeExclusiveAttempt root attempt
  if config.continuousSession then postAttempt config root verified quoted attempt
  else if ← call .reengageKillSwitch then postAttempt config root verified quoted attempt
  else .fail osError

/-- The stored result as a repeated call returns it. -/
def FastLiveResult.replayed (result : FastLiveResult) : FastLiveResult :=
  { result with replayedResult := some true }

/-- The result that a marker without a result stands for. -/
def recoveredAttempt (attempt : FastLiveResult) : FastLiveResult :=
  { consumedAttempt attempt .submissionUnknown with recoveredFromAttemptMarker := some true }

/-- A stored accepted result whose order has not been cancelled is finished. -/
def finishReplayed (config : ExecutorConfig) (root : Root) (replayed : FastLiveResult) :
    FastLiveM FastLiveResult := do
  match replayed.marketability with
  | none => failClosed "accepted replay missing marketability"
  | some marketability =>
    let (cancellation, official) ← cancelAndProbe config (orEmpty replayed.externalOrderId.join)
      marketability.requestedShares
    let finished := replayed.cancelled cancellation official
    writeReplaceResult root finished
    pure finished

/-- The result of an attempt whose marker exists. -/
def replayAttempt (config : ExecutorConfig) (root : Root) : FastLiveM FastLiveResult := do
  if ← call (.resultExists root) then
    let replayed ← readResult root
    if replayed.status = some .accepted ∧ replayed.cancellationPending = some true ∧
        orEmpty replayed.externalOrderId.join ≠ "" then
      let finished ← finishReplayed config root replayed
      pure finished.replayed
    else pure replayed.replayed
  else
    let attempt ← readAttempt root
    pure (recoveredAttempt attempt)

/-- `execute`. -/
def execute (config : ExecutorConfig) (verified : Verified)
    (prepared : Option PreparedFastLiveOrder) : FastLiveM FastLiveResult := do
  let root ← .ofExcept (intentStateRoot config verified)
  if ← call (.attemptExists root) then replayAttempt config root
  else
    let quoted ← checkedQuote config verified prepared
    if quoted.marketability.marketable then submit config root verified quoted
    else pure (freshBookRejected verified quoted)

/-! ## The retry loop -/

/-- The pause of the loop, in microseconds: `retry_sleep_seconds` of 0.02. -/
def retrySleep : ℤ := 20000

/-- `min(retry_sleep_seconds, max(0.0, remaining - 0.01))`. -/
def pauseFor (remaining : ℤ) : ℤ := min retrySleep (max 0 (remaining - 10000))

/-- The result of a payload whose lifetime does not allow another attempt. -/
def preAttemptRetryExhausted (verified : Verified) (reason : String) (retries : ℕ) :
    FastLiveResult :=
  { status := some .preAttemptRetryExhausted
    intentId := some verified.intentId
    predictionId := some verified.predictionId
    paperOrderId := some verified.paperOrderId
    requestSha256 := some verified.requestSha256
    reason := some reason
    preAttemptRetryCount := some retries
    networkSubmissionAttemptConsumed := some false
    realOrderSubmitted := some false
    externalOrderId := some none }

/-- The result of a call that was repeated before its attempt. -/
def FastLiveResult.retried (result : FastLiveResult) (retries : ℕ) : FastLiveResult :=
  { result with preAttemptRetryCount := some retries }

/-- `execute_with_bounded_pre_attempt_retry`, after a number of retries.  A loop that goes on for
longer than `fuel` rounds performs `spin`, which is never answered. -/
def executeWithRetry (config : ExecutorConfig) (verified : Verified)
    (prepared : Option PreparedFastLiveOrder) : (fuel retries : ℕ) → FastLiveM FastLiveResult
  | 0, _ => do
    call .spin
    failClosed "unreachable"
  | fuel + 1, retries => do
    match ← (execute config verified prepared).attempt with
    | .ok result => pure (result.retried retries)
    | .error error =>
      if error.cls ≠ .fastLiveRetryableError then .fail error
      else
        let root ← .ofExcept (intentStateRoot config verified)
        if ← call (.attemptExists root) then .fail error
        else
          let now ← call .loopClock
          let remaining := verified.expiresAt - now
          if remaining ≤ max 10000 retrySleep then
            pure (preAttemptRetryExhausted verified error.message (retries + 1))
          else
            call (.sleep (pauseFor remaining))
            executeWithRetry config verified prepared fuel (retries + 1)

/-- `execute_with_bounded_pre_attempt_retry`. -/
def executeWithBoundedPreAttemptRetry (config : ExecutorConfig) (verified : Verified)
    (prepared : Option PreparedFastLiveOrder) (fuel : ℕ) : FastLiveM FastLiveResult :=
  executeWithRetry config verified prepared fuel 0

end BpEngine.FastLive
