import BpEngine.Execution.Documents
import BpEngine.Library.Pool

/-!
# The canary executor

`phase15_v3_canary_executor_fill_guard_candidate.py`: one process reads a request from its standard
input, and answers with a health report, a quote, or the submission of one order.

* `CanaryOp` lists the effects; `activation`, `consumeOneShotArm`, `health`, `quote`, `submit` and
  `main` are the programs over them.
* `checkedOrder` is what `quote` and `submit` make of a request.
* `CanaryWorld` has the kill switch, the activation and the orders that were posted; `canaryHost` runs
  many executors at a time, while others replace the activation and remove or make the kill switch.
-/

namespace BpEngine.CanaryExecutor

/-! ## Constants -/

/-- `MAX_NOTIONAL_USD`. -/
def maxNotionalUsd : Decimal := ⟨10, 0⟩

/-- `TARGET_NOTIONAL_USD`. -/
def targetNotionalUsd : Decimal := ⟨5, 0⟩

/-- `COLLATERAL_BASE_UNITS_PER_USD`. -/
def collateralBaseUnitsPerUsd : Decimal := ⟨1000000, 0⟩

/-- `TTL_SECONDS`. -/
def ttlSeconds : ℤ := 2

/-- `FILL_GUARD_VERSION`. -/
def fillGuardVersion : String := "fresh_marketable_depth_v1"

/-- `GEOBLOCK_URL`. -/
def geoblockUrl : String := "https://polymarket.com/api/geoblock"

/-! ## Requests -/

/-- `_decimal`. -/
def decimalOf (value : Json) (name : String) : Outcome Decimal :=
  match decimalOfText value.text with
  | none => raise .valueError (name ++ " must be numeric")
  | some (.finite number) => .ok number
  | some _ => raise .valueError (name ++ " must be finite")

/-- `d[name]`. -/
def item (d : Dict) (name : String) : Outcome Json :=
  match d.lookup name with
  | some value => .ok value
  | none => raise .keyError (Json.quoted name)

/-- The order a request asks for. -/
structure CanaryOrder where
  tokenId : String
  price : Decimal
  size : Decimal
  target : Decimal
deriving DecidableEq

/-- The reading and the checks of a request, the same in `_quote` and in `_submit`. -/
def checkedOrder (request : Dict) : Outcome CanaryOrder := do
  let tokenId := (request.get "token_id").textOrEmpty
  let action := (request.get "action").textOrEmpty
  let price ← decimalOf (request.get "limit_price") "limit_price"
  let size ← decimalOf (request.get "requested_shares") "requested_shares"
  let target ← decimalOf (request.get "target_notional_usd") "target_notional_usd"
  require (tokenId ≠ "") .valueError "token_id is required"
  require (action = "BUY") .valueError "canary action must be BUY"
  require (⟨0, 0⟩ < price ∧ price ≤ ⟨1, 0⟩) .valueError "limit_price must be within (0, 1]"
  require (¬ (size ≤ ⟨0, 0⟩ ∨ target ≤ ⟨0, 0⟩)) .valueError
    "size and target_notional_usd must be positive"
  require (Decimal.Same target targetNotionalUsd) .runtimeError "canary_target_notional_changed"
  require (¬ (maxNotionalUsd < target ∨ maxNotionalUsd < price * size)) .runtimeError
    "canary_notional_limit_exceeded"
  .ok ⟨tokenId, price, size, target⟩

/-- `payload.get("request")`, which must be an object. -/
def requestOf (payload : Dict) : Outcome Dict :=
  requireMapping (payload.get "request") .valueError "request must be an object"

/-! ## Effects -/

/-- A limit order as it is created: `side` is always `BUY`. -/
structure LimitOrder where
  tokenId : String
  price : Decimal
  size : Decimal
  side : String := "BUY"
deriving DecidableEq

/-- What `post_order` answers. -/
inductive OrderResponse where
  | rejected (code message : String)
  | accepted (orderId status : String)
  | other

/-- What `cancel_order` answers. -/
inductive CancelResponse where
  | orders (canceled : List String) (notCanceled : List (String × String))
  | other

/-- What becomes of `os.open` with `O_EXCL`. -/
inductive ExclusiveOpen where
  | created
  | exists
  | failed (raised : Raised)

/-- The effects of an executor.  A response without the status 200 has no payload. -/
inductive CanaryOp where
  | fetchGeoblock
  | readActivation
  | executorSha256
  | now
  | localTime (wall : ℤ)
  | killSwitchExists
  | openKillSwitch
  | writeKillSwitch
  | environ
  | createClient (privateKey : String) (wallet : Option String)
  | balanceAllowance
  | openOrders
  | orderBook (tokenId : String)
  | createLimitOrder (order : LimitOrder)
  | postOrder (order : LimitOrder)
  | sleep (seconds : ℤ)
  | cancelOrder (orderId : String)

/-- The answers. -/
def CanaryOp.Ans : CanaryOp → Type
  | .fetchGeoblock => Outcome (Option Json)
  | .readActivation => Outcome Json
  | .executorSha256 => Outcome String
  | .now => Timestamp
  | .localTime _ => Outcome Timestamp
  | .killSwitchExists => Outcome Bool
  | .openKillSwitch => ExclusiveOpen
  | .writeKillSwitch => Outcome Unit
  | .environ => String × String
  | .createClient _ _ => Outcome Unit
  | .balanceAllowance => Outcome Json
  | .openOrders => Outcome ℕ
  | .orderBook _ => Outcome (List (Json × Json))
  | .createLimitOrder _ => Outcome Unit
  | .postOrder _ => Outcome OrderResponse
  | .sleep _ => Unit
  | .cancelOrder _ => Outcome CancelResponse

/-- A program of the executor. -/
abbrev CanaryM (α : Type) := Program CanaryOp CanaryOp.Ans Raised α

/-- An exception that `except Exception` catches. -/
def isException (raised : Raised) : Bool := raised.cls ≠ .keyboardInterrupt

/-- The result of a step in which an exception is replaced by another one. -/
def mapException {α : Type} (result : Outcome α) (cls : PyClass) (message : String) : Outcome α :=
  match result with
  | .ok value => .ok value
  | .error raised => if isException raised then raise cls message else .error raised

/-- The current time. -/
def now : CanaryM Timestamp := Program.call CanaryOp.now

/-- `_executor_sha256`, of which an `OSError` is replaced. -/
def executorSha256 : CanaryM String := do
  let result ← Program.call CanaryOp.executorSha256
  match (result : Outcome String) with
  | .ok digest => pure digest
  | .error raised =>
    if raised.cls = .osError then Program.ofExcept (raise .runtimeError "executor_hash_failed")
    else Program.fail raised

/-- `_geoblock`, as far as it is checked. -/
structure Geoblock where
  blocked : Bool
  country : String
  region : String
  directUrl : String := geoblockUrl

/-- The checks of the geography that was fetched. -/
def geoblockOf (payload : Option Json) : Outcome Geoblock := do
  match payload with
  | none => raise .runtimeError "geoblock_non_200"
  | some (.obj payload) =>
    match Dict.get payload "blocked" with
    | .bool blocked =>
      match Dict.get payload "country" with
      | .str country =>
        match Dict.get payload "region" with
        | .str region => .ok { blocked, country, region }
        | _ => raise .runtimeError "geoblock_invalid_region"
      | _ => raise .runtimeError "geoblock_invalid_country"
    | _ => raise .runtimeError "geoblock_invalid_blocked"
  | some _ => raise .attributeError "object has no attribute 'get'"

/-- `_geoblock`. -/
def geoblock : CanaryM Geoblock := do
  let fetched ← Program.call CanaryOp.fetchGeoblock
  Program.ofExcept ((fetched : Outcome (Option Json)) >>= geoblockOf)

/-- `_geoblock`, which must not be blocked. -/
def openGeoblock : CanaryM Geoblock := do
  let geo ← geoblock
  Program.ofExcept (require (geo.blocked = false) .runtimeError "geoblock_blocked")
  pure geo

/-! ## The activation -/

/-- The read errors that count as a missing activation. -/
def isMissing (raised : Raised) : Bool :=
  raised.cls = .osError || raised.cls = .jsonDecodeError

/-- The file of the activation, which must hold an object. -/
def activationFile (read : Outcome Json) : Outcome Dict :=
  match read with
  | .ok (.obj payload) => .ok payload
  | .ok _ => raise .attributeError "object has no attribute 'get'"
  | .error raised =>
    if isMissing raised then raise .runtimeError "activation_missing_or_invalid" else .error raised

/-- The checks of an activation before the executor's hash is computed. -/
def activationAuthorized (payload : Dict) : Outcome Unit :=
  require ((payload.get "authorized").isBool true = true) .runtimeError "activation_not_authorized"

/-- The checks of an activation up to its times. -/
def activationFields (payload : Dict) (digest : String) : Outcome Unit := do
  require ((payload.get "executor_sha256").textOrEmpty = digest) .runtimeError
    "activation_executor_sha256_mismatch"
  require ((payload.get "source_prediction_version").isStr "v3-frozen-paper-v1" = true) .runtimeError
    "activation_prediction_version_mismatch"
  require ((payload.get "source_execution_version").isStr "paper-execution-v3-frozen-v1" = true)
    .runtimeError "activation_execution_version_mismatch"
  let limit ← decimalOf (payload.get "max_trade_size_usd") "activation.max_trade_size_usd"
  require (Decimal.Same limit maxNotionalUsd) .runtimeError "activation_trade_limit_mismatch"
  let attempts ← (payload.getOr "max_submission_attempts" (.int 0)).toInt
  require (attempts = 1) .runtimeError "activation_attempt_limit_mismatch"
  ["intent_id", "prediction_id", "paper_order_id", "request_sha256"].forM fun name =>
    require (strip (payload.get name).textOrEmpty ≠ "") .runtimeError
      ("activation_" ++ name ++ "_missing")

/-- `value.astimezone(UTC)`: a naive `datetime` is a local one. -/
def astimezone (value : DateTime) : CanaryM Timestamp := do
  match value.offset with
  | some _ => Program.ofExcept (inUtc .valueError "" value)
  | none =>
    let result ← Program.call (CanaryOp.localTime value.wall)
    Program.ofExcept (result : Outcome Timestamp)

/-- A time of the activation. -/
def activationTime (payload : Dict) (name : String) : CanaryM Timestamp := do
  let value ← Program.ofExcept (item payload name)
  let time ← Program.ofExcept (dateTimeOf value.text)
  astimezone time

/-- `_activation`. -/
def activation : CanaryM Dict := do
  let read ← Program.call CanaryOp.readActivation
  let payload ← Program.ofExcept (activationFile read)
  Program.ofExcept (activationAuthorized payload)
  let digest ← executorSha256
  Program.ofExcept (activationFields payload digest)
  let issued ← activationTime payload "issued_at"
  let expires ← activationTime payload "expires_at"
  let now ← now
  Program.ofExcept (require (¬ (now < issued ∨ expires ≤ now)) .runtimeError
    "activation_expired_or_future")
  pure payload

/-! ## The kill switch -/

/-- `_kill_switch_engaged`: a file that cannot be looked at counts as there. -/
def killSwitchEngaged : CanaryM Bool := do
  let result ← Program.call CanaryOp.killSwitchExists
  match (result : Outcome Bool) with
  | .ok engaged => pure engaged
  | .error raised => if raised.cls = .osError then pure true else Program.fail raised

/-- `_consume_one_shot_arm`. -/
def consumeOneShotArm : CanaryM Unit := do
  let engaged ← killSwitchEngaged
  Program.ofExcept (require (engaged = false) .runtimeError "kill_switch_engaged")
  let opened ← Program.call CanaryOp.openKillSwitch
  match (opened : ExclusiveOpen) with
  | .exists => Program.ofExcept (raise .runtimeError "kill_switch_engaged")
  | .failed raised => Program.fail raised
  | .created =>
    let written ← Program.call CanaryOp.writeKillSwitch
    Program.ofExcept (written : Outcome Unit)

/-! ## The account -/

/-- `_client`. -/
def client : CanaryM Unit := do
  let (privateKey, wallet) ← (do Program.call CanaryOp.environ : CanaryM (String × String))
  Program.ofExcept (require (strip privateKey ≠ "") .runtimeError "private_key_missing")
  let created ← Program.call (CanaryOp.createClient (strip privateKey)
    (if strip wallet = "" then none else some (strip wallet)))
  Program.ofExcept (mapException created .runtimeError "client_creation_failed")

/-- What `_account_preflight` finds. -/
structure Account where
  collateralBalanceBaseUnits : ℤ
  collateralBalanceUsd : Decimal
  openOrderCount : ℕ
  cleanForCanary : Bool

/-- The account of a balance and of a number of open orders. -/
def accountOf (balance : Json) (openOrderCount : ℕ) : Outcome Account := do
  let baseUnits ← balance.toInt
  match Decimal.div (Decimal.ofInt baseUnits) collateralBaseUnitsPerUsd with
  | none => raise .arithmeticError "division by zero"
  | some balanceUsd =>
    .ok {
      collateralBalanceBaseUnits := baseUnits
      collateralBalanceUsd := Decimal.formatF balanceUsd
      openOrderCount
      cleanForCanary := openOrderCount = 0 ∧ targetNotionalUsd ≤ balanceUsd }

/-- `_account_preflight`. -/
def accountPreflight : CanaryM Account := do
  let balance ← Program.call CanaryOp.balanceAllowance
  let balance ← Program.ofExcept
    (mapException (balance : Outcome Json) .runtimeError "account_preflight_failed")
  let orders ← Program.call CanaryOp.openOrders
  let openOrderCount ← Program.ofExcept
    (mapException (orders : Outcome ℕ) .runtimeError "account_preflight_failed")
  Program.ofExcept (accountOf balance openOrderCount)

/-! ## Health -/

/-- The report of `_health`. -/
structure HealthReport where
  geoblock : Geoblock
  walletConfigured : Bool
  executorSha256 : String
  account : Account
  activationValid : Bool
  killSwitchEngaged : Bool
  submissionReady : Bool

/-- The activation passes its checks; other failures than a `RuntimeError` go on. -/
def activationValid : CanaryM Bool := do
  match ← activation.attempt with
  | .ok _ => pure true
  | .error raised => if raised.cls = .runtimeError then pure false else Program.fail raised

/-- `_health`. -/
def health : CanaryM HealthReport := do
  let geo ← openGeoblock
  let (privateKey, wallet) ← (do Program.call CanaryOp.environ : CanaryM (String × String))
  Program.ofExcept (require (strip privateKey ≠ "") .runtimeError "private_key_missing")
  client
  let account ← accountPreflight
  Program.ofExcept (require (account.cleanForCanary = true) .runtimeError
    "account_not_clean_for_canary")
  let valid ← activationValid
  let digest ← executorSha256
  let engaged ← killSwitchEngaged
  let stillEngaged ← if valid then killSwitchEngaged else pure true
  pure {
    geoblock := geo
    walletConfigured := strip wallet ≠ ""
    executorSha256 := digest
    account
    activationValid := valid
    killSwitchEngaged := engaged
    submissionReady := valid && !stillEngaged && account.cleanForCanary }

/-! ## The quote -/

/-- The report of `_quote`. -/
structure QuoteReport where
  marketable : Bool
  reason : String
  tokenId : String
  limitPrice : Decimal
  requestedShares : Decimal
  bestAsk : Option Decimal
  marketableDepth : Decimal
  geoblock : Geoblock
  fillGuardVersion : String := CanaryExecutor.fillGuardVersion
  networkSubmissionAttemptConsumed : Bool := false
  realOrderSubmitted : Bool := false

/-- The best ask and the depth within the limit, one level further. -/
def addLevel (limit : Decimal) (seen : Option Decimal × Decimal) (level : Json × Json) :
    Outcome (Option Decimal × Decimal) := do
  let price ← decimalOf level.1 "fresh_ask_price"
  let size ← decimalOf level.2 "fresh_ask_size"
  require (⟨0, 0⟩ < price ∧ price ≤ ⟨1, 0⟩ ∧ ¬ size ≤ ⟨0, 0⟩) .runtimeError
    "fresh_order_book_invalid_level"
  let bestAsk := match seen.1 with
    | none => price
    | some best => if price < best then price else best
  .ok (some bestAsk, if price ≤ limit then seen.2 + size else seen.2)

/-- The quote of an order, from the levels of the book. -/
def quoteOf (order : CanaryOrder) (geo : Geoblock) (levels : List (Json × Json)) :
    Outcome QuoteReport := do
  let (bestAsk, depth) ← levels.foldlM (addLevel order.price) (none, ⟨0, 0⟩)
  let report : QuoteReport := {
    marketable := false
    reason := "fresh_order_book_has_no_asks"
    tokenId := order.tokenId
    limitPrice := Decimal.formatF order.price
    requestedShares := Decimal.formatF order.size
    bestAsk := none
    marketableDepth := ⟨0, 0⟩
    geoblock := geo }
  match bestAsk with
  | none => .ok report
  | some best => .ok { report with
      marketable := best ≤ order.price ∧ order.size ≤ depth
      reason :=
        if order.price < best then "fresh_best_ask_above_frozen_limit"
        else if depth < order.size then "fresh_marketable_depth_below_requested_shares"
        else "fresh_limit_fully_marketable"
      bestAsk := some (Decimal.formatF best)
      marketableDepth := Decimal.formatF depth }

/-- `_quote`. -/
def quote (payload : Dict) : CanaryM QuoteReport := do
  let geo ← openGeoblock
  let request ← Program.ofExcept (requestOf payload)
  let order ← Program.ofExcept (checkedOrder request)
  client
  let book ← Program.call (CanaryOp.orderBook order.tokenId)
  let levels ← Program.ofExcept (mapException (book : Outcome (List (Json × Json))) .runtimeError
    "fresh_order_book_failed")
  Program.ofExcept (quoteOf order geo levels)

/-! ## The submission -/

/-- What the answer to a submission says of its cancellation. -/
structure Cancellation where
  cancelled : Bool
  status : String
  message : String

/-- What is known of a submission before the arm is consumed. -/
structure SubmitMetadata where
  intentId : String
  predictionId : String
  paperOrderId : String
  authorizationId : String
  requestSha256 : String
  executorSha256 : String
  accountPreflight : Account

/-- The report of `_submit`. -/
structure SubmitReport where
  accepted : Bool
  externalOrderId : Option String
  status : String
  code : String
  message : String
  geoblock : Geoblock
  ttlSeconds : Option ℤ := none
  cancellation : Option Cancellation := none
  metadata : SubmitMetadata

/-- The ids of the payload are those of the activation. -/
def matchActivation (payload activation : Dict) : Outcome Unit := do
  require ((payload.get "authorization_id").textOrEmpty =
    (activation.get "authorization_id").textOrEmpty) .runtimeError "authorization_id_mismatch"
  ["intent_id", "prediction_id", "paper_order_id"].forM fun name =>
    require ((payload.get name).textOrEmpty = (activation.get name).textOrEmpty) .runtimeError
      (name ++ "_mismatch")

/-- The end of the market in the payload. -/
def marketEndOf (payload : Dict) : Outcome Timestamp := do
  let value ← item payload "market_end_at"
  let time ← dateTimeOf value.text
  inUtc .valueError "market_end_at must be timezone-aware" time

/-- The request has the hash that is activated. -/
def matchRequest (C : Crypto) (request activation : Dict) : Outcome Unit :=
  require (C.payloadSha256 request = (activation.get "request_sha256").textOrEmpty) .runtimeError
    "request_sha256_mismatch"

/-- The account can pay the order. -/
def checkAccount (account : Account) (target : Decimal) : Outcome Unit := do
  require (account.openOrderCount = 0) .runtimeError "official_open_orders_present"
  require (¬ account.collateralBalanceUsd < target) .runtimeError "insufficient_official_collateral"

/-- What is checked of a submission before an account is looked at. -/
structure Checked where
  request : Dict
  order : CanaryOrder

/-- The checks of `_submit` up to the hash of the request. -/
def checkSubmission (C : Crypto) (payload activation : Dict) : CanaryM Checked := do
  Program.ofExcept (matchActivation payload activation)
  let request ← Program.ofExcept (requestOf payload)
  let marketEnd ← Program.ofExcept (marketEndOf payload)
  let now ← now
  Program.ofExcept (require (¬ Timestamp.seconds (marketEnd - now) < ⟨10, 0⟩) .runtimeError
    "too_close_to_market_end")
  let order ← Program.ofExcept (checkedOrder request)
  Program.ofExcept (matchRequest C request activation)
  pure ⟨request, order⟩

/-- The metadata of a submission. -/
def submitMetadata (C : Crypto) (payload request : Dict) (account : Account) :
    CanaryM SubmitMetadata := do
  let intentId ← Program.ofExcept (item payload "intent_id")
  let predictionId ← Program.ofExcept (item payload "prediction_id")
  let paperOrderId ← Program.ofExcept (item payload "paper_order_id")
  let authorizationId ← Program.ofExcept (item payload "authorization_id")
  let digest ← executorSha256
  pure {
    intentId := intentId.text
    predictionId := predictionId.text
    paperOrderId := paperOrderId.text
    authorizationId := authorizationId.text
    requestSha256 := C.payloadSha256 request
    executorSha256 := digest
    accountPreflight := account }

/-- The order that is created for a checked request. -/
def CanaryOrder.limitOrder (order : CanaryOrder) : LimitOrder :=
  { tokenId := order.tokenId, price := order.price, size := order.size }

/-- The `try` block of `_submit`: the order is created and posted. -/
def createAndPost (order : LimitOrder) : CanaryM OrderResponse := do
  let created ← Program.call (CanaryOp.createLimitOrder order)
  Program.ofExcept (created : Outcome Unit)
  let response ← Program.call (CanaryOp.postOrder order)
  Program.ofExcept (response : Outcome OrderResponse)

/-- The cancellation that an answer stands for. -/
def cancellationOf (orderId : String) : Outcome CancelResponse → Cancellation
  | .ok (.orders canceled notCanceled) =>
    if orderId ∈ canceled then ⟨true, "cancelled", ""⟩
    else
      match notCanceled.lookup orderId with
      | some message => ⟨false, "not_cancelled", message⟩
      | none => ⟨false, "unknown", "order absent from cancellation response"⟩
  | .ok .other => ⟨false, "unknown", "unexpected cancellation response"⟩
  | .error _ => ⟨false, "error", "Polymarket SDK cancellation failed"⟩

/-- An accepted order is cancelled after its time to live. -/
def cancelAfterTtl (orderId : String) : CanaryM Cancellation := do
  Program.call (CanaryOp.sleep ttlSeconds)
  let result ← Program.call (CanaryOp.cancelOrder orderId)
  match (result : Outcome CancelResponse) with
  | .error raised =>
    if isException raised then pure (cancellationOf orderId (.error raised)) else Program.fail raised
  | .ok response => pure (cancellationOf orderId (.ok response))

/-- `_submit` from the arm on. -/
def postOnce (order : CanaryOrder) (geo : Geoblock) (metadata : SubmitMetadata) :
    CanaryM SubmitReport := do
  consumeOneShotArm
  match ← (createAndPost order.limitOrder).attempt with
  | .error raised =>
    if isException raised then
      pure {
        accepted := false, externalOrderId := none, status := "error", code := "sdk_exception",
        message := "Polymarket SDK order submission failed", geoblock := geo, metadata }
    else Program.fail raised
  | .ok (.rejected code message) =>
    pure {
      accepted := false, externalOrderId := none, status := "rejected", code, message,
      geoblock := geo, metadata }
  | .ok .other =>
    pure {
      accepted := false, externalOrderId := none, status := "error",
      code := "unexpected_sdk_response",
      message := "Polymarket SDK returned an unexpected order response", geoblock := geo, metadata }
  | .ok (.accepted orderId status) =>
    let cancellation ← cancelAfterTtl orderId
    pure {
      accepted := true, externalOrderId := some orderId, status, code := "accepted", message := "",
      geoblock := geo, ttlSeconds := some ttlSeconds, cancellation := some cancellation, metadata }

/-- `_submit`. -/
def submit (C : Crypto) (payload : Dict) : CanaryM SubmitReport := do
  let geo ← openGeoblock
  let activation ← activation
  let checked ← checkSubmission C payload activation
  client
  let account ← accountPreflight
  Program.ofExcept (checkAccount account checked.order.target)
  let metadata ← submitMetadata C payload checked.request account
  postOnce checked.order geo metadata

/-! ## The process -/

/-- What an executor prints: a report, or that it failed closed. -/
inductive ExecutorOutput where
  | health (report : HealthReport)
  | quote (report : QuoteReport)
  | submit (report : SubmitReport)
  | failedClosed (code : String)

/-- The `action` of a payload. -/
def actionOf (payload : Dict) : String := (payload.get "action").textOrEmpty

/-- The `try` block of `main`, on what standard input holds. -/
def answer (C : Crypto) (stdin : Outcome Json) : CanaryM ExecutorOutput := do
  let payload ← Program.ofExcept stdin
  let payload ← Program.ofExcept (requireMapping payload .valueError "input must be a JSON object")
  if actionOf payload = "health" then
    let report ← health
    pure (.health report)
  else if actionOf payload = "quote" then
    let report ← quote payload
    pure (.quote report)
  else if actionOf payload = "submit" then
    let report ← submit C payload
    pure (.submit report)
  else Program.ofExcept (raise .valueError "unsupported action")

/-- `main`. -/
def main (C : Crypto) (stdin : Outcome Json) : CanaryM ExecutorOutput := do
  match ← (answer C stdin).attempt with
  | .ok output => pure output
  | .error raised =>
    if isException raised then pure (.failedClosed "executor_preflight_failed")
    else Program.fail raised

/-! ## The world -/

/-- The kill switch file, what reading the activation gives, the orders that were posted, and how often
the kill switch was removed. -/
structure CanaryWorld where
  killSwitch : Bool
  activation : Outcome Json
  posts : List LimitOrder := []
  removals : ℕ := 0

/-- What others do: the consumer or an operator replaces the activation, removes the kill switch or
makes it. -/
inductive CanaryChange where
  | replaceActivation (content : Outcome Json)
  | removeKillSwitch
  | makeKillSwitch

/-- The answer to an effect: the two files are looked at and the kill switch is made exclusively,
failures and the rest of the environment are as proposed. -/
def CanaryWorld.serve (world : CanaryWorld) :
    (op : CanaryOp) → op.Ans → op.Ans × CanaryWorld
  | .readActivation, _ => (world.activation, world)
  | .killSwitchExists, proposal =>
    ((proposal : Outcome Bool).map fun _ => world.killSwitch, world)
  | .openKillSwitch, .failed raised => (.failed raised, world)
  | .openKillSwitch, _ =>
    if world.killSwitch then (.exists, world) else (.created, { world with killSwitch := true })
  | .postOrder order, answer => (answer, { world with posts := world.posts ++ [order] })
  | .fetchGeoblock, answer => (answer, world)
  | .executorSha256, answer => (answer, world)
  | .now, answer => (answer, world)
  | .localTime _, answer => (answer, world)
  | .writeKillSwitch, answer => (answer, world)
  | .environ, answer => (answer, world)
  | .createClient _ _, answer => (answer, world)
  | .balanceAllowance, answer => (answer, world)
  | .openOrders, answer => (answer, world)
  | .orderBook _, answer => (answer, world)
  | .createLimitOrder _, answer => (answer, world)
  | .sleep _, answer => (answer, world)
  | .cancelOrder _, answer => (answer, world)

/-- A change from outside; only a removal of a file that is there counts. -/
def CanaryWorld.change (world : CanaryWorld) : CanaryChange → CanaryWorld
  | .replaceActivation content => { world with activation := content }
  | .removeKillSwitch =>
    if world.killSwitch then { world with killSwitch := false, removals := world.removals + 1 }
    else world
  | .makeKillSwitch => { world with killSwitch := true }

/-- Executors side by side; a process that dies takes no further step. -/
def canaryHost (C : Crypto) :
    Host CanaryWorld (Outcome Json) CanaryChange CanaryOp CanaryOp.Ans Raised ExecutorOutput where
  serve world op proposal := some (world.serve op proposal)
  start := main C
  stop world := world
  outside := CanaryWorld.change

/-- Executors, and what they share. -/
abbrev CanaryPool :=
  Pool CanaryWorld (Outcome Json) CanaryOp CanaryOp.Ans Raised ExecutorOutput

/-- What happens: an executor starts on a standard input, takes a step, all of them end, or others
change the files. -/
abbrev CanaryEvent := PoolEvent (Outcome Json) CanaryChange CanaryOp CanaryOp.Ans

/-- The executors after some events, from any kill switch and activation. -/
def canaryAfter (C : Crypto) (killSwitch : Bool) (activation : Outcome Json)
    (events : List CanaryEvent) : CanaryPool :=
  Machine.run (Pool.exec (canaryHost C)) ⟨{ killSwitch, activation }, [], []⟩ events

end BpEngine.CanaryExecutor
