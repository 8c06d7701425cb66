import BpEngine.Execution.Documents
import BpEngine.Execution.PrivilegedConsumer
import BpEngine.Library.Pool

/-!
# The fill-guarded privileged consumer

`execute_authorized_package_once` of `execution/telegram_privileged_consumer_fill_guard_candidate.py`: the
privileged consumer with a quote between the first health check and the activation.

* The steps it has in common with the privileged consumer are that consumer's own, embedded (`common`)
  among the operations `GuardOp`.
* `validateFillGuardQuote` and `FillGuardReceipt` are the quote's checks and the record of a rejection;
  `executeGuardedPackageOnce` is the program.
* `guardHost` runs calls of any packages side by side over one state root.
-/

namespace BpEngine.FillGuard

open PrivilegedConsumer

/-! ## Documents -/

/-- `prepared.json`, with its request if that is a mapping. -/
structure GuardedPrepared where
  prepared : Prepared
  request : Option Dict

/-- The record of a quote that is not marketable. -/
structure FillGuardReceipt where
  schemaVersion : ℕ := 1
  status : String := "fill_guard_rejected"
  packageIdentity : String
  intentId : String
  predictionId : String
  paperOrderId : String
  requestSha256 : String
  executorSha256 : String
  fillGuardVersion : String
  fillGuardReason : String
  bestAsk : Json
  frozenLimitPrice : Json
  marketableDepth : Json
  requestedShares : Json
  authorizationSlotConsumed : Bool := false
  networkSubmissionAttemptConsumed : Bool := false
  retryAllowed : Bool := false
  executorInvoked : Bool := false
  officialReconciliationRequired : Bool := false
  realOrderSubmitted : Bool := false

/-- The record of a result, with the quote before it. -/
structure GuardedReceipt extends Receipt where
  fillGuardVersion : String
  fillGuardBestAsk : Json
  fillGuardMarketableDepth : Json

/-- The records the privileged consumer does not have. -/
inductive GuardRecord where
  | rejected (receipt : FillGuardReceipt)
  | receipt (receipt : GuardedReceipt)

/-- What a call returns: a report of the privileged consumer, a rejected quote, or a result. -/
inductive GuardReport where
  | common (report : ConsumerReport)
  | rejected (receipt : FillGuardReceipt)
  | recorded (receipt : GuardedReceipt)

/-! ## Effects -/

/-- The effects of a call: those of the privileged consumer, the reading of the guarded payload, the
quote, and the writing of the new records. -/
inductive GuardOp where
  | common (op : ConsumerOp)
  | loadGuarded
  | quote (request : Dict)
  | writeGuarded (name : String) (record : GuardRecord)

/-- The answers. -/
def GuardOp.Ans : GuardOp → Type
  | .common op => op.Ans
  | .loadGuarded => Outcome GuardedPrepared
  | .quote _ => Completed Dict
  | .writeGuarded _ _ => Written

/-- A program of the guarded consumer. -/
abbrev GuardM (α : Type) := Program GuardOp GuardOp.Ans Raised α

/-- A program inside the `try` block. -/
abbrev GuardTryM (α : Type) := Program GuardOp GuardOp.Ans (Progress × Raised) α

/-- A step of the privileged consumer. -/
def common {ε α : Type} (step : Program ConsumerOp ConsumerOp.Ans ε α) :
    Program GuardOp GuardOp.Ans ε α :=
  step.embed GuardOp.common fun _ answer => answer

/-- A step of the `try` block taken with this progress. -/
def guarded {α : Type} (progress : Progress) (step : GuardM α) : GuardTryM α :=
  step.mapError (progress, ·)

/-- `_load_json` of the prepared payload. -/
def loadGuarded : GuardM GuardedPrepared := do
  let answer ← Program.call GuardOp.loadGuarded
  Program.ofExcept (answer : Outcome GuardedPrepared)

/-- `_write_exclusive_json` of a new record. -/
def writeGuarded (name : String) (record : GuardRecord) : GuardM Unit := do
  let answer ← Program.call (GuardOp.writeGuarded name record)
  Program.ofExcept (Written.outcome name answer)

/-! ## The quote -/

/-- `Decimal(str(value))` of an entry. -/
def numeralOf (name : String) (value : Json) : Outcome (String × Numeral) :=
  match decimalOfText value.text with
  | some number => .ok (value.text, number)
  | none => raise .privilegedConsumerError ("fill guard quote " ++ name ++ " invalid")

/-- The text is that of a signalling NaN. -/
def isSignaling (text : String) : Bool :=
  let cs := (stripChars text.toList).filter (· ≠ '_')
  let unsigned := if cs.head? = some '-' ∨ cs.head? = some '+' then cs.tail else cs
  (unsigned.map Char.toLower).take 4 = "snan".toList

/-- `observed != expected`: nothing equals a NaN, and a signalling one cannot be compared. -/
def sameNumeral (observed expected : String × Numeral) : Outcome Bool :=
  if isSignaling observed.1 ∨ isSignaling expected.1 then
    raise .arithmeticError "[<class 'decimal.InvalidOperation'>]"
  else
    match observed.2, expected.2 with
    | .finite a, .finite b => .ok (Decimal.Same a b)
    | .infinity a, .infinity b => .ok (a = b)
    | _, _ => .ok false

/-- The comparison of a number of the quote with that of the request. -/
def matchNumber (result request : Dict) (name : String) : Outcome Unit := do
  let observed ← numeralOf name (result.get name)
  let expected ← numeralOf name (request.get name)
  let same ← sameNumeral observed expected
  check (same = true) ("fill guard quote " ++ name ++ " mismatch")

/-- The entry is a `bool`. -/
def isBoolean : Json → Bool
  | .bool _ => true
  | _ => false

/-- `_validate_fill_guard_quote`. -/
def validateFillGuardQuote (result request : Dict) : Outcome Unit := do
  check ((result.get "status").isStr "ok" = true) "fill guard quote status is not ok"
  check ((result.get "fill_guard_version").isStr "fresh_marketable_depth_v1" = true)
    "fill guard quote version mismatch"
  check (isBoolean (result.get "marketable") = true) "fill guard quote marketable flag invalid"
  check ((result.get "token_id").textOrEmpty = (request.get "token_id").textOrEmpty)
    "fill guard quote token mismatch"
  matchNumber result request "limit_price"
  matchNumber result request "requested_shares"
  check ((result.get "network_submission_attempt_consumed").isBool false = true)
    "fill guard quote consumed network attempt"
  check ((result.get "real_order_submitted").isBool false = true)
    "fill guard quote submitted real order"

/-- `_run_executor` with `{"action": "quote"}`, and the checks of the quote. -/
def requireQuote (request : Dict) : GuardM Dict := do
  let completed ← Program.call (GuardOp.quote request)
  let quote ← Program.ofExcept (runExecutor completed)
  Program.ofExcept (validateFillGuardQuote quote request)
  pure quote

/-- The quote says that the limit is marketable. -/
def isMarketable (quote : Dict) : Bool := (quote.get "marketable").isBool true

/-! ## The call -/

/-- The name of the record of a rejected quote. -/
def fillGuardName (call : ConsumerCall) : String := call.packageIdentity ++ ".fill_guard.json"

/-- The record of a quote that is not marketable. -/
def fillGuardReceipt (call : ConsumerCall) (contract : Contract) (quote : Dict) : FillGuardReceipt where
  packageIdentity := call.packageIdentity
  intentId := contract.intentId
  predictionId := contract.predictionId
  paperOrderId := contract.paperOrderId
  requestSha256 := contract.requestSha256
  executorSha256 := call.expectedExecutorSha256
  fillGuardVersion := (quote.get "fill_guard_version").text
  fillGuardReason := (quote.get "reason").textOrEmpty
  bestAsk := quote.get "best_ask"
  frozenLimitPrice := quote.get "limit_price"
  marketableDepth := quote.get "marketable_depth"
  requestedShares := quote.get "requested_shares"

/-- What the checks before the quote have found. -/
structure Verified where
  contract : Contract
  prepared : Prepared
  request : Dict

/-- The progress of a call that has verified its contract. -/
def Verified.progress (verified : Verified) : Progress := { contract := some verified.contract }

/-- The call up to the quote: the contract, the payload, the kill switch and the health. -/
def verifyPackage (call : ConsumerCall) : GuardTryM Verified := do
  let contract ← guarded {} (common (verifyContract call.observedAt))
  let progress : Progress := { contract := some contract }
  let payload ← guarded progress loadGuarded
  guarded progress (Program.ofExcept
    (check (payload.prepared.action = some "submit") "prepared payload action is not submit"))
  match payload.request with
  | none => guarded progress (Program.ofExcept
      (raise .privilegedConsumerError "prepared request missing"))
  | some request =>
    let engaged ← guarded progress (common (killSwitchExists call.killSwitchPath))
    guarded progress (Program.ofExcept
      (check (engaged = true) "kill switch must be engaged before handoff"))
    guarded progress (common (requireHealth call false "preflight executor SHA-256 mismatch"))
    pure ⟨contract, payload.prepared, request⟩

/-- The call from a marketable quote up to the activation manifest. -/
def authorizePackage (call : ConsumerCall) (verified : Verified) : GuardTryM Handoff := do
  let contract := verified.contract
  let authorizationId ← guarded verified.progress (common newAuthorizationId)
  let authorized : Progress := { verified.progress with authorizationId }
  let now ← guarded authorized (common now)
  let expires ← guarded authorized
    (Program.ofExcept (authorizationExpiry now contract verified.prepared))
  let gitSha ← guarded authorized (common releaseCommitSha)
  let activation : Activation := {
    gitSha
    executorSha256 := call.expectedExecutorSha256
    authorizationId
    issuedAt := now
    expiresAt := expires
    intentId := contract.intentId
    predictionId := contract.predictionId
    paperOrderId := contract.paperOrderId
    requestSha256 := contract.requestSha256
    sourceTruthSha256 := contract.sourceTruthSha256
    packageManifestSha256 := contract.packageManifestSha256
    dispatchClaimSha256 := contract.dispatchClaimSha256 }
  pure ⟨contract, verified.prepared, activation⟩

/-- The receipt of a result. -/
def guardedReceiptOf (call : ConsumerCall) (handoff : Handoff) (quote : Dict)
    (result : ExecutorResult) (completedAt : Timestamp) : GuardedReceipt :=
  { receiptOf call handoff result completedAt with
    fillGuardVersion := (quote.get "fill_guard_version").text
    fillGuardBestAsk := quote.get "best_ask"
    fillGuardMarketableDepth := quote.get "marketable_depth" }

/-- The submission and the record of its result. -/
def submitGuarded (call : ConsumerCall) (handoff : Handoff) (quote : Dict) :
    GuardTryM GuardedReceipt :=
  guarded handoff.started do
    let result ← common (runSubmit call handoff.payload)
    Program.ofExcept (validateResult result handoff.prepared handoff.contract.requestSha256
      handoff.authorizationId call.expectedExecutorSha256)
    let receipt := guardedReceiptOf call handoff quote result (← common now)
    writeGuarded call.resultName (.receipt receipt)
    pure receipt

/-- The `try` block, with the progress it ends with. -/
def consumeGuarded (call : ConsumerCall) : GuardTryM (Progress × GuardReport) := do
  let verified ← verifyPackage call
  let quote ← guarded verified.progress (requireQuote verified.request)
  if isMarketable quote then
    let handoff ← authorizePackage call verified
    common (disengage call handoff)
    let startedAt ← common (recheck call handoff)
    common (startAttempt call handoff startedAt)
    let receipt ← submitGuarded call handoff quote
    pure (handoff.started, .recorded receipt)
  else
    let receipt := fillGuardReceipt call verified.contract quote
    guarded verified.progress (writeGuarded (fillGuardName call) (.rejected receipt))
    pure (verified.progress, .rejected receipt)

/-- The exceptions the `except` block names, with their subclasses. -/
def isHandled (raised : Raised) : Bool :=
  isCaught raised || raised.cls = .jsonDecodeError || raised.cls = .unicodeError

/-- The end of the `try` block: its report, or that of the handlers. -/
def finishGuarded (call : ConsumerCall) :
    Except (Progress × Raised) (Progress × GuardReport) → GuardM GuardReport
  | .ok (progress, report) => do
    common (safeStop call progress)
    pure report
  | .error (progress, raised) => do
    let handled ← (if isHandled raised then common (failClosed call progress raised)
      else Program.fail raised).settle
    common (safeStop call progress)
    Program.ofExcept (handled.map GuardReport.common)

/-- The records of the package: a result, a failure, an attempt or a rejected quote. -/
def guardedExists (call : ConsumerCall) : GuardM Bool := do
  if ← common (packageExists call) then pure true
  else common (fileExists (fillGuardName call))

/-- The answer to a package that has records. -/
def terminalReport (call : ConsumerCall) : GuardM GuardReport := do
  let rejected ← common (fileExists (fillGuardName call))
  let invoked ← common (fileExists call.attemptName)
  pure (.common (alreadyTerminal call
    (if rejected then "package_fill_guard_rejected" else "package_already_terminal") false invoked))

/-- `execute_authorized_package_once`, with a fill guard. -/
def executeGuardedPackageOnce (call : ConsumerCall) : GuardM GuardReport := do
  common ensureStateRoot
  if ← common (fileExists secondCanaryAttemptBasename) then
    pure (.common (alreadyTerminal call "second_canary_authorization_consumed" true false))
  else if ← guardedExists call then terminalReport call
  else
    let ended ← (consumeGuarded call).settle
    finishGuarded call ended

/-! ## The world -/

/-- What outlives a call, and what was written whole of the new records; their files are among those
of the state root. -/
structure GuardWorld where
  consumer : ConsumerWorld
  records : List (String × Option GuardRecord) := []

/-- The world with one more file. -/
def GuardWorld.addFile (world : GuardWorld) (name : String) (content : Option GuardRecord) :
    GuardWorld where
  consumer := { world.consumer with files := world.consumer.files ++ [(name, none)] }
  records := world.records ++ [(name, content)]

/-- An exclusive write of a new record. -/
def GuardWorld.write (world : GuardWorld) (name : String) (record : GuardRecord) :
    Written → Written × GuardWorld
  | .failed created raised =>
    if created = true ∧ world.consumer.hasFile name = false then
      (.failed true raised, world.addFile name none)
    else (.failed false raised, world)
  | _ =>
    if world.consumer.hasFile name then (.alreadyExists, world)
    else (.written, world.addFile name (some record))

/-- The answer to an effect. -/
def GuardWorld.serve (world : GuardWorld) : (op : GuardOp) → op.Ans → op.Ans × GuardWorld
  | .common op, proposal =>
    ((world.consumer.serve op proposal).1,
      { world with consumer := (world.consumer.serve op proposal).2 })
  | .loadGuarded, answer => (answer, world)
  | .quote _, answer => (answer, world)
  | .writeGuarded name record, proposal => world.write name record proposal

/-- Calls side by side; a process that dies takes no further step, and an operator (or an executor)
may set the kill switches. -/
def guardHost : Host GuardWorld ConsumerCall (List String) GuardOp GuardOp.Ans Raised GuardReport where
  serve world op proposal := some (world.serve op proposal)
  start := executeGuardedPackageOnce
  stop world := world
  outside world engaged := { world with consumer := { world.consumer with engaged } }

/-- The calls over one state root. -/
abbrev GuardPool := Pool GuardWorld ConsumerCall GuardOp GuardOp.Ans Raised GuardReport

/-- What happens: a call starts, takes a step, all processes end, or the kill switches are set. -/
abbrev GuardEvent := PoolEvent ConsumerCall (List String) GuardOp GuardOp.Ans

/-- The calls after some events, from any files, kill switches and activation, before the executor was
given anything. -/
def guardAfter (files : List (String × Option Record)) (engaged : List String)
    (activation : Option Activation) (events : List GuardEvent) : GuardPool :=
  Machine.run (Pool.exec guardHost) ⟨⟨⟨files, engaged, activation, []⟩, []⟩, [], []⟩ events

end BpEngine.FillGuard
