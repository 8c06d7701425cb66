import BpEngine.Core
import BpEngine.Library.Run

/-!
# The privileged consumer

`execute_authorized_package_once` of `execution/telegram_privileged_consumer.py`.

* `Contract`, `Prepared`, `ExecutorHealth` and `ExecutorResult` are the documents a run reads;
  `Activation`, `AuthorizationSlot`, `Receipt` and `Failure` are those it writes.
* `ConsumerOp` lists the effects and `executeAuthorizedPackageOnce` is the program over them.  Inside
  the `try` block every failure carries the `Progress` that the `except` and `finally` blocks read.
* `ConsumerWorld` is what outlives a run: the files of the state root, the kill switches, the
  activation, and the payloads the executor was given.
-/

namespace BpEngine.PrivilegedConsumer

/-! ## Documents -/

/-- The verified handoff contract; `expiry` is what `fromisoformat` makes of `expiresAt`. -/
structure Contract where
  intentId : String
  predictionId : String
  paperOrderId : String
  requestSha256 : String
  sourceTruthSha256 : String
  dispatchClaimSha256 : String
  packageManifestSha256 : String
  expiresAt : String
  expiry : Outcome Timestamp
  executorSha256 : String
deriving DecidableEq

/-- `prepared.json`; `marketEnd` is what `fromisoformat` makes of `market_end_at`. -/
structure Prepared where
  action : Option String
  requestPresent : Bool
  intentId : Option String
  predictionId : Option String
  paperOrderId : Option String
  marketEnd : Outcome Timestamp
deriving DecidableEq

/-- What `Decimal` makes of a text. -/
inductive DecimalText where
  | invalid
  | nan
  | infinity (negative : Bool)
  | finite (value : Decimal)
deriving DecidableEq

/-- The account of a health report; `openOrderCount` is what `int` makes of the entry, or of -1. -/
structure ExecutorAccount where
  cleanForCanary : Option Bool
  openOrderCount : Outcome ℤ
  collateralBalanceUsd : DecimalText
deriving DecidableEq

/-- The health report; the geography and the account are missing unless they are mappings. -/
structure ExecutorHealth where
  status : Option String
  geoblocked : Option (Option Bool)
  account : Option ExecutorAccount
  activationValid : Option Bool
  killSwitchEngaged : Option Bool
  submissionReady : Option Bool
  executorSha256 : Option String
deriving DecidableEq

/-- The report of a submission. -/
structure ExecutorResult where
  intentId : Option String
  predictionId : Option String
  paperOrderId : Option String
  authorizationId : Option String
  requestSha256 : Option String
  executorSha256 : Option String
  accepted : Option Bool
  status : Option String
  code : Option String
  geoblockPresent : Bool
  accountPreflightPresent : Bool
  externalOrderId : Option String
  cancellation : Option String
deriving DecidableEq

/-- The payload of a submission: the prepared one under an authorization id. -/
structure SubmitPayload where
  prepared : Prepared
  authorizationId : String
deriving DecidableEq

/-- The activation manifest. -/
structure Activation where
  authorized : Bool := true
  gitSha : String
  executorSha256 : String
  authorizationId : String
  issuedAt : Timestamp
  expiresAt : Timestamp
  intentId : String
  predictionId : String
  paperOrderId : String
  requestSha256 : String
  sourcePredictionVersion : String := "v3-frozen-paper-v1"
  sourceExecutionVersion : String := "paper-execution-v3-frozen-v1"
  maxTradeSizeUsd : String := "10"
  maxTotalExposureUsd : String := "10"
  maxDailyLossUsd : String := "10"
  maxSubmissionAttempts : ℕ := 1
  sourceTruthSha256 : String
  packageManifestSha256 : String
  dispatchClaimSha256 : String
deriving DecidableEq

/-- The authorization slot, and with another status the attempt. -/
structure AuthorizationSlot where
  schemaVersion : ℕ := 1
  status : String
  packageIdentity : String
  intentId : String
  requestSha256 : String
  authorizationId : String
  executorSha256 : String
  startedAt : Timestamp
  retryAllowed : Bool := false
deriving DecidableEq

/-- The record of a result. -/
structure Receipt where
  schemaVersion : ℕ := 1
  status : String := "executor_result_recorded"
  packageIdentity : String
  intentId : String
  predictionId : String
  paperOrderId : String
  requestSha256 : String
  authorizationId : String
  executorSha256 : String
  packageManifestSha256 : String
  dispatchClaimSha256 : String
  accepted : Bool
  executorStatus : String
  executorCode : String
  externalOrderId : Option String
  cancellation : Option String
  completedAt : Timestamp
  networkSubmissionAttemptConsumed : Bool := true
  authorizationSlotConsumed : Bool := true
  retryAllowed : Bool := false
  executorInvoked : Bool := true
  officialReconciliationRequired : Bool := true
  realOrderSubmitted : Bool
deriving DecidableEq

/-- The record of a run that failed closed. -/
structure Failure where
  schemaVersion : ℕ := 1
  status : String := "privileged_handoff_failed_closed"
  packageIdentity : String
  intentId : String
  requestSha256 : String
  authorizationId : String
  error : String
  attemptStarted : Bool
  authorizationSlotConsumed : Bool
  networkSubmissionAttemptConsumed : Bool
  retryAllowed : Bool := false
  executorInvoked : Bool
  officialReconciliationRequired : Bool
  realOrderSubmitted : Bool := false
deriving DecidableEq

/-- The answer to a package the consumer is done with. -/
structure AlreadyTerminal where
  status : String := "already_terminal"
  terminalReason : String
  packageIdentity : String
  authorizationSlotConsumed : Bool
  retryAllowed : Bool := false
  executorInvoked : Bool
  realOrderSubmitted : Bool := false
deriving DecidableEq

/-- What a file of the state root holds. -/
inductive Record where
  | submit (payload : SubmitPayload)
  | slot (slot : AuthorizationSlot)
  | attempt (attempt : AuthorizationSlot)
  | receipt (receipt : Receipt)
  | failure (failure : Failure)
deriving DecidableEq

/-- What a run returns. -/
inductive ConsumerReport where
  | alreadyTerminal (report : AlreadyTerminal)
  | recorded (receipt : Receipt)
  | failedClosed (failure : Failure)
deriving DecidableEq

/-! ## Effects -/

/-- What the executor wrote. -/
inductive ExecutorOutput (α : Type) where
  | undecodable
  | notMapping
  | mapping (value : α)
deriving DecidableEq

/-- What the runner of the executor comes back with. -/
inductive Completed (α : Type) where
  | timedOut
  | raised (raised : Raised)
  | exited (returncode : ℤ) (stdout : ExecutorOutput α)
deriving DecidableEq

/-- What becomes of a file written exclusively; a failing write may have created it. -/
inductive Written where
  | written
  | alreadyExists
  | failed (created : Bool) (raised : Raised)
deriving DecidableEq

/-- What becomes of a file that is replaced: it fails with an `OSError` alone, which the sync of the
directory may raise when the file is replaced already. -/
inductive Replaced where
  | replaced
  | failed (done : Bool) (message : String)
deriving DecidableEq

/-- The effects of a run. -/
inductive ConsumerOp where
  | ensureStateRoot
  | fileExists (name : String)
  | verifyContract (observedAt : Timestamp)
  | loadPrepared
  | killSwitchExists (path : String)
  | health
  | newAuthorizationId
  | now
  | releaseCommitSha
  | writeExclusive (name : String) (record : Record)
  | replaceActivation (activation : Activation)
  | unlinkKillSwitch (path : String)
  | submit (identity : String) (payload : SubmitPayload)
  | engageKillSwitch (path reason : String)

/-- The answers. -/
def ConsumerOp.Ans : ConsumerOp → Type
  | .ensureStateRoot => Outcome Unit
  | .fileExists _ => Outcome Bool
  | .verifyContract _ => Outcome Contract
  | .loadPrepared => Outcome Prepared
  | .killSwitchExists _ => Outcome Bool
  | .health => Completed ExecutorHealth
  | .newAuthorizationId => String
  | .now => Timestamp
  | .releaseCommitSha => Outcome String
  | .writeExclusive _ _ => Written
  | .replaceActivation _ => Replaced
  | .unlinkKillSwitch _ => Outcome Unit
  | .submit _ _ => Completed ExecutorResult
  | .engageKillSwitch _ _ => Replaced

/-- A program of the consumer. -/
abbrev ConsumerM (α : Type) := Program ConsumerOp ConsumerOp.Ans Raised α

/-- What the handlers of a run read: how far the `try` block came. -/
structure Progress where
  contract : Option Contract := none
  authorizationId : String := ""
  armed : Bool := false
  authorizationSlotConsumed : Bool := false
  attemptStarted : Bool := false

/-- A program inside the `try` block. -/
abbrev TryM (α : Type) := Program ConsumerOp ConsumerOp.Ans (Progress × Raised) α

/-- A step of the `try` block taken with this progress. -/
def within {α : Type} (progress : Progress) (step : ConsumerM α) : TryM α :=
  step.mapError (progress, ·)

def ensureStateRoot : ConsumerM Unit := do
  Program.ofExcept (← Program.call ConsumerOp.ensureStateRoot)

def fileExists (name : String) : ConsumerM Bool := do
  Program.ofExcept (← Program.call (ConsumerOp.fileExists name))

def verifyContract (observedAt : Timestamp) : ConsumerM Contract := do
  Program.ofExcept (← Program.call (ConsumerOp.verifyContract observedAt))

def loadPrepared : ConsumerM Prepared := do
  Program.ofExcept (← Program.call ConsumerOp.loadPrepared)

def killSwitchExists (path : String) : ConsumerM Bool := do
  Program.ofExcept (← Program.call (ConsumerOp.killSwitchExists path))

def newAuthorizationId : ConsumerM String := Program.call ConsumerOp.newAuthorizationId

def now : ConsumerM Timestamp := Program.call ConsumerOp.now

def releaseCommitSha : ConsumerM String := do
  Program.ofExcept (← Program.call ConsumerOp.releaseCommitSha)

def unlinkKillSwitch (path : String) : ConsumerM Unit := do
  Program.ofExcept (← Program.call (ConsumerOp.unlinkKillSwitch path))

/-- The outcome of a replacement. -/
def Replaced.outcome : Replaced → Outcome Unit
  | .replaced => .ok ()
  | .failed _ message => raise .osError message

def replaceActivation (activation : Activation) : ConsumerM Unit := do
  Program.ofExcept (Replaced.outcome (← Program.call (ConsumerOp.replaceActivation activation)))

/-- `_engage_kill_switch`. -/
def engageKillSwitch (path reason : String) : ConsumerM Unit := do
  Program.ofExcept (Replaced.outcome (← Program.call (ConsumerOp.engageKillSwitch path reason)))

/-- The outcome of an exclusive write. -/
def Written.outcome (name : String) : Written → Outcome Unit
  | .written => .ok ()
  | .alreadyExists => raise .privilegedConsumerError (name ++ " already exists")
  | .failed _ raised => .error raised

/-- `_write_exclusive_json`. -/
def writeExclusiveJson (name : String) (record : Record) : ConsumerM Unit := do
  Program.ofExcept (Written.outcome name (← Program.call (ConsumerOp.writeExclusive name record)))

/-! ## Checks -/

/-- `if not condition: raise PrivilegedConsumerError(message)`. -/
def check (condition : Prop) [Decidable condition] (message : String) : Outcome Unit :=
  require condition .privilegedConsumerError message

/-- `_run_executor`, from what the runner came back with. -/
def runExecutor {α : Type} : Completed α → Outcome α
  | .timedOut => raise .privilegedConsumerError "executor invocation timed out"
  | .raised raised => .error raised
  | .exited returncode stdout => do
    check (returncode = 0) "executor returned nonzero status"
    match stdout with
    | .undecodable => raise .privilegedConsumerError "executor result is not valid JSON"
    | .notMapping => raise .privilegedConsumerError "executor result must be an object"
    | .mapping value => .ok value

/-- The canary minimum of the collateral. -/
def checkCollateral : DecimalText → Outcome Unit
  | .invalid => raise .privilegedConsumerError "executor collateral is invalid"
  | .nan => raise .arithmeticError "[<class 'decimal.InvalidOperation'>]"
  | .infinity negative =>
    check (negative = false) "executor collateral is below canary minimum"
  | .finite value => check (¬ value < ⟨5, 0⟩) "executor collateral is below canary minimum"

/-- `_require_safe_health`. -/
def requireSafeHealth (payload : ExecutorHealth) (armed : Bool) : Outcome Unit := do
  check (payload.status = some "ok") "executor health is not ok"
  check (payload.geoblocked = some (some false)) "executor geography is blocked or unknown"
  match payload.account with
  | none => raise .privilegedConsumerError "executor account is not clean for canary"
  | some account =>
    check (account.cleanForCanary = some true) "executor account is not clean for canary"
    check ((← account.openOrderCount) = 0) "executor account has open orders"
    checkCollateral account.collateralBalanceUsd
  if armed then
    check (payload.activationValid = some true) "executor activation is not valid"
    check (payload.killSwitchEngaged = some false) "executor kill switch did not disengage"
    check (payload.submissionReady = some true) "executor is not submission ready"
  else
    check (payload.killSwitchEngaged = some true) "executor is not safely idle"
    check (payload.activationValid = some false) "stale executor activation is still valid"
    check (payload.submissionReady = some false) "executor unexpectedly submission ready"

/-- `_validate_result`. -/
def validateResult (result : ExecutorResult) (prepared : Prepared)
    (requestSha256 authorizationId executorSha256 : String) : Outcome Unit := do
  check (orEmpty result.intentId = orEmpty prepared.intentId) "executor result intent_id mismatch"
  check (orEmpty result.predictionId = orEmpty prepared.predictionId)
    "executor result prediction_id mismatch"
  check (orEmpty result.paperOrderId = orEmpty prepared.paperOrderId)
    "executor result paper_order_id mismatch"
  check (orEmpty result.authorizationId = authorizationId)
    "executor result authorization mismatch"
  check (orEmpty result.requestSha256 = requestSha256) "executor result request hash mismatch"
  check (orEmpty result.executorSha256 = executorSha256)
    "executor result executable hash mismatch"
  check (result.accepted.isSome = true) "executor result missing accepted"
  check (result.status.isSome = true) "executor result missing status"
  check (result.code.isSome = true) "executor result missing code"
  check (result.geoblockPresent = true) "executor result missing geoblock"
  check (result.accountPreflightPresent = true) "executor result missing account_preflight"

/-- The comparison of the fresh contract with the first one. -/
def requireSameContract (fresh contract : Contract) : Outcome Unit := do
  let mismatch (name : String) := "fresh handoff contract " ++ name ++ " mismatch"
  check (fresh.intentId = contract.intentId) (mismatch "intent_id")
  check (fresh.predictionId = contract.predictionId) (mismatch "prediction_id")
  check (fresh.paperOrderId = contract.paperOrderId) (mismatch "paper_order_id")
  check (fresh.requestSha256 = contract.requestSha256) (mismatch "request_sha256")
  check (fresh.sourceTruthSha256 = contract.sourceTruthSha256) (mismatch "source_truth_sha256")
  check (fresh.dispatchClaimSha256 = contract.dispatchClaimSha256)
    (mismatch "dispatch_claim_sha256")
  check (fresh.packageManifestSha256 = contract.packageManifestSha256)
    (mismatch "package_manifest_sha256")
  check (fresh.expiresAt = contract.expiresAt) (mismatch "expires_at")
  check (fresh.executorSha256 = contract.executorSha256) (mismatch "executor_sha256")

/-! ## The run -/

/-- The arguments of a run that it computes with; the other paths only reach the operations. -/
structure ConsumerCall where
  packageIdentity : String
  killSwitchPath : String
  expectedExecutorSha256 : String
  observedAt : Timestamp
deriving DecidableEq

/-- `SECOND_CANARY_ATTEMPT_BASENAME`: the authorization slot of the state root. -/
def secondCanaryAttemptBasename : String := "second-canary.attempt.json"

def ConsumerCall.attemptName (call : ConsumerCall) : String :=
  call.packageIdentity ++ ".attempt.json"

def ConsumerCall.resultName (call : ConsumerCall) : String :=
  call.packageIdentity ++ ".result.json"

def ConsumerCall.failureName (call : ConsumerCall) : String :=
  call.packageIdentity ++ ".failure.json"

def ConsumerCall.payloadName (call : ConsumerCall) : String :=
  call.packageIdentity ++ ".submit.json"

/-- `_run_executor` with `{"action": "health"}`, the health checks, and the executable's hash. -/
def requireHealth (call : ConsumerCall) (armed : Bool) (mismatch : String) : ConsumerM Unit := do
  let payload ← Program.ofExcept (runExecutor (← Program.call ConsumerOp.health))
  Program.ofExcept (requireSafeHealth payload armed)
  Program.ofExcept
    (check (orEmpty payload.executorSha256 = call.expectedExecutorSha256) mismatch)

/-- `_run_executor` with the submission. -/
def runSubmit (call : ConsumerCall) (payload : SubmitPayload) : ConsumerM ExecutorResult := do
  Program.ofExcept (runExecutor (← Program.call (ConsumerOp.submit call.packageIdentity payload)))

/-- What a run has decided before it touches the state root. -/
structure Handoff where
  contract : Contract
  prepared : Prepared
  activation : Activation

def Handoff.authorizationId (handoff : Handoff) : String := handoff.activation.authorizationId

def Handoff.payload (handoff : Handoff) : SubmitPayload :=
  ⟨handoff.prepared, handoff.authorizationId⟩

/-- The progress of a run that has come to its activation. -/
def Handoff.progress (handoff : Handoff) : Progress :=
  { contract := some handoff.contract, authorizationId := handoff.authorizationId }

/-- `min` of the end of the activation, of the contract, and of the safety margin. -/
def activationExpiry (now contractExpiry marketEnd : Timestamp) : Timestamp :=
  min (min (now + Timestamp.ofSeconds 45) contractExpiry) (marketEnd - Timestamp.ofSeconds 10)

/-- The authorization window: it must not be over before it starts. -/
def authorizationExpiry (now : Timestamp) (contract : Contract) (prepared : Prepared) :
    Outcome Timestamp := do
  let expires := activationExpiry now (← contract.expiry) (← prepared.marketEnd)
  check (¬ expires ≤ now) "authorization expired before activation"
  .ok expires

/-- The run up to the activation manifest. -/
def prepareHandoff (call : ConsumerCall) : TryM Handoff := do
  let contract ← within {} (verifyContract call.observedAt)
  let verified : Progress := { contract := some contract }
  let prepared ← within verified loadPrepared
  within verified (Program.ofExcept
    (check (prepared.action = some "submit") "prepared payload action is not submit"))
  within verified (Program.ofExcept
    (check (prepared.requestPresent = true) "prepared request missing"))
  let engaged ← within verified (killSwitchExists call.killSwitchPath)
  within verified (Program.ofExcept
    (check (engaged = true) "kill switch must be engaged before handoff"))
  within verified (requireHealth call false "preflight executor SHA-256 mismatch")
  let authorizationId ← within verified newAuthorizationId
  let authorized : Progress := { verified with authorizationId }
  let now ← within authorized now
  let expires ← within authorized (Program.ofExcept (authorizationExpiry now contract prepared))
  let gitSha ← within authorized releaseCommitSha
  let activation : Activation := {
    gitSha
    executorSha256 := call.expectedExecutorSha256
    authorizationId
    issuedAt := now
    expiresAt := expires
    intentId := contract.intentId
    predictionId := contract.predictionId
    paperOrderId := contract.paperOrderId
    requestSha256 := contract.requestSha256
    sourceTruthSha256 := contract.sourceTruthSha256
    packageManifestSha256 := contract.packageManifestSha256
    dispatchClaimSha256 := contract.dispatchClaimSha256 }
  pure ⟨contract, prepared, activation⟩

/-- The payload and the activation are written, and the kill switch is disengaged. -/
def disengage (call : ConsumerCall) (handoff : Handoff) : TryM Unit := within handoff.progress do
  writeExclusiveJson call.payloadName (.submit handoff.payload)
  replaceActivation handoff.activation
  unlinkKillSwitch call.killSwitchPath

/-- The progress of a run that has disengaged the kill switch. -/
def Handoff.armed (handoff : Handoff) : Progress := { handoff.progress with armed := true }

/-- The health of the armed executor and a fresh contract; the time the attempt starts at. -/
def recheck (call : ConsumerCall) (handoff : Handoff) : TryM Timestamp := within handoff.armed do
  requireHealth call true "armed executor SHA-256 mismatch"
  let fresh ← verifyContract (← now)
  Program.ofExcept (requireSameContract fresh handoff.contract)
  now

/-- The record of the authorization slot. -/
def authorizationSlot (call : ConsumerCall) (handoff : Handoff) (startedAt : Timestamp) :
    AuthorizationSlot where
  status := "second_canary_network_attempt_starting"
  packageIdentity := call.packageIdentity
  intentId := handoff.contract.intentId
  requestSha256 := handoff.contract.requestSha256
  authorizationId := handoff.authorizationId
  executorSha256 := call.expectedExecutorSha256
  startedAt

/-- The progress of a run that has taken the authorization slot. -/
def Handoff.slotted (handoff : Handoff) : Progress :=
  { handoff.armed with authorizationSlotConsumed := true }

/-- The authorization slot and the attempt are written. -/
def startAttempt (call : ConsumerCall) (handoff : Handoff) (startedAt : Timestamp) :
    TryM Unit := do
  let slot := authorizationSlot call handoff startedAt
  within handoff.armed (writeExclusiveJson secondCanaryAttemptBasename (.slot slot))
  within handoff.slotted (writeExclusiveJson call.attemptName
    (.attempt { slot with status := "executor_invocation_starting" }))

/-- The progress of a run that has written its attempt. -/
def Handoff.started (handoff : Handoff) : Progress :=
  { handoff.slotted with attemptStarted := true }

/-- The receipt of a result. -/
def receiptOf (call : ConsumerCall) (handoff : Handoff) (result : ExecutorResult)
    (completedAt : Timestamp) : Receipt where
  packageIdentity := call.packageIdentity
  intentId := handoff.contract.intentId
  predictionId := handoff.contract.predictionId
  paperOrderId := handoff.contract.paperOrderId
  requestSha256 := handoff.contract.requestSha256
  authorizationId := handoff.authorizationId
  executorSha256 := call.expectedExecutorSha256
  packageManifestSha256 := handoff.contract.packageManifestSha256
  dispatchClaimSha256 := handoff.contract.dispatchClaimSha256
  accepted := result.accepted = some true
  executorStatus := orEmpty result.status
  executorCode := orEmpty result.code
  externalOrderId := result.externalOrderId
  cancellation := result.cancellation
  completedAt
  realOrderSubmitted := result.accepted = some true

/-- The submission and the record of its result. -/
def submitAndRecord (call : ConsumerCall) (handoff : Handoff) : TryM Receipt :=
  within handoff.started do
    let result ← runSubmit call handoff.payload
    Program.ofExcept (validateResult result handoff.prepared handoff.contract.requestSha256
      handoff.authorizationId call.expectedExecutorSha256)
    let receipt := receiptOf call handoff result (← now)
    writeExclusiveJson call.resultName (.receipt receipt)
    pure receipt

/-- The `try` block, with the progress it ends with. -/
def consume (call : ConsumerCall) : TryM (Progress × Receipt) := do
  let handoff ← prepareHandoff call
  disengage call handoff
  let startedAt ← recheck call handoff
  startAttempt call handoff startedAt
  let receipt ← submitAndRecord call handoff
  pure (handoff.started, receipt)

/-- An `OSError`. -/
def isOsError (raised : Raised) : Bool :=
  raised.cls = .osError ∨ raised.cls = .fileExistsError

/-- The exceptions the `except` block names. -/
def isCaught (raised : Raised) : Bool :=
  isOsError raised || raised.cls = .valueError || raised.cls = .keyError ||
    raised.cls = .privilegedHandoffContractError || raised.cls = .privilegedConsumerError

/-- The failure record. -/
def failureOf (call : ConsumerCall) (progress : Progress) (consumed : Bool) (raised : Raised) :
    Failure where
  packageIdentity := call.packageIdentity
  intentId := (progress.contract.map (·.intentId)).getD ""
  requestSha256 := (progress.contract.map (·.requestSha256)).getD ""
  authorizationId := progress.authorizationId
  error := raised.message
  attemptStarted := progress.attemptStarted
  authorizationSlotConsumed := consumed
  networkSubmissionAttemptConsumed := consumed
  executorInvoked := progress.attemptStarted
  officialReconciliationRequired := consumed

/-- The `except` block: a failure record, unless there is one. -/
def failClosed (call : ConsumerCall) (progress : Progress) (raised : Raised) :
    ConsumerM ConsumerReport := do
  let consumed ← if progress.authorizationSlotConsumed then pure true
    else fileExists secondCanaryAttemptBasename
  let failure := failureOf call progress consumed raised
  match ← (writeExclusiveJson call.failureName (.failure failure)).settle with
  | .ok () => pure ()
  | .error raised =>
    if raised.cls = .privilegedConsumerError then pure () else Program.fail raised
  pure (.failedClosed failure)

/-- The `finally` block: a disengaged kill switch is engaged again. -/
def safeStop (call : ConsumerCall) (progress : Progress) : ConsumerM Unit := do
  if progress.armed || progress.attemptStarted then
    match ← (engageKillSwitch call.killSwitchPath
        "telegram-privileged-handoff-safe-stop").settle with
    | .ok () => pure ()
    | .error raised => if isOsError raised then pure () else Program.fail raised
  else pure ()

/-- The end of the `try` block: its receipt, or the handlers' report. -/
def finish (call : ConsumerCall) :
    Except (Progress × Raised) (Progress × Receipt) → ConsumerM ConsumerReport
  | .ok (progress, receipt) => do
    safeStop call progress
    pure (.recorded receipt)
  | .error (progress, raised) => do
    let handled ← (if isCaught raised then failClosed call progress raised
      else Program.fail raised).settle
    safeStop call progress
    Program.ofExcept handled

/-- The report on a package that the consumer is done with. -/
def alreadyTerminal (call : ConsumerCall) (reason : String) (slotConsumed invoked : Bool) :
    ConsumerReport :=
  .alreadyTerminal {
    terminalReason := reason
    packageIdentity := call.packageIdentity
    authorizationSlotConsumed := slotConsumed
    executorInvoked := invoked }

/-- `result_path.exists() or failure_path.exists() or attempt_path.exists()`. -/
def packageExists (call : ConsumerCall) : ConsumerM Bool := do
  if ← fileExists call.resultName then pure true
  else if ← fileExists call.failureName then pure true
  else fileExists call.attemptName

/-- `execute_authorized_package_once`. -/
def executeAuthorizedPackageOnce (call : ConsumerCall) : ConsumerM ConsumerReport := do
  ensureStateRoot
  if ← fileExists secondCanaryAttemptBasename then
    pure (alreadyTerminal call "second_canary_authorization_consumed" true false)
  else if ← packageExists call then
    pure (alreadyTerminal call "package_already_terminal" false (← fileExists call.attemptName))
  else
    finish call (← (consume call).settle)

/-! ## The world -/

/-- What outlives a run: the files of the state root (with what was written whole), the kill switches
that are engaged, the activation, and the payloads the executor was given with their packages. -/
structure ConsumerWorld where
  files : List (String × Option Record)
  engaged : List String
  activation : Option Activation
  submissions : List (String × SubmitPayload)

/-- The file exists. -/
def ConsumerWorld.hasFile (world : ConsumerWorld) (name : String) : Bool :=
  world.files.any (·.1 = name)

/-- An exclusive write: the file is made unless it exists or the write fails before. -/
def ConsumerWorld.write (world : ConsumerWorld) (name : String) (record : Record) :
    Written → Written × ConsumerWorld
  | .written =>
    if world.hasFile name then (.alreadyExists, world)
    else (.written, { world with files := world.files ++ [(name, some record)] })
  | .alreadyExists =>
    if world.hasFile name then (.alreadyExists, world)
    else (.written, { world with files := world.files ++ [(name, some record)] })
  | .failed created raised =>
    if created = true ∧ world.hasFile name = false then
      (.failed true raised, { world with files := world.files ++ [(name, none)] })
    else (.failed false raised, world)

/-- The replacement took place. -/
def Replaced.done : Replaced → Bool
  | .replaced => true
  | .failed done _ => done

/-- A fallible look at the state: it fails as proposed. -/
def observe {α : Type} (proposal : Outcome α) (actual : α) : Outcome α :=
  proposal.map fun _ => actual

/-- Removing a kill switch; it is an error when it is not there. -/
def ConsumerWorld.unlink (world : ConsumerWorld) (path : String) :
    Outcome Unit → Outcome Unit × ConsumerWorld
  | .error raised => (.error raised, world)
  | .ok () =>
    if world.engaged.elem path then
      (.ok (), { world with engaged := world.engaged.filter (· ≠ path) })
    else (raise .osError path, world)

/-- The answer to an effect: the state root and the kill switches are computed, failures and the rest
of the environment are as proposed. -/
def ConsumerWorld.serve (world : ConsumerWorld) :
    (op : ConsumerOp) → op.Ans → op.Ans × ConsumerWorld
  | .ensureStateRoot, answer => (answer, world)
  | .fileExists name, proposal => (observe proposal (world.hasFile name), world)
  | .verifyContract _, answer => (answer, world)
  | .loadPrepared, answer => (answer, world)
  | .killSwitchExists path, proposal => (observe proposal (world.engaged.elem path), world)
  | .health, answer => (answer, world)
  | .newAuthorizationId, answer => (answer, world)
  | .now, answer => (answer, world)
  | .releaseCommitSha, answer => (answer, world)
  | .writeExclusive name record, proposal => world.write name record proposal
  | .replaceActivation activation, answer =>
    (answer, if answer.done then { world with activation := some activation } else world)
  | .unlinkKillSwitch path, proposal => world.unlink path proposal
  | .submit identity payload, answer =>
    (answer, { world with submissions := world.submissions ++ [(identity, payload)] })
  | .engageKillSwitch path _, answer =>
    (answer, if answer.done then { world with engaged := world.engaged ++ [path] } else world)

end BpEngine.PrivilegedConsumer
