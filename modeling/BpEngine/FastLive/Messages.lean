import BpEngine.Execution.TelegramApproval

/-!
# Signed fast-live messages

The five pairs of `create_` and `verify_` functions of `execution/fast_live.py`.

* `validatePrepared` checks a prepared payload; `Validated` is what it returns.
* `sign` adds the code to a body, and `verifySigned` is what all five verifiers start with.
* Envelopes and prepare messages differ in a few constants (`PreparedKind`); approval, warmup and
  result messages have bodies of their own.
-/

namespace BpEngine.FastLive

/-! ## Checks -/

/-- `if not condition: raise FastLiveError(message)`. -/
def check (condition : Prop) [Decidable condition] (message : String) : Outcome Unit :=
  require condition .fastLiveError message

/-- `_utc`. -/
def utc (value : DateTime) : Outcome Timestamp :=
  inUtc .fastLiveError "timestamp must be timezone-aware" value

/-- `_utc(datetime.fromisoformat(str(d.get(name) or "")))`. -/
def timeOf (d : Dict) (name : String) : Outcome Timestamp := do
  utc (← dateTimeOf (d.get name).textOrEmpty)

/-- `_decimal`. -/
def decimalOf (value : Json) (name : String) : Outcome Decimal :=
  match decimalOfText value.text with
  | none => raise .fastLiveError (name ++ " must be numeric")
  | some (.finite number) => .ok number
  | some _ => raise .fastLiveError (name ++ " must be finite")

/-- `_mac`. -/
def mac (C : Crypto) (body : Dict) (key : List UInt8) : Outcome String := do
  check (key.length = 32) "fast live transport key must be 32 bytes"
  .ok (C.code key body)

/-! ## Prepared payloads -/

/-- What `validate_prepared` returns. -/
structure Validated where
  intentId : String
  requestId : String
  riskDecisionId : String
  predictionId : String
  paperOrderId : String
  marketEndAt : String
  preparedAt : String
  requestSha256 : String
  preparedSha256 : String
  request : Dict

/-- The checks of the policy; `limits` are checked one after another. -/
def checkPolicy (policy : Dict) (expectedMaxConsecutiveLosses : ℤ) : Outcome Unit := do
  check ((policy.get "policy_version").isStr "v3-live-canary-v1") "prepared policy version changed"
  let limit (name : String) : Outcome Unit := do
    check (Decimal.Same (← decimalOf (policy.get name) name) ⟨10, 0⟩)
      ("prepared policy changed: " ++ name)
  limit "max_trade_size_usd"
  limit "max_total_exposure_usd"
  limit "max_daily_loss_usd"
  check ((← (policy.getOr "max_consecutive_losses" (.int (-1))).toInt) =
    expectedMaxConsecutiveLosses) "prepared consecutive-loss limit changed"
  check ((← (policy.getOr "max_submission_attempts" (.int 0)).toInt) = 1)
    "prepared attempt limit changed"

/-- The checks of the request. -/
def checkRequest (request : Dict) : Outcome Unit := do
  check ((request.get "execution_version").isStr "paper-execution-v3-frozen-v1")
    "prepared execution version changed"
  check ((request.get "action").textOrEmpty = "BUY") "prepared action must be BUY"
  check (lower (request.get "selected_side").textOrEmpty ∈ ["up", "down"])
    "prepared selected side invalid"
  let target ← decimalOf (request.get "target_notional_usd") "target_notional_usd"
  let price ← decimalOf (request.get "limit_price") "limit_price"
  let shares ← decimalOf (request.get "requested_shares") "requested_shares"
  check (Decimal.Same target ⟨5, 0⟩) "prepared target changed"
  check (0 < price ∧ price ≤ ⟨1, 0⟩) "prepared limit price invalid"
  check (¬ (shares ≤ 0 ∨ ⟨10, 0⟩ < price * shares)) "prepared size exceeds live limit"

/-- The names a prepared payload must have an id under. -/
def preparedIds : List String :=
  ["intent_id", "prediction_id", "paper_order_id", "request_id", "risk_decision_id"]

/-- `validate_prepared`. -/
def validatePrepared (C : Crypto) (prepared : Dict) (observedAt : DateTime)
    (expectedMaxConsecutiveLosses : ℤ) : Outcome Validated := do
  let observed ← utc observedAt
  check ((prepared.get "status").isStr "prepared") "candidate is not prepared"
  let request ← requireMapping (prepared.get "request") .fastLiveError "prepared request missing"
  let policy ← requireMapping (prepared.get "policy") .fastLiveError "prepared policy missing"
  let timing ← requireMapping (prepared.get "timing") .fastLiveError "prepared timing missing"
  checkPolicy policy expectedMaxConsecutiveLosses
  checkRequest request
  preparedIds.forM fun name =>
    check ((prepared.get name).textOrEmpty ≠ "") ("prepared " ++ name ++ " missing")
  let marketEnd ← timeOf prepared "market_end_at"
  check (¬ Timestamp.seconds (marketEnd - observed) < ⟨10, 0⟩) "candidate too close to market end"
  let preparedAt ← timeOf timing "prepared_observed_at"
  check (¬ observed < preparedAt) "prepared timestamp is in the future"
  .ok {
    intentId := (prepared.get "intent_id").text
    requestId := (prepared.get "request_id").text
    riskDecisionId := (prepared.get "risk_decision_id").text
    predictionId := (prepared.get "prediction_id").text
    paperOrderId := (prepared.get "paper_order_id").text
    marketEndAt := IsoTime.isoformat marketEnd
    preparedAt := IsoTime.isoformat preparedAt
    requestSha256 := C.payloadSha256 request
    preparedSha256 := C.payloadSha256 prepared
    request }

def continuousV1Modes : List String :=
  ["manual-telegram-continuous-v1", "auto-telegram-continuous-v1"]

def continuousV2Modes : List String :=
  ["manual-telegram-continuous-v2", "auto-telegram-continuous-v2"]

/-- `_runtime_prepared_max_consecutive_losses`. -/
def runtimePreparedMaxConsecutiveLosses (runtime : Dict) : Outcome ℤ := do
  let mode := (runtime.get "authorization_mode").textOrEmpty
  let raw := runtime.get "max_consecutive_losses"
  let continuous : Bool := mode ∈ continuousV2Modes ∨ mode ∈ continuousV1Modes
  let expected : ℤ := if mode ∈ continuousV2Modes then 0 else 1
  match raw with
  | .null =>
    if continuous then raise .fastLiveError "runtime consecutive-loss contract missing"
    else .ok expected
  | raw =>
    match raw.toInt with
    | .error _ => raise .fastLiveError "runtime consecutive-loss contract invalid"
    | .ok observed => do
      check (observed = expected) "runtime consecutive-loss contract mismatch"
      .ok observed

/-- `_validate_prepared_for_runtime`. -/
def validatePreparedForRuntime (C : Crypto) (prepared runtime : Dict) (observedAt : DateTime) :
    Outcome Validated := do
  validatePrepared C prepared observedAt (← runtimePreparedMaxConsecutiveLosses runtime)

/-! ## Signing -/

/-- The body with its code. -/
def sign (C : Crypto) (body : Dict) (key : List UInt8) : Outcome Dict := do
  .ok (body ++ [("hmac_sha256", .str (← mac C body key))])

/-- The constants of a kind of message. -/
structure MessageKind where
  purpose : String
  /-- What the errors of the verifier start with. -/
  label : String
  /-- The error of a wrong purpose. -/
  purposeInvalid : String

def envelopeKind : MessageKind :=
  ⟨"phase15-v3-fast-live-v1", "fast live envelope", "fast live envelope schema invalid"⟩

def prepareKind : MessageKind :=
  ⟨"phase15-v3-fast-live-prepare-v1", "fast live prepare", "fast live prepare schema invalid"⟩

def approvalKind : MessageKind :=
  ⟨"phase15-v3-fast-live-approval-v1", "fast live approval", "fast live approval schema invalid"⟩

def warmupKind : MessageKind :=
  ⟨"phase15-v3-fast-live-warmup-v1", "fast live warmup", "fast live warmup purpose invalid"⟩

def resultKind : MessageKind :=
  ⟨"phase15-v3-fast-live-result-v1", "fast live result", "fast live result schema invalid"⟩

/-- What a verified message is known to have: the time it is observed at, and its window. -/
structure Window where
  observed : Timestamp
  created : Timestamp
  expires : Timestamp
deriving DecidableEq

/-- What every verifier starts with: the code, the schema and the purpose, the two ids, and the
window. -/
def verifySigned (C : Crypto) (kind : MessageKind) (message : Dict) (key : List UInt8)
    (expectedKeyId expectedAuthorizationId : String) (observedAt : DateTime) : Outcome Window := do
  let observed ← utc observedAt
  let supplied := (message.get "hmac_sha256").textOrEmpty
  check (isHex64 supplied = true) (kind.label ++ " hmac invalid")
  check (supplied = (← mac C (message.without "hmac_sha256") key)) (kind.label ++ " hmac mismatch")
  check ((message.get "schema_version").isInt 1) (kind.label ++ " schema invalid")
  check ((message.get "purpose").isStr kind.purpose) kind.purposeInvalid
  check ((message.get "key_id").textOrEmpty = expectedKeyId) (kind.label ++ " key id mismatch")
  check ((message.get "authorization_id").textOrEmpty = expectedAuthorizationId)
    (kind.label ++ " authorization mismatch")
  let created ← timeOf message "created_at"
  let expires ← timeOf message "expires_at"
  check (¬ (observed < created ∨ expires ≤ observed)) (kind.label ++ " expired or future")
  .ok ⟨observed, created, expires⟩

/-- The authorization id of a runtime authorization. -/
def authorizationIdOf (runtime : Dict) : String := (runtime.get "authorization_id").textOrEmpty

/-! ## Envelopes and prepare messages -/

/-- The constants in which envelopes and prepare messages differ. -/
structure PreparedKind extends MessageKind where
  /-- The longest lifetime, in seconds. -/
  maxAge : ℤ
  windowClosed : String
  tooOld : String
  payloadMissing : String

/-- `create_envelope` and `verify_envelope`. -/
def envelope : PreparedKind where
  toMessageKind := envelopeKind
  maxAge := 2
  windowClosed := "fast live envelope has no valid execution window"
  tooOld := "fast live envelope exceeded transit budget"
  payloadMissing := "fast live prepared payload missing"

/-- `create_prepare_message` and `verify_prepare_message`. -/
def prepare : PreparedKind where
  toMessageKind := prepareKind
  maxAge := 45
  windowClosed := "fast live prepare window closed"
  tooOld := "fast live prepare exceeded age limit"
  payloadMissing := "fast live prepare payload missing"

/-- The expiry of a message about a market: its lifetime, the market's end with its margin, and what
else limits it. -/
def expiryOf (created marketEnd limit : Timestamp) (maxAge : ℤ) : Outcome Timestamp := do
  .ok (min (min (← addSeconds created maxAge) (← addSeconds marketEnd (-10))) limit)

/-- The body of an envelope or a prepare message. -/
def preparedBody (kind : PreparedKind) (keyId authorizationId : String) (validated : Validated)
    (prepared : Dict) (created expires : Timestamp) : Dict :=
  [("schema_version", .int 1),
    ("purpose", .str kind.purpose),
    ("key_id", .str keyId),
    ("authorization_id", .str authorizationId),
    ("intent_id", .str validated.intentId),
    ("request_id", .str validated.requestId),
    ("risk_decision_id", .str validated.riskDecisionId),
    ("prediction_id", .str validated.predictionId),
    ("paper_order_id", .str validated.paperOrderId),
    ("request_sha256", .str validated.requestSha256),
    ("prepared_sha256", .str validated.preparedSha256),
    ("prepared", .obj prepared),
    ("created_at", .str (IsoTime.isoformat created)),
    ("expires_at", .str (IsoTime.isoformat expires))]

/-- `create_envelope`, and with its constants `create_prepare_message`. -/
def createPreparedMessage (C : Crypto) (kind : PreparedKind) (prepared runtime : Dict)
    (key : List UInt8) (keyId : String) (createdAt : DateTime) : Outcome Dict := do
  let created ← utc createdAt
  let validated ← validatePreparedForRuntime C prepared runtime (utcDateTime created)
  check (keyId ≠ "" ∧ keyId.length ≤ 64) "fast live key id invalid"
  let authExpires ← timeOf runtime "expires_at"
  let marketEnd ← utc (← dateTimeOf validated.marketEndAt)
  let expires ← expiryOf created marketEnd authExpires kind.maxAge
  check (¬ expires ≤ created) kind.windowClosed
  sign C (preparedBody kind keyId (authorizationIdOf runtime) validated prepared created expires) key

/-- `str(d[name])`. -/
def item (d : Dict) (name : String) : Outcome String :=
  match d.lookup name with
  | some value => .ok value.text
  | none => raise .keyError name

/-- What the verifiers of envelopes and prepare messages return. -/
structure PreparedBinding extends Validated where
  authorizationId : String
  createdAt : String
  expiresAt : String

/-- The fields of a message about a prepared payload, and their values in it. -/
def Validated.bound (validated : Validated) : List (String × String) :=
  [("intent_id", validated.intentId),
    ("request_id", validated.requestId),
    ("risk_decision_id", validated.riskDecisionId),
    ("prediction_id", validated.predictionId),
    ("paper_order_id", validated.paperOrderId),
    ("request_sha256", validated.requestSha256),
    ("prepared_sha256", validated.preparedSha256)]

/-- Every listed field of the message has its value, or the error of the field is raised. -/
def checkBindings (message : Dict) (bindings : List (String × String)) (error : String) :
    Outcome Unit :=
  bindings.forM fun binding =>
    check ((message.get binding.1).textOrEmpty = binding.2) (error ++ binding.1)

/-- `verify_envelope`, and with its constants `verify_prepare_message`. -/
def verifyPreparedMessage (C : Crypto) (kind : PreparedKind) (message runtime : Dict)
    (key : List UInt8) (expectedKeyId : String) (observedAt : DateTime) :
    Outcome PreparedBinding := do
  let window ← verifySigned C kind.toMessageKind message key expectedKeyId
    (authorizationIdOf runtime) observedAt
  check (¬ ⟨kind.maxAge, 0⟩ < Timestamp.seconds (window.observed - window.created)) kind.tooOld
  let prepared ← requireMapping (message.get "prepared") .fastLiveError kind.payloadMissing
  let validated ← validatePreparedForRuntime C prepared runtime (utcDateTime window.observed)
  checkBindings message validated.bound (kind.label ++ " binding mismatch: ")
  .ok {
    validated with
    authorizationId := ← item message "authorization_id"
    createdAt := IsoTime.isoformat window.created
    expiresAt := IsoTime.isoformat window.expires }

def createEnvelope (C : Crypto) := createPreparedMessage C envelope

def verifyEnvelope (C : Crypto) := verifyPreparedMessage C envelope

def createPrepareMessage (C : Crypto) := createPreparedMessage C prepare

def verifyPrepareMessage (C : Crypto) := verifyPreparedMessage C prepare

/-! ## Approval messages -/

/-- `except ApprovalError`: the error is replaced. -/
def approvedHandoff (C : Crypto) (prepared approval : Dict) (observedAt : DateTime) :
    Outcome TelegramApproval.Approved :=
  match TelegramApproval.validateApprovedHandoff C prepared approval observedAt with
  | .ok approved => .ok approved
  | .error raised =>
    if raised.cls = .approvalError then raise .fastLiveError "fast live Telegram approval invalid"
    else .error raised

/-- The approved candidate is the prepared one. -/
def checkSameCandidate (approved validated : Validated) : Outcome Unit := do
  check (approved.predictionId = validated.predictionId)
    "fast live approved candidate mismatch: prediction_id"
  check (approved.paperOrderId = validated.paperOrderId)
    "fast live approved candidate mismatch: paper_order_id"
  check (approved.requestSha256 = validated.requestSha256)
    "fast live approved candidate mismatch: request_sha256"

/-- The approval as it is bound into the message. -/
def approvalBinding (approved : TelegramApproval.Approved) (validated : Validated) : Dict :=
  [("status", .str "approved"),
    ("intent_id", .str approved.intentId),
    ("prediction_id", .str validated.predictionId),
    ("paper_order_id", .str validated.paperOrderId),
    ("request_sha256", .str validated.requestSha256),
    ("approved_at", .str approved.approvedAt),
    ("expires_at", .str approved.expiresAt),
    ("callback_query_id", .str approved.callbackQueryId)]

/-- The body of an approval message. -/
def approvalBody (C : Crypto) (keyId authorizationId : String) (validated : Validated)
    (prepareSha256 : String) (prepared : Dict) (approved : TelegramApproval.Approved)
    (created expires : Timestamp) : Dict :=
  [("schema_version", .int 1),
    ("purpose", .str approvalKind.purpose),
    ("key_id", .str keyId),
    ("authorization_id", .str authorizationId),
    ("intent_id", .str validated.intentId),
    ("request_sha256", .str validated.requestSha256),
    ("prepared_sha256", .str validated.preparedSha256),
    ("prepare_sha256", .str prepareSha256),
    ("approval_candidate_id", .str approved.intentId),
    ("prepared", .obj prepared),
    ("approval_sha256", .str (C.payloadSha256 (approvalBinding approved validated))),
    ("approval", .obj (approvalBinding approved validated)),
    ("created_at", .str (IsoTime.isoformat created)),
    ("expires_at", .str (IsoTime.isoformat expires))]

/-- `create_approval_message`. -/
def createApprovalMessage (C : Crypto) (prepared approval runtime : Dict) (key : List UInt8)
    (keyId : String) (createdAt : DateTime) (approvalPrepared : Option Dict) : Outcome Dict := do
  let created ← utc createdAt
  let approvalSource := approvalPrepared.getD prepared
  let approved ← approvedHandoff C approvalSource approval (utcDateTime created)
  let validated ← validatePreparedForRuntime C prepared runtime (utcDateTime created)
  let approvalValidated ← validatePreparedForRuntime C approvalSource runtime (utcDateTime created)
  checkSameCandidate approvalValidated validated
  let authExpires ← timeOf runtime "expires_at"
  let approvalExpires ← utc (← dateTimeOf approved.expiresAt)
  let marketEnd ← utc (← dateTimeOf validated.marketEndAt)
  let expires ← expiryOf created marketEnd (min approvalExpires authExpires) 2
  check (¬ expires ≤ created) "fast live approval window closed"
  sign C (approvalBody C keyId (authorizationIdOf runtime) validated approvalValidated.preparedSha256
    prepared approved created expires) key

/-- What `verify_approval_message` returns. -/
structure ApprovalMessageBinding where
  authorizationId : String
  intentId : String
  requestSha256 : String
  preparedSha256 : String
  prepareSha256 : String
  approvalCandidateId : String
  approvalSha256 : String
  prepared : Dict
  request : Dict
  predictionId : String
  paperOrderId : String
  approvedAt : String
  approvalExpiresAt : String
  createdAt : String
  expiresAt : String

/-- The checks of the prepared payload of an approval message. -/
def checkApprovalPrepared (message : Dict) (validated : Validated) : Outcome Unit := do
  check ((message.get "prepared_sha256").textOrEmpty = validated.preparedSha256)
    "fast live approval prepared hash mismatch"
  check ((message.get "intent_id").textOrEmpty = validated.intentId)
    "fast live approval prepared intent mismatch"
  check ((message.get "request_sha256").textOrEmpty = validated.requestSha256)
    "fast live approval prepared request mismatch"
  check (isHex64 (message.get "prepare_sha256").textOrEmpty = true)
    "fast live prepare binding hash invalid"

/-- The checks of the approval in an approval message; its window. -/
def checkApproval (C : Crypto) (message : Dict) (validated : Validated) (observed : Timestamp) :
    Outcome (Timestamp × Timestamp) := do
  let approval ← requireMapping (message.get "approval") .fastLiveError
    "fast live approval payload invalid"
  check ((approval.get "status").isStr "approved") "fast live approval payload invalid"
  check ((message.get "approval_sha256").textOrEmpty = C.payloadSha256 approval)
    "fast live approval binding hash mismatch"
  let candidate := (message.get "approval_candidate_id").textOrEmpty
  check (candidate ≠ "" ∧ candidate = (approval.get "intent_id").textOrEmpty)
    "fast live approval candidate mismatch"
  checkBindings approval
    [("prediction_id", validated.predictionId), ("paper_order_id", validated.paperOrderId),
      ("request_sha256", validated.requestSha256)] "fast live approval binding mismatch: "
  let approvedAt ← timeOf approval "approved_at"
  let approvalExpires ← timeOf approval "expires_at"
  check (¬ (observed < approvedAt ∨ approvalExpires ≤ observed))
    "fast live human approval expired or future"
  .ok (approvedAt, approvalExpires)

/-- `verify_approval_message`. -/
def verifyApprovalMessage (C : Crypto) (message runtime : Dict) (key : List UInt8)
    (expectedKeyId : String) (observedAt : DateTime) : Outcome ApprovalMessageBinding := do
  let window ← verifySigned C approvalKind message key expectedKeyId (authorizationIdOf runtime)
    observedAt
  let prepared ← requireMapping (message.get "prepared") .fastLiveError
    "fast live approval prepared payload missing"
  let validated ← validatePreparedForRuntime C prepared runtime (utcDateTime window.observed)
  checkApprovalPrepared message validated
  let (approvedAt, approvalExpires) ← checkApproval C message validated window.observed
  .ok {
    authorizationId := ← item message "authorization_id"
    intentId := ← item message "intent_id"
    requestSha256 := ← item message "request_sha256"
    preparedSha256 := ← item message "prepared_sha256"
    prepareSha256 := (message.get "prepare_sha256").textOrEmpty
    approvalCandidateId := (message.get "approval_candidate_id").textOrEmpty
    approvalSha256 := (message.get "approval_sha256").textOrEmpty
    prepared
    request := validated.request
    predictionId := validated.predictionId
    paperOrderId := validated.paperOrderId
    approvedAt := IsoTime.isoformat approvedAt
    approvalExpiresAt := IsoTime.isoformat approvalExpires
    createdAt := IsoTime.isoformat window.created
    expiresAt := IsoTime.isoformat window.expires }

/-! ## Warmup messages -/

/-- The body of a warmup message. -/
def warmupBody (keyId authorizationId condition : String) (tokens : String × String)
    (created expires : Timestamp) : Dict :=
  [("schema_version", .int 1),
    ("purpose", .str warmupKind.purpose),
    ("key_id", .str keyId),
    ("authorization_id", .str authorizationId),
    ("condition_id", .str condition),
    ("token_ids", .arr [.str tokens.1, .str tokens.2]),
    ("created_at", .str (IsoTime.isoformat created)),
    ("expires_at", .str (IsoTime.isoformat expires))]

/-- `create_warmup_message`. -/
def createWarmupMessage (C : Crypto) (conditionId : String) (tokenIds : String × String)
    (runtime : Dict) (key : List UInt8) (keyId : String) (createdAt : DateTime) :
    Outcome Dict := do
  let created ← utc createdAt
  let condition := strip conditionId
  let tokens := (strip tokenIds.1, strip tokenIds.2)
  check (condition ≠ "" ∧ tokens.1 ≠ "" ∧ tokens.2 ≠ "" ∧ tokens.1 ≠ tokens.2)
    "fast live warmup market identity invalid"
  let authExpires ← timeOf runtime "expires_at"
  let expires := min (← addSeconds created 30) authExpires
  check (¬ expires ≤ created) "fast live warmup window closed"
  sign C (warmupBody keyId (authorizationIdOf runtime) condition tokens created expires) key

/-- What `verify_warmup_message` returns. -/
structure WarmupBinding where
  conditionId : String
  tokenIds : String × String
  createdAt : String
  expiresAt : String

/-- `isinstance(value, list) and len(value) == 2`, with the two items. -/
def twoItems : Json → Option (Json × Json)
  | .arr [first, second] => some (first, second)
  | _ => none

/-- `verify_warmup_message`. -/
def verifyWarmupMessage (C : Crypto) (message runtime : Dict) (key : List UInt8)
    (expectedKeyId : String) (observedAt : DateTime) : Outcome WarmupBinding := do
  let window ← verifySigned C warmupKind message key expectedKeyId (authorizationIdOf runtime)
    observedAt
  let condition := strip (message.get "condition_id").textOrEmpty
  match twoItems (message.get "token_ids") with
  | none => raise .fastLiveError "fast live warmup identity invalid"
  | some (first, second) => do
    check (condition ≠ "") "fast live warmup identity invalid"
    let tokens := (strip first.text, strip second.text)
    check (tokens.1 ≠ "" ∧ tokens.2 ≠ "" ∧ tokens.1 ≠ tokens.2)
      "fast live warmup token ids invalid"
    .ok {
      conditionId := condition
      tokenIds := tokens
      createdAt := IsoTime.isoformat window.created
      expiresAt := IsoTime.isoformat window.expires }

/-! ## Result messages -/

/-- `d.get(name) is True`. -/
def isTrue (d : Dict) (name : String) : Bool := (d.get name).isBool true

/-- The body of a result message. -/
def resultBody (keyId authorizationId : String) (result : Dict) (created expires : Timestamp) :
    Dict :=
  [("schema_version", .int 1),
    ("purpose", .str resultKind.purpose),
    ("key_id", .str keyId),
    ("authorization_id", .str authorizationId),
    ("intent_id", .str (result.get "intent_id").textOrEmpty),
    ("request_sha256", .str (result.get "request_sha256").textOrEmpty),
    ("status", .str (result.get "status").textOrEmpty),
    ("network_submission_attempt_consumed",
      .bool (isTrue result "network_submission_attempt_consumed")),
    ("real_order_submitted", .bool (isTrue result "real_order_submitted")),
    ("external_order_id", .str (result.get "external_order_id").textOrEmpty),
    ("result", .obj result),
    ("created_at", .str (IsoTime.isoformat created)),
    ("expires_at", .str (IsoTime.isoformat expires))]

/-- `create_result_message`. -/
def createResultMessage (C : Crypto) (result : Dict) (key : List UInt8)
    (keyId authorizationId : String) (createdAt : DateTime) : Outcome Dict := do
  let created ← utc createdAt
  check ((result.get "intent_id").textOrEmpty ≠ "" ∧
    isHex64 (result.get "request_sha256").textOrEmpty = true ∧
    (result.get "status").textOrEmpty ≠ "") "fast live result binding invalid"
  let expires ← addSeconds created 300
  sign C (resultBody keyId authorizationId result created expires) key

/-- `verify_result_message`. -/
def verifyResultMessage (C : Crypto) (message : Dict) (key : List UInt8)
    (expectedKeyId expectedAuthorizationId : String) (observedAt : DateTime) : Outcome Dict := do
  let _ ← verifySigned C resultKind message key expectedKeyId expectedAuthorizationId observedAt
  let result ← requireMapping (message.get "result") .fastLiveError
    "fast live result payload missing"
  checkBindings message
    (["intent_id", "request_sha256", "status"].map fun name =>
      (name, (result.get name).textOrEmpty)) "fast live result binding mismatch: "
  check (isTrue message "network_submission_attempt_consumed" =
    isTrue result "network_submission_attempt_consumed") "fast live result attempt flag mismatch"
  check (isTrue message "real_order_submitted" = isTrue result "real_order_submitted")
    "fast live result order flag mismatch"
  .ok result

end BpEngine.FastLive
