import BpEngine.Execution.TelegramApproval

/-!
# Telegram transport envelopes

`create_transport_envelope`, `create_authorized_transport_envelope` and `verify_transport_envelope` of
`execution/telegram_transport.py`.

* `validateOriginAttestationBinding` and `validateSourceTruthAuthorizationBinding` check the two
  documents an envelope carries beside the approval; both return a copy with sorted keys.
* The verifier is cut where the source leaves blank lines: `schemaOf`, `checkMac`, `documentsOf`,
  `checkHashes`, `windowOf`, `checkOrigin` and `checkSource`.
-/

namespace BpEngine.TelegramTransport

/-- `if not condition: raise TransportError(message)`. -/
def check (condition : Prop) [Decidable condition] (message : String) : Outcome Unit :=
  require condition .transportError message

/-- `_utc`. -/
def utc (value : DateTime) : Outcome Timestamp :=
  inUtc .transportError "datetime must be timezone-aware" value

/-- `_utc(datetime.fromisoformat(str(d[name])))`; a missing entry and a `ValueError` are replaced, an
error of `_utc` is not. -/
def timeIn (d : Dict) (name error : String) : Outcome Timestamp :=
  match d.lookup name with
  | none => raise .transportError error
  | some value =>
    match IsoTime.fromisoformat value.text with
    | none => raise .transportError error
    | some time => utc time

/-- `str(d[name])`. -/
def item (d : Dict) (name : String) : Outcome String :=
  match d.lookup name with
  | some value => .ok value.text
  | none => raise .keyError name

/-- Every listed field has its value, or an error names the field. -/
def checkFields (d : Dict) (label : String) (expected : List (String × String)) : Outcome Unit :=
  expected.forM fun field =>
    check ((d.get field.1).textOrEmpty = field.2) (label ++ field.1 ++ " mismatch")

/-- Every listed field is a digest, or an error names the field. -/
def checkDigests (d : Dict) (label : String) (names : List String) : Outcome Unit :=
  names.forM fun name =>
    check (isHex64 (d.get name).textOrEmpty = true) (label ++ name ++ " invalid")

/-- `_mac`. -/
def mac (C : Crypto) (body : Dict) (key : List UInt8) : Outcome String := do
  check (key.length = 32) "transport key must be exactly 32 bytes"
  .ok (C.code key body)

/-! ## Key ids -/

def keyIdChars : List Char :=
  "abcdefghijklmnopqrstuvwxyzABCDEFGHIJKLMNOPQRSTUVWXYZ0123456789._-".toList

/-- The checks of a key id without blanks around it. -/
def isKeyId (text : String) : Bool :=
  text ≠ "" ∧ (bytes text).length ≤ 64 ∧ text.toList.all (· ∈ keyIdChars)

/-- `_key_id`. -/
def keyIdOf (value : String) : Outcome String := do
  check (isKeyId (strip value) = true) "transport key id invalid"
  .ok (strip value)

/-- The check of a nonce. -/
def isNonce (nonce : String) : Bool := nonce ≠ "" ∧ (bytes nonce).length ≤ 80

/-! ## The documents an envelope carries -/

/-- What the documents of one envelope agree on. -/
structure Bound where
  intentId : String
  predictionId : String
  paperOrderId : String
  requestSha256 : String
  preparedSha256 : String
  approvalSha256 : String
  approvalSourceSha256 : String

/-- The fields that hold it. -/
def Bound.fields (bound : Bound) : List (String × String) :=
  [("intent_id", bound.intentId),
    ("prediction_id", bound.predictionId),
    ("paper_order_id", bound.paperOrderId),
    ("request_sha256", bound.requestSha256),
    ("prepared_sha256", bound.preparedSha256),
    ("approval_sha256", bound.approvalSha256),
    ("approval_source_sha256", bound.approvalSourceSha256)]

/-- A document that was checked: its copy, and its window. -/
structure Attested where
  copied : Dict
  attestedAt : Timestamp
  expiresAt : Timestamp

/-- `ORIGIN_ATTESTATION_FIELDS`. -/
def originAttestationFields : List String :=
  ["schema_version", "purpose", "key_id", "intent_id", "prediction_id", "paper_order_id",
    "request_sha256", "prepared_sha256", "approval_sha256", "approval_source_sha256", "approved_at",
    "attested_at", "expires_at", "hmac_sha256"]

/-- `_validate_origin_attestation_binding`. -/
def validateOriginAttestationBinding (origin : Dict) (bound : Bound) : Outcome Attested := do
  check (origin.hasKeys originAttestationFields) "origin attestation fields mismatch"
  check ((origin.get "schema_version").isInt 1) "origin attestation schema mismatch"
  check ((origin.get "purpose").isStr "phase15-v3-telegram-origin-approval-v1")
    "origin attestation purpose mismatch"
  check (isKeyId (strip (origin.get "key_id").textOrEmpty) = true)
    "origin attestation key id invalid"
  checkFields origin "origin attestation " bound.fields
  check (isHex64 (origin.get "hmac_sha256").textOrEmpty = true) "origin attestation hmac invalid"
  let attestedAt ← timeIn origin "attested_at" "origin attestation timestamps invalid"
  let expiresAt ← timeIn origin "expires_at" "origin attestation timestamps invalid"
  check (¬ expiresAt ≤ attestedAt) "origin attestation expiry invalid"
  .ok ⟨Json.normalEntries origin, attestedAt, expiresAt⟩

/-- `SOURCE_TRUTH_AUTHORIZATION_FIELDS`. -/
def sourceTruthAuthorizationFields : List String :=
  ["schema_version", "purpose", "key_id", "project_state_sha256", "authorization_snapshot_sha256",
    "authorization_snapshot", "authorized", "blockers", "intent_id", "prediction_id",
    "paper_order_id", "request_sha256", "prepared_sha256", "approval_sha256",
    "approval_source_sha256", "origin_attestation_sha256", "origin_attested_at", "attested_at",
    "expires_at", "hmac_sha256"]

/-- `PROJECT_STATE_AUTHORIZATION_SNAPSHOT_FIELDS`. -/
def authorizationSnapshotFields : List String :=
  ["source_of_truth_version", "global_live_trading_enabled", "phase15_live_trading_enabled",
    "phase15_canary_authorized", "canary_order_submitted", "first_canary_reconciliation_complete",
    "pending_unsubmitted_intent_present", "v3_strategy_mutation_performed",
    "second_order_authorized", "automated_real_money_submission",
    "manual_real_money_submission_required", "telegram_one_tap_submission_authorized",
    "telegram_persistent_execution_transport_authorized", "telegram_pubsub_transport_authorized"]

/-- `value == []`. -/
def isEmptyList : Json → Bool
  | .arr items => items.isEmpty
  | _ => false

/-- What a source-truth authorization says about the origin attestation. -/
structure OriginLink where
  sha256 : String
  keyId : String
  attestedAt : Timestamp
  expiresAt : Timestamp

/-- The checks of the authorization's snapshot. -/
def checkSnapshot (C : Crypto) (authorization : Dict) : Outcome Unit := do
  let snapshot ← requireMapping (authorization.get "authorization_snapshot") .transportError
    "source truth authorization snapshot missing"
  check (snapshot.hasKeys authorizationSnapshotFields)
    "source truth authorization snapshot fields mismatch"
  check ((authorization.get "authorization_snapshot_sha256").textOrEmpty = C.payloadSha256 snapshot)
    "source truth authorization snapshot hash mismatch"

/-- `_validate_source_truth_authorization_binding`. -/
def validateSourceTruthAuthorizationBinding (C : Crypto) (authorization : Dict)
    (origin : OriginLink) (bound : Bound) : Outcome Attested := do
  check (authorization.hasKeys sourceTruthAuthorizationFields)
    "source truth authorization fields mismatch"
  check ((authorization.get "schema_version").isInt 1) "source truth authorization schema mismatch"
  check ((authorization.get "purpose").isStr "phase15-v3-telegram-source-truth-authorization-v1")
    "source truth authorization purpose mismatch"
  check ((authorization.get "key_id").textOrEmpty = origin.keyId)
    "source truth authorization key id mismatch"
  check ((authorization.get "authorized").isBool true) "source truth authorization is blocked"
  check (isEmptyList (authorization.get "blockers") = true)
    "source truth authorization contains blockers"
  checkSnapshot C authorization
  checkFields authorization "source truth authorization " (bound.fields ++
    [("origin_attestation_sha256", origin.sha256),
      ("origin_attested_at", IsoTime.isoformat origin.attestedAt)])
  checkDigests authorization "source truth authorization "
    ["project_state_sha256", "authorization_snapshot_sha256", "request_sha256", "prepared_sha256",
      "approval_sha256", "approval_source_sha256", "origin_attestation_sha256", "hmac_sha256"]
  let attestedAt ← timeIn authorization "attested_at" "source truth authorization timestamps invalid"
  let expiresAt ← timeIn authorization "expires_at" "source truth authorization timestamps invalid"
  check (¬ attestedAt < origin.attestedAt) "source truth authorization predates origin attestation"
  check (¬ expiresAt ≤ attestedAt) "source truth authorization expiry invalid"
  check (¬ origin.expiresAt < expiresAt) "source truth authorization outlives origin attestation"
  .ok ⟨Json.normalEntries authorization, attestedAt, expiresAt⟩

/-- `except ApprovalError`: the error becomes a `TransportError` with its text. -/
def approvedHandoff (C : Crypto) (prepared approval : Dict) (observedAt : DateTime) :
    Outcome TelegramApproval.Approved :=
  match TelegramApproval.validateApprovedHandoff C prepared approval observedAt with
  | .ok approved => .ok approved
  | .error raised =>
    if raised.cls = .approvalError then raise .transportError raised.message else .error raised

/-! ## Making envelopes -/

/-- `TRANSPORT_MAX_LIFETIME_SECONDS`. -/
def transportMaxLifetimeSeconds : ℤ := 15

/-- `TRANSPORT_PURPOSE`. -/
def transportPurpose : String := "phase15-v3-telegram-execution-v1"

/-- The part of the approval that is sent. -/
def approvalCopy (approval : Dict) : Outcome Dict := do
  .ok [("schema_version", .int (← (approval.getOr "schema_version" (.int 0)).toInt)),
    ("status", .str (approval.get "status").textOrEmpty),
    ("intent_id", .str (approval.get "intent_id").textOrEmpty),
    ("prediction_id", .str (approval.get "prediction_id").textOrEmpty),
    ("paper_order_id", .str (approval.get "paper_order_id").textOrEmpty),
    ("request_sha256", .str (approval.get "request_sha256").textOrEmpty),
    ("approved_at", .str (approval.get "approved_at").textOrEmpty),
    ("expires_at", .str (approval.get "expires_at").textOrEmpty)]

/-- The documents agree on the ids and the request of the approved handoff, and on three digests. -/
def boundOf (approved : TelegramApproval.Approved)
    (preparedSha256 approvalSha256 approvalSourceSha256 : String) : Bound where
  intentId := approved.intentId
  predictionId := approved.predictionId
  paperOrderId := approved.paperOrderId
  requestSha256 := approved.requestSha256
  preparedSha256
  approvalSha256
  approvalSourceSha256

/-- The expiry before the origin attestation is looked at. -/
def approvalWindow (approved : TelegramApproval.Approved) (created : Timestamp) :
    Outcome Timestamp := do
  let approvalExpires ← utc (← dateTimeOf approved.expiresAt)
  let marketEnd ← utc (← dateTimeOf approved.marketEndAt)
  let expires := min (min (← addSeconds created transportMaxLifetimeSeconds) approvalExpires)
    (← addSeconds marketEnd (-TelegramApproval.submitSafetyFloorSeconds))
  check (¬ expires ≤ created) "transport window already closed"
  .ok expires

/-- The body of an envelope of the first schema. -/
def transportBody (C : Crypto) (keyId nonce : String) (bound : Bound)
    (origin prepared approval : Dict) (created expires : Timestamp) : Dict :=
  [("schema_version", .int 1),
    ("purpose", .str transportPurpose),
    ("key_id", .str keyId),
    ("intent_id", .str bound.intentId),
    ("prediction_id", .str bound.predictionId),
    ("paper_order_id", .str bound.paperOrderId),
    ("request_sha256", .str bound.requestSha256),
    ("prepared_sha256", .str bound.preparedSha256),
    ("approval_sha256", .str bound.approvalSha256),
    ("approval_source_sha256", .str bound.approvalSourceSha256),
    ("origin_attestation_sha256", .str (C.payloadSha256 origin)),
    ("origin_attestation", .obj origin),
    ("transport_nonce", .str nonce),
    ("created_at", .str (IsoTime.isoformat created)),
    ("expires_at", .str (IsoTime.isoformat expires)),
    ("prepared", .obj prepared),
    ("approval", .obj approval)]

/-- The body with its code. -/
def sign (C : Crypto) (body : Dict) (key : List UInt8) : Outcome Dict := do
  .ok (body ++ [("hmac_sha256", .str (← mac C body key))])

/-- `create_transport_envelope`. -/
def createTransportEnvelope (C : Crypto) (prepared approval origin : Dict) (key : List UInt8)
    (keyId : String) (createdAt : DateTime) (nonce : String) : Outcome Dict := do
  let created ← utc createdAt
  let normalizedKeyId ← keyIdOf keyId
  check (isNonce nonce = true) "transport nonce invalid"
  let approved ← approvedHandoff C prepared approval (utcDateTime created)
  let expires ← approvalWindow approved created
  let preparedCopy := Json.normalEntries prepared
  let approvalSent ← approvalCopy approval
  let bound := boundOf approved (C.payloadSha256 preparedCopy) (C.payloadSha256 approvalSent)
    (C.payloadSha256 approval)
  let attested ← validateOriginAttestationBinding origin bound
  check (¬ created < attested.attestedAt) "transport predates origin attestation"
  check (¬ attested.expiresAt ≤ created) "origin attestation expired before transport"
  let expires := min expires attested.expiresAt
  check (¬ expires ≤ created) "transport window already closed"
  sign C (transportBody C normalizedKeyId nonce bound attested.copied preparedCopy approvalSent
    created expires) key

/-- What the authorized creator reads back from the envelope of the first schema. -/
def boundIn (base : Dict) : Outcome Bound := do
  .ok {
    preparedSha256 := ← item base "prepared_sha256"
    approvalSha256 := ← item base "approval_sha256"
    approvalSourceSha256 := ← item base "approval_source_sha256"
    intentId := ← item base "intent_id"
    predictionId := ← item base "prediction_id"
    paperOrderId := ← item base "paper_order_id"
    requestSha256 := ← item base "request_sha256" }

/-- `create_authorized_transport_envelope`. -/
def createAuthorizedTransportEnvelope (C : Crypto) (prepared approval origin source : Dict)
    (key : List UInt8) (keyId : String) (createdAt : DateTime) (nonce : String) :
    Outcome Dict := do
  let base ← createTransportEnvelope C prepared approval origin key keyId createdAt nonce
  let created ← utc createdAt
  let originAttestedAt ← utc (← dateTimeOf (← item origin "attested_at"))
  let originExpiresAt ← utc (← dateTimeOf (← item origin "expires_at"))
  let link : OriginLink :=
    ⟨← item base "origin_attestation_sha256", ← item origin "key_id", originAttestedAt,
      originExpiresAt⟩
  let attested ← validateSourceTruthAuthorizationBinding C source link (← boundIn base)
  check (¬ created < attested.attestedAt) "transport predates source truth authorization"
  check (¬ attested.expiresAt ≤ created) "source truth authorization expired before transport"
  let body := Dict.put (base.without "hmac_sha256") "schema_version" (.int 2)
  let body := Dict.put body "source_truth_authorization_sha256"
    (.str (C.payloadSha256 attested.copied))
  let body := Dict.put body "source_truth_authorization" (.obj attested.copied)
  let baseExpires ← utc (← dateTimeOf (← item body "expires_at"))
  let expires := min baseExpires attested.expiresAt
  sign C (Dict.put body "expires_at" (.str (IsoTime.isoformat expires))) key

/-! ## Verifying envelopes -/

/-- `TRANSPORT_ENVELOPE_FIELDS`. -/
def transportEnvelopeFields : List String :=
  ["schema_version", "purpose", "key_id", "intent_id", "prediction_id", "paper_order_id",
    "request_sha256", "prepared_sha256", "approval_sha256", "approval_source_sha256",
    "origin_attestation_sha256", "origin_attestation", "transport_nonce", "created_at", "expires_at",
    "prepared", "approval", "hmac_sha256"]

/-- `AUTHORIZED_TRANSPORT_ENVELOPE_FIELDS`. -/
def authorizedTransportEnvelopeFields : List String :=
  transportEnvelopeFields ++ ["source_truth_authorization_sha256", "source_truth_authorization"]

/-- `TRANSPORT_APPROVAL_FIELDS`. -/
def transportApprovalFields : List String :=
  ["schema_version", "status", "intent_id", "prediction_id", "paper_order_id", "request_sha256",
    "approved_at", "expires_at"]

/-- Whether the envelope has the authorized schema. -/
def schemaOf (envelope : Dict) : Outcome Bool :=
  if (envelope.get "schema_version").isInt 1 then .ok false
  else if (envelope.get "schema_version").isInt 2 then .ok true
  else raise .transportError "transport schema mismatch"

/-- The code of the envelope; `hmac.compare_digest` takes ASCII texts only. -/
def checkMac (C : Crypto) (envelope : Dict) (key : List UInt8) : Outcome Unit := do
  let supplied := (envelope.get "hmac_sha256").textOrEmpty
  check (supplied.length = 64) "transport hmac invalid"
  let expected ← mac C (envelope.without "hmac_sha256") key
  require ((bytes supplied).all (· < 128) = true) .typeError
    "comparing strings with non-ASCII characters is not supported"
  check (supplied = expected) "transport hmac mismatch"

/-- The documents of an envelope; the source-truth authorization of the authorized schema only. -/
structure Documents where
  prepared : Dict
  approval : Dict
  origin : Dict
  source : Option Dict

/-- The documents are mappings, and the approval has its fields. -/
def documentsOf (envelope : Dict) (authorized : Bool) : Outcome Documents := do
  let payload (name : String) :=
    requireMapping (envelope.get name) .transportError "transport payload missing"
  let prepared ← payload "prepared"
  let approval ← payload "approval"
  let origin ← payload "origin_attestation"
  let source ← if authorized then
      (requireMapping (envelope.get "source_truth_authorization") .transportError
        "source truth authorization payload missing").map some
    else .ok none
  check (approval.hasKeys transportApprovalFields) "transport approval fields mismatch"
  .ok ⟨prepared, approval, origin, source⟩

/-- The digests of the documents. -/
def checkHashes (C : Crypto) (envelope : Dict) (documents : Documents) : Outcome Unit := do
  let hashMatches (name : String) (document : Dict) (message : String) :=
    check ((envelope.get name).textOrEmpty = C.payloadSha256 document) message
  hashMatches "prepared_sha256" documents.prepared "prepared payload hash mismatch"
  hashMatches "approval_sha256" documents.approval "approval payload hash mismatch"
  hashMatches "origin_attestation_sha256" documents.origin "origin attestation hash mismatch"
  match documents.source with
  | some source =>
    hashMatches "source_truth_authorization_sha256" source "source truth authorization hash mismatch"
  | none => .ok ()

/-- The time an envelope is observed at, and its window. -/
structure Window where
  observed : Timestamp
  created : Timestamp
  expires : Timestamp

/-- The envelope's window, and its checks. -/
def windowOf (envelope : Dict) (observed : Timestamp) : Outcome Window := do
  let created ← timeIn envelope "created_at" "transport timestamps invalid"
  let expires ← timeIn envelope "expires_at" "transport timestamps invalid"
  check (¬ observed < created) "transport created_at is in the future"
  check (¬ expires ≤ created) "transport expiry invalid"
  check (¬ ⟨transportMaxLifetimeSeconds, 0⟩ < Timestamp.seconds (expires - created))
    "transport lifetime exceeds maximum"
  check (¬ expires ≤ observed) "transport envelope expired"
  .ok ⟨observed, created, expires⟩

/-- The origin attestation, and its window around the envelope's. -/
def checkOrigin (origin : Dict) (bound : Bound) (window : Window) : Outcome Attested := do
  let attested ← validateOriginAttestationBinding origin bound
  check (¬ window.created < attested.attestedAt) "transport predates origin attestation"
  check (¬ attested.expiresAt < window.expires) "transport outlives origin attestation"
  check (¬ attested.expiresAt ≤ window.observed) "origin attestation expired"
  .ok attested

/-- The source-truth authorization, and its window around the envelope's. -/
def checkSource (C : Crypto) (source : Dict) (link : OriginLink) (bound : Bound)
    (window : Window) : Outcome Attested := do
  let attested ← validateSourceTruthAuthorizationBinding C source link bound
  check (¬ window.created < attested.attestedAt) "transport predates source truth authorization"
  check (¬ attested.expiresAt < window.expires) "transport outlives source truth authorization"
  check (¬ attested.expiresAt ≤ window.observed) "source truth authorization expired"
  .ok attested

/-- What `verify_transport_envelope` returns. -/
structure Verified where
  keyId : String
  bound : Bound
  originAttestationSha256 : String
  originAttestation : Dict
  originKeyId : String
  transportNonce : String
  createdAt : String
  expiresAt : String
  prepared : Dict
  approval : Dict
  /-- The digest and the copy of the source-truth authorization. -/
  source : Option (String × Dict)

/-- The source-truth authorization of the authorized schema, with its digest. -/
def checkSourceOf (C : Crypto) (envelope : Dict) (documents : Documents) (attested : Attested)
    (bound : Bound) (window : Window) : Outcome (Option Dict) :=
  match documents.source with
  | none => .ok none
  | some source => do
    let link : OriginLink :=
      ⟨← item envelope "origin_attestation_sha256", ← item attested.copied "key_id",
        attested.attestedAt, attested.expiresAt⟩
    .ok (some (← checkSource C source link bound window).copied)

/-- `verify_transport_envelope`. -/
def verifyTransportEnvelope (C : Crypto) (envelope : Dict) (key : List UInt8)
    (expectedKeyId : String) (observedAt : DateTime) : Outcome Verified := do
  let observed ← utc observedAt
  let authorized ← schemaOf envelope
  check (envelope.hasKeys
      (if authorized then authorizedTransportEnvelopeFields else transportEnvelopeFields))
    "transport envelope fields mismatch"
  check ((envelope.get "purpose").isStr transportPurpose) "transport purpose mismatch"
  check ((envelope.get "key_id").textOrEmpty = (← keyIdOf expectedKeyId))
    "transport key id mismatch"
  checkMac C envelope key
  let documents ← documentsOf envelope authorized
  checkHashes C envelope documents
  let window ← windowOf envelope observed
  let approved ← approvedHandoff C documents.prepared documents.approval (utcDateTime observed)
  checkFields envelope "transport " [("intent_id", approved.intentId),
    ("prediction_id", approved.predictionId), ("paper_order_id", approved.paperOrderId),
    ("request_sha256", approved.requestSha256)]
  let bound := boundOf approved (← item envelope "prepared_sha256")
    (← item envelope "approval_sha256") (← item envelope "approval_source_sha256")
  let attested ← checkOrigin documents.origin bound window
  let source ← checkSourceOf C envelope documents attested bound window
  check (isNonce (envelope.get "transport_nonce").textOrEmpty = true) "transport nonce invalid"
  checkDigests envelope "transport " (["request_sha256", "prepared_sha256", "approval_sha256",
    "approval_source_sha256", "origin_attestation_sha256"] ++
      if authorized then ["source_truth_authorization_sha256"] else [])
  .ok {
    keyId := ← item envelope "key_id"
    bound
    originAttestationSha256 := (envelope.get "origin_attestation_sha256").textOrEmpty
    originAttestation := attested.copied
    originKeyId := ← item attested.copied "key_id"
    transportNonce := (envelope.get "transport_nonce").textOrEmpty
    createdAt := IsoTime.isoformat window.created
    expiresAt := IsoTime.isoformat window.expires
    prepared := documents.prepared
    approval := documents.approval
    source := ← match source with
      | none => .ok none
      | some copied => do
        .ok (some (← item envelope "source_truth_authorization_sha256", copied)) }

end BpEngine.TelegramTransport
