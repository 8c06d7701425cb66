import BpEngine.Execution.DispatchTicket
import BpEngine.Library.OrderedDict

/-!
# Execution authorization packages

`execution/telegram_execution_package.py`: a directory of eight documents, and the processed receipt
beside it, are read and checked against each other.

* `PackageCrypto` adds to the canonical encoding the bytes of a file, a line feed after an encoding, and
  `load`, which is `json.loads` of the text that the bytes are in UTF-8.
* `PackageInput` is what is found at the two paths; `PackageDocuments` are the documents read.
* `verifyExecutionAuthorizationPackage` is the whole check.  The files are read in one fixed order, where
  the source leaves the order of a set open.
-/

namespace BpEngine.ExecutionPackage

/-- Encodings of JSON values and of the bytes of files. -/
structure PackageCrypto extends Crypto where
  raw : List UInt8 → Encoded
  raw_injective : Function.Injective raw
  line : Encoded → Encoded
  load : List UInt8 → Outcome Json

/-- `if not condition: raise ExecutionPackageError(message)`. -/
def check (condition : Prop) [Decidable condition] (message : String) : Outcome Unit :=
  require condition .executionPackageError message

@[simp] theorem check_eq_ok {condition : Prop} [Decidable condition] {message : String} {u : Unit} :
    check condition message = .ok u ↔ condition := require_eq_ok

/-! ## Files -/

inductive FileKind where
  | regular
  | directory
  | symlink
  | other
deriving DecidableEq

/-- What `lstat` and reading say about a file. -/
structure StoredFile where
  kind : FileKind
  mode : ℕ
  uid : ℤ
  content : List UInt8
deriving DecidableEq

/-- The package directory and the files in it. -/
structure PackageDirectory where
  kind : FileKind
  mode : ℕ
  uid : ℤ
  files : OrderedDict String StoredFile

/-- What is found at the two paths; the path of the directory is that of its parent and its name. -/
structure PackageInput where
  parent : String
  name : String
  directory : Option PackageDirectory
  processed : Option StoredFile

/-- `str(package_dir)`. -/
def PackageInput.path (input : PackageInput) : String := input.parent ++ "/" ++ input.name

/-- `package_dir / name`. -/
def PackageInput.file (input : PackageInput) (name : String) : Option StoredFile :=
  input.directory.bind fun directory => directory.files.get? name

/-- `PACKAGE_PAYLOAD_FILES`. -/
def packagePayloadFiles : List String :=
  ["prepared.json", "approval.json", "ready-verification.json", "pre-execution.json",
    "dispatch-ticket.json", "dispatch-claim.json"]

/-- `PACKAGE_FILES`. -/
def packageFiles : List String := packagePayloadFiles ++ ["package-manifest.json", "receipt.json"]

/-- `MAX_JSON_BYTES`. -/
def maxJsonBytes : ℕ := 256 * 1024

/-- `json.loads(path.read_text(encoding="utf-8"))`: errors of reading and of the JSON text are
replaced. -/
def parsed (C : PackageCrypto) (content : List UInt8) (label : String) : Outcome Json :=
  match C.load content with
  | .ok value => .ok value
  | .error raised =>
    if raised.cls = .osError ∨ raised.cls = .jsonDecodeError then
      raise .executionPackageError (label ++ " JSON invalid")
    else .error raised

/-- `_load_json`. -/
def loadJson (C : PackageCrypto) (file : Option StoredFile) (label : String) (ownerUid : ℤ) :
    Outcome Dict :=
  match file with
  | none => raise .executionPackageError (label ++ " is not readable")
  | some file => do
    check (file.kind = .regular) (label ++ " must be a regular non-symlink file")
    check (file.mode = 0o600) (label ++ " mode must be 0600")
    check (file.uid = ownerUid) (label ++ " owner uid mismatch")
    check (0 < file.content.length ∧ file.content.length ≤ maxJsonBytes) (label ++ " size invalid")
    requireMapping (← parsed C file.content label) .executionPackageError
      (label ++ " must contain a JSON object")

/-- The documents of a package, and the processed receipt. -/
structure PackageDocuments where
  prepared : Dict
  approval : Dict
  ready : Dict
  preExecution : Dict
  ticket : Dict
  claim : Dict
  manifest : Dict
  receipt : Dict
  processed : Dict

/-- The directory is one of its owner's, with the files of a package. -/
def checkDirectory (input : PackageInput) (ownerUid : ℤ) : Outcome Unit :=
  match input.directory with
  | none => raise .executionPackageError "authorization package directory is not accessible"
  | some directory => do
    check (directory.kind = .directory) "authorization package must be a non-symlink directory"
    check (directory.mode = 0o700) "authorization package directory mode must be 0700"
    check (directory.uid = ownerUid) "authorization package directory owner uid mismatch"
    check ((∀ name ∈ directory.files.keys, name ∈ packageFiles) ∧
      ∀ name ∈ packageFiles, name ∈ directory.files.keys) "authorization package file set mismatch"

/-- One document of the package. -/
def loadPayload (C : PackageCrypto) (input : PackageInput) (ownerUid : ℤ) (name : String) :
    Outcome Dict :=
  loadJson C (input.file name) ("authorization package " ++ name) ownerUid

/-- All documents. -/
def readPackage (C : PackageCrypto) (input : PackageInput) (ownerUid : ℤ) :
    Outcome PackageDocuments := do
  checkDirectory input ownerUid
  let payload := loadPayload C input ownerUid
  .ok {
    prepared := ← payload "prepared.json"
    approval := ← payload "approval.json"
    ready := ← payload "ready-verification.json"
    preExecution := ← payload "pre-execution.json"
    ticket := ← payload "dispatch-ticket.json"
    claim := ← payload "dispatch-claim.json"
    manifest := ← payload "package-manifest.json"
    receipt := ← payload "receipt.json"
    processed := ← loadJson C input.processed "execution authorization processed receipt" ownerUid }

/-! ## Documents -/

/-- `_verify_safe_flags`. -/
def verifySafeFlags (payload : Dict) (label : String) : Outcome Unit := do
  check ((payload.get "retry_allowed").isBool false) (label ++ " retry policy invalid")
  check ((payload.get "executor_invoked").isBool false) (label ++ " executor state invalid")
  check ((payload.get "real_order_submitted").isBool false) (label ++ " money state invalid")

/-- The file, its size and its hash are those of its entry in the manifest. -/
def verifyManifestFile (C : PackageCrypto) (input : PackageInput) (files : Dict) (name : String) :
    Outcome Unit := do
  let metadata ← requireMapping (files.get name) .executionPackageError
    ("package manifest metadata missing: " ++ name)
  let expected := (metadata.get "sha256").textOrEmpty
  check (isHex64 expected = true) ("package manifest hash invalid: " ++ name)
  match input.file name with
  | none => raise .osError ("No such file or directory: " ++ name)
  | some file => do
    check ((C.sha256 (C.raw file.content)).1 = expected) ("package file hash mismatch: " ++ name)
    check ((metadata.get "size_bytes").isInt file.content.length)
      ("package file size mismatch: " ++ name)

/-- The manifest, and the files it lists. -/
def verifyManifest (C : PackageCrypto) (input : PackageInput) (manifest : Dict) :
    Outcome Unit := do
  check ((manifest.get "schema_version").isInt 1) "package manifest schema invalid"
  check ((manifest.get "status").isStr "execution_authorization_package_manifest")
    "package manifest status invalid"
  verifySafeFlags manifest "package manifest"
  check ((manifest.get "handoff_invoked").isBool false) "package manifest handoff state invalid"
  let files ← requireMapping (manifest.get "files") .executionPackageError
    "package manifest files invalid"
  check (files.hasKeys packagePayloadFiles) "package manifest file set mismatch"
  packagePayloadFiles.forM (verifyManifestFile C input files)

/-- What both receipts are asked. -/
def verifyReceipt (receipt : Dict) (label manifestSha256 : String) : Outcome Unit := do
  check ((receipt.get "schema_version").isInt 1) (label ++ " schema invalid")
  check ((receipt.get "status").isStr "execution_authorized_handoff_ready")
    (label ++ " status invalid")
  verifySafeFlags receipt label
  check ((receipt.get "handoff_invoked").isBool false) (label ++ " handoff state invalid")
  check ((receipt.get "package_manifest_sha256").textOrEmpty = manifestSha256)
    (label ++ " manifest hash mismatch")

/-- `except (PreExecutionError, DispatchTicketError)`. -/
def converted {α : Type} (x : Outcome α) : Outcome α :=
  match x with
  | .ok a => .ok a
  | .error raised =>
    if raised.cls = .preExecutionError ∨ raised.cls = .dispatchTicketError then
      raise .executionPackageError raised.message
    else .error raised

/-- The report made from the ready bundle, and the ticket checked against it. -/
def verifyAuthorization (C : PackageCrypto) (docs : PackageDocuments) (observed : Timestamp) :
    Outcome (Dict × Dict) := do
  let fresh ← PreExecution.verifyPreExecutionSnapshot C.toCrypto docs.preExecution docs.ready
  let ticket ← DispatchTicket.verifyDispatchTicketAgainstReport C.toCrypto docs.ticket fresh docs.ready
    (utcDateTime observed)
  .ok (fresh, ticket)

/-- `_claim_sha256`. -/
def claimSha256 (C : PackageCrypto) (claim : Dict) : String :=
  (C.sha256 (C.line (C.canonical
    (((claim.without "claim_id").without "claim_path").without "claim_sha256")))).1

def verifyClaim (C : PackageCrypto) (claim : Dict) : Outcome Unit := do
  check ((claim.get "schema_version").isInt 1) "dispatch claim schema invalid"
  check ((claim.get "status").isStr "dispatch_claimed") "dispatch claim status invalid"
  verifySafeFlags claim "dispatch claim"
  check ((claim.get "claim_sha256").textOrEmpty = claimSha256 C claim) "dispatch claim hash mismatch"

/-- `_require_same`: the payloads have one text under each name, and it is not empty. -/
def requireSame (payloads : List Dict) (fields : List String) : Outcome Unit :=
  fields.forM fun name =>
    let values := (payloads.map fun payload => (payload.get name).textOrEmpty).dedup
    check (¬ ("" ∈ values ∨ values.length ≠ 1)) ("package " ++ name ++ " binding mismatch")

/-- The fields that all but the manifest, the prepared payload and the approval share. -/
def sharedFields : List String :=
  ["intent_id", "prediction_id", "paper_order_id", "request_sha256", "prepared_sha256",
    "approval_sha256", "approval_source_sha256", "origin_attestation_sha256"]

/-- The equalities between the documents. -/
def verifyBindings (docs : PackageDocuments) (fresh ticket : Dict) : Outcome Unit := do
  requireSame [docs.ready, fresh, ticket, docs.claim, docs.receipt, docs.processed] sharedFields
  requireSame [fresh, ticket, docs.claim, docs.receipt, docs.processed] ["source_truth_sha256"]
  check ((docs.ready.get "project_state_sha256").textOrEmpty =
    (fresh.get "source_truth_sha256").text) "ready source truth project state hash mismatch"
  requireSame [fresh, ticket, docs.claim, docs.receipt, docs.processed]
    ["authorization_report_sha256"]
  requireSame [ticket, docs.claim, docs.receipt, docs.processed]
    ["dispatch_ticket_sha256", "expires_at"]
  requireSame [docs.manifest, ticket, docs.receipt, docs.processed]
    ["intent_id", "request_sha256", "expires_at"]
  check ((docs.receipt.get "dispatch_claim_sha256").textOrEmpty =
    (docs.claim.get "claim_sha256").textOrEmpty) "package receipt dispatch claim mismatch"
  check ((docs.processed.get "dispatch_claim_sha256").textOrEmpty =
    (docs.claim.get "claim_sha256").textOrEmpty) "processed receipt dispatch claim mismatch"

/-- The prepared payload and the approval are those of the report. -/
def verifyPrepared (C : PackageCrypto) (docs : PackageDocuments) (fresh : Dict) :
    Outcome Unit := do
  check (C.payloadSha256 docs.prepared = (fresh.get "prepared_sha256").text)
    "prepared payload hash mismatch"
  check (C.payloadSha256 docs.approval = (fresh.get "approval_sha256").text)
    "approval payload hash mismatch"
  let request ← requireMapping (docs.prepared.get "request") .executionPackageError
    "prepared request missing"
  check (C.payloadSha256 request = (fresh.get "request_sha256").text) "prepared request hash mismatch"
  ["intent_id", "prediction_id", "paper_order_id"].forM fun name =>
    check ((docs.prepared.get name).textOrEmpty = (fresh.get name).text)
      ("prepared " ++ name ++ " binding mismatch")
  ["intent_id", "request_sha256"].forM fun name =>
    check ((docs.approval.get name).textOrEmpty = (fresh.get name).text)
      ("approval " ++ name ++ " binding mismatch")

/-- The digest of intent id and request hash. -/
def packageIdentity (C : PackageCrypto) (fresh : Dict) : String :=
  (C.sha256 (C.raw (bytes ((fresh.get "intent_id").text ++ "\x00" ++
    (fresh.get "request_sha256").text)))).1

/-- What is returned on a package that passes. -/
def verifiedPackage (C : PackageCrypto) (docs : PackageDocuments) (fresh ticket : Dict) : Dict :=
  [("schema_version", .int 1),
    ("status", .str "execution_authorization_package_verified"),
    ("intent_id", .str (fresh.get "intent_id").text),
    ("prediction_id", .str (fresh.get "prediction_id").text),
    ("paper_order_id", .str (fresh.get "paper_order_id").text),
    ("request_sha256", .str (fresh.get "request_sha256").text),
    ("source_truth_sha256", .str (fresh.get "source_truth_sha256").text),
    ("authorization_report_sha256", .str (fresh.get "authorization_report_sha256").text),
    ("dispatch_ticket_sha256", .str (ticket.get "dispatch_ticket_sha256").text),
    ("dispatch_claim_sha256", .str (docs.claim.get "claim_sha256").text),
    ("package_manifest_sha256", .str (C.payloadSha256 docs.manifest)),
    ("expires_at", .str (ticket.get "expires_at").text),
    ("retry_allowed", .bool false),
    ("mutation_performed", .bool false),
    ("network_action_performed", .bool false),
    ("handoff_invoked", .bool false),
    ("executor_invoked", .bool false),
    ("real_order_submitted", .bool false)]

/-- `_utc`: a naive time counts as UTC. -/
def utc (value : DateTime) : Outcome Timestamp :=
  inUtc .executionPackageError "" ⟨value.wall, some (value.offset.getD 0)⟩

/-- The check of the documents that were read. -/
def verifyDocuments (C : PackageCrypto) (input : PackageInput) (docs : PackageDocuments)
    (observed : Timestamp) : Outcome Dict := do
  verifyManifest C input docs.manifest
  let manifestSha256 := C.payloadSha256 docs.manifest
  verifyReceipt docs.receipt "package receipt" manifestSha256
  verifyReceipt docs.processed "processed receipt" manifestSha256
  check ((docs.processed.get "handoff_dir").textOrEmpty = input.path)
    "processed receipt handoff directory mismatch"
  let (fresh, ticket) ← converted (verifyAuthorization C docs observed)
  verifyClaim C docs.claim
  verifyBindings docs fresh ticket
  verifyPrepared C docs fresh
  check (input.name = packageIdentity C fresh) "authorization package directory identity mismatch"
  .ok (verifiedPackage C docs fresh ticket)

/-- `verify_execution_authorization_package`. -/
def verifyExecutionAuthorizationPackage (C : PackageCrypto) (input : PackageInput)
    (observedAt : DateTime) (ownerUid : ℤ) : Outcome Dict := do
  let observed ← utc observedAt
  let docs ← readPackage C input ownerUid
  verifyDocuments C input docs observed

end BpEngine.ExecutionPackage
