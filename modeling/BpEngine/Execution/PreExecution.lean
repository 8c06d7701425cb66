import BpEngine.Execution.Documents
import BpEngine.Library.JsonEqual

/-!
# Pre-execution reports

`execution/telegram_pre_execution.py` where the project state is the one that was signed: the report on
a ready bundle, and the check of a stored report.

* `signedReport` is the report without its hash.
* `verifyPreExecutionSnapshot_eq_ok`: a stored report is accepted if it equals the one that is made from
  the ready bundle; `text_of_evaluateSigned` gives the texts the report takes over.
-/

namespace BpEngine.PreExecution

/-- `if not condition: raise PreExecutionError(message)`. -/
def check (condition : Prop) [Decidable condition] (message : String) : Outcome Unit :=
  require condition .preExecutionError message

@[simp] theorem check_eq_ok {condition : Prop} [Decidable condition] {message : String} {u : Unit} :
    check condition message = .ok u ↔ condition := require_eq_ok

/-- `PRE_EXECUTION_PURPOSE`. -/
def preExecutionPurpose : String := "phase15-v3-telegram-pre-execution-v1"

/-- The entries of the ready bundle that the report must have. -/
def readyFields : List String :=
  ["transport_key_id", "origin_key_id", "intent_id", "prediction_id", "paper_order_id",
    "request_sha256", "prepared_sha256", "approval_sha256", "approval_source_sha256",
    "origin_attestation_sha256", "origin_attested_at", "origin_expires_at"]

/-- The entries about the signed source truth. -/
def sourceTruthFields : List String :=
  ["source_truth_authorization_sha256", "authorization_snapshot_sha256", "source_truth_attested_at",
    "source_truth_expires_at"]

/-- Entries of a document as texts, under their own names. -/
def texts (d : Dict) (names : List String) : Dict :=
  names.map fun name => (name, .str (d.get name).textOrEmpty)

/-- The report on a ready bundle that carries a signed source truth, without its hash. -/
def signedReport (ready : Dict) : Dict :=
  [("schema_version", .int 1),
    ("purpose", .str preExecutionPurpose),
    ("status", .str "pre_execution_authorized"),
    ("authorized", .bool true),
    ("blockers", .arr []),
    ("source_truth_sha256", .str (ready.get "project_state_sha256").textOrEmpty)] ++
  texts ready readyFields ++ texts ready sourceTruthFields ++
  [("retry_allowed", .bool false),
    ("mutation_performed", .bool false),
    ("network_action_performed", .bool false),
    ("executor_invoked", .bool false),
    ("real_order_submitted", .bool false)]

/-- The flags of the ready bundle. -/
def checkReady (ready : Dict) : Outcome Unit := do
  check ((ready.get "status").isStr "execution_ready_source_truth_verified")
    "ready bundle has not passed source truth verification"
  check ((ready.get "retry_allowed").isBool false) "ready bundle retry policy invalid"
  check ((ready.get "executor_invoked").isBool false) "ready bundle executor state invalid"
  check ((ready.get "real_order_submitted").isBool false) "ready bundle money state invalid"
  check ((ready.get "source_truth_authorized").isBool true)
    "ready source truth authorization is not authorized"
  check (Json.equal (ready.get "source_truth_blockers") (.arr []) = true)
    "ready source truth authorization contains blockers"

/-- `evaluate_signed_pre_execution_authorization`. -/
def evaluateSignedPreExecutionAuthorization (C : Crypto) (ready : Dict) : Outcome Dict := do
  checkReady ready
  [("project state", "project_state_sha256"),
    ("authorization snapshot", "authorization_snapshot_sha256"),
    ("authorization", "source_truth_authorization_sha256")].forM fun field =>
      check (isHex64 (ready.get field.2).textOrEmpty = true)
        ("ready source truth " ++ field.1 ++ " hash invalid")
  check ((ready.get "source_truth_attested_at").textOrEmpty ≠ "" ∧
    (ready.get "source_truth_expires_at").textOrEmpty ≠ "")
    "ready source truth authorization timestamps missing"
  readyFields.forM fun name =>
    check (((signedReport ready).get name).truthy = true) ("ready bundle " ++ name ++ " missing")
  .ok (signedReport ready ++
    [("authorization_report_sha256", .str (C.payloadSha256 (signedReport ready)))])

/-- `verify_pre_execution_snapshot` with `project_state=None` and `require_authorized=True`. -/
def verifyPreExecutionSnapshot (C : Crypto) (snapshot ready : Dict) : Outcome Dict := do
  let fresh ← evaluateSignedPreExecutionAuthorization C ready
  check (Dict.equal snapshot fresh = true) "pre-execution snapshot is stale or modified"
  check ((fresh.get "authorized").isBool true) "pre-execution snapshot is not authorized"
  .ok fresh

/-! ## What the report takes over -/

section Spec

variable {C : Crypto} {snapshot ready fresh : Dict}

theorem evaluateSigned_eq_ok (h : evaluateSignedPreExecutionAuthorization C ready = .ok fresh) :
    isHex64 (ready.get "project_state_sha256").textOrEmpty = true ∧
      fresh = signedReport ready ++
        [("authorization_report_sha256", .str (C.payloadSha256 (signedReport ready)))] := by
  simp only [evaluateSignedPreExecutionAuthorization, bind_eq_ok, forM_eq_ok, check_eq_ok] at h
  obtain ⟨-, -, -, hdigests, -, -, -, -, hfresh⟩ := h
  exact ⟨hdigests ("project state", "project_state_sha256") (by simp), (Except.ok.inj hfresh).symm⟩

/-- What a snapshot is checked against is made from the ready bundle. -/
theorem verifyPreExecutionSnapshot_eq_ok
    (h : verifyPreExecutionSnapshot C snapshot ready = .ok fresh) :
    evaluateSignedPreExecutionAuthorization C ready = .ok fresh ∧
      Dict.equal snapshot fresh = true := by
  simp only [verifyPreExecutionSnapshot, bind_eq_ok, check_eq_ok] at h
  obtain ⟨report, hreport, -, hequal, -, -, hfresh⟩ := h
  obtain rfl := Except.ok.inj hfresh
  exact ⟨hreport, hequal⟩

/-- The texts of the ready bundle in the report. -/
theorem lookup_of_evaluateSigned (h : evaluateSignedPreExecutionAuthorization C ready = .ok fresh)
    {name : String} (hname : name ∈ readyFields ++ sourceTruthFields) :
    fresh.lookup name = some (.str (ready.get name).textOrEmpty) := by
  obtain ⟨-, rfl⟩ := evaluateSigned_eq_ok h
  simp only [readyFields, sourceTruthFields, List.cons_append, List.nil_append, List.mem_cons,
    List.not_mem_nil, or_false] at hname
  rcases hname with rfl | rfl | rfl | rfl | rfl | rfl | rfl | rfl | rfl | rfl | rfl | rfl | rfl | rfl |
    rfl | rfl <;> rfl

end Spec

end BpEngine.PreExecution
