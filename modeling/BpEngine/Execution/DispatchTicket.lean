import BpEngine.Execution.PreExecution

/-!
# Dispatch tickets

`execution/telegram_dispatch_ticket.py`: a ticket is made from a pre-execution report, and checked
against the report it was made from.

* `createDispatchTicket`, `verifyDispatchTicket` and `verifyDispatchTicketAgainstReport` are the three
  operations; the ready bundle is given, the project state is not.
* `createDispatchTicket_eq_ok`: a ticket carries the texts of its report, and it expires no later than
  the origin attestation and the source-truth authorization of the report.
* `verifyDispatchTicketAgainstReport_eq_ok`: an accepted ticket is the one that is made from the report,
  and it has not expired.
-/

namespace BpEngine.DispatchTicket

open PreExecution (sourceTruthFields texts verifyPreExecutionSnapshot)

/-- `if not condition: raise DispatchTicketError(message)`. -/
def check (condition : Prop) [Decidable condition] (message : String) : Outcome Unit :=
  require condition .dispatchTicketError message

@[simp] theorem check_eq_ok {condition : Prop} [Decidable condition] {message : String} {u : Unit} :
    check condition message = .ok u ↔ condition := require_eq_ok

/-- `DISPATCH_TICKET_PURPOSE`. -/
def dispatchTicketPurpose : String := "phase15-v3-telegram-dispatch-ticket-v1"

/-- `BOUND_FIELDS`. -/
def boundFields : List String :=
  ["transport_key_id", "origin_key_id", "intent_id", "prediction_id", "paper_order_id",
    "request_sha256", "prepared_sha256", "approval_sha256", "approval_source_sha256",
    "origin_attestation_sha256", "origin_attested_at", "origin_expires_at", "source_truth_sha256",
    "authorization_report_sha256"]

/-- The flags that reports and tickets have to deny. -/
def deniedFlags : List String :=
  ["retry_allowed", "mutation_performed", "network_action_performed", "executor_invoked",
    "real_order_submitted"]

/-- The digests among the bound fields. -/
def boundDigests : List String :=
  ["request_sha256", "prepared_sha256", "approval_sha256", "approval_source_sha256",
    "origin_attestation_sha256", "source_truth_sha256", "authorization_report_sha256"]

/-- The digests among the fields about the signed source truth. -/
def sourceTruthDigests : List String :=
  ["source_truth_authorization_sha256", "authorization_snapshot_sha256"]

/-- `_utc`. -/
def utc (value : DateTime) : Outcome Timestamp :=
  inUtc .dispatchTicketError "dispatch ticket datetime must be timezone-aware" value

/-- `_parse_timestamp`. -/
def parseTimestamp (report : Dict) (name : String) : Outcome Timestamp :=
  match report.lookup name with
  | none => raise .dispatchTicketError ("pre-execution " ++ name ++ " invalid")
  | some value =>
    match IsoTime.fromisoformat value.text with
    | none => raise .dispatchTicketError ("pre-execution " ++ name ++ " invalid")
    | some time => utc time

/-- `pre_execution_report_sha256`. -/
def preExecutionReportSha256 (C : Crypto) (report : Dict) : Outcome String :=
  match report.get "authorization_report_sha256" with
  | .str supplied => do
    check (isHex64 supplied = true) "pre-execution authorization report hash invalid"
    check (supplied = C.payloadSha256 (report.without "authorization_report_sha256"))
      "pre-execution authorization report hash mismatch"
    .ok supplied
  | _ => raise .dispatchTicketError "pre-execution authorization report hash invalid"

/-! ## Making tickets -/

/-- Every flag is denied. -/
def checkDenied (document : Dict) (label : String) : Outcome Unit :=
  deniedFlags.forM fun name =>
    check ((document.get name).isBool false) (label ++ name ++ " must be false")

/-- What is asked of the report before its hash. -/
def checkReport (report : Dict) : Outcome Unit := do
  check ((report.get "schema_version").isInt 1) "pre-execution schema mismatch"
  check ((report.get "purpose").isStr PreExecution.preExecutionPurpose)
    "pre-execution purpose mismatch"
  check ((report.get "status").isStr "pre_execution_authorized")
    "pre-execution report is not authorized"
  check ((report.get "authorized").isBool true) "pre-execution authorization flag invalid"
  check (Json.equal (report.get "blockers") (.arr []) = true)
    "pre-execution report contains blockers"
  checkDenied report "pre-execution "

/-- What is asked of the bound fields. -/
def checkBound (report : Dict) (reportHash : String) : Outcome Unit := do
  boundFields.forM fun name =>
    check ((report.get name).textOrEmpty ≠ "") ("pre-execution " ++ name ++ " missing")
  boundDigests.forM fun name =>
    check (isHex64 (report.get name).textOrEmpty = true) ("pre-execution " ++ name ++ " invalid")
  check ((report.get "authorization_report_sha256").textOrEmpty = reportHash)
    "pre-execution authorization report hash changed"

/-- The window of the origin attestation; the ticket is made inside it. -/
def originExpiry (report : Dict) (created : Timestamp) : Outcome Timestamp := do
  let attested ← parseTimestamp report "origin_attested_at"
  let expires ← parseTimestamp report "origin_expires_at"
  check (¬ expires ≤ attested) "origin attestation expiry invalid"
  check (¬ created < attested) "dispatch ticket predates origin attestation"
  check (¬ expires ≤ created) "dispatch ticket origin authorization expired"
  .ok expires

/-- The fields of the ticket about the signed source truth, and their expiry. -/
def signedSourceTruth (report : Dict) (created originExpires : Timestamp) :
    Outcome (Dict × Timestamp) := do
  check (sourceTruthFields.all fun name => report.has name)
    "pre-execution signed source truth binding incomplete"
  sourceTruthDigests.forM fun name =>
    check (isHex64 (report.get name).textOrEmpty = true) ("pre-execution " ++ name ++ " invalid")
  let attested ← parseTimestamp report "source_truth_attested_at"
  let expires ← parseTimestamp report "source_truth_expires_at"
  check (¬ expires ≤ attested) "source truth authorization expiry invalid"
  check (¬ originExpires < expires) "source truth authorization outlives origin attestation"
  check (¬ created < attested) "dispatch ticket predates source truth authorization"
  check (¬ expires ≤ created) "dispatch ticket source truth authorization expired"
  .ok (texts report sourceTruthDigests ++
    [("source_truth_attested_at", .str (IsoTime.isoformat attested)),
      ("source_truth_expires_at", .str (IsoTime.isoformat expires))], min originExpires expires)

/-- Without any field about the signed source truth the origin attestation alone decides. -/
def sourceTruthBound (report : Dict) (created originExpires : Timestamp) :
    Outcome (Dict × Timestamp) :=
  if sourceTruthFields.any fun name => report.has name then
    signedSourceTruth report created originExpires
  else .ok ([], originExpires)

/-- The ticket without its hash. -/
def ticketBody (report sourceTruth : Dict) (created expires : Timestamp) : Dict :=
  [("schema_version", .int 1),
    ("purpose", .str dispatchTicketPurpose),
    ("status", .str "dispatch_ticket_prepared")] ++
  texts report boundFields ++ sourceTruth ++
  [("created_at", .str (IsoTime.isoformat created)),
    ("expires_at", .str (IsoTime.isoformat expires)),
    ("retry_allowed", .bool false),
    ("mutation_performed", .bool false),
    ("network_action_performed", .bool false),
    ("executor_invoked", .bool false),
    ("real_order_submitted", .bool false)]

/-- `create_dispatch_ticket`. -/
def createDispatchTicket (C : Crypto) (report : Dict) (createdAt : DateTime) : Outcome Dict := do
  let created ← utc createdAt
  checkReport report
  let reportHash ← preExecutionReportSha256 C report
  checkBound report reportHash
  let originExpires ← originExpiry report created
  let (sourceTruth, expires) ← sourceTruthBound report created originExpires
  let body := ticketBody report sourceTruth created expires
  .ok (body ++ [("dispatch_ticket_sha256", .str (C.payloadSha256 body))])

/-! ## Checking tickets -/

/-- The header and the hash of a ticket. -/
def checkTicket (C : Crypto) (ticket : Dict) : Outcome Unit := do
  check ((ticket.get "schema_version").isInt 1) "dispatch ticket schema mismatch"
  check ((ticket.get "purpose").isStr dispatchTicketPurpose) "dispatch ticket purpose mismatch"
  check ((ticket.get "status").isStr "dispatch_ticket_prepared") "dispatch ticket status invalid"
  checkDenied ticket "dispatch ticket "
  check (isHex64 (ticket.get "dispatch_ticket_sha256").textOrEmpty = true)
    "dispatch ticket hash invalid"
  check ((ticket.get "dispatch_ticket_sha256").textOrEmpty =
    C.payloadSha256 (ticket.without "dispatch_ticket_sha256")) "dispatch ticket hash mismatch"
  boundFields.forM fun name =>
    check ((ticket.get name).textOrEmpty ≠ "") ("dispatch ticket " ++ name ++ " missing")

/-- The fields about the signed source truth: all of them or none. -/
def checkSignedFields (ticket : Dict) : Outcome Unit :=
  if sourceTruthFields.any fun name => ticket.has name then do
    check (sourceTruthFields.all fun name => ticket.has name)
      "dispatch ticket signed source truth binding incomplete"
    sourceTruthDigests.forM fun name =>
      check (isHex64 (ticket.get name).textOrEmpty = true) ("dispatch ticket " ++ name ++ " invalid")
  else .ok ()

/-- The window of the signed source truth. -/
def checkSignedWindow (ticket : Dict) (created expires : Timestamp) : Outcome Unit :=
  if sourceTruthFields.all fun name => ticket.has name then do
    let attested ← parseTimestamp ticket "source_truth_attested_at"
    let sourceTruthExpires ← parseTimestamp ticket "source_truth_expires_at"
    check (¬ sourceTruthExpires ≤ attested) "dispatch ticket source truth expiry invalid"
    check (¬ created < attested) "dispatch ticket predates source truth authorization"
    check (¬ sourceTruthExpires < expires) "dispatch ticket outlives source truth authorization"
  else .ok ()

/-- `verify_dispatch_ticket`. -/
def verifyDispatchTicket (C : Crypto) (ticket : Dict) (observedAt : DateTime) : Outcome Dict := do
  let observed ← utc observedAt
  checkTicket C ticket
  checkSignedFields ticket
  let created ← parseTimestamp ticket "created_at"
  let expires ← parseTimestamp ticket "expires_at"
  check (¬ expires ≤ created) "dispatch ticket expiry invalid"
  check (¬ observed < created) "dispatch ticket is from the future"
  check (¬ expires ≤ observed) "dispatch ticket expired"
  checkSignedWindow ticket created expires
  .ok ticket

/-- `except PreExecutionError` around the check of the report. -/
def currentReport (C : Crypto) (report ready : Dict) : Outcome Dict :=
  match verifyPreExecutionSnapshot C report ready with
  | .ok fresh => .ok fresh
  | .error raised =>
    if raised.cls = .preExecutionError then
      raise .dispatchTicketError ("pre-execution snapshot invalid: " ++ raised.message)
    else .error raised

/-- `verify_dispatch_ticket_against_report`, with a ready bundle and without a project state. -/
def verifyDispatchTicketAgainstReport (C : Crypto) (ticket preExecutionReport ready : Dict)
    (observedAt : DateTime) : Outcome Dict := do
  let verified ← verifyDispatchTicket C ticket observedAt
  let report ← currentReport C preExecutionReport ready
  let createdAt ← parseTimestamp verified "created_at"
  let expected ← createDispatchTicket C report (utcDateTime createdAt)
  check (Dict.equal verified expected = true)
    "dispatch ticket does not match pre-execution authorization report"
  .ok verified

/-! ## What a ticket carries -/

section Times

variable {d d' : Dict} {name : String} {time : Timestamp}

theorem parseTimestamp_inRange (h : parseTimestamp d name = .ok time) : IsoTime.InRange time := by
  unfold parseTimestamp at h
  split at h
  · exact absurd h raise_ne_ok
  · split at h
    · exact absurd h raise_ne_ok
    · exact inUtc_inRange h

/-- A time that was written is read back. -/
theorem parseTimestamp_isoformat (hname : d.lookup name = some (.str (IsoTime.isoformat time)))
    (htime : IsoTime.InRange time) : parseTimestamp d name = .ok time := by
  unfold parseTimestamp
  rw [hname]
  simp only [Json.text, IsoTime.fromisoformat_isoformat htime]
  exact inUtc_utcDateTime htime

/-- Two documents with the same entry have the same time. -/
theorem parseTimestamp_congr (h : d.lookup name = d'.lookup name) :
    parseTimestamp d name = parseTimestamp d' name := by
  unfold parseTimestamp
  rw [h]

end Times

section Made

variable {C : Crypto} {report ticket sourceTruth : Dict} {created expires originExpires : Timestamp}
  {createdAt : DateTime}

theorem originExpiry_eq_ok (h : originExpiry report created = .ok expires) :
    parseTimestamp report "origin_expires_at" = .ok expires ∧ created < expires := by
  simp only [originExpiry, bind_eq_ok, check_eq_ok] at h
  obtain ⟨attested, -, found, hfound, -, -, -, -, -, hopen, hexpires⟩ := h
  obtain rfl := Except.ok.inj hexpires
  exact ⟨hfound, not_le.mp hopen⟩

/-- The ticket expires with the first of the two windows. -/
theorem sourceTruthBound_eq_ok (horigin : IsoTime.InRange originExpires)
    (hbefore : created < originExpires)
    (h : sourceTruthBound report created originExpires = .ok (sourceTruth, expires)) :
    IsoTime.InRange expires ∧ created < expires ∧ expires ≤ originExpires ∧
      (∀ entry ∈ sourceTruth, entry.1 ∈ sourceTruthFields) ∧
      (report.has "source_truth_expires_at" = true → ∃ time,
        parseTimestamp report "source_truth_expires_at" = .ok time ∧ expires ≤ time) := by
  unfold sourceTruthBound at h
  split_ifs at h with hany
  · simp only [signedSourceTruth, bind_eq_ok, check_eq_ok] at h
    obtain ⟨-, -, -, -, attested, -, found, hfound, -, -, -, -, -, -, -, hopen, hbound⟩ := h
    obtain ⟨rfl, rfl⟩ := Prod.mk.inj (Except.ok.inj hbound)
    have hrange : IsoTime.InRange found := parseTimestamp_inRange hfound
    refine ⟨⟨le_min horigin.1 hrange.1, (min_le_left _ _).trans_lt horigin.2⟩,
      lt_min hbefore (not_le.mp hopen), min_le_left _ _, ?_, fun _ => ⟨found, hfound,
        min_le_right _ _⟩⟩
    intro entry hentry
    simp only [texts, sourceTruthDigests, List.map_cons, List.map_nil, List.cons_append,
      List.nil_append, List.mem_cons, List.not_mem_nil, or_false] at hentry
    rcases hentry with rfl | rfl | rfl | rfl <;> simp [sourceTruthFields]
  · obtain ⟨rfl, rfl⟩ := Prod.mk.inj (Except.ok.inj h)
    refine ⟨horigin, hbefore, le_rfl, fun _ h => (by cases h), fun hhas => absurd ?_ hany⟩
    rw [List.any_eq_true]
    exact ⟨"source_truth_expires_at", by decide, hhas⟩

/-- A name that no entry has is not found. -/
theorem lookup_eq_none {d : Dict} {name : String} {names : List String}
    (hd : ∀ entry ∈ d, entry.1 ∈ names) (hname : name ∉ names) : d.lookup name = none := by
  rw [List.lookup_eq_none_iff]
  rintro entry hentry
  have hne : name ≠ entry.1 := fun heq => hname (heq ▸ hd entry hentry)
  simpa using hne

theorem lookup_ticketBody {tail : Dict} {name : String} (hname : name ∈ boundFields) :
    List.lookup name (ticketBody report sourceTruth created expires ++ tail) =
      some (.str (report.get name).textOrEmpty) := by
  simp only [boundFields, List.mem_cons, List.not_mem_nil, or_false] at hname
  rcases hname with rfl | rfl | rfl | rfl | rfl | rfl | rfl | rfl | rfl | rfl | rfl | rfl | rfl |
    rfl <;> rfl

theorem lookup_expiresAt {tail : Dict} (h : ∀ entry ∈ sourceTruth, entry.1 ∈ sourceTruthFields) :
    List.lookup "expires_at" (ticketBody report sourceTruth created expires ++ tail) =
      some (.str (IsoTime.isoformat expires)) := by
  have hnone : sourceTruth.lookup "expires_at" = none := lookup_eq_none h (by decide)
  unfold ticketBody
  rw [Dict.lookup_append, Dict.lookup_append, Dict.lookup_append, hnone]
  rfl

/-- What a ticket that was made from a report carries. -/
structure Issued (report ticket : Dict) (created expires : Timestamp) : Prop where
  inRange : IsoTime.InRange expires
  later : created < expires
  bound : ∀ name ∈ boundFields, ticket.lookup name = some (.str (report.get name).textOrEmpty)
  present : ∀ name ∈ boundFields, (report.get name).textOrEmpty ≠ ""
  expiresAt : ticket.lookup "expires_at" = some (.str (IsoTime.isoformat expires))
  origin : ∃ time, parseTimestamp report "origin_expires_at" = .ok time ∧ expires ≤ time
  sourceTruth : report.has "source_truth_expires_at" = true → ∃ time,
    parseTimestamp report "source_truth_expires_at" = .ok time ∧ expires ≤ time

/-- **What `create_dispatch_ticket` makes.** -/
theorem createDispatchTicket_eq_ok (h : createDispatchTicket C report createdAt = .ok ticket) :
    ∃ created expires, utc createdAt = .ok created ∧ Issued report ticket created expires := by
  simp only [createDispatchTicket, checkBound, bind_eq_ok, forM_eq_ok, check_eq_ok] at h
  obtain ⟨created, hcreated, -, -, reportHash, -, -, ⟨-, hpresent, -, -, -⟩, originExpires, horigin,
    ⟨sourceTruth, expires⟩, hsource, hticket⟩ := h
  obtain ⟨hparsed, hbefore⟩ := originExpiry_eq_ok horigin
  obtain ⟨hrange, hlater, hle, hfields, hsourceTruth⟩ :=
    sourceTruthBound_eq_ok (parseTimestamp_inRange hparsed) hbefore hsource
  obtain rfl := Except.ok.inj hticket
  exact ⟨created, expires, hcreated, {
    inRange := hrange
    later := hlater
    bound := fun name hname => lookup_ticketBody hname
    present := hpresent
    expiresAt := lookup_expiresAt hfields
    origin := ⟨originExpires, hparsed, hle⟩
    sourceTruth := hsourceTruth }⟩

end Made

/-! ## What an accepted ticket is -/

section Accepted

variable {C : Crypto} {ticket verified report ready : Dict} {observedAt : DateTime}

/-- An accepted ticket is returned as it is, inside its window. -/
theorem verifyDispatchTicket_eq_ok (h : verifyDispatchTicket C ticket observedAt = .ok verified) :
    verified = ticket ∧ ∃ observed expires, utc observedAt = .ok observed ∧
      parseTimestamp ticket "expires_at" = .ok expires ∧ observed < expires := by
  simp only [verifyDispatchTicket, bind_eq_ok, check_eq_ok] at h
  obtain ⟨observed, hobserved, -, -, -, -, created, -, expires, hexpires, -, -, -, -, -, hopen, -, -,
    hverified⟩ := h
  exact ⟨(Except.ok.inj hverified).symm, observed, expires, hobserved, hexpires, not_le.mp hopen⟩

theorem currentReport_eq_ok {fresh : Dict} (h : currentReport C report ready = .ok fresh) :
    verifyPreExecutionSnapshot C report ready = .ok fresh := by
  unfold currentReport at h
  split at h
  · rw [← h]
    assumption
  · split_ifs at h
    exact absurd h raise_ne_ok

/-- **An accepted ticket equals the one that is made from the current report, at the time it says it
was made.** -/
theorem verifyDispatchTicketAgainstReport_eq_ok
    (h : verifyDispatchTicketAgainstReport C ticket report ready observedAt = .ok verified) :
    verified = ticket ∧ verifyDispatchTicket C ticket observedAt = .ok ticket ∧
      ∃ fresh created expected, verifyPreExecutionSnapshot C report ready = .ok fresh ∧
        parseTimestamp ticket "created_at" = .ok created ∧
        createDispatchTicket C fresh (utcDateTime created) = .ok expected ∧
        Dict.equal ticket expected = true := by
  simp only [verifyDispatchTicketAgainstReport, bind_eq_ok, check_eq_ok] at h
  obtain ⟨found, hfound, fresh, hfresh, created, hcreated, expected, hexpected, -, hequal,
    hverified⟩ := h
  obtain rfl := Except.ok.inj hverified
  obtain ⟨rfl, -⟩ := verifyDispatchTicket_eq_ok hfound
  exact ⟨rfl, hfound, fresh, created, expected, currentReport_eq_ok hfresh, hcreated, hexpected,
    hequal⟩

end Accepted

end BpEngine.DispatchTicket
