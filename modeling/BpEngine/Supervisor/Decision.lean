import BpEngine.Execution.Documents

/-!
# Decisions of the submission supervisor

`executor_snapshot`, `recorder_snapshot` and `decide` of `ops/phase15_submission_supervisor/run.py`.

* `ExecutorState` is what lies on the executor's machine, `executorSnapshot` what the supervisor reads
  of it for an intent.
* `decide` is the cascade over the two snapshots; `decideWithout` is its part for a recorder without a
  prepared candidate and `decideMarked`, `decideIdle` those for an executor with and without a marker.
* `decide_start`, `decide_reconcile` and `decide_success` say which snapshots a decision needs.
-/

namespace BpEngine.Supervisor

/-! ## The executor -/

/-- A file that should hold JSON. -/
inductive JsonFile where
  | absent
  | unreadable
  | holds (value : Json)

/-- `load(path) if path.is_file() else None`. -/
def JsonFile.load : JsonFile → Json
  | .holds value => value
  | _ => .null

/-- The files of the hand-off directory, receipts in the order of their names, and the JSON a health
run of the executor prints; a run that fails or prints something else has none. -/
structure ExecutorState where
  marker : JsonFile
  results : List JsonFile
  failures : List JsonFile
  health : Option Json

/-- The intent the remote script compares with: a character beyond the basic plane is written as two
surrogates, which no text of a JSON file has next to each other. -/
def remoteIntent (intentId : String) : Option String :=
  if intentId.toList.all fun c => c.toNat < 0x10000 then some intentId else none

/-- A receipt of the intent. -/
def receiptOf (intentId : String) (file : JsonFile) : Option Dict :=
  match file.load.mapping with
  | some payload => if (payload.get "intent_id").textOrEmpty = intentId then some payload else none
  | none => none

/-- The last receipt that the remote script finds of the intent. -/
def lastReceipt (intentId : String) (files : List JsonFile) : Option Dict :=
  match remoteIntent intentId with
  | some intent => (files.filterMap (receiptOf intent)).getLast?
  | none => none

/-- The fields `slim` keeps. -/
def slimFields : List String :=
  ["status", "intent_id", "request_sha256", "started_at", "completed_at", "accepted",
    "real_order_submitted", "network_submission_attempt_consumed", "authorization_slot_consumed",
    "retry_allowed", "error"]

/-- `slim`. -/
def slim (payload : Option Dict) : Json :=
  match payload with
  | some payload => .obj (slimFields.map fun name => (name, payload.get name))
  | none => .null

/-- The fields of the health report that are kept. -/
def healthFields : List String :=
  ["status", "kill_switch_engaged", "activation_valid", "submission_ready", "live_order_submitted"]

/-- The account of a health report: nothing counts as no account, any other value fails. -/
def accountOf (raw : Dict) : Option Dict :=
  if (raw.get "account").truthy then (raw.get "account").mapping else some []

/-- The health report that is kept. -/
def slimHealth (health : Option Json) : Json :=
  match health.bind Json.mapping with
  | some raw =>
    match accountOf raw with
    | some account =>
      .obj (healthFields.map (fun name => (name, raw.get name)) ++
        [("open_order_count", account.get "open_order_count"),
          ("clean_for_canary", account.get "clean_for_canary")])
    | none => .null
  | none => .null

/-- `executor_snapshot`. -/
def executorSnapshot (state : ExecutorState) (intentId : String) : Dict :=
  [("marker", slim state.marker.load.mapping),
    ("result", slim (lastReceipt intentId state.results)),
    ("failure", slim (lastReceipt intentId state.failures)),
    ("health", slimHealth state.health)]

/-! ## The decision -/

inductive Action where
  | wait
  | halt
  | start
  | success
  | reconcileRestart
deriving DecidableEq

structure Decision where
  action : Action
  reason : String
deriving DecidableEq

/-- What the supervisor's machine decides: the offset of its own time zone at a naive time, and what
`abs(float(value) - 5.0) > 1e-9` comes to. -/
structure Platform where
  localOffset : ℤ → ℤ
  notFive : Json → Outcome Bool

/-- `datetime.astimezone(UTC)`; a naive time is one of the machine's zone. -/
def astimezone (P : Platform) (value : DateTime) : Outcome Timestamp :=
  let time := value.wall - value.offset.getD (P.localOffset value.wall)
  if IsoTime.InRange time then .ok time else raise .overflowError "date value out of range"

/-- `text.replace("Z", "+00:00")`. -/
def replaceZulu (text : String) : String :=
  String.ofList (text.toList.flatMap fun c => if c = 'Z' then "+00:00".toList else [c])

/-- `_iso`. -/
def iso (P : Platform) (value : Json) : Outcome Timestamp := do
  let raw := value.textOrEmpty
  require (raw ≠ "") .supervisorError "required timestamp missing"
  astimezone P (← dateTimeOf (replaceZulu raw))

/-- `AMBIGUOUS_ATTEMPT_GRACE_SECONDS`. -/
def ambiguousAttemptGraceSeconds : ℤ := 45

/-- `MARKET_END_GRACE_SECONDS`. -/
def marketEndGraceSeconds : ℤ := 20

/-- `except SupervisorError`. -/
def orHalt (time : Outcome Timestamp) (reason : String) (next : Timestamp → Outcome Decision) :
    Outcome Decision :=
  match time with
  | .ok time => next time
  | .error raised =>
    if raised.cls = .supervisorError then .ok ⟨.halt, reason⟩ else .error raised

/-- The name of the watcher's status. -/
def statusName (recorder : Dict) : String :=
  match (recorder.get "status").mapping with
  | some status => (status.get "status").textOrEmpty
  | none => ""

/-- `recorder.get("service_active") is True`. -/
def serviceActive (recorder : Dict) : Bool := (recorder.get "service_active").isBool true

/-- The decision without a prepared candidate. -/
def decideWithout (recorder : Dict) : Decision :=
  let status := statusName recorder
  if serviceActive recorder = true ∧ (status = "running" ∨ status = "prepared_intent_persisted") then
    ⟨.wait, "watcher_running"⟩
  else if status = "failed" ∨ status = "failed_after_intent_persisted" then
    ⟨.halt, "watcher_failed_closed"⟩
  else if status = "already_complete" then
    ⟨.halt, "canary_reported_already_complete_without_submission_receipt"⟩
  else if serviceActive recorder = false then
    ⟨.start, "watcher_inactive_without_prepared_candidate"⟩
  else ⟨.wait, "waiting_for_prepared_candidate"⟩

/-- The result reports a submission that was accepted. -/
def reportsSubmission (result : Dict) : Bool :=
  (result.get "network_submission_attempt_consumed").isBool true &&
    (result.get "authorization_slot_consumed").isBool true &&
    (result.get "real_order_submitted").isBool true && (result.get "accepted").isBool true

/-- The decision on an executor with an attempt marker. -/
def decideMarked (P : Platform) (executor marker : Dict) (intentId : String)
    (observedAt : Timestamp) : Outcome Decision :=
  if (marker.get "intent_id").textOrEmpty ≠ intentId then
    .ok ⟨.halt, "network_attempt_marker_intent_mismatch"⟩
  else
    match (executor.get "result").mapping with
    | some result =>
      if (result.get "intent_id").textOrEmpty ≠ intentId then
        .ok ⟨.halt, "executor_result_intent_mismatch"⟩
      else if reportsSubmission result = true then
        .ok ⟨.success, "real_five_dollar_submission_recorded"⟩
      else .ok ⟨.halt, "network_attempt_terminal_without_success"⟩
    | none =>
      if (executor.get "failure").mapping.isSome = true then
        .ok ⟨.halt, "network_attempt_failed_closed"⟩
      else
        orHalt (iso P (marker.get "started_at")) "network_attempt_marker_timestamp_invalid"
          fun started => do
            if (← addSeconds started ambiguousAttemptGraceSeconds) ≤ observedAt then
              .ok ⟨.halt, "network_attempt_result_ambiguous"⟩
            else .ok ⟨.wait, "network_attempt_in_progress"⟩

/-- The executor's health report shows it idle. -/
def safeIdle (health : Dict) : Outcome Bool :=
  if (health.get "status").isStr "ok" && (health.get "kill_switch_engaged").isBool true &&
      (health.get "activation_valid").isBool false && (health.get "submission_ready").isBool false &&
      (health.get "live_order_submitted").isBool false then do
    .ok ((← (health.getOr "open_order_count" (.int (-1))).toInt) = 0 &&
      (health.get "clean_for_canary").isBool true)
  else .ok false

/-- The decision on an executor without an attempt marker. -/
def decideIdle (P : Platform) (executor prepared : Dict) (observedAt : Timestamp) :
    Outcome Decision :=
  if (executor.get "result").mapping.isSome = true ∨
      (executor.get "failure").mapping.isSome = true then
    .ok ⟨.halt, "terminal_executor_receipt_without_global_attempt_marker"⟩
  else
    match (executor.get "health").mapping with
    | none => .ok ⟨.wait, "executor_health_unavailable"⟩
    | some health => do
      if (← safeIdle health) = false then
        .ok ⟨.halt, "executor_not_safe_idle_without_attempt_marker"⟩
      else
        orHalt (iso P (prepared.get "market_end_at")) "prepared_candidate_market_end_invalid"
          fun marketEnd => do
            if observedAt < (← addSeconds marketEnd marketEndGraceSeconds) then
              .ok ⟨.wait, "candidate_window_not_terminal"⟩
            else .ok ⟨.reconcileRestart, "candidate_expired_without_network_attempt"⟩

/-- `except (TypeError, ValueError)` around the notional of the candidate. -/
def notionalOf (P : Platform) (prepared : Dict) : Outcome (Option Bool) :=
  match P.notFive (prepared.get "target_notional_usd") with
  | .ok notFive => .ok (some notFive)
  | .error raised =>
    if raised.cls = .typeError ∨ raised.cls = .valueError then .ok none else .error raised

/-- `decide`. -/
def decide (P : Platform) (recorder : Dict) (executor : Option Dict) (observedAt : Timestamp) :
    Outcome Decision :=
  match (recorder.get "prepared").mapping with
  | none => .ok (decideWithout recorder)
  | some prepared =>
    let intentId := (prepared.get "intent_id").textOrEmpty
    if intentId = "" then .ok ⟨.halt, "prepared_candidate_missing_intent_id"⟩
    else if (prepared.get "action").isStr "submit" = false then
      .ok ⟨.halt, "prepared_candidate_action_invalid"⟩
    else do
      match ← notionalOf P prepared with
      | none => .ok ⟨.halt, "prepared_candidate_notional_invalid"⟩
      | some true => .ok ⟨.halt, "prepared_candidate_notional_not_five"⟩
      | some false =>
        match executor with
        | none => .ok ⟨.wait, "executor_snapshot_unavailable"⟩
        | some executor =>
          match (executor.get "marker").mapping with
          | some marker => decideMarked P executor marker intentId observedAt
          | none => decideIdle P executor prepared observedAt

/-! ## What a decision needs -/

section Decide

variable {P : Platform} {recorder : Dict} {executor : Option Dict} {observedAt : Timestamp}
  {decision : Decision}

theorem orHalt_eq_ok {time : Outcome Timestamp} {reason : String}
    {next : Timestamp → Outcome Decision} (h : orHalt time reason next = .ok decision) :
    (∃ t, time = .ok t ∧ next t = .ok decision) ∨ decision = ⟨.halt, reason⟩ := by
  cases time with
  | ok t => exact .inl ⟨t, rfl, h⟩
  | error raised =>
    by_cases hcls : raised.cls = .supervisorError
    · rw [orHalt, if_pos hcls] at h
      exact .inr (Except.ok.inj h).symm
    · rw [orHalt, if_neg hcls] at h
      cases h

/-- The marker belongs to the intent, and so does a result that reports an accepted submission. -/
theorem decideMarked_cases {executor marker : Dict} {intentId : String}
    (h : decideMarked P executor marker intentId observedAt = .ok decision) :
    decision.action = .halt ∨ decision.action = .wait ∨
      (decision.action = .success ∧ (marker.get "intent_id").textOrEmpty = intentId ∧
        ∃ result, (executor.get "result").mapping = some result ∧
          (result.get "intent_id").textOrEmpty = intentId ∧ reportsSubmission result = true) := by
  unfold decideMarked at h
  split at h
  · exact .inl ((Except.ok.inj h) ▸ rfl)
  · next hmarker =>
    split at h
    · next result hresult =>
      split_ifs at h with hintent hreports
      · exact .inl ((Except.ok.inj h) ▸ rfl)
      · refine .inr (.inr ⟨(Except.ok.inj h) ▸ rfl, not_not.mp hmarker, result, hresult, ?_, hreports⟩)
        exact not_not.mp hintent
      · exact .inl ((Except.ok.inj h) ▸ rfl)
    · split at h
      · exact .inl ((Except.ok.inj h) ▸ rfl)
      · rcases orHalt_eq_ok h with ⟨started, -, hstarted⟩ | hhalt
        · obtain ⟨deadline, -, hdeadline⟩ := bind_eq_ok.mp hstarted
          split_ifs at hdeadline
          · exact .inl ((Except.ok.inj hdeadline) ▸ rfl)
          · exact .inr (.inl ((Except.ok.inj hdeadline) ▸ rfl))
        · exact .inl (hhalt ▸ rfl)

/-- A candidate is replaced only when the executor has neither a result nor a failure of it. -/
theorem decideIdle_cases {executor prepared : Dict}
    (h : decideIdle P executor prepared observedAt = .ok decision) :
    decision.action = .halt ∨ decision.action = .wait ∨
      (decision.action = .reconcileRestart ∧ (executor.get "result").mapping = none ∧
        (executor.get "failure").mapping = none) := by
  unfold decideIdle at h
  split at h
  · exact .inl ((Except.ok.inj h) ▸ rfl)
  · next hreceipt =>
    have hnone : (executor.get "result").mapping = none ∧
        (executor.get "failure").mapping = none := by
      rw [not_or] at hreceipt
      exact ⟨by simpa using hreceipt.1, by simpa using hreceipt.2⟩
    split at h
    · exact .inr (.inl ((Except.ok.inj h) ▸ rfl))
    · obtain ⟨idle, -, hidle⟩ := bind_eq_ok.mp h
      split at hidle
      · exact .inl ((Except.ok.inj hidle) ▸ rfl)
      · rcases orHalt_eq_ok hidle with ⟨marketEnd, -, hend⟩ | hhalt
        · obtain ⟨grace, -, hgrace⟩ := bind_eq_ok.mp hend
          split_ifs at hgrace
          · exact .inr (.inl ((Except.ok.inj hgrace) ▸ rfl))
          · exact .inr (.inr ⟨(Except.ok.inj hgrace) ▸ rfl, hnone⟩)
        · exact .inl (hhalt ▸ rfl)

/-- **What a decision needs**: a decision on a candidate looks at the executor, and one without a
candidate does not. -/
theorem decide_cases (h : decide P recorder executor observedAt = .ok decision) :
    ((recorder.get "prepared").mapping = none ∧ decision = decideWithout recorder) ∨
      decision.action = .halt ∨ decision.action = .wait ∨
        ∃ prepared snapshot, (recorder.get "prepared").mapping = some prepared ∧
          executor = some snapshot ∧
          ((∃ marker, (snapshot.get "marker").mapping = some marker ∧
              decideMarked P snapshot marker (prepared.get "intent_id").textOrEmpty observedAt =
                .ok decision) ∨
            ((snapshot.get "marker").mapping = none ∧
              decideIdle P snapshot prepared observedAt = .ok decision)) := by
  unfold decide at h
  split at h
  · next hprepared => exact .inl ⟨hprepared, (Except.ok.inj h).symm⟩
  · next prepared hprepared =>
    simp only at h
    split at h
    · exact .inr (.inl ((Except.ok.inj h) ▸ rfl))
    split at h
    · exact .inr (.inl ((Except.ok.inj h) ▸ rfl))
    · obtain ⟨notional, -, hnotional⟩ := bind_eq_ok.mp h
      split at hnotional
      · exact .inr (.inl ((Except.ok.inj hnotional) ▸ rfl))
      · exact .inr (.inl ((Except.ok.inj hnotional) ▸ rfl))
      · split at hnotional
        · exact .inr (.inr (.inl ((Except.ok.inj hnotional) ▸ rfl)))
        · next snapshot =>
          refine .inr (.inr (.inr ⟨prepared, snapshot, hprepared, rfl, ?_⟩))
          split at hnotional
          · next marker hmarker => exact .inl ⟨marker, hmarker, hnotional⟩
          · next hmarker => exact .inr ⟨hmarker, hnotional⟩

theorem decideWithout_action (recorder : Dict) :
    (decideWithout recorder).action = .wait ∨ (decideWithout recorder).action = .halt ∨
      (decideWithout recorder).action = .start := by
  unfold decideWithout
  simp only
  split_ifs <;> simp

/-- The watcher is started only for a recorder without a candidate. -/
theorem decide_start (h : decide P recorder executor observedAt = .ok decision)
    (haction : decision.action = .start) :
    (recorder.get "prepared").mapping = none ∧ (decideWithout recorder).action = .start := by
  rcases decide_cases h with ⟨hprepared, rfl⟩ | hhalt | hwait | ⟨_, _, -, -, hmarked | hidle⟩
  · exact ⟨hprepared, haction⟩
  · rw [haction] at hhalt
    cases hhalt
  · rw [haction] at hwait
    cases hwait
  · obtain ⟨marker, -, hdecided⟩ := hmarked
    rcases decideMarked_cases hdecided with h' | h' | ⟨h', -⟩ <;>
    · rw [haction] at h'
      cases h'
  · rcases decideIdle_cases hidle.2 with h' | h' | ⟨h', -⟩ <;>
    · rw [haction] at h'
      cases h'

/-- A candidate is replaced only when the snapshot has no marker, no result and no failure. -/
theorem decide_reconcile (h : decide P recorder executor observedAt = .ok decision)
    (haction : decision.action = .reconcileRestart) :
    ∃ prepared snapshot, (recorder.get "prepared").mapping = some prepared ∧
      executor = some snapshot ∧ (snapshot.get "marker").mapping = none ∧
        (snapshot.get "result").mapping = none ∧ (snapshot.get "failure").mapping = none := by
  rcases decide_cases h with ⟨-, rfl⟩ | hhalt | hwait |
    ⟨prepared, snapshot, hprepared, hsnapshot, hmarked | hidle⟩
  · rcases decideWithout_action recorder with h' | h' | h' <;>
    · rw [haction] at h'
      cases h'
  · rw [haction] at hhalt
    cases hhalt
  · rw [haction] at hwait
    cases hwait
  · obtain ⟨marker, -, hdecided⟩ := hmarked
    rcases decideMarked_cases hdecided with h' | h' | ⟨h', -⟩ <;>
    · rw [haction] at h'
      cases h'
  · rcases decideIdle_cases hidle.2 with h' | h' | ⟨-, hresult, hfailure⟩
    · rw [haction] at h'
      cases h'
    · rw [haction] at h'
      cases h'
    · exact ⟨prepared, snapshot, hprepared, hsnapshot, hidle.1, hresult, hfailure⟩

/-- Success needs a marker and a result of the prepared intent. -/
theorem decide_success (h : decide P recorder executor observedAt = .ok decision)
    (haction : decision.action = .success) :
    ∃ prepared snapshot marker result, (recorder.get "prepared").mapping = some prepared ∧
      executor = some snapshot ∧ (snapshot.get "marker").mapping = some marker ∧
        (marker.get "intent_id").textOrEmpty = (prepared.get "intent_id").textOrEmpty ∧
        (snapshot.get "result").mapping = some result ∧
        (result.get "intent_id").textOrEmpty = (prepared.get "intent_id").textOrEmpty ∧
        reportsSubmission result = true := by
  rcases decide_cases h with ⟨-, rfl⟩ | hhalt | hwait |
    ⟨prepared, snapshot, hprepared, hsnapshot, hmarked | hidle⟩
  · rcases decideWithout_action recorder with h' | h' | h' <;>
    · rw [haction] at h'
      cases h'
  · rw [haction] at hhalt
    cases hhalt
  · rw [haction] at hwait
    cases hwait
  · obtain ⟨marker, hmarker, hdecided⟩ := hmarked
    rcases decideMarked_cases hdecided with h' | h' | ⟨-, hintent, result, hresult, hsame, hreports⟩
    · rw [haction] at h'
      cases h'
    · rw [haction] at h'
      cases h'
    · exact ⟨prepared, snapshot, marker, result, hprepared, hsnapshot, hmarker, hintent, hresult,
        hsame, hreports⟩
  · rcases decideIdle_cases hidle.2 with h' | h' | ⟨h', -⟩ <;>
    · rw [haction] at h'
      cases h'

end Decide

end BpEngine.Supervisor
