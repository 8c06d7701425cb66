import BpEngine.LiveReadiness.Repository

/-!
# The account snapshot of the live ledger

The derivation of the account from the ledger in `execution/fast_live_result.py`, with the helpers
of `execution/live.py` and `execution/canary.py` it uses.

* `rowsUpTo` lists the reconciliation rows up to an instant, newest first;
* `terminalEvent` is the latest terminal event of an intent;
* `zeroFillIntents` are the intents an official row reports as unfilled, `settledIntents` those an
  official settlement row closed;
* `accountSnapshot` is `fast_live_account_snapshot`;
* `latestCleanAccount`, `carryCleanAccount`, `carryPendingAccount` select the account a new row
  carries over.
-/

namespace BpEngine.FastLive

open BpEngine.LiveReadiness BpEngine.Table

/-- `CANARY_POLICY_VERSION`. -/
def canaryPolicyVersion : String := "v3-live-canary-v1"

/-- The phase every fast-live document carries. -/
def fastLivePhase : String := "phase15_v3_fast_live_v1"

/-- `_daily_pnl_for_observed`: the day's result, or zero when the day has changed. -/
def dailyPnlForObserved (value : Decimal) (carriedAt observedAt : Timestamp) : Decimal :=
  if carriedAt.date = observedAt.date then value else 0

/-! ## Reading the ledger -/

/-- The reconciliation rows observed up to `observedAt`, newest first. -/
def rowsUpTo (ledger : Ledger) (observedAt : Timestamp) : List ReconciliationRow :=
  latestFirst (·.payload.observedAt)
    (ledger.reconciliations.filter (·.payload.observedAt ≤ observedAt))

/-- `accepted`, `rejected` and `submission_unknown`. -/
def EventType.isSubmissionAttempt : EventType → Bool
  | .accepted | .rejected | .submissionUnknown => true
  | _ => false

/-- The submission attempts and `closed_before_submission`. -/
def EventType.isTerminal (type : EventType) : Bool :=
  type.isSubmissionAttempt || type == .closedBeforeSubmission

/-- The type of the latest terminal event of an intent. -/
def terminalEvent (ledger : Ledger) (intentId : String) : Option EventType :=
  (ledger.events.reverse.find? fun event =>
    event.intentId == intentId && event.eventType.isTerminal).map (·.eventType)

/-- A row with no unresolved and no critical item. -/
def isClean (row : ReconciliationRow) : Bool :=
  row.payload.unresolvedCount == 0 && row.payload.criticalCount == 0

/-- A row that reports, complete and clean, that the intent's order was not filled at all. -/
def reportsZeroFill (row : ReconciliationRow) : Bool :=
  let evidence := row.payload.evidence
  isClean row &&
    evidence.reconciliationKind == some .postSubmissionOfficialZeroFill &&
    orEmpty evidence.intentId != "" && orEmpty evidence.externalOrderId != "" &&
    evidence.officialOpenOrderCount == some 0 &&
    evidence.confirmedFilledShares.any (·.isZero) &&
    evidence.confirmedFilledNotionalUsd.any (·.isZero) &&
    evidence.accountSnapshot.any (·.totalExposureUsd.isZero) &&
    evidence.officialFillState == some .zeroFillObserved &&
    evidence.networkSubmissionAttemptConsumed == some true

/-- `_official_zero_fill_intents_from_rows`. -/
def zeroFillIntents (rows : List ReconciliationRow) : List String :=
  (rows.filter reportsZeroFill).map fun row => orEmpty row.payload.evidence.intentId

/-- The intents that have an official settlement row. -/
def settledIntents (rows : List ReconciliationRow) : List String :=
  (rows.filter fun row =>
    row.payload.evidence.reconciliationKind == some .fastLiveOfficialSettlement &&
      orEmpty row.payload.evidence.intentId != "").map
    fun row => orEmpty row.payload.evidence.intentId

/-! ## The snapshot -/

/-- The size of an intent times its limit price. -/
def nominal (intent : IntentRow) : Decimal := intent.size * intent.limitPrice

/-- What the scan over the intents collects. -/
structure IntentScan where
  lastOrderAt : Option Timestamp := none
  exposure : Decimal := 0
  submissionAttemptSeen : Bool := false
  unresolvedIntentSeen : Bool := false
deriving DecidableEq, Repr

/-- An attempt was seen at `preSubmitAt`: the later one is kept. -/
def IntentScan.sawAttempt (scan : IntentScan) (preSubmitAt : Timestamp) : IntentScan :=
  { scan with
    submissionAttemptSeen := true
    lastOrderAt :=
      if ∀ last ∈ scan.lastOrderAt, last < preSubmitAt then some preSubmitAt
      else scan.lastOrderAt }

/-- An intent counts towards the exposure unless its latest terminal event rules it out. -/
def countsExposure (outcome : Option EventType) : Bool :=
  outcome != some .rejected && outcome != some .closedBeforeSubmission

/-- One intent of the scan in `_fast_live_base_account_snapshot`. -/
def scanIntent (zeroFilled : List String) (outcome : String → Option EventType)
    (scan : IntentScan) (intent : IntentRow) : IntentScan :=
  if intent.intentId ∈ zeroFilled then scan.sawAttempt intent.payload.preSubmitAt
  else
    let result := outcome intent.intentId
    let scan := if result.any (·.isSubmissionAttempt) then
      scan.sawAttempt intent.payload.preSubmitAt else scan
    let scan := if result = none then { scan with unresolvedIntentSeen := true } else scan
    if countsExposure result then { scan with exposure := scan.exposure + nominal intent } else scan

/-- The intents submitted up to `observedAt`. -/
def intentsUpTo (ledger : Ledger) (observedAt : Timestamp) : List IntentRow :=
  ledger.intents.filter (·.payload.preSubmitAt ≤ observedAt)

/-- `_safe_nonnegative_decimal` of a stored amount. -/
def safeNonnegative (value : Option Decimal) (fallback : Decimal) : Decimal :=
  match value with
  | some value => if value < 0 then fallback else value
  | none => fallback

/-- The intent was closed before any submission and nothing else is going on. -/
def safePreSubmissionClose (evidence : ReconciliationEvidence) (scan : IntentScan) : Bool :=
  evidence.reconciliationKind == some .preSubmissionIntentClose &&
    evidence.submissionAttemptConsumed == some false &&
    evidence.officialOpenOrderCount.getD 0 == 0 &&
    !scan.submissionAttemptSeen && !scan.unresolvedIntentSeen

/-- The critical count of the base snapshot: the latest row's, and at least one when an intent has
no terminal event or the row has no account. -/
def criticalCount (latest : ReconciliationRow) (intents : List IntentRow) (scan : IntentScan) : ℤ :=
  let critical := latest.payload.criticalCount
  let evidence := latest.payload.evidence
  if scan.unresolvedIntentSeen then max critical 1
  else if intents ≠ [] ∧ evidence.accountSnapshot = none ∧
      safePreSubmissionClose evidence scan = false then
    max critical 1
  else critical

/-- `_fast_live_base_account_snapshot`. -/
def baseAccountSnapshot (ledger : Ledger) (observedAt : Timestamp)
    (rows : List ReconciliationRow) : Outcome LiveAccountSnapshot :=
  let intents := intentsUpTo ledger observedAt
  let scan := intents.foldl (scanIntent (zeroFillIntents rows) (terminalEvent ledger)) {}
  match rows with
  | [] => LiveAccountSnapshot.create scan.exposure 0 0 scan.lastOrderAt 1
  | latest :: _ =>
    let account := latest.payload.evidence.accountSnapshot
    let evidenceExposure := safeNonnegative (account.map (·.totalExposureUsd)) scan.exposure
    let losses := ((account.map (·.consecutiveLosses)).filter (0 ≤ ·)).getD 0
    LiveAccountSnapshot.create (Decimal.max' scan.exposure evidenceExposure)
      ((account.map (·.realizedDailyPnlUsd)).getD 0) losses scan.lastOrderAt
      (criticalCount latest intents scan)

/-- The nominal amount of the settled intents. -/
def settledNominal (ledger : Ledger) (settled : List String) : Decimal :=
  (ledger.intents.filter fun intent => intent.intentId ∈ settled).foldl
    (fun total intent => total + nominal intent) 0

/-- `fast_live_account_snapshot`. -/
def accountSnapshot (ledger : Ledger) (observedAt : Timestamp) : Outcome LiveAccountSnapshot := do
  let rows := rowsUpTo ledger observedAt
  let base ← baseAccountSnapshot ledger observedAt rows
  let settled := settledNominal ledger (settledIntents rows)
  let pnl := match rows with
    | [] => base.realizedDailyPnlUsd
    | latest :: _ =>
      dailyPnlForObserved base.realizedDailyPnlUsd latest.payload.observedAt observedAt
  LiveAccountSnapshot.create (Decimal.max' 0 (base.totalExposureUsd - settled)) pnl
    base.consecutiveLosses base.lastOrderAt base.unresolvedCriticalReconciliation

/-! ## The account a new row carries over -/

/-- The account of a clean row that can be carried over. -/
def usableAccount (row : ReconciliationRow) : Option AccountEvidence :=
  if isClean row then
    row.payload.evidence.accountSnapshot.filter fun account =>
      decide (0 ≤ account.totalExposureUsd) && decide (0 ≤ account.consecutiveLosses)
  else none

/-- `_latest_clean_account_snapshot`: the first usable account below a clean latest row. -/
def latestCleanAccount (ledger : Ledger) (observedAt : Timestamp) :
    Outcome (Option (String × AccountEvidence)) :=
  match rowsUpTo ledger observedAt with
  | [] => .ok none
  | latest :: older =>
    if isClean latest then
      .ok ((latest :: older).findSome? fun row =>
        (usableAccount row).map fun account => (row.reconciliationId, account))
    else raise .runtimeError "prior_reconciliation_not_clean"

/-- `_carry_clean_account`. -/
def carryCleanAccount (ledger : Ledger) (observedAt : Timestamp) :
    Outcome (String × AccountEvidence) := do
  match ← latestCleanAccount ledger observedAt with
  | none => raise .fastLiveResultError "clean account snapshot unavailable"
  | some (reconciliationId, account) =>
    match ledger.reconciliations.find? (·.reconciliationId == reconciliationId) with
    | none => raise .runtimeError "no row was found when one was required"
    | some row =>
      .ok (reconciliationId, { account with
        realizedDailyPnlUsd := (dailyPnlForObserved account.realizedDailyPnlUsd
          row.payload.observedAt observedAt).formatF })

/-- The row is the pending row of a fast-live result for the intent. -/
def isPendingOf (intentId : String) (row : ReconciliationRow) : Bool :=
  row.payload.evidence.source == some .fastLiveResult &&
    row.payload.evidence.intentId == some intentId &&
    row.payload.evidence.reconciliationKind ==
      some .fastLiveSubmissionPendingOfficialReconciliation

/-- `_carry_pending_fast_account`. -/
def carryPendingAccount (ledger : Ledger) (intentId : String) (observedAt : Timestamp) :
    Outcome (String × AccountEvidence) :=
  match (rowsUpTo ledger observedAt).find? (isPendingOf intentId) with
  | none => raise .fastLiveResultError "pending fast-live reconciliation snapshot unavailable"
  | some row =>
    match row.payload.evidence.accountSnapshot with
    | none => raise .fastLiveResultError "pending fast-live account snapshot missing"
    | some account =>
      if account.totalExposureUsd < 0 ∨ account.consecutiveLosses < 0 then
        raise .fastLiveResultError "pending fast-live account snapshot invalid"
      else
        .ok (row.reconciliationId,
          { totalExposureUsd := account.totalExposureUsd.formatF
            realizedDailyPnlUsd := (dailyPnlForObserved account.realizedDailyPnlUsd
              row.payload.observedAt observedAt).formatF
            consecutiveLosses := account.consecutiveLosses })

end BpEngine.FastLive
