import BpEngine.Core

/-!
# The live risk rules

`live_readiness/models.py` and `live_readiness/risk.py`: the policy, the account snapshot, the
context of one decision, and `evaluateLiveRisk`, which evaluates every rule without
short-circuiting.

* `LiveAccountSnapshot` and `LiveRiskContext` are built by `create`, which makes the checks of
  `__post_init__`.
* `RiskRule` lists the rules in the order they are evaluated, `RiskRule.passed` is the test of each.
* `eligible_iff`: a decision is eligible exactly when every rule passed.
-/

namespace BpEngine.LiveReadiness

/-- `LiveRiskPolicy`. -/
structure LiveRiskPolicy where
  maxTradeSizeUsd : Decimal
  maxTotalExposureUsd : Decimal
  maxDailyLossUsd : Decimal
  maxConsecutiveLosses : ℤ
  minEdge : Decimal
  minProbability : Decimal
  minLiquidityUsd : Decimal
  maxSpread : Decimal
  maxPredictionAgeSeconds : Decimal
  minTimeToExpirySeconds : Decimal
  cooldownSeconds : Decimal
  policyVersion : String
deriving DecidableEq, Repr

/-- `LiveAccountSnapshot` with the checks of its `__post_init__`. -/
structure LiveAccountSnapshot where
  totalExposureUsd : Decimal
  realizedDailyPnlUsd : Decimal
  consecutiveLosses : ℤ
  lastOrderAt : Option Timestamp
  unresolvedCriticalReconciliation : ℤ
  totalExposure_nonneg : 0 ≤ totalExposureUsd
  consecutiveLosses_nonneg : 0 ≤ consecutiveLosses
  unresolvedCritical_nonneg : 0 ≤ unresolvedCriticalReconciliation
deriving DecidableEq

/-- The constructor call of `LiveAccountSnapshot`. -/
def LiveAccountSnapshot.create (totalExposureUsd realizedDailyPnlUsd : Decimal)
    (consecutiveLosses : ℤ) (lastOrderAt : Option Timestamp)
    (unresolvedCriticalReconciliation : ℤ) : Outcome LiveAccountSnapshot :=
  if he : 0 ≤ totalExposureUsd then
    if hl : 0 ≤ consecutiveLosses then
      if hc : 0 ≤ unresolvedCriticalReconciliation then
        .ok ⟨totalExposureUsd, realizedDailyPnlUsd, consecutiveLosses, lastOrderAt,
          unresolvedCriticalReconciliation, he, hl, hc⟩
      else raise .valueError "unresolved_critical_reconciliation must be nonnegative"
    else raise .valueError "consecutive_losses must be nonnegative"
  else raise .valueError "total_exposure_usd must be nonnegative"

theorem LiveAccountSnapshot.create_eq_ok {exposure pnl : Decimal} {losses : ℤ}
    {last : Option Timestamp} {critical : ℤ} {a : LiveAccountSnapshot} :
    LiveAccountSnapshot.create exposure pnl losses last critical = .ok a ↔
      a.totalExposureUsd = exposure ∧ a.realizedDailyPnlUsd = pnl ∧
        a.consecutiveLosses = losses ∧ a.lastOrderAt = last ∧
        a.unresolvedCriticalReconciliation = critical := by
  obtain ⟨e, p, l, o, c, he, hl, hc⟩ := a
  unfold create
  constructor
  · intro h
    split_ifs at h with h1 h2 h3
    · cases h
      exact ⟨rfl, rfl, rfl, rfl, rfl⟩
    all_goals exact absurd h raise_ne_ok
  · rintro ⟨rfl, rfl, rfl, rfl, rfl⟩
    rw [dif_pos he, dif_pos hl, dif_pos hc]

/-- `LiveRiskContext`. -/
structure LiveRiskContext where
  predictionId : String
  predictionSemanticSha256 : String
  recordedAt : Timestamp
  marketEndAt : Timestamp
  trade : Bool
  executable : Bool
  probability : Decimal
  expectedEdge : Decimal
  selectedAsk : Option Decimal
  spread : Option Decimal
  selectedLiquidityUsd : Option Decimal
  requestedNotionalUsd : Decimal
  observedAt : Timestamp
  apiHealthy : Bool
  duplicateIntent : Bool
  account : LiveAccountSnapshot
deriving DecidableEq

/-- `LiveRiskContext.__post_init__`: the checks, in their order; the digest is lower-cased. -/
def LiveRiskContext.create (c : LiveRiskContext) : Outcome LiveRiskContext := do
  require (strip c.predictionId ≠ "") .valueError "prediction_id must not be blank"
  require (isHex64 (lower c.predictionSemanticSha256)) .valueError
    "prediction_semantic_sha256 must be a 64-character SHA-256 digest"
  require (0 ≤ c.probability ∧ c.probability ≤ 1) .valueError "probability must be between 0 and 1"
  require (∀ ask ∈ c.selectedAsk, 0 < ask ∧ ask ≤ 1) .valueError
    "selected_ask must be within (0, 1]"
  require (∀ spread ∈ c.spread, 0 ≤ spread) .valueError "spread must be nonnegative"
  require (∀ spread ∈ c.spread, spread ≤ 1) .valueError "spread must be at most 1"
  require (∀ liquidity ∈ c.selectedLiquidityUsd, 0 ≤ liquidity) .valueError
    "selected_liquidity_usd must be nonnegative"
  require (0 < c.requestedNotionalUsd) .valueError "requested_notional_usd must be positive"
  .ok { c with predictionSemanticSha256 := lower c.predictionSemanticSha256 }

/-- A context that was built is the given one, up to the case of its digest. -/
theorem LiveRiskContext.create_eq_ok {c c' : LiveRiskContext} (h : c.create = .ok c') :
    c' = { c with predictionSemanticSha256 := lower c.predictionSemanticSha256 } := by
  simp only [create, bind_eq_ok, require_eq_ok, Except.ok.injEq] at h
  obtain ⟨_, _, _, _, _, _, _, _, _, _, _, _, _, _, _, _, h⟩ := h
  exact h.symm

/-! ## The rules -/

/-- The rules, in the order they are evaluated. -/
inductive RiskRule where
  | liveInterlock
  | tradeSignal
  | predictionExecutable
  | tradeSizeLimit
  | totalExposureLimit
  | dailyLossLimit
  | consecutiveLossLimit
  | probabilityMinimum
  | edgeMinimum
  | selectedAskPresent
  | spreadPresent
  | spreadLimit
  | liquidityPresent
  | liquidityMinimum
  | predictionFreshness
  | timeToExpiry
  | cooldown
  | apiHealth
  | duplicateIntent
  | reconciliation
deriving DecidableEq, Repr

namespace RiskRule

def all : List RiskRule :=
  [liveInterlock, tradeSignal, predictionExecutable, tradeSizeLimit, totalExposureLimit,
    dailyLossLimit, consecutiveLossLimit, probabilityMinimum, edgeMinimum, selectedAskPresent,
    spreadPresent, spreadLimit, liquidityPresent, liquidityMinimum, predictionFreshness,
    timeToExpiry, cooldown, apiHealth, duplicateIntent, reconciliation]

/-- `failure_reason` of the rule. -/
def failureReason : RiskRule → String
  | liveInterlock => "live_interlock_blocked"
  | tradeSignal => "trade_signal_false"
  | predictionExecutable => "prediction_not_executable"
  | tradeSizeLimit => "trade_size_limit_exceeded"
  | totalExposureLimit => "total_exposure_limit_exceeded"
  | dailyLossLimit => "daily_loss_limit_reached"
  | consecutiveLossLimit => "consecutive_loss_limit_reached"
  | probabilityMinimum => "probability_below_minimum"
  | edgeMinimum => "edge_below_minimum"
  | selectedAskPresent => "selected_ask_missing"
  | spreadPresent => "spread_missing"
  | spreadLimit => "spread_too_wide"
  | liquidityPresent => "liquidity_missing"
  | liquidityMinimum => "liquidity_below_minimum"
  | predictionFreshness => "prediction_stale"
  | timeToExpiry => "too_close_to_expiry"
  | cooldown => "cooldown_active"
  | apiHealth => "api_unhealthy"
  | duplicateIntent => "duplicate_intent"
  | reconciliation => "reconciliation_blocked"

/-- The test of each rule. -/
def passed (policy : LiveRiskPolicy) (context : LiveRiskContext) (interlockEligible : Bool) :
    RiskRule → Bool
  | liveInterlock => interlockEligible
  | tradeSignal => context.trade
  | predictionExecutable => context.executable
  | tradeSizeLimit =>
    0 < policy.maxTradeSizeUsd ∧ context.requestedNotionalUsd ≤ policy.maxTradeSizeUsd
  | totalExposureLimit =>
    0 < policy.maxTotalExposureUsd ∧
      context.account.totalExposureUsd + context.requestedNotionalUsd ≤ policy.maxTotalExposureUsd
  | dailyLossLimit =>
    0 < policy.maxDailyLossUsd ∧ -policy.maxDailyLossUsd < context.account.realizedDailyPnlUsd
  | consecutiveLossLimit =>
    policy.maxConsecutiveLosses = 0 ∨
      context.account.consecutiveLosses < policy.maxConsecutiveLosses
  | probabilityMinimum => policy.minProbability ≤ context.probability
  | edgeMinimum => policy.minEdge ≤ context.expectedEdge
  | selectedAskPresent => context.selectedAsk.isSome
  | spreadPresent => context.spread.isSome
  | spreadLimit => ∀ spread ∈ context.spread, spread ≤ policy.maxSpread
  | liquidityPresent => context.selectedLiquidityUsd.isSome
  | liquidityMinimum => ∀ liquidity ∈ context.selectedLiquidityUsd,
      policy.minLiquidityUsd ≤ liquidity
  | predictionFreshness =>
    0 ≤ context.observedAt - context.recordedAt ∧
      Timestamp.seconds (context.observedAt - context.recordedAt) ≤ policy.maxPredictionAgeSeconds
  | timeToExpiry =>
    policy.minTimeToExpirySeconds ≤ Timestamp.seconds (context.marketEndAt - context.observedAt)
  | cooldown => ∀ last ∈ context.account.lastOrderAt,
      0 ≤ context.observedAt - last ∧
        policy.cooldownSeconds ≤ Timestamp.seconds (context.observedAt - last)
  | apiHealth => context.apiHealthy
  | duplicateIntent => !context.duplicateIntent
  | reconciliation => context.account.unresolvedCriticalReconciliation = 0

end RiskRule

/-- `if reason not in reasons: reasons.append(reason)`. -/
def appendNew (reasons : List String) (reason : String) : List String :=
  if reason ∈ reasons then reasons else reasons ++ [reason]

/-- `interlock_reasons`, stripped and without repetitions; a blank one is an error. -/
def normalizedReasons (interlockReasons : List String) : Outcome (List String) :=
  if ∀ reason ∈ interlockReasons, strip reason ≠ "" then
    .ok ((interlockReasons.map strip).foldl appendNew [])
  else raise .valueError "interlock_reasons must contain nonblank strings"

/-- The reasons one rule adds: its own when it failed, and the interlock's with the first rule. -/
def addReasons (passed : RiskRule → Bool) (interlockReasons reasons : List String)
    (rule : RiskRule) : List String :=
  if passed rule then reasons
  else
    let reasons := appendNew reasons rule.failureReason
    if rule = .liveInterlock then interlockReasons.foldl appendNew reasons else reasons

/-- `LiveRiskDecision`.  The digests of the policy and of the decision's payload are kept as what
they digest: the policy, the context and the interlock. -/
structure LiveRiskDecision where
  eligible : Bool
  reasons : List String
  rules : List (RiskRule × Bool)
  policy : LiveRiskPolicy
  context : LiveRiskContext
  interlockEligible : Bool
  interlockReasons : List String
deriving DecidableEq

/-- `evaluate_live_risk`. -/
def evaluateLiveRisk (policy : LiveRiskPolicy) (context : LiveRiskContext)
    (interlockEligible : Bool) (interlockReasons : List String) : Outcome LiveRiskDecision := do
  let normalized ← normalizedReasons interlockReasons
  let passed := RiskRule.passed policy context interlockEligible
  let reasons := RiskRule.all.foldl (addReasons passed normalized) []
  .ok ⟨reasons.isEmpty, reasons, RiskRule.all.map fun rule => (rule, passed rule), policy,
    context, interlockEligible, normalized⟩

/-! ## Eligibility -/

theorem appendNew_ne_nil (reasons : List String) (reason : String) :
    appendNew reasons reason ≠ [] := by
  unfold appendNew
  split_ifs with h
  · exact List.ne_nil_of_mem h
  · simp

theorem foldl_appendNew_ne_nil (more : List String) : ∀ {reasons : List String},
    reasons ≠ [] → more.foldl appendNew reasons ≠ [] := by
  induction more with
  | nil => exact fun h => h
  | cons reason more ih => exact fun _ => ih (appendNew_ne_nil _ reason)

theorem addReasons_eq_nil {passed : RiskRule → Bool} {interlock reasons : List String}
    {rule : RiskRule} :
    addReasons passed interlock reasons rule = [] ↔ reasons = [] ∧ passed rule = true := by
  unfold addReasons
  by_cases hp : passed rule = true
  · simp [hp]
  · have hne := appendNew_ne_nil reasons rule.failureReason
    simp only [hp, Bool.false_eq_true, if_false, and_false, iff_false]
    split_ifs
    · exact foldl_appendNew_ne_nil _ hne
    · exact hne

theorem foldl_addReasons_eq_nil {passed : RiskRule → Bool} {interlock : List String}
    (rules : List RiskRule) : ∀ {reasons : List String},
    rules.foldl (addReasons passed interlock) reasons = [] ↔
      reasons = [] ∧ ∀ rule ∈ rules, passed rule = true := by
  induction rules with
  | nil => simp
  | cons rule rules ih =>
    intro reasons
    rw [List.foldl_cons, ih, addReasons_eq_nil, List.forall_mem_cons, and_assoc]

theorem RiskRule.mem_all (rule : RiskRule) : rule ∈ RiskRule.all := by
  cases rule <;> decide

/-- **A decision is eligible exactly when every rule passed.** -/
theorem eligible_iff {policy : LiveRiskPolicy} {context : LiveRiskContext}
    {interlockEligible : Bool} {interlockReasons : List String} {decision : LiveRiskDecision}
    (h : evaluateLiveRisk policy context interlockEligible interlockReasons = .ok decision) :
    decision.eligible = true ↔
      ∀ rule, RiskRule.passed policy context interlockEligible rule = true := by
  obtain ⟨normalized, -, hd⟩ := bind_eq_ok.mp h
  cases hd
  rw [List.isEmpty_iff, foldl_addReasons_eq_nil]
  exact ⟨fun h rule => h.2 rule rule.mem_all, fun h => ⟨rfl, fun rule _ => h rule⟩⟩

end BpEngine.LiveReadiness
