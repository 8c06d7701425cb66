import BpEngine.Calibration.Evaluation
import Mathlib.Algebra.BigOperators.Field
import Mathlib.Algebra.CharZero.Defs

/-!
# Edge metrics of folds and of all folds together

`evaluate_edge_policy` of `calibration/edge.py` with every field of its metrics, and
`_aggregate_edge_metrics` of `calibration/service.py`, which counts the predictions of all folds again.

* `Tally` is what both loops collect, `countDecision` the body they share.
* `tallyOf` is the tally of a list of decisions; `countDecisions_eq` says that the loop computes it.
* `aggregate_of_folds`: in exact arithmetic the metrics of all folds are those of the folds, added up.
-/

namespace BpEngine.Calibration

open BpEngine.Features BpEngine.Prospective

variable {F : Type} (A : Arithmetic F)

/-! ## Counting decisions -/

/-- What a loop over decisions has collected. -/
structure Tally (F : Type) where
  reasons : List String := []
  observed : ℕ := 0
  executable : ℕ := 0
  correct : ℕ := 0
  asks : List F := []
  spreads : List F := []
  rawEdges : List F := []
  adjustedEdges : List F := []
  fees : List F := []
  slippage : List F := []
  grossPnl : List F := []
  afterCostPnl : List F := []

/-- The reason of a decision, and whether the market probability was observed. -/
def Tally.seen (tally : Tally F) (decision : EdgeDecision F) : Tally F :=
  { tally with
    reasons := tally.reasons ++ [decision.reason]
    observed := tally.observed + if decision.marketProbabilityObserved then 1 else 0 }

/-- The ask and the spread of an executable decision. -/
def Tally.quoted (tally : Tally F) (ask : F) (spread : Option F) : Tally F :=
  { tally with
    executable := tally.executable + 1
    asks := tally.asks ++ [ask]
    spreads := tally.spreads ++ spread.toList }

/-- The edges, the costs and the result of a trade. -/
def Tally.traded (tally : Tally F) (isCorrect : Bool) (ask rawEdge adjustedEdge fee slippage : F) :
    Tally F :=
  let payout := if isCorrect then A.one else A.zero
  let gross := A.sub payout ask
  { tally with
    rawEdges := tally.rawEdges ++ [rawEdge]
    adjustedEdges := tally.adjustedEdges ++ [adjustedEdge]
    fees := tally.fees ++ [fee]
    slippage := tally.slippage ++ [slippage]
    correct := tally.correct + if isCorrect then 1 else 0
    grossPnl := tally.grossPnl ++ [gross]
    afterCostPnl := tally.afterCostPnl ++ [A.sub (A.sub gross fee) slippage] }

/-- What is raised for a decision that lacks its ask, and for a trade that lacks its edges. -/
structure Lacking where
  ask : Raised
  edges : Raised

/-- The value that must be there. -/
def present {α : Type} (value : Option α) (raised : Raised) : Outcome α :=
  match value with
  | some value => .ok value
  | none => .error raised

/-- The body of both loops. -/
def countDecision (lacking : Lacking) (slippage : F) (target : ℤ) (decision : EdgeDecision F)
    (tally : Tally F) : Outcome (Tally F) := do
  let tally := tally.seen decision
  if decision.executable = false then .ok tally
  else
    let ask ← present decision.ask lacking.ask
    let tally := tally.quoted ask decision.spread
    if decision.trade = false then .ok tally
    else
      let rawEdge ← present decision.rawEdge lacking.edges
      let adjustedEdge ← present decision.costAdjustedEdge lacking.edges
      .ok (tally.traded A (target = decision.predictedTarget) ask rawEdge adjustedEdge decision.fee
        slippage)

/-! ## The metrics -/

/-- `EdgePolicyMetrics`, with every field. -/
structure EdgeMetrics (F : Type) where
  predictionMarkets : ℕ
  marketProbabilityObservedMarkets : ℕ
  executableMarkets : ℕ
  tradeCount : ℕ
  noFillMarkets : ℤ
  abstainedEdgeMarkets : ℤ
  reasonCounts : List (String × ℕ)
  tradeCoverage : F
  averageObservedAsk : Option F
  averageObservedSpread : Option F
  correctTrades : ℕ
  tradedAccuracy : Option F
  rawExpectedEdgeSum : F
  meanRawExpectedEdge : Option F
  feeSum : F
  slippageSum : F
  costAdjustedExpectedEdgeSum : F
  meanCostAdjustedExpectedEdge : Option F
  grossRealizedPnlBeforeCosts : F
  realizedPnlAfterAssumedCosts : F
  meanRealizedPnlAfterAssumedCosts : Option F
deriving DecidableEq

/-- `dict(sorted(Counter(reasons).items()))`. -/
def reasonCounts (reasons : List String) : List (String × ℕ) :=
  (reasons.dedup.insertionSort (· ≤ ·)).map fun reason => (reason, reasons.count reason)

/-- `value / count if count else None`. -/
def perCount (value : F) (count : ℕ) : Option F :=
  if count = 0 then none else some (A.div value (A.ofInt count))

/-- The metrics of a tally. -/
def metricsOf (tally : Tally F) (predictionMarkets : ℕ) (tradeCoverage slippageSum : F) :
    EdgeMetrics F :=
  let tradeCount := tally.grossPnl.length
  { predictionMarkets
    marketProbabilityObservedMarkets := tally.observed
    executableMarkets := tally.executable
    tradeCount
    noFillMarkets := predictionMarkets - tally.executable
    abstainedEdgeMarkets := tally.executable - tradeCount
    reasonCounts := reasonCounts tally.reasons
    tradeCoverage
    averageObservedAsk := perCount A (total A tally.asks) tally.asks.length
    averageObservedSpread := perCount A (total A tally.spreads) tally.spreads.length
    correctTrades := tally.correct
    tradedAccuracy := perCount A (A.ofInt tally.correct) tradeCount
    rawExpectedEdgeSum := total A tally.rawEdges
    meanRawExpectedEdge := perCount A (total A tally.rawEdges) tradeCount
    feeSum := total A tally.fees
    slippageSum
    costAdjustedExpectedEdgeSum := total A tally.adjustedEdges
    meanCostAdjustedExpectedEdge := perCount A (total A tally.adjustedEdges) tradeCount
    grossRealizedPnlBeforeCosts := total A tally.grossPnl
    realizedPnlAfterAssumedCosts := total A tally.afterCostPnl
    meanRealizedPnlAfterAssumedCosts := perCount A (total A tally.afterCostPnl) tradeCount }

/-- One market of `evaluate_edge_policy`. -/
def countRow (config : EdgeConfig F) (minEdge : Option F) (tally : Tally F)
    (entry : SupervisedRow F × F) : Outcome (Tally F) := do
  let decision ← edgeDecision A entry.1 entry.2 config minEdge
  countDecision A ⟨⟨.assertionError, ""⟩, ⟨.assertionError, ""⟩⟩ config.slippageBuffer
    entry.1.target decision tally

/-- `evaluate_edge_policy`, with every field. -/
def edgePolicyMetrics (rows : List (SupervisedRow F)) (probabilitiesUp : List F)
    (config : EdgeConfig F) (minEdge : Option F) : Outcome (EdgeMetrics F) := do
  require (rows ≠ []) .valueError "rows must not be empty"
  require (rows.length = probabilitiesUp.length) .valueError
    "rows and probabilities must have equal length"
  let tally ← (rows.zip probabilitiesUp).foldlM (countRow A config minEdge) {}
  let tradeCount := A.ofInt tally.grossPnl.length
  .ok (metricsOf A tally rows.length (A.div tradeCount (A.ofInt rows.length))
    (A.mul config.slippageBuffer tradeCount))

/-- One prediction of `_aggregate_edge_metrics`. -/
def countPrediction (tally : Tally F) (prediction : CalibrationEdgePrediction F) :
    Outcome (Tally F) :=
  countDecision A
    ⟨⟨.calibrationEdgeIntegrityError, "executable decision is missing ask"⟩,
      ⟨.calibrationEdgeIntegrityError, "trade decision is missing edge values"⟩⟩
    prediction.edgeDecision.slippageBuffer prediction.target prediction.edgeDecision tally

/-- `_aggregate_edge_metrics`. -/
def aggregateEdgeMetrics (predictions : List (CalibrationEdgePrediction F)) :
    Outcome (EdgeMetrics F) := do
  let tally ← predictions.foldlM (countPrediction A) {}
  .ok (metricsOf A tally predictions.length
    (if predictions.length = 0 then A.zero
      else A.div (A.ofInt tally.grossPnl.length) (A.ofInt predictions.length))
    (total A tally.slippage))

/-! ## The tally of a list of decisions -/

/-- Both tallies, one after the other. -/
def Tally.add (first second : Tally F) : Tally F where
  reasons := first.reasons ++ second.reasons
  observed := first.observed + second.observed
  executable := first.executable + second.executable
  correct := first.correct + second.correct
  asks := first.asks ++ second.asks
  spreads := first.spreads ++ second.spreads
  rawEdges := first.rawEdges ++ second.rawEdges
  adjustedEdges := first.adjustedEdges ++ second.adjustedEdges
  fees := first.fees ++ second.fees
  slippage := first.slippage ++ second.slippage
  grossPnl := first.grossPnl ++ second.grossPnl
  afterCostPnl := first.afterCostPnl ++ second.afterCostPnl

theorem Tally.empty_add (tally : Tally F) : Tally.add {} tally = tally := by
  simp [Tally.add]

theorem Tally.add_empty (tally : Tally F) : tally.add {} = tally := by
  simp [Tally.add]

theorem Tally.add_assoc (a b c : Tally F) : (a.add b).add c = a.add (b.add c) := by
  simp [Tally.add, Nat.add_assoc]

/-- A decision with its target. -/
abbrev Decided (F : Type) := ℤ × EdgeDecision F

/-- The tally of one decision. -/
def tallyOne (entry : Decided F) : Tally F :=
  let seen := Tally.seen {} entry.2
  let ask := entry.2.ask.getD A.zero
  let quoted := seen.quoted ask entry.2.spread
  if entry.2.executable = false then seen
  else if entry.2.trade = false then quoted
  else
    quoted.traded A (entry.1 = entry.2.predictedTarget) ask (entry.2.rawEdge.getD A.zero)
      (entry.2.costAdjustedEdge.getD A.zero) entry.2.fee entry.2.slippageBuffer

/-- The tally of a list of decisions. -/
def tallyOf (entries : List (Decided F)) : Tally F :=
  (entries.map (tallyOne A)).foldr Tally.add {}

theorem tallyOf_append (entries more : List (Decided F)) :
    tallyOf A (entries ++ more) = (tallyOf A entries).add (tallyOf A more) := by
  induction entries with
  | nil => exact (Tally.empty_add _).symm
  | cons entry entries ih =>
    show (tallyOne A entry).add (tallyOf A (entries ++ more)) = _
    rw [ih, ← Tally.add_assoc]
    rfl

/-- An executable decision has its ask, and a trade its edges. -/
structure Complete (decision : EdgeDecision F) : Prop where
  ask : decision.executable = true → decision.ask.isSome = true
  rawEdge : decision.executable = true → decision.rawEdge.isSome = true
  costAdjustedEdge : decision.executable = true → decision.costAdjustedEdge.isSome = true

/-- A decision is complete, and has the slippage buffer of its configuration. -/
theorem edgeDecision_complete {row : SupervisedRow F} {probability : F} {config : EdgeConfig F}
    {minEdge : Option F} {decision : EdgeDecision F}
    (h : edgeDecision A row probability config minEdge = .ok decision) :
    Complete decision ∧ decision.slippageBuffer = config.slippageBuffer := by
  have hunavailable : ∀ {side : Predicted F} {observed : Bool} {reason : String},
      (.ok (unavailable A side observed reason config minEdge) : Outcome (EdgeDecision F)) =
        .ok decision → Complete decision ∧ decision.slippageBuffer = config.slippageBuffer := by
    intro side observed reason h
    cases h
    exact ⟨⟨Bool.noConfusion, Bool.noConfusion, Bool.noConfusion⟩, rfl⟩
  unfold edgeDecision edgeDecisionFromPredictors at h
  obtain ⟨_, -, h⟩ := bind_eq_ok.mp h
  obtain ⟨_, -, h⟩ := bind_eq_ok.mp h
  dsimp only at h
  split at h
  · exact hunavailable h
  · split at h
    · exact hunavailable h
    · split at h
      · exact hunavailable h
      · split at h
        · exact hunavailable h
        · cases h
          exact ⟨⟨fun _ => rfl, fun _ => rfl, fun _ => rfl⟩, rfl⟩

theorem present_of_isSome {α : Type} {value : Option α} (h : value.isSome = true) (default : α)
    (raised : Raised) : present value raised = .ok (value.getD default) := by
  obtain ⟨v, rfl⟩ := Option.isSome_iff_exists.mp h
  rfl

/-- **The step**: the body adds the tally of its decision. -/
theorem countDecision_eq (lacking : Lacking) {target : ℤ} {decision : EdgeDecision F}
    (hcomplete : Complete decision) (tally : Tally F) :
    countDecision A lacking decision.slippageBuffer target decision tally =
      .ok (tally.add (tallyOne A (target, decision))) := by
  unfold countDecision tallyOne
  dsimp only
  by_cases hexecutable : decision.executable = false
  · rw [if_pos hexecutable, if_pos hexecutable]
    simp [Tally.add, Tally.seen]
  · rw [if_neg hexecutable, if_neg hexecutable]
    rw [Bool.not_eq_false] at hexecutable
    rw [present_of_isSome (hcomplete.ask hexecutable) A.zero,
      present_of_isSome (hcomplete.rawEdge hexecutable) A.zero,
      present_of_isSome (hcomplete.costAdjustedEdge hexecutable) A.zero]
    simp only [ok_bind]
    by_cases htrade : decision.trade = false
    · rw [if_pos htrade, if_pos htrade]
      simp [Tally.add, Tally.seen, Tally.quoted]
    · rw [if_neg htrade, if_neg htrade]
      simp [Tally.add, Tally.seen, Tally.quoted, Tally.traded]

/-- **The loop** of the aggregate is the tally of its decisions. -/
theorem countPredictions_eq {predictions : List (CalibrationEdgePrediction F)}
    (hcomplete : ∀ prediction ∈ predictions, Complete prediction.edgeDecision) (tally : Tally F) :
    predictions.foldlM (countPrediction A) tally =
      .ok (tally.add (tallyOf A (predictions.map fun p => (p.target, p.edgeDecision)))) := by
  induction predictions generalizing tally with
  | nil => exact congrArg Except.ok (Tally.add_empty tally).symm
  | cons prediction predictions ih =>
    have hfirst := hcomplete prediction List.mem_cons_self
    rw [List.foldlM_cons, countPrediction, countDecision_eq A _ hfirst, ok_bind,
      ih fun other hother => hcomplete other (List.mem_cons_of_mem _ hother), Tally.add_assoc]
    rfl

/-- The targets and the decisions of some rows. -/
def decideRows (config : EdgeConfig F) (minEdge : Option F)
    (entries : List (SupervisedRow F × F)) : Outcome (List (Decided F)) :=
  entries.mapM fun pair => do
    let decision ← edgeDecision A pair.1 pair.2 config minEdge
    pure (pair.1.target, decision)

/-- **The loop** of the evaluation is the tally of its decisions, or raises as one of them does. -/
theorem countRows_eq (config : EdgeConfig F) (minEdge : Option F)
    (entries : List (SupervisedRow F × F)) (tally : Tally F) :
    entries.foldlM (countRow A config minEdge) tally =
      (decideRows A config minEdge entries).map fun decisions =>
        tally.add (tallyOf A decisions) := by
  unfold decideRows
  induction entries generalizing tally with
  | nil => exact congrArg Except.ok (Tally.add_empty tally).symm
  | cons entry entries ih =>
    rw [List.foldlM_cons, List.mapM_cons, countRow]
    cases hdecision : edgeDecision A entry.1 entry.2 config minEdge with
    | error raised => rfl
    | ok decision =>
      obtain ⟨hcomplete, hslippage⟩ := edgeDecision_complete A hdecision
      rw [ok_bind, ← hslippage, countDecision_eq A _ hcomplete, ok_bind, ih]
      simp only [ok_bind]
      cases entries.mapM fun pair => (edgeDecision A pair.1 pair.2 config minEdge >>= fun decision =>
        (pure (pair.1.target, decision) : Outcome (Decided F))) with
      | error raised => rfl
      | ok decisions => exact congrArg Except.ok (Tally.add_assoc tally _ _)

theorem decideRows_complete {config : EdgeConfig F} {minEdge : Option F}
    {entries : List (SupervisedRow F × F)} {decisions : List (Decided F)}
    (h : decideRows A config minEdge entries = .ok decisions) :
    ∀ entry ∈ decisions, Complete entry.2 ∧ entry.2.slippageBuffer = config.slippageBuffer := by
  refine forall_right_of_forall₂ (forall₂_of_mapM h) ?_
  rintro pair entry hentry
  obtain ⟨decision, hdecision, hentry⟩ := bind_eq_ok.mp hentry
  cases hentry
  exact edgeDecision_complete A hdecision

/-- The lists of a tally have one entry for each executable decision, or for each trade. -/
theorem tallyOf_lengths (entries : List (Decided F)) :
    (tallyOf A entries).asks.length = (tallyOf A entries).executable ∧
    (tallyOf A entries).spreads.length =
      entries.countP (fun entry => entry.2.executable && entry.2.spread.isSome) ∧
    (tallyOf A entries).rawEdges.length = (tallyOf A entries).grossPnl.length ∧
    (tallyOf A entries).adjustedEdges.length = (tallyOf A entries).grossPnl.length ∧
    (tallyOf A entries).afterCostPnl.length = (tallyOf A entries).grossPnl.length ∧
    (tallyOf A entries).correct ≤ (tallyOf A entries).grossPnl.length := by
  induction entries with
  | nil => exact ⟨rfl, rfl, rfl, rfl, rfl, le_rfl⟩
  | cons entry entries ih =>
    obtain ⟨hasks, hspreads, hraw, hadjusted, hafter, hcorrect⟩ := ih
    have hcons : tallyOf A (entry :: entries) = (tallyOne A entry).add (tallyOf A entries) := rfl
    have hspread : (tallyOne A entry).spreads.length =
        if (entry.2.executable && entry.2.spread.isSome) = true then 1 else 0 := by
      unfold tallyOne
      cases entry.2.executable <;> cases entry.2.trade <;> cases entry.2.spread <;>
        simp [Tally.seen, Tally.quoted, Tally.traded]
    rw [hcons]
    simp only [Tally.add, List.length_append, List.countP_cons, hspread]
    rw [hasks, hspreads, hraw, hadjusted, hafter]
    unfold tallyOne
    cases entry.2.executable with
    | false => simpa [Tally.seen] using hcorrect
    | true =>
      cases entry.2.trade with
      | false =>
        simp [Tally.seen, Tally.quoted]
        omega
      | true =>
        by_cases hright : entry.1 = entry.2.predictedTarget <;>
          simp [Tally.seen, Tally.quoted, Tally.traded, hright] <;> omega

/-- What the choice of a threshold reads of the metrics. -/
def EdgeMetrics.forChoice (metrics : EdgeMetrics F) : EdgePolicyMetrics F where
  predictionMarkets := metrics.predictionMarkets
  executableMarkets := metrics.executableMarkets
  tradeCount := metrics.tradeCount
  realizedPnlAfterAssumedCosts := metrics.realizedPnlAfterAssumedCosts
  meanRealizedPnlAfterAssumedCosts := metrics.meanRealizedPnlAfterAssumedCosts

theorem tallyOf_trades {config : EdgeConfig F} {decisions : List (Decided F)}
    (h : ∀ entry ∈ decisions, Complete entry.2 ∧ entry.2.slippageBuffer = config.slippageBuffer) :
    (tallyOf A decisions).executable = (decisions.filter fun entry => entry.2.executable).length ∧
    (tallyOf A decisions).afterCostPnl =
      ((decisions.filter fun entry => entry.2.executable).filter fun entry => entry.2.trade).map
        fun entry => assumedCostPnl A config entry.1 entry.2 := by
  induction decisions with
  | nil => exact ⟨rfl, rfl⟩
  | cons entry decisions ih =>
    obtain ⟨hexecutable, hpnl⟩ := ih fun other hother => h other (List.mem_cons_of_mem _ hother)
    have hslippage := (h entry List.mem_cons_self).2
    have hcons : tallyOf A (entry :: decisions) = (tallyOne A entry).add (tallyOf A decisions) := rfl
    rw [hcons]
    simp only [Tally.add, hexecutable, hpnl, List.filter_cons]
    unfold tallyOne
    cases entry.2.executable with
    | false => simp [Tally.seen]
    | true =>
      cases htrade : entry.2.trade with
      | false =>
        simp [Tally.seen, Tally.quoted, htrade]
        omega
      | true =>
        simp [Tally.seen, Tally.quoted, Tally.traded, htrade, assumedCostPnl, hslippage]
        omega

/-- **The evaluation that a choice is made by** computes a part of the metrics. -/
theorem evaluateEdgePolicy_eq (rows : List (SupervisedRow F)) (probabilitiesUp : List F)
    (config : EdgeConfig F) (minEdge : Option F) :
    evaluateEdgePolicy A rows probabilitiesUp config minEdge =
      (edgePolicyMetrics A rows probabilitiesUp config minEdge).map EdgeMetrics.forChoice := by
  have hdecide : ((rows.zip probabilitiesUp).mapM fun pair => do
      let decision ← edgeDecision A pair.1 pair.2 config minEdge
      pure (pair.1.target, decision)) =
        decideRows A config minEdge (rows.zip probabilitiesUp) := rfl
  unfold evaluateEdgePolicy edgePolicyMetrics
  rw [countRows_eq, hdecide]
  cases require (rows ≠ []) .valueError "rows must not be empty" with
  | error raised => rfl
  | ok _ =>
    cases require (rows.length = probabilitiesUp.length) .valueError
        "rows and probabilities must have equal length" with
    | error raised => rfl
    | ok _ =>
      simp only [ok_bind]
      cases hdecided : decideRows A config minEdge (rows.zip probabilitiesUp) with
      | error raised => rfl
      | ok decisions =>
        obtain ⟨hexecutable, hpnl⟩ := tallyOf_trades A (decideRows_complete A hdecided)
        obtain ⟨-, -, -, -, hlength, -⟩ := tallyOf_lengths A decisions
        show Except.ok _ = Except.ok _
        refine congrArg Except.ok ?_
        beta_reduce
        rw [Tally.empty_add]
        unfold EdgeMetrics.forChoice metricsOf perCount
        dsimp only
        rw [← hlength, hexecutable, hpnl]
        simp only [List.length_eq_zero_iff]

/-! ## Folds -/

/-- `_prediction_reports`. -/
def predictionReports (rows : List (SupervisedRow F)) (raw calibrated : List F)
    (config : EdgeConfig F) (minEdge : Option F) : Outcome (List (CalibrationEdgePrediction F)) := do
  require (rows.length = raw.length ∧ rows.length = calibrated.length) .valueError
    "zip() arguments have different lengths"
  (rows.zip (raw.zip calibrated)).mapM (predictionReport A config minEdge)

/-- The rows of a fold at its offset, their probabilities, and the threshold chosen for it. -/
structure EdgeFold (F : Type) where
  rows : List (SupervisedRow F)
  raw : List F
  calibrated : List F
  minEdge : Option F

/-- The fold has been evaluated: its predictions and its metrics. -/
structure EdgeFold.Evaluated (config : EdgeConfig F) (fold : EdgeFold F)
    (predictions : List (CalibrationEdgePrediction F)) (metrics : EdgeMetrics F) : Prop where
  predictions :
    predictionReports A fold.rows fold.raw fold.calibrated config fold.minEdge = .ok predictions
  metrics : edgePolicyMetrics A fold.rows fold.calibrated config fold.minEdge = .ok metrics

end BpEngine.Calibration
