import BpEngine.Calibration.EdgeMetrics
import Mathlib.Tactic.FieldSimp

/-!
# The metrics of all folds

In exact arithmetic `_aggregate_edge_metrics` adds up what `evaluate_edge_policy` says of each fold.

* `IsExact` : the arithmetic is that of a field.
* `EdgeFold.Evaluated.measured` : the metrics of a fold are those of the tally of its predictions.
* `weightedMean` and `AddsUp` say what adding up means, `aggregate_of_folds` that it is done.
-/

namespace BpEngine.Calibration

open BpEngine.Features BpEngine.Prospective

variable {K : Type} [Field K] [CharZero K] (A : Arithmetic K)

/-- Addition, multiplication and division are those of a field. -/
structure IsExact (A : Arithmetic K) : Prop where
  add : ∀ a b, A.add a b = a + b
  mul : ∀ a b, A.mul a b = a * b
  div : ∀ a b, A.div a b = a / b
  ofInt : ∀ n : ℤ, A.ofInt n = n

/-- What the aggregate reads of a decision. -/
def decided (prediction : CalibrationEdgePrediction K) : Decided K :=
  (prediction.target, prediction.edgeDecision)

section Tally

variable {A}

omit [CharZero K] in
theorem total_eq_sum (hexact : IsExact A) (values : List K) : total A values = values.sum := by
  have hfold : ∀ (values : List K) (start : K), values.foldl A.add start = start + values.sum := by
    intro values
    induction values with
    | nil => simp
    | cons value values ih =>
      intro start
      rw [List.foldl_cons, ih, hexact.add, List.sum_cons, add_assoc]
  have hzero : A.zero = 0 := by
    show A.ofInt 0 = 0
    rw [hexact.ofInt, Int.cast_zero]
  rw [total, hfold, hzero, zero_add]

variable (A)

omit [CharZero K] [Field K] in
/-- What adds up over two tallies adds up over the parts of a list. -/
theorem sum_tallyOf {M : Type} [AddMonoid M] (part : Tally K → M) (hempty : part {} = 0)
    (hadd : ∀ a b : Tally K, part (a.add b) = part a + part b) (lists : List (List (Decided K))) :
    part (tallyOf A lists.flatten) = (lists.map fun entries => part (tallyOf A entries)).sum := by
  induction lists with
  | nil => exact hempty
  | cons entries lists ih =>
    rw [List.flatten_cons, tallyOf_append, hadd, ih, List.map_cons, List.sum_cons]

omit [CharZero K] [Field K] in
/-- Decisions of one slippage buffer. -/
theorem tallyOf_slippage {slippage : K} {entries : List (Decided K)}
    (h : ∀ entry ∈ entries, entry.2.slippageBuffer = slippage) :
    (tallyOf A entries).slippage =
      List.replicate (tallyOf A entries).grossPnl.length slippage := by
  induction entries with
  | nil => rfl
  | cons entry entries ih =>
    have hrest := ih fun other hother => h other (List.mem_cons_of_mem _ hother)
    have hcons : tallyOf A (entry :: entries) = (tallyOne A entry).add (tallyOf A entries) := rfl
    have hfirst := h entry List.mem_cons_self
    rw [hcons]
    simp only [Tally.add, List.length_append]
    rw [hrest, List.replicate_add]
    congr 1
    unfold tallyOne
    cases entry.2.executable <;> cases entry.2.trade <;>
      simp [Tally.seen, Tally.quoted, Tally.traded, hfirst]

end Tally

/-! ## One fold -/

section Fold

variable {A} {config : EdgeConfig K}

omit [CharZero K] [Field K] in
/-- The decisions about the rows of a fold are those of its predictions. -/
theorem decideRows_of_reports {rows : List (SupervisedRow K)} {raw calibrated : List K}
    {minEdge : Option K} {predictions : List (CalibrationEdgePrediction K)}
    (hraw : rows.length = raw.length) (hcalibrated : rows.length = calibrated.length)
    (h : (rows.zip (raw.zip calibrated)).mapM (predictionReport A config minEdge) =
      .ok predictions) :
    predictions.length = rows.length ∧
      decideRows A config minEdge (rows.zip calibrated) = .ok (predictions.map decided) := by
  induction rows generalizing raw calibrated predictions with
  | nil =>
    cases h
    exact ⟨rfl, rfl⟩
  | cons row rows ih =>
    obtain _ | ⟨first, raw⟩ := raw
    · cases hraw
    obtain _ | ⟨probability, calibrated⟩ := calibrated
    · cases hcalibrated
    simp only [List.zip_cons_cons, List.mapM_cons] at h
    obtain ⟨prediction, hprediction, h⟩ := bind_eq_ok.mp h
    obtain ⟨others, hothers, h⟩ := bind_eq_ok.mp h
    cases h
    obtain ⟨decision, hdecision, hprediction⟩ := bind_eq_ok.mp hprediction
    cases hprediction
    obtain ⟨hlength, hdecided⟩ := ih (Nat.succ.inj hraw) (Nat.succ.inj hcalibrated) hothers
    refine ⟨congrArg Nat.succ hlength, ?_⟩
    unfold decideRows at hdecided ⊢
    rw [List.zip_cons_cons, List.mapM_cons, hdecision, ok_bind, hdecided]
    rfl

/-- The metrics of a fold, by the tally of its predictions. -/
structure Measured (A : Arithmetic K) (config : EdgeConfig K)
    (predictions : List (CalibrationEdgePrediction K)) (metrics : EdgeMetrics K) : Prop where
  nonempty : predictions ≠ []
  each : ∀ prediction ∈ predictions, Complete prediction.edgeDecision ∧
    prediction.edgeDecision.slippageBuffer = config.slippageBuffer
  metrics : metrics =
    let tally := tallyOf A (predictions.map decided)
    let tradeCount := A.ofInt tally.grossPnl.length
    metricsOf A tally predictions.length (A.div tradeCount (A.ofInt predictions.length))
      (A.mul config.slippageBuffer tradeCount)

omit [CharZero K] [Field K] in
theorem EdgeFold.Evaluated.measured {fold : EdgeFold K}
    {predictions : List (CalibrationEdgePrediction K)} {metrics : EdgeMetrics K}
    (h : fold.Evaluated A config predictions metrics) : Measured A config predictions metrics := by
  have hpredictions := h.predictions
  unfold predictionReports at hpredictions
  obtain ⟨_, hlengths, hpredictions⟩ := bind_eq_ok.mp hpredictions
  rw [require_eq_ok] at hlengths
  obtain ⟨hlength, hdecided⟩ := decideRows_of_reports hlengths.1 hlengths.2 hpredictions
  have hmetrics := h.metrics
  unfold edgePolicyMetrics at hmetrics
  obtain ⟨_, hnonempty, hmetrics⟩ := bind_eq_ok.mp hmetrics
  rw [require_eq_ok] at hnonempty
  obtain ⟨_, -, hmetrics⟩ := bind_eq_ok.mp hmetrics
  rw [countRows_eq, hdecided] at hmetrics
  change Except.ok _ = _ at hmetrics
  beta_reduce at hmetrics
  rw [Tally.empty_add] at hmetrics
  refine ⟨fun hempty => ?_, fun prediction hin => ?_, ?_⟩
  · rw [hempty, List.length_nil] at hlength
    exact hnonempty (List.length_eq_zero_iff.mp hlength.symm)
  · exact decideRows_complete A hdecided _ (List.mem_map_of_mem hin)
  · rw [hlength]
    exact (Except.ok.inj hmetrics).symm

end Fold

/-! ## All folds -/

/-- The predictions of a fold and its metrics. -/
abbrev FoldResult (K : Type) := List (CalibrationEdgePrediction K) × EdgeMetrics K

/-- The executable markets whose spread is known. -/
def spreadCount (predictions : List (CalibrationEdgePrediction K)) : ℕ :=
  predictions.countP fun prediction =>
    prediction.edgeDecision.executable && prediction.edgeDecision.spread.isSome

/-- The mean of some means, each with the number of values it is the mean of. -/
def weightedMean (parts : List (ℕ × Option K)) : Option K :=
  if (parts.map (·.1)).sum = 0 then none
  else some ((parts.map fun part => (part.1 : K) * part.2.getD 0).sum / ((parts.map (·.1)).sum : ℕ))

/-- `reason_counts.get(reason, 0)`. -/
def EdgeMetrics.reasonCount (metrics : EdgeMetrics K) (reason : String) : ℕ :=
  (metrics.reasonCounts.lookup reason).getD 0

/-- Every count is the sum of those of the folds. -/
structure CountsAddUp (results : List (FoldResult K)) (whole : EdgeMetrics K) : Prop where
  predictionMarkets : whole.predictionMarkets = (results.map (·.2.predictionMarkets)).sum
  marketProbabilityObservedMarkets : whole.marketProbabilityObservedMarkets =
    (results.map (·.2.marketProbabilityObservedMarkets)).sum
  executableMarkets : whole.executableMarkets = (results.map (·.2.executableMarkets)).sum
  tradeCount : whole.tradeCount = (results.map (·.2.tradeCount)).sum
  noFillMarkets : whole.noFillMarkets = (results.map (·.2.noFillMarkets)).sum
  abstainedEdgeMarkets : whole.abstainedEdgeMarkets = (results.map (·.2.abstainedEdgeMarkets)).sum
  reasonCounts : ∀ reason,
    whole.reasonCount reason = (results.map (·.2.reasonCount reason)).sum
  correctTrades : whole.correctTrades = (results.map (·.2.correctTrades)).sum

/-- Every sum is the sum of those of the folds. -/
structure SumsAddUp (results : List (FoldResult K)) (whole : EdgeMetrics K) : Prop where
  rawExpectedEdgeSum : whole.rawExpectedEdgeSum = (results.map (·.2.rawExpectedEdgeSum)).sum
  feeSum : whole.feeSum = (results.map (·.2.feeSum)).sum
  slippageSum : whole.slippageSum = (results.map (·.2.slippageSum)).sum
  costAdjustedExpectedEdgeSum : whole.costAdjustedExpectedEdgeSum =
    (results.map (·.2.costAdjustedExpectedEdgeSum)).sum
  grossRealizedPnlBeforeCosts : whole.grossRealizedPnlBeforeCosts =
    (results.map (·.2.grossRealizedPnlBeforeCosts)).sum
  realizedPnlAfterAssumedCosts : whole.realizedPnlAfterAssumedCosts =
    (results.map (·.2.realizedPnlAfterAssumedCosts)).sum

/-- Every mean is the mean of those of the folds, each with the number of values it is a mean of. -/
structure MeansWeighted (results : List (FoldResult K)) (whole : EdgeMetrics K) : Prop where
  tradeCoverage : whole.tradeCoverage = (weightedMean
    (results.map fun result => (result.2.predictionMarkets, some result.2.tradeCoverage))).getD 0
  averageObservedAsk : whole.averageObservedAsk = weightedMean
    (results.map fun result => (result.2.executableMarkets, result.2.averageObservedAsk))
  averageObservedSpread : whole.averageObservedSpread = weightedMean
    (results.map fun result => (spreadCount result.1, result.2.averageObservedSpread))
  tradedAccuracy : whole.tradedAccuracy = weightedMean
    (results.map fun result => (result.2.tradeCount, result.2.tradedAccuracy))
  meanRawExpectedEdge : whole.meanRawExpectedEdge = weightedMean
    (results.map fun result => (result.2.tradeCount, result.2.meanRawExpectedEdge))
  meanCostAdjustedExpectedEdge : whole.meanCostAdjustedExpectedEdge = weightedMean
    (results.map fun result => (result.2.tradeCount, result.2.meanCostAdjustedExpectedEdge))
  meanRealizedPnlAfterAssumedCosts : whole.meanRealizedPnlAfterAssumedCosts = weightedMean
    (results.map fun result => (result.2.tradeCount, result.2.meanRealizedPnlAfterAssumedCosts))

/-- The metrics of the folds, added up. -/
structure AddsUp (results : List (FoldResult K)) (whole : EdgeMetrics K) : Prop where
  counts : CountsAddUp results whole
  sums : SumsAddUp results whole
  means : MeansWeighted results whole

section Folds

variable {A} {config : EdgeConfig K} {results : List (FoldResult K)}

theorem lookup_reasonCounts (reasons : List String) (reason : String) :
    ((reasonCounts reasons).lookup reason).getD 0 = reasons.count reason := by
  unfold reasonCounts
  by_cases hin : reason ∈ reasons
  · have hsorted : reason ∈ reasons.dedup.insertionSort (· ≤ ·) := by
      rw [List.mem_insertionSort, List.mem_dedup]
      exact hin
    rw [List.lookup_graph _ hsorted, Option.getD_some]
  · have hnone : ((reasons.dedup.insertionSort (· ≤ ·)).map
        fun reason => (reason, reasons.count reason)).lookup reason = none := by
      rw [List.lookup_eq_none_iff]
      rintro entry hentry
      obtain ⟨other, hother, rfl⟩ := List.mem_map.mp hentry
      rw [List.mem_insertionSort, List.mem_dedup] at hother
      have hne : reason ≠ other := fun heq => hin (heq ▸ hother)
      simpa using hne
    rw [hnone, Option.getD_none, List.count_eq_zero.mpr hin]

/-- **A quotient of sums** is the weighted mean of the quotients. -/
theorem perCount_sum (hexact : IsExact A) {ι : Type} (parts : List ι) (value : ι → K)
    (count : ι → ℕ) (hzero : ∀ part ∈ parts, count part = 0 → value part = 0) :
    perCount A (parts.map value).sum (parts.map count).sum =
      weightedMean (parts.map fun part => (count part, perCount A (value part) (count part))) := by
  unfold weightedMean
  have hcounts : (parts.map fun part => (count part, perCount A (value part) (count part))).map
      (·.1) = parts.map count := by
    rw [List.map_map]
    rfl
  have hvalues : ((parts.map fun part => (count part, perCount A (value part) (count part))).map
      fun part => (part.1 : K) * part.2.getD 0) = parts.map value := by
    rw [List.map_map]
    refine List.map_congr_left fun part hpart => ?_
    show (count part : K) * (perCount A (value part) (count part)).getD 0 = value part
    unfold perCount
    by_cases hnone : count part = 0
    · rw [if_pos hnone, hzero part hpart hnone, Option.getD_none, mul_zero]
    · have hcast : (count part : K) ≠ 0 := Nat.cast_ne_zero.mpr hnone
      rw [if_neg hnone, Option.getD_some, hexact.div, hexact.ofInt, Int.cast_natCast]
      exact mul_div_cancel₀ _ hcast
  rw [hcounts, hvalues]
  unfold perCount
  by_cases hnone : (parts.map count).sum = 0
  · rw [if_pos hnone, if_pos hnone]
  · rw [if_neg hnone, if_neg hnone, hexact.div, hexact.ofInt, Int.cast_natCast]

omit [CharZero K] [Field K] in
/-- What adds up over tallies, and is a field of the metrics, adds up over the folds. -/
theorem sum_measured {M : Type} [AddMonoid M] (part : Tally K → M) (hempty : part {} = 0)
    (hadd : ∀ a b : Tally K, part (a.add b) = part a + part b) (field : FoldResult K → M)
    (hfield : ∀ result ∈ results, part (tallyOf A (result.1.map decided)) = field result) :
    part (tallyOf A ((results.flatMap (·.1)).map decided)) = (results.map field).sum := by
  have hlists : (results.flatMap (·.1)).map decided =
      (results.map fun result => result.1.map decided).flatten := by
    rw [List.map_flatMap]
    rfl
  rw [hlists, sum_tallyOf A part hempty hadd, List.map_map]
  exact congrArg List.sum (List.map_congr_left hfield)

/-- A mean over tallies, that is a field of the metrics, is the weighted mean over the folds. -/
theorem mean_measured (hexact : IsExact A) (value : Tally K → K) (count : Tally K → ℕ)
    (hvalue : value {} = 0 ∧ ∀ a b : Tally K, value (a.add b) = value a + value b)
    (hcount : count {} = 0 ∧ ∀ a b : Tally K, count (a.add b) = count a + count b)
    (hzero : ∀ entries, count (tallyOf A entries) = 0 → value (tallyOf A entries) = 0)
    (field : FoldResult K → ℕ × Option K)
    (hfield : ∀ result ∈ results, field result =
      (count (tallyOf A (result.1.map decided)),
        perCount A (value (tallyOf A (result.1.map decided)))
          (count (tallyOf A (result.1.map decided))))) :
    perCount A (value (tallyOf A ((results.flatMap (·.1)).map decided)))
        (count (tallyOf A ((results.flatMap (·.1)).map decided))) =
      weightedMean (results.map field) := by
  rw [sum_measured value hvalue.1 hvalue.2 (fun result => value (tallyOf A (result.1.map decided)))
      fun _ _ => rfl,
    sum_measured count hcount.1 hcount.2 (fun result => count (tallyOf A (result.1.map decided)))
      fun _ _ => rfl,
    perCount_sum hexact _ _ _ fun result _ => hzero _]
  exact congrArg weightedMean (List.map_congr_left fun result hresult => (hfield result hresult).symm)

/-- A difference of sums is the sum of the differences. -/
theorem sum_sub_sum {ι : Type} (parts : List ι) (a b : ι → ℕ) :
    ((parts.map a).sum : ℤ) - ((parts.map b).sum : ℕ) =
      (parts.map fun part => (a part : ℤ) - b part).sum := by
  induction parts with
  | nil => rfl
  | cons part parts ih =>
    simp only [List.map_cons, List.sum_cons]
    rw [← ih]
    push_cast
    ring

/-- The tally of the predictions of all folds. -/
def tallyAll (A : Arithmetic K) (results : List (FoldResult K)) : Tally K :=
  tallyOf A ((results.flatMap (·.1)).map decided)

/-- The metrics of all folds. -/
def metricsAll (A : Arithmetic K) (results : List (FoldResult K)) : EdgeMetrics K :=
  let markets := (results.flatMap (·.1)).length
  metricsOf A (tallyAll A results) markets
    (if markets = 0 then A.zero
      else A.div (A.ofInt (tallyAll A results).grossPnl.length) (A.ofInt markets))
    (total A (tallyAll A results).slippage)

/-- The folds have been measured. -/
def MeasuredAll (A : Arithmetic K) (config : EdgeConfig K) (results : List (FoldResult K)) : Prop :=
  ∀ result ∈ results, Measured A config result.1 result.2

omit [CharZero K] [Field K] in
/-- A field of the metrics of a fold, read off its tally. -/
theorem MeasuredAll.field (hmeasured : MeasuredAll A config results) {result : FoldResult K}
    (hresult : result ∈ results) {M : Type} (field : EdgeMetrics K → M) :
    field result.2 = field (metricsOf A (tallyOf A (result.1.map decided)) result.1.length
      (A.div (A.ofInt (tallyOf A (result.1.map decided)).grossPnl.length)
        (A.ofInt result.1.length))
      (A.mul config.slippageBuffer
        (A.ofInt (tallyOf A (result.1.map decided)).grossPnl.length))) :=
  congrArg field (hmeasured result hresult).metrics

omit [CharZero K] [Field K] in
/-- The aggregate returns the metrics of all folds. -/
theorem aggregate_eq (hmeasured : MeasuredAll A config results) :
    aggregateEdgeMetrics A (results.flatMap (·.1)) = .ok (metricsAll A results) := by
  have hcomplete : ∀ prediction ∈ results.flatMap (·.1), Complete prediction.edgeDecision := by
    intro prediction hin
    obtain ⟨result, hresult, hin⟩ := List.mem_flatMap.mp hin
    exact ((hmeasured result hresult).each prediction hin).1
  unfold aggregateEdgeMetrics
  rw [countPredictions_eq A hcomplete, ok_bind, Tally.empty_add]
  rfl

omit [CharZero K] [Field K] in
theorem countsAddUp (hmeasured : MeasuredAll A config results) :
    CountsAddUp results (metricsAll A results) := by
  have hmarkets : (results.flatMap (·.1)).length = (results.map (·.2.predictionMarkets)).sum := by
    rw [List.length_flatMap]
    exact congrArg List.sum (List.map_congr_left fun result hresult =>
      (hmeasured.field hresult (·.predictionMarkets)).symm)
  have hexecutable : (tallyAll A results).executable =
      (results.map (·.2.executableMarkets)).sum :=
    sum_measured (·.executable) rfl (fun _ _ => rfl) _ fun result hresult =>
      (hmeasured.field hresult (·.executableMarkets)).symm
  have htrades : (tallyAll A results).grossPnl.length = (results.map (·.2.tradeCount)).sum :=
    sum_measured (·.grossPnl.length) rfl (fun _ _ => List.length_append) _
      fun result hresult => (hmeasured.field hresult (·.tradeCount)).symm
  constructor
  · exact hmarkets
  · exact sum_measured (·.observed) rfl (fun _ _ => rfl) _ fun result hresult =>
      (hmeasured.field hresult (·.marketProbabilityObservedMarkets)).symm
  · exact hexecutable
  · exact htrades
  · show ((results.flatMap (·.1)).length : ℤ) - (tallyAll A results).executable = _
    rw [hmarkets, hexecutable, sum_sub_sum]
    refine congrArg List.sum (List.map_congr_left fun result hresult => ?_)
    rw [hmeasured.field hresult (·.noFillMarkets), hmeasured.field hresult (·.predictionMarkets),
      hmeasured.field hresult (·.executableMarkets)]
    rfl
  · show ((tallyAll A results).executable : ℤ) - ((tallyAll A results).grossPnl.length : ℕ) = _
    rw [hexecutable, htrades, sum_sub_sum]
    refine congrArg List.sum (List.map_congr_left fun result hresult => ?_)
    rw [hmeasured.field hresult (·.abstainedEdgeMarkets), hmeasured.field hresult (·.tradeCount),
      hmeasured.field hresult (·.executableMarkets)]
    rfl
  · intro reason
    show ((reasonCounts (tallyAll A results).reasons).lookup reason).getD 0 = _
    rw [lookup_reasonCounts]
    refine sum_measured (·.reasons.count reason) rfl (fun _ _ => List.count_append) _
      fun result hresult => ?_
    rw [hmeasured.field hresult (·.reasonCount reason)]
    exact (lookup_reasonCounts _ _).symm
  · exact sum_measured (·.correct) rfl (fun _ _ => rfl) _ fun result hresult =>
      (hmeasured.field hresult (·.correctTrades)).symm

omit [CharZero K] in
/-- A field that is the sum of one of the lists of a tally. -/
theorem sum_field (hexact : IsExact A) (hmeasured : MeasuredAll A config results)
    (part : Tally K → List K) (field : EdgeMetrics K → K) (hempty : part {} = [])
    (hadd : ∀ a b : Tally K, part (a.add b) = part a ++ part b)
    (hfield : ∀ tally markets coverage slippage,
      field (metricsOf A tally markets coverage slippage) = total A (part tally)) :
    total A (part (tallyAll A results)) = (results.map fun result => field result.2).sum := by
  rw [total_eq_sum hexact]
  refine sum_measured (fun tally => (part tally).sum) ?_ (fun a b => ?_) _ fun result hresult => ?_
  · rw [hempty, List.sum_nil]
  · rw [hadd, List.sum_append]
  · rw [hmeasured.field hresult field, hfield, total_eq_sum hexact]

omit [CharZero K] in
theorem sumsAddUp (hexact : IsExact A) (hmeasured : MeasuredAll A config results) :
    SumsAddUp results (metricsAll A results) := by
  have hslippage : (tallyAll A results).slippage.sum = (results.map (·.2.slippageSum)).sum := by
    refine sum_measured (fun tally => tally.slippage.sum) rfl (fun a b => List.sum_append) _
      fun result hresult => ?_
    have hbuffers : ∀ entry ∈ result.1.map decided,
        entry.2.slippageBuffer = config.slippageBuffer := by
      rintro entry hentry
      obtain ⟨prediction, hin, rfl⟩ := List.mem_map.mp hentry
      exact ((hmeasured result hresult).each prediction hin).2
    rw [hmeasured.field hresult (·.slippageSum), tallyOf_slippage A hbuffers, List.sum_replicate,
      nsmul_eq_mul, mul_comm]
    show _ = A.mul config.slippageBuffer (A.ofInt _)
    rw [hexact.mul, hexact.ofInt, Int.cast_natCast]
  constructor
  · exact sum_field hexact hmeasured (·.rawEdges) _ rfl (fun _ _ => rfl) fun _ _ _ _ => rfl
  · exact sum_field hexact hmeasured (·.fees) _ rfl (fun _ _ => rfl) fun _ _ _ _ => rfl
  · show total A (tallyAll A results).slippage = _
    rw [total_eq_sum hexact, hslippage]
  · exact sum_field hexact hmeasured (·.adjustedEdges) _ rfl (fun _ _ => rfl) fun _ _ _ _ => rfl
  · exact sum_field hexact hmeasured (·.grossPnl) _ rfl (fun _ _ => rfl) fun _ _ _ _ => rfl
  · exact sum_field hexact hmeasured (·.afterCostPnl) _ rfl (fun _ _ => rfl) fun _ _ _ _ => rfl

/-- A field that is the mean of one of the lists of a tally. -/
theorem mean_field (hexact : IsExact A) (part : Tally K → List K) (field : FoldResult K → ℕ × Option K)
    (hempty : part {} = []) (hadd : ∀ a b : Tally K, part (a.add b) = part a ++ part b)
    (hfield : ∀ result ∈ results, field result =
      ((part (tallyOf A (result.1.map decided))).length,
        perCount A (total A (part (tallyOf A (result.1.map decided))))
          (part (tallyOf A (result.1.map decided))).length)) :
    perCount A (total A (part (tallyAll A results))) (part (tallyAll A results)).length =
      weightedMean (results.map field) := by
  rw [total_eq_sum hexact]
  refine mean_measured hexact (fun tally => (part tally).sum) (fun tally => (part tally).length)
    ⟨?_, fun a b => ?_⟩ ⟨?_, fun a b => ?_⟩ (fun entries hnone => ?_) field fun result hresult => ?_
  · rw [hempty, List.sum_nil]
  · rw [hadd, List.sum_append]
  · rw [hempty, List.length_nil]
  · rw [hadd, List.length_append]
  · rw [List.length_eq_zero_iff.mp hnone, List.sum_nil]
  · rw [hfield result hresult, total_eq_sum hexact]

/-- The coverage is the mean of those of the folds, each with its markets. -/
theorem tradeCoverage_weighted (hexact : IsExact A) (hmeasured : MeasuredAll A config results) :
    (metricsAll A results).tradeCoverage = (weightedMean
      (results.map fun result => (result.2.predictionMarkets, some result.2.tradeCoverage))).getD 0 := by
  have hcounts := countsAddUp hmeasured
  have hquotient : (metricsAll A results).tradeCoverage =
      (perCount A (A.ofInt (metricsAll A results).tradeCount)
        (metricsAll A results).predictionMarkets).getD 0 := by
    show (if _ = 0 then A.zero else _) = _
    unfold perCount
    by_cases hnone : (results.flatMap (·.1)).length = 0
    · rw [if_pos hnone]
      show A.ofInt 0 = (if (results.flatMap (·.1)).length = 0 then none else some _).getD 0
      rw [if_pos hnone, hexact.ofInt, Int.cast_zero]
      rfl
    · rw [if_neg hnone]
      show _ = (if (results.flatMap (·.1)).length = 0 then none else some _).getD 0
      rw [if_neg hnone]
      rfl
  have htrades : (((results.map (·.2.tradeCount)).sum : ℕ) : K) =
      (results.map fun result => (result.2.tradeCount : K)).sum := by
    rw [Nat.cast_list_sum, List.map_map]
    rfl
  rw [hquotient, hcounts.predictionMarkets, hcounts.tradeCount, hexact.ofInt, Int.cast_natCast,
    htrades, perCount_sum hexact results (fun result => (result.2.tradeCount : K))
      (·.2.predictionMarkets)]
  · congr 2
    refine List.map_congr_left fun result hresult => Prod.ext rfl ?_
    show perCount A _ _ = _
    have hsome : result.2.predictionMarkets ≠ 0 := by
      rw [hmeasured.field hresult (·.predictionMarkets)]
      exact fun hnone => (hmeasured result hresult).nonempty (List.length_eq_zero_iff.mp hnone)
    rw [perCount, if_neg hsome, hmeasured.field hresult (·.tradeCoverage), ← Int.cast_natCast,
      ← hexact.ofInt, hmeasured.field hresult (·.tradeCount),
      hmeasured.field hresult (·.predictionMarkets)]
    rfl
  · intro result hresult hnone
    rw [hmeasured.field hresult (·.predictionMarkets)] at hnone
    exact absurd (List.length_eq_zero_iff.mp hnone) (hmeasured result hresult).nonempty

theorem meansWeighted (hexact : IsExact A) (hmeasured : MeasuredAll A config results) :
    MeansWeighted results (metricsAll A results) := by
  have hlengths := tallyOf_lengths A
  -- a mean over the trades
  have htraded : ∀ (part : Tally K → List K) (field : EdgeMetrics K → Option K), part {} = [] →
      (∀ a b : Tally K, part (a.add b) = part a ++ part b) →
      (∀ entries : List (Decided K),
        (part (tallyOf A entries)).length = (tallyOf A entries).grossPnl.length) →
      (∀ tally markets coverage slippage, field (metricsOf A tally markets coverage slippage) =
        perCount A (total A (part tally)) tally.grossPnl.length) →
      perCount A (total A (part (tallyAll A results))) (tallyAll A results).grossPnl.length =
        weightedMean (results.map fun result => (result.2.tradeCount, field result.2)) := by
    intro part field hempty hadd hlength hfield
    have hmean : perCount A (total A (part (tallyAll A results))) (part (tallyAll A results)).length =
        weightedMean (results.map fun result => (result.2.tradeCount, field result.2)) := by
      refine mean_field hexact part _ hempty hadd fun result hresult => ?_
      rw [hmeasured.field hresult (·.tradeCount), hmeasured.field hresult field, hfield, hlength]
      rfl
    rw [← hmean, tallyAll, hlength]
  constructor
  · exact tradeCoverage_weighted hexact hmeasured
  · refine mean_field hexact (·.asks) _ rfl (fun _ _ => rfl) fun result hresult => ?_
    rw [hmeasured.field hresult (·.executableMarkets), hmeasured.field hresult (·.averageObservedAsk)]
    exact Prod.ext (hlengths _).1.symm rfl
  · refine mean_field hexact (·.spreads) _ rfl (fun _ _ => rfl) fun result hresult => ?_
    rw [hmeasured.field hresult (·.averageObservedSpread), (hlengths _).2.1, List.countP_map]
    refine Prod.ext rfl ?_
    show perCount A _ _ = perCount A _ _
    rw [(hlengths _).2.1, List.countP_map]
  · show perCount A (A.ofInt (tallyAll A results).correct) (tallyAll A results).grossPnl.length = _
    rw [hexact.ofInt]
    refine mean_measured hexact (fun tally => ((tally.correct : ℤ) : K)) (·.grossPnl.length)
      ⟨by simp, fun a b => by simp [Tally.add]⟩ ⟨rfl, fun _ _ => List.length_append⟩
      (fun entries hnone => ?_) _ fun result hresult => ?_
    · have hcorrect : (tallyOf A entries).correct = 0 := by
        have hle := (hlengths entries).2.2.2.2.2
        omega
      rw [hcorrect]
      simp
    · rw [hmeasured.field hresult (·.tradeCount), hmeasured.field hresult (·.tradedAccuracy)]
      refine Prod.ext rfl ?_
      show perCount A (A.ofInt _) _ = _
      rw [hexact.ofInt]
  · exact htraded (·.rawEdges) _ rfl (fun _ _ => rfl) (fun entries => (hlengths entries).2.2.1)
      fun _ _ _ _ => rfl
  · exact htraded (·.adjustedEdges) _ rfl (fun _ _ => rfl)
      (fun entries => (hlengths entries).2.2.2.1) fun _ _ _ _ => rfl
  · exact htraded (·.afterCostPnl) _ rfl (fun _ _ => rfl)
      (fun entries => (hlengths entries).2.2.2.2.1) fun _ _ _ _ => rfl

omit [CharZero K] in
/-- A single fold: what is aggregated is what the fold was measured to be. -/
theorem metricsAll_single (hexact : IsExact A) {result : FoldResult K}
    (hmeasured : MeasuredAll A config [result]) : metricsAll A [result] = result.2 := by
  have hresult := hmeasured result List.mem_cons_self
  have hslippage := (sumsAddUp hexact hmeasured).slippageSum
  have hpredictions : [result].flatMap (·.1) = result.1 := List.append_nil result.1
  have hsome : result.1.length ≠ 0 :=
    fun hnone => hresult.nonempty (List.length_eq_zero_iff.mp hnone)
  have htally : tallyAll A [result] = tallyOf A (result.1.map decided) := by
    rw [tallyAll, hpredictions]
  have hsum : total A (tallyOf A (result.1.map decided)).slippage =
      A.mul config.slippageBuffer
        (A.ofInt (tallyOf A (result.1.map decided)).grossPnl.length) := by
    have hleft : (metricsAll A [result]).slippageSum = _ := hslippage
    rw [List.map_singleton, List.sum_singleton, hmeasured.field List.mem_cons_self (·.slippageSum)]
      at hleft
    rw [← htally]
    refine hleft.trans ?_
    rw [htally]
    rfl
  unfold metricsAll
  dsimp only
  rw [htally, hpredictions, if_neg hsome, hsum]
  exact hresult.metrics.symm

/-- **The metrics of all folds** are those of the folds, added up; those of one fold are its own. -/
theorem aggregate_of_folds (hexact : IsExact A) {folds : List (EdgeFold K)}
    (hfolds : List.Forall₂ (fun fold result => EdgeFold.Evaluated A config fold result.1 result.2)
      folds results) :
    ∃ whole, aggregateEdgeMetrics A (results.flatMap (·.1)) = .ok whole ∧ AddsUp results whole ∧
      ∀ result, results = [result] → whole = result.2 := by
  have hmeasured : MeasuredAll A config results :=
    forall_right_of_forall₂ hfolds fun _ _ hevaluated => hevaluated.measured
  refine ⟨metricsAll A results, aggregate_eq hmeasured,
    ⟨countsAddUp hmeasured, sumsAddUp hexact hmeasured, meansWeighted hexact hmeasured⟩, ?_⟩
  rintro result rfl
  exact metricsAll_single hexact hmeasured

end Folds

/-! ### A sample -/

/-- Exact rationals. -/
def sampleArithmetic : Arithmetic ℚ where
  ofDecimal value := value.toRat
  ofInt value := value
  totalSeconds value := value
  isFinite _ := true
  isPositive value := decide (0 < value)
  isNegative value := decide (value < 0)
  add := (· + ·)
  sub := (· - ·)
  div := (· / ·)
  log _ := none
  pstdev _ := 0
  digest _ := ""
  mul := (· * ·)
  neg value := -value
  exp _ := 1
  lt a b := decide (a < b)
  le a b := decide (a ≤ b)
  same a b := decide (a = b)
  trunc _ := 0

/-- A market whose Up side can be bought for an ask. -/
def sampleRow (conditionId : String) (target : ℤ) (ask : ℚ) : SupervisedRow ℚ where
  conditionId := conditionId
  slug := conditionId
  horizonSeconds := 300
  marketStartAt := 0
  marketEndAt := 300000000
  featureAt := 60000000
  featureOffsetSeconds := 60
  predictors := [("pm_up_price", some ask), ("missing__pm_up_book_missing", some 0),
    ("missing__pm_up_book_stale", some 0), ("pm_up_best_ask", some ask),
    ("pm_up_best_bid", some (ask - 1 / 10))]
  target := target
  featureHash := ""
  inputFingerprint := ""

def sampleConfig : EdgeConfig ℚ := ⟨7 / 100, 1 / 100, [0], 1, none⟩

def sampleFolds : List (EdgeFold ℚ) :=
  [⟨[sampleRow "a" 1 (1 / 2), sampleRow "b" 0 (3 / 5)], [4 / 5, 7 / 10], [4 / 5, 7 / 10], some 0⟩,
    ⟨[sampleRow "c" 1 (1 / 2)], [3 / 5], [3 / 5], some (1 / 2)⟩]

theorem isExact_sampleArithmetic : IsExact sampleArithmetic :=
  ⟨fun _ _ => rfl, fun _ _ => rfl, fun _ _ => rfl, fun _ => rfl⟩

theorem evaluated_sample : ∀ fold ∈ sampleFolds, ∃ predictions metrics,
    fold.Evaluated sampleArithmetic sampleConfig predictions metrics := by
  intro fold hfold
  have hreports : ∀ fold ∈ sampleFolds, (predictionReports sampleArithmetic fold.rows fold.raw
      fold.calibrated sampleConfig fold.minEdge).isOk = true := by decide +kernel
  have hmetrics : ∀ fold ∈ sampleFolds, (edgePolicyMetrics sampleArithmetic fold.rows
      fold.calibrated sampleConfig fold.minEdge).isOk = true := by decide +kernel
  obtain ⟨predictions, hpredictions⟩ := exists_ok_of_isOk (hreports fold hfold)
  obtain ⟨metrics, hmetric⟩ := exists_ok_of_isOk (hmetrics fold hfold)
  exact ⟨predictions, metrics, hpredictions, hmetric⟩

theorem aggregate_of_folds_sample : ∃ (results : List (FoldResult ℚ)) (whole : EdgeMetrics ℚ),
    results.length = 2 ∧
      aggregateEdgeMetrics sampleArithmetic (results.flatMap (·.1)) = .ok whole ∧
      AddsUp results whole := by
  obtain ⟨first, firstMetrics, hfirst⟩ := evaluated_sample _ (List.mem_cons_self)
  obtain ⟨second, secondMetrics, hsecond⟩ :=
    evaluated_sample _ (List.mem_cons_of_mem _ List.mem_cons_self)
  have hfolds : List.Forall₂ (fun fold (result : FoldResult ℚ) =>
      EdgeFold.Evaluated sampleArithmetic sampleConfig fold result.1 result.2) sampleFolds
      [(first, firstMetrics), (second, secondMetrics)] :=
    List.Forall₂.cons hfirst (List.Forall₂.cons hsecond List.Forall₂.nil)
  obtain ⟨whole, hwhole, hadds, -⟩ := aggregate_of_folds isExact_sampleArithmetic hfolds
  exact ⟨_, whole, rfl, hwhole, hadds⟩

end BpEngine.Calibration
