import BpEngine.Prospective.Exact
import BpEngine.Prospective.Predictor
import BpEngine.Prospective.SamePredictors

/-!
# Training and serving agree

The calibration evaluation and the live prediction compute the same of a market they observe alike,
when the arithmetic is exact.

* `evaluated_of_mem` says what the evaluation computes for a row, `decides_of_build` what a live
  prediction is computed from.
* `prior_eq` : the weighted prior of the training rows is the prior of the loaded policy.
* `trainServe_agree` is the agreement.
-/

namespace BpEngine.Prospective

open BpEngine.Calibration BpEngine.Features BpEngine.PaperLedger

theorem getElem?_of_mapM {α β : Type} {f : α → Outcome β} {l : List α} {r : List β} {i : ℕ} {b : β}
    (h : l.mapM f = .ok r) (hb : r[i]? = some b) : ∃ a, l[i]? = some a ∧ f a = .ok b := by
  replace h := forall₂_of_mapM h
  induction h generalizing i with
  | nil => simp at hb
  | cons hab _ ih =>
    cases i with
    | zero => exact ⟨_, rfl, hab.trans (congrArg Except.ok (Option.some.inj hb))⟩
    | succ i => exact ih (by rwa [List.getElem?_cons_succ] at hb)

/-! ## The evaluation -/

section Evaluation

variable {F : Type} {A : Arithmetic F}

/-- A fit trains on rows of every training market. -/
theorem fitAndSelect_train {regression : LogisticRegression F} {dataset : DatasetSnapshot F}
    {source : SourceSpec} {config : EdgeConfig F} {fitted : Fitted F}
    (h : fitAndSelect A regression dataset source config = .ok fitted) :
    foldPredictorFit A (rowsForConditions dataset.rows source.trainConditionIds) =
        .ok fitted.fallback ∧
      ((rowsForConditions dataset.rows source.trainConditionIds).map (·.conditionId)).toFinset =
        source.trainConditionIds.toFinset := by
  unfold fitAndSelect at h
  obtain ⟨train, htrain, h⟩ := bind_eq_ok.mp h
  obtain ⟨_, -, h⟩ := bind_eq_ok.mp h
  obtain ⟨_, hmissing, h⟩ := bind_eq_ok.mp h
  obtain ⟨_, -, h⟩ := bind_eq_ok.mp h
  obtain ⟨fallback, hfallback, h⟩ := bind_eq_ok.mp h
  obtain ⟨_, -, h⟩ := bind_eq_ok.mp h
  obtain ⟨_, -, h⟩ := bind_eq_ok.mp h
  obtain ⟨_, -, h⟩ := bind_eq_ok.mp h
  obtain ⟨_, -, h⟩ := bind_eq_ok.mp h
  obtain ⟨_, -, h⟩ := bind_eq_ok.mp h
  obtain ⟨_, -, h⟩ := bind_eq_ok.mp h
  obtain ⟨_, -, h⟩ := bind_eq_ok.mp h
  obtain ⟨_, -, h⟩ := bind_eq_ok.mp h
  obtain ⟨_, -, h⟩ := bind_eq_ok.mp h
  cases h
  refine ⟨hfallback, ?_⟩
  have hnone := require_eq_ok.mp hmissing
  unfold selectedPartitionRows at htrain
  obtain ⟨selected, hselected, htrain⟩ := bind_eq_ok.mp htrain
  unfold rowsAtOffset at hselected
  obtain ⟨_, -, hselected⟩ := bind_eq_ok.mp hselected
  obtain ⟨_, -, hselected⟩ := bind_eq_ok.mp hselected
  cases hselected
  cases htrain
  ext id
  simp only [List.mem_toFinset, List.mem_map, rowsForConditions, List.mem_filter,
    decide_eq_true_eq]
  constructor
  · rintro ⟨row, ⟨-, hrow⟩, rfl⟩
    exact hrow
  · intro hid
    have hin := List.filter_eq_nil_iff.mp hnone id hid
    simp only [decide_eq_true_eq, not_not, List.mem_map, List.mem_filter] at hin
    obtain ⟨row, ⟨hrow, -⟩, hrowid⟩ := hin
    exact ⟨row, ⟨(List.mem_filter.mp hrow).1, hrowid ▸ hid⟩, hrowid⟩

/-- What the evaluation computes for a row. -/
structure Evaluated (A : Arithmetic F) (fitted : Fitted F) (config : EdgeConfig F)
    (row : SupervisedRow F) (prediction : CalibrationEdgePrediction F) : Prop where
  raw : predictRow A fitted.fallback row = .ok prediction.rawProbability
  calibrated : applyCalibration A fitted.calibration.fit prediction.rawProbability =
    .ok prediction.calibratedProbability
  decision : edgeDecisionFromPredictors A row.predictors prediction.calibratedProbability config
    fitted.edgePolicy.minEdge = .ok prediction.edgeDecision

/-- The predictions of a partition are those of its rows. -/
theorem evaluated_of_mem {regression : LogisticRegression F} {dataset : DatasetSnapshot F}
    {source : SourceSpec} {config : EdgeConfig F} {core : EvaluationCore F}
    (h : evaluatePartition A regression dataset source config = .ok core) :
    ∃ fitted, fitAndSelect A regression dataset source config = .ok fitted ∧
      core.calibrationSelection = fitted.calibration ∧
      core.edgePolicySelection = fitted.edgePolicy ∧
      ∀ row prediction, (row, prediction) ∈ core.selectedRows.zip core.predictions →
        Evaluated A fitted config row prediction := by
  unfold evaluatePartition at h
  obtain ⟨fitted, hfitted, h⟩ := bind_eq_ok.mp h
  obtain ⟨evaluation, -, h⟩ := bind_eq_ok.mp h
  obtain ⟨_, -, h⟩ := bind_eq_ok.mp h
  obtain ⟨raw, hraw, h⟩ := bind_eq_ok.mp h
  obtain ⟨calibrated, hcalibrated, h⟩ := bind_eq_ok.mp h
  obtain ⟨_, -, h⟩ := bind_eq_ok.mp h
  obtain ⟨_, -, h⟩ := bind_eq_ok.mp h
  obtain ⟨predictions, hpredictions, h⟩ := bind_eq_ok.mp h
  cases h
  refine ⟨fitted, hfitted, rfl, rfl, fun row prediction hmem => ?_⟩
  obtain ⟨i, hi⟩ := List.mem_iff_getElem?.mp hmem
  obtain ⟨hrow, hprediction⟩ := List.getElem?_zip_eq_some.mp hi
  -- the same place of every list of the evaluation
  obtain ⟨⟨row', rawProbability, calibratedProbability⟩, hentry, hreport⟩ :=
    getElem?_of_mapM hpredictions hprediction
  obtain ⟨hrow', hpair⟩ := List.getElem?_zip_eq_some.mp hentry
  obtain ⟨hrawAt, hcalibratedAt⟩ := List.getElem?_zip_eq_some.mp hpair
  obtain ⟨rawOf, hrawOf, hcalibration⟩ := getElem?_of_mapM hcalibrated hcalibratedAt
  obtain ⟨rowOf, hrowOf, hpredict⟩ := getElem?_of_mapM hraw hrawAt
  cases hrow.symm.trans hrow'
  cases hrawAt.symm.trans hrawOf
  cases hrow.symm.trans hrowOf
  unfold predictionReport edgeDecision at hreport
  obtain ⟨decision, hdecision, hreport⟩ := bind_eq_ok.mp hreport
  cases hreport
  exact ⟨hpredict, hcalibration, hdecision⟩

end Evaluation

/-! ## The live prediction -/

section Live

variable {F : Type} {A : Arithmetic F}

/-- What a live prediction is computed from. -/
theorem decides_of_build {digests : PredictionDigests F} {policy : LivePolicySpec F}
    {input : LiveMarketInput F} {market : DueMarket} {recordedAt : Timestamp}
    {prediction : LivePrediction F}
    (h : buildLivePrediction A digests policy input market recordedAt = .ok prediction) :
    ∃ raw, rawProbability A policy input = .ok raw ∧
      applyCalibration A policy.calibrationFit raw = .ok prediction.calibratedProbability ∧
      edgeDecisionFromPredictors A input.predictors prediction.calibratedProbability
        policy.edgeConfig policy.minEdge = .ok prediction.decision := by
  unfold buildLivePrediction at h
  obtain ⟨_, -, h⟩ := bind_eq_ok.mp h
  obtain ⟨_, -, h⟩ := bind_eq_ok.mp h
  obtain ⟨_, -, h⟩ := bind_eq_ok.mp h
  obtain ⟨_, -, h⟩ := bind_eq_ok.mp h
  obtain ⟨_, -, h⟩ := bind_eq_ok.mp h
  obtain ⟨raw, hraw, h⟩ := bind_eq_ok.mp h
  obtain ⟨calibrated, hcalibrated, h⟩ := bind_eq_ok.mp h
  obtain ⟨decision, hdecision, h⟩ := bind_eq_ok.mp h
  cases h
  exact ⟨raw, hraw, hcalibrated, hdecision⟩

/-- The raw probability of an input is its price, or the prior of the policy. -/
theorem rawProbability_eq {policy : LivePolicySpec F} {input : LiveMarketInput F}
    {price : Option F} {up down : Option StateObservation} {raw : F}
    (hinput : InputOf A input price up down) (h : rawProbability A policy input = .ok raw) :
    raw = price.getD policy.trainingPrior := by
  obtain ⟨digests, market, downloadedAt, response, probability, upGroup, downGroup, rfl, -, -,
    rfl⟩ := hinput
  unfold rawProbability liveInput at h
  cases probability with
  | none =>
    unfold strictProbability at h
    obtain ⟨_, -, h⟩ := bind_eq_ok.mp h
    obtain ⟨_, -, h⟩ := bind_eq_ok.mp h
    exact (Except.ok.inj h).symm
  | some observed =>
    unfold Prospective.probability at h
    obtain ⟨_, -, h⟩ := bind_eq_ok.mp h
    obtain ⟨_, -, h⟩ := bind_eq_ok.mp h
    exact (Except.ok.inj h).symm

end Live

/-! ## The agreement -/

section Agreement

variable {K : Type} [Field K] [LinearOrder K] [IsStrictOrderedRing K] (X : Abstract K)

omit [IsStrictOrderedRing K] in
/-- What the baseline predicts is the clipped price, or the clipped fallback. -/
theorem predictRow_exact {fallback raw : K} {row : SupervisedRow K}
    (h : predictRow (exact X) fallback row = .ok raw) :
    raw = clip (exact X) ((row.predictors.get "pm_up_price").getD fallback) := by
  unfold predictRow at h
  cases hprice : row.predictors.get "pm_up_price" with
  | none =>
    rw [hprice] at h
    exact (Except.ok.inj h).symm
  | some value =>
    rw [hprice] at h
    exact (Except.ok.inj h).symm

/-- **The priors agree**: the weighted prior of the training rows is the prior of the policy. -/
theorem prior_eq {digest : DatasetSnapshot K → String} {features : List (MarketFeature K)}
    {labels : LabelTable} {request : DatasetRequest} {dataset : DatasetSnapshot K}
    {regression : LogisticRegression K} {source : SourceSpec} {config : EdgeConfig K}
    {fitted : Fitted K} {later : LabelTable} {horizonSeconds : ℤ} {prior : K}
    (hdataset : loadDataset (exact X) digest features labels request = .ok dataset)
    (hfitted : fitAndSelect (exact X) regression dataset source config = .ok fitted)
    (hlater : ∀ label ∈ labels.rows, label ∈ later.rows)
    (hnodup : source.trainConditionIds.Nodup)
    (hprior : trainingPrior (exact X) later source.trainConditionIds request.labelVersion
      horizonSeconds = .ok prior) : prior = fitted.fallback := by
  obtain ⟨hfallback, hmarkets⟩ := fitAndSelect_train hfitted
  have htargets : ∀ row ∈ rowsForConditions dataset.rows source.trainConditionIds,
      row.target = labelTarget later request.labelVersion row.conditionId := by
    intro row hrow
    obtain ⟨feature, -, label, hlabel, hmarket, hversion, hof⟩ :=
      rowOf_loadDataset hdataset row (List.mem_filter.mp hrow).1
    rw [← hversion]
    exact target_eq_labelTarget later (hlater label hlabel) hmarket hof
  rw [trainingPrior_exact X hnodup hprior, foldPredictorFit_exact X htargets hfallback, hmarkets]

/-- **Training and serving agree**: of a market that the live input observes as its stored feature
does, `build_live_prediction` computes under the loaded policy what the final evaluation of the run
computes for the row of that feature. -/
theorem trainServe_agree (regression : LogisticRegression K) {digest : DatasetSnapshot K → String}
    {features : List (MarketFeature K)} {labels : LabelTable} {request : DatasetRequest}
    {dataset : DatasetSnapshot K}
    (hdataset : loadDataset (exact X) digest features labels request = .ok dataset)
    {source : SourceSpec} {config : EdgeConfig K} {report : CalibrationEdgeFinalReport K}
    (hreport : evaluateFinalSource (exact X) regression dataset source config = .ok report)
    {sources : PolicySources K} {runId : String} {run : CalibrationRun K}
    (hrun : sources.run runId = some run) (hfinal : run.finalHoldout = report)
    (hconfig : run.stored.config = config) (hversion : run.stored.labelVersion = request.labelVersion)
    (hlabels : ∀ label ∈ labels.rows, label ∈ sources.labels.rows)
    {policyDigest : LivePolicySpec K → String} {policy : LivePolicySpec K}
    (hpolicy : loadLivePolicy (exact X) policyDigest sources runId = .ok policy)
    {row : SupervisedRow K} {evaluated : CalibrationEdgePrediction K}
    (hevaluated : (row, evaluated) ∈ report.core.selectedRows.zip report.core.predictions)
    {feature : MarketFeature K} {label : MarketLabel} (hrow : RowOf (exact X) row feature label)
    {input : LiveMarketInput K} (hsame : SameObservations (exact X) feature input)
    {digests : PredictionDigests K} {market : DueMarket} {recordedAt : Timestamp}
    {prediction : LivePrediction K}
    (hbuilt : buildLivePrediction (exact X) digests policy input market recordedAt =
      .ok prediction) :
    prediction.calibratedProbability = evaluated.calibratedProbability ∧
      prediction.decision = evaluated.edgeDecision := by
  obtain ⟨core, hcore, hreport⟩ := bind_eq_ok.mp hreport
  cases hreport
  obtain ⟨fitted, hfitted, hcalibration, hedge, hpredictions⟩ := evaluated_of_mem hcore
  have hoffline := hpredictions row evaluated hevaluated
  obtain ⟨hpolicyConfig, hpolicyFit, hpolicyEdge, hnodup, hprior⟩ := loadLivePolicy_spec hrun hpolicy
  rw [hfinal] at hpolicyFit hpolicyEdge hnodup hprior
  rw [hversion] at hprior
  rw [hconfig] at hpolicyConfig
  rw [hcalibration] at hpolicyFit
  rw [hedge] at hpolicyEdge
  have hfallback := prior_eq X hdataset hfitted hlabels hnodup hprior
  obtain ⟨raw, hraw, hcalibrated, hdecision⟩ := decides_of_build hbuilt
  have hpredictors := predictors_agree hsame hrow.predictors
  -- both raw probabilities are the price, or else the prior; the offline one is clipped
  obtain ⟨price, up, down, -, hinput⟩ := hsame
  have hlivePrice := inputOf_price hinput
  have hrawEq := rawProbability_eq hinput hraw
  have hofflineRaw := predictRow_exact X hoffline.raw
  rw [hpredictors "pm_up_price" (by simp [decisionKeys]), hlivePrice, ← hfallback, ← hrawEq]
    at hofflineRaw
  have hsameCalibrated : prediction.calibratedProbability = evaluated.calibratedProbability := by
    have hoffline := hoffline.calibrated
    rw [hofflineRaw, applyCalibration_clip, ← hpolicyFit, hcalibrated] at hoffline
    exact Except.ok.inj hoffline
  refine ⟨hsameCalibrated, ?_⟩
  have hofflineDecision := hoffline.decision
  rw [edgeDecision_congr hpredictors, ← hsameCalibrated, ← hpolicyConfig, ← hpolicyEdge, hdecision]
    at hofflineDecision
  exact Except.ok.inj hofflineDecision

end Agreement

/-! ### A market of the holdout -/

/-- The rows of an evaluation are rows of its dataset. -/
theorem selectedRows_subset {F : Type} {A : Arithmetic F} {regression : LogisticRegression F}
    {dataset : DatasetSnapshot F} {source : SourceSpec} {config : EdgeConfig F}
    {core : EvaluationCore F} (h : evaluatePartition A regression dataset source config = .ok core) :
    core.selectedRows ⊆ dataset.rows := by
  unfold evaluatePartition at h
  obtain ⟨fitted, -, h⟩ := bind_eq_ok.mp h
  obtain ⟨evaluation, hevaluation, h⟩ := bind_eq_ok.mp h
  obtain ⟨_, -, h⟩ := bind_eq_ok.mp h
  obtain ⟨_, -, h⟩ := bind_eq_ok.mp h
  obtain ⟨_, -, h⟩ := bind_eq_ok.mp h
  obtain ⟨_, -, h⟩ := bind_eq_ok.mp h
  obtain ⟨_, -, h⟩ := bind_eq_ok.mp h
  obtain ⟨_, -, h⟩ := bind_eq_ok.mp h
  cases h
  unfold selectedPartitionRows at hevaluation
  obtain ⟨selected, hselected, hevaluation⟩ := bind_eq_ok.mp hevaluation
  unfold rowsAtOffset at hselected
  obtain ⟨_, -, hselected⟩ := bind_eq_ok.mp hselected
  obtain ⟨_, -, hselected⟩ := bind_eq_ok.mp hselected
  cases hselected
  cases hevaluation
  intro row hrow
  obtain ⟨id, -, hfind⟩ := List.mem_filterMap.mp hrow
  have hin := List.mem_filter.mp (List.mem_of_find?_eq_some hfind)
  exact (List.mem_filter.mp hin.1).1

/-- Exact rationals; the logarithm and the exponential are constant. -/
def rationals : Arithmetic ℚ :=
  exact ⟨fun _ => some 0, fun _ => 1, fun _ => 0, fun _ => 0, fun _ => "0"⟩

def zeroDigest : String := String.ofList (List.replicate 64 '0')

/-- The Up price and the Up book of a market of five minutes; its Down side is never observed. -/
def holdoutDatabase : Database where
  prices := ⟨[⟨1, "clob", "h", "up", "Up", 30000000, ⟨55, -2⟩, 1⟩], by decide⟩
  candles := ⟨[], List.nodup_nil⟩
  states := ⟨[⟨1, 59000000, "up", "polymarket", "market", "h", none, some "up", 59000000,
    [("best_bid", .str "0.53"), ("best_ask", .str "0.54")]⟩], by decide⟩
  rawEvents := ⟨[], List.nodup_nil⟩

def holdoutTarget : FeatureTarget := ⟨"h", "h", 300, 0, 300000000⟩

def holdoutMarket : DueMarket := ⟨"h", "h", 300, 0, 300000000, 60000000, "up", "down"⟩

def holdoutLabel (conditionId outcome : String) : MarketLabel :=
  ⟨conditionId, "1", conditionId, 300, 0, 300000000, outcome, none, none, "r", "h", "s", "l", "d",
    300000000⟩

def holdoutLabels : LabelTable := ⟨[holdoutLabel "t" "Up", holdoutLabel "h" "Down"], by decide⟩

def holdoutSource : SourceSpec := ⟨zeroDigest, ["t", "h"], ["h"], ["h"], 60⟩

def holdoutConfig : EdgeConfig ℚ := ⟨0, 0, [1 / 100], 1, none⟩

def holdoutHeader : RunHeader ℚ :=
  ⟨"r", calibrationVersion, edgePolicyVersion, "b", zeroDigest, "t", zeroDigest, "d",
    featureVersion, "l", 300, "d", "c", "p", zeroDigest, holdoutConfig, [], 0, 300000000⟩

def holdoutSources (report : CalibrationEdgeFinalReport ℚ) : PolicySources ℚ where
  run _ := some ⟨holdoutHeader, holdoutHeader, "v", "c", report⟩
  backtest _ := .ok ⟨"v", zeroDigest, "t", zeroDigest, "d", featureVersion, "l", 300, "d", "c", [],
    holdoutSource⟩
  training _ := .ok ⟨zeroDigest, 300, "d", featureVersion, "l"⟩
  labels := holdoutLabels

/-- The feature is stored, evaluated with a second market, and predicted live. -/
def holdoutRun :
    Outcome ((SupervisedRow ℚ × CalibrationEdgePrediction ℚ) × LivePrediction ℚ) := do
  let price ← latestPolymarketPrice holdoutDatabase "h" "Up" 60000000
  let state ← sideState holdoutDatabase holdoutTarget price 60000000
  let feature ← buildFeature rationals.toFloats holdoutDatabase holdoutTarget 60000000 400000000
  let dataset ← loadDataset rationals (fun _ => "d")
    [feature, { feature with conditionId := "t", slug := "t" }] holdoutLabels
    ⟨0, 300000000, 300, featureVersion, "l", "supervised-core-v1"⟩
  let report ← evaluateFinalSource rationals (fun _ => (0, 0)) dataset holdoutSource holdoutConfig
  let policy ← loadLivePolicy rationals (fun _ => zeroDigest) (holdoutSources report) "r"
  let up ← bookState rationals.toFloats "pm_up" state
  let down ← bookState rationals.toFloats "pm_down" none
  let input := liveInput rationals ⟨fun _ => zeroDigest, fun _ => zeroDigest⟩ holdoutMarket 61000000
    ⟨[], [], .null⟩ (price.map fun row => (rationals.ofDecimal row.price, row.observedAt)) state none
    up down
  let prediction ← buildLivePrediction rationals
    ⟨fun _ _ => zeroDigest, fun _ => zeroDigest, fun _ => zeroDigest, fun _ => zeroDigest⟩ policy
    input holdoutMarket 62000000
  match report.core.selectedRows.zip report.core.predictions with
  | [] => raise .runtimeError "no evaluated row"
  | pair :: _ => do
    require (pair.1.conditionId = "h") .runtimeError "another row"
    .ok (pair, prediction)

theorem holdoutRun_isOk : holdoutRun.isOk = true := by decide +kernel

theorem trainServe_agree_holdout : ∃ row evaluated prediction,
    holdoutRun = .ok ((row, evaluated), prediction) ∧
      prediction.calibratedProbability = evaluated.calibratedProbability ∧
      prediction.decision = evaluated.edgeDecision := by
  obtain ⟨⟨⟨row, evaluated⟩, prediction⟩, hrun⟩ := exists_ok_of_isOk holdoutRun_isOk
  refine ⟨row, evaluated, prediction, hrun, ?_⟩
  unfold holdoutRun at hrun
  obtain ⟨price, hprice, hrun⟩ := bind_eq_ok.mp hrun
  obtain ⟨state, hstate, hrun⟩ := bind_eq_ok.mp hrun
  obtain ⟨feature, hfeature, hrun⟩ := bind_eq_ok.mp hrun
  obtain ⟨dataset, hdataset, hrun⟩ := bind_eq_ok.mp hrun
  obtain ⟨report, hreport, hrun⟩ := bind_eq_ok.mp hrun
  obtain ⟨policy, hpolicy, hrun⟩ := bind_eq_ok.mp hrun
  obtain ⟨up, hup, hrun⟩ := bind_eq_ok.mp hrun
  obtain ⟨down, hdown, hrun⟩ := bind_eq_ok.mp hrun
  obtain ⟨built, hbuilt, hrun⟩ := bind_eq_ok.mp hrun
  split at hrun
  · exact absurd hrun raise_ne_ok
  · next pair pairs hpairs =>
    obtain ⟨_, hmarket, hrun⟩ := bind_eq_ok.mp hrun
    cases hrun
    have hevaluated : (row, evaluated) ∈ report.core.selectedRows.zip report.core.predictions :=
      hpairs ▸ List.mem_cons_self
    obtain ⟨core, hcore, hfinal⟩ := bind_eq_ok.mp hreport
    cases hfinal
    obtain ⟨stored, hstored, label, -, -, -, hrow⟩ := rowOf_loadDataset hdataset row
      (selectedRows_subset hcore (List.of_mem_zip hevaluated).1)
    -- the row is the one of the feature that was built
    have hsame : stored = feature := by
      have hid := hrow.conditionId.symm.trans (require_eq_ok.mp hmarket)
      rcases List.mem_cons.mp hstored with hsame | hother
      · exact hsame
      · rw [List.mem_singleton.mp hother] at hid
        have hne : ("t" : String) ≠ "h" := by decide
        exact absurd hid hne
    subst hsame
    refine trainServe_agree ⟨fun _ => some 0, fun _ => 1, fun _ => 0, fun _ => 0, fun _ => "0"⟩
      (fun _ => (0, 0)) hdataset hreport rfl rfl rfl rfl (fun label hlabel => hlabel) hpolicy
      hevaluated hrow ⟨price, state, none, ?_, ?_⟩ hbuilt
    · exact ⟨holdoutDatabase, holdoutTarget, 60000000, 400000000, none, hprice, by rfl, hstate, rfl,
        hfeature⟩
    · refine ⟨_, holdoutMarket, 61000000, _, _, up, down, ?_, hup, hdown, rfl⟩
      cases price <;> rfl

end BpEngine.Prospective
