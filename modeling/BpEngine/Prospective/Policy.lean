import BpEngine.Calibration.Evaluation
import BpEngine.Prospective.Inputs

/-!
# Loading a live policy

`load_live_policy` of `live_prediction/policy.py`: the final report of a stored calibration run is
checked against the run's columns and against the backtest and training runs it comes from, and a
policy is made of it.

* `trainingPrior` is the mean of the training labels.
* `loadLivePolicy` is the policy.
A `LivePolicyIntegrityError` is a `ValueError`.  A report is kept as the values it is made of; what
`load_backtest_source_spec` and `load_model_spec` return is given, with the message of a failure.
-/

namespace BpEngine.Prospective

open BpEngine.Calibration BpEngine.PaperLedger

variable {F : Type} (A : Arithmetic F)

/-! ## The sources -/

/-- What a stored run and its report both say. -/
structure RunHeader (F : Type) where
  runId : String
  calibrationVersion : String
  edgePolicyVersion : String
  sourceBacktestRunId : String
  sourceBacktestSemanticSha256 : String
  sourceTrainingRunId : String
  sourceTrainingSemanticSha256 : String
  datasetVersion : String
  featureVersion : String
  labelVersion : String
  horizonSeconds : ℤ
  datasetSha256 : String
  configSha256 : String
  sourcePlanSha256 : String
  semanticSha256 : String
  config : EdgeConfig F
  sourceFoldMembershipSha256 : List String
  start : Timestamp
  finish : Timestamp

/-- A row of the calibration runs: its columns, and its report. -/
structure CalibrationRun (F : Type) where
  stored : RunHeader F
  report : RunHeader F
  sourceBacktestVersion : String
  sourceBacktestConfigSha256 : String
  finalHoldout : CalibrationEdgeFinalReport F

/-- `BacktestSourceSpec`, as a policy reads it. -/
structure BacktestSourceSpec where
  backtestVersion : String
  semanticSha256 : String
  sourceTrainingRunId : String
  sourceTrainingSemanticSha256 : String
  datasetVersion : String
  featureVersion : String
  labelVersion : String
  horizonSeconds : ℤ
  datasetSha256 : String
  configSha256 : String
  foldMembershipSha256 : List String
  final : SourceSpec

/-- `ModelSpec`, as a policy reads it. -/
structure ModelSpec where
  semanticSha256 : String
  horizonSeconds : ℤ
  datasetVersion : String
  featureVersion : String
  labelVersion : String

/-- What `load_live_policy` reads of the database. -/
structure PolicySources (F : Type) where
  run : String → Option (CalibrationRun F)
  backtest : String → Except String BacktestSourceSpec
  training : String → Except String ModelSpec
  labels : LabelTable

/-! ## Checks -/

/-- A member of `string.hexdigits`. -/
def isHexDigit (char : Char) : Bool :=
  char.isDigit || ('a' ≤ char && char ≤ 'f') || ('A' ≤ char && char ≤ 'F')

/-- `_sha256`. -/
def policySha256 (name value : String) : Outcome String := do
  require (value.length = 64) .valueError (name ++ " must be a 64-character SHA-256")
  require (value.toList.all isHexDigit = true) .valueError
    (name ++ " must be hexadecimal SHA-256")
  .ok value.toLower

/-- `_ids`. -/
def policyIds (name : String) (ids : List String) : Outcome (List String) := do
  require (ids ≠ [] ∧ "" ∉ ids) .valueError (name ++ " must contain condition ids")
  require ids.Nodup .valueError (name ++ " contains duplicate condition ids")
  .ok ids

/-- The scalar fields that `_validate_stored_report` compares. -/
def RunHeader.scalarFields (header : RunHeader F) : List (String × String) :=
  [("run_id", header.runId), ("calibration_version", header.calibrationVersion),
    ("edge_policy_version", header.edgePolicyVersion),
    ("source_backtest_run_id", header.sourceBacktestRunId),
    ("source_backtest_semantic_sha256", header.sourceBacktestSemanticSha256),
    ("source_training_run_id", header.sourceTrainingRunId),
    ("source_training_semantic_sha256", header.sourceTrainingSemanticSha256),
    ("dataset_version", header.datasetVersion), ("feature_version", header.featureVersion),
    ("label_version", header.labelVersion), ("horizon_seconds", toString header.horizonSeconds),
    ("dataset_sha256", header.datasetSha256), ("config_sha256", header.configSha256),
    ("source_plan_sha256", header.sourcePlanSha256), ("semantic_sha256", header.semanticSha256)]

/-- `_require_equal`. -/
def requireEqual (name : String) (equal : Bool) : Outcome Unit :=
  require (equal = true) .valueError
    ("source report " ++ name ++ " does not match stored immutable column")

/-- Both numbers are missing, or they are equal. -/
def sameOption : Option F → Option F → Bool
  | none, none => true
  | some a, some b => A.same a b
  | _, _ => false

/-- The configurations are equal. -/
def sameConfig (a b : EdgeConfig F) : Bool :=
  A.same a.feeRate b.feeRate && A.same a.slippageBuffer b.slippageBuffer &&
    a.minEdgeGrid.length == b.minEdgeGrid.length &&
    (a.minEdgeGrid.zip b.minEdgeGrid).all (fun pair => A.same pair.1 pair.2) &&
    a.minValidationTrades == b.minValidationTrades && sameOption A a.maxSpread b.maxSpread

/-- `_validate_stored_report`. -/
def validateStoredReport (run : CalibrationRun F) : Outcome Unit := do
  (run.stored.scalarFields.zip run.report.scalarFields).forM fun pair =>
    requireEqual pair.1.1 (pair.1.2 == pair.2.2)
  requireEqual "config" (sameConfig A run.stored.config run.report.config)
  let stored ← run.stored.sourceFoldMembershipSha256.mapM
    (policySha256 "source_fold_membership_sha256 entry")
  let report ← run.report.sourceFoldMembershipSha256.mapM
    (policySha256 "report source_fold_membership_sha256 entry")
  requireEqual "source_fold_membership_sha256" (stored == report)
  require (run.stored.start < run.stored.finish) .valueError
    "requested_end must be after requested_start"
  requireEqual "start" (run.report.start == run.stored.start)
  requireEqual "end" (run.report.finish == run.stored.finish)

/-- `EdgeConfig.__post_init__`. -/
def validateEdgeConfig (config : EdgeConfig F) : Bool :=
  let nonNegative (value : F) : Bool := A.isFinite value && !A.lt value A.zero
  nonNegative config.feeRate && nonNegative config.slippageBuffer && !config.minEdgeGrid.isEmpty &&
    config.minEdgeGrid.all nonNegative &&
    (config.minEdgeGrid.zip config.minEdgeGrid.tail).all (fun pair => A.lt pair.1 pair.2) &&
    decide (0 < config.minValidationTrades) &&
    config.maxSpread.all fun spread => A.isFinite spread && A.lt A.zero spread && A.le spread A.one

/-- `_edge_config`. -/
def policyEdgeConfig (config : EdgeConfig F) : Outcome (EdgeConfig F) := do
  require (validateEdgeConfig A config = true) .valueError "edge config is invalid"
  .ok config

/-- `_calibration_fit`. -/
def policyCalibrationFit (selection : CalibrationSelection F) : Outcome (CalibrationFit F) := do
  let fit := selection.fit
  require (selection.method = fit.method) .valueError
    "calibration fit method does not match selected calibration method"
  if fit.method = "identity" then do
    require (fit.intercept.isNone = true ∧ fit.coefficient.isNone = true) .valueError
      "calibration fit identity parameters must be null"
    .ok ⟨"identity", none, none⟩
  else do
    require (fit.method = "platt") .valueError "calibration fit method is unsupported"
    match fit.intercept, fit.coefficient with
    | some intercept, some coefficient => do
      require (A.isFinite intercept = true ∧ A.isFinite coefficient = true) .valueError
        "calibration fit Platt parameters must be finite"
      require (¬ A.le coefficient A.zero = true) .valueError
        "calibration fit Platt coefficient must be positive"
      .ok ⟨"platt", some intercept, some coefficient⟩
    | _, _ => raise .valueError "calibration fit Platt parameters must be finite"

/-- `_edge_policy`. -/
def policyEdgePolicy (selection : EdgePolicySelection F) (config : EdgeConfig F) :
    Outcome (String × Option F) :=
  if selection.policy = "no_trade" then do
    require (selection.minEdge.isNone = true) .valueError
      "edge policy no_trade must have min_edge=None"
    .ok ("no_trade", none)
  else do
    require (selection.policy = "trade_threshold") .valueError
      "edge policy must be trade_threshold or no_trade"
    match selection.minEdge with
    | none => raise .valueError "edge policy trade_threshold requires min_edge"
    | some threshold => do
      require (A.isFinite threshold = true ∧ ¬ A.lt threshold A.zero = true) .valueError
        "edge policy trade_threshold requires finite non-negative min_edge"
      require (config.minEdgeGrid.any (A.same threshold) = true) .valueError
        "edge policy min_edge must come from the frozen validation grid"
      .ok ("trade_threshold", some threshold)

/-! ## The training prior -/

/-- The target of a training market. -/
def trainingTarget (labels : List MarketLabel) (horizonSeconds : ℤ) (conditionId : String) :
    Outcome ℤ :=
  match labels.reverse.find? fun label => label.conditionId = conditionId with
  | none => raise .keyError conditionId
  | some label => do
    require (label.horizonSeconds = horizonSeconds) .valueError
      ("training labels horizon mismatch for " ++ conditionId)
    if label.officialOutcome = "Up" then .ok 1
    else if label.officialOutcome = "Down" then .ok 0
    else raise .valueError ("training labels contain invalid outcome for " ++ conditionId)

/-- `_training_prior`. -/
def trainingPrior (labels : LabelTable) (conditionIds : List String) (labelVersion : String)
    (horizonSeconds : ℤ) : Outcome F := do
  let rows := labels.rows.filter fun label =>
    label.conditionId ∈ conditionIds && label.labelVersion = labelVersion
  require (∀ conditionId ∈ conditionIds, conditionId ∈ rows.map (·.conditionId)) .valueError
    "training labels must exist for every final training condition"
  let targets ← conditionIds.mapM (trainingTarget rows horizonSeconds)
  require (0 ∈ targets ∧ 1 ∈ targets) .valueError
    "training prior requires both classes in final training labels"
  let prior := A.div (A.ofInt targets.sum) (A.ofInt targets.length)
  require (A.isFinite prior = true ∧ A.lt A.zero prior = true ∧ A.lt prior A.one = true) .valueError
    "training prior must be finite and within (0, 1)"
  .ok prior

/-! ## The policy -/

/-- `CALIBRATION_VERSION`. -/
def calibrationVersion : String := "platt-or-identity-v1"

/-- `EDGE_POLICY_VERSION`. -/
def edgePolicyVersion : String := "selected-ask-edge-v1"

/-- The partition markers of a final report. -/
def validateMarkers (final : CalibrationEdgeFinalReport F) : Outcome Unit :=
  [("calibration fit", final.calibrationSelectionFitPartition, "train"),
    ("calibration selection", final.calibrationSelectionPartition, "validation"),
    ("edge selection", final.edgeSelectionPartition, "validation"),
    ("evaluation", final.evaluationPartition, "holdout")].forM fun marker =>
      require (marker.2.1 = marker.2.2) .valueError
        (marker.1 ++ " partition must be '" ++ marker.2.2 ++ "'")

/-- A source that was loaded, or its failure. -/
def provenance {α : Type} (text : String) : Except String α → Outcome α
  | .error message => raise .valueError (text ++ message)
  | .ok source => .ok source

/-- The provenance checks of `load_live_policy`. -/
def validateProvenance (run : CalibrationRun F) (backtest : BacktestSourceSpec)
    (training : ModelSpec) (backtestSemantic trainingSemantic : String) : Outcome Unit := do
  require (backtest.semanticSha256 = backtestSemantic) .valueError
    "source backtest semantic does not match Phase 9 provenance"
  require (run.sourceBacktestVersion = backtest.backtestVersion) .valueError
    "source backtest version does not match Phase 8 provenance"
  require (run.sourceBacktestConfigSha256 = backtest.configSha256) .valueError
    "source backtest config does not match Phase 8 provenance"
  [("source training semantic", training.semanticSha256, trainingSemantic),
    ("backtest source training run", backtest.sourceTrainingRunId, run.stored.sourceTrainingRunId),
    ("backtest source training semantic", backtest.sourceTrainingSemanticSha256, trainingSemantic),
    ("training horizon", toString training.horizonSeconds, toString run.stored.horizonSeconds),
    ("backtest horizon", toString backtest.horizonSeconds, toString run.stored.horizonSeconds),
    ("training feature version", training.featureVersion, run.stored.featureVersion),
    ("backtest feature version", backtest.featureVersion, run.stored.featureVersion),
    ("training label version", training.labelVersion, run.stored.labelVersion),
    ("backtest label version", backtest.labelVersion, run.stored.labelVersion),
    ("training dataset version", training.datasetVersion, run.stored.datasetVersion),
    ("backtest dataset version", backtest.datasetVersion, run.stored.datasetVersion),
    ("backtest dataset SHA", backtest.datasetSha256, run.stored.datasetSha256)].forM fun check =>
      require (check.2.1 = check.2.2) .valueError
        (check.1 ++ " does not match frozen Phase 9 provenance")

/-- The partitions of a final report, which are those of the backtest. -/
def policyPartitions (final : CalibrationEdgeFinalReport F) (horizonSeconds : ℤ)
    (backtest : BacktestSourceSpec) : Outcome SourceSpec := do
  validateMarkers final
  require (0 < final.selectedOffsetSeconds ∧ final.selectedOffsetSeconds < horizonSeconds)
    .valueError "selected_offset_seconds must be within the market horizon"
  let train ← policyIds "final training condition ids" final.trainConditionIds
  let validation ← policyIds "final validation condition ids" final.validationConditionIds
  let holdout ← policyIds "final holdout condition ids" final.holdoutConditionIds
  let membership ← policySha256 "final membership_sha256" final.membershipSha256
  let context : SourceSpec :=
    ⟨membership, train, validation, holdout, final.selectedOffsetSeconds⟩
  require (context = backtest.final) .valueError
    "backtest final policy context does not match Phase 9 selection"
  .ok context

/-- `load_live_policy`; `digest` is `canonical_hash` of the other columns of a policy. -/
def loadLivePolicy (digest : LivePolicySpec F → String) (sources : PolicySources F)
    (runId : String) : Outcome (LivePolicySpec F) := do
  match sources.run runId with
  | none => raise .lookupError ("live policy source not found: " ++ runId)
  | some run =>
    validateStoredReport A run
    let stored := run.stored
    require (stored.calibrationVersion = calibrationVersion) .valueError
      ("calibration_version must be '" ++ calibrationVersion ++ "'")
    require (stored.edgePolicyVersion = edgePolicyVersion) .valueError
      ("edge_policy_version must be '" ++ edgePolicyVersion ++ "'")
    require (0 < stored.horizonSeconds) .valueError "horizon_seconds must be positive"
    let semantic ← policySha256 "semantic_sha256" stored.semanticSha256
    let backtestSemantic ←
      policySha256 "source_backtest_semantic_sha256" stored.sourceBacktestSemanticSha256
    let trainingSemantic ←
      policySha256 "source_training_semantic_sha256" stored.sourceTrainingSemanticSha256
    let backtest ← provenance "source backtest provenance is invalid: "
      (sources.backtest stored.sourceBacktestRunId)
    let training ← provenance "training model is invalid: "
      (sources.training stored.sourceTrainingRunId)
    validateProvenance run backtest training backtestSemantic trainingSemantic
    let partitions ← policyPartitions run.finalHoldout stored.horizonSeconds backtest
    let edgeConfig ← policyEdgeConfig A stored.config
    let fit ← policyCalibrationFit A run.finalHoldout.core.calibrationSelection
    let (edgePolicy, minEdge) ←
      policyEdgePolicy A run.finalHoldout.core.edgePolicySelection edgeConfig
    let prior ← trainingPrior A sources.labels partitions.trainConditionIds stored.labelVersion
      stored.horizonSeconds
    let policy : LivePolicySpec F :=
      { sourceCalibrationRunId := stored.runId
        sourceCalibrationSemanticSha256 := semantic
        sourceBacktestRunId := stored.sourceBacktestRunId
        sourceBacktestSemanticSha256 := backtestSemantic
        sourceTrainingRunId := stored.sourceTrainingRunId
        sourceTrainingSemanticSha256 := trainingSemantic
        calibrationVersion := stored.calibrationVersion
        edgePolicyVersion := stored.edgePolicyVersion
        sourceFeatureVersion := stored.featureVersion
        labelVersion := stored.labelVersion
        horizonSeconds := stored.horizonSeconds
        selectedOffsetSeconds := partitions.selectedOffsetSeconds
        calibrationFit := fit
        edgeConfig
        edgePolicy
        minEdge
        trainingPrior := prior
        policySha256 := "" }
    .ok { policy with policySha256 := digest policy }

/-! ## What a loaded policy is -/

section Loaded

variable {A}

theorem policyEdgeConfig_eq {config other : EdgeConfig F}
    (h : policyEdgeConfig A config = .ok other) : other = config := by
  unfold policyEdgeConfig at h
  obtain ⟨_, -, h⟩ := bind_eq_ok.mp h
  cases h
  rfl

theorem policyCalibrationFit_eq {selection : CalibrationSelection F} {fit : CalibrationFit F}
    (h : policyCalibrationFit A selection = .ok fit) : fit = selection.fit := by
  unfold policyCalibrationFit at h
  obtain ⟨_, -, h⟩ := bind_eq_ok.mp h
  rcases hfit : selection.fit with ⟨method, intercept, coefficient⟩
  rw [hfit] at h
  simp only at h
  split_ifs at h with hidentity
  · obtain ⟨_, hnone, h⟩ := bind_eq_ok.mp h
    have hboth := require_eq_ok.mp hnone
    rw [Option.isNone_iff_eq_none, Option.isNone_iff_eq_none] at hboth
    rw [hidentity, hboth.1, hboth.2]
    exact (Except.ok.inj h).symm
  · obtain ⟨_, hplatt, h⟩ := bind_eq_ok.mp h
    have hmethod := require_eq_ok.mp hplatt
    split at h
    · next first second =>
      obtain ⟨_, -, h⟩ := bind_eq_ok.mp h
      obtain ⟨_, -, h⟩ := bind_eq_ok.mp h
      rw [hmethod]
      exact (Except.ok.inj h).symm
    · exact absurd h raise_ne_ok

theorem policyEdgePolicy_eq {selection : EdgePolicySelection F} {config : EdgeConfig F}
    {policy : String × Option F} (h : policyEdgePolicy A selection config = .ok policy) :
    policy.2 = selection.minEdge := by
  unfold policyEdgePolicy at h
  split_ifs at h
  · obtain ⟨_, hnone, h⟩ := bind_eq_ok.mp h
    have hmin := Option.isNone_iff_eq_none.mp (require_eq_ok.mp hnone)
    cases h
    exact hmin.symm
  · obtain ⟨_, -, h⟩ := bind_eq_ok.mp h
    split at h
    · exact absurd h raise_ne_ok
    · next threshold hthreshold =>
      obtain ⟨_, -, h⟩ := bind_eq_ok.mp h
      obtain ⟨_, -, h⟩ := bind_eq_ok.mp h
      cases h
      exact hthreshold.symm

theorem policyPartitions_train {final : CalibrationEdgeFinalReport F} {horizonSeconds : ℤ}
    {backtest : BacktestSourceSpec} {partitions : SourceSpec}
    (h : policyPartitions final horizonSeconds backtest = .ok partitions) :
    partitions.trainConditionIds = final.trainConditionIds ∧ final.trainConditionIds.Nodup := by
  unfold policyPartitions at h
  obtain ⟨_, -, h⟩ := bind_eq_ok.mp h
  obtain ⟨_, -, h⟩ := bind_eq_ok.mp h
  obtain ⟨train, htrain, h⟩ := bind_eq_ok.mp h
  obtain ⟨_, -, h⟩ := bind_eq_ok.mp h
  obtain ⟨_, -, h⟩ := bind_eq_ok.mp h
  obtain ⟨_, -, h⟩ := bind_eq_ok.mp h
  obtain ⟨_, -, h⟩ := bind_eq_ok.mp h
  cases h
  unfold policyIds at htrain
  obtain ⟨_, -, htrain⟩ := bind_eq_ok.mp htrain
  obtain ⟨_, hnodup, htrain⟩ := bind_eq_ok.mp htrain
  cases htrain
  exact ⟨rfl, require_eq_ok.mp hnodup⟩

/-- **A loaded policy** has the configuration of its run, the fit and the threshold of the run's
final report, and the prior of the report's training markets. -/
theorem loadLivePolicy_spec {digest : LivePolicySpec F → String} {sources : PolicySources F}
    {runId : String} {run : CalibrationRun F} {policy : LivePolicySpec F}
    (hrun : sources.run runId = some run) (h : loadLivePolicy A digest sources runId = .ok policy) :
    policy.edgeConfig = run.stored.config ∧
      policy.calibrationFit = run.finalHoldout.core.calibrationSelection.fit ∧
      policy.minEdge = run.finalHoldout.core.edgePolicySelection.minEdge ∧
      run.finalHoldout.trainConditionIds.Nodup ∧
      trainingPrior A sources.labels run.finalHoldout.trainConditionIds run.stored.labelVersion
        run.stored.horizonSeconds = .ok policy.trainingPrior := by
  unfold loadLivePolicy at h
  rw [hrun] at h
  simp only at h
  obtain ⟨_, -, h⟩ := bind_eq_ok.mp h
  obtain ⟨_, -, h⟩ := bind_eq_ok.mp h
  obtain ⟨_, -, h⟩ := bind_eq_ok.mp h
  obtain ⟨_, -, h⟩ := bind_eq_ok.mp h
  obtain ⟨_, -, h⟩ := bind_eq_ok.mp h
  obtain ⟨_, -, h⟩ := bind_eq_ok.mp h
  obtain ⟨_, -, h⟩ := bind_eq_ok.mp h
  obtain ⟨_, -, h⟩ := bind_eq_ok.mp h
  obtain ⟨_, -, h⟩ := bind_eq_ok.mp h
  obtain ⟨_, -, h⟩ := bind_eq_ok.mp h
  obtain ⟨partitions, hpartitions, h⟩ := bind_eq_ok.mp h
  obtain ⟨config, hconfig, h⟩ := bind_eq_ok.mp h
  obtain ⟨fit, hfit, h⟩ := bind_eq_ok.mp h
  obtain ⟨edge, hedge, h⟩ := bind_eq_ok.mp h
  obtain ⟨prior, hprior, h⟩ := bind_eq_ok.mp h
  cases h
  obtain ⟨htrain, hnodup⟩ := policyPartitions_train hpartitions
  rw [htrain] at hprior
  exact ⟨policyEdgeConfig_eq hconfig, policyCalibrationFit_eq hfit, policyEdgePolicy_eq hedge,
    hnodup, hprior⟩

end Loaded

end BpEngine.Prospective
