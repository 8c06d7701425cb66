import BpEngine.Improvement.Models

/-!
# The improvement registry

`improvement/repository.py`, `improvement/evidence.py`, `improvement/comparison.py` and
`improvement/service.py`, with `evaluate_spread_guard_challenger` of `improvement/challenger.py`: the
three append-only tables, and the calls that write them.

* `storeRow` is what the three repositories do; `storeExperiment`, `storeReport` and `storeDecision` are
  its uses.
* `experimentFromRow` builds an experiment again from its row.
* `validateEvidenceManifest` is the check of the evidence of an evaluation.
* `storeEvaluation`, `evaluateExperiment` and `recordDecision` are the calls of the service.
What the evaluation of a challenger computes from the market tables is a parameter of its call
(`SpreadGuardSource`); its evidence and its comparison are modelled.
-/

namespace BpEngine.Improvement

open BpEngine.Features (Value)

/-! ## Rows -/

/-- A row of `improvement_experiments`. -/
structure ExperimentRow (F : Type) where
  experimentId : String
  experimentVersion : String
  horizonSeconds : ℤ
  changeFamily : String
  championCalibrationRunId : String
  championCalibrationSemanticSha256 : String
  hypothesis : String
  spec : SpecPayload F
  semanticSha256 : String
  createdAt : Timestamp

/-- A row of `improvement_evaluations`. -/
structure EvaluationRow (F : Type) where
  evaluationId : String
  evaluationVersion : String
  experimentId : String
  challengerId : String
  challengerSemanticSha256 : String
  evidenceManifest : List (EvidencePayload F)
  championMetrics : Entries F
  challengerMetrics : Entries F
  comparison : Entries F
  promotionEligible : Bool
  ineligibilityReasons : List String
  report : ReportPayload F
  semanticSha256 : String
  createdAt : Timestamp

/-- A row of `improvement_promotion_decisions`. -/
structure DecisionRow where
  decisionId : String
  decisionVersion : String
  evaluationId : String
  experimentId : String
  decision : String
  rationale : String
  resultingChampion : ChampionFields
  decisionRecord : DecisionPayload
  semanticSha256 : String
  createdAt : Timestamp

/-- The three tables. -/
structure Registry (F : Type) where
  experiments : List (ExperimentRow F) := []
  evaluations : List (EvaluationRow F) := []
  decisions : List DecisionRow := []

/-- A text that fits into its column. -/
def column (width : ℕ) (value : String) : Outcome String := do
  require (value.length ≤ width) .databaseError "value too long for type character varying"
  .ok value

/-- The row of the id has the same semantics, or a row is written. -/
def storeRow {Row : Type} (rows : List Row) (hasId same : Row → Bool) (written : Outcome Row)
    (conflict : String) : Outcome (List Row × Bool) :=
  match rows.find? hasId with
  | some row => do
    require (same row = true) .valueError conflict
    .ok (rows, false)
  | none => do
    let row ← written
    .ok (rows ++ [row], true)

section Repository

variable {F : Type} (N : Numbers F)

/-! ## Experiments -/

/-- `_validate_experiment`. -/
def validateExperiment (record : ExperimentSpec F) : Outcome (ExperimentSpec F) := do
  let rebuilt ← ExperimentSpec.build N record.toExperimentFields record.createdAt
  require (rebuilt.experimentId = record.experimentId ∧
      rebuilt.semanticSha256 = record.semanticSha256) .valueError
    ("experiment " ++ record.experimentId ++ " carries semantics inconsistent with its immutable id")
  .ok rebuilt

/-- The row of an experiment. -/
def experimentRow (rebuilt : ExperimentSpec F) (payload : SpecPayload F) :
    Outcome (ExperimentRow F) := do
  let championCalibrationRunId ← column 128 rebuilt.champion.calibrationRunId
  .ok
    { experimentId := rebuilt.experimentId
      experimentVersion := rebuilt.experimentVersion
      horizonSeconds := rebuilt.horizonSeconds
      changeFamily := rebuilt.changeFamily.value
      championCalibrationRunId
      championCalibrationSemanticSha256 := rebuilt.champion.calibrationSemanticSha256
      hypothesis := rebuilt.hypothesis
      spec := payload
      semanticSha256 := rebuilt.semanticSha256
      createdAt := rebuilt.createdAt }

/-- `ImprovementExperimentRepository.store`; `register_experiment`. -/
def storeExperiment (registry : Registry F) (record : ExperimentSpec F) :
    Outcome (Registry F × Bool) := do
  let rebuilt ← validateExperiment N record
  let payload ← rebuilt.payload N
  let stored ← storeRow registry.experiments (fun row => row.experimentId = rebuilt.experimentId)
    (fun row => row.semanticSha256 = rebuilt.semanticSha256 &&
      samePayload N row.spec.value payload.value)
    (experimentRow rebuilt payload)
    ("experiment " ++ rebuilt.experimentId ++ " already exists with different semantics")
  .ok ({ registry with experiments := stored.1 }, stored.2)

/-- `ImprovementExperimentRepository.get`. -/
def Registry.findExperiment (registry : Registry F) (experimentId : String) :
    Option (ExperimentRow F) :=
  registry.experiments.find? fun row => row.experimentId = experimentId

/-- `_parse_datetime`, with the check of the offset. -/
def parseDatetime (name text : String) : Outcome Timestamp :=
  match IsoTime.fromisoformat
      (String.ofList (text.toList.flatMap fun c => if c = 'Z' then "+00:00".toList else [c])) with
  | none => raise .valueError "Invalid isoformat string"
  | some parsed =>
    match parsed.offset with
    | none => raise .valueError (name ++ " must be timezone-aware")
    | some offset => .ok (parsed.wall - offset)

/-- `_experiment_from_row`. -/
def experimentFromRow (row : ExperimentRow F) : Outcome (ExperimentSpec F) := do
  let champion ← ChampionRef.create row.spec.champion
  let changeFamily ← ChangeFamily.ofValue row.spec.changeFamily
  let researchStart ← parseDatetime "research_start" row.spec.researchStart
  let researchEnd ← parseDatetime "research_end" row.spec.researchEnd
  let experiment ← ExperimentSpec.build N
    { experimentVersion := row.spec.experimentVersion
      hypothesis := row.spec.hypothesis
      horizonSeconds := row.spec.horizonSeconds
      changeFamily, champion
      challenger := row.spec.challenger
      sourceVersions := row.spec.sourceVersions
      researchStart, researchEnd
      selectionPolicy := row.spec.selectionPolicy
      confirmationPolicy := row.spec.confirmationPolicy
      costAssumptions := row.spec.costAssumptions
      primaryMetric := row.spec.primaryMetric
      guardrailMetrics := row.spec.guardrailMetrics
      legacyConfirmationIdentifiers := row.spec.legacyConfirmationIdentifiers }
    row.createdAt
  require (experiment.experimentId = row.experimentId ∧
      experiment.semanticSha256 = row.semanticSha256) .valueError
    ("experiment " ++ row.experimentId ++ " failed immutable reconstruction")
  .ok experiment

/-- `_load_experiment`. -/
def loadExperiment (registry : Registry F) (experimentId : String) : Outcome (ExperimentSpec F) :=
  match registry.findExperiment experimentId with
  | none => raise .valueError ("experiment " ++ experimentId ++ " is not registered")
  | some row => experimentFromRow N row

/-! ## Evidence -/

/-- The items of a collection. -/
def collectionItems : Value F → Option (List (Value F))
  | .list items => some items
  | .json (.arr items) => some (items.map .json)
  | _ => none

/-- The text of a value that is a text. -/
def textOf : Value F → Option String
  | .text value => some value
  | .json (.str value) => some value
  | _ => none

/-- `EvidenceRole(str(raw_role))`. -/
def policyRole (policyName : String) (rawRole : Value F) : Outcome EvidenceRole :=
  match (textOf rawRole).bind EvidenceRole.ofValue? with
  | some role => .ok role
  | none => raise .valueError (policyName ++ " contains unknown evidence role " ++ N.repr rawRole)

/-- `_policy_roles`. -/
def policyRoles (policyName : String) (policy : Entries F) : Outcome (List EvidenceRole) :=
  match collectionItems ((policy.lookup "allowed_roles").getD (.list [])) with
  | none => raise .valueError (policyName ++ " allowed_roles must be a collection")
  | some rawRoles => rawRoles.mapM (policyRole N policyName)

/-- `", ".join(sorted(role.value for role in roles))`. -/
def roleNames (roles : List EvidenceRole) : String :=
  String.intercalate ", " (sortedSet (roles.map EvidenceRole.value))

/-- The checks of the two policies. -/
def checkPolicies (selectionRoles confirmationRoles : List EvidenceRole) : Outcome Unit := do
  require (∀ role ∈ selectionRoles, role.isConfirmation = false) .valueError
    ("selection policy cannot include independent confirmation roles: " ++
      roleNames (selectionRoles.filter (·.isConfirmation)))
  require (∀ role ∈ selectionRoles, role.isSelection = true) .valueError
    ("selection policy contains non-development roles: " ++
      roleNames (selectionRoles.filter fun role => !role.isSelection))
  require (∀ role ∈ confirmationRoles, role.isConfirmation = true) .valueError
    ("confirmation policy contains non-confirmation roles: " ++
      roleNames (confirmationRoles.filter fun role => !role.isConfirmation))

/-- The checks of prospective paper evidence. -/
def checkProspective (frozenAt : Timestamp) (item : EvidenceItem F) : Outcome Unit := do
  require (item.predictionId.any (· ≠ "") = true) .valueError
    ("prospective paper evidence " ++ item.identifier ++ " requires prediction_id")
  require (frozenAt < item.observedAt) .valueError
    ("prospective paper evidence " ++ item.identifier ++ " must post-date challenger freeze")

/-- The body of `for item in evidence`. -/
def checkEvidence (experiment : ExperimentSpec F) (prior : List String)
    (selectionRoles confirmationRoles : List EvidenceRole) (item : EvidenceItem F) : Outcome Unit := do
  require (¬ (item.role.isSelection = true ∧ item.role ∉ selectionRoles)) .valueError
    ("evidence role " ++ item.role.value ++ " is not allowed by selection policy")
  if item.role.isConfirmation = false then .ok ()
  else do
    require (item.role ∈ confirmationRoles) .valueError
      ("evidence role " ++ item.role.value ++ " is not allowed by confirmation policy")
    require (item.identifier ∉ prior) .valueError
      ("confirmation evidence " ++ item.identifier ++ " was already consumed")
    require (¬ (item.role = .freshHoldout ∧
        (item.identifier ∈ experiment.legacyConfirmationIdentifiers ∨
          item.conditionId ∈ experiment.legacyConfirmationIdentifiers))) .valueError
      ("evidence " ++ item.identifier ++ " is a known legacy final holdout")
    if item.role = .prospectivePaper then checkProspective experiment.createdAt item else .ok ()

/-- `validate_evidence_manifest`. -/
def validateEvidenceManifest (experiment : ExperimentSpec F) (evidence : List (EvidenceItem F))
    (prior : List String) : Outcome Unit := do
  let selectionRoles ← policyRoles N "selection policy" experiment.selectionPolicy
  let confirmationRoles ← policyRoles N "confirmation policy" experiment.confirmationPolicy
  checkPolicies selectionRoles confirmationRoles
  evidence.forM (checkEvidence experiment prior selectionRoles confirmationRoles)

/-- The item of a stored manifest is of a confirmation role. -/
def EvidencePayload.isConfirmation (item : EvidencePayload F) : Bool :=
  item.role = "fresh_holdout" || item.role = "prospective_paper"

/-- `confirmation_identifiers_used_by_other_experiments`. -/
def usedByOtherExperiments (registry : Registry F) (experimentId : String)
    (identifiers : List String) : List String :=
  (registry.evaluations.filter fun row => row.experimentId ≠ experimentId).flatMap fun row =>
    (row.evidenceManifest.filter fun item =>
      item.isConfirmation && decide (item.identifier ∈ identifiers)).map (·.identifier)

/-! ## Evaluations -/

/-- `_validate_evaluation`. -/
def validateEvaluation (record : EvaluationReport F) : Outcome (EvaluationReport F) := do
  let rebuilt ← EvaluationReport.build N record.toEvaluationFields record.createdAt
  require (rebuilt.evaluationId = record.evaluationId ∧
      rebuilt.semanticSha256 = record.semanticSha256) .valueError
    ("evaluation " ++ record.evaluationId ++ " carries semantics inconsistent with its immutable id")
  .ok rebuilt

/-- The row of an evaluation. -/
def evaluationRow (rebuilt : EvaluationReport F) (payload : ReportPayload F) :
    Outcome (EvaluationRow F) := do
  let challengerId ← column 128 rebuilt.challengerId
  .ok
    { evaluationId := rebuilt.evaluationId
      evaluationVersion := rebuilt.evaluationVersion
      experimentId := rebuilt.experimentId
      challengerId
      challengerSemanticSha256 := rebuilt.challengerSemanticSha256
      evidenceManifest := payload.evidenceManifest
      championMetrics := payload.championMetrics
      challengerMetrics := payload.challengerMetrics
      comparison := payload.comparison
      promotionEligible := rebuilt.promotionEligible
      ineligibilityReasons := rebuilt.ineligibilityReasons
      report := payload
      semanticSha256 := rebuilt.semanticSha256
      createdAt := rebuilt.createdAt }

/-- `ImprovementEvaluationRepository.store`. -/
def storeReport (registry : Registry F) (record : EvaluationReport F) :
    Outcome (Registry F × Bool) := do
  let rebuilt ← validateEvaluation N record
  let payload ← rebuilt.payload N
  let stored ← storeRow registry.evaluations (fun row => row.evaluationId = rebuilt.evaluationId)
    (fun row => row.semanticSha256 = rebuilt.semanticSha256 &&
      samePayload N row.report.value payload.value)
    (evaluationRow rebuilt payload)
    ("evaluation " ++ rebuilt.evaluationId ++ " already exists with different semantics")
  .ok ({ registry with evaluations := stored.1 }, stored.2)

/-- `ImprovementEvaluationRepository.get`. -/
def Registry.findEvaluation (registry : Registry F) (evaluationId : String) :
    Option (EvaluationRow F) :=
  registry.evaluations.find? fun row => row.evaluationId = evaluationId

/-- `store_evaluation`. -/
def storeEvaluation (registry : Registry F) (report : EvaluationReport F) :
    Outcome (Registry F × Bool) := do
  let experiment ← loadExperiment N registry report.experimentId
  require (experiment.createdAt ≤ report.createdAt) .valueError
    ("evaluation " ++ report.evaluationId ++ " was created before experiment freeze")
  let identifiers := (report.evidenceManifest.filter (·.role.isConfirmation)).map (·.identifier)
  let prior := usedByOtherExperiments registry experiment.experimentId identifiers
  validateEvidenceManifest N experiment report.evidenceManifest prior
  storeReport N registry report

/-! ## The evaluation of a challenger -/

/-- `BootstrapInterval`. -/
structure BootstrapInterval (F : Type) where
  meanDelta : F
  lower : F
  upper : F
  resamples : ℤ
  pairedMarkets : ℤ

/-- `ComparisonResult`. -/
structure ComparisonResult (F : Type) where
  economicDelta : Option F
  economicInterval : Option (BootstrapInterval F)
  calibrationLogLossDelta : F
  calibrationBrierDelta : F
  promotionEligible : Bool
  ineligibilityReasons : List String

/-- `_finite_metric`. -/
def finiteMetric (value : F) (name : String) : Outcome F := do
  require (N.isFinite value = true) .valueError (name ++ " must be finite")
  .ok value

/-- The economic gate: the delta, and whether it is uncertain. -/
def economicGate : Option (BootstrapInterval F) → Outcome (Option F × Bool)
  | none => .ok (none, true)
  | some interval => do
    let delta ← finiteMetric N interval.meanDelta "economic_interval.mean_delta"
    let lower ← finiteMetric N interval.lower "economic_interval.lower"
    let _ ← finiteMetric N interval.upper "economic_interval.upper"
    .ok (some delta, N.le delta (N.ofInt 0) || N.le lower (N.ofInt 0))

/-- A reason of a set, when it applies. -/
def reasonIf (applies : Bool) (reason : String) : List String := if applies then [reason] else []

/-- `compare_policies`. -/
def comparePolicies (economicInterval : Option (BootstrapInterval F))
    (championLogLoss challengerLogLoss championBrier challengerBrier : F)
    (independentConfirmationPresent integrityOk : Bool) : Outcome (ComparisonResult F) := do
  let championLogLoss ← finiteMetric N championLogLoss "champion_log_loss"
  let challengerLogLoss ← finiteMetric N challengerLogLoss "challenger_log_loss"
  let championBrier ← finiteMetric N championBrier "champion_brier"
  let challengerBrier ← finiteMetric N challengerBrier "challenger_brier"
  let economic ← economicGate N economicInterval
  let logLossDelta := N.sub challengerLogLoss championLogLoss
  let brierDelta := N.sub challengerBrier championBrier
  let reasons := sortedSet (reasonIf economic.2 "economic_uncertainty_not_positive" ++
    reasonIf (N.lt (N.ofInt 0) logLossDelta) "calibration_log_loss_worse" ++
    reasonIf (N.lt (N.ofInt 0) brierDelta) "calibration_brier_worse" ++
    reasonIf (!independentConfirmationPresent) "independent_confirmation_missing" ++
    reasonIf (!integrityOk) "integrity_violation")
  .ok
    { economicDelta := economic.1
      economicInterval
      calibrationLogLossDelta := logLossDelta
      calibrationBrierDelta := brierDelta
      promotionEligible := reasons.isEmpty
      ineligibilityReasons := reasons }

/-- What `_analyze_legacy_source` and the bootstrap compute from the tables of the markets. -/
structure SpreadGuardSource (F : Type) where
  challengerSemanticSha256 : String
  challengerConfig : Entries F
  /-- The conditions of the rows of the dataset, and the ends of their markets. -/
  rows : List (String × Timestamp)
  ordinaryNetPnl : List (String × F)
  legacyHoldoutIds : List String
  championMetrics : PolicyMetrics F
  challengerMetrics : PolicyMetrics F
  interval : BootstrapInterval F

/-- An item of ordinary out-of-sample evidence. -/
def ordinaryItem (source : SpreadGuardSource F) (kind conditionId : String) (netPnl : Option F) :
    Outcome (EvidenceItem F) :=
  match source.rows.lookup conditionId with
  | none => raise .valueError (kind ++ " evidence row missing: " ++ conditionId)
  | some marketEndAt => do
    let item : EvidenceItem F :=
      { identifier := conditionId
        role := .ordinaryOos
        conditionId
        predictionId := none
        observedAt := marketEndAt
        resolved := true
        netPnl }
    item.check N
    .ok item

/-- `_evidence_manifest`. -/
def evidenceManifest (source : SpreadGuardSource F) : Outcome (List (EvidenceItem F)) := do
  let ordinary ← ((source.ordinaryNetPnl.map (·.1)).insertionSort (· ≤ ·)).mapM fun conditionId =>
    ordinaryItem N source "ordinary OOS" conditionId (source.ordinaryNetPnl.lookup conditionId)
  let legacy ← (source.legacyHoldoutIds.insertionSort (· ≤ ·)).mapM fun conditionId =>
    ordinaryItem N source "legacy holdout" conditionId none
  .ok (ordinary ++ legacy)

def BootstrapInterval.value (interval : BootstrapInterval F) : Value F :=
  .obj [("mean_delta", .float interval.meanDelta), ("lower", .float interval.lower),
    ("upper", .float interval.upper), ("resamples", .int interval.resamples),
    ("paired_markets", .int interval.pairedMarkets)]

/-- `comparison_payload`. -/
def comparisonEntries (comparison : ComparisonResult F) (independentConfirmationPresent : Bool) :
    Entries F :=
  [("economic_delta", (comparison.economicDelta.map Value.float).getD .none),
    ("economic_interval", (comparison.economicInterval.map BootstrapInterval.value).getD .none),
    ("calibration_log_loss_delta", .float comparison.calibrationLogLossDelta),
    ("calibration_brier_delta", .float comparison.calibrationBrierDelta),
    ("promotion_eligible", .bool comparison.promotionEligible),
    ("ineligibility_reasons", texts comparison.ineligibilityReasons),
    ("independent_confirmation_present", .bool independentConfirmationPresent),
    ("integrity_ok", .bool true),
    ("bootstrap_seed_scope", .text "ordinary-oos-paired-bootstrap-v1")]

/-- `experiment.challenger.get("kind") == "spread_guard_v1"`. -/
def isSpreadGuard (experiment : ExperimentSpec F) : Bool :=
  (experiment.challenger.lookup "kind").bind textOf = some "spread_guard_v1"

/-- `evaluate_spread_guard_challenger`. -/
def evaluateSpreadGuardChallenger (registry : Registry F) (experimentId : String)
    (createdAt : Timestamp) (analyse : ExperimentSpec F → Outcome (SpreadGuardSource F)) :
    Outcome (EvaluationReport F) := do
  let experiment ← loadExperiment N registry experimentId
  require (experiment.horizonSeconds = 300) .valueError
    "spread challenger is restricted to the 5m horizon"
  require (isSpreadGuard experiment = true) .valueError "experiment is not a spread_guard_v1 challenger"
  require (experiment.createdAt ≤ createdAt) .valueError
    "evaluation cannot pre-date challenger freeze"
  let source ← analyse experiment
  let manifest ← evidenceManifest N source
  let present := manifest.any (·.role.isConfirmation)
  let comparison ← comparePolicies N (some source.interval) source.championMetrics.calibratedLogLoss
    source.challengerMetrics.calibratedLogLoss source.championMetrics.calibratedBrier
    source.challengerMetrics.calibratedBrier present true
  let challengerId ← deriveId "phase13-spread" source.challengerSemanticSha256
  EvaluationReport.build N
    { evaluationVersion := Improvement.evaluationVersion
      experimentId := experiment.experimentId
      challengerId
      challengerSemanticSha256 := source.challengerSemanticSha256
      challengerConfig := source.challengerConfig
      evidenceManifest := manifest
      championMetrics := source.championMetrics
      challengerMetrics := source.challengerMetrics
      comparison := comparisonEntries comparison present
      promotionEligible := comparison.promotionEligible
      ineligibilityReasons := comparison.ineligibilityReasons }
    createdAt

/-- `evaluate_experiment`. -/
def evaluateExperiment (registry : Registry F) (experimentId : String) (createdAt : Timestamp)
    (analyse : ExperimentSpec F → Outcome (SpreadGuardSource F)) :
    Outcome (Registry F × EvaluationReport F) := do
  let experiment ← loadExperiment N registry experimentId
  require (isSpreadGuard experiment = true) .valueError
    ("unsupported challenger kind for evaluation: " ++
      N.repr ((experiment.challenger.lookup "kind").getD .none))
  let report ← evaluateSpreadGuardChallenger N registry experimentId createdAt analyse
  let stored ← storeEvaluation N registry report
  .ok (stored.1, report)

/-! ## Decisions -/

/-- `_validate_decision`. -/
def validateDecision (record : Decision) : Outcome Decision := do
  let rebuilt ← Decision.build N record.toDecisionFields record.createdAt
  require (rebuilt.decisionId = record.decisionId ∧
      rebuilt.semanticSha256 = record.semanticSha256) .valueError
    ("decision " ++ record.decisionId ++ " carries semantics inconsistent with its immutable id")
  .ok rebuilt

/-- The row of a decision. -/
def decisionRow (rebuilt : Decision) : Outcome DecisionRow := do
  let evaluationId ← column 128 rebuilt.evaluationId
  .ok
    { decisionId := rebuilt.decisionId
      decisionVersion := rebuilt.decisionVersion
      evaluationId
      experimentId := rebuilt.experimentId
      decision := rebuilt.decision.value
      rationale := rebuilt.rationale
      resultingChampion := rebuilt.resultingChampion.toChampionFields
      decisionRecord := rebuilt.payload
      semanticSha256 := rebuilt.semanticSha256
      createdAt := rebuilt.createdAt }

/-- `ImprovementPromotionDecisionRepository.store`. -/
def storeDecision (registry : Registry F) (record : Decision) : Outcome (Registry F × Bool) := do
  let rebuilt ← validateDecision N record
  let stored ← storeRow registry.decisions (fun row => row.decisionId = rebuilt.decisionId)
    (fun row => row.semanticSha256 = rebuilt.semanticSha256 &&
      decide (row.decisionRecord = rebuilt.payload))
    (decisionRow rebuilt)
    ("decision " ++ rebuilt.decisionId ++ " already exists with different semantics")
  .ok ({ registry with decisions := stored.1 }, stored.2)

/-- `record_decision`. -/
def recordDecision (registry : Registry F) (evaluationId : String) (decision : PromotionDecision)
    (rationale : String) (createdAt : Timestamp) : Outcome (Registry F × Decision) :=
  match registry.findEvaluation evaluationId with
  | none => raise .valueError ("evaluation " ++ evaluationId ++ " does not exist")
  | some evaluation => do
    require (strip rationale ≠ "") .valueError "rationale must not be blank"
    require (evaluation.createdAt ≤ createdAt) .valueError
      ("decision for evaluation " ++ evaluationId ++ " was created before evaluation")
    require (¬ (decision = .promoteChallenger ∧ evaluation.promotionEligible = false)) .valueError
      ("evaluation " ++ evaluationId ++ " is not promotion eligible")
    let experiment ← loadExperiment N registry evaluation.experimentId
    let record ← Decision.build N
      { decisionVersion := Improvement.decisionVersion
        evaluationId
        experimentId := experiment.experimentId
        decision
        rationale
        resultingChampion := experiment.champion }
      createdAt
    let stored ← storeDecision N registry record
    .ok (stored.1, record)

/-! ## Commands -/

/-- A call on the registry. -/
inductive Command (F : Type) where
  | register (spec : ExperimentSpec F)
  | store (report : EvaluationReport F)
  | evaluate (experimentId : String) (createdAt : Timestamp)
      (analyse : ExperimentSpec F → Outcome (SpreadGuardSource F))
  | decide (evaluationId : String) (decision : PromotionDecision) (rationale : String)
      (createdAt : Timestamp)

/-- What a call leaves: an exception rolls its transaction back. -/
def committed {α : Type} (registry : Registry F) (outcome : Outcome (Registry F × α)) : Registry F :=
  match outcome with
  | .ok (after, _) => after
  | .error _ => registry

/-- The registry after a call. -/
def commandStep (registry : Registry F) : Command F → Registry F
  | .register spec => committed registry (storeExperiment N registry spec)
  | .store report => committed registry (storeEvaluation N registry report)
  | .evaluate experimentId createdAt analyse =>
    committed registry (evaluateExperiment N registry experimentId createdAt analyse)
  | .decide evaluationId decision rationale createdAt =>
    committed registry (recordDecision N registry evaluationId decision rationale createdAt)

end Repository

end BpEngine.Improvement
