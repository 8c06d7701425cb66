import BpEngine.Execution.NumberText
import BpEngine.Features.Groups
import Mathlib.Data.Prod.Lex
import Mathlib.Data.String.Basic

/-!
# The records of the improvement registry

`improvement/hashing.py` and `improvement/models.py`: experiments, evaluations and promotion decisions,
each named after the digest of its own semantics.  The exceptions of this package are subclasses of
`ValueError`, which the model raises for them.

* `canonicalPayload` is the canonical form of a value, `deriveId` the id made of a digest.
* `ExperimentSpec.build`, `EvaluationReport.build` and `Decision.build` check and normalise their fields
  and compute the digest of the payload, which is a record of its own: `SpecPayload`, `ReportPayload`
  and `DecisionPayload`.
Binary floats are a parameter (`Numbers`), with the digest and the text of a value.
-/

namespace BpEngine.Improvement

open BpEngine.Features (Value)

/-- Binary floats, comparisons, the SHA-256 of the JSON text of a canonical value, and `repr`. -/
structure Numbers (F : Type) where
  isFinite : F → Bool
  le : F → F → Bool
  lt : F → F → Bool
  sub : F → F → F
  ofInt : ℤ → F
  sha256 : Value F → HexDigest
  repr : Value F → String
  /-- `==` of two values of which neither is a mapping or a list that was made canonical. -/
  same : Value F → Value F → Bool

/-- A mapping. -/
abbrev Entries (F : Type) := List (String × Value F)

/-! ## Canonical payloads -/

/-- `value.astimezone(UTC).isoformat().replace("+00:00", "Z")`: the offset is at the end. -/
def zulu (time : Timestamp) : String :=
  String.ofList (IsoTime.dateText (IsoTime.civilOfDays (time / 86400000000)) ++
    'T' :: IsoTime.timeText (time % 86400000000).toNat ++ ['Z'])

/-- The canonical form of a time; outside the years 1 to 9999 `astimezone` raises. -/
def canonicalTime (time : Timestamp) : Outcome String :=
  if IsoTime.InRange time then .ok (zulu time) else raise .overflowError "date value out of range"

section Canonical

variable {F : Type} (N : Numbers F)

/-- A float that is finite. -/
def finiteFloat (value : F) : Outcome F := do
  require (N.isFinite value = true) .valueError "float values must be finite"
  .ok value

mutual

/-- `canonical_payload`; enumerations and records are written as texts and mappings. -/
def canonicalPayload : Value F → Outcome (Value F)
  | .time value => do .ok (.text (← canonicalTime value))
  | .decimal value => do .ok (.text (← Features.decimalText value))
  | .float value => do .ok (.float (← finiteFloat N value))
  | .obj entries => do .ok (.obj (← canonicalEntries entries))
  | .list items => do .ok (.list (← canonicalItems items))
  | value => .ok value

def canonicalEntries : List (String × Value F) → Outcome (List (String × Value F))
  | [] => .ok []
  | (key, value) :: entries => do
    let first ← canonicalPayload value
    let rest ← canonicalEntries entries
    .ok ((key, first) :: rest)

def canonicalItems : List (Value F) → Outcome (List (Value F))
  | [] => .ok []
  | item :: items => do
    let first ← canonicalPayload item
    let rest ← canonicalItems items
    .ok (first :: rest)

end

mutual

/-- `==` of two canonical values. -/
def samePayload : Value F → Value F → Bool
  | .obj a, .obj b => a.length = b.length && sameEntries a b
  | .list a, .list b => sameItems a b
  | a, b => N.same a b

/-- Every entry of the first mapping is in the second. -/
def sameEntries : List (String × Value F) → List (String × Value F) → Bool
  | [], _ => true
  | (key, value) :: a, b =>
    (match b.lookup key with
      | some other => samePayload value other
      | none => false) && sameEntries a b

def sameItems : List (Value F) → List (Value F) → Bool
  | [], [] => true
  | a :: as, b :: bs => samePayload a b && sameItems as bs
  | _, _ => false

end

end Canonical

/-- `derive_id`. -/
def deriveId (stem digest : String) : Outcome String := do
  require (strip stem ≠ "") .valueError "prefix must not be blank"
  require (digest.length = 64) .valueError "digest must be a 64-character SHA-256 digest"
  .ok (stem ++ "-" ++ String.ofList (digest.toList.take 32))

/-! ## Enumerations -/

/-- `ChangeFamily`. -/
inductive ChangeFamily where
  | feature
  | model
  | calibration
  | timing
  | abstention
  | costAssumption
deriving DecidableEq, Repr

def ChangeFamily.value : ChangeFamily → String
  | .feature => "feature"
  | .model => "model"
  | .calibration => "calibration"
  | .timing => "timing"
  | .abstention => "abstention"
  | .costAssumption => "cost_assumption"

/-- `EvidenceRole`. -/
inductive EvidenceRole where
  | developmentTrain
  | developmentValidation
  | ordinaryOos
  | freshHoldout
  | prospectivePaper
deriving DecidableEq, Repr

def EvidenceRole.value : EvidenceRole → String
  | .developmentTrain => "development_train"
  | .developmentValidation => "development_validation"
  | .ordinaryOos => "ordinary_oos"
  | .freshHoldout => "fresh_holdout"
  | .prospectivePaper => "prospective_paper"

/-- `PromotionDecision`. -/
inductive PromotionDecision where
  | rejectChallenger
  | keepChampion
  | promoteChallenger
deriving DecidableEq, Repr

def PromotionDecision.value : PromotionDecision → String
  | .rejectChallenger => "reject_challenger"
  | .keepChampion => "keep_champion"
  | .promoteChallenger => "promote_challenger"

def ChangeFamily.all : List ChangeFamily :=
  [.feature, .model, .calibration, .timing, .abstention, .costAssumption]

def EvidenceRole.all : List EvidenceRole :=
  [.developmentTrain, .developmentValidation, .ordinaryOos, .freshHoldout, .prospectivePaper]

/-- `ChangeFamily(text)`. -/
def ChangeFamily.ofValue (text : String) : Outcome ChangeFamily :=
  match ChangeFamily.all.find? fun family => family.value = text with
  | some family => .ok family
  | none => raise .valueError (Json.quoted text ++ " is not a valid ChangeFamily")

/-- `EvidenceRole(text)`, unless it raises. -/
def EvidenceRole.ofValue? (text : String) : Option EvidenceRole :=
  EvidenceRole.all.find? fun role => role.value = text

/-- `_CONFIRMATION_ROLES`. -/
def EvidenceRole.isConfirmation : EvidenceRole → Bool
  | .freshHoldout | .prospectivePaper => true
  | _ => false

/-- `_SELECTION_ROLES`. -/
def EvidenceRole.isSelection : EvidenceRole → Bool
  | .developmentTrain | .developmentValidation => true
  | _ => false

/-! ## Checks -/

/-- `_require_nonblank`. -/
def requireNonblank (name value : String) : Outcome String := do
  require (strip value ≠ "") .valueError (name ++ " must not be blank")
  .ok (strip value)

/-- `_require_sha256`. -/
def requireSha256 (name value : String) : Outcome Unit :=
  require (value.length = 64) .valueError (name ++ " must be a 64-character SHA-256 digest")

/-- `tuple(sorted(set(..)))` of texts. -/
def sortedSet (texts : List String) : List String := texts.dedup.insertionSort (· ≤ ·)

/-! ## Champions -/

/-- The fields of a champion. -/
structure ChampionFields where
  calibrationRunId : String
  calibrationSemanticSha256 : String
  backtestRunId : String
  backtestSemanticSha256 : String
  trainingRunId : String
  trainingSemanticSha256 : String
deriving DecidableEq

/-- `ChampionRef.__post_init__`. -/
def ChampionFields.check (c : ChampionFields) : Outcome Unit := do
  let _ ← requireNonblank "calibration_run_id" c.calibrationRunId
  let _ ← requireNonblank "backtest_run_id" c.backtestRunId
  let _ ← requireNonblank "training_run_id" c.trainingRunId
  requireSha256 "calibration_semantic_sha256" c.calibrationSemanticSha256
  requireSha256 "backtest_semantic_sha256" c.backtestSemanticSha256
  requireSha256 "training_semantic_sha256" c.trainingSemanticSha256

/-- `ChampionRef`: fields that have passed the check. -/
structure ChampionRef extends ChampionFields where
  checked : toChampionFields.check = .ok ()

/-- `ChampionRef(..)`. -/
def ChampionRef.create (fields : ChampionFields) : Outcome ChampionRef :=
  match h : fields.check with
  | .ok () => .ok ⟨fields, h⟩
  | .error raised => .error raised

theorem ChampionRef.create_self (c : ChampionRef) : ChampionRef.create c.toChampionFields = .ok c := by
  obtain ⟨fields, checked⟩ := c
  unfold ChampionRef.create
  split
  · rfl
  · next raised h =>
    rw [checked] at h
    cases h

def ChampionFields.payload {F : Type} (c : ChampionFields) : Value F :=
  .obj [("calibration_run_id", .text c.calibrationRunId),
    ("calibration_semantic_sha256", .text c.calibrationSemanticSha256),
    ("backtest_run_id", .text c.backtestRunId),
    ("backtest_semantic_sha256", .text c.backtestSemanticSha256),
    ("training_run_id", .text c.trainingRunId),
    ("training_semantic_sha256", .text c.trainingSemanticSha256)]

/-! ## Experiments -/

/-- `EXPERIMENT_VERSION`. -/
def experimentVersion : String := "improvement-experiment-v1"

/-- The arguments of `ImprovementExperimentSpec.build`, but for the time. -/
structure ExperimentFields (F : Type) where
  experimentVersion : String
  hypothesis : String
  horizonSeconds : ℤ
  changeFamily : ChangeFamily
  champion : ChampionRef
  challenger : Entries F
  sourceVersions : Entries F
  researchStart : Timestamp
  researchEnd : Timestamp
  selectionPolicy : Entries F
  confirmationPolicy : Entries F
  costAssumptions : Entries F
  primaryMetric : String
  guardrailMetrics : List String
  legacyConfirmationIdentifiers : List String

/-- `ImprovementExperimentSpec`. -/
structure ExperimentSpec (F : Type) extends ExperimentFields F where
  experimentId : String
  semanticSha256 : String
  createdAt : Timestamp

/-- The canonical payload of an experiment, which is also its `spec` column. -/
structure SpecPayload (F : Type) where
  experimentVersion : String
  hypothesis : String
  horizonSeconds : ℤ
  changeFamily : String
  champion : ChampionFields
  challenger : Entries F
  sourceVersions : Entries F
  researchStart : String
  researchEnd : String
  selectionPolicy : Entries F
  confirmationPolicy : Entries F
  costAssumptions : Entries F
  primaryMetric : String
  guardrailMetrics : List String
  legacyConfirmationIdentifiers : List String

def texts {F : Type} (items : List String) : Value F := .list (items.map .text)

/-- The payload as a mapping. -/
def SpecPayload.value {F : Type} (p : SpecPayload F) : Value F :=
  .obj [("experiment_version", .text p.experimentVersion), ("hypothesis", .text p.hypothesis),
    ("horizon_seconds", .int p.horizonSeconds), ("change_family", .text p.changeFamily),
    ("champion", p.champion.payload), ("challenger", .obj p.challenger),
    ("source_versions", .obj p.sourceVersions), ("research_start", .text p.researchStart),
    ("research_end", .text p.researchEnd), ("selection_policy", .obj p.selectionPolicy),
    ("confirmation_policy", .obj p.confirmationPolicy),
    ("cost_assumptions", .obj p.costAssumptions), ("primary_metric", .text p.primaryMetric),
    ("guardrail_metrics", texts p.guardrailMetrics),
    ("legacy_confirmation_identifiers", texts p.legacyConfirmationIdentifiers)]

section Build

variable {F : Type} (N : Numbers F)

/-- `semantic_sha256` of a canonical value. -/
def Numbers.digest (value : Value F) : String := (N.sha256 value).1

/-- `_experiment_payload`. -/
def ExperimentFields.payload (record : ExperimentFields F) : Outcome (SpecPayload F) := do
  let challenger ← canonicalEntries N record.challenger
  let sourceVersions ← canonicalEntries N record.sourceVersions
  let researchStart ← canonicalTime record.researchStart
  let researchEnd ← canonicalTime record.researchEnd
  let selectionPolicy ← canonicalEntries N record.selectionPolicy
  let confirmationPolicy ← canonicalEntries N record.confirmationPolicy
  let costAssumptions ← canonicalEntries N record.costAssumptions
  .ok
    { experimentVersion := record.experimentVersion
      hypothesis := record.hypothesis
      horizonSeconds := record.horizonSeconds
      changeFamily := record.changeFamily.value
      champion := record.champion.toChampionFields
      challenger, sourceVersions, researchStart, researchEnd, selectionPolicy, confirmationPolicy
      costAssumptions
      primaryMetric := record.primaryMetric
      guardrailMetrics := record.guardrailMetrics
      legacyConfirmationIdentifiers := record.legacyConfirmationIdentifiers }

/-- The checks of `build`, and the normalised fields. -/
def ExperimentFields.normalise (fields : ExperimentFields F) : Outcome (ExperimentFields F) := do
  require (fields.experimentVersion = Improvement.experimentVersion) .valueError
    ("experiment_version must be " ++ Improvement.experimentVersion)
  let hypothesis ← requireNonblank "hypothesis" fields.hypothesis
  require (0 < fields.horizonSeconds) .valueError "horizon_seconds must be positive"
  require (fields.researchStart < fields.researchEnd) .valueError
    "research_start must be before research_end"
  let primaryMetric ← requireNonblank "primary_metric" fields.primaryMetric
  require (fields.guardrailMetrics ≠ []) .valueError "guardrail_metrics must not be empty"
  let guardrailMetrics ← fields.guardrailMetrics.mapM (requireNonblank "guardrail_metrics")
  .ok
    { fields with
      hypothesis, primaryMetric, guardrailMetrics
      legacyConfirmationIdentifiers := sortedSet fields.legacyConfirmationIdentifiers }

/-- `ImprovementExperimentSpec.build`. -/
def ExperimentSpec.build (fields : ExperimentFields F) (createdAt : Timestamp) :
    Outcome (ExperimentSpec F) := do
  let normalised ← fields.normalise
  let payload ← normalised.payload N
  let experimentId ← deriveId "phase13-exp" (N.digest payload.value)
  .ok { toExperimentFields := normalised, experimentId, semanticSha256 := N.digest payload.value, createdAt }

/-! ## Evaluations -/

/-- `EVALUATION_VERSION`. -/
def evaluationVersion : String := "improvement-evaluation-v1"

/-- `EvidenceItem`. -/
structure EvidenceItem (F : Type) where
  identifier : String
  role : EvidenceRole
  conditionId : String
  predictionId : Option String
  observedAt : Timestamp
  resolved : Bool
  netPnl : Option F

/-- `EvidenceItem.__post_init__`. -/
def EvidenceItem.check (item : EvidenceItem F) : Outcome Unit := do
  let _ ← requireNonblank "identifier" item.identifier
  let _ ← requireNonblank "condition_id" item.conditionId
  item.predictionId.toList.forM fun predictionId => do
    let _ ← requireNonblank "prediction_id" predictionId
    .ok ()
  require (item.netPnl.all (N.isFinite ·) = true) .valueError "net_pnl must be finite"

/-- `PolicyMetrics`. -/
structure PolicyMetrics (F : Type) where
  calibratedLogLoss : F
  calibratedBrier : F
  ece : F
  accuracy : F
  tradeCount : ℤ
  tradeCoverage : F
  totalNetPnl : F
  meanNetPnlPerTrade : F
  maxDrawdown : F
  maxLosingStreak : ℤ
  unresolvedCount : ℤ
  missingUnexecutableCount : ℤ

/-- The mapping of the metrics. -/
def PolicyMetrics.entries (m : PolicyMetrics F) : Entries F :=
  [("calibrated_log_loss", .float m.calibratedLogLoss), ("calibrated_brier", .float m.calibratedBrier),
    ("ece", .float m.ece), ("accuracy", .float m.accuracy), ("trade_count", .int m.tradeCount),
    ("trade_coverage", .float m.tradeCoverage), ("total_net_pnl", .float m.totalNetPnl),
    ("mean_net_pnl_per_trade", .float m.meanNetPnlPerTrade), ("max_drawdown", .float m.maxDrawdown),
    ("max_losing_streak", .int m.maxLosingStreak), ("unresolved_count", .int m.unresolvedCount),
    ("missing_unexecutable_count", .int m.missingUnexecutableCount)]

/-- The arguments of `ImprovementEvaluationReport.build`, but for the time. -/
structure EvaluationFields (F : Type) where
  evaluationVersion : String
  experimentId : String
  challengerId : String
  challengerSemanticSha256 : String
  challengerConfig : Entries F
  evidenceManifest : List (EvidenceItem F)
  championMetrics : PolicyMetrics F
  challengerMetrics : PolicyMetrics F
  comparison : Entries F
  promotionEligible : Bool
  ineligibilityReasons : List String

/-- `ImprovementEvaluationReport`. -/
structure EvaluationReport (F : Type) extends EvaluationFields F where
  evaluationId : String
  semanticSha256 : String
  createdAt : Timestamp

/-- The canonical payload of an item of evidence. -/
structure EvidencePayload (F : Type) where
  identifier : String
  role : String
  conditionId : String
  predictionId : Option String
  observedAt : String
  resolved : Bool
  netPnl : Option F

def EvidencePayload.value (p : EvidencePayload F) : Value F :=
  .obj [("identifier", .text p.identifier), ("role", .text p.role),
    ("condition_id", .text p.conditionId),
    ("prediction_id", (p.predictionId.map Value.text).getD .none),
    ("observed_at", .text p.observedAt), ("resolved", .bool p.resolved),
    ("net_pnl", (p.netPnl.map Value.float).getD .none)]

def EvidenceItem.payload (item : EvidenceItem F) : Outcome (EvidencePayload F) := do
  let observedAt ← canonicalTime item.observedAt
  item.netPnl.toList.forM fun netPnl => do
    let _ ← finiteFloat N netPnl
    .ok ()
  .ok
    { identifier := item.identifier
      role := item.role.value
      conditionId := item.conditionId
      predictionId := item.predictionId
      observedAt
      resolved := item.resolved
      netPnl := item.netPnl }

/-- The canonical payload of an evaluation, which is also its `report` column. -/
structure ReportPayload (F : Type) where
  evaluationVersion : String
  experimentId : String
  challengerId : String
  challengerSemanticSha256 : String
  challengerConfig : Entries F
  evidenceManifest : List (EvidencePayload F)
  championMetrics : Entries F
  challengerMetrics : Entries F
  comparison : Entries F
  promotionEligible : Bool
  ineligibilityReasons : List String

/-- The payload as a mapping. -/
def ReportPayload.value (p : ReportPayload F) : Value F :=
  .obj [("evaluation_version", .text p.evaluationVersion), ("experiment_id", .text p.experimentId),
    ("challenger_id", .text p.challengerId),
    ("challenger_semantic_sha256", .text p.challengerSemanticSha256),
    ("challenger_config", .obj p.challengerConfig),
    ("evidence_manifest", .list (p.evidenceManifest.map EvidencePayload.value)),
    ("champion_metrics", .obj p.championMetrics), ("challenger_metrics", .obj p.challengerMetrics),
    ("comparison", .obj p.comparison), ("promotion_eligible", .bool p.promotionEligible),
    ("ineligibility_reasons", texts p.ineligibilityReasons)]

/-- `_evaluation_payload`. -/
def EvaluationFields.payload (record : EvaluationFields F) : Outcome (ReportPayload F) := do
  let challengerConfig ← canonicalEntries N record.challengerConfig
  let evidenceManifest ← record.evidenceManifest.mapM (EvidenceItem.payload N)
  let championMetrics ← canonicalEntries N record.championMetrics.entries
  let challengerMetrics ← canonicalEntries N record.challengerMetrics.entries
  let comparison ← canonicalEntries N record.comparison
  .ok
    { evaluationVersion := record.evaluationVersion
      experimentId := record.experimentId
      challengerId := record.challengerId
      challengerSemanticSha256 := record.challengerSemanticSha256
      challengerConfig, evidenceManifest, championMetrics, challengerMetrics, comparison
      promotionEligible := record.promotionEligible
      ineligibilityReasons := record.ineligibilityReasons }

/-- `sorted(evidence_manifest, key=lambda item: (item.role.value, item.identifier))`. -/
def sortedEvidence (items : List (EvidenceItem F)) : List (EvidenceItem F) :=
  items.insertionSort fun a b =>
    toLex (a.role.value, a.identifier) ≤ toLex (b.role.value, b.identifier)

/-- The checks of `build`, and the normalised fields. -/
def EvaluationFields.normalise (fields : EvaluationFields F) : Outcome (EvaluationFields F) := do
  require (fields.evaluationVersion = Improvement.evaluationVersion) .valueError
    ("evaluation_version must be " ++ Improvement.evaluationVersion)
  let experimentId ← requireNonblank "experiment_id" fields.experimentId
  let challengerId ← requireNonblank "challenger_id" fields.challengerId
  requireSha256 "challenger_semantic_sha256" fields.challengerSemanticSha256
  let reasons ← fields.ineligibilityReasons.mapM (requireNonblank "ineligibility_reasons")
  require (¬ (fields.promotionEligible = true ∧ sortedSet reasons ≠ [])) .valueError
    "promotion_eligible evaluation cannot contain ineligibility_reasons"
  .ok
    { fields with
      experimentId, challengerId
      evidenceManifest := sortedEvidence fields.evidenceManifest
      ineligibilityReasons := sortedSet reasons }

/-- `ImprovementEvaluationReport.build`. -/
def EvaluationReport.build (fields : EvaluationFields F) (createdAt : Timestamp) :
    Outcome (EvaluationReport F) := do
  let normalised ← fields.normalise
  let payload ← normalised.payload N
  let evaluationId ← deriveId "phase13-eval" (N.digest payload.value)
  .ok { toEvaluationFields := normalised, evaluationId, semanticSha256 := N.digest payload.value, createdAt }

/-! ## Decisions -/

/-- `DECISION_VERSION`. -/
def decisionVersion : String := "improvement-decision-v1"

/-- The arguments of `ImprovementPromotionDecision.build`, but for the time. -/
structure DecisionFields where
  decisionVersion : String
  evaluationId : String
  experimentId : String
  decision : PromotionDecision
  rationale : String
  resultingChampion : ChampionRef

/-- `ImprovementPromotionDecision`. -/
structure Decision extends DecisionFields where
  decisionId : String
  semanticSha256 : String
  createdAt : Timestamp

/-- The canonical payload of a decision, which is also its `decision_record` column. -/
structure DecisionPayload where
  decisionVersion : String
  evaluationId : String
  experimentId : String
  decision : String
  rationale : String
  resultingChampion : ChampionFields
deriving DecidableEq

def DecisionPayload.value (p : DecisionPayload) : Value F :=
  .obj [("decision_version", .text p.decisionVersion), ("evaluation_id", .text p.evaluationId),
    ("experiment_id", .text p.experimentId), ("decision", .text p.decision),
    ("rationale", .text p.rationale), ("resulting_champion", p.resultingChampion.payload)]

/-- `_decision_payload`. -/
def DecisionFields.payload (record : DecisionFields) : DecisionPayload :=
  ⟨record.decisionVersion, record.evaluationId, record.experimentId, record.decision.value,
    record.rationale, record.resultingChampion.toChampionFields⟩

/-- The checks of `build`, and the normalised fields. -/
def DecisionFields.normalise (fields : DecisionFields) : Outcome DecisionFields := do
  require (fields.decisionVersion = Improvement.decisionVersion) .valueError
    ("decision_version must be " ++ Improvement.decisionVersion)
  let evaluationId ← requireNonblank "evaluation_id" fields.evaluationId
  let experimentId ← requireNonblank "experiment_id" fields.experimentId
  let rationale ← requireNonblank "rationale" fields.rationale
  .ok { fields with evaluationId, experimentId, rationale }

/-- `ImprovementPromotionDecision.build`. -/
def Decision.build (fields : DecisionFields) (createdAt : Timestamp) : Outcome Decision := do
  let normalised ← fields.normalise
  let digest := N.digest normalised.payload.value
  let decisionId ← deriveId "phase13-decision" digest
  .ok { toDecisionFields := normalised, decisionId, semanticSha256 := digest, createdAt }

end Build

end BpEngine.Improvement
