import BpEngine.Features.Service
import BpEngine.PaperLedger.Evaluation
import BpEngine.Prospective.Edge

/-!
# The supervised dataset

`modeling/dataset.py`: the stored features of a window are joined with the labels, and every record of
the join becomes a row with its predictors and its target.

* `LabelTable` is the table of labels, with its unique constraint.
* `datasetRow` is one record, `loadDataset` the dataset as a calibration loads it: of all the markets
  of a window and with no cutoff of the labels.
A `DatasetIntegrityError` is a `RuntimeError`.  The digest of a dataset is a parameter.
-/

namespace BpEngine.Calibration

open BpEngine.Features BpEngine.PaperLedger BpEngine.Prospective

variable {F : Type}

/-! ## Records -/

/-- `SupervisedRow`. -/
structure SupervisedRow (F : Type) where
  conditionId : String
  slug : String
  horizonSeconds : ℤ
  marketStartAt : Timestamp
  marketEndAt : Timestamp
  featureAt : Timestamp
  featureOffsetSeconds : ℤ
  predictors : Predictors F
  target : ℤ
  featureHash : String
  inputFingerprint : String

/-- `DatasetSnapshot`. -/
structure DatasetSnapshot (F : Type) where
  datasetVersion : String
  featureVersion : String
  labelVersion : String
  horizonSeconds : ℤ
  start : Timestamp
  finish : Timestamp
  rows : List (SupervisedRow F)
  predictorNames : List String
  datasetSha256 : String

/-- `market_labels`: one label for a market and a version. -/
structure LabelTable where
  rows : List MarketLabel
  unique : (rows.map fun label => (label.conditionId, label.labelVersion)).Nodup

/-- Two labels of a table with one key are one label. -/
theorem LabelTable.eq_of_key (table : LabelTable) {a b : MarketLabel} (ha : a ∈ table.rows)
    (hb : b ∈ table.rows) (hmarket : a.conditionId = b.conditionId)
    (hversion : a.labelVersion = b.labelVersion) : a = b :=
  List.inj_on_of_nodup_map table.unique ha hb (Prod.ext hmarket hversion)

/-! ## One record -/

/-- `_FORBIDDEN_PREDICTOR_KEYS`. -/
def forbiddenPredictorKeys : List String :=
  ["official_outcome", "start_reference", "end_reference", "resolution_source", "rules_hash",
    "label_source", "label_version", "source_snapshot_sha256", "source_observed_at", "generated_at",
    "condition_id", "slug", "market_start_at", "market_end_at", "feature_at", "feature_hash",
    "input_fingerprint"]

/-- `_validate_predictor_key`. -/
def validatePredictorKey (key : String) : Outcome Unit :=
  require (key ∉ forbiddenPredictorKeys) .runtimeError ("forbidden predictor key: " ++ key)

section Record

variable (A : Arithmetic F)

/-- `_numeric`. -/
def numeric (key : String) : Value F → Outcome (Option F)
  | .none => .ok none
  | .bool value => .ok (some (if value then A.one else A.zero))
  | .int value => .ok (some (A.ofInt value))
  | .float value => do
    require (A.isFinite value = true) .runtimeError ("predictor '" ++ key ++ "' must be finite")
    .ok (some value)
  | _ => raise .runtimeError ("predictor '" ++ key ++ "' must be numeric or null")

/-- The target of an outcome. -/
def targetOf (outcome : String) : Outcome ℤ :=
  if outcome = "Up" then .ok 1
  else if outcome = "Down" then .ok 0
  else raise .runtimeError ("unsupported official outcome: '" ++ outcome ++ "'")

/-- One feature as a predictor. -/
def featurePredictor (entry : String × Value F) : Outcome (String × Option F) := do
  validatePredictorKey entry.1
  let value ← numeric A entry.1 entry.2
  .ok (entry.1, value)

/-- One missing flag as a predictor. -/
def flagPredictor (entry : String × Bool) : Outcome (String × Option F) := do
  validatePredictorKey entry.1
  .ok ("missing__" ++ entry.1, some (if entry.2 then A.one else A.zero))

/-- The predictors of a feature, the last update first. -/
def featurePredictors (feature : MarketFeature F) : Outcome (Predictors F) := do
  let values ← (sortedByKey feature.features).mapM (featurePredictor A)
  let flags ← (sortedByKey feature.missingFlags).mapM (flagPredictor A)
  .ok (flags.reverse ++ values.reverse)

/-- The feature and missing-flag keys of a feature. -/
def keySets (feature : MarketFeature F) : List String × List String :=
  ((sortedByKey feature.features).map (·.1), (sortedByKey feature.missingFlags).map (·.1))

/-- One record of `load_dataset`, where the keys are `expected`, when they are known. -/
def datasetRow (expected : Option (List String × List String))
    (record : MarketFeature F × MarketLabel) : Outcome (SupervisedRow F) := do
  let (feature, label) := record
  require (feature.slug = label.slug ∧ feature.horizonSeconds = label.horizonSeconds ∧
    feature.marketStartAt = label.marketStartAt ∧ feature.marketEndAt = label.marketEndAt)
    .runtimeError ("static market metadata mismatch for " ++ feature.conditionId)
  require (label.marketEndAt ≤ label.sourceObservedAt) .runtimeError
    ("label source_observed_at precedes market end for " ++ feature.conditionId)
  let target ← targetOf label.officialOutcome
  require (expected.all (· = keySets feature) = true) .runtimeError
    "feature or missing-flag key set changed within dataset"
  let predictors ← featurePredictors A feature
  .ok
    { conditionId := feature.conditionId
      slug := feature.slug
      horizonSeconds := feature.horizonSeconds
      marketStartAt := feature.marketStartAt
      marketEndAt := feature.marketEndAt
      featureAt := feature.featureAt
      featureOffsetSeconds := feature.featureOffsetSeconds
      predictors
      target
      featureHash := feature.featureHash
      inputFingerprint := feature.inputFingerprint }

/-- The loop over the records: the first one says which keys are expected. -/
def datasetRows (expected : Option (List String × List String)) :
    List (MarketFeature F × MarketLabel) → Outcome (List (SupervisedRow F))
  | [] => .ok []
  | record :: records => do
    let row ← datasetRow A expected record
    let rows ← datasetRows (some (expected.getD (keySets record.1))) records
    .ok (row :: rows)

end Record

/-! ## The dataset -/

/-- What `load_dataset` is asked for. -/
structure DatasetRequest where
  start : Timestamp
  finish : Timestamp
  horizonSeconds : ℤ
  featureVersion : String
  labelVersion : String
  datasetVersion : String := "supervised-core-v1"

/-- The order of the records: by market start, market and instant. -/
def recordFirst (a b : MarketFeature F × MarketLabel) : Prop :=
  a.1.marketStartAt < b.1.marketStartAt ∨ a.1.marketStartAt = b.1.marketStartAt ∧
    (a.1.conditionId < b.1.conditionId ∨ a.1.conditionId = b.1.conditionId ∧
      a.1.featureAt ≤ b.1.featureAt)

instance : DecidableRel (recordFirst (F := F)) :=
  fun _ _ => inferInstanceAs (Decidable (_ ∨ _ ∧ (_ ∨ _ ∧ _)))

/-- The join of the features of the window with the labels. -/
def joinLabels (features : List (MarketFeature F)) (labels : LabelTable) (request : DatasetRequest) :
    List (MarketFeature F × MarketLabel) :=
  let selected := features.filter fun feature =>
    feature.featureVersion = request.featureVersion &&
      feature.horizonSeconds = request.horizonSeconds &&
      request.start ≤ feature.marketStartAt && feature.marketStartAt < request.finish
  let joined := selected.flatMap fun feature =>
    (labels.rows.filter fun label =>
      label.conditionId = feature.conditionId && label.labelVersion = request.labelVersion).map
        fun label => (feature, label)
  joined.insertionSort recordFirst

/-- `load_dataset`; `digest` is the digest of the other columns of a dataset. -/
def loadDataset (A : Arithmetic F) (digest : DatasetSnapshot F → String)
    (features : List (MarketFeature F)) (labels : LabelTable) (request : DatasetRequest) :
    Outcome (DatasetSnapshot F) := do
  require (request.start < request.finish) .valueError "start must be before end"
  require (0 < request.horizonSeconds) .valueError "horizon_seconds must be positive"
  require (request.datasetVersion ≠ "") .valueError "dataset_version must not be empty"
  let rows ← datasetRows A none (joinLabels features labels request)
  let dataset : DatasetSnapshot F :=
    { datasetVersion := request.datasetVersion
      featureVersion := request.featureVersion
      labelVersion := request.labelVersion
      horizonSeconds := request.horizonSeconds
      start := request.start
      finish := request.finish
      rows
      predictorNames := ((rows.head?.map fun row =>
        (row.predictors.map (·.1)).insertionSort (· ≤ ·)).getD [])
      datasetSha256 := "" }
  .ok { dataset with datasetSha256 := digest dataset }

/-! ## Where a row comes from -/

section Rows

variable {A : Arithmetic F}

/-- A row comes from a record: what it has of the feature and of the label. -/
structure RowOf (A : Arithmetic F) (row : SupervisedRow F) (feature : MarketFeature F)
    (label : MarketLabel) : Prop where
  conditionId : row.conditionId = feature.conditionId
  offset : row.featureOffsetSeconds = feature.featureOffsetSeconds
  target : targetOf label.officialOutcome = .ok row.target
  predictors : featurePredictors A feature = .ok row.predictors

theorem rowOf_datasetRow {expected : Option (List String × List String)}
    {record : MarketFeature F × MarketLabel} {row : SupervisedRow F}
    (h : datasetRow A expected record = .ok row) : RowOf A row record.1 record.2 := by
  unfold datasetRow at h
  obtain ⟨_, -, h⟩ := bind_eq_ok.mp h
  obtain ⟨_, -, h⟩ := bind_eq_ok.mp h
  obtain ⟨target, htarget, h⟩ := bind_eq_ok.mp h
  obtain ⟨_, -, h⟩ := bind_eq_ok.mp h
  obtain ⟨predictors, hpredictors, h⟩ := bind_eq_ok.mp h
  cases h
  exact ⟨rfl, rfl, htarget, hpredictors⟩

theorem rowOf_datasetRows {expected : Option (List String × List String)}
    {records : List (MarketFeature F × MarketLabel)} {rows : List (SupervisedRow F)}
    (h : datasetRows A expected records = .ok rows) :
    ∀ row ∈ rows, ∃ record ∈ records, RowOf A row record.1 record.2 := by
  induction records generalizing expected rows with
  | nil =>
    cases h
    simp
  | cons record records ih =>
    unfold datasetRows at h
    obtain ⟨first, hfirst, h⟩ := bind_eq_ok.mp h
    obtain ⟨rest, hrest, h⟩ := bind_eq_ok.mp h
    cases h
    intro row hrow
    rcases List.mem_cons.mp hrow with rfl | hrow
    · exact ⟨record, List.mem_cons_self, rowOf_datasetRow hfirst⟩
    · obtain ⟨other, hother, hof⟩ := ih hrest row hrow
      exact ⟨other, List.mem_cons_of_mem _ hother, hof⟩

theorem mem_joinLabels {features : List (MarketFeature F)} {labels : LabelTable}
    {request : DatasetRequest} {record : MarketFeature F × MarketLabel}
    (h : record ∈ joinLabels features labels request) :
    record.1 ∈ features ∧ record.2 ∈ labels.rows ∧ record.2.conditionId = record.1.conditionId ∧
      record.2.labelVersion = request.labelVersion := by
  unfold joinLabels at h
  simp only [List.mem_insertionSort, List.mem_flatMap, List.mem_filter, List.mem_map,
    Bool.and_eq_true, decide_eq_true_eq] at h
  obtain ⟨feature, ⟨hfeature, -⟩, label, ⟨hlabel, hmarket, hversion⟩, rfl⟩ := h
  exact ⟨hfeature, hlabel, hmarket, hversion⟩

/-- **The rows of a dataset**: each one has the predictors of a stored feature, and the target that the
label of its market says. -/
theorem rowOf_loadDataset {digest : DatasetSnapshot F → String} {features : List (MarketFeature F)}
    {labels : LabelTable} {request : DatasetRequest} {dataset : DatasetSnapshot F}
    (h : loadDataset A digest features labels request = .ok dataset) :
    ∀ row ∈ dataset.rows, ∃ feature ∈ features, ∃ label ∈ labels.rows,
      label.conditionId = row.conditionId ∧ label.labelVersion = request.labelVersion ∧
        RowOf A row feature label := by
  unfold loadDataset at h
  obtain ⟨_, -, h⟩ := bind_eq_ok.mp h
  obtain ⟨_, -, h⟩ := bind_eq_ok.mp h
  obtain ⟨_, -, h⟩ := bind_eq_ok.mp h
  obtain ⟨rows, hrows, h⟩ := bind_eq_ok.mp h
  cases h
  intro row hrow
  obtain ⟨⟨feature, label⟩, hrecord, hof⟩ := rowOf_datasetRows hrows row hrow
  obtain ⟨hfeature, hlabel, hmarket, hversion⟩ := mem_joinLabels hrecord
  exact ⟨feature, hfeature, label, hlabel, hmarket.trans hof.conditionId.symm, hversion, hof⟩

end Rows

end BpEngine.Calibration
