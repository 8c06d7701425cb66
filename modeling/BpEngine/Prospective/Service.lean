import BpEngine.Library.Machine
import BpEngine.PaperLedger.Evaluation
import BpEngine.Prospective.Predictor

/-!
# The live prediction service

`live_prediction/service.py` with the ledger of `live_prediction/repository.py`.

* `storePrediction` is `LivePredictionRepository.store`; the table keeps one row for a market and a
  version and one for an id.
* `loadDueMarkets` is the scheduler, `processMarket` what a cycle does for a market.
* `LiveEvent` is one event of the services that share a database: a cycle begins, one of its markets
  performs its next effect, the cycle ends with the evaluations, a service is started or stopped, or
  the tables that the service only reads change.
A cycle waits for its markets, whose effects interleave in any order with each other and with those
of other services.  An insert and the commit of its transaction are one step.
-/

namespace BpEngine.Prospective

open BpEngine.Execution BpEngine.Features BpEngine.PaperLedger

variable {F : Type}

/-- The parameters of the service: its arithmetic, its digests, and how columns are compared and
stored. -/
structure LiveEnv (F : Type) where
  arithmetic : Arithmetic F
  inputDigests : InputDigests F
  predictionDigests : PredictionDigests F
  /-- `_semantically_equal`, which compares numbers up to the scale of their columns. -/
  sameRow : LivePrediction F → LivePrediction F → Bool
  /-- The `Numeric` column of a number. -/
  toDecimal : F → Decimal
  scoring : Scoring

/-! ## The prediction ledger -/

/-- `_require_sha256` of the repository. -/
def requireColumnSha256 (column : String × String) : Outcome Unit :=
  requireSha256 column.2 column.1

/-- `LivePredictionRepository._validate`. -/
def validatePrediction (A : Arithmetic F) (prediction : LivePrediction F) : Outcome Unit := do
  let policy := prediction.policy
  require (prediction.conditionId ≠ "") .valueError "condition_id must not be empty"
  require (prediction.predictionVersion ≠ "") .valueError "prediction_version must not be empty"
  require (prediction.liveInputVersion ≠ "") .valueError "live_input_version must not be empty"
  require (prediction.upTokenId ≠ "" ∧ prediction.downTokenId ≠ "") .valueError
    "Up and Down token ids must not be empty"
  require (prediction.upTokenId ≠ prediction.downTokenId) .valueError
    "Up and Down token ids must be distinct"
  require (0 < prediction.horizonSeconds) .valueError "horizon_seconds must be positive"
  require (0 < policy.selectedOffsetSeconds) .valueError "selected_offset_seconds must be positive"
  require (prediction.marketStartAt < prediction.marketEndAt) .valueError
    "market_end_at must be after market_start_at"
  require (prediction.marketStartAt < prediction.scheduledAt ∧
    prediction.scheduledAt < prediction.marketEndAt) .valueError
    "scheduled_at must be strictly inside market window"
  require (prediction.scheduledAt ≤ prediction.recordedAt) .valueError
    "recorded_at must not precede scheduled_at"
  require (prediction.recordedAt < prediction.marketEndAt) .valueError
    "recorded_at must be before market_end_at"
  require (0 ≤ prediction.latenessMs ∧ prediction.latenessMs ≤ 10000) .valueError
    "lateness_ms must be between 0 and 10000"
  require (latenessMs A prediction.recordedAt prediction.scheduledAt = prediction.latenessMs)
    .valueError "lateness_ms must match recorded_at minus scheduled_at"
  [("prediction_id", prediction.predictionId), ("semantic_sha256", prediction.semanticSha256),
    ("source_calibration_semantic_sha256", policy.sourceCalibrationSemanticSha256),
    ("source_backtest_semantic_sha256", policy.sourceBacktestSemanticSha256),
    ("source_training_semantic_sha256", policy.sourceTrainingSemanticSha256),
    ("policy_sha256", policy.policySha256),
    ("calibration_fit_sha256", prediction.calibrationFitSha256),
    ("edge_config_sha256", prediction.edgeConfigSha256),
    ("market_probability_response_sha256", prediction.marketProbabilityResponseSha256),
    ("input_fingerprint", prediction.inputFingerprint)].forM requireColumnSha256
  let _ ← strictProbability A policy.trainingPrior "training_prior"
  let _ ← probability A prediction.rawProbability "raw_probability"
  let _ ← probability A prediction.calibratedProbability "calibrated_probability"
  match prediction.marketProbability with
  | none => .ok ()
  | some value => do
    let _ ← probability A value "market_probability"
  require (prediction.decision.predictedTarget = 0 ∨ prediction.decision.predictedTarget = 1)
    .valueError "predicted_target must be 0 or 1"
  if prediction.marketProbabilityObserved then
    require (prediction.marketProbability.isSome = true ∧
      prediction.marketProbabilityObservedAt.isSome = true) .valueError
      "observed market probability requires value and timestamp"
  else
    require (prediction.marketProbability.isNone = true ∧
      prediction.marketProbabilityObservedAt.isNone = true) .valueError
      "missing market probability must keep value and timestamp null"
  let decision := prediction.decision
  [("min_edge", policy.minEdge), ("up_best_bid", prediction.up.bestBid),
    ("up_best_ask", prediction.up.bestAsk), ("down_best_bid", prediction.down.bestBid),
    ("down_best_ask", prediction.down.bestAsk), ("selected_ask", decision.ask),
    ("selected_bid", decision.bid), ("selected_spread", decision.spread),
    ("raw_edge", decision.rawEdge), ("cost_adjusted_edge", decision.costAdjustedEdge),
    ("decision_min_edge", decision.minEdge), ("fee", some decision.fee),
    ("slippage_buffer", some decision.slippageBuffer)].forM fun column =>
      require (column.2.all A.isFinite = true) .valueError (column.1 ++ " must be finite")

/-- `LivePredictionRepository.store`: whether the row was created. -/
def storePrediction (env : LiveEnv F) (prediction : LivePrediction F) : LiveM F Bool := do
  .check (validatePrediction env.arithmetic prediction)
  match ← LiveM.find prediction.conditionId prediction.predictionVersion with
  | some row =>
    .check (require (env.sameRow row prediction = true) .livePredictionConflict
      ("conflicting live prediction condition_id=" ++ prediction.conditionId ++
        " prediction_version=" ++ prediction.predictionVersion))
    return false
  | none =>
    match ← LiveM.findById prediction.predictionId with
    | some _ =>
      .check (raise .livePredictionConflict
        ("conflicting live prediction prediction_id=" ++ prediction.predictionId))
    | none =>
      LiveM.insert prediction
      return true

/-- The key of a row: its market and its version. -/
def LivePrediction.key (prediction : LivePrediction F) : String × String :=
  (prediction.conditionId, prediction.predictionVersion)

/-- The unique constraints of `live_predictions` let the row in. -/
def isNewRow (predictions : List (LivePrediction F)) (row : LivePrediction F) : Bool :=
  predictions.all fun other => other.key ≠ row.key && other.predictionId ≠ row.predictionId

/-! ## The scheduler -/

/-- A row of `polymarket_markets`. -/
structure PolymarketMarket where
  conditionId : String
  slug : String
  horizonSeconds : ℤ
  startAt : Timestamp
  endAt : Timestamp
  upTokenId : String
  downTokenId : String
  active : Bool
  closed : Bool
  resolvedOutcome : Option String

/-- The settings of a service. -/
structure ServiceConfig (F : Type) where
  policies : List (ℤ × LivePolicySpec F)
  settings : ObserverSettings

/-- One entry of `_validate_policy_mapping`. -/
def validatePolicyEntry (entry : ℤ × LivePolicySpec F) : Outcome Unit := do
  require (0 < entry.1) .valueError "policy horizon key must be positive"
  require (entry.2.horizonSeconds = entry.1) .valueError
    ("policy horizon key does not match policy.horizon_seconds: " ++ toString entry.1 ++ " != " ++
      toString entry.2.horizonSeconds)
  require (0 < entry.2.selectedOffsetSeconds) .valueError "selected_offset_seconds must be positive"
  require (entry.2.selectedOffsetSeconds < entry.1) .valueError
    "selected_offset_seconds must be inside the market horizon"

/-- `_validate_policy_mapping`. -/
def validatePolicyMapping (policies : List (ℤ × LivePolicySpec F)) : Outcome Unit := do
  require (policies ≠ []) .valueError "at least one live prediction policy is required"
  policies.forM validatePolicyEntry

/-- The pass of `load_due_markets` over one row: the market, when it is due. -/
def dueMarket (config : ServiceConfig F) (predicted : List String) (now : Timestamp)
    (row : PolymarketMarket) : Outcome (Option DueMarket) := do
  match config.policies.lookup row.horizonSeconds with
  | none => .ok none
  | some policy =>
    if ¬ (row.active = true ∧ row.closed = false ∧ row.resolvedOutcome = none) then .ok none
    else if row.conditionId ∈ predicted then .ok none
    else if row.conditionId = "" ∨ row.slug = "" ∨ row.upTokenId = "" ∨ row.downTokenId = "" then
      .ok none
    else if row.upTokenId = row.downTokenId then .ok none
    else
      let scheduledAt := row.startAt + Timestamp.ofSeconds policy.selectedOffsetSeconds
      require (row.startAt < scheduledAt ∧ scheduledAt < row.endAt) .valueError
        ("policy scheduled_at must be strictly inside market window condition_id=" ++
          row.conditionId)
      let deadline := scheduledAt + Timestamp.ofSeconds config.settings.maxLatenessSeconds
      if now < scheduledAt ∨ deadline < now ∨ row.endAt ≤ now then .ok none
      else
        .ok (some ⟨row.conditionId, row.slug, row.horizonSeconds, row.startAt, row.endAt,
          scheduledAt, row.upTokenId, row.downTokenId⟩)

/-- `(market.scheduled_at, market.condition_id)` in lexicographic order. -/
def scheduledFirst (a b : DueMarket) : Prop :=
  a.scheduledAt < b.scheduledAt ∨ a.scheduledAt = b.scheduledAt ∧ a.conditionId ≤ b.conditionId

instance : DecidableRel scheduledFirst := fun _ _ => inferInstanceAs (Decidable (_ ∨ _ ∧ _))

/-- `load_due_markets`. -/
def loadDueMarkets (config : ServiceConfig F) (markets : List PolymarketMarket)
    (predictions : List (LivePrediction F)) (now : Timestamp) : Outcome (List DueMarket) := do
  validatePolicyMapping config.policies
  require (0 ≤ config.settings.maxLatenessSeconds) .valueError
    "max_lateness_seconds must be non-negative"
  let predicted := (predictions.filter fun row => row.predictionVersion = livePredictionVersion).map
    (·.conditionId)
  let due ← markets.mapM (dueMarket config predicted now)
  .ok ((due.filterMap id).insertionSort scheduledFirst)

/-! ## One market -/

/-- What became of a market. -/
structure MarketOutcome where
  created : Bool := false
  existing : Bool := false
  missed : Bool := false
  failed : Bool := false
deriving DecidableEq

/-- `_process_market`. -/
def processMarket (env : LiveEnv F) (config : ServiceConfig F) (market : DueMarket) :
    LiveM F MarketOutcome := do
  match config.policies.lookup market.horizonSeconds with
  | none => .check (raise .keyError (toString market.horizonSeconds))
  | some policy =>
    let input ← observeLiveInput env.arithmetic env.inputDigests config.settings market
    let completedAt ← LiveM.now
    let deadline := market.scheduledAt + Timestamp.ofSeconds config.settings.maxLatenessSeconds
    if deadline < completedAt then return { missed := true }
    else if market.marketEndAt ≤ completedAt then return { missed := true }
    else
      let prediction ← LiveM.check (buildLivePrediction env.arithmetic env.predictionDigests policy
        input market completedAt)
      let created ← storePrediction env prediction
      return { created, existing := !created }

/-- `_process_market_safely`. -/
def processMarketSafely (env : LiveEnv F) (config : ServiceConfig F) (market : DueMarket) :
    LiveM F MarketOutcome :=
  (processMarket env config market).catchError fun _ => .ret { failed := true }

/-! ## Services -/

/-- `LivePredictionCycleResult`. -/
structure CycleResult where
  dueMarkets : ℕ
  createdPredictions : ℕ := 0
  existingPredictions : ℕ := 0
  missedPredictions : ℕ := 0
  failedMarkets : ℕ := 0
deriving DecidableEq

/-- The result with one more outcome. -/
def CycleResult.add (result : CycleResult) (outcome : MarketOutcome) : CycleResult :=
  { result with
    createdPredictions := result.createdPredictions + outcome.created.toNat
    existingPredictions := result.existingPredictions + outcome.existing.toNat
    missedPredictions := result.missedPredictions + outcome.missed.toNat
    failedMarkets := result.failedMarkets + outcome.failed.toNat }

/-- A cycle: the markets that are still processed, and the outcomes of the others. -/
structure Cycle (F : Type) where
  tasks : List (LiveM F MarketOutcome)
  result : CycleResult

/-- A service that runs. -/
structure LiveService (F : Type) where
  config : ServiceConfig F
  cycle : Option (Cycle F) := none

/-- The database, and the services that use it. -/
structure LiveWorld (F : Type) where
  markets : List PolymarketMarket
  database : Features.Database
  labels : List MarketLabel
  predictions : List (LivePrediction F) := []
  evaluations : List Evaluation := []
  services : List (LiveService F) := []

/-- The row as the evaluation of `live_prediction/evaluation.py` reads it. -/
def storedPrediction (env : LiveEnv F) (row : LivePrediction F) : PaperLedger.LivePrediction where
  predictionId := row.predictionId
  semanticSha256 := row.semanticSha256
  predictionVersion := row.predictionVersion
  conditionId := row.conditionId
  upTokenId := row.upTokenId
  downTokenId := row.downTokenId
  trade := row.decision.trade
  executable := row.decision.executable
  selectedSide := match row.decision.side with
    | .up => "up"
    | .down => "down"
  selectedAsk := row.decision.ask.map env.toDecimal
  selectedSpread := row.decision.spread.map env.toDecimal
  slippageBuffer := env.toDecimal row.decision.slippageBuffer
  feeRate := some (env.toDecimal row.policy.edgeConfig.feeRate)
  calibratedProbability := env.toDecimal row.calibratedProbability
  costAdjustedEdge := row.decision.costAdjustedEdge.map env.toDecimal
  recordedAt := row.recordedAt
  scheduledAt := row.scheduledAt
  marketEndAt := row.marketEndAt
  slug := row.slug
  horizonSeconds := row.horizonSeconds
  marketStartAt := row.marketStartAt
  sourceLabelVersion := row.policy.labelVersion
  predictedTarget := row.decision.predictedTarget
  rawProbability := env.toDecimal row.rawProbability
  fee := env.toDecimal row.decision.fee

namespace LiveWorld

/-- How the database and the network answer an effect: a proposed failure happens, the network
answers as proposed, and the tables answer with what they hold. -/
def serve (world : LiveWorld F) :
    (op : LiveOp F) → op.Ans → op.Ans × LiveWorld F
  | .now, proposal => (proposal, world)
  | .getHistory _ _ _ _ _, proposal => (proposal, world)
  | .latestState conditionId assetId featureAt, proposal =>
    (proposal.bind fun _ => Features.latestState world.database "polymarket" "market" conditionId
      (some assetId) featureAt, world)
  | .find conditionId predictionVersion, proposal =>
    (proposal.bind fun _ =>
      .ok (world.predictions.find? fun row => row.key = (conditionId, predictionVersion)), world)
  | .findById predictionId, proposal =>
    (proposal.bind fun _ =>
      .ok (world.predictions.find? fun row => row.predictionId = predictionId), world)
  | .insert row, proposal =>
    match proposal with
    | .error raised => (.error raised, world)
    | .ok _ =>
      if isNewRow world.predictions row then
        (.ok (), { world with predictions := world.predictions ++ [row] })
      else (raise .integrityError "duplicate key value violates unique constraint", world)

/-- The service at a place is changed. -/
def setService (world : LiveWorld F) (place : ℕ) (service : LiveService F) : LiveWorld F :=
  { world with services := world.services.set place service }

/-- The first part of `run_once`: the due markets are loaded. -/
def beginCycle (env : LiveEnv F) (world : LiveWorld F) (place : ℕ) (now : Timestamp) :
    LiveWorld F :=
  match world.services[place]? with
  | some ⟨config, none⟩ =>
    match loadDueMarkets config world.markets world.predictions now with
    | .error _ => world
    | .ok due =>
      world.setService place
        ⟨config, some ⟨due.map (processMarketSafely env config), { dueMarkets := due.length }⟩⟩
  | _ => world

/-- A market of a cycle performs its next effect, or ends. -/
def stepMarket (world : LiveWorld F) (place task : ℕ)
    (proposal : (op : LiveOp F) → op.Ans) : LiveWorld F :=
  match world.services[place]? with
  | some ⟨config, some cycle⟩ =>
    match cycle.tasks[task]? with
    | none => world
    | some (.ret outcome) =>
      world.setService place
        ⟨config, some ⟨cycle.tasks.eraseIdx task, cycle.result.add outcome⟩⟩
    | some (.fail _) =>
      world.setService place
        ⟨config, some ⟨cycle.tasks.eraseIdx task, cycle.result.add { failed := true }⟩⟩
    | some (.perform op next) =>
      let served := world.serve op (proposal op)
      served.2.setService place
        ⟨config, some { cycle with tasks := cycle.tasks.set task (next served.1) }⟩
  | _ => world

/-- The last part of `run_once`, after the markets: the available evaluations are appended. -/
def endCycle (env : LiveEnv F) (world : LiveWorld F) (place : ℕ) (now : Timestamp) : LiveWorld F :=
  match world.services[place]? with
  | some ⟨config, some ⟨[], _⟩⟩ =>
    let evaluations :=
      match appendAvailableEvaluations env.scoring world.labels
        (world.predictions.map (storedPrediction env)) now world.evaluations with
      | .ok evaluations => evaluations
      | .error _ => world.evaluations
    { world.setService place ⟨config, none⟩ with evaluations }
  | _ => world

end LiveWorld

/-- One event. -/
inductive LiveEvent (F : Type) where
  | outside (markets : List PolymarketMarket) (database : Features.Database)
      (labels : List MarketLabel)
  | start (config : ServiceConfig F)
  | stop (place : ℕ)
  | beginCycle (place : ℕ) (now : Timestamp)
  | stepMarket (place task : ℕ) (proposal : (op : LiveOp F) → op.Ans)
  | endCycle (place : ℕ) (now : Timestamp)

/-- One event. -/
def LiveWorld.exec (env : LiveEnv F) (world : LiveWorld F) : LiveEvent F → LiveWorld F
  | .outside markets database labels => { world with markets, database, labels }
  | .start config => { world with services := world.services ++ [⟨config, none⟩] }
  | .stop place => { world with services := world.services.eraseIdx place }
  | .beginCycle place now => world.beginCycle env place now
  | .stepMarket place task proposal => world.stepMarket place task proposal
  | .endCycle place now => world.endCycle env place now

end BpEngine.Prospective
