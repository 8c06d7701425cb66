import BpEngine.Prospective.Inputs

/-!
# Building a live prediction

`live_prediction/predictor.py`: the policy, the market and the live input are checked against each
other and against the clock, and a prediction is made of them.

* `validateDeadline` and `validateLiveInput` are the checks of the times.
* `buildLivePrediction` is the prediction.
A `PredictionIntegrityError` is a `ValueError` and a `PredictionDeadlineError` a `RuntimeError`.
-/

namespace BpEngine.Prospective

open BpEngine.Execution BpEngine.Features

/-- `LIVE_PREDICTION_VERSION`. -/
def livePredictionVersion : String := "live-prediction-v1"

/-- `LIVE_INPUT_VERSION`. -/
def liveInputVersion : String := "phase10-live-market-input-v1"

/-- `MAX_LATENESS_SECONDS`. -/
def maxLateness : ℤ := Timestamp.ofSeconds 10

variable {F : Type} (A : Arithmetic F)

/-- The digests of a prediction. -/
structure PredictionDigests (F : Type) where
  /-- `canonical_hash` of a market and a prediction version. -/
  predictionId : String → String → String
  calibrationFit : CalibrationFit F → String
  edgeConfig : EdgeConfig F → String
  /-- `canonical_hash` of the other columns of a prediction. -/
  semantic : LivePrediction F → String

/-! ## Checks -/

/-- `_require_sha256`. -/
def requireSha256 (value name : String) : Outcome Unit :=
  require (isHex64 value = true) .valueError
    (name ++ " must be a 64-character lowercase hex SHA-256 digest")

/-- `_probability`. -/
def probability (value : F) (name : String) : Outcome F := do
  require (A.isFinite value = true) .valueError (name ++ " must be finite")
  require (A.isProbability value = true) .valueError (name ++ " must be within [0, 1]")
  .ok value

/-- `_probability` with `strict=True`. -/
def strictProbability (value : F) (name : String) : Outcome F := do
  require (A.isFinite value = true) .valueError (name ++ " must be finite")
  require (A.lt A.zero value = true ∧ A.lt value A.one = true) .valueError
    (name ++ " must be within (0, 1)")
  .ok value

/-- `int((recorded_at - scheduled_at).total_seconds() * 1000)`. -/
def latenessMs (recordedAt scheduledAt : Timestamp) : ℤ :=
  A.trunc (A.mul (A.totalSeconds (recordedAt - scheduledAt)) (A.ofInt 1000))

/-- `_validate_deadline`. -/
def validateDeadline (recordedAt scheduledAt marketEndAt : Timestamp) : Outcome ℤ := do
  require (scheduledAt ≤ recordedAt) .runtimeError "recorded_at precedes scheduled_at"
  require (recordedAt ≤ scheduledAt + maxLateness) .runtimeError
    "recorded_at exceeds live prediction deadline"
  require (recordedAt < marketEndAt) .runtimeError "recorded_at is at or after market end"
  .ok (latenessMs A recordedAt scheduledAt)

/-- `_book_cutoff`. -/
def bookCutoff (book : LiveBookInput) : Timestamp := max book.bucketAt book.lastEventAt

/-- `_validate_policy`. -/
def validatePolicy (policy : LivePolicySpec F) : Outcome Unit := do
  require (0 < policy.horizonSeconds) .valueError "policy horizon_seconds must be positive"
  require (0 < policy.selectedOffsetSeconds) .valueError
    "policy selected_offset_seconds must be positive"
  let _ ← strictProbability A policy.trainingPrior "training_prior"
  requireSha256 policy.sourceCalibrationSemanticSha256 "source calibration semantic"
  requireSha256 policy.sourceBacktestSemanticSha256 "source backtest semantic"
  requireSha256 policy.sourceTrainingSemanticSha256 "source training semantic"
  requireSha256 policy.policySha256 "policy_sha256"
  if policy.edgePolicy = "trade_threshold" then
    require (policy.minEdge.isSome = true) .valueError "trade_threshold policy requires min_edge"
  else if policy.edgePolicy = "no_trade" then
    require (policy.minEdge.isNone = true) .valueError "no_trade policy requires min_edge=None"
  else raise .valueError "unsupported edge_policy"

/-- `_validate_identity`: the instant the policy schedules. -/
def validateIdentity (policy : LivePolicySpec F) (input : LiveMarketInput F) (market : DueMarket) :
    Outcome Timestamp := do
  require (market.conditionId ≠ "") .valueError "condition_id is required"
  require (input.conditionId = market.conditionId) .valueError
    "live input condition_id does not match market"
  require (policy.horizonSeconds = market.horizonSeconds) .valueError
    "policy horizon_seconds does not match market"
  require (0 < market.horizonSeconds) .valueError "horizon_seconds must be positive"
  require (market.marketStartAt < market.marketEndAt) .valueError
    "market_end_at must be after market_start_at"
  require (input.marketStartAt = market.marketStartAt ∧ input.marketEndAt = market.marketEndAt)
    .valueError "live input market window does not match market"
  require (input.upTokenId = market.upTokenId) .valueError
    "live input up_token_id does not match market"
  require (input.downTokenId = market.downTokenId) .valueError
    "live input down_token_id does not match market"
  require (market.upTokenId ≠ "" ∧ market.downTokenId ≠ "" ∧ market.upTokenId ≠ market.downTokenId)
    .valueError "distinct Up and Down token ids are required"
  let scheduled := market.marketStartAt + Timestamp.ofSeconds policy.selectedOffsetSeconds
  require (market.marketStartAt < scheduled ∧ scheduled < market.marketEndAt) .valueError
    "policy scheduled_at must be inside market window"
  require (input.scheduledAt = scheduled) .valueError "live input scheduled_at does not match policy"
  .ok scheduled

/-- The checks of the observed price of an input. -/
def validateMarketProbability (input : LiveMarketInput F) (scheduledAt : Timestamp) :
    Outcome Unit := do
  let predictor := input.predictors.get "pm_up_price"
  if input.marketProbabilityObserved then
    match input.marketProbability, input.marketProbabilityObservedAt with
    | none, _ => raise .valueError "observed market probability is missing value"
    | some _, none => raise .valueError "observed market probability is missing timestamp"
    | some value, some observedAt => do
      let value ← probability A value "market_probability"
      require (observedAt ≤ scheduledAt) .valueError
        "market probability observed after scheduled_at"
      require (predictor.any (A.same · value) = true) .valueError
        "pm_up_price does not match observed market probability"
  else do
    require (input.marketProbability.isNone = true) .valueError
      "unobserved market probability must be null"
    require (input.marketProbabilityObservedAt.isNone = true) .valueError
      "unobserved market probability timestamp must be null"
    require (predictor.isNone = true) .valueError
      "pm_up_price must be null when market price is missing"

/-- The checks of a book of an input. -/
def validateBookInput (name : String) (book : Option LiveBookInput) (token : String)
    (scheduledAt : Timestamp) : Outcome Unit :=
  match book with
  | none => .ok ()
  | some book => do
    require (book.assetId = token) .valueError (name ++ " book asset_id does not match token")
    require (bookCutoff book ≤ scheduledAt) .valueError (name ++ " book cutoff exceeds scheduled_at")

/-- `_validate_live_input`. -/
def validateLiveInput (input : LiveMarketInput F) (scheduledAt : Timestamp) : Outcome Unit := do
  requireSha256 input.priceResponseSha256 "price_response_sha256"
  requireSha256 input.inputFingerprint "input_fingerprint"
  require (scheduledAt ≤ input.downloadedAt) .valueError
    "live input downloaded_at precedes scheduled_at"
  require (input.downloadedAt ≤ scheduledAt + maxLateness) .valueError
    "live input downloaded_at exceeds prediction deadline"
  validateMarketProbability A input scheduledAt
  validateBookInput "up" input.upBook input.upTokenId scheduledAt
  validateBookInput "down" input.downBook input.downTokenId scheduledAt

/-! ## The prediction -/

/-- `_book_quote`; a quote that is no number is none. -/
def bookQuote (book : Option LiveBookInput) (key : String) : Option F :=
  match book with
  | none => none
  | some book =>
    match decimalOfText (book.state.get key).text with
    | some (.finite number) => (some (A.ofDecimal number)).filter A.isProbability
    | _ => none

/-- The columns of a book. -/
def bookColumns (book : Option LiveBookInput) : BookColumns F where
  bestBid := bookQuote A book "best_bid"
  bestAsk := bookQuote A book "best_ask"
  bookCutoffAt := book.map bookCutoff
  bookFresh := book.any (·.fresh)

/-- The raw probability: the observed price, or else the training prior. -/
def rawProbability (policy : LivePolicySpec F) (input : LiveMarketInput F) : Outcome F :=
  if input.marketProbabilityObserved then
    match input.marketProbability with
    | none => raise .typeError "float() argument must be a string or a real number"
    | some value => probability A value "market_probability"
  else strictProbability A policy.trainingPrior "training_prior"

/-- `build_live_prediction`. -/
def buildLivePrediction (D : PredictionDigests F) (policy : LivePolicySpec F)
    (input : LiveMarketInput F) (market : DueMarket) (recordedAt : Timestamp) :
    Outcome (LivePrediction F) := do
  validatePolicy A policy
  let scheduled ← validateIdentity policy input market
  let latenessMs ← validateDeadline A recordedAt scheduled market.marketEndAt
  validateLiveInput A input scheduled
  require (input.downloadedAt ≤ recordedAt) .valueError
    "live input downloaded_at exceeds recorded_at"
  let raw ← rawProbability A policy input
  let calibrated ← applyCalibration A policy.calibrationFit raw
  let decision ←
    edgeDecisionFromPredictors A input.predictors calibrated policy.edgeConfig policy.minEdge
  let prediction : LivePrediction F :=
    { predictionId := D.predictionId market.conditionId livePredictionVersion
      semanticSha256 := ""
      predictionVersion := livePredictionVersion
      liveInputVersion
      conditionId := market.conditionId
      slug := market.slug
      horizonSeconds := market.horizonSeconds
      marketStartAt := market.marketStartAt
      marketEndAt := market.marketEndAt
      scheduledAt := scheduled
      recordedAt
      latenessMs
      upTokenId := market.upTokenId
      downTokenId := market.downTokenId
      policy
      calibrationFitSha256 := D.calibrationFit policy.calibrationFit
      edgeConfigSha256 := D.edgeConfig policy.edgeConfig
      rawProbability := raw
      calibratedProbability := calibrated
      marketProbabilityObserved := input.marketProbabilityObserved
      marketProbability := input.marketProbability
      marketProbabilityObservedAt := input.marketProbabilityObservedAt
      marketProbabilityDownloadedAt := input.downloadedAt
      marketProbabilitySource := input.priceSource
      marketProbabilityDataset := input.priceDataset
      marketProbabilityRequestParams := input.priceRequestParams
      marketProbabilityResponseSha256 := input.priceResponseSha256
      up := bookColumns A input.upBook
      down := bookColumns A input.downBook
      decision
      inputFingerprint := input.inputFingerprint }
  .ok { prediction with semanticSha256 := D.semantic prediction }

/-! ## The times of a prediction -/

/-- **The times of a prediction are in order**, and nothing it was made of is later than its schedule. -/
structure Timely (prediction : LivePrediction F) : Prop where
  scheduled_le_downloaded : prediction.scheduledAt ≤ prediction.marketProbabilityDownloadedAt
  downloaded_le_recorded : prediction.marketProbabilityDownloadedAt ≤ prediction.recordedAt
  recorded_le_deadline : prediction.recordedAt ≤ prediction.scheduledAt + Timestamp.ofSeconds 10
  recorded_lt_end : prediction.recordedAt < prediction.marketEndAt
  price_le_scheduled : ∀ t ∈ prediction.marketProbabilityObservedAt, t ≤ prediction.scheduledAt
  up_le_scheduled : ∀ t ∈ prediction.up.bookCutoffAt, t ≤ prediction.scheduledAt
  down_le_scheduled : ∀ t ∈ prediction.down.bookCutoffAt, t ≤ prediction.scheduledAt

section Timely

variable {A} {input : LiveMarketInput F} {scheduledAt : Timestamp}

theorem price_le_of_validate (h : validateMarketProbability A input scheduledAt = .ok ()) :
    ∀ t ∈ input.marketProbabilityObservedAt, t ≤ scheduledAt := by
  intro t ht
  rw [Option.mem_def] at ht
  unfold validateMarketProbability at h
  simp only at h
  split_ifs at h with hobserved
  · rw [ht] at h
    split at h
    · exact absurd h raise_ne_ok
    · next heq => cases heq
    · next value observedAt heq =>
      cases heq
      obtain ⟨_, -, h⟩ := bind_eq_ok.mp h
      obtain ⟨_, hle, -⟩ := bind_eq_ok.mp h
      exact require_eq_ok.mp hle
  · obtain ⟨_, -, h⟩ := bind_eq_ok.mp h
    obtain ⟨_, hnone, -⟩ := bind_eq_ok.mp h
    have hnone' := require_eq_ok.mp hnone
    rw [ht] at hnone'
    cases hnone'

theorem cutoff_le_of_validate {name token : String} {book : Option LiveBookInput}
    (h : validateBookInput name book token scheduledAt = .ok ()) :
    ∀ t ∈ (bookColumns A book).bookCutoffAt, t ≤ scheduledAt := by
  intro t ht
  obtain ⟨book', hbook, rfl⟩ := Option.map_eq_some_iff.mp (Option.mem_def.mp ht)
  rw [hbook] at h
  obtain ⟨_, -, h⟩ := bind_eq_ok.mp h
  exact require_eq_ok.mp h

/-- **Every prediction that is built is timely**, and carries the id of its market and version. -/
theorem buildLivePrediction_spec {D : PredictionDigests F} {policy : LivePolicySpec F}
    {market : DueMarket} {recordedAt : Timestamp} {prediction : LivePrediction F}
    (h : buildLivePrediction A D policy input market recordedAt = .ok prediction) :
    Timely prediction := by
  unfold buildLivePrediction at h
  obtain ⟨_, -, h⟩ := bind_eq_ok.mp h
  obtain ⟨scheduled, -, h⟩ := bind_eq_ok.mp h
  obtain ⟨lateness, hdeadline, h⟩ := bind_eq_ok.mp h
  obtain ⟨_, hinput, h⟩ := bind_eq_ok.mp h
  obtain ⟨_, hrecorded, h⟩ := bind_eq_ok.mp h
  obtain ⟨raw, -, h⟩ := bind_eq_ok.mp h
  obtain ⟨calibrated, -, h⟩ := bind_eq_ok.mp h
  obtain ⟨decision, -, h⟩ := bind_eq_ok.mp h
  cases h
  unfold validateDeadline at hdeadline
  obtain ⟨_, -, hdeadline⟩ := bind_eq_ok.mp hdeadline
  obtain ⟨_, hlate, hdeadline⟩ := bind_eq_ok.mp hdeadline
  obtain ⟨_, hend, -⟩ := bind_eq_ok.mp hdeadline
  unfold validateLiveInput at hinput
  obtain ⟨_, -, hinput⟩ := bind_eq_ok.mp hinput
  obtain ⟨_, -, hinput⟩ := bind_eq_ok.mp hinput
  obtain ⟨_, hdownloaded, hinput⟩ := bind_eq_ok.mp hinput
  obtain ⟨_, -, hinput⟩ := bind_eq_ok.mp hinput
  obtain ⟨_, hprice, hinput⟩ := bind_eq_ok.mp hinput
  obtain ⟨_, hup, hdown⟩ := bind_eq_ok.mp hinput
  exact
    { scheduled_le_downloaded := require_eq_ok.mp hdownloaded
      downloaded_le_recorded := require_eq_ok.mp hrecorded
      recorded_le_deadline := require_eq_ok.mp hlate
      recorded_lt_end := require_eq_ok.mp hend
      price_le_scheduled := price_le_of_validate hprice
      up_le_scheduled := cutoff_le_of_validate hup
      down_le_scheduled := cutoff_le_of_validate hdown }

end Timely

end BpEngine.Prospective
