import BpEngine.Core

/-!
# Execution requests, predictions and the paper configuration

The records of `execution/models.py` and the columns of `live_predictions` the execution code
reads.  A request or a configuration can only be built with the checks of its `__post_init__`, so
its fields carry them.
-/

namespace BpEngine.Execution

/-! ## Field checks -/

/-- `_text`: the stripped text, which must not be empty. -/
def text (value name : String) : Outcome String :=
  if strip value = "" then raise .valueError s!"{name} must not be empty" else .ok (strip value)

/-- `_sha256`: a digest, in lower case. -/
def sha256 (value name : String) : Outcome String :=
  if isHex64 (lower value) then .ok (lower value)
  else raise .valueError s!"{name} must be a lowercase SHA-256 hex digest"

/-- The two sides of a market. -/
inductive Side where
  | up
  | down
deriving DecidableEq, Repr

/-- `_side`: `up` or `down` in any case, with blanks around it. -/
def side (value : String) : Outcome Side :=
  if strip value = "" then raise .valueError "selected_side must not be empty"
  else if lower (strip value) = "up" then .ok .up
  else if lower (strip value) = "down" then .ok .down
  else raise .valueError "selected_side must be up or down"

/-! ## Configuration -/

/-- The execution versions a paper order may carry. -/
inductive ExecutionVersion where
  | paperExecutionV1
  | paperExecutionV3FrozenV1
deriving DecidableEq, Repr

def ExecutionVersion.text : ExecutionVersion → String
  | .paperExecutionV1 => "paper-execution-v1"
  | .paperExecutionV3FrozenV1 => "paper-execution-v3-frozen-v1"

/-- `PaperExecutionConfig` with the checks of its `__post_init__`. -/
structure PaperExecutionConfig where
  startingCashUsd : Decimal := ⟨10000, -2⟩
  targetNotionalUsd : Decimal := ⟨500, -2⟩
  latencyMs : ℤ := 250
  orderTtlMs : ℤ := 2000
  sharePrecision : ℕ := 6
  executionVersion : ExecutionVersion := .paperExecutionV1
  predictionVersion : Option String := none
  excludedPredictionVersions : List String := []
  startingCash_pos : 0 < startingCashUsd := by decide
  targetNotional_pos : 0 < targetNotionalUsd := by decide
  latency_pos : 0 < latencyMs := by decide
  orderTtl_pos : 0 < orderTtlMs := by decide
  sharePrecision_le : sharePrecision ≤ 18 := by decide
deriving DecidableEq

/-! ## Predictions -/

/-- The columns of `live_predictions` that the execution code reads; `feeRate` is the entry of
`edge_config`, absent when the mapping has none. -/
structure Prediction where
  predictionId : String
  semanticSha256 : String
  predictionVersion : String
  conditionId : String
  upTokenId : String
  downTokenId : String
  trade : Bool
  executable : Bool
  selectedSide : String
  selectedAsk : Option Decimal
  selectedSpread : Option Decimal
  slippageBuffer : Decimal
  feeRate : Option Decimal
  calibratedProbability : Decimal
  costAdjustedEdge : Option Decimal
  recordedAt : Timestamp
  scheduledAt : Timestamp
  marketEndAt : Timestamp
deriving DecidableEq, Repr

/-! ## Requests -/

/-- `ExecutionOrderRequest`: a BUY request that passed the checks of its `__post_init__`. -/
structure ExecutionOrderRequest where
  predictionId : String
  predictionSemanticSha256 : String
  conditionId : String
  tokenId : String
  selectedSide : Side
  requestedShares : Decimal
  targetNotionalUsd : Decimal
  submittedAt : Timestamp
  arrivalAt : Timestamp
  expiresAt : Timestamp
  limitPrice : Decimal
  executionVersion : ExecutionVersion
  executionConfigSha256 : String
  requestedShares_pos : 0 < requestedShares
  targetNotional_pos : 0 < targetNotionalUsd
  limitPrice_pos : 0 < limitPrice
  limitPrice_le_one : limitPrice ≤ 1
  submitted_le_arrival : submittedAt ≤ arrivalAt
  arrival_lt_expires : arrivalAt < expiresAt
deriving DecidableEq

namespace ExecutionOrderRequest

/-- The constructor call: normalises the texts and makes every check of `__post_init__`, in its
order. -/
def create (predictionId predictionSemanticSha256 conditionId tokenId selectedSide action : String)
    (requestedShares targetNotionalUsd : Decimal) (submittedAt arrivalAt expiresAt : Timestamp)
    (limitPrice : Decimal) (executionVersion : ExecutionVersion)
    (executionConfigSha256 : String) : Outcome ExecutionOrderRequest := do
  let prediction ← text predictionId "prediction_id"
  let semantic ← sha256 predictionSemanticSha256 "prediction_semantic_sha256"
  let condition ← text conditionId "condition_id"
  let token ← text tokenId "token_id"
  let selected ← side selectedSide
  require (action = "BUY") .valueError "Phase 12 execution action must be BUY"
  if hs : 0 < requestedShares then
    if ht : 0 < targetNotionalUsd then
      if hl : 0 < limitPrice ∧ limitPrice ≤ 1 then
        if hm : submittedAt ≤ arrivalAt ∧ arrivalAt < expiresAt then
          let config ← sha256 executionConfigSha256 "execution_config_sha256"
          .ok ⟨prediction, semantic, condition, token, selected, requestedShares,
            targetNotionalUsd, submittedAt, arrivalAt, expiresAt, limitPrice, executionVersion,
            config, hs, ht, hl.1, hl.2, hm.1, hm.2⟩
        else
          raise .valueError
            "invalid timestamp order: require submitted_at <= arrival_at < expires_at"
      else raise .valueError "limit_price must be within (0, 1]"
    else raise .valueError "target_notional_usd must be finite and greater than zero"
  else raise .valueError "requested_shares must be finite and greater than zero"

/-- The numbers and the times of a request are the ones it was made with. -/
theorem create_eq_ok {predictionId semantic conditionId tokenId selectedSide action : String}
    {requestedShares target : Decimal} {submittedAt arrivalAt expiresAt : Timestamp}
    {limit : Decimal} {version : ExecutionVersion} {config : String} {request : ExecutionOrderRequest}
    (h : create predictionId semantic conditionId tokenId selectedSide action requestedShares target
      submittedAt arrivalAt expiresAt limit version config = .ok request) :
    request.requestedShares = requestedShares ∧ request.limitPrice = limit ∧
      request.submittedAt = submittedAt ∧ request.arrivalAt = arrivalAt ∧
      request.expiresAt = expiresAt := by
  obtain ⟨prediction, -, h⟩ := bind_eq_ok.mp h
  obtain ⟨sha, -, h⟩ := bind_eq_ok.mp h
  obtain ⟨condition, -, h⟩ := bind_eq_ok.mp h
  obtain ⟨token, -, h⟩ := bind_eq_ok.mp h
  obtain ⟨selected, -, h⟩ := bind_eq_ok.mp h
  obtain ⟨_, -, h⟩ := bind_eq_ok.mp h
  split_ifs at h
  · obtain ⟨digest, -, h⟩ := bind_eq_ok.mp h
    cases h
    exact ⟨rfl, rfl, rfl, rfl, rfl⟩
  all_goals cases h

end ExecutionOrderRequest

end BpEngine.Execution
