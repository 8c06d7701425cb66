import BpEngine.Execution.Models

/-!
# Building a paper order

`execution/paper.py`, the part that turns a prediction and the available cash into one BUY request
(`buildPaperOrder`) or into the reason why there is none.  `worstTotalPerShare` is the most a share
of the order can cost: the limit price and the fee at the limit price.
-/

namespace BpEngine.Execution

/-- The digests of `features/hashing.py` that name orders and configurations. -/
structure ExecutionDigests where
  /-- `canonical_hash({"prediction_id": .., "execution_version": ..})`. -/
  paperOrderId : String → ExecutionVersion → String
  /-- `canonical_hash(config.as_mapping())`. -/
  executionConfigSha256 : PaperExecutionConfig → String

/-- The statuses a paper order ends with. -/
inductive TerminalStatus where
  | skipped
  | filled
  | cancelled
  | expired
  | marketEndedUnfilled
  | insufficientPaperCash
deriving DecidableEq, Repr

/-- `PaperTerminalDraft`. -/
structure PaperTerminalDraft where
  status : TerminalStatus
  remainingShares : Decimal
  eventAt : Option Timestamp
  reason : String
deriving DecidableEq, Repr

/-- `PaperOrderDraft`; the execution configuration is kept in its digest. -/
structure PaperOrderDraft where
  request : ExecutionOrderRequest
  signalSelectedAsk : Decimal
  signalFeeRate : Decimal
  signalSlippageBuffer : Decimal
  marketEndAt : Option Timestamp
deriving DecidableEq

/-- What `build_paper_order` returns. -/
inductive PaperOrderPlan where
  | order (draft : PaperOrderDraft)
  | terminal (draft : PaperTerminalDraft)
deriving DecidableEq

/-- `_terminal`. -/
def terminal (status : TerminalStatus) (reason : String) (eventAt : Option Timestamp)
    (remainingShares : Decimal := 0) : PaperTerminalDraft :=
  ⟨status, remainingShares, eventAt, reason⟩

/-- `_skip_reason`. -/
def skipReason (prediction : Prediction) : Option String :=
  if prediction.trade ≠ true then some "trade=false"
  else if prediction.executable ≠ true then some "executable=false"
  else if lower prediction.selectedSide ≠ "up" ∧ lower prediction.selectedSide ≠ "down" then
    some "selected_side must be up or down"
  else if prediction.selectedAsk = none then some "selected_ask is required"
  else if prediction.feeRate = none then some "edge_config fee_rate is required"
  else none

/-- `min(_ONE, selected_ask + slippage_buffer)`. -/
def limitPrice (selectedAsk slippageBuffer : Decimal) : Decimal :=
  Decimal.min' 1 (selectedAsk + slippageBuffer)

/-- The most one share can cost at `limit`: the price and the fee there. -/
def worstTotalPerShare (feeRate limit : Decimal) : Decimal :=
  limit + feeRate * limit * (1 - limit)

/-- `(budget / worst_total_per_share).quantize(quantum, rounding=ROUND_DOWN)`. -/
def sharesForBudget (budget worst : Decimal) (sharePrecision : ℕ) : Outcome Decimal :=
  match Decimal.div budget worst with
  | none => raise .arithmeticError "division by zero"
  | some quotient =>
    match quotient.quantizeDown (-(sharePrecision : ℤ)) with
    | none => raise .arithmeticError "invalid operation"
    | some shares => .ok shares

/-- `build_paper_order` after the signal was read: the prediction has an ask and a fee rate. -/
def buildFromSignal (D : ExecutionDigests) (prediction : Prediction)
    (config : PaperExecutionConfig) (cash selectedAsk feeRate : Decimal) :
    Outcome PaperOrderPlan := do
  let submittedAt := prediction.recordedAt
  let marketEndAt := prediction.marketEndAt
  let skipped (reason : String) : Outcome PaperOrderPlan :=
    .ok (.terminal (terminal .skipped reason (some submittedAt)))
  if ¬ (0 < selectedAsk ∧ selectedAsk ≤ 1) then skipped "selected_ask must be within (0, 1]"
  else if prediction.slippageBuffer < 0 then skipped "slippage_buffer must be non-negative"
  else if ¬ (0 ≤ feeRate ∧ feeRate ≤ 1) then skipped "fee_rate must be within [0, 1]"
  else if cash ≤ 0 then
    .ok (.terminal (terminal .insufficientPaperCash "available paper cash is not positive"
      (some submittedAt)))
  else
    let up : Bool := lower prediction.selectedSide = "up"
    let tokenId := if up then prediction.upTokenId else prediction.downTokenId
    if tokenId = "" then
      skipped (if up then "up_token_id is required" else "down_token_id is required")
    else if prediction.predictionId = "" ∨ prediction.semanticSha256 = "" ∨
        prediction.conditionId = "" then
      skipped "prediction identity fields are required"
    else
      let arrivalAt := submittedAt + config.latencyMs * 1000
      if marketEndAt ≤ arrivalAt then
        .ok (.terminal (terminal .marketEndedUnfilled "market ended before simulated order arrival"
          (some marketEndAt)))
      else
        let expiresAt := min (arrivalAt + config.orderTtlMs * 1000) marketEndAt
        let limit := limitPrice selectedAsk prediction.slippageBuffer
        let budget := Decimal.min' config.targetNotionalUsd cash
        let requestedShares ←
          sharesForBudget budget (worstTotalPerShare feeRate limit) config.sharePrecision
        if requestedShares ≤ 0 then
          .ok (.terminal (terminal .insufficientPaperCash
            "paper cash cannot buy the minimum share precision" (some submittedAt)))
        else
          let request ← ExecutionOrderRequest.create prediction.predictionId
            prediction.semanticSha256 prediction.conditionId tokenId
            (lower prediction.selectedSide) "BUY" requestedShares config.targetNotionalUsd
            submittedAt arrivalAt expiresAt limit config.executionVersion
            (D.executionConfigSha256 config)
          .ok (.order ⟨request, selectedAsk, feeRate, prediction.slippageBuffer,
            some marketEndAt⟩)

/-- `build_paper_order`. -/
def buildPaperOrder (D : ExecutionDigests) (prediction : Prediction)
    (config : PaperExecutionConfig) (availableCash : Decimal) : Outcome PaperOrderPlan :=
  match skipReason prediction with
  | some reason => .ok (.terminal (terminal .skipped reason (some prediction.recordedAt)))
  | none =>
    match prediction.selectedAsk, prediction.feeRate with
    | some selectedAsk, some feeRate =>
      buildFromSignal D prediction config availableCash selectedAsk feeRate
    | _, _ => .ok (.terminal (terminal .skipped "selected_ask must be numeric"
        (some prediction.recordedAt)))

end BpEngine.Execution
