import BpEngine.Execution.Paper

/-!
# The paper ledger

The four append-only tables of paper execution, the records that are written to them
(`execution/models.py`, `execution/service.py`) and the repository that writes them
(`execution/repository.py`).  Rows are in the order of their ids.

* `numericColumn` is a `Numeric(38, 18)` column: it rounds, and `sameNumber` is the comparison by which
  the repository notices.
* `store` is `PaperExecutionRepository._store`; `insertOrder`, `insertFill`, `insertTerminalEvent` and
  `insertSettlement` are its four uses.
* `derivePaperCash` is the cash of a ledger, `currentCash` the one of an execution version.
A record's digest of its own values, its creation time and the mapping of its configuration, which is
kept in its digest, are left out.
-/

namespace BpEngine.PaperLedger

open BpEngine.Execution

/-! ## Columns -/

/-- A `Numeric(38, 18)` column. -/
def numericColumn (value : Decimal) : Outcome Decimal := do
  require ((value.roundToScale 18).coeff.natAbs < 10 ^ 38) .databaseError "numeric field overflow"
  .ok (value.roundToScale 18)

/-- `_normalized(a) == _normalized(b)` of two numbers. -/
def sameNumber (a b : Decimal) : Bool := Decimal.Same a.fix b.fix

/-- The database keeps a row that passes the constraints of its table. -/
def checked {Row : Type} (row : Row) (passes : Bool) : Outcome Row := do
  require (passes = true) .databaseError "new row violates check constraint"
  .ok row

/-! ## Rows -/

/-- A row of `paper_orders`. -/
structure OrderRow where
  paperOrderId : String
  predictionId : String
  predictionSemanticSha256 : String
  executionVersion : ExecutionVersion
  executionConfigSha256 : String
  conditionId : String
  tokenId : String
  selectedSide : Side
  requestedShares : Decimal
  targetNotionalUsd : Decimal
  submittedAt : Timestamp
  arrivalAt : Timestamp
  expiresAt : Timestamp
  limitPrice : Decimal
  signalSelectedAsk : Decimal
  signalFeeRate : Decimal
  signalSlippageBuffer : Decimal
deriving DecidableEq

/-- What a fill is made of, and its natural key is the digest of. -/
structure FillValues where
  paperOrderId : String
  fillAt : Timestamp
  shares : Decimal
  price : Decimal
  grossCost : Decimal
  fee : Decimal
  totalCost : Decimal
  signalAskSlippage : Decimal
  bookAnchorEventId : ℤ
  bookAnchorDedupeKey : String
  bookAppliedEventIds : List ℤ
  bookAppliedDedupeKeys : List String
  replayCutoffAt : Timestamp
deriving DecidableEq

/-- A row of `paper_fills`. -/
structure FillRow extends FillValues where
  fillKey : String
deriving DecidableEq

/-- A row of `paper_order_terminal_events`. -/
structure TerminalRow where
  paperOrderId : String
  terminalStatus : TerminalStatus
  remainingShares : Decimal
  eventAt : Timestamp
  reason : String
deriving DecidableEq

/-- A row of `paper_settlements`. -/
structure SettlementRow where
  paperOrderId : String
  labelVersion : String
  officialOutcome : String
  officialTarget : ℤ
  labelSource : String
  labelSourceSnapshotSha256 : String
  labelSourceObservedAt : Timestamp
  filledShares : Decimal
  totalFillCost : Decimal
  totalFees : Decimal
  payout : Decimal
  realizedPnl : Decimal
  settledAt : Timestamp
deriving DecidableEq

/-- The tables. -/
structure Ledger where
  orders : List OrderRow := []
  fills : List FillRow := []
  terminals : List TerminalRow := []
  settlements : List SettlementRow := []
deriving DecidableEq

/-! ## Storing -/

/-- `PaperLedgerStoreResult`, with the table after the store. -/
structure Stored (Row : Type) where
  rows : List Row
  created : Bool

/-- `_store`: the row of the natural key has the same values, or a row is written and read back. -/
def store {Row : Type} (rows : List Row) (hasKey : Row → Bool) (same : Row → Bool)
    (written : Outcome Row) (description : String) : Outcome (Stored Row) :=
  match rows.find? hasKey with
  | some row => do
    require (same row = true) .paperLedgerConflictError ("conflicting " ++ description)
    .ok ⟨rows, false⟩
  | none => do
    let row ← written
    require (same row = true) .paperLedgerConflictError ("conflicting " ++ description)
    .ok ⟨rows ++ [row], true⟩

/-- `_semantically_equal` of orders. -/
def OrderRow.same (record row : OrderRow) : Bool :=
  row.paperOrderId = record.paperOrderId && row.predictionId = record.predictionId &&
    row.predictionSemanticSha256 = record.predictionSemanticSha256 &&
    row.executionVersion = record.executionVersion &&
    row.executionConfigSha256 = record.executionConfigSha256 &&
    row.conditionId = record.conditionId && row.tokenId = record.tokenId &&
    row.selectedSide = record.selectedSide &&
    sameNumber row.requestedShares record.requestedShares &&
    sameNumber row.targetNotionalUsd record.targetNotionalUsd &&
    row.submittedAt = record.submittedAt && row.arrivalAt = record.arrivalAt &&
    row.expiresAt = record.expiresAt && sameNumber row.limitPrice record.limitPrice &&
    sameNumber row.signalSelectedAsk record.signalSelectedAsk &&
    sameNumber row.signalFeeRate record.signalFeeRate &&
    sameNumber row.signalSlippageBuffer record.signalSlippageBuffer

/-- The row the database makes of an order. -/
def OrderRow.written (record : OrderRow) : Outcome OrderRow := do
  let requestedShares ← numericColumn record.requestedShares
  let targetNotionalUsd ← numericColumn record.targetNotionalUsd
  let limitPrice ← numericColumn record.limitPrice
  let signalSelectedAsk ← numericColumn record.signalSelectedAsk
  let signalFeeRate ← numericColumn record.signalFeeRate
  let signalSlippageBuffer ← numericColumn record.signalSlippageBuffer
  checked
    { record with
      requestedShares, targetNotionalUsd, limitPrice, signalSelectedAsk, signalFeeRate,
      signalSlippageBuffer }
    (0 < requestedShares && 0 < targetNotionalUsd && record.submittedAt ≤ record.arrivalAt &&
      record.arrivalAt < record.expiresAt && 0 < limitPrice && limitPrice ≤ 1)

/-- `_semantically_equal` of fills. -/
def FillRow.same (record row : FillRow) : Bool :=
  row.paperOrderId = record.paperOrderId && row.fillKey = record.fillKey &&
    row.fillAt = record.fillAt && sameNumber row.shares record.shares &&
    sameNumber row.price record.price && sameNumber row.grossCost record.grossCost &&
    sameNumber row.fee record.fee && sameNumber row.totalCost record.totalCost &&
    sameNumber row.signalAskSlippage record.signalAskSlippage &&
    row.bookAnchorEventId = record.bookAnchorEventId &&
    row.bookAnchorDedupeKey = record.bookAnchorDedupeKey &&
    row.bookAppliedEventIds = record.bookAppliedEventIds &&
    row.bookAppliedDedupeKeys = record.bookAppliedDedupeKeys &&
    row.replayCutoffAt = record.replayCutoffAt

/-- The row the database makes of a fill. -/
def FillRow.written (record : FillRow) : Outcome FillRow := do
  let shares ← numericColumn record.shares
  let price ← numericColumn record.price
  let grossCost ← numericColumn record.grossCost
  let fee ← numericColumn record.fee
  let totalCost ← numericColumn record.totalCost
  let signalAskSlippage ← numericColumn record.signalAskSlippage
  checked { record with shares, price, grossCost, fee, totalCost, signalAskSlippage }
    (0 < shares && 0 < price && price ≤ 1 && 0 ≤ grossCost && 0 ≤ fee && 0 ≤ totalCost)

/-- `_semantically_equal` of terminal events. -/
def TerminalRow.same (record row : TerminalRow) : Bool :=
  row.paperOrderId = record.paperOrderId && row.terminalStatus = record.terminalStatus &&
    sameNumber row.remainingShares record.remainingShares && row.eventAt = record.eventAt &&
    row.reason = record.reason

/-- The row the database makes of a terminal event. -/
def TerminalRow.written (record : TerminalRow) : Outcome TerminalRow := do
  let remainingShares ← numericColumn record.remainingShares
  checked { record with remainingShares } (0 ≤ remainingShares)

/-- `_semantically_equal` of settlements. -/
def SettlementRow.same (record row : SettlementRow) : Bool :=
  row.paperOrderId = record.paperOrderId && row.labelVersion = record.labelVersion &&
    row.officialOutcome = record.officialOutcome && row.officialTarget = record.officialTarget &&
    row.labelSource = record.labelSource &&
    row.labelSourceSnapshotSha256 = record.labelSourceSnapshotSha256 &&
    row.labelSourceObservedAt = record.labelSourceObservedAt &&
    sameNumber row.filledShares record.filledShares &&
    sameNumber row.totalFillCost record.totalFillCost &&
    sameNumber row.totalFees record.totalFees && sameNumber row.payout record.payout &&
    sameNumber row.realizedPnl record.realizedPnl && row.settledAt = record.settledAt

/-- The row the database makes of a settlement. -/
def SettlementRow.written (record : SettlementRow) : Outcome SettlementRow := do
  let filledShares ← numericColumn record.filledShares
  let totalFillCost ← numericColumn record.totalFillCost
  let totalFees ← numericColumn record.totalFees
  let payout ← numericColumn record.payout
  let realizedPnl ← numericColumn record.realizedPnl
  checked { record with filledShares, totalFillCost, totalFees, payout, realizedPnl }
    ((record.officialTarget = 0 || record.officialTarget = 1) && 0 < filledShares &&
      0 ≤ totalFillCost && 0 ≤ totalFees && 0 ≤ payout)

namespace Ledger

/-- The order of an id. -/
def findOrder (ledger : Ledger) (paperOrderId : String) : Option OrderRow :=
  ledger.orders.find? fun row => row.paperOrderId = paperOrderId

/-- `_require_order`. -/
def requireOrder (ledger : Ledger) (paperOrderId : String) : Outcome Unit :=
  require ((ledger.findOrder paperOrderId).isSome = true) .valueError
    ("paper order does not exist: " ++ paperOrderId)

/-- The order is terminal. -/
def isTerminal (ledger : Ledger) (paperOrderId : String) : Bool :=
  ledger.terminals.any fun row => row.paperOrderId = paperOrderId

/-- The fills of an order. -/
def fillsOf (ledger : Ledger) (paperOrderId : String) : List FillRow :=
  ledger.fills.filter fun row => row.paperOrderId = paperOrderId

/-- The order has a settlement by a label version. -/
def isSettled (ledger : Ledger) (paperOrderId labelVersion : String) : Bool :=
  ledger.settlements.any fun row => row.paperOrderId = paperOrderId && row.labelVersion = labelVersion

/-- `_order_for_prediction`. -/
def orderFor (ledger : Ledger) (predictionId : String) (executionVersion : ExecutionVersion) :
    Option OrderRow :=
  ledger.orders.find? fun row =>
    row.predictionId = predictionId && row.executionVersion = executionVersion

end Ledger

/-- `_validate_source_prediction`. -/
def validateSourcePrediction (predictions : List Prediction) (order : OrderRow) : Outcome Unit := do
  match predictions.find? (fun source => source.predictionId = order.predictionId) with
  | none => raise .valueError ("source prediction does not exist: " ++ order.predictionId)
  | some source =>
    require (source.semanticSha256 = order.predictionSemanticSha256) .valueError
      "source prediction semantic SHA-256 mismatch"
    require (source.trade = true ∧ source.executable = true) .valueError
      "paper order requires trade=true and executable=true"
    require (source.conditionId = order.conditionId) .valueError
      "paper order condition does not match source prediction"
    let side := match order.selectedSide with
      | .up => "up"
      | .down => "down"
    require (lower source.selectedSide = side) .valueError
      "paper order side does not match source prediction"
    let token := match order.selectedSide with
      | .up => source.upTokenId
      | .down => source.downTokenId
    require (token = order.tokenId) .valueError
      "paper order token does not match selected source side"
    require (source.selectedAsk.any (Decimal.Same order.signalSelectedAsk ·) = true) .valueError
      "paper order signal ask does not match source prediction"
    require (Decimal.Same source.slippageBuffer order.signalSlippageBuffer) .valueError
      "paper order slippage does not match source prediction"
    match source.feeRate with
    | none => raise .valueError "source prediction edge config is missing fee_rate"
    | some feeRate =>
      require (Decimal.Same feeRate order.signalFeeRate) .valueError
        "paper order fee rate does not match source prediction"

/-- `insert_order`. -/
def insertOrder (predictions : List Prediction) (ledger : Ledger) (order : OrderRow) :
    Outcome (Ledger × Bool) := do
  validateSourcePrediction predictions order
  match ledger.findOrder order.paperOrderId with
  | some row =>
    require (order.same row = true) .paperLedgerConflictError
      ("conflicting paper order id=" ++ order.paperOrderId)
    .ok (ledger, false)
  | none =>
    let stored ← store ledger.orders
      (fun row => row.predictionId = order.predictionId &&
        row.executionVersion = order.executionVersion)
      order.same order.written
      ("paper order prediction_id=" ++ order.predictionId ++ " execution_version=" ++
        order.executionVersion.text)
    .ok ({ ledger with orders := stored.rows }, stored.created)

/-- `insert_fill`. -/
def insertFill (ledger : Ledger) (fill : FillRow) : Outcome (Ledger × Bool) := do
  ledger.requireOrder fill.paperOrderId
  let stored ← store ledger.fills
    (fun row => row.paperOrderId = fill.paperOrderId && row.fillKey = fill.fillKey) fill.same
    fill.written ("paper fill order_id=" ++ fill.paperOrderId ++ " fill_key=" ++ fill.fillKey)
  .ok ({ ledger with fills := stored.rows }, stored.created)

/-- `insert_terminal_event`. -/
def insertTerminalEvent (ledger : Ledger) (event : TerminalRow) : Outcome (Ledger × Bool) := do
  ledger.requireOrder event.paperOrderId
  let stored ← store ledger.terminals (fun row => row.paperOrderId = event.paperOrderId) event.same
    event.written ("paper terminal event order_id=" ++ event.paperOrderId)
  .ok ({ ledger with terminals := stored.rows }, stored.created)

/-- `insert_settlement`. -/
def insertSettlement (ledger : Ledger) (settlement : SettlementRow) : Outcome (Ledger × Bool) := do
  ledger.requireOrder settlement.paperOrderId
  let stored ← store ledger.settlements
    (fun row => row.paperOrderId = settlement.paperOrderId &&
      row.labelVersion = settlement.labelVersion)
    settlement.same settlement.written
    ("paper settlement order_id=" ++ settlement.paperOrderId ++ " label_version=" ++
      settlement.labelVersion)
  .ok ({ ledger with settlements := stored.rows }, stored.created)

/-! ## Cash -/

/-- `sum(values, _ZERO)`. -/
def total (values : List Decimal) : Decimal := values.foldl (· + ·) 0

/-- `derive_paper_cash`. -/
def derivePaperCash (startingCash : Decimal) (fillCosts settlementPayouts : List Decimal) :
    Outcome Decimal := do
  let cash := startingCash - total fillCosts + total settlementPayouts
  require (¬ cash < 0) .paperCashInvariantError "derived paper cash is negative"
  .ok cash

namespace Ledger

/-- The order of an id is of an execution version; the join of `paper_orders`. -/
def ofVersion (ledger : Ledger) (executionVersion : ExecutionVersion) (paperOrderId : String) :
    Bool :=
  ledger.orders.any fun row =>
    row.paperOrderId = paperOrderId && row.executionVersion = executionVersion

/-- What the fills of an execution version cost. -/
def fillCosts (ledger : Ledger) (executionVersion : ExecutionVersion) : List Decimal :=
  (ledger.fills.filter fun row => ledger.ofVersion executionVersion row.paperOrderId).map
    (·.totalCost)

/-- What the settlements of an execution version pay. -/
def payouts (ledger : Ledger) (executionVersion : ExecutionVersion) : List Decimal :=
  (ledger.settlements.filter fun row => ledger.ofVersion executionVersion row.paperOrderId).map
    (·.payout)

/-- `_current_cash`. -/
def currentCash (ledger : Ledger) (config : PaperExecutionConfig) : Outcome Decimal :=
  derivePaperCash config.startingCashUsd (ledger.fillCosts config.executionVersion)
    (ledger.payouts config.executionVersion)

end Ledger

end BpEngine.PaperLedger
