import BpEngine.Execution.Book
import BpEngine.PaperLedger.Evaluation

/-!
# The paper service and its gateway

`execution/service.py` and `execution/gateway.py`: the loops that turn predictions into orders, orders
into fills and a terminal event, and evaluations into settlements.

* `orderRecord`, `fillRecord`, `terminalRecord` and `settlementRecord` make the records, with the checks
  of their `__post_init__`.
* `booksForOrder` and `booksUntil` replay the books an order meets; `processOrder` and `settleReady` are
  the parts of `runOnce`, `submitOrder` and `cancelOrder` the calls of the gateway.
* A call runs in one transaction: `committed` is the ledger it leaves.
-/

namespace BpEngine.PaperLedger

open BpEngine.Execution
open BookReplay (RawEvents bookAt)

/-- The digests of the service. -/
structure ServiceDigests extends ExecutionDigests where
  /-- `canonical_hash(fill_values)`. -/
  fillKey : FillValues → String

/-- The tables the service reads and does not write. -/
structure PaperInputs where
  predictions : List Prediction
  evaluations : List Evaluation
  rawEvents : RawEvents

/-! ## Records -/

/-- The text of a side. -/
def sideText : Side → String
  | .up => "up"
  | .down => "down"

/-- The text of a status, in lower case. -/
def statusText : TerminalStatus → String
  | .skipped => "skipped"
  | .filled => "filled"
  | .cancelled => "cancelled"
  | .expired => "expired"
  | .marketEndedUnfilled => "market_ended_unfilled"
  | .insufficientPaperCash => "insufficient_paper_cash"

/-- `_probability_price`. -/
def probabilityPrice (value : Decimal) (name : String) : Outcome Decimal := do
  require (0 < value ∧ value ≤ 1) .valueError (name ++ " must be within (0, 1]")
  .ok value

/-- `_nonnegative_decimal`. -/
def nonnegativeDecimal (value : Decimal) (name : String) : Outcome Decimal := do
  require (0 ≤ value) .valueError (name ++ " must be finite and non-negative")
  .ok value

/-- `_positive_decimal`. -/
def positiveDecimal (value : Decimal) (name : String) : Outcome Decimal := do
  require (0 < value) .valueError (name ++ " must be finite and greater than zero")
  .ok value

/-- `_provenance_sha256_key`. -/
def provenanceSha256Key (value name : String) : Outcome String := do
  require (BookReplay.isDedupeKey value = true) .valueError
    (name ++ " must be a lowercase SHA-256 digest or recorder sha256 key")
  .ok value

/-- `_order_record`. -/
def orderRecord (D : ServiceDigests) (draft : PaperOrderDraft) : Outcome OrderRow := do
  let request := draft.request
  let paperOrderId ←
    text (D.paperOrderId request.predictionId request.executionVersion) "paper_order_id"
  let predictionId ← text request.predictionId "prediction_id"
  let conditionId ← text request.conditionId "condition_id"
  let tokenId ← text request.tokenId "token_id"
  let predictionSemanticSha256 ←
    sha256 request.predictionSemanticSha256 "prediction_semantic_sha256"
  let executionConfigSha256 ← sha256 request.executionConfigSha256 "execution_config_sha256"
  let signalSelectedAsk ← probabilityPrice draft.signalSelectedAsk "signal_selected_ask"
  let signalFeeRate ← nonnegativeDecimal draft.signalFeeRate "signal_fee_rate"
  let signalSlippageBuffer ← nonnegativeDecimal draft.signalSlippageBuffer "signal_slippage_buffer"
  .ok
    { paperOrderId, predictionId, predictionSemanticSha256
      executionVersion := request.executionVersion
      executionConfigSha256, conditionId, tokenId
      selectedSide := request.selectedSide
      requestedShares := request.requestedShares
      targetNotionalUsd := request.targetNotionalUsd
      submittedAt := request.submittedAt
      arrivalAt := request.arrivalAt
      expiresAt := request.expiresAt
      limitPrice := request.limitPrice
      signalSelectedAsk, signalFeeRate, signalSlippageBuffer }

/-- `_draft_from_rows`. -/
def draftFromRows (order : OrderRow) (prediction : Prediction) : Outcome PaperOrderDraft := do
  let request ← ExecutionOrderRequest.create order.predictionId order.predictionSemanticSha256
    order.conditionId order.tokenId (sideText order.selectedSide) "BUY" order.requestedShares
    order.targetNotionalUsd order.submittedAt order.arrivalAt order.expiresAt order.limitPrice
    order.executionVersion order.executionConfigSha256
  .ok ⟨request, order.signalSelectedAsk, order.signalFeeRate, order.signalSlippageBuffer,
    some prediction.marketEndAt⟩

/-- `_fill_record`. -/
def fillRecord (D : ServiceDigests) (paperOrderId : String) (fill : PaperFillDraft) :
    Outcome FillRow := do
  let values : FillValues :=
    { paperOrderId
      fillAt := fill.fillAt
      shares := fill.shares
      price := fill.price
      grossCost := fill.grossCost
      fee := fill.fee
      totalCost := fill.totalCost
      signalAskSlippage := fill.signalAskSlippage
      bookAnchorEventId := fill.bookAnchorEventId
      bookAnchorDedupeKey := fill.bookAnchorDedupeKey
      bookAppliedEventIds := fill.bookAppliedEventIds
      bookAppliedDedupeKeys := fill.bookAppliedDedupeKeys
      replayCutoffAt := fill.replayCutoffAt }
  let orderId ← text paperOrderId "paper_order_id"
  let fillKey ← text (D.fillKey values) "fill_key"
  let bookAnchorDedupeKey ← provenanceSha256Key fill.bookAnchorDedupeKey "book_anchor_dedupe_key"
  let shares ← positiveDecimal fill.shares "shares"
  let price ← probabilityPrice fill.price "price"
  let grossCost ← nonnegativeDecimal fill.grossCost "gross_cost"
  let fee ← nonnegativeDecimal fill.fee "fee"
  let totalCost ← nonnegativeDecimal fill.totalCost "total_cost"
  require (0 < fill.bookAnchorEventId) .valueError "book_anchor_event_id must be positive"
  require (∀ eventId ∈ fill.bookAppliedEventIds, 0 < eventId) .valueError
    "book_applied_event_ids must be positive"
  require (fill.bookAppliedEventIds.length = fill.bookAppliedDedupeKeys.length) .valueError
    "book applied event ids and dedupe keys must align"
  let bookAppliedDedupeKeys ←
    fill.bookAppliedDedupeKeys.mapM fun key => provenanceSha256Key key "book_applied_dedupe_key"
  .ok
    { values with
      paperOrderId := orderId
      fillKey, bookAnchorDedupeKey, shares, price, grossCost, fee, totalCost, bookAppliedDedupeKeys }

/-- `_terminal_record`. -/
def terminalRecord (paperOrderId : String) (terminal : PaperTerminalDraft) :
    Outcome TerminalRow :=
  match terminal.eventAt with
  | none => raise .valueError "persisted paper terminal event requires event_at"
  | some eventAt => do
    let orderId ← text paperOrderId "paper_order_id"
    let remainingShares ← nonnegativeDecimal terminal.remainingShares "remaining_shares"
    let reason ← text terminal.reason "reason"
    .ok ⟨orderId, terminal.status, remainingShares, eventAt, reason⟩

/-- `settlement_payout`. -/
def settlementPayout (filledShares : Decimal) (selectedSide : Side) (officialOutcome : String) :
    Outcome Decimal := do
  require (0 ≤ filledShares) .valueError "filled_shares must be non-negative"
  require (lower officialOutcome = "up" ∨ lower officialOutcome = "down") .valueError
    "official_outcome must be Up or Down"
  .ok (if sideText selectedSide = lower officialOutcome then filledShares else 0)

/-- `_settlement_record`. -/
def settlementRecord (order : OrderRow) (evaluation : Evaluation) (fills : List FillRow) :
    Outcome SettlementRow := do
  let filledShares := total (fills.map (·.shares))
  let totalFillCost := total (fills.map (·.totalCost))
  let totalFees := total (fills.map (·.fee))
  let payout ← settlementPayout filledShares order.selectedSide evaluation.officialOutcome
  let realizedPnl := payout - totalFillCost
  let paperOrderId ← text order.paperOrderId "paper_order_id"
  let labelVersion ← text evaluation.labelVersion "label_version"
  let labelSource ← text evaluation.labelSource "label_source"
  let outcome ← text evaluation.officialOutcome "official_outcome"
  require (lower outcome = "up" ∨ lower outcome = "down") .valueError
    "official_outcome must be Up or Down"
  require (evaluation.officialTarget = 0 ∨ evaluation.officialTarget = 1) .valueError
    "official_target must be 0 or 1"
  let labelSourceSnapshotSha256 ←
    sha256 evaluation.labelSourceSnapshotSha256 "label_source_snapshot_sha256"
  let filledShares ← positiveDecimal filledShares "filled_shares"
  let totalFillCost ← nonnegativeDecimal totalFillCost "total_fill_cost"
  let totalFees ← nonnegativeDecimal totalFees "total_fees"
  let payout ← nonnegativeDecimal payout "payout"
  .ok
    { paperOrderId, labelVersion
      officialOutcome := if lower outcome = "up" then "Up" else "Down"
      officialTarget := evaluation.officialTarget
      labelSource, labelSourceSnapshotSha256
      labelSourceObservedAt := evaluation.labelSourceObservedAt
      filledShares, totalFillCost, totalFees, payout, realizedPnl
      settledAt := evaluation.evaluatedAt }

/-! ## Books -/

/-- The receipts of the events of a condition after `after` up to `cutoff`. -/
def eventTimes (rows : RawEvents) (conditionId : String) (after cutoff : Timestamp) :
    List Timestamp :=
  (rows.select
    (fun row => row.event.source = "polymarket" && row.event.stream = "market" &&
      row.event.instrument = conditionId && after < row.receivedAt && row.receivedAt ≤ cutoff &&
      (row.event.eventType = "book" || row.event.eventType = "price_change"))
    (Relation.oldestFirst Storage.RawRow.receivedAt Storage.RawRow.id)).map (·.receivedAt)

/-- `for observed_at in observed_times`: the books, once for each instant. -/
def observeBooks (rows : RawEvents) (conditionId tokenId : String) :
    List Timestamp → Option Timestamp → Outcome (List ReplayedBook)
  | [], _ => .ok []
  | observedAt :: rest, previousCutoff =>
    if previousCutoff = some observedAt then observeBooks rows conditionId tokenId rest previousCutoff
    else do
      let book ← bookAt rows conditionId tokenId observedAt
      let books ← observeBooks rows conditionId tokenId rest (some observedAt)
      .ok ((book.map (·.toReplayedBook)).toList ++ books)

/-- `_books_for_order`. -/
def booksForOrder (rows : RawEvents) (request : ExecutionOrderRequest) :
    Outcome (List ReplayedBook) :=
  observeBooks rows request.conditionId request.tokenId
    (request.arrivalAt ::
      eventTimes rows request.conditionId request.arrivalAt request.expiresAt) none

/-- `_books_until`. -/
def booksUntil (rows : RawEvents) (request : ExecutionOrderRequest) (untilAt : Timestamp) :
    Outcome (List ReplayedBook) :=
  let cutoff := min untilAt request.expiresAt
  if cutoff < request.arrivalAt then .ok []
  else
    observeBooks rows request.conditionId request.tokenId
      (request.arrivalAt :: eventTimes rows request.conditionId request.arrivalAt cutoff) none

/-! ## Writing -/

/-- How many records a call made, and how many it found. -/
structure Written where
  created : ℕ := 0
  existing : ℕ := 0
deriving DecidableEq

/-- One record more. -/
def Written.count (written : Written) (created : Bool) : Written :=
  if created then ⟨written.created + 1, written.existing⟩
  else ⟨written.created, written.existing + 1⟩

/-- `for fill in simulation.fills: insert_fill(..)`. -/
def insertFills (D : ServiceDigests) (paperOrderId : String) :
    List PaperFillDraft → Ledger → Written → Outcome (Ledger × Written)
  | [], ledger, written => .ok (ledger, written)
  | fill :: fills, ledger, written => do
    let record ← fillRecord D paperOrderId fill
    let stored ← insertFill ledger record
    insertFills D paperOrderId fills stored.1 (written.count stored.2)

/-- `insert_terminal_event(_terminal_record(..))`. -/
def writeTerminal (ledger : Ledger) (paperOrderId : String) (terminal : PaperTerminalDraft) :
    Outcome (Ledger × Bool) := do
  let record ← terminalRecord paperOrderId terminal
  insertTerminalEvent ledger record

/-- The fills and the terminal event of a simulation. -/
def writeSimulation (D : ServiceDigests) (ledger : Ledger) (paperOrderId : String)
    (simulation : PaperSimulationResult) : Outcome (Ledger × Written × Bool) := do
  let fills ← insertFills D paperOrderId simulation.fills ledger {}
  let stored ← writeTerminal fills.1 paperOrderId simulation.terminal
  .ok (stored.1, fills.2, stored.2)

/-- What `_process_order` counts: fills and terminal events. -/
structure OrderCounts where
  fills : Written := {}
  terminals : Written := {}
deriving DecidableEq

/-- The terminal event of an order whose books cannot be replayed. -/
def replayFailed (draft : PaperOrderDraft) (raised : Raised) : PaperTerminalDraft :=
  terminal .expired
    (String.ofList (("causal book replay failed closed: " ++ raised.message).toList.take 128))
    (some draft.request.expiresAt) draft.request.requestedShares

/-- `_process_order`. -/
def processOrder (D : ServiceDigests) (inputs : PaperInputs) (ledger : Ledger) (order : OrderRow)
    (prediction : Prediction) (now : Timestamp) : Outcome (Ledger × OrderCounts) :=
  if ledger.isTerminal order.paperOrderId then .ok (ledger, { terminals := ⟨0, 1⟩ })
  else if now < order.expiresAt then .ok (ledger, {})
  else do
    let draft ← draftFromRows order prediction
    match booksForOrder inputs.rawEvents draft.request with
    | .error raised =>
      if raised.cls = .bookReplayError then do
        let stored ← writeTerminal ledger order.paperOrderId (replayFailed draft raised)
        .ok (stored.1, { terminals := Written.count {} stored.2 })
      else .error raised
    | .ok books =>
      let simulation ← simulateBuy draft books
      let stored ← writeSimulation D ledger order.paperOrderId simulation
      .ok (stored.1, ⟨stored.2.1, Written.count {} stored.2.2⟩)

/-! ## Settling -/

/-- The newest evaluation of a prediction. -/
def latestEvaluation (evaluations : List Evaluation) (predictionId : String) (now : Timestamp) :
    Option Evaluation :=
  ((evaluations.filter fun row => row.predictionId = predictionId && row.evaluatedAt ≤ now).reverse
    |>.insertionSort fun a b => b.evaluatedAt ≤ a.evaluatedAt).head?

/-- The fills of an order, the oldest first. -/
def Ledger.fillsByTime (ledger : Ledger) (paperOrderId : String) : List FillRow :=
  (ledger.fillsOf paperOrderId).insertionSort fun a b => a.fillAt ≤ b.fillAt

/-- `for order in orders`, with what was read before the loop. -/
def settleOrders (inputs : PaperInputs) (now : Timestamp) (before : Ledger) :
    List OrderRow → List (String × String) → Ledger → Written → Outcome (Ledger × Written)
  | [], _, ledger, written => .ok (ledger, written)
  | order :: orders, settlementKeys, ledger, written =>
    if before.isTerminal order.paperOrderId = false then
      settleOrders inputs now before orders settlementKeys ledger written
    else
      match latestEvaluation inputs.evaluations order.predictionId now with
      | none => settleOrders inputs now before orders settlementKeys ledger written
      | some evaluation =>
        if (order.paperOrderId, evaluation.labelVersion) ∈ settlementKeys then
          settleOrders inputs now before orders settlementKeys ledger (written.count false)
        else if (before.fillsByTime order.paperOrderId).isEmpty then
          settleOrders inputs now before orders settlementKeys ledger written
        else do
          let record ←
            settlementRecord order evaluation (before.fillsByTime order.paperOrderId)
          let stored ← insertSettlement ledger record
          settleOrders inputs now before orders
            ((order.paperOrderId, evaluation.labelVersion) :: settlementKeys) stored.1
            (written.count stored.2)

/-- The orders of an execution version, the oldest first. -/
def Ledger.ordersOf (ledger : Ledger) (executionVersion : ExecutionVersion) : List OrderRow :=
  (ledger.orders.filter fun row => row.executionVersion = executionVersion).insertionSort
    fun a b => a.submittedAt ≤ b.submittedAt

/-- `_settle_ready`. -/
def settleReady (inputs : PaperInputs) (config : PaperExecutionConfig) (now : Timestamp)
    (ledger : Ledger) : Outcome (Ledger × Written) :=
  settleOrders inputs now ledger (ledger.ordersOf config.executionVersion)
    (ledger.settlements.map fun row => (row.paperOrderId, row.labelVersion)) ledger {}

/-! ## A run -/

/-- `PaperRunReport`. -/
structure PaperRunReport where
  examinedPredictions : ℕ := 0
  skippedPredictions : ℕ := 0
  orders : Written := {}
  fills : Written := {}
  terminals : Written := {}
  settlements : Written := {}
  currentCash : Decimal := 0
deriving DecidableEq

/-- Both counts. -/
def Written.add (a b : Written) : Written := ⟨a.created + b.created, a.existing + b.existing⟩

/-- The predictions a run examines. -/
def examined (inputs : PaperInputs) (config : PaperExecutionConfig) (now : Timestamp) :
    List Prediction :=
  (inputs.predictions.filter fun row =>
    row.recordedAt ≤ now && config.predictionVersion.all (row.predictionVersion = ·) &&
      row.predictionVersion ∉ config.excludedPredictionVersions).insertionSort
    fun a b => a.recordedAt ≤ b.recordedAt

/-- The state of the loop over the predictions. -/
structure RunState where
  ledger : Ledger
  availableCash : Decimal
  report : PaperRunReport

/-- `_process_order` in the loop, with the cash after new fills. -/
def processExamined (D : ServiceDigests) (inputs : PaperInputs) (config : PaperExecutionConfig)
    (now : Timestamp) (state : RunState) (order : OrderRow) (prediction : Prediction) :
    Outcome RunState := do
  let processed ← processOrder D inputs state.ledger order prediction now
  let availableCash ←
    if 0 < processed.2.fills.created then processed.1.currentCash config else .ok state.availableCash
  .ok
    { ledger := processed.1
      availableCash
      report :=
        { state.report with
          fills := state.report.fills.add processed.2.fills
          terminals := state.report.terminals.add processed.2.terminals } }

/-- The body of `for prediction in predictions`. -/
def examine (D : ServiceDigests) (inputs : PaperInputs) (config : PaperExecutionConfig)
    (now : Timestamp) (state : RunState) (prediction : Prediction) : Outcome RunState := do
  let report :=
    { state.report with examinedPredictions := state.report.examinedPredictions + 1 }
  match state.ledger.orderFor prediction.predictionId config.executionVersion with
  | some order =>
    processExamined D inputs config now
      { state with report := { report with orders := report.orders.count false } } order prediction
  | none =>
    let plan ← buildPaperOrder D.toExecutionDigests prediction config state.availableCash
    match plan with
    | .terminal _ =>
      .ok
        { state with
          report := { report with skippedPredictions := report.skippedPredictions + 1 } }
    | .order draft =>
      let record ← orderRecord D draft
      let stored ← insertOrder inputs.predictions state.ledger record
      match stored.1.orderFor prediction.predictionId config.executionVersion with
      | none => raise .runtimeError "paper order insert did not become visible"
      | some order =>
        processExamined D inputs config now
          { state with
            ledger := stored.1
            report := { report with orders := report.orders.count stored.2 } }
          order prediction

/-- `run_once`. -/
def runOnce (D : ServiceDigests) (inputs : PaperInputs) (config : PaperExecutionConfig)
    (now : Timestamp) (ledger : Ledger) : Outcome (Ledger × PaperRunReport) := do
  let first ← settleReady inputs config now ledger
  let availableCash ← first.1.currentCash config
  let state ← (examined inputs config now).foldlM (examine D inputs config now)
    ⟨first.1, availableCash, { settlements := first.2 }⟩
  let second ← settleReady inputs config now state.ledger
  let currentCash ← second.1.currentCash config
  .ok (second.1,
    { state.report with
      settlements := state.report.settlements.add second.2
      currentCash })

/-! ## The gateway -/

/-- `ExecutionOrderAck`. -/
structure ExecutionOrderAck where
  orderId : String
  accepted : Bool
  observedAt : Timestamp
  reason : String
deriving DecidableEq

/-- `ExecutionCancelAck`. -/
structure ExecutionCancelAck where
  orderId : String
  cancelled : Bool
  observedAt : Timestamp
  reason : String
deriving DecidableEq

/-- `ExecutionCancelAck(..)`. -/
def cancelAck (orderId : String) (cancelled : Bool) (observedAt : Timestamp) (reason : String) :
    Outcome ExecutionCancelAck := do
  let orderId ← text orderId "order_id"
  let reason ← text reason "reason"
  .ok ⟨orderId, cancelled, observedAt, reason⟩

/-- `_prediction_by_id`. -/
def predictionById (predictions : List Prediction) (predictionId : String) : Option Prediction :=
  predictions.find? fun row => row.predictionId = predictionId

/-- `_draft_for_request`. -/
def draftForRequest (D : ServiceDigests) (config : PaperExecutionConfig)
    (request : ExecutionOrderRequest) (prediction : Prediction) : Outcome PaperOrderDraft := do
  require (request.executionVersion = config.executionVersion) .valueError
    "execution version does not match paper gateway config"
  require (request.executionConfigSha256 = D.executionConfigSha256 config) .valueError
    "execution config SHA-256 does not match paper gateway config"
  match prediction.selectedAsk, prediction.feeRate with
  | none, _ => raise .valueError "source prediction selected_ask is required"
  | some _, none => raise .valueError "source prediction edge_config fee_rate is required"
  | some selectedAsk, some feeRate =>
    .ok ⟨request, selectedAsk, feeRate, prediction.slippageBuffer, some prediction.marketEndAt⟩

/-- The insert of `submit_order`. -/
def insertRequest (D : ServiceDigests) (inputs : PaperInputs) (config : PaperExecutionConfig)
    (ledger : Ledger) (request : ExecutionOrderRequest) (prediction : Prediction) :
    Outcome (Ledger × Bool) := do
  let draft ← draftForRequest D config request prediction
  let record ← orderRecord D draft
  insertOrder inputs.predictions ledger record

/-- `submit_order`. -/
def submitOrder (D : ServiceDigests) (inputs : PaperInputs) (config : PaperExecutionConfig)
    (ledger : Ledger) (request : ExecutionOrderRequest) : Outcome (Ledger × ExecutionOrderAck) :=
  let orderId := D.paperOrderId request.predictionId request.executionVersion
  let refused (reason : String) : Outcome (Ledger × ExecutionOrderAck) :=
    .ok (ledger, ⟨orderId, false, request.submittedAt, reason⟩)
  match predictionById inputs.predictions request.predictionId with
  | none => refused "source_prediction_missing"
  | some prediction =>
    match insertRequest D inputs config ledger request prediction with
    | .ok (after, created) =>
      .ok (after, ⟨orderId, true, request.submittedAt, if created then "accepted" else "existing"⟩)
    | .error raised =>
      if raised.cls = .valueError ∨ raised.cls = .typeError ∨ raised.cls = .keyError then
        refused "source_validation_failed"
      else .error raised

/-- `_persist_simulation`. -/
def persistSimulation (D : ServiceDigests) (inputs : PaperInputs) (ledger : Ledger)
    (order : OrderRow) (draft : PaperOrderDraft) (cancelAt : Option Timestamp) :
    Outcome (Ledger × TerminalStatus) := do
  let books ←
    match cancelAt with
    | some cancelAt => booksUntil inputs.rawEvents draft.request cancelAt
    | none => booksForOrder inputs.rawEvents draft.request
  let simulation ← simulateBuy draft books cancelAt
  let stored ← writeSimulation D ledger order.paperOrderId simulation
  .ok (stored.1, simulation.terminal.status)

/-- The text of the reason for an order that is terminal already. -/
def alreadyReason (status : TerminalStatus) : String := "already_" ++ statusText status

/-- `cancel_order`. -/
def cancelOrder (D : ServiceDigests) (inputs : PaperInputs) (ledger : Ledger) (orderId : String)
    (observedAt : Timestamp) : Outcome (Ledger × ExecutionCancelAck) := do
  let refused (reason : String) : Outcome (Ledger × ExecutionCancelAck) := do
    let ack ← cancelAck orderId false observedAt reason
    .ok (ledger, ack)
  match ledger.findOrder orderId with
  | none => refused "unknown_order"
  | some order =>
    match ledger.terminals.find? fun row => row.paperOrderId = orderId with
    | some row =>
      let ack ← cancelAck orderId (row.terminalStatus = .cancelled) observedAt
        (alreadyReason row.terminalStatus)
      .ok (ledger, ack)
    | none =>
      if observedAt < order.submittedAt then refused "cancel_before_submission"
      else
        match predictionById inputs.predictions order.predictionId with
        | none => refused "source_prediction_missing"
        | some prediction =>
          let draft ← draftFromRows order prediction
          if order.expiresAt ≤ observedAt then
            let persisted ← persistSimulation D inputs ledger order draft none
            let ack ← cancelAck orderId false observedAt (alreadyReason persisted.2)
            .ok (persisted.1, ack)
          else
            let books ← booksUntil inputs.rawEvents draft.request observedAt
            let simulation ← simulateBuy draft books (some observedAt)
            let stored ← writeSimulation D ledger orderId simulation
            let ack ← cancelAck orderId (simulation.terminal.status = .cancelled) observedAt
              simulation.terminal.reason
            .ok (stored.1, ack)

/-! ## Transactions -/

/-- The ledger a call leaves: an exception rolls its transaction back. -/
def committed {α : Type} (ledger : Ledger) (outcome : Outcome (Ledger × α)) : Ledger :=
  match outcome with
  | .ok (after, _) => after
  | .error _ => ledger

/-- A call on the paper ledger, with the inputs at its time. -/
inductive PaperCall where
  | run (config : PaperExecutionConfig) (now : Timestamp)
  | submit (config : PaperExecutionConfig) (request : ExecutionOrderRequest)
  | cancel (orderId : String) (observedAt : Timestamp)

/-- The ledger after a call. -/
def callStep (D : ServiceDigests) (ledger : Ledger) (call : PaperInputs × PaperCall) : Ledger :=
  match call.2 with
  | .run config now => committed ledger (runOnce D call.1 config now ledger)
  | .submit config request => committed ledger (submitOrder D call.1 config ledger request)
  | .cancel orderId observedAt => committed ledger (cancelOrder D call.1 ledger orderId observedAt)

end BpEngine.PaperLedger
