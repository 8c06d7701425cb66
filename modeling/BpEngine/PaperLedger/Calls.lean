import BpEngine.Execution.Documents
import BpEngine.Library.Machine
import BpEngine.PaperLedger.Service

/-!
# What a call does to the paper ledger

* `store_eq_ok` takes the storing of a row apart; `insertOrder_spec`, `insertFill_spec`,
  `insertTerminalEvent_spec` and `insertSettlement_spec` are its four uses.
* `KeptByParts` says that a property of ledgers survives the parts calls are made of: an order, the
  simulation of an open order, the terminal event of one that cannot be replayed, and a settlement.
* `KeptByParts.callStep` is the rule: such a property survives every call, and `KeptByParts.run` every
  run of calls.
-/

namespace BpEngine.PaperLedger

open BpEngine.Execution
open BookReplay (RawEvents)

/-! ## Storing -/

theorem store_eq_ok {Row : Type} {rows : List Row} {hasKey same : Row → Bool} {written : Outcome Row}
    {description : String} {stored : Stored Row}
    (h : store rows hasKey same written description = .ok stored) :
    (stored.rows = rows ∧ ∃ row, rows.find? hasKey = some row) ∨
      rows.find? hasKey = none ∧ ∃ row, written = .ok row ∧ same row = true ∧
        stored.rows = rows ++ [row] := by
  unfold store at h
  split at h
  · next row hrow =>
    obtain ⟨_, -, h⟩ := bind_eq_ok.mp h
    cases h
    exact Or.inl ⟨rfl, row, hrow⟩
  · next hnone =>
    obtain ⟨row, hwritten, h⟩ := bind_eq_ok.mp h
    obtain ⟨_, hsame, h⟩ := bind_eq_ok.mp h
    cases h
    exact Or.inr ⟨hnone, row, hwritten, require_eq_ok.mp hsame, rfl⟩

/-- A row that is not there, that the database keeps as it is, is stored. -/
theorem store_new {Row : Type} {rows : List Row} {hasKey same : Row → Bool} {written : Outcome Row}
    {description : String} {row : Row} (hnone : rows.find? hasKey = none)
    (hwritten : written = .ok row) (hsame : same row = true) :
    store rows hasKey same written description = .ok ⟨rows ++ [row], true⟩ := by
  unfold store
  rw [hnone, hwritten]
  simp [hsame, require]

theorem insertOrder_spec {predictions : List Prediction} {ledger : Ledger} {record : OrderRow}
    {stored : Ledger × Bool} (h : insertOrder predictions ledger record = .ok stored) :
    validateSourcePrediction predictions record = .ok () ∧
      (stored.1 = ledger ∨
        ledger.findOrder record.paperOrderId = none ∧
          ledger.orderFor record.predictionId record.executionVersion = none ∧
          ∃ row, record.written = .ok row ∧ record.same row = true ∧
            stored.1 = { ledger with orders := ledger.orders ++ [row] }) := by
  obtain ⟨_, hvalid, h⟩ := bind_eq_ok.mp h
  refine ⟨hvalid, ?_⟩
  split at h
  · obtain ⟨_, -, h⟩ := bind_eq_ok.mp h
    cases h
    exact Or.inl rfl
  · next hfresh =>
    obtain ⟨kept, hkept, h⟩ := bind_eq_ok.mp h
    cases h
    rcases store_eq_ok hkept with ⟨hsame, -⟩ | ⟨hnone, row, hwritten, hsame, hrows⟩
    · left
      dsimp only
      rw [hsame]
    · right
      refine ⟨hfresh, hnone, row, hwritten, hsame, ?_⟩
      dsimp only
      rw [hrows]

/-- The order of an id is there. -/
theorem requireOrder_eq_ok {ledger : Ledger} {paperOrderId : String} {u : Unit} :
    ledger.requireOrder paperOrderId = .ok u ↔ (ledger.findOrder paperOrderId).isSome = true :=
  require_eq_ok

theorem insertFill_spec {ledger : Ledger} {record : FillRow} {stored : Ledger × Bool}
    (h : insertFill ledger record = .ok stored) :
    stored.1 = ledger ∨ ∃ row, record.written = .ok row ∧ record.same row = true ∧
      stored.1 = { ledger with fills := ledger.fills ++ [row] } := by
  obtain ⟨_, -, h⟩ := bind_eq_ok.mp h
  obtain ⟨kept, hkept, h⟩ := bind_eq_ok.mp h
  cases h
  rcases store_eq_ok hkept with ⟨hsame, -⟩ | ⟨-, row, hwritten, hsame, hrows⟩
  · left
    dsimp only
    rw [hsame]
  · right
    refine ⟨row, hwritten, hsame, ?_⟩
    dsimp only
    rw [hrows]

theorem insertTerminalEvent_spec {ledger : Ledger} {record : TerminalRow} {stored : Ledger × Bool}
    (h : insertTerminalEvent ledger record = .ok stored) :
    stored.1 = ledger ∧ ledger.isTerminal record.paperOrderId = true ∨
      ledger.isTerminal record.paperOrderId = false ∧
        ∃ row, record.written = .ok row ∧ record.same row = true ∧
          stored.1 = { ledger with terminals := ledger.terminals ++ [row] } := by
  obtain ⟨_, -, h⟩ := bind_eq_ok.mp h
  obtain ⟨kept, hkept, h⟩ := bind_eq_ok.mp h
  cases h
  have hterminal : ledger.isTerminal record.paperOrderId =
      (ledger.terminals.find? fun row => row.paperOrderId = record.paperOrderId).isSome := by
    rw [Bool.eq_iff_iff, List.find?_isSome, Ledger.isTerminal, List.any_eq_true]
  rcases store_eq_ok hkept with ⟨hsame, row, hrow⟩ | ⟨hnone, row, hwritten, hsame, hrows⟩
  · left
    rw [hterminal, hrow]
    dsimp only
    rw [hsame]
    exact ⟨rfl, rfl⟩
  · right
    rw [hterminal, hnone]
    refine ⟨rfl, row, hwritten, hsame, ?_⟩
    dsimp only
    rw [hrows]

theorem insertSettlement_spec {ledger : Ledger} {record : SettlementRow} {stored : Ledger × Bool}
    (h : insertSettlement ledger record = .ok stored) :
    stored.1 = ledger ∧ ledger.isSettled record.paperOrderId record.labelVersion = true ∨
      ledger.isSettled record.paperOrderId record.labelVersion = false ∧
        ∃ row, record.written = .ok row ∧ record.same row = true ∧
          stored.1 = { ledger with settlements := ledger.settlements ++ [row] } := by
  obtain ⟨_, -, h⟩ := bind_eq_ok.mp h
  obtain ⟨kept, hkept, h⟩ := bind_eq_ok.mp h
  cases h
  have hsettled : ledger.isSettled record.paperOrderId record.labelVersion =
      (ledger.settlements.find? fun row => row.paperOrderId = record.paperOrderId &&
        row.labelVersion = record.labelVersion).isSome := by
    rw [Bool.eq_iff_iff, List.find?_isSome, Ledger.isSettled, List.any_eq_true]
  rcases store_eq_ok hkept with ⟨hsame, row, hrow⟩ | ⟨hnone, row, hwritten, hsame, hrows⟩
  · left
    rw [hsettled, hrow]
    dsimp only
    rw [hsame]
    exact ⟨rfl, rfl⟩
  · right
    rw [hsettled, hnone]
    refine ⟨rfl, row, hwritten, hsame, ?_⟩
    dsimp only
    rw [hrows]

/-- A terminal event changes no other table. -/
theorem writeTerminal_frame {ledger : Ledger} {paperOrderId : String} {ending : PaperTerminalDraft}
    {stored : Ledger × Bool} (h : writeTerminal ledger paperOrderId ending = .ok stored) :
    stored.1.orders = ledger.orders ∧ stored.1.fills = ledger.fills ∧
      stored.1.settlements = ledger.settlements := by
  obtain ⟨record, -, h⟩ := bind_eq_ok.mp h
  rcases insertTerminalEvent_spec h with ⟨hsame, -⟩ | ⟨-, row, -, -, hnew⟩
  · rw [hsame]
    exact ⟨rfl, rfl, rfl⟩
  · rw [hnew]
    exact ⟨rfl, rfl, rfl⟩

/-- Fills change no other table. -/
theorem insertFills_frame {D : ServiceDigests} {paperOrderId : String} {fills : List PaperFillDraft}
    {ledger : Ledger} {written : Written} {stored : Ledger × Written}
    (h : insertFills D paperOrderId fills ledger written = .ok stored) :
    stored.1.orders = ledger.orders ∧ stored.1.terminals = ledger.terminals ∧
      stored.1.settlements = ledger.settlements := by
  induction fills generalizing ledger written with
  | nil =>
    cases h
    exact ⟨rfl, rfl, rfl⟩
  | cons fill rest ih =>
    obtain ⟨record, -, h⟩ := bind_eq_ok.mp h
    obtain ⟨next, hnext, h⟩ := bind_eq_ok.mp h
    obtain ⟨horders, hterminals, hsettlements⟩ := ih h
    rw [horders, hterminals, hsettlements]
    rcases insertFill_spec hnext with hsame | ⟨row, -, -, hnew⟩
    · rw [hsame]
      exact ⟨rfl, rfl, rfl⟩
    · rw [hnew]
      exact ⟨rfl, rfl, rfl⟩

theorem writeSimulation_frame {D : ServiceDigests} {ledger : Ledger} {paperOrderId : String}
    {simulation : PaperSimulationResult} {stored : Ledger × Written × Bool}
    (h : writeSimulation D ledger paperOrderId simulation = .ok stored) :
    stored.1.orders = ledger.orders ∧ stored.1.settlements = ledger.settlements := by
  obtain ⟨filled, hfilled, h⟩ := bind_eq_ok.mp h
  obtain ⟨ended, hended, h⟩ := bind_eq_ok.mp h
  cases h
  obtain ⟨horders, -, hsettlements⟩ := insertFills_frame hfilled
  obtain ⟨horders', -, hsettlements'⟩ := writeTerminal_frame hended
  exact ⟨horders'.trans horders, hsettlements'.trans hsettlements⟩

/-! ## The parts of a call -/

/-- The parts of a call keep a property of ledgers. -/
structure KeptByParts (D : ServiceDigests) (inputs : PaperInputs) (J : Ledger → Prop) : Prop where
  order : ∀ {ledger draft record} {stored : Ledger × Bool}, J ledger →
    orderRecord D draft = .ok record → insertOrder inputs.predictions ledger record = .ok stored →
    J stored.1
  simulation : ∀ {ledger order draft books cancelAt simulation} {stored : Ledger × Written × Bool}
      {prediction : Prediction}, J ledger → order ∈ ledger.orders →
    ledger.isTerminal order.paperOrderId = false → draftFromRows order prediction = .ok draft →
    simulateBuy draft books cancelAt = .ok simulation →
    writeSimulation D ledger order.paperOrderId simulation = .ok stored → J stored.1
  replayFailed : ∀ {ledger order draft raised} {stored : Ledger × Bool} {prediction : Prediction},
    J ledger → order ∈ ledger.orders → ledger.isTerminal order.paperOrderId = false →
    draftFromRows order prediction = .ok draft →
    writeTerminal ledger order.paperOrderId (PaperLedger.replayFailed draft raised) = .ok stored →
    J stored.1
  settlement : ∀ {ledger order evaluation record} {stored : Ledger × Bool}, J ledger →
    order ∈ ledger.orders → ledger.isTerminal order.paperOrderId = true →
    evaluation ∈ inputs.evaluations → evaluation.predictionId = order.predictionId →
    (ledger.fillsByTime order.paperOrderId).isEmpty = false →
    settlementRecord order evaluation (ledger.fillsByTime order.paperOrderId) = .ok record →
    insertSettlement ledger record = .ok stored → J stored.1

theorem latestEvaluation_eq_some {evaluations : List Evaluation} {predictionId : String}
    {now : Timestamp} {evaluation : Evaluation}
    (h : latestEvaluation evaluations predictionId now = some evaluation) :
    evaluation ∈ evaluations ∧ evaluation.predictionId = predictionId ∧
      evaluation.evaluatedAt ≤ now := by
  have hmem := List.mem_of_head? h
  rw [List.mem_insertionSort, List.mem_reverse, List.mem_filter, Bool.and_eq_true,
    decide_eq_true_eq, decide_eq_true_eq] at hmem
  exact ⟨hmem.1, hmem.2⟩

/-- The rows a settlement reads are the same. -/
structure SameOrders (before ledger : Ledger) : Prop where
  orders : ledger.orders = before.orders
  fills : ledger.fills = before.fills
  terminals : ledger.terminals = before.terminals

theorem SameOrders.refl (ledger : Ledger) : SameOrders ledger ledger := ⟨rfl, rfl, rfl⟩

theorem SameOrders.fillsByTime {before ledger : Ledger} (h : SameOrders before ledger)
    (paperOrderId : String) : ledger.fillsByTime paperOrderId = before.fillsByTime paperOrderId := by
  unfold Ledger.fillsByTime Ledger.fillsOf
  rw [h.fills]

theorem SameOrders.isTerminal {before ledger : Ledger} (h : SameOrders before ledger)
    (paperOrderId : String) : ledger.isTerminal paperOrderId = before.isTerminal paperOrderId := by
  unfold Ledger.isTerminal
  rw [h.terminals]

theorem SameOrders.insertSettlement {before ledger : Ledger} (h : SameOrders before ledger)
    {record : SettlementRow} {stored : Ledger × Bool}
    (hstored : insertSettlement ledger record = .ok stored) : SameOrders before stored.1 := by
  rcases insertSettlement_spec hstored with ⟨hsame, -⟩ | ⟨-, row, -, -, hsame⟩
  · rw [hsame]
    exact h
  · rw [hsame]
    exact ⟨h.orders, h.fills, h.terminals⟩

theorem mem_ordersOf {ledger : Ledger} {version : ExecutionVersion} {order : OrderRow} :
    order ∈ ledger.ordersOf version ↔ order ∈ ledger.orders ∧ order.executionVersion = version := by
  rw [Ledger.ordersOf, List.mem_insertionSort, List.mem_filter, decide_eq_true_eq]

theorem orderFor_eq_some {ledger : Ledger} {predictionId : String} {version : ExecutionVersion}
    {order : OrderRow} (h : ledger.orderFor predictionId version = some order) :
    order ∈ ledger.orders ∧ order.predictionId = predictionId ∧ order.executionVersion = version := by
  have hmem := List.mem_of_find?_eq_some h
  have hkey := List.find?_some h
  rw [Bool.and_eq_true, decide_eq_true_eq, decide_eq_true_eq] at hkey
  exact ⟨hmem, hkey⟩

theorem findOrder_eq_some {ledger : Ledger} {orderId : String} {order : OrderRow}
    (h : ledger.findOrder orderId = some order) :
    order ∈ ledger.orders ∧ order.paperOrderId = orderId := by
  have hkey := List.find?_some h
  exact ⟨List.mem_of_find?_eq_some h, of_decide_eq_true hkey⟩

namespace KeptByParts

variable {D : ServiceDigests} {J : Ledger → Prop} {inputs : PaperInputs}
  {config : PaperExecutionConfig} {ledger : Ledger}

theorem processOrder (hJ : KeptByParts D inputs J) {order : OrderRow} {prediction : Prediction}
    {now : Timestamp} {processed : Ledger × OrderCounts} (hledger : J ledger)
    (horder : order ∈ ledger.orders)
    (h : processOrder D inputs ledger order prediction now = .ok processed) : J processed.1 := by
  unfold PaperLedger.processOrder at h
  split_ifs at h with hterminal hnow
  · cases h
    exact hledger
  · cases h
    exact hledger
  · have hopen : ledger.isTerminal order.paperOrderId = false := Bool.eq_false_iff.mpr hterminal
    obtain ⟨draft, hdraft, h⟩ := bind_eq_ok.mp h
    split at h
    · split_ifs at h
      obtain ⟨stored, hstored, h⟩ := bind_eq_ok.mp h
      cases h
      exact hJ.replayFailed hledger horder hopen hdraft hstored
    · obtain ⟨simulation, hsimulation, h⟩ := bind_eq_ok.mp h
      obtain ⟨stored, hstored, h⟩ := bind_eq_ok.mp h
      cases h
      exact hJ.simulation hledger horder hopen hdraft hsimulation hstored

/-- By induction on the orders; only settlements are written in the loop. -/
theorem settleOrders (hJ : KeptByParts D inputs J) {now : Timestamp} {before : Ledger}
    {orders : List OrderRow} {settlementKeys : List (String × String)} {written : Written}
    {settled : Ledger × Written} (hledger : J ledger) (hsame : SameOrders before ledger)
    (horders : ∀ order ∈ orders, order ∈ before.orders)
    (h : settleOrders inputs now before orders settlementKeys ledger written = .ok settled) :
    J settled.1 ∧ SameOrders before settled.1 := by
  induction orders generalizing settlementKeys ledger written with
  | nil =>
    cases h
    exact ⟨hledger, hsame⟩
  | cons order rest ih =>
    have hrest := fun other hother => horders other (List.mem_cons_of_mem order hother)
    have horder : order ∈ ledger.orders := by
      rw [hsame.orders]
      exact horders order List.mem_cons_self
    unfold PaperLedger.settleOrders at h
    by_cases hopen : before.isTerminal order.paperOrderId = false
    · rw [if_pos hopen] at h
      exact ih hledger hsame hrest h
    · rw [if_neg hopen] at h
      split at h
      · exact ih hledger hsame hrest h
      · next evaluation hlatest =>
        obtain ⟨hmem, hprediction, -⟩ := latestEvaluation_eq_some hlatest
        split_ifs at h with hkey hempty
        · exact ih hledger hsame hrest h
        · exact ih hledger hsame hrest h
        · obtain ⟨record, hrecord, h⟩ := bind_eq_ok.mp h
          obtain ⟨stored, hstored, h⟩ := bind_eq_ok.mp h
          rw [← hsame.fillsByTime] at hrecord hempty
          rw [← hsame.isTerminal, Bool.not_eq_false] at hopen
          refine ih ?_ (hsame.insertSettlement hstored) hrest h
          exact hJ.settlement hledger horder hopen hmem hprediction (Bool.eq_false_iff.mpr hempty)
            hrecord hstored

theorem settleReady (hJ : KeptByParts D inputs J) {now : Timestamp} {settled : Ledger × Written}
    (hledger : J ledger) (h : settleReady inputs config now ledger = .ok settled) : J settled.1 :=
  (hJ.settleOrders hledger (SameOrders.refl ledger)
    (fun _ horder => (mem_ordersOf.mp horder).1) h).1

theorem processExamined (hJ : KeptByParts D inputs J) {order : OrderRow} {prediction : Prediction}
    {now : Timestamp} {state after : RunState} (hledger : J state.ledger)
    (horder : order ∈ state.ledger.orders)
    (h : processExamined D inputs config now state order prediction = .ok after) :
    J after.ledger := by
  obtain ⟨processed, hprocessed, h⟩ := bind_eq_ok.mp h
  have hkept := hJ.processOrder hledger horder hprocessed
  dsimp only at h
  split_ifs at h
  · obtain ⟨_, -, h⟩ := bind_eq_ok.mp h
    cases h
    exact hkept
  · cases h
    exact hkept

theorem examine (hJ : KeptByParts D inputs J) {prediction : Prediction} {now : Timestamp}
    {state after : RunState} (hledger : J state.ledger)
    (h : examine D inputs config now state prediction = .ok after) : J after.ledger := by
  unfold PaperLedger.examine at h
  dsimp only at h
  split at h
  · next order horder =>
    refine hJ.processExamined ?_ ?_ h
    · exact hledger
    · exact (orderFor_eq_some horder).1
  · obtain ⟨plan, -, h⟩ := bind_eq_ok.mp h
    split at h
    · cases h
      exact hledger
    · obtain ⟨record, hrecord, h⟩ := bind_eq_ok.mp h
      obtain ⟨stored, hstored, h⟩ := bind_eq_ok.mp h
      have hinserted := hJ.order hledger hrecord hstored
      split at h
      · cases h
      · next order horder =>
        refine hJ.processExamined ?_ ?_ h
        · exact hinserted
        · exact (orderFor_eq_some horder).1

theorem examineAll (hJ : KeptByParts D inputs J) {now : Timestamp} {predictions : List Prediction}
    {state after : RunState} (hledger : J state.ledger)
    (h : predictions.foldlM (PaperLedger.examine D inputs config now) state = .ok after) :
    J after.ledger := by
  induction predictions generalizing state with
  | nil =>
    cases h
    exact hledger
  | cons prediction rest ih =>
    rw [List.foldlM_cons] at h
    obtain ⟨next, hnext, h⟩ := bind_eq_ok.mp h
    exact ih (hJ.examine hledger hnext) h

theorem runOnce (hJ : KeptByParts D inputs J) {now : Timestamp} {ran : Ledger × PaperRunReport}
    (hledger : J ledger) (h : runOnce D inputs config now ledger = .ok ran) : J ran.1 := by
  obtain ⟨first, hfirst, h⟩ := bind_eq_ok.mp h
  obtain ⟨_, -, h⟩ := bind_eq_ok.mp h
  obtain ⟨state, hstate, h⟩ := bind_eq_ok.mp h
  obtain ⟨second, hsecond, h⟩ := bind_eq_ok.mp h
  obtain ⟨_, -, h⟩ := bind_eq_ok.mp h
  cases h
  have hexamined := hJ.examineAll (hJ.settleReady hledger hfirst) hstate
  exact hJ.settleReady hexamined hsecond

theorem submitOrder (hJ : KeptByParts D inputs J) {request : ExecutionOrderRequest}
    {submitted : Ledger × ExecutionOrderAck} (hledger : J ledger)
    (h : submitOrder D inputs config ledger request = .ok submitted) : J submitted.1 := by
  unfold PaperLedger.submitOrder at h
  dsimp only at h
  split at h
  · cases h
    exact hledger
  · split at h
    · next stored created hstored =>
      cases h
      obtain ⟨draft, -, hstored⟩ := bind_eq_ok.mp hstored
      obtain ⟨record, hrecord, hstored⟩ := bind_eq_ok.mp hstored
      exact hJ.order hledger hrecord hstored
    · split_ifs at h
      cases h
      exact hledger

theorem cancelOrder (hJ : KeptByParts D inputs J) {orderId : String} {observedAt : Timestamp}
    {cancelled : Ledger × ExecutionCancelAck} (hledger : J ledger)
    (h : cancelOrder D inputs ledger orderId observedAt = .ok cancelled) : J cancelled.1 := by
  have hrefused : ∀ {accepted : Bool} {reason : String},
      (cancelAck orderId accepted observedAt reason >>= fun ack => .ok (ledger, ack)) =
        .ok cancelled → J cancelled.1 := by
    intro accepted reason h
    obtain ⟨ack, -, h⟩ := bind_eq_ok.mp h
    cases h
    exact hledger
  unfold PaperLedger.cancelOrder at h
  dsimp only at h
  split at h
  · exact hrefused h
  · next order horder =>
    obtain ⟨hmem, rfl⟩ := findOrder_eq_some horder
    split at h
    · exact hrefused h
    · next hnone =>
      have hopen : ledger.isTerminal order.paperOrderId = false := by
        rw [Ledger.isTerminal, List.any_eq_false]
        exact fun row hrow => List.find?_eq_none.mp hnone row hrow
      by_cases hearly : observedAt < order.submittedAt
      · rw [if_pos hearly] at h
        exact hrefused h
      · rw [if_neg hearly] at h
        split at h
        · exact hrefused h
        · obtain ⟨draft, hdraft, h⟩ := bind_eq_ok.mp h
          split_ifs at h
          · obtain ⟨persisted, hpersisted, h⟩ := bind_eq_ok.mp h
            obtain ⟨ack, -, h⟩ := bind_eq_ok.mp h
            cases h
            obtain ⟨books, -, hpersisted⟩ := bind_eq_ok.mp hpersisted
            obtain ⟨simulation, hsimulation, hpersisted⟩ := bind_eq_ok.mp hpersisted
            obtain ⟨stored, hstored, hpersisted⟩ := bind_eq_ok.mp hpersisted
            cases hpersisted
            exact hJ.simulation hledger hmem hopen hdraft hsimulation hstored
          · obtain ⟨books, -, h⟩ := bind_eq_ok.mp h
            obtain ⟨simulation, hsimulation, h⟩ := bind_eq_ok.mp h
            obtain ⟨stored, hstored, h⟩ := bind_eq_ok.mp h
            obtain ⟨ack, -, h⟩ := bind_eq_ok.mp h
            cases h
            exact hJ.simulation hledger hmem hopen hdraft hsimulation hstored

/-- **The rule of a call**: what its parts keep, the call keeps. -/
theorem callStep {call : PaperCall} (hJ : KeptByParts D inputs J) (hledger : J ledger) :
    J (callStep D ledger (inputs, call)) := by
  have hcommitted : ∀ {α : Type} {outcome : Outcome (Ledger × α)},
      (∀ after, outcome = .ok after → J after.1) → J (committed ledger outcome) := by
    intro α outcome hkept
    cases houtcome : outcome with
    | error raised => exact hledger
    | ok after => exact hkept after houtcome
  cases call with
  | run config now => exact hcommitted fun _ h => hJ.runOnce hledger h
  | submit config request => exact hcommitted fun _ h => hJ.submitOrder hledger h
  | cancel orderId observedAt => exact hcommitted fun _ h => hJ.cancelOrder hledger h

/-- **The rule of a run**: what the parts keep, with whatever inputs, holds after every run. -/
theorem run (hJ : ∀ inputs, KeptByParts D inputs J) (hledger : J ledger)
    (calls : List (PaperInputs × PaperCall)) :
    J (Machine.run (PaperLedger.callStep D) ledger calls) :=
  Machine.run_invariant' (PaperLedger.callStep D) (fun _ call h => (hJ call.1).callStep h) hledger
    calls

end KeptByParts

end BpEngine.PaperLedger
