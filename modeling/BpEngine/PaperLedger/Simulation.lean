import BpEngine.PaperLedger.Records
import Mathlib.Data.List.Sort

/-!
# Simulating a paper order

`execution/paper.py`, the part that fills an order from the books that were displayed while it was
open (`simulateBuy`).  A dictionary from prices to sizes is the list of its items, with one item per
number.

* `displayOf` is what a book displays, `newDepth` what it displays beyond the book before.
* `walkDepth` is the loop over the prices of a book, `walkBooks` the loop over the books.
-/

namespace BpEngine.PaperLedger

open BpEngine.Execution

/-! ## Books -/

/-- `BookLevel`. -/
structure BookLevel where
  price : Decimal
  size : Decimal
deriving DecidableEq

/-- `ReplayedBook`; the bids, which no fill reads, are left out. -/
structure ReplayedBook where
  conditionId : String
  assetId : String
  asks : List BookLevel
  anchorEventId : ℤ
  anchorDedupeKey : String
  appliedEventIds : List ℤ
  appliedDedupeKeys : List String
  replayCutoffAt : Timestamp
deriving DecidableEq

/-- `display[price] = size`. -/
def setSize (display : List BookLevel) (level : BookLevel) : List BookLevel :=
  if display.any (fun shown => Decimal.Same shown.price level.price) then
    display.map fun shown =>
      if Decimal.Same shown.price level.price then ⟨shown.price, level.size⟩ else shown
  else display ++ [level]

/-- `{level.price: level.size for level in book.asks}`. -/
def displayOf (asks : List BookLevel) : List BookLevel := asks.foldl setSize []

/-- `display.get(price, _ZERO)`. -/
def sizeAt (display : List BookLevel) (price : Decimal) : Decimal :=
  match display.find? fun level => Decimal.Same level.price price with
  | some level => level.size
  | none => 0

/-- The depth a book displays that the book before did not. -/
def newDepth (previous : Option (List BookLevel)) (current : List BookLevel) : List BookLevel :=
  match previous with
  | none => current
  | some before =>
    (current.filter fun level => sizeAt before level.price < level.size).map fun level =>
      ⟨level.price, level.size - sizeAt before level.price⟩

/-- `sorted(available)`, with the depth of each price. -/
def byPrice (available : List BookLevel) : List BookLevel :=
  available.insertionSort fun a b => a.price ≤ b.price

/-! ## Fills -/

/-- `PaperFillDraft`. -/
structure PaperFillDraft where
  fillAt : Timestamp
  shares : Decimal
  price : Decimal
  grossCost : Decimal
  fee : Decimal
  totalCost : Decimal
  signalAskSlippage : Decimal
  bookAnchorEventId : ℤ
  bookAnchorDedupeKey : String
  bookAppliedEventIds : List ℤ
  bookAppliedDedupeKeys : List String
  replayCutoffAt : Timestamp
deriving DecidableEq

/-- `_validate_book`: the cutoff of a book of the order's token. -/
def validateBook (order : PaperOrderDraft) (book : ReplayedBook) : Outcome Timestamp := do
  require (book.conditionId = order.request.conditionId) .paperSimulationError
    "book condition does not match paper order"
  require (book.assetId = order.request.tokenId) .paperSimulationError
    "book token does not match paper order"
  .ok book.replayCutoffAt

/-- `_fill_draft`. -/
def fillDraft (order : PaperOrderDraft) (book : ReplayedBook) (shares price : Decimal)
    (fillAt : Timestamp) : PaperFillDraft :=
  let grossCost := shares * price
  let fee := shares * order.signalFeeRate * price * (1 - price)
  { fillAt, shares, price, grossCost, fee
    totalCost := grossCost + fee
    signalAskSlippage := price - order.signalSelectedAsk
    bookAnchorEventId := book.anchorEventId
    bookAnchorDedupeKey := book.anchorDedupeKey
    bookAppliedEventIds := book.appliedEventIds
    bookAppliedDedupeKeys := book.appliedDedupeKeys
    replayCutoffAt := book.replayCutoffAt }

/-- What was filled, and the shares that remain. -/
structure Filled where
  fills : List PaperFillDraft
  remaining : Decimal
deriving DecidableEq

/-- `for price in sorted(available)`: takes depth from the best price on, up to the limit price. -/
def walkDepth (order : PaperOrderDraft) (book : ReplayedBook) (cutoff : Timestamp) :
    List BookLevel → Filled → Filled
  | [], filled => filled
  | level :: levels, filled =>
    if filled.remaining ≤ 0 then filled
    else if order.request.limitPrice < level.price then filled
    else if level.size ≤ 0 then walkDepth order book cutoff levels filled
    else
      let shares := Decimal.min' level.size filled.remaining
      walkDepth order book cutoff levels
        ⟨filled.fills ++ [fillDraft order book shares level.price cutoff], filled.remaining - shares⟩

/-- The state of the loop over the books. -/
structure BookWalk extends Filled where
  previousDisplay : Option (List BookLevel) := none
  previousCutoff : Option Timestamp := none
deriving DecidableEq

/-- `for book in books`. -/
def walkBooks (order : PaperOrderDraft) (executionCutoff : Timestamp) :
    List ReplayedBook → BookWalk → Outcome BookWalk
  | [], walk => .ok walk
  | book :: books, walk => do
    let cutoff ← validateBook order book
    require (walk.previousCutoff.all (· ≤ cutoff) = true) .paperSimulationError
      "book observations must be chronological"
    if cutoff < order.request.arrivalAt ∨ executionCutoff < cutoff then
      walkBooks order executionCutoff books { walk with previousCutoff := some cutoff }
    else
      let display := displayOf book.asks
      let filled :=
        walkDepth order book cutoff (byPrice (newDepth walk.previousDisplay display)) walk.toFilled
      let next : BookWalk := ⟨filled, some display, some cutoff⟩
      if filled.remaining ≤ 0 then .ok next else walkBooks order executionCutoff books next

/-! ## The simulation -/

/-- `PaperSimulationResult`. -/
structure PaperSimulationResult where
  fills : List PaperFillDraft
  terminal : PaperTerminalDraft
  filledShares : Decimal
  remainingShares : Decimal
  totalCost : Decimal
deriving DecidableEq

/-- The cancellation that comes before the order expires. -/
def cancellation (request : ExecutionOrderRequest) (cancelAt : Option Timestamp) :
    Outcome (Option Timestamp) := do
  match cancelAt with
  | none => .ok none
  | some candidate =>
    require (request.submittedAt ≤ candidate) .paperSimulationError
      "cancel_at must not precede order submission"
    .ok (if candidate < request.expiresAt then some candidate else none)

/-- How an order with its fills ends. -/
def simulatedTerminal (order : PaperOrderDraft) (cancellationAt : Option Timestamp)
    (filled : Filled) : Outcome PaperTerminalDraft :=
  let request := order.request
  if filled.remaining ≤ 0 then
    match filled.fills.getLast? with
    | none => raise .indexError "list index out of range"
    | some last =>
      .ok (terminal .filled "requested paper shares fully filled" (some last.fillAt))
  else
    match cancellationAt with
    | some at_ =>
      .ok (terminal .cancelled
        (if at_ < request.arrivalAt then "cancelled_before_arrival" else "cancelled_with_remainder")
        (some at_) filled.remaining)
    | none =>
      if order.marketEndAt = some request.expiresAt ∧
          Decimal.Same (request.requestedShares - filled.remaining) 0 then
        .ok (terminal .marketEndedUnfilled "market ended before any eligible paper depth filled"
          (some request.expiresAt) filled.remaining)
      else
        .ok (terminal .expired "paper order expired with unfilled shares" (some request.expiresAt)
          filled.remaining)

/-- `simulate_buy`. -/
def simulateBuy (order : PaperOrderDraft) (books : List ReplayedBook)
    (cancelAt : Option Timestamp := none) : Outcome PaperSimulationResult := do
  let cancellationAt ← cancellation order.request cancelAt
  let walk ← walkBooks order (cancellationAt.getD order.request.expiresAt) books
    { fills := [], remaining := order.request.requestedShares }
  let ending ← simulatedTerminal order cancellationAt walk.toFilled
  .ok
    { fills := walk.fills
      terminal := ending
      filledShares := order.request.requestedShares - walk.remaining
      remainingShares := walk.remaining
      totalCost := total (walk.fills.map (·.totalCost)) }

end BpEngine.PaperLedger
