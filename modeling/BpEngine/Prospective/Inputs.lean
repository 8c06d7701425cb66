import BpEngine.Library.Program
import BpEngine.Prospective.Edge

/-!
# The live input of a prediction

`live_prediction/inputs.py`: what is observed of a market for a prediction.  The clock is read before
the price history is requested, after the response, and after the books are read; each reading is
checked against the deadline.

* `LiveOp` lists the effects of the service on a market; every one but the clock may fail.
* `observeLiveInput` is the program over them.
A `LiveInputIntegrityError` is a `ValueError` and a `LiveInputDeadlineExceeded` a `RuntimeError`.
Instants are aware; ages and durations are in microseconds.
-/

namespace BpEngine.Prospective

open BpEngine.Execution BpEngine.Features

/-- `LivePolicySpec`. -/
structure LivePolicySpec (F : Type) where
  sourceCalibrationRunId : String
  sourceCalibrationSemanticSha256 : String
  sourceBacktestRunId : String
  sourceBacktestSemanticSha256 : String
  sourceTrainingRunId : String
  sourceTrainingSemanticSha256 : String
  calibrationVersion : String
  edgePolicyVersion : String
  sourceFeatureVersion : String
  labelVersion : String
  horizonSeconds : ℤ
  selectedOffsetSeconds : ℤ
  calibrationFit : CalibrationFit F
  edgeConfig : EdgeConfig F
  edgePolicy : String
  minEdge : Option F
  trainingPrior : F
  policySha256 : String

/-- `DueMarket`. -/
structure DueMarket where
  conditionId : String
  slug : String
  horizonSeconds : ℤ
  marketStartAt : Timestamp
  marketEndAt : Timestamp
  scheduledAt : Timestamp
  upTokenId : String
  downTokenId : String
deriving DecidableEq

/-- `LiveBookInput`. -/
structure LiveBookInput where
  assetId : String
  stateKey : String
  bucketAt : Timestamp
  lastEventAt : Timestamp
  fresh : Bool
  age : ℤ
  state : Dict

/-- `LiveMarketInput`. -/
structure LiveMarketInput (F : Type) where
  conditionId : String
  upTokenId : String
  downTokenId : String
  marketStartAt : Timestamp
  marketEndAt : Timestamp
  scheduledAt : Timestamp
  downloadedAt : Timestamp
  priceSource : String := "polymarket_clob"
  priceDataset : String := "prices_history"
  priceRequestParams : List (String × String)
  priceResponseSha256 : String
  marketProbabilityObserved : Bool
  marketProbability : Option F
  marketProbabilityObservedAt : Option Timestamp
  upBook : Option LiveBookInput
  downBook : Option LiveBookInput
  predictors : Predictors F
  inputFingerprint : String

/-- `PriceHistoryResponse`. -/
structure PriceHistoryResponse where
  points : List (Timestamp × Decimal)
  requestParams : List (String × String)
  rawPayload : Json

/-- The columns of a prediction about one book. -/
structure BookColumns (F : Type) where
  bestBid : Option F
  bestAsk : Option F
  bookCutoffAt : Option Timestamp
  bookFresh : Bool

/-- `LivePrediction`, and a row of `live_predictions`; the columns that come from the policy and from
the decision are kept together. -/
structure LivePrediction (F : Type) where
  predictionId : String
  semanticSha256 : String
  predictionVersion : String
  liveInputVersion : String
  conditionId : String
  slug : String
  horizonSeconds : ℤ
  marketStartAt : Timestamp
  marketEndAt : Timestamp
  scheduledAt : Timestamp
  recordedAt : Timestamp
  latenessMs : ℤ
  upTokenId : String
  downTokenId : String
  policy : LivePolicySpec F
  calibrationFitSha256 : String
  edgeConfigSha256 : String
  rawProbability : F
  calibratedProbability : F
  marketProbabilityObserved : Bool
  marketProbability : Option F
  marketProbabilityObservedAt : Option Timestamp
  marketProbabilityDownloadedAt : Timestamp
  marketProbabilitySource : String
  marketProbabilityDataset : String
  marketProbabilityRequestParams : List (String × String)
  marketProbabilityResponseSha256 : String
  up : BookColumns F
  down : BookColumns F
  decision : EdgeDecision F
  inputFingerprint : String

/-! ## Deadlines -/

/-- `_validate_window`. -/
def validateWindow (market : DueMarket) : Outcome Unit := do
  require (market.marketStartAt < market.marketEndAt) .valueError
    "market_end_at must be after market_start_at"
  require (market.marketStartAt < market.scheduledAt ∧ market.scheduledAt < market.marketEndAt)
    .valueError "scheduled_at must be strictly inside market window"

/-- `_check_deadline`. -/
def checkDeadline (current scheduledAt marketEndAt : Timestamp) (maxLatenessSeconds : ℤ) :
    Outcome Unit := do
  require (0 ≤ maxLatenessSeconds) .valueError "max_lateness_seconds must be non-negative"
  require (scheduledAt ≤ current) .valueError
    "live input observation cannot run before scheduled_at"
  require (current ≤ scheduledAt + Timestamp.ofSeconds maxLatenessSeconds) .runtimeError
    "live input observation exceeded lateness deadline"
  require (current < marketEndAt) .runtimeError "live input observation reached market end"

/-- `_request_timeout_seconds`: the deadline less half a second. -/
def requestTimeout (current scheduledAt : Timestamp) (maxLatenessSeconds : ℤ) : Outcome ℤ := do
  let timeout := scheduledAt + Timestamp.ofSeconds maxLatenessSeconds - current - 500000
  require (0 < timeout) .runtimeError
    "insufficient live input deadline budget for price-history request"
  .ok timeout

/-! ## Effects -/

/-- The effects of processing a market: those of an observation, and those of the ledger. -/
inductive LiveOp (F : Type) where
  | now
  | getHistory (upTokenId : String) (start finish : Timestamp) (fidelityMinutes : ℕ)
      (timeout : Option ℤ)
  | latestState (conditionId assetId : String) (featureAt : Timestamp)
  | find (conditionId predictionVersion : String)
  | findById (predictionId : String)
  | insert (row : LivePrediction F)

/-- The answers; every effect but the clock may raise. -/
def LiveOp.Ans {F : Type} : LiveOp F → Type
  | .now => Timestamp
  | .getHistory _ _ _ _ _ => Outcome PriceHistoryResponse
  | .latestState _ _ _ => Outcome (Option StateObservation)
  | .find _ _ => Outcome (Option (LivePrediction F))
  | .findById _ => Outcome (Option (LivePrediction F))
  | .insert _ => Outcome Unit

/-- A program of the service. -/
abbrev LiveM (F α : Type) := Program (LiveOp F) LiveOp.Ans Raised α

namespace LiveM

variable {F : Type}

def now : LiveM F Timestamp := Program.call LiveOp.now

def getHistory (upTokenId : String) (start finish : Timestamp) (fidelityMinutes : ℕ)
    (timeout : Option ℤ) : LiveM F PriceHistoryResponse := do
  Program.ofExcept
    (← Program.call (LiveOp.getHistory upTokenId start finish fidelityMinutes timeout))

def latestState (conditionId assetId : String) (featureAt : Timestamp) :
    LiveM F (Option StateObservation) := do
  Program.ofExcept (← Program.call (LiveOp.latestState conditionId assetId featureAt))

def find (conditionId predictionVersion : String) : LiveM F (Option (LivePrediction F)) := do
  Program.ofExcept (← Program.call (LiveOp.find conditionId predictionVersion))

def findById (predictionId : String) : LiveM F (Option (LivePrediction F)) := do
  Program.ofExcept (← Program.call (LiveOp.findById predictionId))

def insert (row : LivePrediction F) : LiveM F Unit := do
  Program.ofExcept (← Program.call (LiveOp.insert row))

/-- A computation without effects. -/
def check {α : Type} (outcome : Outcome α) : LiveM F α := Program.ofExcept outcome

end LiveM

/-! ## What is made of the answers -/

section Observation

variable {F : Type} (A : Arithmetic F)

/-- `_expected_request_params`. -/
def expectedRequestParams (market : DueMarket) : List (String × String) :=
  [("market", market.upTokenId), ("startTs", toString (market.marketStartAt / 1000000)),
    ("endTs", toString (market.scheduledAt / 1000000)), ("fidelity", "1")]

/-- The first of the latest points: `max(eligible, key=lambda item: item[0])`. -/
def latestPoint : List (Timestamp × Decimal) → Option (Timestamp × Decimal)
  | [] => none
  | point :: points =>
    some (points.foldl (fun best next => if best.1 < next.1 then next else best) point)

/-- `_selected_market_probability`. -/
def selectedMarketProbability (points : List (Timestamp × Decimal)) (scheduledAt : Timestamp) :
    Outcome (Option (F × Timestamp)) :=
  match latestPoint (points.filter fun point => point.1 ≤ scheduledAt) with
  | none => .ok none
  | some point => do
    let price := A.ofDecimal point.2
    require (A.isProbability price = true) .valueError
      "selected market probability must be within [0, 1]"
    .ok (some (price, point.1))

/-- `_book_input`. -/
def bookInput (observation : StateObservation) : LiveBookInput where
  assetId := observation.row.assetId.getD "None"
  stateKey := observation.row.stateKey
  bucketAt := observation.row.bucketAt
  lastEventAt := observation.row.lastEventAt
  fresh := observation.fresh
  age := observation.age
  state := observation.row.state

/-- The number of a value of a book group, which is a float or missing. -/
def numberOf : Value F → Option F
  | .float value => some value
  | _ => none

/-- The predictors of a book group: its values, and its missing flags as numbers. -/
def groupPredictors (group : FeatureGroup F) : Predictors F :=
  (group.missingFlags.map fun flag =>
      ("missing__" ++ flag.1, some (if flag.2 then A.one else A.zero))).reverse ++
    (group.values.map fun value => (value.1, numberOf value.2)).reverse

/-- `_merge_book_predictors`. -/
def mergeBookPredictors (probability : Option F) (up down : FeatureGroup F) : Predictors F :=
  groupPredictors A down ++ groupPredictors A up ++ [("pm_up_price", probability)]

/-- The digests of an input. -/
structure InputDigests (F : Type) where
  /-- `canonical_hash(response_payload)`. -/
  response : Json → String
  /-- `canonical_hash` of the other fields of an input. -/
  fingerprint : LiveMarketInput F → String

/-! ## The observation -/

/-- The settings of a service, as an observation needs them. -/
structure ObserverSettings where
  maxLatenessSeconds : ℤ
  /-- `_history_supports_timeout(client)`. -/
  supportsTimeout : Bool

/-- The timeout of a request, when the client takes one. -/
def historyTimeout (settings : ObserverSettings) (current scheduledAt : Timestamp) :
    Outcome (Option ℤ) :=
  if settings.supportsTimeout then
    (requestTimeout current scheduledAt settings.maxLatenessSeconds).map some
  else .ok none

variable (D : InputDigests F) (settings : ObserverSettings) (market : DueMarket)

/-- The input that the answers make. -/
def liveInput (downloadedAt : Timestamp) (response : PriceHistoryResponse)
    (probability : Option (F × Timestamp)) (up down : Option StateObservation)
    (upGroup downGroup : FeatureGroup F) : LiveMarketInput F :=
  let input : LiveMarketInput F :=
    { conditionId := market.conditionId
      upTokenId := market.upTokenId
      downTokenId := market.downTokenId
      marketStartAt := market.marketStartAt
      marketEndAt := market.marketEndAt
      scheduledAt := market.scheduledAt
      downloadedAt
      priceRequestParams := response.requestParams
      priceResponseSha256 := D.response response.rawPayload
      marketProbabilityObserved := probability.isSome
      marketProbability := probability.map (·.1)
      marketProbabilityObservedAt := probability.map (·.2)
      upBook := up.map bookInput
      downBook := down.map bookInput
      predictors := mergeBookPredictors A (probability.map (·.1)) upGroup downGroup
      inputFingerprint := "" }
  { input with inputFingerprint := D.fingerprint input }

/-- `observe_live_input`. -/
def observeLiveInput : LiveM F (LiveMarketInput F) := do
  .check (require (market.conditionId ≠ "") .valueError "condition_id is required")
  .check (require (market.upTokenId ≠ "" ∧ market.downTokenId ≠ "" ∧
    market.upTokenId ≠ market.downTokenId) .valueError "distinct Up and Down token ids are required")
  .check (validateWindow market)
  let requestStartedAt ← LiveM.now
  .check (checkDeadline requestStartedAt market.scheduledAt market.marketEndAt
    settings.maxLatenessSeconds)
  let timeout ← LiveM.check (historyTimeout settings requestStartedAt market.scheduledAt)
  let response ← LiveM.getHistory market.upTokenId market.marketStartAt market.scheduledAt 1 timeout
  let downloadedAt ← LiveM.now
  .check (checkDeadline downloadedAt market.scheduledAt market.marketEndAt
    settings.maxLatenessSeconds)
  .check (require (response.requestParams.Perm (expectedRequestParams market)) .valueError
    "price-history response request provenance mismatch")
  let probability ← LiveM.check (selectedMarketProbability A response.points market.scheduledAt)
  let up ← LiveM.latestState market.conditionId market.upTokenId market.scheduledAt
  let down ← LiveM.latestState market.conditionId market.downTokenId market.scheduledAt
  let upGroup ← LiveM.check (bookState A.toFloats "pm_up" up)
  let downGroup ← LiveM.check (bookState A.toFloats "pm_down" down)
  let finalClock ← LiveM.now
  .check (checkDeadline finalClock market.scheduledAt market.marketEndAt settings.maxLatenessSeconds)
  return liveInput A D market downloadedAt response probability up down upGroup downGroup

end Observation

end BpEngine.Prospective
