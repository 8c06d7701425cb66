import BpEngine.Execution.BookLevels
import BpEngine.Library.DecimalText
import BpEngine.Prospective.Edge

/-!
# The fresh-book shadow of V4

`v4_paper/fresh_book_shadow.py`, and the edge decision of `v3_research/policy.py` that it uses: a
prediction is confronted with the asks that are displayed after it, an order is sized by its worst case
and filled from the asks, and what came out is hashed.

* `Field` is a value of the prediction, or of a level; `decimalOf` and `utcOf` read one.
* `levelsOf` merges the levels by their prices and sorts them.
* `edgeDecisionV3` decides whether to trade; binary floats are a parameter.
* `takeLevels` fills the order, `evaluateV4FreshBookShadow` is the whole.
-/

namespace BpEngine.V4Paper

open BpEngine.Execution BpEngine.Features BpEngine.Prospective
open PaperLedger (BookLevel setSize sizeAt byPrice)

/-! ## Values -/

/-- Binary floats with their texts. -/
structure ShadowFloats (F : Type) extends Arithmetic F where
  /-- `str` of a float. -/
  repr : F → String
  /-- `Decimal(str(value))` of a finite float. -/
  shown : F → Decimal

/-- A value of a prediction, or the price or the size of a level. -/
inductive Field (F : Type) where
  | none
  | bool (value : Bool)
  | int (value : ℤ)
  | float (value : F)
  | decimal (value : Numeral)
  | text (value : String)
  /-- A datetime without a time zone, by its text. -/
  | naive (text : String)
  | aware (time : Timestamp)
  /-- An object of another type, by its text and its truth. -/
  | other (text : String) (truth : Bool)

variable {F : Type} (A : ShadowFloats F)

/-- `str` of a number that may not be finite. -/
def numeralText : Numeral → String
  | .nan => "NaN"
  | .infinity negative => if negative then "-Infinity" else "Infinity"
  | .finite value => value.text

/-- `str(value)`. -/
def Field.str : Field F → String
  | .none => "None"
  | .bool value => if value then "True" else "False"
  | .int value => toString value
  | .float value => A.repr value
  | .decimal value => numeralText value
  | .text value => value
  | .naive shown => shown
  | .aware time => (IsoTime.isoformat time).replace "T" " "
  | .other shown _ => shown

/-- `bool(value)`. -/
def Field.truth : Field F → Bool
  | .none => false
  | .bool value => value
  | .int value => value ≠ 0
  | .float value => !A.same value A.zero
  | .decimal (.finite value) => ¬ value.isZero
  | .decimal _ => true
  | .text value => value ≠ ""
  | .naive _ => true
  | .aware _ => true
  | .other _ truth => truth

/-- `str(value or "")`. -/
def Field.strOrEmpty (value : Field F) : String := if value.truth A then value.str A else ""

/-- `_utc`. -/
def utcOf (value : Field F) (name : String) : Outcome Timestamp :=
  match value with
  | .aware time => .ok time
  | .naive _ => raise .v4FreshBookShadowError (name ++ " must be timezone-aware")
  | _ => raise .v4FreshBookShadowError (name ++ " must be a datetime")

/-- A number that is finite. -/
def finiteOf (value : Numeral) (name : String) : Outcome Decimal :=
  match value with
  | .finite value => .ok value
  | _ => raise .v4FreshBookShadowError (name ++ " must be finite")

/-- `_decimal`. -/
def decimalOf (value : Field F) (name : String) : Outcome Decimal :=
  match value with
  | .none | .bool _ => raise .v4FreshBookShadowError (name ++ " must be numeric")
  | .decimal value => finiteOf value name
  | value =>
    match decimalOfText (value.str A) with
    | none => raise .v4FreshBookShadowError (name ++ " must be numeric")
    | some number => finiteOf number name

/-! ## Levels -/

/-- A level, with the checks of `_levels`. -/
def readLevel (level : Field F × Field F) : Outcome BookLevel := do
  let price ← decimalOf A level.1 "ask price"
  let size ← decimalOf A level.2 "ask size"
  require (0 < price ∧ price ≤ 1) .v4FreshBookShadowError "ask price must be within (0, 1]"
  require (¬ size < 0) .v4FreshBookShadowError "ask size must be non-negative"
  .ok ⟨price, size⟩

/-- `merged[price] = merged.get(price, _ZERO) + size`, unless the size is zero. -/
def addSize (merged : List BookLevel) (level : BookLevel) : List BookLevel :=
  if level.size.isZero then merged
  else setSize merged ⟨level.price, sizeAt merged level.price + level.size⟩

/-- The levels by their prices. -/
def merge (levels : List BookLevel) : List BookLevel := levels.foldl addSize []

/-- `_levels`. -/
def levelsOf (values : List (Field F × Field F)) : Outcome (List BookLevel) := do
  .ok (byPrice (merge (← values.mapM (readLevel A))))

/-! ## The edge decision -/

/-- `V3ExecutionBook`. -/
structure V3ExecutionBook (F : Type) where
  upBestBid : Option F
  upBestAsk : Option F
  upFresh : Bool
  downBestBid : Option F
  downBestAsk : Option F
  downFresh : Bool

/-- The decision when the book of the side cannot be used. -/
def notExecutable (side : Predicted F) (reason : String) (slippageBuffer : F) (minEdge : Option F) :
    EdgeDecision F where
  side := side.side
  predictedTarget := side.target
  sideProbability := side.probability
  marketProbabilityObserved := false
  executable := false
  trade := false
  reason := reason
  ask := none
  bid := none
  spread := none
  fee := A.zero
  slippageBuffer := slippageBuffer
  rawEdge := none
  costAdjustedEdge := none
  minEdge := minEdge

/-- `edge_decision_v3`. -/
def edgeDecisionV3 (probabilityUp : F) (book : V3ExecutionBook F) (feeRate slippageBuffer : F)
    (minEdge : Option F) : Outcome (EdgeDecision F) := do
  require (A.isProbability probabilityUp = true) .valueError
    "calibrated_probability_up must be within [0, 1]"
  let side := predicted A.toArithmetic probabilityUp
  let up : Bool := side.side = .up
  let fresh := if up then book.upFresh else book.downFresh
  let ask := if up then book.upBestAsk else book.downBestAsk
  let bid := if up then book.upBestBid else book.downBestBid
  if ¬ fresh then
    .ok (notExecutable A side "selected_book_stale_or_missing" slippageBuffer minEdge)
  else
    match ask.filter A.isProbability with
    | none => .ok (notExecutable A side "selected_ask_unavailable" slippageBuffer minEdge)
    | some ask =>
      let bid := bid.filter fun bid => A.isFinite bid && A.le A.zero bid && A.le bid ask
      let fee := A.mul (A.mul feeRate ask) (A.sub A.one ask)
      let rawEdge := A.sub side.probability ask
      let adjusted := A.sub (A.sub rawEdge fee) slippageBuffer
      let trade := minEdge.any fun minimum => A.le minimum adjusted
      .ok
        { side := side.side
          predictedTarget := side.target
          sideProbability := side.probability
          marketProbabilityObserved := true
          executable := true
          trade
          reason := if minEdge.isNone then "policy_no_trade"
            else if trade then "trade" else "edge_below_minimum"
          ask := some ask
          bid
          spread := bid.map fun bid => A.sub ask bid
          fee
          slippageBuffer
          rawEdge := some rawEdge
          costAdjustedEdge := some adjusted
          minEdge }

/-! ## The fill -/

def frozenV4ModelSha256 : String :=
  "6ae26dcbd189462cc4e594dede8cd3398c7a92960d275bdf43bbada5df2e8ddf"

def frozenV4MinEdge : Decimal := ⟨5, -2⟩

def frozenV4FeeRate : Decimal := ⟨7, -2⟩

def frozenV4SlippageBuffer : Decimal := ⟨1, -2⟩

def v4SourceTimeFeatureVersion : String := "v4-source-time-features-v2"

def v4FreshBookShadowVersion : String := "paper-execution-v4-source-time-fresh-book-shadow-v2"

def extremeEdgeObservationThreshold : Decimal := ⟨50, -2⟩

def targetNotionalUsd : Decimal := ⟨500, -2⟩

def sharePrecision : ℕ := 6

/-- What is filled, and what it costs. -/
structure Filling where
  remaining : Decimal
  filledShares : Decimal := 0
  grossFillCost : Decimal := 0
  totalFees : Decimal := 0
deriving DecidableEq

/-- What is taken of a level. -/
def Filling.take (filling : Filling) (level : BookLevel) : Filling :=
  let shares := Decimal.min' level.size filling.remaining
  { filledShares := filling.filledShares + shares
    grossFillCost := filling.grossFillCost + shares * level.price
    totalFees := filling.totalFees + shares * frozenV4FeeRate * level.price * (1 - level.price)
    remaining := filling.remaining - shares }

/-- The loop over the levels. -/
def takeLevels (limit : Decimal) : List BookLevel → Filling → Filling
  | [], filling => filling
  | level :: rest, filling =>
    if filling.remaining ≤ 0 ∨ limit < level.price then filling
    else takeLevels limit rest (filling.take level)

/-- What an order that may not be made asks for, at most at what price, and what it gets. -/
structure Ordered where
  requestedShares : Decimal := 0
  limitPrice : Option Decimal := none
  filling : Filling := { remaining := 0 }
deriving DecidableEq

/-- The order of a decision to trade. -/
def orderOf (levels : List BookLevel) (bestAsk : Decimal) : Outcome Ordered := do
  let limit := limitPrice bestAsk frozenV4SlippageBuffer
  let requested ← sharesForBudget targetNotionalUsd (worstTotalPerShare frozenV4FeeRate limit)
    sharePrecision
  .ok ⟨requested, some limit, takeLevels limit levels { remaining := requested }⟩

/-! ## The result -/

/-- `V4FreshBookShadowResult`. -/
structure V4FreshBookShadowResult where
  shadowVersion : String
  predictionId : String
  modelSha256 : String
  sourceFeatureVersion : String
  decisionAt : Timestamp
  predictionRecordedAt : Timestamp
  quoteObservedAt : Timestamp
  conditionId : String
  tokenId : String
  selectedSide : String
  probabilityUp : Decimal
  sideProbability : Decimal
  bestAsk : Option Decimal
  limitPrice : Option Decimal
  rawEdge : Option Decimal
  feePerShareAtSignal : Option Decimal
  costAdjustedEdge : Option Decimal
  extremeEdgeObservation : Bool
  decisionReason : String
  trade : Bool
  requestedShares : Decimal
  filledShares : Decimal
  grossFillCost : Decimal
  totalFees : Decimal
  totalFillCost : Decimal
  fullFill : Bool
  displayedAskLevels : List BookLevel
  semanticSha256 : String
deriving DecidableEq

/-- `None` or the text of a number. -/
def textOrNull : Option Decimal → Value F
  | none => .none
  | some value => .text value.text

/-- `semantic_values`. -/
def semanticValues (r : V4FreshBookShadowResult) : Value F :=
  .obj [("shadow_version", .text r.shadowVersion), ("prediction_id", .text r.predictionId),
    ("model_sha256", .text r.modelSha256), ("source_feature_version", .text r.sourceFeatureVersion),
    ("decision_at", .text (IsoTime.isoformat r.decisionAt)),
    ("prediction_recorded_at", .text (IsoTime.isoformat r.predictionRecordedAt)),
    ("quote_observed_at", .text (IsoTime.isoformat r.quoteObservedAt)),
    ("condition_id", .text r.conditionId), ("token_id", .text r.tokenId),
    ("selected_side", .text r.selectedSide), ("probability_up", .text r.probabilityUp.text),
    ("side_probability", .text r.sideProbability.text), ("best_ask", textOrNull r.bestAsk),
    ("limit_price", textOrNull r.limitPrice), ("raw_edge", textOrNull r.rawEdge),
    ("fee_per_share_at_signal", textOrNull r.feePerShareAtSignal),
    ("cost_adjusted_edge", textOrNull r.costAdjustedEdge),
    ("extreme_edge_observation", .bool r.extremeEdgeObservation),
    ("decision_reason", .text r.decisionReason), ("trade", .bool r.trade),
    ("requested_shares", .text r.requestedShares.text),
    ("filled_shares", .text r.filledShares.text),
    ("gross_fill_cost", .text r.grossFillCost.text), ("total_fees", .text r.totalFees.text),
    ("total_fill_cost", .text r.totalFillCost.text), ("full_fill", .bool r.fullFill),
    ("displayed_ask_levels", .list (r.displayedAskLevels.map fun level =>
      .list [.text level.price.text, .text level.size.text]))]

/-! ## The evaluation -/

/-- What is read of a prediction before the levels. -/
structure Accepted where
  predictionId : String
  conditionId : String
  decisionAt : Timestamp
  recordedAt : Timestamp
  observedAt : Timestamp
  probabilityUp : Decimal
  tokenId : String

/-- `prediction.get(key)`. -/
def getField (prediction : List (String × Field F)) (key : String) : Field F :=
  (prediction.lookup key).getD .none

/-- Whether the predicted side is Up. -/
def isUp (probabilityUp : Decimal) : Bool := (⟨5, -1⟩ : Decimal) ≤ probabilityUp

/-- The checks of a prediction. -/
def acceptPrediction (prediction : List (String × Field F)) (quoteObservedAt : Field F) :
    Outcome Accepted := do
  require ((getField prediction "model_sha256").strOrEmpty A = frozenV4ModelSha256)
    .v4FreshBookShadowError "unsupported V4 model artifact"
  require ((getField prediction "source_feature_version").strOrEmpty A = v4SourceTimeFeatureVersion)
    .v4FreshBookShadowError "unsupported V4 source feature version"
  let predictionId := (getField prediction "prediction_id").strOrEmpty A
  let conditionId := (getField prediction "condition_id").strOrEmpty A
  require (predictionId ≠ "" ∧ conditionId ≠ "") .v4FreshBookShadowError
    "prediction identity missing"
  let decisionAt ← utcOf (getField prediction "decision_at") "decision_at"
  let recordedAt ← utcOf (getField prediction "recorded_at") "recorded_at"
  let observedAt ← utcOf quoteObservedAt "quote_observed_at"
  require (decisionAt ≤ recordedAt) .v4FreshBookShadowError "prediction cannot predate decision"
  require (recordedAt ≤ observedAt) .v4FreshBookShadowError "fresh quote cannot predate prediction"
  let probabilityUp ← decimalOf A (getField prediction "probability_up") "probability_up"
  require (0 ≤ probabilityUp ∧ probabilityUp ≤ 1) .v4FreshBookShadowError
    "probability_up must be within [0, 1]"
  let tokenKey := if isUp probabilityUp then "up_token_id" else "down_token_id"
  let tokenId := (getField prediction tokenKey).strOrEmpty A
  require (tokenId ≠ "") .v4FreshBookShadowError (tokenKey ++ " missing")
  .ok ⟨predictionId, conditionId, decisionAt, recordedAt, observedAt, probabilityUp, tokenId⟩

/-- The book of the selected side. -/
def shadowBook (up : Bool) (bestAsk : Option Decimal) : V3ExecutionBook F where
  upBestBid := none
  upBestAsk := if up then bestAsk.map A.ofDecimal else none
  upFresh := up && bestAsk.isSome
  downBestBid := none
  downBestAsk := if up then none else bestAsk.map A.ofDecimal
  downFresh := !up && bestAsk.isSome

/-- The order of a decision; without a trade, there is none. -/
def orderFor (trade : Bool) (levels : List BookLevel) (bestAsk : Option Decimal) : Outcome Ordered :=
  if trade then
    match bestAsk with
    | none => raise .assertionError ""
    | some bestAsk => orderOf levels bestAsk
  else .ok {}

/-- The result before it is hashed. -/
def resultOf (p : Accepted) (levels : List BookLevel) (decision : EdgeDecision F) (ordered : Ordered) :
    V4FreshBookShadowResult :=
  let up := isUp p.probabilityUp
  let bestAsk := levels.head?.map BookLevel.price
  let adjusted := decision.costAdjustedEdge.map A.shown
  { shadowVersion := v4FreshBookShadowVersion
    predictionId := p.predictionId
    modelSha256 := frozenV4ModelSha256
    sourceFeatureVersion := v4SourceTimeFeatureVersion
    decisionAt := p.decisionAt
    predictionRecordedAt := p.recordedAt
    quoteObservedAt := p.observedAt
    conditionId := p.conditionId
    tokenId := p.tokenId
    selectedSide := if up then "up" else "down"
    probabilityUp := p.probabilityUp
    sideProbability := if up then p.probabilityUp else 1 - p.probabilityUp
    bestAsk
    limitPrice := ordered.limitPrice
    rawEdge := decision.rawEdge.map A.shown
    feePerShareAtSignal := bestAsk.map fun ask => frozenV4FeeRate * ask * (1 - ask)
    costAdjustedEdge := adjusted
    extremeEdgeObservation := adjusted.any fun edge => extremeEdgeObservationThreshold < edge
    decisionReason := decision.reason
    trade := decision.trade
    requestedShares := ordered.requestedShares
    filledShares := ordered.filling.filledShares
    grossFillCost := ordered.filling.grossFillCost
    totalFees := ordered.filling.totalFees
    totalFillCost := ordered.filling.grossFillCost + ordered.filling.totalFees
    fullFill := 0 < ordered.requestedShares &&
      Decimal.Same ordered.filling.filledShares ordered.requestedShares
    displayedAskLevels := levels
    semanticSha256 := "" }

/-- The evaluation of an accepted prediction with levels that are merged. -/
def evaluateLevels (p : Accepted) (levels : List BookLevel) : Outcome V4FreshBookShadowResult := do
  let bestAsk := levels.head?.map BookLevel.price
  let decision ← edgeDecisionV3 A (A.ofDecimal p.probabilityUp)
    (shadowBook A (isUp p.probabilityUp) bestAsk) (A.ofDecimal frozenV4FeeRate)
    (A.ofDecimal frozenV4SlippageBuffer) (some (A.ofDecimal frozenV4MinEdge))
  let ordered ← orderFor decision.trade levels bestAsk
  let digest ← canonicalHash A.toFloats (semanticValues (resultOf A p levels decision ordered))
  .ok { resultOf A p levels decision ordered with semanticSha256 := digest }

/-- `evaluate_v4_fresh_book_shadow`. -/
def evaluateV4FreshBookShadow (prediction : List (String × Field F))
    (askLevels : List (Field F × Field F)) (quoteObservedAt : Field F) :
    Outcome V4FreshBookShadowResult := do
  let accepted ← acceptPrediction A prediction quoteObservedAt
  let levels ← levelsOf A askLevels
  evaluateLevels A accepted levels

end BpEngine.V4Paper
