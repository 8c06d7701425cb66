import BpEngine.Execution.Models
import BpEngine.Features.Groups

/-!
# Calibration and the edge decision

`calibration/calibrators.py`, the part that applies a fit, and `calibration/edge.py`, the part that
decides about one market.  The arithmetic is a parameter: a service computes in binary floats, and a
statement about exact numbers takes the arithmetic of a field.

* `applyCalibration` turns a raw probability into a calibrated one.
* `edgeDecisionFromPredictors` decides which side to take and whether to trade.
-/

namespace BpEngine.Prospective

open BpEngine.Execution BpEngine.Features

/-! ## Arithmetic -/

/-- What the probability code computes with. -/
structure Arithmetic (F : Type) extends Floats F where
  mul : F → F → F
  neg : F → F
  exp : F → F
  lt : F → F → Bool
  le : F → F → Bool
  same : F → F → Bool
  /-- `int(value)`. -/
  trunc : F → ℤ

namespace Arithmetic

variable {F : Type} (A : Arithmetic F)

def zero : F := A.ofInt 0

def one : F := A.ofInt 1

def half : F := A.ofDecimal ⟨5, -1⟩

/-- `_EPSILON`. -/
def epsilon : F := A.ofDecimal ⟨1, -6⟩

/-- `min(a, b)`. -/
def min' (a b : F) : F := if A.lt b a then b else a

/-- `max(a, b)`. -/
def max' (a b : F) : F := if A.lt a b then b else a

/-- `math.isfinite(value) and 0.0 <= value <= 1.0`. -/
def isProbability (value : F) : Bool := A.isFinite value && A.le A.zero value && A.le value A.one

end Arithmetic

/-- `predictors`: a number or `None` under each name, the last update first. -/
abbrev Predictors (F : Type) := List (String × Option F)

/-- `predictors.get(key)`. -/
def Predictors.get {F : Type} (predictors : Predictors F) (key : String) : Option F :=
  (predictors.lookup key).join

variable {F : Type} (A : Arithmetic F)

/-! ## Calibration -/

/-- `CalibrationFit`. -/
structure CalibrationFit (F : Type) where
  method : String
  intercept : Option F
  coefficient : Option F
deriving DecidableEq

/-- `clip_probability`. -/
def clipProbability (value : F) : Outcome F := do
  require (A.isFinite value = true) .valueError "probability must be finite"
  .ok (A.min' (A.max' value A.epsilon) (A.sub A.one A.epsilon))

/-- `_logit`. -/
def logit (value : F) : Outcome F := do
  let probability ← clipProbability A value
  match A.log (A.div probability (A.sub A.one probability)) with
  | none => raise .valueError "math domain error"
  | some result => .ok result

/-- `IdentityCalibrator.predict`, of one probability. -/
def identityPredict (probability : F) : Outcome F := clipProbability A probability

/-- `PlattCalibrator.predict`, of one probability. -/
def plattPredict (intercept coefficient probability : F) : Outcome F := do
  let logit ← logit A probability
  let score := A.add intercept (A.mul coefficient logit)
  if A.le A.zero score then
    clipProbability A (A.div A.one (A.add A.one (A.exp (A.neg score))))
  else
    clipProbability A (A.div (A.exp score) (A.add A.one (A.exp score)))

/-- `apply_calibration`, of one probability. -/
def applyCalibration (fit : CalibrationFit F) (probability : F) : Outcome F :=
  if fit.method = "identity" then identityPredict A probability
  else if fit.method = "platt" then
    match fit.intercept, fit.coefficient with
    | some intercept, some coefficient => do
      require (¬ A.le coefficient A.zero = true) .valueError "Platt coefficient must be positive"
      plattPredict A intercept coefficient probability
    | _, _ => raise .valueError "Platt calibrator requires a complete platt fit"
  else raise .valueError ("unsupported calibration method: " ++ fit.method)

/-! ## The edge decision -/

/-- `EdgeConfig`. -/
structure EdgeConfig (F : Type) where
  feeRate : F
  slippageBuffer : F
  minEdgeGrid : List F
  minValidationTrades : ℕ
  maxSpread : Option F
deriving DecidableEq

/-- `EdgeDecision`. -/
structure EdgeDecision (F : Type) where
  side : Side
  predictedTarget : ℤ
  sideProbability : F
  marketProbabilityObserved : Bool
  executable : Bool
  trade : Bool
  reason : String
  ask : Option F
  bid : Option F
  spread : Option F
  fee : F
  slippageBuffer : F
  rawEdge : Option F
  costAdjustedEdge : Option F
  minEdge : Option F
deriving DecidableEq

/-- `_observed_market_probability`. -/
def observedMarketProbability (predictors : Predictors F) : Bool :=
  (predictors.get "pm_up_price").any A.isProbability

/-- `_clear_flag`. -/
def clearFlag (predictors : Predictors F) (key : String) : Bool :=
  (predictors.get key).any fun value => A.isFinite value && A.same value A.zero

/-- `_valid_ask`. -/
def validAsk (value : Option F) : Option F :=
  value.filter fun ask => A.isFinite ask && A.lt A.zero ask && A.le ask A.one

/-- `_valid_bid`. -/
def validBid (value : Option F) (ask : F) : Option F :=
  value.filter fun bid => A.isFinite bid && A.le A.zero bid && A.le bid ask

/-- The predicted side: what a decision says in every case. -/
structure Predicted (F : Type) where
  side : Side
  target : ℤ
  probability : F

/-- The side of a probability. -/
def predicted (probabilityUp : F) : Predicted F :=
  if A.le A.half probabilityUp then ⟨.up, 1, probabilityUp⟩
  else ⟨.down, 0, A.sub A.one probabilityUp⟩

/-- `_unavailable`. -/
def unavailable (side : Predicted F) (observed : Bool) (reason : String) (config : EdgeConfig F)
    (minEdge : Option F) : EdgeDecision F where
  side := side.side
  predictedTarget := side.target
  sideProbability := side.probability
  marketProbabilityObserved := observed
  executable := false
  trade := false
  reason := reason
  ask := none
  bid := none
  spread := none
  fee := A.zero
  slippageBuffer := config.slippageBuffer
  rawEdge := none
  costAdjustedEdge := none
  minEdge := minEdge

/-- Whether to trade, and why. -/
def tradeOf (config : EdgeConfig F) (spread : Option F) (costAdjustedEdge : F)
    (minEdge : Option F) : Bool × String :=
  let byEdge : Bool × String :=
    match minEdge with
    | none => (false, "policy_no_trade")
    | some minimum =>
      if A.le minimum costAdjustedEdge then (true, "trade") else (false, "edge_below_minimum")
  match config.maxSpread with
  | none => byEdge
  | some maxSpread =>
    match spread with
    | none => (false, "spread_unavailable")
    | some spread => if A.lt maxSpread spread then (false, "spread_too_wide") else byEdge

/-- The prefix of the predictors of a side. -/
def sideName : Side → String
  | .up => "pm_up"
  | .down => "pm_down"

/-- `edge_decision_from_predictors`. -/
def edgeDecisionFromPredictors (predictors : Predictors F) (probabilityUp : F)
    (config : EdgeConfig F) (minEdge : Option F) : Outcome (EdgeDecision F) := do
  require (A.isProbability probabilityUp = true) .valueError
    "probability must be finite and within [0, 1]"
  require (minEdge.all (fun edge => A.isFinite edge && !A.lt edge A.zero) = true) .valueError
    "min_edge must be finite and non-negative"
  let side := predicted A probabilityUp
  let name := sideName side.side
  if ¬ observedMarketProbability A predictors = true then
    .ok (unavailable A side false "missing_market_probability" config minEdge)
  else if ¬ clearFlag A predictors ("missing__" ++ name ++ "_book_missing") = true then
    .ok (unavailable A side true "selected_book_missing" config minEdge)
  else if ¬ clearFlag A predictors ("missing__" ++ name ++ "_book_stale") = true then
    .ok (unavailable A side true "selected_book_stale" config minEdge)
  else
    match validAsk A (predictors.get (name ++ "_best_ask")) with
    | none => .ok (unavailable A side true "selected_ask_unavailable" config minEdge)
    | some ask =>
      let bid := validBid A (predictors.get (name ++ "_best_bid")) ask
      let spread := bid.map fun bid => A.sub ask bid
      let fee := A.mul (A.mul config.feeRate ask) (A.sub A.one ask)
      let rawEdge := A.sub side.probability ask
      let costAdjustedEdge := A.sub (A.sub rawEdge fee) config.slippageBuffer
      let decided := tradeOf A config spread costAdjustedEdge minEdge
      .ok
        { side := side.side
          predictedTarget := side.target
          sideProbability := side.probability
          marketProbabilityObserved := true
          executable := true
          trade := decided.1
          reason := decided.2
          ask := some ask
          bid := bid
          spread := spread
          fee := fee
          slippageBuffer := config.slippageBuffer
          rawEdge := some rawEdge
          costAdjustedEdge := some costAdjustedEdge
          minEdge := minEdge }

end BpEngine.Prospective
