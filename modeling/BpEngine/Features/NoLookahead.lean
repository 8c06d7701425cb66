import BpEngine.Features.V4

/-!
# Features do not look ahead

A feature at an instant is made of what was known by then: `SamePast` databases give the same feature,
or the same error.

* `latestPolymarketPrice_congr`, `closedCandles_congr`, `latestState_congr`, `latestBtcState_congr` and
  `windowEvents_congr` say it of the queries, which may ask about an earlier instant.
* `buildFeature_congr` and `buildV4Feature_congr` say it of the features.
-/

namespace BpEngine.Features

open BpEngine.Storage

variable {F : Type} {db other : Database} {until_ featureAt : Timestamp}

/-! ## The queries -/

theorem latestPolymarketPrice_congr (hpast : SamePast until_ db other) (hat : featureAt ≤ until_)
    (conditionId outcome : String) :
    latestPolymarketPrice db conditionId outcome featureAt =
      latestPolymarketPrice other conditionId outcome featureAt := by
  unfold latestPolymarketPrice
  rw [Relation.select_newestFirst_congr (hpast.prices.mono fun row hrow => ?_)]
  simp only [Bool.and_eq_true, decide_eq_true_eq] at hrow
  exact hrow.2.trans hat

theorem closedCandles_congr (hpast : SamePast until_ db other) (hat : featureAt ≤ until_)
    (source marketType symbol : String) (intervalSeconds : ℤ) (limit : ℕ) :
    closedCandles db source marketType symbol intervalSeconds featureAt limit =
      closedCandles other source marketType symbol intervalSeconds featureAt limit := by
  unfold closedCandles
  dsimp only
  rw [Relation.select_newestFirst_congr (hpast.candles.mono fun row hrow => ?_)]
  simp only [Bool.and_eq_true, decide_eq_true_eq] at hrow
  -- the bucket of the row closes by the feature
  obtain ⟨⟨-, hinterval⟩, hbucket⟩ := hrow
  have hclosed : row.bucketAt + Timestamp.ofSeconds intervalSeconds ≤ featureAt :=
    le_sub_iff_add_le.mp hbucket
  rw [CandleRow.effectiveAt, hinterval]
  exact hclosed.trans hat

theorem latestState_congr (hpast : SamePast until_ db other) (hat : featureAt ≤ until_)
    (source stream instrument : String) (assetId : Option String) :
    latestState db source stream instrument assetId featureAt =
      latestState other source stream instrument assetId featureAt := by
  unfold latestState
  rw [Relation.select_newestFirst_congr (hpast.states.mono fun row hrow => ?_)]
  simp only [Bool.and_eq_true, decide_eq_true_eq] at hrow
  obtain ⟨⟨⟨-, hbucket⟩, hevent⟩, -⟩ := hrow
  exact (max_le hbucket hevent).trans hat

theorem latestBtcState_congr (hpast : SamePast until_ db other) (hat : featureAt ≤ until_)
    (source stream instrument : String) :
    latestBtcState db source stream instrument featureAt =
      latestBtcState other source stream instrument featureAt := by
  unfold latestBtcState
  rw [latestState_congr hpast hat]

theorem windowEvents_congr (hpast : SamePast until_ db other) (hat : featureAt ≤ until_)
    (source stream instrument : String) (windowSeconds : ℤ) :
    windowEvents db source stream instrument featureAt windowSeconds =
      windowEvents other source stream instrument featureAt windowSeconds := by
  unfold windowEvents
  dsimp only
  rw [Relation.select_oldestFirst_congr (hpast.rawEvents.mono fun row hrow => ?_)]
  simp only [Bool.and_eq_true, decide_eq_true_eq] at hrow
  exact hrow.2.trans hat

/-! ## What is read of them -/

theorem loadTradeFlow_congr (hpast : SamePast until_ db other) (hat : featureAt ≤ until_)
    (source stream instrument : String) :
    (loadTradeFlow db source stream instrument featureAt : Outcome (Option (TradeFlow F))) =
      loadTradeFlow other source stream instrument featureAt := by
  unfold loadTradeFlow
  rw [windowEvents_congr hpast hat]

theorem rawTradeGroups_congr (hpast : SamePast until_ db other) (hat : featureAt ≤ until_)
    (floats : Floats F) (target : FeatureTarget) :
    rawTradeGroups floats db target featureAt = rawTradeGroups floats other target featureAt := by
  unfold rawTradeGroups
  simp only [loadTradeFlow_congr hpast hat]

/-- The price that says which book is read is the same, so the book is. -/
theorem sideState_congr (hpast : SamePast until_ db other) (hat : featureAt ≤ until_)
    (target : FeatureTarget) (price : Option PriceRow) :
    sideState db target price featureAt = sideState other target price featureAt := by
  unfold sideState
  cases price with
  | none => rfl
  | some row => exact latestState_congr hpast hat _ _ _ _

theorem earlier_le (featureAt : Timestamp) {seconds : ℤ} (hseconds : 0 ≤ seconds) :
    featureAt - Timestamp.ofSeconds seconds ≤ featureAt :=
  sub_le_self featureAt (mul_nonneg hseconds (by decide))

theorem shortAnchorSet_congr (hpast : SamePast featureAt db other) (source stream instrument : String)
    {marketStartAt : Timestamp} (hstart : marketStartAt ≤ featureAt) :
    shortAnchorSet db source stream instrument marketStartAt featureAt =
      shortAnchorSet other source stream instrument marketStartAt featureAt := by
  unfold shortAnchorSet
  simp only [latestBtcState_congr hpast hstart, latestBtcState_congr hpast le_rfl,
    latestBtcState_congr hpast (earlier_le featureAt (show (0 : ℤ) ≤ 120 by decide)),
    latestBtcState_congr hpast (earlier_le featureAt (show (0 : ℤ) ≤ 60 by decide)),
    latestBtcState_congr hpast (earlier_le featureAt (show (0 : ℤ) ≤ 30 by decide))]

theorem regimeAnchorSet_congr (hpast : SamePast featureAt db other)
    (source stream instrument : String) (current : Option BtcStateObservation) :
    regimeAnchorSet db source stream instrument featureAt current =
      regimeAnchorSet other source stream instrument featureAt current := by
  unfold regimeAnchorSet
  simp only [latestBtcState_congr hpast (earlier_le featureAt (show (0 : ℤ) ≤ 3600 by decide)),
    latestBtcState_congr hpast (earlier_le featureAt (show (0 : ℤ) ≤ 900 by decide)),
    latestBtcState_congr hpast (earlier_le featureAt (show (0 : ℤ) ≤ 300 by decide))]

theorem readVenue_congr (hpast : SamePast featureAt db other) (floats : Floats F)
    (name stream instrument : String) {startAt : Timestamp} (hstart : startAt ≤ featureAt) :
    readVenue floats db name stream instrument startAt featureAt =
      readVenue floats other name stream instrument startAt featureAt := by
  unfold readVenue
  simp only [shortAnchorSet_congr hpast _ _ _ hstart, regimeAnchorSet_congr hpast]

/-! ## The features -/

theorem buildFeature_congr (hpast : SamePast featureAt db other) (floats : Floats F)
    (target : FeatureTarget) (generatedAt : Timestamp) :
    buildFeature floats db target featureAt generatedAt =
      buildFeature floats other target featureAt generatedAt := by
  unfold buildFeature
  simp only [latestPolymarketPrice_congr hpast le_rfl, sideState_congr hpast le_rfl,
    closedCandles_congr hpast le_rfl, latestState_congr hpast le_rfl,
    rawTradeGroups_congr hpast le_rfl]

theorem buildV4Feature_congr (hpast : SamePast featureAt db other) (floats : Floats F)
    (target : FeatureTarget) (generatedAt : Timestamp) :
    buildV4Feature floats db target featureAt generatedAt =
      buildV4Feature floats other target featureAt generatedAt := by
  unfold buildV4Feature
  refine bind_congr fun times => ?_
  obtain ⟨startAt, endAt⟩ := times
  by_cases hinside : startAt < featureAt ∧ featureAt < endAt
  · simp only [readVenue_congr hpast floats _ _ _ hinside.1.le]
  · simp only [require, if_neg hinside]
    rfl

/-- **Features do not look ahead**: databases that have the same rows among those effective by the
feature give the same features, flags, cutoffs, fingerprint and hash, in either version. -/
theorem features_of_samePast (floats : Floats F) (target : FeatureTarget)
    (generatedAt : Timestamp) (hpast : SamePast featureAt db other) :
    buildFeature floats db target featureAt generatedAt =
        buildFeature floats other target featureAt generatedAt ∧
      buildV4Feature floats db target featureAt generatedAt =
        buildV4Feature floats other target featureAt generatedAt :=
  ⟨buildFeature_congr hpast floats target generatedAt,
    buildV4Feature_congr hpast floats target generatedAt⟩

/-! ### A market with two futures -/

/-- The double nearest to a decimal. -/
def doubleOf (value : Decimal) : Float :=
  let magnitude :=
    if 0 ≤ value.exp then Float.ofScientific (value.coeff.natAbs * 10 ^ value.exp.toNat) false 0
    else Float.ofScientific value.coeff.natAbs true value.exp.natAbs
  if value.coeff < 0 then -magnitude else magnitude

mutual

/-- The text of a canonical value. -/
def canonicalText : Value Float → String
  | .none => "null"
  | .bool value => toString value
  | .int value => toString value
  | .text value => Json.quoted value
  | .time value => utcText value
  | .decimal value => value.text
  | .float value => toString value
  | .json value => value.repr
  | .obj entries => "\x7b" ++ ",".intercalate (canonicalEntries entries) ++ "\x7d"
  | .list items => "[" ++ ",".intercalate (canonicalItems items) ++ "]"

def canonicalEntries : List (String × Value Float) → List String
  | [] => []
  | (key, value) :: entries =>
    (Json.quoted key ++ ":" ++ canonicalText value) :: canonicalEntries entries

def canonicalItems : List (Value Float) → List String
  | [] => []
  | item :: items => canonicalText item :: canonicalItems items

end

/-- Doubles; the digest of a value is its text. -/
def doubles : Floats Float where
  ofDecimal := doubleOf
  ofInt value := doubleOf (.ofInt value)
  totalSeconds value := doubleOf ⟨value, -6⟩
  isFinite value := value.isFinite
  isPositive value := 0 < value
  isNegative value := value < 0
  add a b := a + b
  sub a b := a - b
  div a b := a / b
  log value := if 0 < value then some value.log else none
  pstdev values :=
    let count := Float.ofNat values.length
    let mean := values.sum / count
    ((values.map fun value => (value - mean) * (value - mean)).sum / count).sqrt
  digest := canonicalText

/-- A market of five minutes. -/
def sampleTarget : FeatureTarget where
  conditionId := "0xabc"
  slug := "btc-updown-5m-1788000000"
  horizonSeconds := 300
  marketStartAt := 1788000000000000
  marketEndAt := 1788000300000000

/-- A price of the side that goes up, so many seconds into the market. -/
def samplePrice (id : ℕ) (seconds : ℤ) (price : Decimal) : PriceRow where
  id
  source := "clob"
  conditionId := "0xabc"
  assetId := "71"
  outcome := "Up"
  observedAt := 1788000000000000 + Timestamp.ofSeconds seconds
  price
  fidelityMinutes := 1

/-- A second of a Bybit stream, so many seconds into the market. -/
def sampleState (id : ℕ) (seconds : ℤ) (lastPrice : String) : StateRow where
  id
  bucketAt := 1788000000000000 + Timestamp.ofSeconds seconds
  stateKey := "bybit:spot:BTCUSDT"
  source := "bybit"
  stream := "spot"
  instrument := "BTCUSDT"
  marketId := none
  assetId := none
  lastEventAt := 1788000000000000 + Timestamp.ofSeconds seconds
  state := [("last_price", .str lastPrice)]

/-- A database with two prices and two states, the later ones after the first minute. -/
def sampleDatabase (laterPrice : Decimal) (laterState : String) : Database where
  prices := ⟨[samplePrice 1 30 ⟨55, -2⟩, samplePrice 2 61 laterPrice], by simp [samplePrice]⟩
  candles := ⟨[], by decide⟩
  states := ⟨[sampleState 1 58 "64000.5", sampleState 2 61 laterState], by simp [sampleState]⟩
  rawEvents := ⟨[], by decide⟩

theorem features_of_samePast_sample :
    buildFeature doubles (sampleDatabase ⟨97, -2⟩ "64900") sampleTarget 1788000060000000
          1788000400000000 =
        buildFeature doubles (sampleDatabase ⟨2, -2⟩ "63100") sampleTarget 1788000060000000
          1788000400000000 ∧
      buildV4Feature doubles (sampleDatabase ⟨97, -2⟩ "64900") sampleTarget 1788000060000000
          1788000400000000 =
        buildV4Feature doubles (sampleDatabase ⟨2, -2⟩ "63100") sampleTarget 1788000060000000
          1788000400000000 :=
  features_of_samePast doubles sampleTarget 1788000400000000
    { prices := Relation.agree_of_filter_eq (by rfl)
      candles := Relation.agree_of_filter_eq rfl
      states := Relation.agree_of_filter_eq (by rfl)
      rawEvents := Relation.agree_of_filter_eq rfl }

end BpEngine.Features
