import BpEngine.Execution.Documents

/-!
# Gamma markets

`polymarket/parsing.py`: a market of the Gamma API as a `PolymarketMarket`.

* `GammaText` are the text functions of the standard library that the parser uses.
* `parseHorizonSlug` reads the window of a market off its slug, `resolvedOutcome` its official outcome
  off the outcome prices.
* `parseGammaMarket` is the whole market.
-/

namespace BpEngine.Labels

/-- The text functions of the standard library. -/
structure GammaText where
  /-- `json.loads`. -/
  loads : String → Outcome Json
  /-- The value of a decimal digit, in any script. -/
  digit : Char → Option ℕ
  /-- The hexadecimal SHA-256 digest of the UTF-8 text. -/
  sha256 : String → String

/-- `PolymarketMarket`. -/
structure PolymarketMarket where
  gammaMarketId : String
  eventId : Option String
  conditionId : String
  slug : String
  question : String
  horizonSeconds : ℤ
  windowStartAt : Timestamp
  windowEndAt : Timestamp
  upTokenId : String
  downTokenId : String
  resolutionSource : String
  rulesText : String
  rulesHash : String
  active : Bool
  closed : Bool
  acceptingOrders : Bool
  resolvedOutcome : Option String
deriving DecidableEq

/-- `int` of a run of digits, of 4300 digits at most. -/
def intOfDigits (T : GammaText) (digits : List Char) : Outcome ℤ := do
  require (digits.length ≤ 4300) .valueError
    "Exceeds the limit (4300 digits) for integer string conversion"
  .ok (digits.foldl (fun n c => 10 * n + ((T.digit c).getD 0 : ℕ)) (0 : ℤ))

/-- The two groups of `_SLUG_RE`: the minutes and the epoch. -/
def slugGroups (T : GammaText) (slug : String) : Option (List Char × List Char) :=
  let isDigit (c : Char) : Bool := (T.digit c).isSome
  let head := "btc-updown-".toList
  let middle := "m-".toList
  let cs := slug.toList
  let minutes := (cs.drop head.length).takeWhile isDigit
  let rest := (cs.drop head.length).dropWhile isDigit
  let epoch := rest.drop middle.length
  if cs.take head.length = head ∧ minutes ≠ [] ∧ rest.take middle.length = middle ∧ epoch ≠ [] ∧
      epoch.all isDigit then some (minutes, epoch)
  else none

/-- `datetime.fromtimestamp(seconds, tz=UTC)` of a count of seconds that is not negative. -/
def fromTimestamp (seconds : ℤ) : Outcome Timestamp := do
  require (seconds < 2 ^ 63) .overflowError "timestamp out of range for platform time_t"
  require (IsoTime.InRange (Timestamp.ofSeconds seconds)) .valueError "year is out of range"
  .ok (Timestamp.ofSeconds seconds)

/-- `parse_horizon_slug`. -/
def parseHorizonSlug (T : GammaText) (slug : String) : Outcome (ℤ × Timestamp) := do
  match slugGroups T slug with
  | none => raise .gammaMarketError ("unsupported BTC Up/Down slug: " ++ slug)
  | some (minutes, epoch) =>
    let minutes ← intOfDigits T minutes
    require (0 < minutes) .gammaMarketError ("invalid horizon in slug: " ++ slug)
    let epoch ← intOfDigits T epoch
    let startAt ← fromTimestamp epoch
    .ok (minutes * 60, startAt)

/-- The texts of a list of texts. -/
def textItems : List Json → Option (List String)
  | [] => some []
  | .str text :: items => (textItems items).map (text :: ·)
  | _ :: _ => none

/-- `_decode_string_array`. -/
def decodeStringArray (T : GammaText) (payload : Dict) (key : String) : Outcome (List String) :=
  match payload.get key with
  | .str raw =>
    match T.loads raw with
    | .error ⟨.jsonDecodeError, _⟩ => raise .gammaMarketError (key ++ " is not valid JSON")
    | .error error => .error error
    | .ok (.arr items) =>
      match textItems items with
      | some texts => .ok texts
      | none => raise .gammaMarketError (key ++ " must decode to a string array")
    | .ok _ => raise .gammaMarketError (key ++ " must decode to a string array")
  | _ => raise .gammaMarketError (key ++ " must be a JSON-encoded string array")

/-- `_required_string`. -/
def requiredString (payload : Dict) (key : String) : Outcome String :=
  match payload.get key with
  | .str value =>
    if strip value ≠ "" then .ok value
    else raise .gammaMarketError (key ++ " must be a non-empty string")
  | _ => raise .gammaMarketError (key ++ " must be a non-empty string")

/-- `_rule_hash`. -/
def ruleHash (T : GammaText) (resolutionSource rulesText : String) : String :=
  "sha256:" ++ T.sha256 (strip resolutionSource ++ "\n" ++ strip rulesText)

/-- The number is the integer. -/
def Numeral.isInt (n : ℤ) : Numeral → Bool
  | .finite value => Decimal.Same value (Decimal.ofInt n)
  | _ => false

/-- The outcome whose price is one when all others are zero. -/
def winnerOf (outcomes : List String) (prices : List Numeral) : Option String :=
  if prices.length ≠ outcomes.length then none
  else
    let winners := ((outcomes.zip prices).filter fun entry => Numeral.isInt 1 entry.2).map (·.1)
    let losers := prices.filter (Numeral.isInt 0)
    match winners with
    | [winner] =>
      if losers.length + 1 = prices.length ∧ (winner = "Up" ∨ winner = "Down") then some winner
      else none
    | _ => none

/-- `_resolved_outcome`. -/
def resolvedOutcome (T : GammaText) (payload : Dict) (outcomes : List String) :
    Outcome (Option String) :=
  if (payload.get "closed").truthy = false then .ok none
  else
    match decodeStringArray T payload "outcomePrices" with
    | .error ⟨.gammaMarketError, _⟩ => .ok none
    | .error error => .error error
    | .ok texts =>
      match texts.mapM decimalOfText with
      | none => .ok none
      | some prices => .ok (winnerOf outcomes prices)

/-- The id of the first event. -/
def eventIdOf : Json → Option String
  | .arr (.obj event :: _) =>
    match Dict.get event "id" with
    | .str candidate => if candidate ≠ "" then some candidate else none
    | _ => none
  | _ => none

/-- `parse_gamma_market`; of an outcome that is listed twice the last token counts. -/
def parseGammaMarket (T : GammaText) (payload : Dict) : Outcome PolymarketMarket := do
  let slug ← requiredString payload "slug"
  let (horizonSeconds, windowStartAt) ← parseHorizonSlug T slug
  let outcomes ← decodeStringArray T payload "outcomes"
  let tokenIds ← decodeStringArray T payload "clobTokenIds"
  require (outcomes.length = tokenIds.length) .gammaMarketError
    "outcomes and clobTokenIds must have the same length"
  require ((∀ outcome ∈ outcomes, outcome = "Up" ∨ outcome = "Down") ∧ "Up" ∈ outcomes ∧
    "Down" ∈ outcomes) .gammaMarketError "market must contain exactly Up and Down outcomes"
  let resolutionSource ← requiredString payload "resolutionSource"
  let rulesText ← requiredString payload "description"
  let gammaMarketId ← requiredString payload "id"
  let conditionId ← requiredString payload "conditionId"
  let question ← requiredString payload "question"
  let windowEndAt := windowStartAt + Timestamp.ofSeconds horizonSeconds
  require (IsoTime.InRange windowEndAt) .overflowError "date value out of range"
  let resolvedOutcome ← resolvedOutcome T payload outcomes
  let tokenOf (outcome : String) := ((outcomes.zip tokenIds).reverse.lookup outcome).getD ""
  .ok
    { gammaMarketId
      eventId := eventIdOf (payload.get "events")
      conditionId
      slug
      question
      horizonSeconds
      windowStartAt
      windowEndAt
      upTokenId := tokenOf "Up"
      downTokenId := tokenOf "Down"
      resolutionSource
      rulesText
      rulesHash := ruleHash T resolutionSource rulesText
      active := (payload.get "active").truthy
      closed := (payload.get "closed").truthy
      acceptingOrders := (payload.get "acceptingOrders").truthy
      resolvedOutcome }

end BpEngine.Labels
