import BpEngine.Features.V4
import BpEngine.Prospective.Edge
import Mathlib.Data.Prod.Lex
import Mathlib.Data.String.Basic

/-!
# The two coverage checks of V4 features

`features/v4_coverage.py`: `build_v4_coverage_report` reads the rows of an epoch in an order, groups
them and passes over them once for each field; `build_v4_forward_coverage_summary` takes them as they
come, in one pass.

* `parseTimestamp` and `finite` read what the mappings of a row hold.
* `Scan` is what the single pass has collected, `scanRow` its body; `scanRows_eq` says what it has
  collected after all rows.
* `countFuture_comm`: the only thing a row can make either of them raise does not depend on the order.
* `forwardCoverageSummary_eq`: the fields both have are the same, or both raise the same.
-/

namespace BpEngine.Features.Coverage

open BpEngine.Prospective

/-- The floats of the reports, with what `float` reads and `math.ceil`. -/
structure CoverageFloats (F : Type) extends Arithmetic F where
  /-- `float(text)`, unless it raises. -/
  ofText : String → Option F
  /-- `float(n)` raises an `OverflowError`. -/
  overflows : ℤ → Bool
  ceil : F → ℤ

/-- The columns of `market_features` that the checks read. -/
structure CoverageRow where
  id : ℤ
  conditionId : String
  marketStartAt : Timestamp
  featureAt : Timestamp
  featureOffsetSeconds : ℤ
  featureVersion : String
  features : Dict
  missingFlags : Dict
  sourceCutoffs : Dict
  inputFingerprint : String
  featureHash : String

/-- `SOURCE_PREFIXES`. -/
def sourcePrefixes : List String := ["coinbase", "bybit_spot", "bybit_linear"]

/-- `SHORT_RETURN_FIELDS`. -/
def shortReturnFields : List String :=
  sourcePrefixes.flatMap fun name =>
    ["return_from_market_start", "return_30s", "return_60s", "return_120s"].map fun suffix =>
      name ++ "_" ++ suffix

/-- `REGIME_RETURN_FIELDS`. -/
def regimeReturnFields : List String :=
  sourcePrefixes.flatMap fun name => ["5m", "15m", "60m"].map fun horizon =>
    name ++ "_return_" ++ horizon

/-- `REGIME_NAMES`. -/
inductive Regime where
  | bull
  | bear
  | sidewaysMixed
  | unknown
deriving DecidableEq, Repr

def Regime.all : List Regime := [.bull, .bear, .sidewaysMixed, .unknown]

/-! ## Reading values -/

/-- The text with the `Z` at its end written as an offset. -/
def withOffset (text : String) : String :=
  if text.toList.getLast? = some 'Z' then
    String.ofList (text.toList.dropLast ++ "+00:00".toList)
  else text

/-- What `astimezone` raises outside the years 1 to 9999. -/
def outOfRange : Raised := ⟨.overflowError, "date value out of range"⟩

/-- `_parse_timestamp`. -/
def parseTimestamp : Json → Outcome (Option Timestamp)
  | .str value =>
    if strip value = "" then .ok none
    else
      match IsoTime.fromisoformat (withOffset (strip value)) with
      | none => .ok none
      | some parsed =>
        match parsed.offset with
        | none => .ok none
        | some offset =>
          if IsoTime.InRange (parsed.wall - offset) then .ok (some (parsed.wall - offset))
          else .error outOfRange
  | _ => .ok none

variable {F : Type} (A : CoverageFloats F)

/-- `_finite`. -/
def finite : Json → Option F
  | .int value => if A.overflows value then none else finiteOrNone A.toFloats (A.ofInt value)
  | .float value => finiteOrNone A.toFloats (A.ofDecimal value)
  | .str value => (A.ofText value).bind (finiteOrNone A.toFloats)
  | _ => none

/-- `summarize_finite`'s result. -/
structure FiniteSummary (F : Type) where
  count : ℕ
  min : Option F
  median : Option F
  p90 : Option F
  max : Option F

/-- `statistics.median` of sorted values. -/
def median (ordered : List F) : Option F :=
  let half := ordered.length / 2
  if ordered.length % 2 = 1 then ordered[half]?
  else do
    let low ← ordered[half - 1]?
    let high ← ordered[half]?
    some (A.div (A.add low high) (A.ofInt 2))

/-- `summarize_finite` of floats. -/
def summarizeFinite (values : List F) : FiniteSummary F :=
  let ordered := (values.filter A.isFinite).insertionSort fun a b => A.le a b = true
  let rank := (max 0 (A.ceil (A.mul (A.ofDecimal ⟨90, -2⟩) (A.ofInt ordered.length)) - 1)).toNat
  { count := ordered.length
    min := ordered.head?
    median := median A ordered
    p90 := if ordered.isEmpty then none else ordered[rank]?
    max := ordered.getLast? }

/-! ## The parts of the report -/

/-- A count of rows and of their markets. -/
structure RowMarketCount where
  rowCount : ℕ
  marketCount : ℕ
deriving DecidableEq, Repr

/-- `str(row["condition_id"])` of all rows. -/
def marketsOf (rows : List CoverageRow) : Finset String := (rows.map (·.conditionId)).toFinset

def countRows (rows : List CoverageRow) : RowMarketCount := ⟨rows.length, (marketsOf rows).card⟩

/-- `_availability_report`'s result. -/
structure Availability (F : Type) where
  availableCount : ℤ
  missingCount : ℕ
  staleCount : ℕ
  age : FiniteSummary F

/-- `bool(flags.get(key, missing))`. -/
def flag (flags : Dict) (key : String) (missing : Bool) : Bool :=
  if flags.has key then (flags.get key).truthy else missing

/-- `_availability_report`. -/
def availabilityReport (rows : List CoverageRow) (missingKey staleKey cutoffKey : String) :
    Outcome (Availability F) := do
  let cutoffs ← rows.mapM fun row => do
    let cutoff ← parseTimestamp (row.sourceCutoffs.get cutoffKey)
    .ok (cutoff.map fun cutoff => A.totalSeconds (row.featureAt - cutoff))
  let missing := (rows.filter fun row => flag row.missingFlags missingKey true).length
  .ok
    { availableCount := rows.length - missing
      missingCount := missing
      staleCount := (rows.filter fun row => flag row.missingFlags staleKey false).length
      age := summarizeFinite A (cutoffs.filterMap id) }

/-- `_source_report`. -/
def sourceReport (rows : List CoverageRow) (name : String) :
    Outcome (List (String × Availability F)) := do
  let current ← availabilityReport A rows (name ++ "_current_missing") (name ++ "_current_stale")
    (name ++ "_current_state")
  let trailing ← ["5m", "15m", "60m"].mapM fun horizon => do
    let state := name ++ "_regime_trailing_" ++ horizon
    let report ← availabilityReport A rows (state ++ "_missing") (state ++ "_stale") (state ++ "_state")
    .ok ("trailing_" ++ horizon, report)
  .ok (("current_state", current) :: trailing)

/-- A count of rows that have a value. -/
structure ReturnCount where
  availableCount : ℕ
  missingCount : ℤ
deriving DecidableEq, Repr

/-- `_return_report`. -/
def returnReport (rows : List CoverageRow) (fields : List String) : List (String × ReturnCount) :=
  fields.map fun field =>
    let available := (rows.filter fun row => (finite A (row.features.get field)).isSome).length
    (field, ⟨available, rows.length - available⟩)

/-- `str(key).lower()`; besides the capitals only the Kelvin sign becomes an ASCII letter of the words
the key is compared with. -/
def lowered (key : String) : List Char :=
  key.toList.map fun c => if c.toNat = 0x212A then 'k' else c.toLower

/-- The key names a value of Polymarket. -/
def isPredictorKey (key : String) : Bool :=
  "pm_".toList.isPrefixOf (lowered key) || decide ("polymarket".toList <:+: lowered key)

/-- The keys of a row that `isPredictorKey`. -/
def predictorKeysOf (row : CoverageRow) : Finset String :=
  ((row.features.map (·.1)).filter isPredictorKey).toFinset

/-- `_polymarket_predictor_keys`. -/
def polymarketPredictorKeys (rows : List CoverageRow) : Finset String :=
  rows.foldl (fun keys row => keys ∪ predictorKeysOf row) ∅

/-- `_regime_label`. -/
def regimeLabel (features : Dict) : Regime × Bool :=
  let values := [(Regime.bull, finite A (features.get "regime_bull")),
    (Regime.bear, finite A (features.get "regime_bear")),
    (Regime.sidewaysMixed, finite A (features.get "regime_sideways_mixed"))]
  if values.any (·.2.isNone) then (.unknown, false)
  else
    match values.filter fun value => value.2.any fun value => A.same value A.one with
    | [active] => (active.1, false)
    | _ => (.unknown, true)

/-- What the loop of `_regime_report` has collected. -/
structure RegimeGroups where
  grouped : Regime → List CoverageRow
  invariantViolations : ℕ

/-- The body of its loop. -/
def groupRow (groups : RegimeGroups) (row : CoverageRow) : RegimeGroups :=
  let label := regimeLabel A row.features
  { grouped := Function.update groups.grouped label.1 (groups.grouped label.1 ++ [row])
    invariantViolations := groups.invariantViolations + label.2.toNat }

/-- The loop of `_regime_report`. -/
def groupRegimes (rows : List CoverageRow) : RegimeGroups :=
  rows.foldl (groupRow A) ⟨fun _ => [], 0⟩

/-- `_regime_report`. -/
def regimeReport (rows : List CoverageRow) : List (Regime × RowMarketCount) × ℕ :=
  let groups := groupRegimes A rows
  (Regime.all.map fun regime => (regime, countRows (groups.grouped regime)),
    groups.invariantViolations)

/-- The cutoffs of a row after its feature's time, on top of `count`. -/
def countFuture (count : ℕ) (row : CoverageRow) : Outcome ℕ :=
  row.sourceCutoffs.foldlM (fun count entry => do
    let cutoff ← parseTimestamp entry.2
    .ok (if cutoff.any fun cutoff => row.featureAt < cutoff then count + 1 else count)) count

/-! ## The hash of the rows -/

/-- `_coverage_descriptor`. -/
def coverageDescriptor (row : CoverageRow) : Value F :=
  let entries (d : Dict) : Value F := .obj (d.map fun entry => (entry.1, .json entry.2))
  .obj [("condition_id", .text row.conditionId), ("feature_at", .time row.featureAt),
    ("feature_offset_seconds", .int row.featureOffsetSeconds),
    ("feature_version", .text v4FeatureVersion), ("missing_flags", entries row.missingFlags),
    ("source_cutoffs", entries row.sourceCutoffs), ("input_fingerprint", .text row.inputFingerprint),
    ("feature_hash", .text row.featureHash)]

/-- The order the descriptors are sorted in. -/
def descriptorKey (row : CoverageRow) : String ×ₗ String ×ₗ ℤ ×ₗ String ×ₗ String :=
  toLex (row.conditionId, toLex (IsoTime.isoformat row.featureAt, toLex (row.featureOffsetSeconds,
    toLex (row.inputFingerprint, row.featureHash))))

/-- `_coverage_hash`. -/
def coverageHash (rows : List CoverageRow) : Outcome String :=
  canonicalHash A.toFloats (.list
    ((rows.insertionSort fun a b => descriptorKey a ≤ descriptorKey b).map coverageDescriptor))

/-! ## The report -/

/-- `build_v4_coverage_report`'s result. -/
structure CoverageReport (F : Type) where
  featureVersion : String
  rowCount : ℕ
  marketCount : ℕ
  offsets : List ℤ
  byOffset : List (String × RowMarketCount)
  sources : List (String × List (String × Availability F))
  shortReturns : List (String × ReturnCount)
  regimeReturns : List (String × ReturnCount)
  regime : List (Regime × RowMarketCount)
  regimeInvariantViolationCount : ℕ
  futureCutoffViolationCount : ℕ
  polymarketPredictorKeyCount : ℕ
  coverageInputSha256 : String
  policySelected : Bool := false
  trainingRun : Bool := false
  automaticPromotion : Bool := false

/-- The check of the epoch's bounds. -/
def checkEpoch : Option Timestamp → Option Timestamp → Outcome Unit
  | some epochStart, some epochEnd =>
    require (epochStart < epochEnd) .valueError "epoch_end must be after epoch_start"
  | _, _ => .ok ()

/-- The rows of the epoch: those the `where` clauses keep. -/
def inEpoch (table : List CoverageRow) (epochStart epochEnd : Option Timestamp) :
    List CoverageRow :=
  table.filter fun row => row.featureVersion = v4FeatureVersion ∧
    (epochStart.all fun epochStart => epochStart ≤ row.marketStartAt) ∧
    (epochEnd.all fun epochEnd => row.marketStartAt < epochEnd)

/-- `order_by(condition_id, feature_at, id)`. -/
def rowKey (row : CoverageRow) : String ×ₗ ℤ ×ₗ ℤ :=
  toLex (row.conditionId, toLex (row.featureAt, row.id))

/-- `build_v4_coverage_report`. -/
def buildV4CoverageReport (table : List CoverageRow) (epochStart epochEnd : Option Timestamp) :
    Outcome (CoverageReport F) := do
  checkEpoch epochStart epochEnd
  let rows := (inEpoch table epochStart epochEnd).insertionSort fun a b => rowKey a ≤ rowKey b
  let offsets := (rows.map (·.featureOffsetSeconds)).dedup.insertionSort (· ≤ ·)
  let byOffset := offsets.map fun offset =>
    (toString offset, countRows (rows.filter fun row => row.featureOffsetSeconds = offset))
  let futureCutoffs ← rows.foldlM countFuture 0
  let regime := regimeReport A rows
  let predictorKeys := polymarketPredictorKeys rows
  let sources ← sourcePrefixes.mapM fun name => do .ok (name, ← sourceReport A rows name)
  let coverageInputSha256 ← coverageHash A rows
  .ok
    { featureVersion := v4FeatureVersion
      rowCount := rows.length
      marketCount := (marketsOf rows).card
      offsets
      byOffset
      sources
      shortReturns := returnReport A rows shortReturnFields
      regimeReturns := returnReport A rows regimeReturnFields
      regime := regime.1
      regimeInvariantViolationCount := regime.2
      futureCutoffViolationCount := futureCutoffs
      polymarketPredictorKeyCount := predictorKeys.card
      coverageInputSha256 }

/-! ## The summary -/

/-- `build_v4_forward_coverage_summary`'s result. -/
structure CoverageSummary where
  rowCount : ℕ
  marketCount : ℕ
  regime : List (Regime × RowMarketCount)
  futureCutoffViolationCount : ℕ
  polymarketPredictorKeyCount : ℕ
  regimeInvariantViolationCount : ℕ
  policySelected : Bool := false
  trainingRun : Bool := false
  automaticPromotion : Bool := false
deriving DecidableEq, Repr

/-- What the single pass has collected. -/
structure Scan where
  rowCount : ℕ
  markets : Finset String
  regimeRows : Regime → ℕ
  regimeMarkets : Regime → Finset String
  futureCutoffs : ℕ
  predictorKeys : Finset String
  regimeViolations : ℕ

/-- What the pass starts from. -/
def Scan.start : Scan := ⟨0, ∅, fun _ => 0, fun _ => ∅, 0, ∅, 0⟩

/-- A row added, given the count of the cutoffs in the future. -/
def Scan.add (scan : Scan) (row : CoverageRow) (futureCutoffs : ℕ) : Scan :=
  let label := regimeLabel A row.features
  { rowCount := scan.rowCount + 1
    markets := insert row.conditionId scan.markets
    regimeRows := Function.update scan.regimeRows label.1 (scan.regimeRows label.1 + 1)
    regimeMarkets := Function.update scan.regimeMarkets label.1
      (insert row.conditionId (scan.regimeMarkets label.1))
    futureCutoffs
    predictorKeys := scan.predictorKeys ∪ predictorKeysOf row
    regimeViolations := scan.regimeViolations + label.2.toNat }

/-- The body of the loop. -/
def scanRow (scan : Scan) (row : CoverageRow) : Outcome Scan := do
  let futureCutoffs ← countFuture scan.futureCutoffs row
  .ok (scan.add A row futureCutoffs)

/-- `build_v4_forward_coverage_summary`; `fetch` is the order in which a query without `order_by`
returns its rows. -/
def buildV4ForwardCoverageSummary (fetch : List CoverageRow → List CoverageRow)
    (table : List CoverageRow) (epochStart epochEnd : Option Timestamp) :
    Outcome CoverageSummary := do
  checkEpoch epochStart epochEnd
  let scan ← (fetch (inEpoch table epochStart epochEnd)).foldlM (scanRow A) Scan.start
  .ok
    { rowCount := scan.rowCount
      marketCount := scan.markets.card
      regime := Regime.all.map fun regime =>
        (regime, ⟨scan.regimeRows regime, (scan.regimeMarkets regime).card⟩)
      futureCutoffViolationCount := scan.futureCutoffs
      polymarketPredictorKeyCount := scan.predictorKeys.card
      regimeInvariantViolationCount := scan.regimeViolations }

/-- The fields of the report that the summary has too. -/
def CoverageReport.shared (report : CoverageReport F) : CoverageSummary where
  rowCount := report.rowCount
  marketCount := report.marketCount
  regime := report.regime
  futureCutoffViolationCount := report.futureCutoffViolationCount
  polymarketPredictorKeyCount := report.polymarketPredictorKeyCount
  regimeInvariantViolationCount := report.regimeInvariantViolationCount
  policySelected := report.policySelected
  trainingRun := report.trainingRun
  automaticPromotion := report.automaticPromotion

/-! ## Cutoffs in the future -/

/-- Reading a timestamp raises only what a time outside the years raises. -/
theorem parseTimestamp_cases (value : Json) :
    (∃ time, parseTimestamp value = .ok time) ∨ parseTimestamp value = .error outOfRange := by
  unfold parseTimestamp
  split
  · split_ifs
    · exact .inl ⟨_, rfl⟩
    · split
      · exact .inl ⟨_, rfl⟩
      · split
        · exact .inl ⟨_, rfl⟩
        · split_ifs
          · exact .inl ⟨_, rfl⟩
          · exact .inr rfl
  · exact .inl ⟨_, rfl⟩

/-- The step of `countFuture` raises `outOfRange`, or adds what does not depend on the count. -/
theorem countFuture_cases (row : CoverageRow) :
    (∃ k, ∀ count, countFuture count row = .ok (count + k)) ∨
      ∀ count, countFuture count row = .error outOfRange := by
  unfold countFuture
  induction row.sourceCutoffs with
  | nil => exact .inl ⟨0, fun count => rfl⟩
  | cons entry entries ih =>
    rcases parseTimestamp_cases entry.2 with ⟨cutoff, hcutoff⟩ | hcutoff
    · rcases ih with ⟨k, hk⟩ | herror
      · by_cases hfuture : (cutoff.any fun cutoff => row.featureAt < cutoff) = true
        · refine .inl ⟨k + 1, fun count => ?_⟩
          rw [List.foldlM_cons, hcutoff, ok_bind, if_pos hfuture, ok_bind, hk]
          congr 1
          omega
        · refine .inl ⟨k, fun count => ?_⟩
          rw [List.foldlM_cons, hcutoff, ok_bind, if_neg hfuture, ok_bind, hk]
      · refine .inr fun count => ?_
        rw [List.foldlM_cons, hcutoff, ok_bind, ok_bind, herror]
    · refine .inr fun count => ?_
      rw [List.foldlM_cons, hcutoff]
      rfl

/-- Two rows may be counted in either order. -/
theorem countFuture_comm (count : Outcome ℕ) (a b : CoverageRow) :
    ((count >>= fun count => countFuture count a) >>= fun count => countFuture count b) =
      (count >>= fun count => countFuture count b) >>= fun count => countFuture count a := by
  cases count with
  | error raised => rfl
  | ok count =>
    simp only [ok_bind]
    rcases countFuture_cases a with ⟨k, ha⟩ | ha <;> rcases countFuture_cases b with ⟨l, hb⟩ | hb
    · rw [ha, hb, ok_bind, ok_bind, ha, hb, Nat.add_right_comm]
    · rw [ha, hb, ok_bind, hb, error_bind]
    · rw [ha, hb, ok_bind, ha, error_bind]
    · rw [ha, hb, error_bind, error_bind]

/-- The count of all rows, or what it raises, does not depend on their order. -/
theorem countFuture_perm {rows rows' : List CoverageRow} (h : rows.Perm rows') (count : ℕ) :
    rows.foldlM countFuture count = rows'.foldlM countFuture count := by
  rw [List.foldlM_eq_foldl, List.foldlM_eq_foldl]
  exact h.foldl_eq' (fun a _ b _ count => countFuture_comm count a b) _

/-- Every cutoff of the row is read. -/
def Readable (row : CoverageRow) : Prop :=
  ∀ entry ∈ row.sourceCutoffs, ∃ time, parseTimestamp entry.2 = .ok time

theorem readable_of_countFuture {row : CoverageRow} {count count' : ℕ}
    (h : countFuture count row = .ok count') : Readable row := by
  unfold countFuture at h
  unfold Readable
  generalize row.sourceCutoffs = cutoffs at h ⊢
  induction cutoffs generalizing count with
  | nil => simp
  | cons entry entries ih =>
    rw [List.foldlM_cons] at h
    obtain ⟨between, hfirst, hrest⟩ := bind_eq_ok.mp h
    obtain ⟨time, htime, _⟩ := bind_eq_ok.mp hfirst
    intro other hother
    rcases List.mem_cons.mp hother with rfl | hother
    · exact ⟨time, htime⟩
    · exact ih hrest other hother

theorem readable_of_foldlM {rows : List CoverageRow} {count total : ℕ}
    (h : rows.foldlM countFuture count = .ok total) : ∀ row ∈ rows, Readable row := by
  induction rows generalizing count with
  | nil => simp
  | cons row rows ih =>
    rw [List.foldlM_cons] at h
    obtain ⟨between, hfirst, hrest⟩ := bind_eq_ok.mp h
    intro other hother
    rcases List.mem_cons.mp hother with rfl | hother
    · exact readable_of_countFuture hfirst
    · exact ih hrest other hother

/-! ## What else the report computes does not raise -/

theorem exists_mapM {α β : Type} {f : α → Outcome β} {l : List α}
    (h : ∀ a ∈ l, ∃ b, f a = .ok b) : ∃ r, l.mapM f = .ok r := by
  induction l with
  | nil => exact ⟨[], rfl⟩
  | cons a l ih =>
    obtain ⟨b, hb⟩ := h a (by simp)
    obtain ⟨r, hr⟩ := ih fun a ha => h a (by simp [ha])
    refine ⟨b :: r, ?_⟩
    rw [List.mapM_cons, hb, hr]
    rfl

theorem Readable.get {row : CoverageRow} (h : Readable row) (key : String) :
    ∃ time, parseTimestamp (row.sourceCutoffs.get key) = .ok time := by
  unfold Dict.get
  cases hlookup : row.sourceCutoffs.lookup key with
  | none => exact ⟨none, rfl⟩
  | some value =>
    have hmem : (key, value) ∈ row.sourceCutoffs := by
      rw [List.lookup_eq_some_iff] at hlookup
      obtain ⟨before, after, heq, _⟩ := hlookup
      rw [heq]
      simp
    exact h _ hmem

theorem availabilityReport_ok {rows : List CoverageRow} (h : ∀ row ∈ rows, Readable row)
    (missingKey staleKey cutoffKey : String) :
    ∃ report, availabilityReport A rows missingKey staleKey cutoffKey = .ok report := by
  have hcutoffs : ∃ cutoffs, (rows.mapM fun row => do
      let cutoff ← parseTimestamp (row.sourceCutoffs.get cutoffKey)
      .ok (cutoff.map fun cutoff => A.totalSeconds (row.featureAt - cutoff))) =
        (.ok cutoffs : Outcome (List (Option F))) := by
    refine exists_mapM fun row hrow => ?_
    obtain ⟨time, htime⟩ := (h row hrow).get cutoffKey
    exact ⟨_, by rw [htime]; rfl⟩
  obtain ⟨cutoffs, hcutoffs⟩ := hcutoffs
  unfold availabilityReport
  rw [hcutoffs]
  exact ⟨_, rfl⟩

theorem sourceReport_ok {rows : List CoverageRow} (h : ∀ row ∈ rows, Readable row) (name : String) :
    ∃ report, sourceReport A rows name = .ok report := by
  unfold sourceReport
  obtain ⟨current, hcurrent⟩ := availabilityReport_ok A h (name ++ "_current_missing")
    (name ++ "_current_stale") (name ++ "_current_state")
  rw [hcurrent, ok_bind]
  refine Exists.imp (fun report hreport => hreport) ?_
  have htrailing := exists_mapM (l := ["5m", "15m", "60m"]) (f := fun horizon => do
    let state := name ++ "_regime_trailing_" ++ horizon
    let report ← availabilityReport A rows (state ++ "_missing") (state ++ "_stale") (state ++ "_state")
    .ok ("trailing_" ++ horizon, report)) (by
      intro horizon _
      obtain ⟨report, hreport⟩ := availabilityReport_ok A h
        (name ++ "_regime_trailing_" ++ horizon ++ "_missing")
        (name ++ "_regime_trailing_" ++ horizon ++ "_stale")
        (name ++ "_regime_trailing_" ++ horizon ++ "_state")
      exact ⟨_, by simp only [hreport]; rfl⟩)
  obtain ⟨trailing, htrailing⟩ := htrailing
  rw [htrailing]
  exact ⟨_, rfl⟩

theorem canonicalizeEntries_json (floats : Floats F) (d : Dict) :
    canonicalizeEntries floats (d.map fun entry => (entry.1, .json entry.2)) =
      .ok (d.map fun entry => (entry.1, .json entry.2)) := by
  induction d with
  | nil => rfl
  | cons entry d ih =>
    rw [List.map_cons, canonicalizeEntries, ih]
    rfl

theorem canonicalize_descriptor (floats : Floats F) (row : CoverageRow) :
    ∃ value, canonicalize floats (coverageDescriptor row) = .ok value := by
  unfold coverageDescriptor
  simp only [canonicalize, canonicalizeEntries, canonicalizeEntries_json, ok_bind]
  exact ⟨_, rfl⟩

theorem canonicalizeItems_descriptors (floats : Floats F) (rows : List CoverageRow) :
    ∃ values, canonicalizeItems floats (rows.map coverageDescriptor) = .ok values := by
  induction rows with
  | nil => exact ⟨[], rfl⟩
  | cons row rows ih =>
    obtain ⟨value, hvalue⟩ := canonicalize_descriptor floats row
    obtain ⟨values, hvalues⟩ := ih
    refine ⟨value :: values, ?_⟩
    rw [List.map_cons, canonicalizeItems, hvalue, hvalues]
    rfl

theorem coverageHash_ok (rows : List CoverageRow) : ∃ hash, coverageHash A rows = .ok hash := by
  unfold coverageHash canonicalHash
  rw [canonicalize]
  obtain ⟨values, hvalues⟩ := canonicalizeItems_descriptors A.toFloats
    (rows.insertionSort fun a b => descriptorKey a ≤ descriptorKey b)
  rw [hvalues]
  exact ⟨_, rfl⟩

/-! ## Groups -/

/-- The rows of a regime. -/
def ofRegime (regime : Regime) (rows : List CoverageRow) : List CoverageRow :=
  rows.filter fun row => (regimeLabel A row.features).1 = regime

/-- The rows the flags of which name no single regime. -/
def violating (rows : List CoverageRow) : List CoverageRow :=
  rows.filter fun row => (regimeLabel A row.features).2

theorem ofRegime_cons (regime : Regime) (row : CoverageRow) (rows : List CoverageRow) :
    ofRegime A regime (row :: rows) =
      if (regimeLabel A row.features).1 = regime then row :: ofRegime A regime rows
      else ofRegime A regime rows := by
  unfold ofRegime
  rw [List.filter_cons]
  simp only [decide_eq_true_eq]

theorem violating_cons (row : CoverageRow) (rows : List CoverageRow) :
    (violating A (row :: rows)).length =
      (regimeLabel A row.features).2.toNat + (violating A rows).length := by
  unfold violating
  rw [List.filter_cons]
  cases (regimeLabel A row.features).2 with
  | false => simp
  | true =>
    simp only [↓reduceIte, List.length_cons, Bool.toNat_true]
    omega

/-- `_regime_report` groups the rows by their regime, in the order they come in. -/
theorem groupRegimes_eq (rows : List CoverageRow) :
    groupRegimes A rows = ⟨fun regime => ofRegime A regime rows, (violating A rows).length⟩ := by
  have hgroups : ∀ before : RegimeGroups, rows.foldl (groupRow A) before =
      ⟨fun regime => before.grouped regime ++ ofRegime A regime rows,
        before.invariantViolations + (violating A rows).length⟩ := by
    induction rows with
    | nil =>
      intro before
      simp [ofRegime, violating]
    | cons row rows ih =>
      intro before
      rw [List.foldl_cons, ih]
      unfold groupRow
      dsimp only
      congr 1
      · funext regime
        by_cases hregime : (regimeLabel A row.features).1 = regime
        · subst hregime
          rw [ofRegime_cons, if_pos rfl, Function.update_self, List.append_assoc,
            List.singleton_append]
        · rw [ofRegime_cons, if_neg hregime, Function.update_of_ne (Ne.symm hregime)]
      · rw [violating_cons]
        omega
  have hall := hgroups ⟨fun _ => [], 0⟩
  simp only [List.nil_append, Nat.zero_add] at hall
  exact hall

theorem marketsOf_cons (row : CoverageRow) (rows : List CoverageRow) :
    marketsOf (row :: rows) = insert row.conditionId (marketsOf rows) := by
  simp [marketsOf]

theorem mem_foldl_keys (rows : List CoverageRow) (keys : Finset String) (key : String) :
    key ∈ rows.foldl (fun keys row => keys ∪ predictorKeysOf row) keys ↔
      key ∈ keys ∨ ∃ row ∈ rows, key ∈ predictorKeysOf row := by
  induction rows generalizing keys with
  | nil => simp
  | cons row rows ih =>
    rw [List.foldl_cons, ih]
    simp only [Finset.mem_union, List.mem_cons, exists_eq_or_imp]
    exact or_assoc

/-! ## The single pass -/

/-- What the report counts in several passes, on top of what a pass had collected. -/
def Scan.after (scan : Scan) (rows : List CoverageRow) (futureCutoffs : ℕ) : Scan where
  rowCount := scan.rowCount + rows.length
  markets := scan.markets ∪ marketsOf rows
  regimeRows regime := scan.regimeRows regime + (ofRegime A regime rows).length
  regimeMarkets regime := scan.regimeMarkets regime ∪ marketsOf (ofRegime A regime rows)
  futureCutoffs
  predictorKeys := rows.foldl (fun keys row => keys ∪ predictorKeysOf row) scan.predictorKeys
  regimeViolations := scan.regimeViolations + (violating A rows).length

/-- One pass collects what the report counts in several. -/
theorem scanRows_eq (rows : List CoverageRow) (scan : Scan) :
    rows.foldlM (scanRow A) scan =
      (rows.foldlM countFuture scan.futureCutoffs).map (scan.after A rows) := by
  induction rows generalizing scan with
  | nil => simp [Scan.after, ofRegime, violating, marketsOf, pure, Except.pure, Except.map]
  | cons row rows ih =>
    rw [List.foldlM_cons, List.foldlM_cons, scanRow]
    cases hcount : countFuture scan.futureCutoffs row with
    | error raised => rfl
    | ok count =>
      simp only [ok_bind]
      rw [ih]
      congr 1
      funext futureCutoffs
      unfold Scan.after Scan.add
      dsimp only
      congr 1
      · rw [List.length_cons]
        omega
      · rw [marketsOf_cons, Finset.insert_union, Finset.union_insert]
      · funext regime
        by_cases h : (regimeLabel A row.features).1 = regime
        · subst h
          rw [ofRegime_cons, if_pos rfl, Function.update_self, List.length_cons]
          omega
        · rw [ofRegime_cons, if_neg h, Function.update_of_ne (Ne.symm h)]
      · funext regime
        by_cases h : (regimeLabel A row.features).1 = regime
        · subst h
          rw [ofRegime_cons, if_pos rfl, Function.update_self, marketsOf_cons, Finset.insert_union,
            Finset.union_insert]
        · rw [ofRegime_cons, if_neg h, Function.update_of_ne (Ne.symm h)]
      · rw [violating_cons]
        omega

/-! ## The agreement -/

theorem marketsOf_perm {rows rows' : List CoverageRow} (h : rows.Perm rows') :
    marketsOf rows = marketsOf rows' :=
  List.toFinset_eq_of_perm _ _ (h.map _)

theorem polymarketPredictorKeys_perm {rows rows' : List CoverageRow} (h : rows.Perm rows') :
    polymarketPredictorKeys rows = polymarketPredictorKeys rows' := by
  unfold polymarketPredictorKeys
  ext key
  rw [mem_foldl_keys, mem_foldl_keys]
  simp only [h.mem_iff]

/-- **The checks agree.**  For every table and every epoch, in whatever order the rows come, the summary
is what the report says in the fields both have; or both raise the same. -/
theorem forwardCoverageSummary_eq {fetch : List CoverageRow → List CoverageRow}
    (hfetch : ∀ rows, (fetch rows).Perm rows) (table : List CoverageRow)
    (epochStart epochEnd : Option Timestamp) :
    buildV4ForwardCoverageSummary A fetch table epochStart epochEnd =
      (buildV4CoverageReport A table epochStart epochEnd).map CoverageReport.shared := by
  unfold buildV4ForwardCoverageSummary buildV4CoverageReport
  cases checkEpoch epochStart epochEnd with
  | error raised => rfl
  | ok _ =>
    simp only [ok_bind]
    generalize hrows : (inEpoch table epochStart epochEnd).insertionSort
      (fun a b => rowKey a ≤ rowKey b) = rows
    have hperm : (fetch (inEpoch table epochStart epochEnd)).Perm rows := by
      rw [← hrows]
      exact (hfetch _).trans (List.perm_insertionSort _ _).symm
    rw [scanRows_eq, countFuture_perm hperm]
    show ((rows.foldlM countFuture 0).map _ >>= _) = _
    cases hfuture : rows.foldlM countFuture 0 with
    | error raised => rfl
    | ok futureCutoffs =>
      have hreadable := readable_of_foldlM hfuture
      obtain ⟨sources, hsources⟩ := exists_mapM (l := sourcePrefixes)
        (f := fun name => do .ok (name, ← sourceReport A rows name)) (by
          intro name _
          obtain ⟨report, hreport⟩ := sourceReport_ok A hreadable name
          exact ⟨_, by rw [hreport]; rfl⟩)
      obtain ⟨hash, hhash⟩ := coverageHash_ok A rows
      simp only [ok_bind, hsources, hhash]
      have hregime : ∀ regime, (ofRegime A regime (fetch (inEpoch table epochStart epochEnd))).Perm
          (ofRegime A regime rows) := fun regime => hperm.filter _
      simp only [Except.map, ok_bind, CoverageReport.shared, regimeReport, groupRegimes_eq, countRows,
        Scan.after, Scan.start, Nat.zero_add, Finset.empty_union]
      congr 2
      · exact hperm.length_eq
      · rw [marketsOf_perm hperm]
      · refine List.map_congr_left fun regime _ => ?_
        rw [(hregime regime).length_eq, marketsOf_perm (hregime regime)]
      · have hkeys := polymarketPredictorKeys_perm hperm
        unfold polymarketPredictorKeys at hkeys
        rw [hkeys]
        rfl
      · exact (hperm.filter _).length_eq

/-! ### An epoch of two rows -/

/-- Rational numbers for floats. -/
def sampleFloats : CoverageFloats ℚ where
  ofDecimal := Decimal.toRat
  ofInt n := n
  totalSeconds us := us / 1000000
  isFinite _ := true
  isPositive value := decide (0 < value)
  isNegative value := decide (value < 0)
  add := (· + ·)
  sub := (· - ·)
  div := (· / ·)
  log _ := none
  pstdev _ := 0
  digest _ := ""
  mul := (· * ·)
  neg value := -value
  exp _ := 1
  lt a b := decide (a < b)
  le a b := decide (a ≤ b)
  same a b := decide (a = b)
  trunc := Rat.floor
  ofText _ := none
  overflows _ := false
  ceil := Rat.ceil

/-- A row with a cutoff, the first flag of which is set as given. -/
def sampleRow (id : ℤ) (bull : ℤ) (cutoff : String) : CoverageRow where
  id
  conditionId := "m"
  marketStartAt := 0
  featureAt := 60000000
  featureOffsetSeconds := 60
  featureVersion := v4FeatureVersion
  features := [("regime_bull", .int bull), ("regime_bear", .int 0),
    ("regime_sideways_mixed", .int 0), ("PM_up", .null)]
  missingFlags := []
  sourceCutoffs := [("coinbase_current_state", .str cutoff)]
  inputFingerprint := ""
  featureHash := ""

theorem forwardCoverageSummary_eq_sample :
    (buildV4CoverageReport sampleFloats
      [sampleRow 1 1 "1970-01-01T00:00:30Z", sampleRow 2 0 "1970-01-01T00:01:30Z"] (some 0) none).map
      CoverageReport.shared =
      .ok
        { rowCount := 2
          marketCount := 1
          regime := [(.bull, ⟨1, 1⟩), (.bear, ⟨0, 0⟩), (.sidewaysMixed, ⟨0, 0⟩), (.unknown, ⟨1, 1⟩)]
          futureCutoffViolationCount := 1
          polymarketPredictorKeyCount := 1
          regimeInvariantViolationCount := 1 } := by
  rw [← forwardCoverageSummary_eq sampleFloats List.reverse_perm]
  decide +kernel

end BpEngine.Features.Coverage
