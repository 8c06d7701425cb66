import BpEngine.Labels.Parsing
import BpEngine.PaperLedger.Evaluation

/-!
# The generation of labels

`labels/service.py`, the store of `labels/repository.py` with the generation times, and the store of
market snapshots of `storage/historical.py`.

* `storeSnapshot` appends a snapshot unless the market has one with the same payload digest.
* `generateLabels` scans the snapshots of a window (`scanRow`), takes the earliest resolved snapshot
  of each market (`earliest`) and stores its label (`labelCondition`).
-/

namespace BpEngine.Labels

open BpEngine.PaperLedger

/-! ## Snapshots -/

/-- `PolymarketMarketSnapshot`. -/
structure PolymarketMarketSnapshot where
  conditionId : String
  gammaMarketId : String
  slug : String
  downloadedAt : Timestamp
  payloadSha256 : String
  payload : Dict

/-- A row of `polymarket_market_snapshots`. -/
structure SnapshotRow extends PolymarketMarketSnapshot where
  id : ℕ

/-- `store_polymarket_market_snapshot`; `id` is the id the database gives a new row. -/
def storeSnapshot (rows : List SnapshotRow) (id : ℕ) (snapshot : PolymarketMarketSnapshot) :
    List SnapshotRow × Bool :=
  if rows.any fun row => row.conditionId = snapshot.conditionId &&
      row.payloadSha256 = snapshot.payloadSha256 then (rows, false)
  else (rows ++ [⟨snapshot, id⟩], true)

/-! ## Stored labels -/

/-- A row of `market_labels`. -/
structure LabelRow where
  label : MarketLabel
  generatedAt : Timestamp
deriving DecidableEq

/-- `MarketLabelRepository.store`, with the generation time. -/
def storeLabelRow (rows : List LabelRow) (row : LabelRow) : Outcome (List LabelRow × Bool) := do
  validateLabel row.label
  match rows.find? fun other => other.label.conditionId = row.label.conditionId &&
      other.label.labelVersion = row.label.labelVersion with
  | none => .ok (rows ++ [{ row with label := row.label.written }], true)
  | some existing =>
    require (row.label.same existing.label = true) .labelConflict
      ("conflicting label for condition=" ++ row.label.conditionId ++ " version=" ++
        row.label.labelVersion)
    .ok (rows, false)

/-! ## One call -/

/-- The arguments of `generate_labels`. -/
structure LabelCall where
  start : Timestamp
  finish : Timestamp
  generatedAt : Timestamp
  conditionIds : Option (List String) := none

/-- The rows that a call selects. -/
def LabelCall.selects (call : LabelCall) (row : SnapshotRow) : Bool :=
  match call.conditionIds with
  | none => true
  | some conditionIds => row.conditionId ∈ conditionIds

/-- The market starts inside the window of the call. -/
def LabelCall.Covers (call : LabelCall) (instant : Timestamp) : Prop :=
  call.start ≤ instant ∧ instant < call.finish

instance (call : LabelCall) (instant : Timestamp) : Decidable (call.Covers instant) :=
  inferInstanceAs (Decidable (_ ∧ _))

/-- `ORDER BY condition_id, downloaded_at, id`. -/
def rowFirst (a b : SnapshotRow) : Prop :=
  a.conditionId < b.conditionId ∨ a.conditionId = b.conditionId ∧
    (a.downloadedAt < b.downloadedAt ∨ a.downloadedAt = b.downloadedAt ∧ a.id ≤ b.id)

instance : DecidableRel rowFirst := fun _ _ => inferInstanceAs (Decidable (_ ∨ _ ∧ (_ ∨ _ ∧ _)))

/-- `_ResolvedSnapshot`. -/
structure ResolvedSnapshot where
  rowId : ℕ
  downloadedAt : Timestamp
  payloadSha256 : String
  market : PolymarketMarket
deriving DecidableEq

/-- What the scan has found: the markets considered, and the resolved snapshots of all of them. -/
structure Scan where
  considered : List String := []
  eligible : List ResolvedSnapshot := []

/-- One row of the scan. -/
def scanRow (T : GammaText) (call : LabelCall) (scan : Scan) (row : SnapshotRow) :
    Outcome Scan := do
  let market ← parseGammaMarket T row.payload
  if call.Covers market.windowStartAt then
    let considered := scan.considered ++ [market.conditionId]
    require (row.conditionId = market.conditionId ∧ row.slug = market.slug ∧
      row.gammaMarketId = market.gammaMarketId) .labelSourceConflict
      ("snapshot envelope does not match parsed market for condition=" ++ market.conditionId)
    require (¬ (market.resolvedOutcome.isSome = true ∧ row.downloadedAt < market.windowEndAt))
      .labelLeakageError
      ("resolved snapshot observed before market end for condition=" ++ market.conditionId)
    let resolved : ResolvedSnapshot := ⟨row.id, row.downloadedAt, row.payloadSha256, market⟩
    if market.closed = false ∨ market.resolvedOutcome = none then .ok { scan with considered }
    else .ok { considered, eligible := scan.eligible ++ [resolved] }
  else .ok scan

/-- The scan of the selected rows. -/
def scanRows (T : GammaText) (call : LabelCall) : List SnapshotRow → Scan → Outcome Scan
  | [], scan => .ok scan
  | row :: rows, scan => do
    let scan ← scanRow T call scan row
    scanRows T call rows scan

/-- The tuple that `_resolution_semantics` compares. -/
structure ResolutionSemantics where
  gammaMarketId : String
  slug : String
  horizonSeconds : ℤ
  windowStartAt : Timestamp
  windowEndAt : Timestamp
  resolvedOutcome : Option String
  resolutionSource : String
  rulesHash : String
deriving DecidableEq

/-- `_resolution_semantics`. -/
def resolutionSemantics (market : PolymarketMarket) : ResolutionSemantics where
  gammaMarketId := market.gammaMarketId
  slug := market.slug
  horizonSeconds := market.horizonSeconds
  windowStartAt := market.windowStartAt
  windowEndAt := market.windowEndAt
  resolvedOutcome := market.resolvedOutcome
  resolutionSource := market.resolutionSource
  rulesHash := market.rulesHash

/-- The order of the snapshots of a market: by their time, then by their row. -/
def ResolvedSnapshot.before (a b : ResolvedSnapshot) : Prop :=
  a.downloadedAt < b.downloadedAt ∨ a.downloadedAt = b.downloadedAt ∧ a.rowId < b.rowId

instance (a b : ResolvedSnapshot) : Decidable (a.before b) :=
  inferInstanceAs (Decidable (_ ∨ _ ∧ _))

/-- `min(candidates, key=lambda item: (item.downloaded_at, item.row_id))`. -/
def earliest (first : ResolvedSnapshot) : List ResolvedSnapshot → ResolvedSnapshot
  | [] => first
  | item :: items => earliest (if item.before first then item else first) items

/-- `LABEL_SOURCE`. -/
def labelSource : String := "polymarket_gamma_snapshot"

/-- The label of a resolved snapshot. -/
def labelOf (canonical : ResolvedSnapshot) : MarketLabel where
  conditionId := canonical.market.conditionId
  gammaMarketId := canonical.market.gammaMarketId
  slug := canonical.market.slug
  horizonSeconds := canonical.market.horizonSeconds
  marketStartAt := canonical.market.windowStartAt
  marketEndAt := canonical.market.windowEndAt
  officialOutcome := orEmpty canonical.market.resolvedOutcome
  startReference := none
  endReference := none
  resolutionSource := canonical.market.resolutionSource
  rulesHash := canonical.market.rulesHash
  labelSource := labelSource
  labelVersion := officialLabelVersion
  sourceSnapshotSha256 := canonical.payloadSha256
  sourceObservedAt := canonical.downloadedAt

/-- `LabelGenerationStats`. -/
structure LabelGenerationStats where
  inserted : ℕ := 0
  existing : ℕ := 0
  skipped : ℕ := 0
  conditionsConsidered : ℕ := 0
deriving DecidableEq, Repr

/-- The labels and the counts so far. -/
structure Progress where
  labels : List LabelRow
  stats : LabelGenerationStats := {}

/-- The label of one market. -/
def labelCondition (scan : Scan) (generatedAt : Timestamp) (progress : Progress)
    (conditionId : String) : Outcome Progress := do
  match scan.eligible.filter (·.market.conditionId = conditionId) with
  | [] => .ok { progress with stats.skipped := progress.stats.skipped + 1 }
  | candidate :: candidates =>
    let canonical := earliest candidate candidates
    require (∀ other ∈ candidate :: candidates,
      resolutionSemantics other.market = resolutionSemantics canonical.market) .labelSourceConflict
      ("conflicting resolved snapshots for condition=" ++ conditionId)
    let (labels, created) ← storeLabelRow progress.labels ⟨labelOf canonical, generatedAt⟩
    if created then .ok ⟨labels, { progress.stats with inserted := progress.stats.inserted + 1 }⟩
    else .ok ⟨labels, { progress.stats with existing := progress.stats.existing + 1 }⟩

/-- The labels of the markets, one after the other. -/
def labelConditions (scan : Scan) (generatedAt : Timestamp) :
    List String → Progress → Outcome Progress
  | [], progress => .ok progress
  | conditionId :: conditionIds, progress => do
    let progress ← labelCondition scan generatedAt progress conditionId
    labelConditions scan generatedAt conditionIds progress

/-- The identifiers of a scope are not blank, and there is one. -/
def scopeOk (conditionIds : Option (List String)) : Prop :=
  match conditionIds with
  | none => True
  | some conditionIds => conditionIds ≠ [] ∧ ∀ conditionId ∈ conditionIds, strip conditionId ≠ ""

instance (conditionIds : Option (List String)) : Decidable (scopeOk conditionIds) :=
  match conditionIds with
  | none => isTrue trivial
  | some conditionIds => inferInstanceAs
      (Decidable (conditionIds ≠ [] ∧ ∀ conditionId ∈ conditionIds, strip conditionId ≠ ""))

/-- `generate_labels` on the snapshots and the labels of a database. -/
def generateLabels (T : GammaText) (snapshots : List SnapshotRow) (labels : List LabelRow)
    (call : LabelCall) : Outcome (List LabelRow × LabelGenerationStats) := do
  require (call.start < call.finish) .valueError "start must be before end"
  require (scopeOk call.conditionIds) .valueError
    "condition_ids must be non-empty condition identifiers"
  let scan ← scanRows T call ((snapshots.filter call.selects).insertionSort rowFirst) {}
  let considered := scan.considered.dedup
  let progress ← labelConditions scan call.generatedAt
    (considered.insertionSort (· ≤ ·)) { labels }
  .ok (progress.labels, { progress.stats with conditionsConsidered := considered.length })

end BpEngine.Labels
