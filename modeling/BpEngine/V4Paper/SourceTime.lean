import BpEngine.Features.V4
import BpEngine.Library.Batch
import BpEngine.Library.DecimalText
import BpEngine.Prospective.Edge
import BpEngine.Recorder.MarketState

/-!
# Prices by the time of their source

`V4SourceTimeReader` of `v4_paper/source_time_features.py`: the price of a venue at an instant is the
one of the raw event whose source time is closest to it, among the events that had arrived.

* `RawTable` is `raw_market_events`, one table or hourly ones; an hourly table may hang on its parent,
  be about to leave it, or be apart.
* `V4SourceTimeReader` remembers whether the table is partitioned, which hourly tables hang on it, and
  the rows it fetched ahead. A `Reading` is what a method does: it returns or raises, and leaves a reader.
* `candidateRows` finds the events by the rows fetched ahead, by the hourly tables or by one query;
  `prefetchCandidateRows` fetches ahead; `latestPrice` chooses.

Instants are aware, an age is in microseconds, and the limits are whole numbers of microseconds. A
reader is used with one engine. The ids of engines are left out of its memos.
-/

namespace BpEngine.V4Paper.SourceTime

open BpEngine.Execution
open BpEngine.Features (BtcStateObservation isBlank)
open BpEngine.Prospective (Arithmetic)
open BpEngine.Recorder (firstMapping lastMapping)
open BpEngine.Storage (RawPartition RawRow floorHour hour)

/-! ## The table -/

/-- `received_at` and `id`, the order of every query. -/
def position (row : RawRow) : Timestamp × ℕ := (row.receivedAt, row.id)

/-- The hourly tables. An hourly table has a row once, and an hour one table. -/
structure HourTables where
  partitions : List RawPartition
  starts : (partitions.map RawPartition.startAt).Nodup
  positions : ((partitions.flatMap RawPartition.rows).map position).Nodup

/-- `raw_market_events`. -/
inductive RawTable where
  | whole (rows : Relation RawRow RawRow.id)
  | hourly (tables : HourTables)

/-- `Connection`: what it is connected to. -/
structure Connection where
  postgresql : Bool
  table : RawTable

namespace RawTable

/-- `relkind == "p"`. -/
def isPartitioned : RawTable → Bool
  | .whole _ => false
  | .hourly _ => true

/-- The hourly table of the name of an hour. -/
def partition? (table : RawTable) (startAt : Timestamp) : Option RawPartition :=
  match table with
  | .whole _ => none
  | .hourly tables => tables.partitions.find? (·.startAt = startAt)

/-- `pg_inherits` has the hourly table; a table that is about to leave is still there. -/
def inherits (table : RawTable) (startAt : Timestamp) : Bool :=
  (table.partition? startAt).any (·.attachment ≠ .detached)

/-- What a query of the parent sees. -/
def rows : RawTable → List RawRow
  | .whole rows => rows.rows
  | .hourly tables =>
    (tables.partitions.filter (·.attachment = .attached)).flatMap RawPartition.rows

end RawTable

/-! ## Requests -/

/-- `_candidate_cache_key`. -/
structure CandidateKey where
  source : String
  stream : String
  instrument : String
  requestedAt : Timestamp
  tickerOnly : Bool
deriving DecidableEq

/-- The limits of a reader, which its constructor checks. -/
structure SourceLimits where
  maxSourceAge : ℤ := 2000000
  maxFutureSkew : ℤ := 1000000
  age_pos : 0 < maxSourceAge := by decide
  skew_nonneg : 0 ≤ maxFutureSkew := by decide

/-- `_QUERY_PADDING_SECONDS`. -/
def queryPadding : ℤ := 1000000

/-- `window`. -/
def SourceLimits.window (limits : SourceLimits) : ℤ :=
  limits.maxSourceAge + limits.maxFutureSkew + queryPadding

/-- `time + delta`. -/
def shift (time : Timestamp) (delta : ℤ) : Outcome Timestamp := do
  require (IsoTime.InRange (time + delta)) .overflowError "date value out of range"
  .ok (time + delta)

/-- The bounds of a query. -/
structure Bounds where
  receivedLower : Timestamp
  requested : Timestamp
  sourceLower : Timestamp
  sourceUpper : Timestamp

/-- The bounds of a request. -/
def SourceLimits.bounds (limits : SourceLimits) (requested : Timestamp) : Outcome Bounds := do
  let receivedLower ← shift requested (-limits.window)
  let sourceLower ← shift requested (-limits.maxSourceAge)
  let sourceUpper ← shift requested limits.maxFutureSkew
  .ok { receivedLower, requested, sourceLower, sourceUpper }

/-- The starts of the hours of a window. -/
def hoursBetween (lower upper : Timestamp) : List Timestamp :=
  (List.range ((floorHour upper - floorHour lower) / hour + 1).toNat).map fun (k : ℕ) =>
    floorHour lower + k * hour

/-- `_candidate_partition_names`; the loop also computes the hour after the last one. -/
def candidatePartitionNames (receivedLower receivedUpper : Timestamp) :
    Outcome (List Timestamp) := do
  require (floorHour receivedLower ≤ floorHour receivedUpper →
    IsoTime.InRange (floorHour receivedUpper + hour)) .overflowError "date value out of range"
  .ok (hoursBetween receivedLower receivedUpper)

/-- `text LIKE 'w1_w2_%'` of the words: a `_` is one character, a `%` any number of them. -/
def likeWords : List String → List Char → Bool
  | [], _ => true
  | word :: words, text =>
    word.toList.isPrefixOf text && decide (word.toList.length < text.length) &&
      likeWords words (text.drop (word.toList.length + 1))

/-- `LIKE`; other databases than PostgreSQL do not look at the case. -/
def like (postgresql : Bool) (words : List String) (text : String) : Bool :=
  likeWords words (if postgresql then text.toList else text.toList.map Char.toLower)

/-- `_postgres_event_clause`, and the same conditions of the query of the whole table. -/
def eventClause (postgresql : Bool) (source : String) (tickerOnly : Bool) :
    Outcome (String → Bool) :=
  if source = "coinbase" then
    .ok fun eventType => like postgresql ["ticker"] eventType ||
      (!tickerOnly && like postgresql ["market", "trades"] eventType)
  else if source = "bybit" then
    .ok fun eventType => eventType = "ticker" || (!tickerOnly && eventType = "trade")
  else raise .v4SourceTimeFeatureError ("unsupported V4 BTC source: " ++ source)

/-- The condition of every query. -/
def isCandidate (key : CandidateKey) (bounds : Bounds) (clause : String → Bool) (row : RawRow) :
    Bool :=
  row.event.source = key.source && row.event.stream = key.stream &&
    row.event.instrument = key.instrument && bounds.receivedLower ≤ row.receivedAt &&
    row.receivedAt ≤ bounds.requested &&
    row.event.sourceTimestamp.any (fun at_ => bounds.sourceLower ≤ at_ && at_ ≤ bounds.sourceUpper) &&
    clause row.event.eventType

/-- `ORDER BY received_at DESC, id DESC`, and the sort of the rows of several tables. -/
def newestFirst (rows : List RawRow) : List RawRow :=
  rows.insertionSort (Relation.newestFirst RawRow.receivedAt RawRow.id)

/-- What a query returns of some rows. -/
def selected (key : CandidateKey) (bounds : Bounds) (clause : String → Bool) (rows : List RawRow) :
    List RawRow :=
  newestFirst (rows.filter (isCandidate key bounds clause))

/-- The rows of an hourly table; there may be none of that name. -/
def partitionRows (connection : Connection) (startAt : Timestamp) : Outcome (List RawRow) :=
  match connection.table.partition? startAt with
  | none => raise .databaseError "relation does not exist"
  | some partition => .ok partition.rows

/-! ## The reader -/

/-- `V4SourceTimeReader`. -/
structure V4SourceTimeReader where
  limits : SourceLimits := {}
  postgresPartitionedRaw : Option Bool := none
  postgresAttachedPartitions : List (Timestamp × Bool) := []
  prefetchedCandidateRows : List (CandidateKey × List RawRow) := []

/-- What a method does with its reader: a method that raises leaves what it had remembered. -/
def Reading (α : Type) := V4SourceTimeReader → Outcome α × V4SourceTimeReader

namespace Reading

variable {α β : Type}

instance : Monad Reading where
  pure a := fun reader => (.ok a, reader)
  bind m f := fun reader =>
    match m reader with
    | (.ok a, after) => f a after
    | (.error raised, after) => (.error raised, after)

/-- The reader itself. -/
def get : Reading V4SourceTimeReader := fun reader => (.ok reader, reader)

def modify (f : V4SourceTimeReader → V4SourceTimeReader) : Reading Unit := fun reader =>
  (.ok (), f reader)

/-- What does not touch the reader. -/
def of (outcome : Outcome α) : Reading α := fun reader => (outcome, reader)

end Reading

/-- `_postgres_raw_is_partitioned`. -/
def postgresRawIsPartitioned (connection : Connection) : Reading Bool := fun reader =>
  match reader.postgresPartitionedRaw with
  | some cached => (.ok cached, reader)
  | none =>
    (.ok connection.table.isPartitioned,
      { reader with postgresPartitionedRaw := some connection.table.isPartitioned })

/-- `_postgres_refresh_attached_partitions`. -/
def postgresRefreshAttachedPartitions (connection : Connection) (names : List Timestamp) :
    Reading Unit :=
  Reading.modify fun reader =>
    { reader with
      postgresAttachedPartitions :=
        Batch.learn reader.postgresAttachedPartitions connection.table.inherits names }

/-- `self._postgres_attached_partitions[name]`, of a name that was refreshed. -/
def V4SourceTimeReader.isAttached (reader : V4SourceTimeReader) (name : Timestamp) : Bool :=
  reader.postgresAttachedPartitions.lookup name = some true

/-- `_postgres_partition_is_attached`. -/
def postgresPartitionIsAttached (connection : Connection) (name : Timestamp) : Reading Bool := do
  postgresRefreshAttachedPartitions connection [name]
  let reader ← Reading.get
  pure (reader.isAttached name)

/-- The query of one hourly table, if it is attached. -/
def hourRows (connection : Connection) (key : CandidateKey) (bounds : Bounds)
    (clause : String → Bool) (name : Timestamp) : Reading (List RawRow) := do
  if ← postgresPartitionIsAttached connection name then do
    let rows ← Reading.of (partitionRows connection name)
    pure (selected key bounds clause rows)
  else pure []

/-- `_postgres_candidate_rows`. -/
def postgresCandidateRows (connection : Connection) (key : CandidateKey) :
    Reading (List RawRow) := do
  let reader ← Reading.get
  let bounds ← Reading.of (reader.limits.bounds key.requestedAt)
  let clause ← Reading.of (eventClause true key.source key.tickerOnly)
  let names ← Reading.of (candidatePartitionNames bounds.receivedLower bounds.requested)
  let rows ← names.mapM (hourRows connection key bounds clause)
  pure (newestFirst rows.flatten)

/-- The query of the whole table, the last part of `_candidate_rows`. -/
def selectCandidateRows (connection : Connection) (limits : SourceLimits) (key : CandidateKey) :
    Outcome (List RawRow) := do
  let bounds ← limits.bounds key.requestedAt
  let clause ← eventClause connection.postgresql key.source key.tickerOnly
  .ok (selected key bounds clause connection.table.rows)

/-- `dialect.name == "postgresql" and self._postgres_raw_is_partitioned(connection)`. -/
def readsByHour (connection : Connection) : Reading Bool :=
  if connection.postgresql then postgresRawIsPartitioned connection else pure false

/-- `_candidate_rows`. -/
def candidateRows (connection : Connection) (key : CandidateKey) : Reading (List RawRow) := do
  let reader ← Reading.get
  match reader.prefetchedCandidateRows.lookup key with
  | some rows => pure rows
  | none =>
    if ← readsByHour connection then postgresCandidateRows connection key
    else Reading.of (selectCandidateRows connection reader.limits key)

/-! ### Fetching ahead -/

/-- What one statement of `prefetch_candidate_rows` is about. -/
structure GroupKey where
  source : String
  stream : String
  instrument : String
  tickerOnly : Bool
  name : Timestamp
deriving DecidableEq

/-- `group_key`. -/
def CandidateKey.group (key : CandidateKey) (name : Timestamp) : GroupKey :=
  ⟨key.source, key.stream, key.instrument, key.tickerOnly, name⟩

/-- The hours of a request. -/
def SourceLimits.namesOf (limits : SourceLimits) (key : CandidateKey) :
    Outcome (CandidateKey × List Timestamp) := do
  let lower ← shift key.requestedAt (-limits.window)
  let names ← candidatePartitionNames lower key.requestedAt
  .ok (key, names)

/-- One statement: the rows of every request of the group, each row with its request. The source numbers
the requests, which are distinct, and finds a request again by its number. -/
def fetchGroup (connection : Connection) (limits : SourceLimits)
    (group : GroupKey × List CandidateKey) : Outcome (List (CandidateKey × RawRow)) := do
  let clause ← eventClause true group.1.source group.1.tickerOnly
  let values ← group.2.mapM fun key => do
    let bounds ← limits.bounds key.requestedAt
    .ok (key, bounds)
  let rows ← partitionRows connection group.1.name
  .ok (values.flatMap fun value => (selected value.1 value.2 clause rows).map fun row => (value.1, row))

/-- The rows that were fetched for a request. -/
def rowsOf (key : CandidateKey) (fetched : List (CandidateKey × RawRow)) : List RawRow :=
  newestFirst ((fetched.filter fun item => item.1 = key).map Prod.snd)

/-- The requests that have a statement for an hourly table, each with that table. -/
def V4SourceTimeReader.requestGroups (reader : V4SourceTimeReader)
    (asked : List (CandidateKey × List Timestamp)) : List (GroupKey × CandidateKey) :=
  asked.flatMap fun entry =>
    (entry.2.filter reader.isAttached).map fun name => (entry.1.group name, entry.1)

/-- `prefetch_candidate_rows`, from where the table is known to be partitioned. -/
def prefetchPartitioned (connection : Connection) (requests : List CandidateKey) : Reading Unit := do
  let limits := (← Reading.get).limits
  let normalized := requests.eraseDups
  let asked ← Reading.of (normalized.mapM limits.namesOf)
  postgresRefreshAttachedPartitions connection (asked.flatMap Prod.snd)
  let reader ← Reading.get
  let fetched ← Reading.of
    ((Batch.grouped (reader.requestGroups asked)).mapM (fetchGroup connection limits))
  Reading.modify fun reader =>
    { reader with
      prefetchedCandidateRows := normalized.map fun key => (key, rowsOf key fetched.flatten) }

/-- `prefetch_candidate_rows`. -/
def prefetchCandidateRows (connection : Connection) (requests : List CandidateKey) :
    Reading Unit := do
  Reading.modify fun reader => { reader with prefetchedCandidateRows := [] }
  if requests = [] ∨ connection.postgresql = false then pure ()
  else if ← postgresRawIsPartitioned connection then prefetchPartitioned connection requests
  else pure ()

/-! ## Prices -/

/-- `_decimal`: a positive number. -/
def positiveDecimal (value : Json) : Option Decimal :=
  match value with
  | .bool _ => none
  | value =>
    if isBlank value then none
    else
      match decimalOfText value.text with
      | some (.finite number) => if number ≤ 0 then none else some number
      | _ => none

/-- `_coinbase_price`. -/
def coinbasePrice (row : RawRow) : Option Decimal :=
  match firstMapping (row.event.payload.get "events") with
  | none => none
  | some first =>
    if "ticker_".toList.isPrefixOf row.event.eventType.toList then
      (firstMapping (first.get "tickers")).bind fun ticker => positiveDecimal (ticker.get "price")
    else if "market_trades_".toList.isPrefixOf row.event.eventType.toList then
      (lastMapping (first.get "trades")).bind fun trade => positiveDecimal (trade.get "price")
    else none

/-- `_bybit_price`. -/
def bybitPrice (row : RawRow) : Option Decimal :=
  let data := row.event.payload.get "data"
  if row.event.eventType = "ticker" then
    data.mapping.bind fun ticker => positiveDecimal (ticker.get "lastPrice")
  else if row.event.eventType = "trade" then
    (lastMapping data).bind fun trade => positiveDecimal (trade.get "p")
  else none

/-- `_bybit_ticker_state`. -/
def bybitTickerState (row : RawRow) : Dict :=
  match (row.event.payload.get "data").mapping with
  | none => []
  | some data =>
    [("fundingRate", "funding_rate"), ("openInterest", "open_interest")].filterMap fun names =>
      let value := data.get names.1
      if isBlank value then none else some (names.2, .str value.text)

/-- `SourceTimeEventEvidence`; the ages are in microseconds. -/
structure SourceTimeEventEvidence where
  rowId : ℕ
  source : String
  stream : String
  instrument : String
  eventType : String
  requestedAt : Timestamp
  sourceAt : Timestamp
  receivedAt : Timestamp
  sourceAge : ℤ
  transportLag : ℤ
deriving DecidableEq

/-- `_evidence`; the queries leave out the rows without a source time. -/
def SourceLimits.evidence (limits : SourceLimits) (requested : Timestamp) (row : RawRow) :
    Option SourceTimeEventEvidence :=
  match row.event.sourceTimestamp with
  | none => none
  | some sourceAt =>
    let sourceAge := requested - sourceAt
    let transportLag := row.receivedAt - sourceAt
    if sourceAge < -limits.maxFutureSkew then none
    else if limits.maxSourceAge < sourceAge then none
    else if transportLag < -limits.maxFutureSkew then none
    else if requested < row.receivedAt then none
    else some
      { rowId := row.id
        source := row.event.source
        stream := row.event.stream
        instrument := row.event.instrument
        eventType := row.event.eventType
        requestedAt := requested
        sourceAt
        receivedAt := row.receivedAt
        sourceAge
        transportLag }

section Choice

variable {F : Type} (A : Arithmetic F)

/-- `_source_time_rank(a) < _source_time_rank(b)`: tuples are compared at their first difference. -/
def ranksBefore (a b : SourceTimeEventEvidence) : Bool :=
  let age (e : SourceTimeEventEvidence) : F := A.totalSeconds |e.sourceAge|
  let sourceAt (e : SourceTimeEventEvidence) : F := A.totalSeconds e.sourceAt
  let receivedAt (e : SourceTimeEventEvidence) : F := A.totalSeconds e.receivedAt
  if !A.same (age a) (age b) then A.lt (age a) (age b)
  else if !A.same (sourceAt a) (sourceAt b) then A.lt (sourceAt b) (sourceAt a)
  else if !A.same (receivedAt a) (receivedAt b) then A.lt (receivedAt b) (receivedAt a)
  else decide (b.rowId < a.rowId)

/-- `min(items, key=…)`: the first of the least. -/
def minBy {α : Type} (before : α → α → Bool) : List α → Option α
  | [] => none
  | first :: rest => some (rest.foldl (fun best item => if before item best then item else best) first)

/-- `price_candidates`. -/
def priceCandidates (limits : SourceLimits) (source : String) (requested : Timestamp)
    (rows : List RawRow) : List (SourceTimeEventEvidence × Decimal) :=
  rows.filterMap fun row =>
    (limits.evidence requested row).bind fun evidence =>
      (if source = "coinbase" then coinbasePrice row else bybitPrice row).map fun price =>
        (evidence, price)

/-- `ticker_candidates`. -/
def tickerCandidates (limits : SourceLimits) (requested : Timestamp) (rows : List RawRow) :
    List (RawRow × SourceTimeEventEvidence) :=
  rows.filterMap fun row => (limits.evidence requested row).map fun evidence => (row, evidence)

/-- What `latest_price` returns. -/
abbrev PriceRead := Option BtcStateObservation × List SourceTimeEventEvidence

/-- `BTCStateObservation` of the event that was chosen, with the ticker that was. -/
def observed (source stream instrument : String) (chosen : SourceTimeEventEvidence × Decimal)
    (ticker : Option (RawRow × SourceTimeEventEvidence)) : PriceRead :=
  let tickerState := match ticker with
    | none => []
    | some ticker => bybitTickerState ticker.1
  let tickerEvidence := match ticker with
    | none => []
    | some ticker => if ticker.2.rowId ≠ chosen.1.rowId then [ticker.2] else []
  (some
    { observation :=
        { row :=
            { id := chosen.1.rowId
              bucketAt := chosen.1.sourceAt
              stateKey := ""
              source
              stream
              instrument
              marketId := none
              assetId := none
              lastEventAt := chosen.1.sourceAt
              state := ("last_price", .str chosen.2.text) :: tickerState }
          fresh := true
          age := chosen.1.sourceAge }
      price := chosen.2 }, chosen.1 :: tickerEvidence)

/-- `latest_price`, of whatever finds the candidate rows. -/
def latestPriceFrom {m : Type → Type} [Monad m] (limits : SourceLimits)
    (rowsFor : CandidateKey → m (List RawRow)) (source stream instrument : String)
    (requested : Timestamp) (includeLinearTickerState : Bool) : m PriceRead := do
  let rows ← rowsFor ⟨source, stream, instrument, requested, false⟩
  match minBy (fun a b => ranksBefore A a.1 b.1) (priceCandidates limits source requested rows) with
  | none => pure (none, [])
  | some chosen =>
    if includeLinearTickerState then do
      let tickers ← rowsFor ⟨source, stream, instrument, requested, true⟩
      pure (observed source stream instrument chosen
        (minBy (fun a b => ranksBefore A a.2 b.2) (tickerCandidates limits requested tickers)))
    else pure (observed source stream instrument chosen none)

/-- `latest_price`. -/
def latestPrice (connection : Connection) (source stream instrument : String)
    (requested : Timestamp) (includeLinearTickerState : Bool) : Reading PriceRead := do
  let reader ← Reading.get
  latestPriceFrom A reader.limits (candidateRows connection) source stream instrument requested
    includeLinearTickerState

end Choice

end BpEngine.V4Paper.SourceTime
