import BpEngine.Execution.Documents

/-!
# Raw storage

The relations `raw_market_events` and `raw_event_dedupe` in their partitioned form, after
`storage/partitioned_raw.py` and `recorder/models.py`.

* Instants are microseconds since the epoch, in UTC; `floorHour` is the start of the hour.
* `RawEvent` is an event of the recorder, `RawRow` the event under its id, `DedupeClaim` a row of the
  ledger of dedupe keys.
* `RawPartition` is one hourly table.  Its rows are of its hour, which PostgreSQL checks on every
  insert, attached or not; the table's name is the hour it starts at.
* `RawStore` is the database: the hourly tables, the ledger, and the sequence of ids.
* `ensureHourPartitions` provides the tables of the hours to come.
-/

namespace BpEngine.Storage

/-! ## Hours -/

/-- One hour in microseconds. -/
def hour : ℤ := 3600000000

/-- `_floor_hour`. -/
def floorHour (t : ℤ) : ℤ := t / hour * hour

theorem floorHour_le (t : ℤ) : floorHour t ≤ t := by
  unfold floorHour hour
  omega

theorem lt_floorHour_add (t : ℤ) : t < floorHour t + hour := by
  unfold floorHour hour
  omega

theorem floorHour_mono {s t : ℤ} (h : s ≤ t) : floorHour s ≤ floorHour t := by
  unfold floorHour hour
  omega

@[simp] theorem floorHour_idem (t : ℤ) : floorHour (floorHour t) = floorHour t := by
  unfold floorHour hour
  omega

/-- The instants of an hour are the ones its start is the floor of. -/
theorem floorHour_eq_iff {s t : ℤ} (hs : floorHour s = s) :
    floorHour t = s ↔ s ≤ t ∧ t < s + hour := by
  unfold floorHour hour at *
  omega

/-! ## Events and rows -/

/-- `RawEvent`. -/
structure RawEvent where
  source : String
  stream : String
  instrument : String
  eventType : String
  sourceTimestamp : Option ℤ
  receivedAt : ℤ
  sequence : Option String
  marketId : Option String
  assetId : Option String
  payload : Dict
  dedupeKey : String

/-- The widths of the columns of the raw table. -/
def RawEvent.fits (event : RawEvent) : Bool :=
  event.source.length ≤ 32 && event.stream.length ≤ 64 && event.instrument.length ≤ 128 &&
    event.eventType.length ≤ 64 && event.sequence.all (·.length ≤ 128)

/-- A row of `raw_market_events`. -/
structure RawRow where
  id : ℕ
  event : RawEvent

namespace RawRow

/-- `row.received_at`. -/
def receivedAt (row : RawRow) : ℤ := row.event.receivedAt

/-- `row.dedupe_key`. -/
def dedupeKey (row : RawRow) : String := row.event.dedupeKey

end RawRow

/-- A row of `raw_event_dedupe`. -/
structure DedupeClaim where
  dedupeKey : String
  id : ℕ
  receivedAt : ℤ
deriving DecidableEq, Repr

/-- The claim a row was inserted under. -/
def RawRow.claim (row : RawRow) : DedupeClaim := ⟨row.dedupeKey, row.id, row.receivedAt⟩

/-! ## Partitions -/

/-- How an hourly table stands to its parent. -/
inductive Attachment where
  | attached
  | detachPending
  | detached
deriving DecidableEq, Repr

/-- `raw_market_events_YYYYMMDD_HH`: one hourly table. -/
structure RawPartition where
  startAt : ℤ
  attachment : Attachment := .attached
  rows : List RawRow := []
  bounded : ∀ row ∈ rows, floorHour row.receivedAt = startAt := by simp

namespace RawPartition

/-- The table with one row more. -/
def insert (partition : RawPartition) (row : RawRow)
    (h : floorHour row.receivedAt = partition.startAt) : RawPartition :=
  { partition with
    rows := partition.rows ++ [row]
    bounded := by
      intro r hr
      rcases List.mem_append.mp hr with hr | hr
      · exact partition.bounded r hr
      · rw [List.mem_singleton.mp hr]
        exact h }

/-- The table in another relation to its parent. -/
def setAttachment (partition : RawPartition) (attachment : Attachment) : RawPartition :=
  { partition with attachment }

@[simp] theorem insert_rows (partition : RawPartition) (row : RawRow)
    (h : floorHour row.receivedAt = partition.startAt) :
    (partition.insert row h).rows = partition.rows ++ [row] := rfl

/-- The table takes rows inserted through its parent: it is attached, or the inserting transaction
looked at the parent before the detach was marked. -/
def accepts (partition : RawPartition) (early : Bool) : Bool :=
  match partition.attachment with
  | .attached => true
  | .detachPending => early
  | .detached => false

end RawPartition

/-! ## The store -/

/-- The partitioned database.  `nextId` is what the sequence of ids gives next. -/
structure RawStore where
  partitions : List RawPartition := []
  dedupe : List DedupeClaim := []
  nextId : ℕ := 1

namespace RawStore

/-- `SELECT * FROM raw_market_events`: the rows of the attached tables. -/
def rawMarketEvents (store : RawStore) : List RawRow :=
  (store.partitions.filter (·.attachment = .attached)).flatMap RawPartition.rows

/-- The rows of every hourly table, attached or not. -/
def allRows (store : RawStore) : List RawRow := store.partitions.flatMap RawPartition.rows

/-- The hourly table of an hour. -/
def partition? (store : RawStore) (startAt : ℤ) : Option RawPartition :=
  store.partitions.find? (·.startAt = startAt)

end RawStore

/-- One hour of `ensure_hour_partitions`: a relation of that name is left as it is. -/
def ensureHour (partitions : List RawPartition) (startAt : ℤ) : List RawPartition :=
  if partitions.any (·.startAt = startAt) then partitions else partitions ++ [({ startAt } : RawPartition)]

/-- `ensure_hour_partitions`. -/
def ensureHourPartitions (partitions : List RawPartition) (startAt : ℤ) (hoursAhead : ℕ) :
    List RawPartition :=
  (List.range (hoursAhead + 1)).foldl
    (fun partitions (offset : ℕ) => ensureHour partitions (floorHour startAt + hour * offset))
    partitions

/-- `ensure_partitioned_raw_storage` of a database that is partitioned already. -/
def ensurePartitionedRawStorage (store : RawStore) (now : ℤ) : RawStore :=
  { store with partitions := ensureHourPartitions store.partitions now 2 }

end BpEngine.Storage
