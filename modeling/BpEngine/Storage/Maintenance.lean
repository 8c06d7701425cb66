import BpEngine.Library.Process
import BpEngine.Storage.Recorder

/-!
# The operations of the storage maintenance

What the storage maintenance works on, after `storage/maintenance.py`, `storage/partitioned_raw.py` and
`storage/recorder.py`: one operation for each transaction and each access to the archive directory.

* `World` is the database in its two modes, the directory and the clock.
* `Op` are the operations; `World.apply` says what each one does, `World.serve` how it is answered.
An export file holds rows; what it hashes to and its size are parameters (`StorageConfig`).  A file is
named by its interval, and a temporary file is no file of the directory.
-/

namespace BpEngine.Storage

/-! ## The archive directory -/

/-- `_archive_name`: a file is named by its interval. -/
structure ArchiveName where
  startAt : ℤ
  endAt : ℤ
deriving DecidableEq, Repr

/-- `ArchiveManifest`. -/
structure ArchiveManifest where
  archiveName : ArchiveName
  startAt : ℤ
  endAt : ℤ
  rowCount : ℕ
  compressedBytes : ℕ
  sha256 : String
deriving DecidableEq, Repr

/-- The files of a kind, by name. -/
abbrev Files (α : Type) := List (ArchiveName × α)

namespace Files

variable {α : Type}

/-- The file of a name. -/
def read (files : Files α) (name : ArchiveName) : Option α :=
  (files.find? (·.1 = name)).map Prod.snd

/-- `path.unlink()`. -/
def unlink (files : Files α) (name : ArchiveName) : Files α := files.filter (·.1 ≠ name)

/-- `os.replace(temporary, path)`. -/
def replace (files : Files α) (name : ArchiveName) (content : α) : Files α :=
  (name, content) :: unlink files name

theorem mem_of_read {files : Files α} {name : ArchiveName} {content : α}
    (h : read files name = some content) : (name, content) ∈ files := by
  obtain ⟨file, hfile, rfl⟩ := Option.map_eq_some_iff.mp h
  obtain rfl : file.1 = name := by simpa using List.find?_some hfile
  exact List.mem_of_find?_eq_some hfile

theorem read_replace (files : Files α) (name other : ArchiveName) (content : α) :
    read (replace files name content) other =
      if other = name then some content else read files other := by
  unfold read replace
  by_cases h : other = name
  · rw [if_pos h, List.find?_cons_of_pos (by simp [h])]
    rfl
  · rw [if_neg h, List.find?_cons_of_neg (by simpa using fun heq => h heq.symm), unlink,
      List.find?_filter]
    congr 2
    funext file
    by_cases hfile : file.1 = other <;> simp [hfile, h]

theorem read_unlink_eq_some {files : Files α} {name other : ArchiveName} {content : α}
    (h : read (unlink files name) other = some content) : read files other = some content := by
  unfold read unlink at *
  rw [List.find?_filter] at h
  by_cases hname : other = name
  · obtain ⟨file, hfile, -⟩ := Option.map_eq_some_iff.mp h
    have hfound := List.find?_some hfile
    simp [hname] at hfound
  · rw [← h]
    congr 2
    funext file
    by_cases hfile : file.1 = other <;> simp [hfile, hname]

theorem mem_unlink {files : Files α} {name : ArchiveName} {file : ArchiveName × α}
    (h : file ∈ unlink files name) : file ∈ files := (List.mem_filter.mp h).1

theorem mem_replace {files : Files α} {name : ArchiveName} {content : α}
    {file : ArchiveName × α} (h : file ∈ replace files name content) :
    file = (name, content) ∨ file ∈ files :=
  (List.mem_cons.mp h).imp_right mem_unlink

end Files

/-! ## The world -/

/-- `RawStorageMode`. -/
inductive RawStorageMode where
  | missing
  | legacy
  | partitioned
deriving DecidableEq, Repr

/-- `RawPartitionRetirementState`. -/
inductive RawPartitionRetirementState where
  | missing
  | attached
  | detachPending
  | detached
deriving DecidableEq, Repr

/-- The legacy table: one relation, its dedupe keys unique. -/
structure LegacyStore where
  rows : List RawRow := []
  nextId : ℕ := 1

/-- What the maintenance reads of a row of `market_state_1s`. -/
structure CompactRow where
  source : String
  stream : String
  bucketAt : ℤ
  lastEventAt : ℤ
deriving DecidableEq, Repr

/-- The database, the archive directory and the clock.  `runs` is the status of every recorded run. -/
structure World where
  mode : RawStorageMode
  legacy : LegacyStore := {}
  store : RawStore := {}
  compact : List CompactRow := []
  archives : Files (List RawRow) := []
  manifests : Files ArchiveManifest := []
  runs : List String := []
  clock : ℤ

/-- What is not modelled: the hash partition of a dedupe key, and the hash and the size of the file
that an export of rows is written to. -/
structure StorageConfig where
  route : String → ℕ
  sha256 : List RawRow → String
  compressedBytes : List RawRow → ℕ

/-- `_DEDUPE_PARTITIONS`. -/
def dedupePartitions : ℕ := 16

/-- The child of `raw_event_dedupe` that holds a key. -/
def StorageConfig.child (config : StorageConfig) (dedupeKey : String) : ℕ :=
  config.route dedupeKey % dedupePartitions

/-- `REQUIRED_COMPACT_FEEDS`. -/
def requiredCompactFeeds : List (String × String) :=
  [("bybit", "spot"), ("bybit", "linear"), ("coinbase", "spot"), ("polymarket", "market")]

/-- The receive time lies in the interval. -/
def within (startAt endAt : ℤ) (row : RawRow) : Bool :=
  startAt ≤ row.receivedAt && row.receivedAt < endAt

/-- `ORDER BY received_at, id`. -/
def inOrder (rows : List RawRow) : List RawRow :=
  rows.insertionSort fun a b =>
    a.receivedAt < b.receivedAt ∨ a.receivedAt = b.receivedAt ∧ a.id ≤ b.id

namespace World

/-- `SELECT * FROM raw_market_events`. -/
def rawMarketEvents (world : World) : List RawRow :=
  match world.mode with
  | .missing => []
  | .legacy => world.legacy.rows
  | .partitioned => world.store.rawMarketEvents

/-- `_compact_feeds_advanced`. -/
def compactFeedsAdvanced (world : World) (endAt : ℤ) : Bool :=
  requiredCompactFeeds.all fun feed =>
    match ((world.compact.filter fun row => row.source = feed.1 && row.stream = feed.2).map
      CompactRow.lastEventAt).max? with
    | none => false
    | some latest => !decide (latest ≤ endAt)

/-- `raw_partition_retirement_state`. -/
def retirementState (world : World) (startAt : ℤ) : RawPartitionRetirementState :=
  match world.store.partition? (floorHour startAt) with
  | none => .missing
  | some partition =>
    match partition.attachment with
    | .attached => .attached
    | .detachPending => .detachPending
    | .detached => .detached

/-- `_raw_interval_is_empty`. -/
def rawIntervalIsEmpty (world : World) (startAt endAt : ℤ) : Outcome Bool := do
  require (endAt = floorHour startAt + hour) .valueError
    "raw partition retirement requires exactly one UTC hour"
  match world.store.partition? (floorHour startAt) with
  | some partition => .ok partition.rows.isEmpty
  | none => .ok (!world.rawMarketEvents.any (within startAt endAt))

/-- The table of the hour in another relation to its parent. -/
def setAttachment (world : World) (startAt : ℤ) (attachment : Attachment) : World :=
  { world with
    store := { world.store with
      partitions := world.store.partitions.map fun partition =>
        if partition.startAt = floorHour startAt then partition.setAttachment attachment
        else partition } }

/-- The transaction that counts the rows of the detached table once more and drops it. -/
def recountAndDrop (world : World) (startAt : ℤ) (rowCount : ℕ) : Outcome World :=
  match world.store.partition? (floorHour startAt) with
  | none => raise .runtimeError "detached raw partition is missing before physical drop"
  | some partition => do
    require (partition.rows.length = rowCount) .archiveVerificationError
      "verified archive row count changed during concurrent detach"
    require (partition.attachment = .detached) .runtimeError
      "refusing to drop raw partition before concurrent detach completes"
    .ok { world with
      store := { world.store with
        partitions := world.store.partitions.filter (·.startAt ≠ floorHour startAt) } }

end World

/-! ## The batches -/

/-- The first `limit` rows of the interval.  This deletion is made in legacy mode alone. -/
def doomedRows (rows : List RawRow) (startAt endAt : ℤ) (limit : ℤ) : List RawRow :=
  (inOrder (rows.filter (within startAt endAt))).take limit.toNat

/-- `delete_raw_interval_batch`: the rows that are left. -/
def survivingRows (rows : List RawRow) (startAt endAt : ℤ) (limit : ℤ) : List RawRow :=
  rows.filter fun row => !(doomedRows rows startAt endAt limit).any (·.id = row.id)

/-- The claims of a child that were made in the interval. -/
def StorageConfig.claimsOf (config : StorageConfig) (dedupe : List DedupeClaim) (child : ℕ)
    (startAt endAt : ℤ) : List DedupeClaim :=
  dedupe.filter fun claim =>
    config.child claim.dedupeKey = child && (startAt ≤ claim.receivedAt && claim.receivedAt < endAt)

/-- The first `limit` of them, in the order of their receive times. -/
def StorageConfig.doomedClaims (config : StorageConfig) (dedupe : List DedupeClaim) (child : ℕ)
    (startAt endAt : ℤ) (limit : ℕ) : List DedupeClaim :=
  ((config.claimsOf dedupe child startAt endAt).insertionSort
    fun a b => a.receivedAt ≤ b.receivedAt).take limit

/-- The first `limit` rows of `market_state_1s` before the cutoff. -/
def doomedState (rows : List CompactRow) (cutoffAt : ℤ) (limit : ℤ) : List CompactRow :=
  ((rows.filter fun row => row.bucketAt < cutoffAt).insertionSort
    fun a b => a.bucketAt ≤ b.bucketAt).take limit.toNat

/-! ## The operations -/

/-- `disk_health(…)["status"]` and the status of the composite health. -/
inductive HealthStatus where
  | ok
  | warning
  | critical
deriving DecidableEq, Repr

/-- One transaction, one query outside a transaction, or one access to the archive directory. -/
inductive Op where
  | now
  | rawStorageMode
  | ensurePartitionedRawStorage (now : ℤ)
  | recordMaintenanceStart
  | recordMaintenanceFinish (runId : ℕ) (status : String)
  | globManifests
  | archiveExists (name : ArchiveName)
  | manifestExists (name : ArchiveName)
  | readManifest (name : ArchiveName)
  | readArchive (name : ArchiveName)
  | unlinkManifest (name : ArchiveName)
  | unlinkArchive (name : ArchiveName)
  | selectInterval (startAt endAt : ℤ)
  | replaceArchive (name : ArchiveName) (rows : List RawRow)
  | writeManifest (name : ArchiveName) (manifest : ArchiveManifest)
  | compactFeedsAdvanced (endAt : ℤ)
  | latestReceivedAt (startAt endAt : ℤ)
  | laterRaw (endAt : ℤ)
  | rawPartitionRowCount (startAt : ℤ)
  | retirementState (startAt : ℤ)
  | detachConcurrently (startAt : ℤ)
  | finalizeDetach (startAt : ℤ)
  | recountAndDrop (startAt : ℤ) (rowCount : ℕ)
  | listDedupePartitions
  | deleteDedupeBatch (child : ℕ) (startAt endAt : ℤ) (limit : ℕ)
  | rawIntervalIsEmpty (startAt endAt : ℤ)
  | listRawRetirementCandidates
  | earliestReceivedAt
  | deleteRawIntervalBatch (startAt endAt : ℤ) (limit : ℤ)
  | deleteStateBeforeBatch (cutoffAt : ℤ) (limit : ℤ)
  | diskHealth
  | compositeHealth
  | spin

/-- `spin` stands for a loop that goes on longer than it is followed. -/
def Op.isSpin : Op → Bool
  | .spin => true
  | _ => false

/-- What an operation that succeeds returns. -/
abbrev Op.Result : Op → Type
  | .now => ℤ
  | .rawStorageMode => RawStorageMode
  | .recordMaintenanceStart => ℕ
  | .globManifests => List ArchiveName
  | .archiveExists _ | .manifestExists _ => Bool
  | .readManifest _ => Option ArchiveManifest
  | .readArchive _ => Option (List RawRow)
  | .selectInterval _ _ => List RawRow
  | .compactFeedsAdvanced _ | .laterRaw _ | .rawIntervalIsEmpty _ _ => Bool
  | .latestReceivedAt _ _ | .earliestReceivedAt => Option ℤ
  | .rawPartitionRowCount _ => Option ℕ
  | .retirementState _ => RawPartitionRetirementState
  | .listDedupePartitions => List ℕ
  | .deleteDedupeBatch _ _ _ _ | .deleteRawIntervalBatch _ _ _ | .deleteStateBeforeBatch _ _ => ℕ
  | .listRawRetirementCandidates => List ℤ
  | .diskHealth | .compositeHealth => HealthStatus
  | .ensurePartitionedRawStorage _ | .recordMaintenanceFinish _ _ | .unlinkManifest _
  | .unlinkArchive _ | .replaceArchive _ _ | .writeManifest _ _ | .detachConcurrently _
  | .finalizeDetach _ | .recountAndDrop _ _ | .spin => Unit

/-- The answer to an operation: its result or an exception. -/
abbrev Op.Ans (op : Op) : Type := Outcome op.Result

/-- What an operation that goes through returns, and the world it leaves.  Health is measured, so its
result is the one that is offered. -/
def World.apply (config : StorageConfig) (world : World) :
    (op : Op) → op.Result → Outcome (op.Result × World)
  | .now, _ => .ok (world.clock, world)
  | .rawStorageMode, _ => .ok (world.mode, world)
  | .ensurePartitionedRawStorage now, _ =>
    .ok ((), { world with store := ensurePartitionedRawStorage world.store now })
  | .recordMaintenanceStart, _ =>
    .ok (world.runs.length, { world with runs := world.runs ++ ["running"] })
  | .recordMaintenanceFinish runId status, _ =>
    .ok ((), { world with runs := world.runs.set runId status })
  | .globManifests, _ =>
    .ok ((world.manifests.map Prod.fst).insertionSort fun a b =>
      a.startAt < b.startAt ∨ a.startAt = b.startAt ∧ a.endAt ≤ b.endAt, world)
  | .archiveExists name, _ => .ok ((Files.read world.archives name).isSome, world)
  | .manifestExists name, _ => .ok ((Files.read world.manifests name).isSome, world)
  | .readManifest name, _ => .ok (Files.read world.manifests name, world)
  | .readArchive name, _ => .ok (Files.read world.archives name, world)
  | .unlinkManifest name, _ =>
    .ok ((), { world with manifests := Files.unlink world.manifests name })
  | .unlinkArchive name, _ => .ok ((), { world with archives := Files.unlink world.archives name })
  | .selectInterval startAt endAt, _ =>
    .ok (inOrder (world.rawMarketEvents.filter (within startAt endAt)), world)
  | .replaceArchive name rows, _ =>
    .ok ((), { world with archives := Files.replace world.archives name rows })
  | .writeManifest name manifest, _ =>
    .ok ((), { world with manifests := Files.replace world.manifests name manifest })
  | .compactFeedsAdvanced endAt, _ => .ok (world.compactFeedsAdvanced endAt, world)
  | .latestReceivedAt startAt endAt, _ =>
    .ok (((world.rawMarketEvents.filter (within startAt endAt)).map RawRow.receivedAt).max?, world)
  | .laterRaw endAt, _ =>
    .ok (world.rawMarketEvents.any fun row => decide (endAt ≤ row.receivedAt), world)
  | .rawPartitionRowCount startAt, _ =>
    .ok ((world.store.partition? (floorHour startAt)).map (·.rows.length), world)
  | .retirementState startAt, _ => .ok (world.retirementState startAt, world)
  | .detachConcurrently startAt, _ =>
    if world.retirementState startAt = .attached then
      .ok ((), world.setAttachment startAt .detachPending)
    else raise .databaseError "relation is not an attached partition"
  | .finalizeDetach startAt, _ =>
    if world.retirementState startAt = .detachPending then
      .ok ((), world.setAttachment startAt .detached)
    else raise .databaseError "no detach is pending"
  | .recountAndDrop startAt rowCount, _ =>
    (world.recountAndDrop startAt rowCount).map fun after => ((), after)
  | .listDedupePartitions, _ => .ok (List.range dedupePartitions, world)
  | .deleteDedupeBatch child startAt endAt limit, _ =>
    let doomed := config.doomedClaims world.store.dedupe child startAt endAt limit
    .ok (doomed.length, { world with
      store := { world.store with dedupe := world.store.dedupe.filter (· ∉ doomed) } })
  | .rawIntervalIsEmpty startAt endAt, _ =>
    (world.rawIntervalIsEmpty startAt endAt).map fun empty => (empty, world)
  | .listRawRetirementCandidates, _ =>
    .ok ((world.store.partitions.map RawPartition.startAt).insertionSort (· ≤ ·), world)
  | .earliestReceivedAt, _ => .ok ((world.rawMarketEvents.map RawRow.receivedAt).min?, world)
  | .deleteRawIntervalBatch startAt endAt limit, _ =>
    .ok ((doomedRows world.legacy.rows startAt endAt limit).length, { world with
      legacy := { world.legacy with
        rows := survivingRows world.legacy.rows startAt endAt limit } })
  | .deleteStateBeforeBatch cutoffAt limit, _ =>
    let doomed := doomedState world.compact cutoffAt limit
    .ok (doomed.length, { world with compact := world.compact.filter (· ∉ doomed) })
  | .diskHealth, measured => .ok (measured, world)
  | .compositeHealth, measured => .ok (measured, world)
  | .spin, _ => .ok ((), world)

/-- An operation is answered with the exception that is proposed, which leaves the world as it is, or
goes through; `spin` is never answered. -/
def World.serve (config : StorageConfig) (world : World) (op : Op) (proposal : op.Ans) :
    Option (op.Ans × World) :=
  if op.isSpin then none
  else
    match proposal with
    | .error raised => some (.error raised, world)
    | .ok offered =>
      match world.apply config op offered with
      | .ok (result, after) => some (.ok result, after)
      | .error raised => some (.error raised, world)

end BpEngine.Storage
