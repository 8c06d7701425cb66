import BpEngine.Storage.Maintenance

/-!
# The run of the storage maintenance

The `run` command of `scripts/storage_maintenance.py` with what it calls in `storage/maintenance.py`.

* `verifyArchive`, `archiveInterval`, `retireVerifiedPartition`, `deleteVerifiedInterval` and
  `pruneExpiredArchives` are the parts, `runCommand` is the run.
* `maintenanceHost` is one run at a time in a world where the recorder writes and the clock goes on
  (`Change`); a run that is started while another one goes on does nothing.
-/

namespace BpEngine.Storage

/-- A program over the operations of the maintenance. -/
abbrev StorageM (α : Type) := Program Op Op.Ans Raised α

/-- Performs an operation; an exception is passed on. -/
def perform (op : Op) : StorageM op.Result := do
  Program.ofExcept (← Program.call op)

/-- `if not condition: raise cls(message)`. -/
def check (condition : Prop) [Decidable condition] (cls : PyClass) (message : String) :
    StorageM Unit :=
  Program.ofExcept (require condition cls message)

/-- `if not condition: raise ArchiveVerificationError(message)`. -/
def verify (condition : Prop) [Decidable condition] (message : String) : StorageM Unit :=
  check condition .archiveVerificationError message

variable (config : StorageConfig)

/-! ## Archives -/

/-- Reads an archive that was there. -/
def readArchive (name : ArchiveName) (cls : PyClass) (message : String) :
    StorageM (List RawRow) := do
  match ← perform (.readArchive name) with
  | none => .fail ⟨cls, message⟩
  | some rows => pure rows

/-- `verify_archive`. -/
def verifyArchive (name : ArchiveName) : StorageM ArchiveManifest := do
  verify ((← perform (.archiveExists name)) = true) "archive file is missing"
  verify ((← perform (.manifestExists name)) = true) "archive manifest is missing"
  match ← perform (.readManifest name) with
  | none => .fail ⟨.archiveVerificationError, "archive manifest is unreadable"⟩
  | some manifest =>
    verify (manifest.archiveName = name) "archive name does not match manifest"
    let hashed ← readArchive name .osError ""
    verify (config.sha256 hashed = manifest.sha256) "archive SHA-256 does not match manifest"
    let measured ← readArchive name .osError ""
    verify (config.compressedBytes measured = manifest.compressedBytes)
      "archive compressed byte count does not match manifest"
    let counted ← readArchive name .archiveVerificationError "archive gzip payload is unreadable"
    verify (counted.length = manifest.rowCount) "archive row count does not match manifest"
    pure manifest

/-- `archive_path.exists() and manifest_path.exists()`. -/
def archiveAndManifestExist (name : ArchiveName) : StorageM Bool := do
  if ← perform (.archiveExists name) then perform (.manifestExists name) else pure false

/-- The manifest of a new export. -/
def StorageConfig.manifestOf (name : ArchiveName) (rows : List RawRow) : ArchiveManifest where
  archiveName := name
  startAt := name.startAt
  endAt := name.endAt
  rowCount := rows.length
  compressedBytes := config.compressedBytes rows
  sha256 := config.sha256 rows

/-- The export of an interval that has no archive. -/
def exportInterval (name : ArchiveName) : StorageM ArchiveManifest := do
  let rows ← perform (.selectInterval name.startAt name.endAt)
  perform (.replaceArchive name rows)
  perform (.writeManifest name (config.manifestOf name rows))
  verifyArchive config name

/-- `archive_interval`. -/
def archiveInterval (startAt endAt : ℤ) : StorageM ArchiveManifest := do
  check (¬ endAt ≤ startAt) .valueError "end must be after start"
  if ← archiveAndManifestExist ⟨startAt, endAt⟩ then do
    let manifest ← verifyArchive config ⟨startAt, endAt⟩
    verify (manifest.startAt = startAt ∧ manifest.endAt = endAt)
      "existing archive interval does not match request"
    pure manifest
  else exportInterval config ⟨startAt, endAt⟩

/-- `while True: deleted = …; total += deleted; if deleted < batch_size: return total`.  A loop longer
than `fuel` rounds performs `spin`, which is never answered. -/
def deleteBatches (batchSize : ℤ) (batch : StorageM ℕ) : ℕ → StorageM ℕ
  | 0 => do
    perform .spin
    pure 0
  | fuel + 1 => do
    let deleted ← batch
    if deleted < batchSize then pure deleted
    else do
      let later ← deleteBatches batchSize batch fuel
      pure (deleted + later)

/-- `delete_verified_interval`. -/
def deleteVerifiedInterval (fuel : ℕ) (name : ArchiveName) (batchSize : ℤ) : StorageM ℕ := do
  let manifest ← verifyArchive config name
  deleteBatches batchSize
    (do
      check (¬ batchSize ≤ 0) .valueError "batch_size must be greater than zero"
      perform (.deleteRawIntervalBatch manifest.startAt manifest.endAt batchSize)) fuel

/-! ## Retiring a partition -/

/-- `_terminal_partial_compact_cutoff`. -/
def terminalPartialCompactCutoff (manifest : ArchiveManifest) : StorageM (Option ℤ) := do
  let latest ← perform (.latestReceivedAt manifest.startAt manifest.endAt)
  let later ← perform (.laterRaw manifest.endAt)
  match latest with
  | none => pure none
  | some cutoff => pure (if later || decide (manifest.endAt ≤ cutoff) then none else some cutoff)

/-- The instant beyond which compact state must have advanced. -/
def compactCutoff (manifest : ArchiveManifest) (allowTerminal : Bool) : StorageM Unit := do
  if ← perform (.compactFeedsAdvanced manifest.endAt) then pure ()
  else do
    let terminal ← if allowTerminal then terminalPartialCompactCutoff manifest else pure none
    match terminal with
    | none =>
      .fail ⟨.runtimeError, "compact state has not advanced beyond archived partition"⟩
    | some cutoff =>
      let advanced ← perform (.compactFeedsAdvanced cutoff)
      check (advanced = true) .runtimeError
        "compact state has not advanced beyond archived partition"

/-- The first count of the live rows. -/
def checkLiveRows (manifest : ArchiveManifest) : StorageM Unit := do
  let mode ← perform .rawStorageMode
  check (mode = .partitioned) .runtimeError "raw_market_events is not partitioned"
  match ← perform (.rawPartitionRowCount manifest.startAt) with
  | none => .fail ⟨.runtimeError, "raw partition is missing"⟩
  | some liveRows =>
    verify (liveRows = manifest.rowCount)
      "verified archive row count does not match live partition"

/-- `detach_raw_partition_concurrently`.  Detaching concurrently is two transactions: the first marks
the detach as pending, the second waits for the transactions that look at the parent. -/
def detachRawPartitionConcurrently (startAt : ℤ) : StorageM Unit := do
  match ← perform (.retirementState startAt) with
  | .missing => .fail ⟨.runtimeError, "raw partition is missing"⟩
  | .attached =>
    perform (.detachConcurrently startAt)
    perform (.finalizeDetach startAt)
  | .detachPending => perform (.finalizeDetach startAt)
  | .detached => pure ()
  let final ← perform (.retirementState startAt)
  check (final = .detached) .runtimeError
    "raw partition did not reach detached retirement state"

/-- The claims of the interval are deleted child by child. -/
def purgeDedupe (fuel : ℕ) (manifest : ArchiveManifest) (limit : ℕ) : List ℕ → StorageM ℕ
  | [] => pure 0
  | child :: children => do
    let removed ← deleteBatches limit
      (perform (.deleteDedupeBatch child manifest.startAt manifest.endAt limit)) fuel
    let later ← purgeDedupe fuel manifest limit children
    pure (removed + later)

/-- `max(1, batch_size // len(dedupe_partitions))`. -/
def perPartitionBatch (batchSize : ℤ) (children : List ℕ) : ℕ :=
  (max 1 (batchSize / children.length)).toNat

/-- What follows the drop: `raw_event_dedupe` loses the claims of the interval. -/
def purgeInterval (fuel : ℕ) (manifest : ArchiveManifest) (batchSize : ℤ) : StorageM ℕ := do
  let children ← perform .listDedupePartitions
  check (children ≠ []) .runtimeError "raw_event_dedupe has no child partitions"
  purgeDedupe fuel manifest (perPartitionBatch batchSize children) children

/-- What precedes the drop. -/
def prepareRetirement (name : ArchiveName) (batchSize : ℤ) (allowTerminal : Bool) :
    StorageM ArchiveManifest := do
  check (¬ batchSize ≤ 0) .valueError "batch_size must be greater than zero"
  let manifest ← verifyArchive config name
  verify (manifest.endAt = manifest.startAt + hour) "partition archive must cover exactly one hour"
  verify (floorHour manifest.startAt = manifest.startAt)
    "partition archive must start on a UTC hour"
  compactCutoff manifest allowTerminal
  checkLiveRows manifest
  detachRawPartitionConcurrently manifest.startAt
  pure manifest

/-- `retire_verified_partition`; the result is the number of claims removed. -/
def retireVerifiedPartition (fuel : ℕ) (name : ArchiveName) (batchSize : ℤ)
    (allowTerminal : Bool) : StorageM ℕ := do
  let manifest ← prepareRetirement config name batchSize allowTerminal
  perform (.recountAndDrop manifest.startAt manifest.rowCount)
  purgeInterval fuel manifest batchSize

/-! ## Pruning -/

/-- One archive of `prune_expired_archives`. -/
def pruneArchive (cutoff : ℤ) (name : ArchiveName) : StorageM Unit := do
  match ← (verifyArchive config name).attempt with
  | .error raised =>
    if raised.cls = .archiveVerificationError then pure () else .fail raised
  | .ok manifest =>
    if cutoff < manifest.endAt then pure ()
    else if !(← perform (.rawIntervalIsEmpty manifest.startAt manifest.endAt)) then pure ()
    else if !(← perform (.compactFeedsAdvanced manifest.endAt)) then pure ()
    else do
      perform (.unlinkManifest name)
      perform (.unlinkArchive name)

/-- The archives one after another. -/
def pruneArchives (cutoff : ℤ) : List ArchiveName → StorageM Unit
  | [] => pure ()
  | name :: names => do
    pruneArchive config cutoff name
    pruneArchives cutoff names

/-- `prune_expired_archives`. -/
def pruneExpiredArchives (now retentionHours : ℤ) : StorageM Unit := do
  check (0 ≤ retentionHours) .valueError "retention_hours must be zero or greater"
  pruneArchives config (now - retentionHours * hour) (← perform .globManifests)

/-- `prune_expired_state`. -/
def pruneExpiredState (fuel : ℕ) (now retentionDays batchSize : ℤ) : StorageM ℕ := do
  check (0 ≤ retentionDays) .valueError "retention_days must be zero or greater"
  deleteBatches batchSize
    (do
      check (¬ batchSize ≤ 0) .valueError "batch_size must be greater than zero"
      perform (.deleteStateBeforeBatch (now - retentionDays * 24 * hour) batchSize)) fuel

/-! ## The run -/

/-- The settings and arguments of a run, and how long its loops are followed. -/
structure RunSettings where
  hotRawHours : ℤ
  archiveRetentionHours : ℤ
  stateRetentionDays : ℤ
  deleteBatchSize : ℤ
  allowTerminal : Bool
  fuel : ℕ

/-- The partitions outside the hot window, until the disk is critical. -/
def retirePartitions (settings : RunSettings) (eligibleEnd : ℤ) : List ℤ → StorageM Unit
  | [] => pure ()
  | startAt :: later =>
    if eligibleEnd < startAt + hour then retirePartitions settings eligibleEnd later
    else do
      if (← perform .diskHealth) = .critical then pure ()
      else do
        let manifest ← archiveInterval config startAt (startAt + hour)
        let _removed ← retireVerifiedPartition config settings.fuel manifest.archiveName
          settings.deleteBatchSize settings.allowTerminal
        retirePartitions settings eligibleEnd later

/-- The hours of the legacy table outside the hot window, until the disk is critical; `hours` is how
many are left. -/
def deleteIntervals (settings : RunSettings) : (hours : ℕ) → (startAt : ℤ) → StorageM Unit
  | 0, _ => pure ()
  | hours + 1, startAt => do
    if (← perform .diskHealth) = .critical then pure ()
    else do
      let manifest ← archiveInterval config startAt (startAt + hour)
      let _deleted ← deleteVerifiedInterval config settings.fuel manifest.archiveName
        settings.deleteBatchSize
      deleteIntervals settings hours (startAt + hour)

/-- The work on raw rows. -/
def retainRaw (settings : RunSettings) (now : ℤ) (mode : RawStorageMode) : StorageM Unit := do
  let eligibleEnd := floorHour (now - settings.hotRawHours * hour)
  if mode = .partitioned then do
    let candidates ← perform .listRawRetirementCandidates
    retirePartitions config settings eligibleEnd candidates
  else
    match ← perform .earliestReceivedAt with
    | none => pure ()
    | some earliest =>
      deleteIntervals config settings ((eligibleEnd - floorHour earliest) / hour).toNat
        (floorHour earliest)

/-- What follows the work: the hours to come are provided, the run is recorded and health decides the
exit code. -/
def finishRun (mode : RawStorageMode) (runId : ℕ) : StorageM ℕ := do
  let finalDisk ← perform .diskHealth
  if mode = .partitioned then do
    let finalHealthAt ← perform .now
    perform (.ensurePartitionedRawStorage finalHealthAt)
    perform (.recordMaintenanceFinish runId "success")
    if (← perform .compositeHealth) = .critical then do
      perform (.recordMaintenanceFinish runId "failure")
      let health ← perform .compositeHealth
      pure (if health = .critical then 1 else 0)
    else pure 0
  else do
    perform (.recordMaintenanceFinish runId "success")
    pure (if finalDisk = .critical then 1 else 0)

/-- The cycle that is recorded. -/
def retentionCycle (settings : RunSettings) (now : ℤ) (mode : RawStorageMode) (runId : ℕ) :
    StorageM ℕ := do
  pruneExpiredArchives config now (settings.hotRawHours + settings.archiveRetentionHours)
  if (← perform .diskHealth) = .critical then do
    perform (.recordMaintenanceFinish runId "failure")
    pure 1
  else do
    retainRaw config settings now mode
    let _deleted ← pruneExpiredState settings.fuel now settings.stateRetentionDays
      settings.deleteBatchSize
    finishRun mode runId

/-- `except Exception`: the failure is recorded and raised again. -/
def recordFailure (runId : ℕ) (raised : Raised) : StorageM ℕ := do
  let _disk ← (perform .diskHealth).attempt
  perform (.recordMaintenanceFinish runId "failure")
  .fail raised

/-- `_run_command`. -/
def runCommand (settings : RunSettings) : StorageM ℕ := do
  check (0 ≤ settings.hotRawHours) .systemExit "hot raw retention must be non-negative"
  check (0 ≤ settings.archiveRetentionHours) .systemExit "archive retention must be non-negative"
  check (0 ≤ settings.stateRetentionDays) .systemExit "state retention must be non-negative"
  check (¬ settings.deleteBatchSize ≤ 0) .systemExit "delete batch size must be greater than zero"
  let now ← perform .now
  let mode ← perform .rawStorageMode
  if mode = .partitioned then perform (.ensurePartitionedRawStorage now) else pure ()
  let runId ← perform .recordMaintenanceStart
  (retentionCycle config settings now mode runId).catchError (recordFailure runId)

/-! ## The world around a run -/

/-- One row of the legacy insert, `ON CONFLICT (dedupe_key) DO NOTHING`. -/
def LegacyStore.insert (legacy : LegacyStore) (event : RawEvent) : LegacyStore where
  rows :=
    if legacy.rows.any (·.dedupeKey = event.dedupeKey) then legacy.rows
    else legacy.rows ++ [⟨legacy.nextId, event⟩]
  nextId := legacy.nextId + 1

/-- `insert_events` in legacy mode, in a transaction of its own. -/
def commitLegacyBatch (legacy : LegacyStore) (events : List RawEvent) (fault : Option ℕ) :
    LegacyStore :=
  match fault with
  | some drawn => { legacy with nextId := legacy.nextId + drawn }
  | none =>
    if events.all fun event => event.fits && event.dedupeKey.length ≤ 80 then
      events.foldl LegacyStore.insert legacy
    else { legacy with nextId := legacy.nextId + events.length }

/-- What happens outside the maintenance: the recorder commits a batch or provides the hours to come
when it starts, a row of compact state is written, and time goes on. -/
inductive Change where
  | insertEvents (early : Bool) (events : List RawEvent) (fault : Option ℕ)
  | ensure
  | upsertState (row : CompactRow)
  | elapse (duration : ℕ)

/-- One change. -/
def World.change (world : World) : Change → World
  | .insertEvents early events fault =>
    match world.mode with
    | .missing => world
    | .legacy => { world with legacy := commitLegacyBatch world.legacy events fault }
    | .partitioned => { world with store := (commitBatch world.store early events fault).1 }
  | .ensure => { world with store := ensurePartitionedRawStorage world.store world.clock }
  | .upsertState row => { world with compact := world.compact ++ [row] }
  | .elapse duration => { world with clock := world.clock + duration }

/-- The runs, the world that answers them, and what changes it. -/
def maintenanceHost : Host World RunSettings Change Op Op.Ans Raised ℕ where
  start := runCommand config
  serve := World.serve config
  stop := id
  outside := World.change

/-- The process of the maintenance. -/
abbrev Maintenance := Process World RunSettings Op Op.Ans Raised ℕ

/-- The events of the maintenance. -/
abbrev MaintenanceEvent := ProcessEvent RunSettings Change Op Op.Ans

/-- The maintenance of a database without rows, in a mode, before any run. -/
def Maintenance.initial (mode : RawStorageMode) (clock : ℤ) : Maintenance where
  world := { mode, clock }

/-! ### Sample runs -/

/-- What is offered to an operation: the health that is measured. -/
def Op.offer (health : HealthStatus) : (op : Op) → op.Result
  | .now => 0
  | .rawStorageMode => .missing
  | .recordMaintenanceStart => 0
  | .globManifests => []
  | .archiveExists _ | .manifestExists _ => false
  | .readManifest _ => none
  | .readArchive _ => none
  | .selectInterval _ _ => []
  | .compactFeedsAdvanced _ | .laterRaw _ | .rawIntervalIsEmpty _ _ => false
  | .latestReceivedAt _ _ | .earliestReceivedAt => none
  | .rawPartitionRowCount _ => none
  | .retirementState _ => .missing
  | .listDedupePartitions => []
  | .deleteDedupeBatch _ _ _ _ | .deleteRawIntervalBatch _ _ _ | .deleteStateBeforeBatch _ _ =>
    (0 : ℕ)
  | .listRawRetirementCandidates => []
  | .diskHealth | .compositeHealth => health
  | .ensurePartitionedRawStorage _ | .recordMaintenanceFinish _ _ | .unlinkManifest _
  | .unlinkArchive _ | .replaceArchive _ _ | .writeManifest _ _ | .detachConcurrently _
  | .finalizeDetach _ | .recountAndDrop _ _ | .spin => ()

/-- The next operation goes through, on a healthy disk. -/
def MaintenanceEvent.go : MaintenanceEvent := .step fun op => .ok (op.offer .ok)

/-- A configuration for the sample runs. -/
def sampleConfig : StorageConfig where
  route _ := 3
  sha256 rows := toString rows.length
  compressedBytes rows := 10 * rows.length

/-- Settings that keep nothing hot. -/
def sampleSettings : RunSettings where
  hotRawHours := 0
  archiveRetentionHours := 24
  stateRetentionDays := 90
  deleteBatchSize := 32
  allowTerminal := false
  fuel := 3

/-- An hour with two rows that ends, with compact state beyond it. -/
def sampleHour : List MaintenanceEvent :=
  .outside .ensure ::
    .outside (.insertEvents false [sampleEvent "a" 7, sampleEvent "b" 8] none) ::
    .outside (.elapse 3600000000) ::
    requiredCompactFeeds.map fun feed =>
      .outside (.upsertState ⟨feed.1, feed.2, 3600000000, 3600000001⟩)

/-! ## Which operations a part performs -/

/-- The operations that read the archive directory. -/
def Op.readsFiles : Op → Bool
  | .globManifests | .archiveExists _ | .manifestExists _ | .readManifest _ | .readArchive _ => true
  | _ => false

/-- The operations that read the database and what is known of the machine. -/
def Op.readsDatabase : Op → Bool
  | .rawStorageMode | .compactFeedsAdvanced _ | .latestReceivedAt _ _ | .laterRaw _
  | .rawPartitionRowCount _ | .retirementState _ | .rawIntervalIsEmpty _ _ => true
  | _ => false

/-- The operations that remove an archive and its manifest. -/
def Op.unlinks : Op → Bool
  | .unlinkManifest _ | .unlinkArchive _ => true
  | _ => false

/-- The operations that detach a table. -/
def Op.detaches : Op → Bool
  | .detachConcurrently _ | .finalizeDetach _ => true
  | _ => false

/-- The operations that remove claims. -/
def Op.purges : Op → Bool
  | .listDedupePartitions | .deleteDedupeBatch _ _ _ _ | .spin => true
  | _ => false

/-- The operations that remove compact state. -/
def Op.prunesState : Op → Bool
  | .deleteStateBeforeBatch _ _ | .spin => true
  | _ => false

/-- The operations that record a run. -/
def Op.records : Op → Bool
  | .diskHealth | .compositeHealth | .recordMaintenanceStart | .recordMaintenanceFinish _ _ => true
  | _ => false

section Only

variable {S : Op → Prop} {α : Type}

theorem only_perform {op : Op} (h : S op) : (perform op).Only S fun _ => True :=
  Program.Only.bind (Program.only_call.mpr h) fun _ => Program.only_ofExcept fun _ _ => trivial

theorem only_check {condition : Prop} [Decidable condition] {cls : PyClass} {message : String} :
    (check condition cls message).Only S fun _ => True :=
  Program.only_ofExcept fun _ _ => trivial

theorem only_verify {condition : Prop} [Decidable condition] {message : String} :
    (verify condition message).Only S fun _ => True := only_check

theorem only_readArchive {name : ArchiveName} {cls : PyClass} {message : String}
    (hS : ∀ op, op.readsFiles = true → S op) :
    (readArchive name cls message).Only S fun _ => True := by
  refine (only_perform (hS _ rfl)).bind fun content => ?_
  cases content <;> trivial

theorem only_verifyArchive (name : ArchiveName) (hS : ∀ op, op.readsFiles = true → S op) :
    (verifyArchive config name).Only S fun _ => True := by
  refine (only_perform (hS _ rfl)).bind fun _ => only_verify.bind fun _ =>
    (only_perform (hS _ rfl)).bind fun _ => only_verify.bind fun _ =>
    (only_perform (hS _ rfl)).bind fun manifest => ?_
  cases manifest with
  | none => trivial
  | some manifest =>
    exact only_verify.bind fun _ => (only_readArchive hS).bind fun _ => only_verify.bind fun _ =>
      (only_readArchive hS).bind fun _ => only_verify.bind fun _ =>
      (only_readArchive hS).bind fun _ => only_verify.bind fun _ => trivial

theorem only_deleteBatches {batchSize : ℤ} {batch : StorageM ℕ} (fuel : ℕ)
    (hbatch : batch.Only S fun _ => True) (hspin : S .spin) :
    (deleteBatches batchSize batch fuel).Only S fun _ => True := by
  induction fuel with
  | zero => exact (only_perform hspin).bind fun _ => trivial
  | succ fuel ih =>
    refine hbatch.bind fun deleted => ?_
    split_ifs
    · trivial
    · exact ih.bind fun _ => trivial

theorem only_compactCutoff (manifest : ArchiveManifest) (allowTerminal : Bool)
    (hS : ∀ op, op.readsDatabase = true → S op) :
    (compactCutoff manifest allowTerminal).Only S fun _ => True := by
  have hterminal : (terminalPartialCompactCutoff manifest).Only S fun _ => True := by
    refine (only_perform (hS _ rfl)).bind fun latest => (only_perform (hS _ rfl)).bind fun later => ?_
    cases latest <;> trivial
  refine (only_perform (hS _ rfl)).bind fun advanced => ?_
  have hrest : ∀ terminal : Option ℤ, (match terminal with
      | none => .fail ⟨.runtimeError, "compact state has not advanced beyond archived partition"⟩
      | some cutoff => do
        let advanced ← perform (.compactFeedsAdvanced cutoff)
        check (advanced = true) .runtimeError
          "compact state has not advanced beyond archived partition" : StorageM Unit).Only S
        fun _ => True := by
    intro terminal
    cases terminal with
    | none => trivial
    | some cutoff => exact (only_perform (hS _ rfl)).bind fun _ => only_check
  cases advanced with
  | true => trivial
  | false =>
    cases allowTerminal with
    | true => exact hterminal.bind hrest
    | false => exact hrest none

theorem only_checkLiveRows (manifest : ArchiveManifest)
    (hS : ∀ op, op.readsDatabase = true → S op) :
    (checkLiveRows manifest).Only S fun _ => True := by
  refine (only_perform (hS _ rfl)).bind fun _ => only_check.bind fun _ =>
    (only_perform (hS _ rfl)).bind fun liveRows => ?_
  cases liveRows with
  | none => trivial
  | some liveRows => exact only_verify

theorem only_detachRawPartitionConcurrently (startAt : ℤ)
    (hS : ∀ op, op.readsDatabase = true → S op) (hdetach : ∀ op, op.detaches = true → S op) :
    (detachRawPartitionConcurrently startAt).Only S fun _ => True := by
  have hfinal : (do
      let final ← perform (.retirementState startAt)
      check (final = .detached) .runtimeError
        "raw partition did not reach detached retirement state" : StorageM Unit).Only S
      fun _ => True := (only_perform (hS _ rfl)).bind fun _ => only_check
  refine (only_perform (hS _ rfl)).bind fun state => ?_
  cases state with
  | missing => trivial
  | attached =>
    exact (only_perform (hdetach _ rfl)).bind fun _ => (only_perform (hdetach _ rfl)).bind fun _ =>
      hfinal
  | detachPending => exact (only_perform (hdetach _ rfl)).bind fun _ => hfinal
  | detached => exact hfinal

theorem only_purgeInterval (fuel : ℕ) (manifest : ArchiveManifest) (batchSize : ℤ)
    (hS : ∀ op, op.purges = true → S op) :
    (purgeInterval fuel manifest batchSize).Only S fun _ => True := by
  have hpurge : ∀ limit children,
      (purgeDedupe fuel manifest limit children).Only S fun _ => True := by
    intro limit children
    induction children with
    | nil => trivial
    | cons child children ih =>
      exact (only_deleteBatches fuel (only_perform (hS _ rfl)) (hS _ rfl)).bind fun _ =>
        ih.bind fun _ => trivial
  exact (only_perform (hS _ rfl)).bind fun _ => only_check.bind fun _ => hpurge _ _

theorem only_pruneExpiredArchives (now retentionHours : ℤ)
    (hfiles : ∀ op, op.readsFiles = true → S op) (hread : ∀ op, op.readsDatabase = true → S op)
    (hunlink : ∀ op, op.unlinks = true → S op) :
    (pruneExpiredArchives config now retentionHours).Only S fun _ => True := by
  have hone : ∀ cutoff name, (pruneArchive config cutoff name).Only S fun _ => True := by
    intro cutoff name
    refine Program.Only.bind (((only_verifyArchive config name hfiles).attempt).mono
      (fun _ h => h) fun _ _ => trivial) fun result => ?_
    cases result with
    | error raised =>
      simp only
      split_ifs <;> trivial
    | ok manifest =>
      simp only
      split_ifs
      · trivial
      · refine (only_perform (hread _ rfl)).bind fun empty => ?_
        cases empty with
        | false => trivial
        | true =>
          refine (only_perform (hread _ rfl)).bind fun advanced => ?_
          cases advanced with
          | false => trivial
          | true =>
            exact (only_perform (hunlink _ rfl)).bind fun _ => only_perform (hunlink _ rfl)
  have hall : ∀ cutoff names, (pruneArchives config cutoff names).Only S fun _ => True := by
    intro cutoff names
    induction names with
    | nil => trivial
    | cons name names ih => exact (hone cutoff name).bind fun _ => ih
  exact only_check.bind fun _ => (only_perform (hfiles _ rfl)).bind fun names => hall _ names

theorem only_pruneExpiredState (fuel : ℕ) (now retentionDays batchSize : ℤ)
    (hS : ∀ op, op.prunesState = true → S op) :
    (pruneExpiredState fuel now retentionDays batchSize).Only S fun _ => True :=
  only_check.bind fun _ => only_deleteBatches fuel
    (only_check.bind fun _ => only_perform (hS _ rfl)) (hS _ rfl)

theorem only_recordFailure (runId : ℕ) (raised : Raised) (hS : ∀ op, op.records = true → S op) :
    (recordFailure runId raised).Only S fun _ => True :=
  Program.Only.bind (((only_perform (hS _ rfl)).attempt).mono (fun _ h => h) fun _ _ => trivial)
    fun _ => (only_perform (hS _ rfl)).bind fun _ => trivial

end Only

/-! ## What an operation changes -/

/-- The operations that change which hourly tables there are, or how they are attached. -/
def Op.touchesTables : Op → Bool
  | .ensurePartitionedRawStorage _ | .detachConcurrently _ | .finalizeDetach _
  | .recountAndDrop _ _ => true
  | _ => false

/-- The operations that change the archive directory. -/
def Op.touchesFiles : Op → Bool
  | .unlinkManifest _ | .unlinkArchive _ | .replaceArchive _ _ | .writeManifest _ _ => true
  | _ => false

variable {config} {world after : World} {op : Op}

/-- An answered operation failed and left the world alone, or went through. -/
theorem serve_eq_some {proposal answer : op.Ans}
    (h : world.serve config op proposal = some (answer, after)) :
    (∃ raised, answer = .error raised ∧ after = world) ∨
      ∃ offered result, answer = .ok result ∧ world.apply config op offered = .ok (result, after) := by
  unfold World.serve at h
  split_ifs at h
  cases proposal with
  | error raised =>
    obtain ⟨rfl, rfl⟩ := Prod.mk.inj (Option.some.inj h)
    exact .inl ⟨raised, rfl, rfl⟩
  | ok offered =>
    cases happly : world.apply config op offered with
    | error raised =>
      simp only [happly] at h
      obtain ⟨rfl, rfl⟩ := Prod.mk.inj (Option.some.inj h)
      exact .inl ⟨raised, rfl, rfl⟩
    | ok result =>
      obtain ⟨value, next⟩ := result
      simp only [happly] at h
      obtain ⟨rfl, rfl⟩ := Prod.mk.inj (Option.some.inj h)
      exact .inr ⟨offered, value, rfl, happly⟩

/-- What the transaction of the drop found: the detached table, with as many rows as expected. -/
theorem recountAndDrop_eq_ok {startAt : ℤ} {rowCount : ℕ}
    (h : world.recountAndDrop startAt rowCount = .ok after) :
    ∃ partition, world.store.partition? (floorHour startAt) = some partition ∧
      partition.rows.length = rowCount ∧ partition.attachment = .detached ∧
        after = { world with
          store := { world.store with
            partitions := world.store.partitions.filter (·.startAt ≠ floorHour startAt) } } := by
  unfold World.recountAndDrop at h
  cases hfound : world.store.partition? (floorHour startAt) with
  | none => simp [hfound] at h
  | some partition =>
    simp only [hfound] at h
    obtain ⟨_, hcount, h⟩ := bind_eq_ok.mp h
    obtain ⟨_, hdetached, h⟩ := bind_eq_ok.mp h
    exact ⟨partition, rfl, require_eq_ok.mp hcount, require_eq_ok.mp hdetached,
      (Except.ok.inj h).symm⟩

theorem apply_recountAndDrop {startAt : ℤ} {rowCount : ℕ} {offered result : Unit}
    (h : world.apply config (.recountAndDrop startAt rowCount) offered = .ok (result, after)) :
    world.recountAndDrop startAt rowCount = .ok after := by
  simp only [World.apply] at h
  cases hdrop : world.recountAndDrop startAt rowCount with
  | error raised =>
    rw [hdrop] at h
    cases h
  | ok dropped =>
    rw [hdrop] at h
    obtain ⟨-, rfl⟩ := Prod.mk.inj (Except.ok.inj h)
    rfl

/-- **The frame**: what an operation that goes through leaves alone. -/
theorem apply_frame {offered result : op.Result}
    (h : world.apply config op offered = .ok (result, after)) :
    after.mode = world.mode ∧ after.clock = world.clock ∧
      after.store.nextId = world.store.nextId ∧
        (op.touchesTables = false → after.store.partitions = world.store.partitions) ∧
          (op.touchesFiles = false →
            after.archives = world.archives ∧ after.manifests = world.manifests) := by
  cases op <;> simp only [World.apply, Op.touchesTables, Op.touchesFiles, Except.ok.injEq,
    Prod.mk.injEq, reduceCtorEq, forall_true_left, IsEmpty.forall_iff, true_and, and_true] at h ⊢ <;>
    first
    | (obtain ⟨-, rfl⟩ := h; simp [ensurePartitionedRawStorage])
    | skip
  case recountAndDrop startAt rowCount =>
    cases hdrop : world.recountAndDrop startAt rowCount with
    | error raised => simp [hdrop, Except.map] at h
    | ok dropped =>
      obtain ⟨partition, -, -, -, rfl⟩ := recountAndDrop_eq_ok hdrop
      simp only [hdrop, Except.map, Except.ok.injEq, Prod.mk.injEq, true_and] at h
      subst h
      exact ⟨rfl, rfl, rfl, rfl, rfl⟩
  case rawIntervalIsEmpty startAt endAt =>
    cases hempty : world.rawIntervalIsEmpty startAt endAt with
    | error raised => simp [hempty, Except.map] at h
    | ok empty =>
      simp only [hempty, Except.map, Except.ok.injEq, Prod.mk.injEq] at h
      obtain ⟨-, rfl⟩ := h
      exact ⟨rfl, rfl, rfl, rfl, rfl, rfl⟩
  case detachConcurrently startAt =>
    split_ifs at h
    · simp only [Except.ok.injEq, Prod.mk.injEq, true_and] at h
      subst h
      exact ⟨rfl, rfl, rfl, rfl, rfl⟩
    · simp at h
  case finalizeDetach startAt =>
    split_ifs at h
    · simp only [Except.ok.injEq, Prod.mk.injEq, true_and] at h
      subst h
      exact ⟨rfl, rfl, rfl, rfl, rfl⟩
    · simp at h

theorem sound_setAttachment (h : world.store.Sound) (startAt : ℤ) (attachment : Attachment) :
    (world.setAttachment startAt attachment).store.Sound := by
  have hstarts : (world.setAttachment startAt attachment).store.partitions.map
      RawPartition.startAt = world.store.partitions.map RawPartition.startAt := by
    unfold World.setAttachment
    rw [List.map_map]
    refine List.map_congr_left fun partition _ => ?_
    change (if _ then _ else _ : RawPartition).startAt = _
    split_ifs <;> rfl
  have hrows : (world.setAttachment startAt attachment).store.allRows = world.store.allRows := by
    unfold World.setAttachment RawStore.allRows
    rw [List.flatMap_map]
    refine List.flatMap_congr fun partition _ => ?_
    split_ifs <;> rfl
  refine ⟨by rw [hstarts]; exact h.names, fun partition hpartition => ?_, by rw [hrows]; exact h.ids,
    by rw [hrows]; exact h.drawn⟩
  obtain ⟨old, hold, heq⟩ := List.mem_map.mp
    (hstarts ▸ List.mem_map_of_mem (f := RawPartition.startAt) hpartition)
  rw [← heq]
  exact h.aligned old hold

end BpEngine.Storage
