import BpEngine.Storage.Run

/-!
# The discipline of a maintenance run

What every run keeps to, whatever the database and the archive directory answer.

* `RunPhase` is what a run knows: its reading of the clock, what it has selected and published, and
  the archive and the manifest it has read.
* `runProtocol` is the discipline: a run publishes what it selected, drops and deletes only what it
  has verified the archive of, and provides no hours before its reading of the clock.
* `triple_runCommand`: every run keeps to it.
-/

namespace BpEngine.Storage

variable {config : StorageConfig}

/-! ## The discipline of a run -/

/-- What a run knows: its reading of the clock, the rows it has selected and the ones it has published,
and the archive and the manifest it has read and not touched since. -/
structure RunPhase where
  now : Option ℤ := none
  selected : Option (ArchiveName × List RawRow) := none
  written : Option (ArchiveName × List RawRow) := none
  archive : Option (ArchiveName × List RawRow) := none
  manifest : Option (ArchiveName × ArchiveManifest) := none

/-- The archive was verified against its manifest. -/
structure Verified (config : StorageConfig) (name : ArchiveName) (manifest : ArchiveManifest)
    (rows : List RawRow) : Prop where
  archiveName : manifest.archiveName = name
  sha256 : config.sha256 rows = manifest.sha256
  compressedBytes : config.compressedBytes rows = manifest.compressedBytes
  rowCount : rows.length = manifest.rowCount

/-- The archive of the hour was verified, and the hour ended before the clock was read. -/
def MayDrop (config : StorageConfig) (phase : RunPhase) (startAt : ℤ) (rowCount : ℕ) : Prop :=
  floorHour startAt = startAt ∧ (∃ now, phase.now = some now ∧ startAt + hour ≤ now) ∧
    ∃ name manifest rows, phase.archive = some (name, rows) ∧
      phase.manifest = some (name, manifest) ∧ Verified config name manifest rows ∧
        manifest.startAt = startAt ∧ manifest.endAt = startAt + hour ∧ manifest.rowCount = rowCount

/-- The archive of the interval was verified. -/
def MayDelete (config : StorageConfig) (phase : RunPhase) (startAt endAt : ℤ) : Prop :=
  ∃ name manifest rows, phase.archive = some (name, rows) ∧
    phase.manifest = some (name, manifest) ∧ Verified config name manifest rows ∧
      manifest.startAt = startAt ∧ manifest.endAt = endAt

/-- What a run does about archives and tables. -/
def runProtocol (config : StorageConfig) : Protocol Op Op.Ans RunPhase where
  allowed phase op := match op with
    | .replaceArchive name rows => phase.selected = some (name, rows)
    | .writeManifest name manifest => manifest.startAt = name.startAt ∧
      manifest.endAt = name.endAt ∧ ∃ rows, phase.written = some (name, rows)
    | .ensurePartitionedRawStorage now => phase.now = some now
    | .recountAndDrop startAt rowCount => MayDrop config phase startAt rowCount
    | .deleteRawIntervalBatch startAt endAt _ => MayDelete config phase startAt endAt
    | _ => True
  expects phase op answer := match op, answer with
    | .readArchive name, .ok content => ∀ rows, phase.archive = some (name, rows) →
      content = some rows
    | .readManifest name, .ok content => ∀ manifest, content = some manifest →
      manifest.startAt = name.startAt ∧ manifest.endAt = name.endAt
    | _, _ => True
  next phase op answer := match op, answer with
    | .now, .ok now => { phase with now := some now }
    | .selectInterval startAt endAt, .ok rows =>
      { phase with selected := some (⟨startAt, endAt⟩, rows), written := none }
    | .readArchive name, .ok content =>
      { phase with archive := content.map fun rows => (name, rows) }
    | .readManifest name, .ok content =>
      { phase with manifest := content.map fun manifest => (name, manifest) }
    | .replaceArchive name rows, .ok _ =>
      { phase with archive := none, written := some (name, rows) }
    | .unlinkArchive _, _ => { phase with archive := none, written := none }
    | .writeManifest _ _, _ | .unlinkManifest _, _ => { phase with manifest := none }
    | _, _ => phase

variable {phase : RunPhase}

/-! ## The run keeps to the discipline -/

/-- The operations the discipline takes no note of. -/
def Op.quietForRun : Op → Bool
  | .now | .ensurePartitionedRawStorage _ | .selectInterval _ _ | .readArchive _ | .readManifest _
  | .replaceArchive _ _ | .unlinkArchive _ | .writeManifest _ _ | .unlinkManifest _
  | .recountAndDrop _ _ | .deleteRawIntervalBatch _ _ _ => false
  | _ => true

/-- The operations that are always allowed and leave the reading of the clock alone. -/
def Op.freeForRun : Op → Bool
  | .now | .ensurePartitionedRawStorage _ | .replaceArchive _ _ | .writeManifest _ _
  | .recountAndDrop _ _ | .deleteRawIntervalBatch _ _ _ => false
  | _ => true

abbrev RunQuiet (op : Op) : Prop := op.quietForRun = true

abbrev RunFree (op : Op) : Prop := op.freeForRun = true

theorem allowed_of_free {op : Op} (h : RunFree op) :
    (runProtocol config).allowed phase op := by
  cases op <;> trivial

theorem RunQuiet.free {op : Op} (h : RunQuiet op) : RunFree op := by
  cases op <;> first | rfl | cases h

theorem next_of_quiet {op : Op} (h : RunQuiet op) (answer : op.Ans) :
    (runProtocol config).next phase op answer = phase := by
  cases op <;> first | rfl | cases h

theorem now_of_free {op : Op} (h : RunFree op) (answer : op.Ans) :
    ((runProtocol config).next phase op answer).now = phase.now := by
  cases op <;> first | (cases h; done) | rfl | (cases answer <;> rfl)

/-- A quiet program leaves the phase alone. -/
theorem triple_of_quiet {α : Type} {program : StorageM α} {Q : RunPhase → α → Prop}
    (h : program.Only RunQuiet fun _ => True) (hQ : ∀ value, Q phase value) :
    (runProtocol config).Obeys (Protocol.Ends Q) program phase :=
  Protocol.Obeys.of_only h (fun _ hop => allowed_of_free hop.free)
    (fun _ answer hop => next_of_quiet hop answer) (fun value => Protocol.ends_ok.mpr (hQ value))
    fun _ _ => Protocol.ends_error

/-- A free program leaves the reading of the clock alone, however it ends. -/
theorem now_of_only_free {α : Type} {program : StorageM α}
    (h : program.Only RunFree fun _ => True) {now : Option ℤ} (hnow : phase.now = now) :
    (runProtocol config).Obeys (fun phase _ => phase.now = now) program phase :=
  Protocol.Obeys.of_only_keep h (fun _ _ _ hop => allowed_of_free hop)
    (fun _ _ answer hkept hop => (now_of_free hop answer).trans hkept) hnow

theorem RunFree.reads {op : Op} (h : op.readsFiles = true) : RunFree op := by
  cases op <;> trivial

theorem RunQuiet.reads {op : Op} (h : op.readsDatabase = true) : RunQuiet op := by
  cases op <;> trivial

theorem RunQuiet.detaches {op : Op} (h : op.detaches = true) : RunQuiet op := by
  cases op <;> trivial

theorem RunQuiet.purges {op : Op} (h : op.purges = true) : RunQuiet op := by
  cases op <;> trivial

theorem RunQuiet.prunesState {op : Op} (h : op.prunesState = true) : RunQuiet op := by
  cases op <;> trivial

theorem RunQuiet.records {op : Op} (h : op.records = true) : RunQuiet op := by
  cases op <;> trivial

theorem RunFree.unlinks {op : Op} (h : op.unlinks = true) : RunFree op := by
  cases op <;> trivial

/-- A triple of the discipline. -/
abbrev RunTriple (config : StorageConfig) {α : Type} (phase : RunPhase) (program : StorageM α)
    (Q : RunPhase → α → Prop) : Prop :=
  (runProtocol config).Obeys (Protocol.Ends Q) program phase

theorem triple_check {condition : Prop} [Decidable condition] {cls : PyClass} {message : String}
    {α : Type} {f : Unit → StorageM α} {Q : RunPhase → α → Prop}
    (h : condition → RunTriple config phase (f ()) Q) :
    RunTriple config phase (check condition cls message >>= f) Q :=
  Protocol.Obeys.ends_ofExcept_bind fun _ hcheck => h (require_eq_ok.mp hcheck)

/-- A quiet operation goes on in the same phase. -/
theorem triple_quiet_bind {op : Op} {α : Type} {f : op.Result → StorageM α}
    {Q : RunPhase → α → Prop} (hop : RunQuiet op)
    (h : ∀ result, RunTriple config phase (f result) Q) :
    RunTriple config phase (perform op >>= f) Q :=
  Protocol.Obeys.ends_ask_bind (allowed_of_free hop.free) fun result _ => by
    rw [next_of_quiet hop]
    exact h result

theorem triple_readArchive {name : ArchiveName} {cls : PyClass} {message : String} {α : Type}
    {f : List RawRow → StorageM α} {Q : RunPhase → α → Prop}
    (h : ∀ rows, (∀ known, phase.archive = some (name, known) → rows = known) →
      RunTriple config { phase with archive := some (name, rows) } (f rows) Q) :
    RunTriple config phase (readArchive name cls message >>= f) Q := by
  refine Protocol.Obeys.ends_bind (R := fun phase' rows =>
    phase' = { phase with archive := some (name, rows) } ∧
      ∀ known, phase.archive = some (name, known) → rows = known) ?_ ?_
  · refine Protocol.Obeys.ends_ask_bind trivial fun content hcontent => ?_
    cases content with
    | none => exact Protocol.ends_error
    | some rows =>
      exact Protocol.ends_ok.mpr ⟨rfl, fun known hknown => Option.some.inj (hcontent known hknown)⟩
  · rintro phase' rows ⟨rfl, hknown⟩
    exact h rows hknown

/-- **What `verify_archive` establishes**: the archive and the manifest it has read agree. -/
theorem triple_verifyArchive (name : ArchiveName) :
    RunTriple config phase (verifyArchive config name) fun phase' manifest =>
      phase'.now = phase.now ∧ ∃ rows, phase'.archive = some (name, rows) ∧
        phase'.manifest = some (name, manifest) ∧ Verified config name manifest rows ∧
          manifest.startAt = name.startAt ∧ manifest.endAt = name.endAt := by
  refine triple_quiet_bind rfl fun _ => triple_check fun _ => triple_quiet_bind rfl fun _ =>
    triple_check fun _ => ?_
  refine Protocol.Obeys.ends_ask_bind trivial fun content hcontent => ?_
  cases content with
  | none => exact Protocol.ends_error
  | some manifest =>
    obtain ⟨hstart, hend⟩ := hcontent manifest rfl
    refine triple_check fun hname => ?_
    refine triple_readArchive fun hashed _ => triple_check fun hsha256 => ?_
    refine triple_readArchive fun measured hmeasured => triple_check fun hbytes => ?_
    refine triple_readArchive fun counted hcounted => triple_check fun hcount => ?_
    obtain rfl : measured = hashed := hmeasured hashed rfl
    obtain rfl : counted = measured := hcounted measured rfl
    exact Protocol.ends_ok.mpr
      ⟨rfl, counted, rfl, rfl, ⟨hname, hsha256, hbytes, hcount⟩, hstart, hend⟩

theorem triple_exportInterval (name : ArchiveName) :
    RunTriple config phase (exportInterval config name) fun phase' manifest =>
      phase'.now = phase.now ∧ manifest.archiveName = name := by
  refine Protocol.Obeys.ends_ask_bind trivial fun rows _ => ?_
  refine Protocol.Obeys.ends_ask_bind rfl fun _ _ => ?_
  refine Protocol.Obeys.ends_ask_bind ⟨rfl, rfl, rows, rfl⟩ fun _ _ => ?_
  refine (triple_verifyArchive name).ends_mono fun phase' manifest h => ?_
  obtain ⟨hnow, rows, -, -, hverified, -⟩ := h
  exact ⟨hnow, hverified.archiveName⟩

theorem triple_archiveInterval (startAt endAt : ℤ) :
    RunTriple config phase (archiveInterval config startAt endAt) fun phase' manifest =>
      phase'.now = phase.now ∧ manifest.archiveName = ⟨startAt, endAt⟩ := by
  have hexists : RunTriple config phase (archiveAndManifestExist ⟨startAt, endAt⟩)
      fun phase' _ => phase' = phase := by
    refine triple_quiet_bind rfl fun present => ?_
    cases present with
    | false => exact Protocol.ends_ok.mpr rfl
    | true => exact Protocol.Obeys.ends_ask trivial fun _ _ => rfl
  refine triple_check fun _ => hexists.ends_bind fun phase' present hphase => ?_
  subst hphase
  cases present with
  | false => exact triple_exportInterval ⟨startAt, endAt⟩
  | true =>
    refine (triple_verifyArchive ⟨startAt, endAt⟩).ends_bind fun phase'' manifest h => ?_
    obtain ⟨hnow, rows, -, -, hverified, -⟩ := h
    exact triple_check fun _ => Protocol.ends_ok.mpr ⟨hnow, hverified.archiveName⟩

/-- What precedes the drop verifies the archive of the hour. -/
theorem triple_prepareRetirement (name : ArchiveName) (batchSize : ℤ) (allowTerminal : Bool) :
    RunTriple config phase (prepareRetirement config name batchSize allowTerminal)
      fun phase' manifest => phase'.now = phase.now ∧ ∃ rows, phase'.archive = some (name, rows) ∧
        phase'.manifest = some (name, manifest) ∧ Verified config name manifest rows ∧
          manifest.startAt = name.startAt ∧ manifest.endAt = manifest.startAt + hour ∧
            floorHour manifest.startAt = manifest.startAt := by
  refine triple_check fun _ => (triple_verifyArchive name).ends_bind fun phase' manifest h => ?_
  obtain ⟨hnow, rows, harchive, hmanifest, hverified, hstart, -⟩ := h
  refine triple_check fun hend => triple_check fun haligned => ?_
  refine (triple_of_quiet (only_compactCutoff manifest allowTerminal fun _ => RunQuiet.reads)
    (Q := fun phase'' _ => phase' = phase'') fun _ => rfl).ends_bind ?_
  rintro _ - rfl
  refine (triple_of_quiet (only_checkLiveRows manifest fun _ => RunQuiet.reads)
    (Q := fun phase'' _ => phase' = phase'') fun _ => rfl).ends_bind ?_
  rintro _ - rfl
  refine (triple_of_quiet (only_detachRawPartitionConcurrently manifest.startAt
    (fun _ => RunQuiet.reads) fun _ => RunQuiet.detaches)
    (Q := fun phase'' _ => phase' = phase'') fun _ => rfl).ends_bind ?_
  rintro _ - rfl
  exact Protocol.ends_ok.mpr ⟨hnow, rows, harchive, hmanifest, hverified, hstart, hend, haligned⟩

theorem triple_retireVerifiedPartition (fuel : ℕ) (name : ArchiveName) (batchSize : ℤ)
    (allowTerminal : Bool) {now : ℤ} (hnow : phase.now = some now)
    (hended : name.startAt + hour ≤ now) :
    RunTriple config phase (retireVerifiedPartition config fuel name batchSize allowTerminal)
      fun phase' _ => phase'.now = some now := by
  refine (triple_prepareRetirement name batchSize allowTerminal).ends_bind fun phase' manifest h => ?_
  obtain ⟨hsame, rows, harchive, hmanifest, hverified, hstart, hend, haligned⟩ := h
  have hmay : MayDrop config phase' manifest.startAt manifest.rowCount :=
    ⟨haligned, ⟨now, hsame.trans hnow, by rw [hstart]; exact hended⟩, name, manifest, rows, harchive,
      hmanifest, hverified, rfl, hend, rfl⟩
  refine Protocol.Obeys.ends_ask_bind hmay fun _ _ => ?_
  exact triple_of_quiet (only_purgeInterval fuel manifest batchSize fun _ => RunQuiet.purges)
    fun _ => hsame.trans hnow

theorem triple_retirePartitions (settings : RunSettings) {eligibleEnd now : ℤ}
    (hnow : phase.now = some now) (heligible : eligibleEnd ≤ now) (candidates : List ℤ) :
    RunTriple config phase (retirePartitions config settings eligibleEnd candidates)
      fun phase' _ => phase'.now = some now := by
  induction candidates generalizing phase with
  | nil => exact Protocol.ends_ok.mpr hnow
  | cons startAt later ih =>
    unfold retirePartitions
    split_ifs with hlate
    · exact ih hnow
    · refine triple_quiet_bind rfl fun health => ?_
      split_ifs
      · exact Protocol.ends_ok.mpr hnow
      · refine (triple_archiveInterval startAt (startAt + hour)).ends_bind fun phase' manifest h => ?_
        obtain ⟨hsame, hname⟩ := h
        have hended : manifest.archiveName.startAt + hour ≤ now := by
          rw [hname]
          change startAt + hour ≤ now
          omega
        refine (triple_retireVerifiedPartition settings.fuel manifest.archiveName
          settings.deleteBatchSize settings.allowTerminal (hsame.trans hnow) hended).ends_bind ?_
        exact fun phase'' _ hkept => ih hkept

/-- Every batch of an interval deletes what was verified. -/
theorem triple_deleteVerifiedInterval (fuel : ℕ) (name : ArchiveName) (batchSize : ℤ) :
    RunTriple config phase (deleteVerifiedInterval config fuel name batchSize)
      fun phase' _ => phase'.now = phase.now := by
  refine (triple_verifyArchive name).ends_bind fun phase' manifest h => ?_
  obtain ⟨hnow, rows, harchive, hmanifest, hverified, -⟩ := h
  have hmay : MayDelete config phase' manifest.startAt manifest.endAt :=
    ⟨name, manifest, rows, harchive, hmanifest, hverified, rfl, rfl⟩
  have honly : (deleteBatches batchSize (do
      check (¬ batchSize ≤ 0) .valueError "batch_size must be greater than zero"
      perform (.deleteRawIntervalBatch manifest.startAt manifest.endAt batchSize)) fuel).Only
      (fun op => op = .deleteRawIntervalBatch manifest.startAt manifest.endAt batchSize ∨ op = .spin)
      fun _ => True :=
    only_deleteBatches fuel (only_check.bind fun _ => only_perform (.inl rfl)) (.inr rfl)
  refine (Protocol.Obeys.of_only_keep (J := fun phase => phase = phase') honly ?_ ?_ rfl).mono ?_
  · rintro _ op rfl (rfl | rfl)
    · exact hmay
    · trivial
  · rintro _ op answer rfl (rfl | rfl) <;> rfl
  · rintro _ result rfl value -
    exact hnow

theorem triple_deleteIntervals (settings : RunSettings) {now : Option ℤ} (hours : ℕ)
    (hnow : phase.now = now) (startAt : ℤ) :
    RunTriple config phase (deleteIntervals config settings hours startAt)
      fun phase' _ => phase'.now = now := by
  induction hours generalizing phase startAt with
  | zero => exact Protocol.ends_ok.mpr hnow
  | succ hours ih =>
    refine triple_quiet_bind rfl fun health => ?_
    split_ifs
    · exact Protocol.ends_ok.mpr hnow
    · refine (triple_archiveInterval startAt (startAt + hour)).ends_bind fun phase' manifest h => ?_
      refine (triple_deleteVerifiedInterval settings.fuel manifest.archiveName
        settings.deleteBatchSize).ends_bind fun phase'' _ hkept => ?_
      exact ih (hkept.trans (h.1.trans hnow)) (startAt + hour)

theorem triple_retainRaw (settings : RunSettings) {now : ℤ} (hnow : phase.now = some now)
    (hhot : 0 ≤ settings.hotRawHours) (mode : RawStorageMode) :
    RunTriple config phase (retainRaw config settings now mode) fun _ _ => True := by
  have heligible : floorHour (now - settings.hotRawHours * hour) ≤ now := by
    have hfloor := floorHour_le (now - settings.hotRawHours * hour)
    have hhours : 0 ≤ settings.hotRawHours * hour := mul_nonneg hhot (by unfold hour; omega)
    omega
  unfold retainRaw
  simp only
  split_ifs
  · refine triple_quiet_bind rfl fun candidates => ?_
    exact (triple_retirePartitions settings hnow heligible candidates).ends_mono fun _ _ _ => trivial
  · refine triple_quiet_bind rfl fun earliest => ?_
    cases earliest with
    | none => exact Protocol.ends_ok.mpr trivial
    | some earliest =>
      exact (triple_deleteIntervals settings _ rfl _).ends_mono fun _ _ _ => trivial

theorem triple_finishRun (mode : RawStorageMode) (runId : ℕ) :
    RunTriple config phase (finishRun mode runId) fun _ _ => True := by
  refine triple_quiet_bind rfl fun finalDisk => ?_
  split_ifs
  · refine Protocol.Obeys.ends_ask_bind trivial fun finalHealthAt _ => ?_
    refine Protocol.Obeys.ends_ask_bind rfl fun _ _ => ?_
    refine triple_quiet_bind rfl fun _ => triple_quiet_bind rfl fun health => ?_
    split_ifs
    · exact triple_quiet_bind rfl fun _ => triple_quiet_bind rfl fun _ =>
        Protocol.ends_ok.mpr trivial
    · exact Protocol.ends_ok.mpr trivial
  · exact triple_quiet_bind rfl fun _ => Protocol.ends_ok.mpr trivial
  · exact triple_quiet_bind rfl fun _ => Protocol.ends_ok.mpr trivial

theorem triple_retentionCycle (settings : RunSettings) {now : ℤ} (hnow : phase.now = some now)
    (hhot : 0 ≤ settings.hotRawHours) (mode : RawStorageMode) (runId : ℕ) :
    RunTriple config phase (retentionCycle config settings now mode runId) fun _ _ => True := by
  have hprune : (runProtocol config).Obeys (fun phase' _ => phase'.now = some now)
      (pruneExpiredArchives config now (settings.hotRawHours + settings.archiveRetentionHours)) phase :=
    now_of_only_free (only_pruneExpiredArchives config now _ (fun _ => RunFree.reads)
      (fun _ hop => (RunQuiet.reads hop).free) fun _ => RunFree.unlinks) hnow
  refine Protocol.Obeys.ends_bind (R := fun phase' _ => phase'.now = some now)
    (hprune.mono fun _ _ hkept _ _ => hkept) fun phase' _ hkept => ?_
  refine triple_quiet_bind rfl fun health => ?_
  split_ifs
  · exact triple_quiet_bind rfl fun _ => Protocol.ends_ok.mpr trivial
  · refine (triple_retainRaw settings hkept hhot mode).ends_bind fun phase'' _ _ => ?_
    refine (triple_of_quiet (only_pruneExpiredState settings.fuel now settings.stateRetentionDays
      settings.deleteBatchSize fun _ => RunQuiet.prunesState) (Q := fun _ _ => True)
      fun _ => trivial).ends_bind fun _ _ _ => ?_
    exact triple_finishRun mode runId

/-- **Every run keeps to the discipline.** -/
theorem triple_runCommand (settings : RunSettings) :
    RunTriple config phase (runCommand config settings) fun _ _ => True := by
  refine triple_check fun hhot => triple_check fun _ => triple_check fun _ => triple_check fun _ => ?_
  refine Protocol.Obeys.ends_ask_bind trivial fun now _ => ?_
  refine triple_quiet_bind rfl fun mode => ?_
  have hrest : ∀ phase : RunPhase, phase.now = some now → RunTriple config phase (do
      let runId ← perform .recordMaintenanceStart
      (retentionCycle config settings now mode runId).catchError (recordFailure runId))
      fun _ _ => True := by
    intro phase hnow
    refine triple_quiet_bind rfl fun runId => ?_
    refine Protocol.obeys_catchError.mpr ?_
    refine (triple_retentionCycle settings hnow hhot mode runId).mono fun phase' result _ => ?_
    cases result with
    | ok value => exact Protocol.ends_ok.mpr trivial
    | error raised =>
      exact triple_of_quiet (only_recordFailure runId raised fun _ => RunQuiet.records)
        fun _ => trivial
  split_ifs
  · exact Protocol.Obeys.ends_ask_bind rfl fun _ _ => hrest _ rfl
  · exact hrest _ rfl

end BpEngine.Storage
