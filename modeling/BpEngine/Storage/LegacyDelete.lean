import BpEngine.Storage.Discipline

/-!
# A deleted interval is archived

`delete_verified_interval` deletes by receive time, and it counts no rows again: it deletes an archived
row as long as no row comes to an interval that has its export.

* `Complete` says that an export holds every row of its interval, `Held` that an export counts: its
  archive and its manifest are published, or the run at work has selected it.
* `NoLateRow` is the condition on what the recorder inserts; `deletingKeeps` is the step.
* `deleted_rows_archived` is the result for every run; `not_deleted_rows_archived` is a run in which a
  late row is deleted that no archive holds.
-/

namespace BpEngine.Storage

/-- The export holds every row of its interval. -/
def Complete (stored : List RawRow) (name : ArchiveName) (rows : List RawRow) : Prop :=
  ∀ row ∈ stored, within name.startAt name.endAt row = true → row ∈ rows

/-- The interval has its export: the archive and the manifest are published, or the run at work has
selected the rows. -/
def Held (world : World) (phase : RunPhase) (name : ArchiveName) : Prop :=
  (∃ rows manifest, Files.read world.archives name = some rows ∧
    Files.read world.manifests name = some manifest) ∨
    ∃ rows, phase.selected = some (name, rows)

/-- No row comes to an interval that has its export. -/
def NoLateRow (world : World) (phase : RunPhase) (change : Change) : Prop :=
  ∀ row ∈ (world.change change).legacy.rows, row ∉ world.legacy.rows →
    ∀ name, Held world phase name → within name.startAt name.endAt row = false

/-- The guard of the runs in which the deletion is safe. -/
def onTime : Process.Guard World RunSettings Change RunPhase Raised ℕ where
  outside := fun world phase change => NoLateRow world (phase.getD {}) change
  finish := fun _ _ _ => True
  crash := True

variable {config : StorageConfig} {world after : World} {stored later rows : List RawRow}
  {name : ArchiveName} {phase : RunPhase}

/-! ## The legacy table -/

/-- A row that a batch takes away is in the interval. -/
theorem within_of_not_survives (hids : (stored.map RawRow.id).Nodup) (startAt endAt limit : ℤ)
    {row : RawRow} (hrow : row ∈ stored)
    (hgone : row ∉ survivingRows stored startAt endAt limit) : within startAt endAt row = true := by
  have hdoomed : (doomedRows stored startAt endAt limit).any (·.id = row.id) = true := by
    by_contra hspared
    refine hgone (List.mem_filter.mpr ⟨hrow, ?_⟩)
    simpa using hspared
  obtain ⟨doomed, hmem, hid⟩ := List.any_eq_true.mp hdoomed
  have hselected : doomed ∈ stored.filter (within startAt endAt) :=
    (List.perm_insertionSort _ _).subset (List.mem_of_mem_take hmem)
  obtain ⟨hstored, hwithin⟩ := List.mem_filter.mp hselected
  have hsame : doomed = row :=
    List.inj_on_of_nodup_map hids hstored hrow (by simpa using hid)
  rwa [← hsame]

/-- The ids of the legacy table were drawn from its sequence. -/
structure LegacyStore.Sound (legacy : LegacyStore) : Prop where
  ids : (legacy.rows.map RawRow.id).Nodup
  drawn : ∀ row ∈ legacy.rows, row.id < legacy.nextId

theorem LegacyStore.Sound.insert {legacy : LegacyStore} (h : legacy.Sound) (event : RawEvent) :
    (legacy.insert event).Sound := by
  unfold LegacyStore.insert
  by_cases hknown : legacy.rows.any (·.dedupeKey = event.dedupeKey)
  · rw [if_pos hknown]
    exact ⟨h.ids, fun row hrow => Nat.lt_succ_of_lt (h.drawn row hrow)⟩
  · rw [if_neg hknown]
    constructor
    · rw [List.map_append]
      refine List.Nodup.append h.ids (List.nodup_singleton _) ?_
      intro id hid hnew
      obtain ⟨row, hrow, rfl⟩ := List.mem_map.mp hid
      have hlt := h.drawn row hrow
      have heq : row.id = legacy.nextId := by simpa using hnew
      omega
    · intro row hrow
      rcases List.mem_append.mp hrow with hold | hnew
      · exact Nat.lt_succ_of_lt (h.drawn row hold)
      · rw [List.mem_singleton.mp hnew]
        exact Nat.lt_succ_self _

theorem LegacyStore.Sound.draw {legacy : LegacyStore} (h : legacy.Sound) (drawn : ℕ) :
    ({ legacy with nextId := legacy.nextId + drawn } : LegacyStore).Sound :=
  ⟨h.ids, fun row hrow => Nat.lt_add_right drawn (h.drawn row hrow)⟩

theorem LegacyStore.Sound.commitBatch {legacy : LegacyStore} (h : legacy.Sound)
    (events : List RawEvent) (fault : Option ℕ) : (commitLegacyBatch legacy events fault).Sound := by
  have hinserted : ∀ legacy : LegacyStore, legacy.Sound →
      (events.foldl LegacyStore.insert legacy).Sound := by
    induction events with
    | nil => exact fun _ hsound => hsound
    | cons event events ih => exact fun legacy hsound => ih _ (hsound.insert event)
  unfold commitLegacyBatch
  cases fault with
  | some drawn => exact h.draw drawn
  | none =>
    simp only
    split_ifs
    · exact hinserted legacy h
    · exact h.draw _

theorem LegacyStore.Sound.delete {legacy : LegacyStore} (h : legacy.Sound)
    (startAt endAt limit : ℤ) :
    ({ legacy with rows := survivingRows legacy.rows startAt endAt limit } : LegacyStore).Sound :=
  ⟨h.ids.sublist (List.filter_sublist.map _),
    fun row hrow => h.drawn row (List.mem_filter.mp hrow).1⟩

/-- What comes from outside takes no row away. -/
theorem legacy_rows_change (change : Change) {row : RawRow} (hrow : row ∈ world.legacy.rows) :
    row ∈ (world.change change).legacy.rows := by
  have hinsert : ∀ (legacy : LegacyStore) event, row ∈ legacy.rows →
      row ∈ (legacy.insert event).rows := by
    intro legacy event hin
    unfold LegacyStore.insert
    split_ifs
    · exact hin
    · exact List.mem_append_left _ hin
  have hinserted : ∀ (events : List RawEvent) (legacy : LegacyStore), row ∈ legacy.rows →
      row ∈ (events.foldl LegacyStore.insert legacy).rows := by
    intro events
    induction events with
    | nil => exact fun _ hin => hin
    | cons event events ih => exact fun legacy hin => ih _ (hinsert legacy event hin)
  cases change with
  | ensure => exact hrow
  | upsertState compact => exact hrow
  | elapse duration => exact hrow
  | insertEvents early events fault =>
    simp only [World.change]
    cases world.mode with
    | missing => exact hrow
    | partitioned => exact hrow
    | legacy =>
      simp only [commitLegacyBatch]
      cases fault with
      | some drawn => exact hrow
      | none =>
        simp only
        split_ifs
        · exact hinserted events _ hrow
        · exact hrow

/-- Only a batch of `delete_raw_interval_batch` changes the legacy table. -/
theorem apply_legacy {op : Op} {offered result : op.Result}
    (happly : world.apply config op offered = .ok (result, after))
    (hop : ∀ startAt endAt limit, op ≠ .deleteRawIntervalBatch startAt endAt limit) :
    after.legacy = world.legacy := by
  cases op
  case deleteRawIntervalBatch startAt endAt limit => exact absurd rfl (hop startAt endAt limit)
  case recountAndDrop startAt rowCount =>
    obtain ⟨partition, -, -, -, rfl⟩ := recountAndDrop_eq_ok (apply_recountAndDrop happly)
    rfl
  case rawIntervalIsEmpty startAt endAt =>
    simp only [World.apply] at happly
    cases hempty : world.rawIntervalIsEmpty startAt endAt with
    | error raised => simp [hempty, Except.map] at happly
    | ok empty =>
      simp only [hempty, Except.map, Except.ok.injEq, Prod.mk.injEq] at happly
      rw [← happly.2]
  case detachConcurrently startAt =>
    simp only [World.apply] at happly
    split_ifs at happly
    · obtain ⟨-, rfl⟩ := Prod.mk.inj (Except.ok.inj happly)
      rfl
    · cases happly
  case finalizeDetach startAt =>
    simp only [World.apply] at happly
    split_ifs at happly
    · obtain ⟨-, rfl⟩ := Prod.mk.inj (Except.ok.inj happly)
      rfl
    · cases happly
  all_goals
    obtain ⟨-, rfl⟩ := Prod.mk.inj (Except.ok.inj happly)
    rfl

/-! ## The invariant -/

/-- The world and what a run knows of it. -/
structure DeleteInv (world : World) (phase : RunPhase) : Prop where
  mode : world.mode = .legacy
  sound : world.legacy.Sound
  archives : ∀ name rows manifest, Files.read world.archives name = some rows →
    Files.read world.manifests name = some manifest → Complete world.legacy.rows name rows
  manifests : ∀ name manifest, Files.read world.manifests name = some manifest →
    manifest.startAt = name.startAt ∧ manifest.endAt = name.endAt
  selected : ∀ name rows, phase.selected = some (name, rows) →
    Complete world.legacy.rows name rows
  written : ∀ name rows, phase.written = some (name, rows) →
    phase.selected = some (name, rows) ∧ Files.read world.archives name = some rows
  archive : ∀ name rows, phase.archive = some (name, rows) →
    Files.read world.archives name = some rows
  manifest : ∀ name manifest, phase.manifest = some (name, manifest) →
    Files.read world.manifests name = some manifest

/-- What a run knows ends with the run. -/
theorem DeleteInv.forget (h : DeleteInv world phase) : DeleteInv world {} :=
  ⟨h.mode, h.sound, h.archives, h.manifests, nofun, nofun, nofun, nofun⟩

/-- Rows that are gone, or that came to an interval without an export, keep the invariant. -/
theorem DeleteInv.of_rows (h : DeleteInv world phase)
    (hmode : after.mode = world.mode) (hsound : after.legacy.Sound)
    (hrows : ∀ row ∈ after.legacy.rows, row ∈ world.legacy.rows ∨
      ∀ name, Held world phase name → within name.startAt name.endAt row = false)
    (harchives : after.archives = world.archives) (hmanifests : after.manifests = world.manifests) :
    DeleteInv after phase := by
  have hcomplete : ∀ name rows, Held world phase name → Complete world.legacy.rows name rows →
      Complete after.legacy.rows name rows := by
    intro name rows hheld hcomplete row hrow hwithin
    rcases hrows row hrow with hold | hlate
    · exact hcomplete row hold hwithin
    · rw [hlate name hheld] at hwithin
      cases hwithin
  refine ⟨hmode.trans h.mode, hsound, fun name rows manifest hread hmanifest => ?_, ?_,
    fun name rows hselected => ?_, ?_, ?_, ?_⟩
  · rw [harchives] at hread
    rw [hmanifests] at hmanifest
    exact hcomplete name rows (.inl ⟨rows, manifest, hread, hmanifest⟩)
      (h.archives name rows manifest hread hmanifest)
  · rw [hmanifests]
    exact h.manifests
  · exact hcomplete name rows (.inr ⟨rows, hselected⟩) (h.selected name rows hselected)
  · rw [harchives]
    exact h.written
  · rw [harchives]
    exact h.archive
  · rw [hmanifests]
    exact h.manifest

/-- An operation that leaves the table and the directory alone keeps the invariant. -/
theorem DeleteInv.same (h : DeleteInv world phase) (hmode : after.mode = world.mode)
    (hlegacy : after.legacy = world.legacy) (harchives : after.archives = world.archives)
    (hmanifests : after.manifests = world.manifests) : DeleteInv after phase := by
  refine h.of_rows hmode (hlegacy ▸ h.sound) (fun row hrow => .inl ?_) harchives hmanifests
  rwa [hlegacy] at hrow

/-- The recorder and the clock keep the invariant, as long as no row is late. -/
theorem DeleteInv.change (h : DeleteInv world phase) {change : Change}
    (hlate : NoLateRow world phase change) : DeleteInv (world.change change) phase := by
  have hrows : ∀ row ∈ (world.change change).legacy.rows, row ∈ world.legacy.rows ∨
      ∀ name, Held world phase name → within name.startAt name.endAt row = false := by
    intro row hrow
    by_cases hold : row ∈ world.legacy.rows
    · exact .inl hold
    · exact .inr (hlate row hrow hold)
  cases change with
  | ensure => exact h.of_rows rfl h.sound hrows rfl rfl
  | upsertState compact => exact h.of_rows rfl h.sound hrows rfl rfl
  | elapse duration => exact h.of_rows rfl h.sound hrows rfl rfl
  | insertEvents early events fault =>
    have hworld : world.change (.insertEvents early events fault) =
        { world with legacy := commitLegacyBatch world.legacy events fault } := by
      simp only [World.change, h.mode]
    rw [hworld] at hrows ⊢
    exact h.of_rows rfl (h.sound.commitBatch events fault) hrows rfl rfl

/-- A failed operation teaches nothing. -/
theorem DeleteInv.failed (h : DeleteInv world phase) (op : Op) (raised : Raised) :
    DeleteInv world ((runProtocol config).next phase op (.error raised)) := by
  cases op
  case unlinkArchive name =>
    exact ⟨h.mode, h.sound, h.archives, h.manifests, h.selected, nofun, nofun, h.manifest⟩
  case writeManifest name manifest =>
    exact ⟨h.mode, h.sound, h.archives, h.manifests, h.selected, h.written, h.archive, nofun⟩
  case unlinkManifest name =>
    exact ⟨h.mode, h.sound, h.archives, h.manifests, h.selected, h.written, h.archive, nofun⟩
  all_goals exact h

/-- An export, at the moment it is selected. -/
theorem complete_select (hmode : world.mode = .legacy) (startAt endAt : ℤ) :
    Complete world.legacy.rows ⟨startAt, endAt⟩
      (inOrder (world.rawMarketEvents.filter (within startAt endAt))) := by
  intro row hrow hwithin
  have hmem : row ∈ world.rawMarketEvents := by
    unfold World.rawMarketEvents
    rw [hmode]
    exact hrow
  exact (List.perm_insertionSort _ _).mem_iff.mpr (List.mem_filter.mpr ⟨hmem, hwithin⟩)

/-- **The step**: an allowed operation keeps what a run knows, and its answer is as expected. -/
theorem DeleteInv.serve (h : DeleteInv world phase) {op : Op} {proposal answer : op.Ans}
    (hallowed : (runProtocol config).allowed phase op)
    (hserve : world.serve config op proposal = some (answer, after)) :
    (runProtocol config).expects phase op answer ∧
      DeleteInv after ((runProtocol config).next phase op answer) := by
  rcases serve_eq_some hserve with ⟨raised, rfl, rfl⟩ | ⟨offered, result, rfl, happly⟩
  · exact ⟨by cases op <;> trivial, h.failed op raised⟩
  · obtain ⟨hmode, -, -, -, hfiles⟩ := apply_frame happly
    have hlegacy := apply_legacy happly
    cases op
    case now =>
      obtain ⟨rfl, rfl⟩ := Prod.mk.inj (Except.ok.inj happly)
      exact ⟨trivial, ⟨h.mode, h.sound, h.archives, h.manifests, h.selected, h.written, h.archive,
        h.manifest⟩⟩
    case selectInterval startAt endAt =>
      obtain ⟨rfl, rfl⟩ := Prod.mk.inj (Except.ok.inj happly)
      refine ⟨trivial, ⟨h.mode, h.sound, h.archives, h.manifests, fun name rows hrows => ?_, nofun,
        h.archive, h.manifest⟩⟩
      obtain ⟨rfl, rfl⟩ := Prod.mk.inj (Option.some.inj hrows)
      exact complete_select h.mode startAt endAt
    case readArchive name =>
      obtain ⟨rfl, rfl⟩ := Prod.mk.inj (Except.ok.inj happly)
      refine ⟨fun rows hrows => h.archive name rows hrows, ⟨h.mode, h.sound, h.archives, h.manifests,
        h.selected, h.written, fun name' rows hrows => ?_, h.manifest⟩⟩
      obtain ⟨content, hcontent, heq⟩ := Option.map_eq_some_iff.mp hrows
      obtain ⟨rfl, rfl⟩ := Prod.mk.inj heq
      exact hcontent
    case readManifest name =>
      obtain ⟨rfl, rfl⟩ := Prod.mk.inj (Except.ok.inj happly)
      refine ⟨fun manifest hread => h.manifests name manifest hread, ⟨h.mode, h.sound, h.archives,
        h.manifests, h.selected, h.written, h.archive, fun name' manifest hread => ?_⟩⟩
      obtain ⟨content, hcontent, heq⟩ := Option.map_eq_some_iff.mp hread
      obtain ⟨rfl, rfl⟩ := Prod.mk.inj heq
      exact hcontent
    case replaceArchive name rows =>
      obtain ⟨-, rfl⟩ := Prod.mk.inj (Except.ok.inj happly)
      refine ⟨trivial, ⟨h.mode, h.sound, fun other content manifest hread hmanifest => ?_,
        h.manifests, h.selected, fun other content hwritten => ?_, nofun, h.manifest⟩⟩
      · rw [Files.read_replace] at hread
        split_ifs at hread with hname
        · obtain rfl := Option.some.inj hread
          rw [hname]
          exact h.selected name rows hallowed
        · exact h.archives other content manifest hread hmanifest
      · obtain ⟨rfl, rfl⟩ := Prod.mk.inj (Option.some.inj hwritten)
        exact ⟨hallowed, by rw [Files.read_replace, if_pos rfl]⟩
    case unlinkArchive name =>
      obtain ⟨-, rfl⟩ := Prod.mk.inj (Except.ok.inj happly)
      exact ⟨trivial, ⟨h.mode, h.sound, fun other rows manifest hread hmanifest =>
        h.archives other rows manifest (Files.read_unlink_eq_some hread) hmanifest, h.manifests,
        h.selected, nofun, nofun, h.manifest⟩⟩
    case writeManifest name manifest =>
      obtain ⟨-, rfl⟩ := Prod.mk.inj (Except.ok.inj happly)
      obtain ⟨hstart, hend, rows, hwritten⟩ := hallowed
      obtain ⟨hselected, hpublished⟩ := h.written name rows hwritten
      refine ⟨trivial, ⟨h.mode, h.sound, fun other content known hread hmanifest => ?_,
        fun other known hmanifest => ?_, h.selected, h.written, h.archive, nofun⟩⟩
      · rw [Files.read_replace] at hmanifest
        split_ifs at hmanifest with hname
        · subst hname
          obtain rfl := Option.some.inj (hpublished.symm.trans hread)
          exact h.selected other rows hselected
        · exact h.archives other content known hread hmanifest
      · rw [Files.read_replace] at hmanifest
        split_ifs at hmanifest with hname
        · obtain rfl := Option.some.inj hmanifest
          rw [hname]
          exact ⟨hstart, hend⟩
        · exact h.manifests other known hmanifest
    case unlinkManifest name =>
      obtain ⟨-, rfl⟩ := Prod.mk.inj (Except.ok.inj happly)
      exact ⟨trivial, ⟨h.mode, h.sound, fun other rows manifest hread hmanifest =>
        h.archives other rows manifest hread (Files.read_unlink_eq_some hmanifest),
        fun other manifest hmanifest => h.manifests other manifest
          (Files.read_unlink_eq_some hmanifest), h.selected, h.written, h.archive, nofun⟩⟩
    case deleteRawIntervalBatch startAt endAt limit =>
      obtain ⟨-, rfl⟩ := Prod.mk.inj (Except.ok.inj happly)
      exact ⟨trivial, h.of_rows rfl (h.sound.delete startAt endAt limit)
        (fun row hrow => .inl (List.mem_filter.mp hrow).1) rfl rfl⟩
    all_goals
      obtain ⟨harchives, hmanifests⟩ := hfiles rfl
      exact ⟨trivial, h.same hmode (hlegacy nofun) harchives hmanifests⟩

/-! ## The result -/

/-- The step lemmas put together. -/
theorem deletingKeeps (config : StorageConfig) :
    Process.Keeps onTime (runProtocol config) (fun _ => {}) (maintenanceHost config)
      (fun _ => Protocol.Ends fun _ _ => True) (fun world => DeleteInv world {}) DeleteInv where
  obeys := fun settings => triple_runCommand settings
  start := fun _ _ h => h
  serve := fun _ _ _ _ _ _ h hallowed hserve => h.serve hallowed hserve
  finish := fun _ _ _ _ h _ _ => h.forget
  stop := fun _ _ h => h
  crash := fun _ _ _ h => h.forget
  idle := fun _ _ hlate h => h.change hlate
  outside := fun _ _ _ hlate h => h.change hlate

/-- The events of a run meet the condition, one after another. -/
abbrev OnTime (config : StorageConfig) (process : Maintenance) (events : List MaintenanceEvent) :
    Prop :=
  Machine.Along (Process.exec (maintenanceHost config))
    (onTime.Passes (runProtocol config) fun _ => {}) process events

/-- The invariant of a process of the maintenance. -/
abbrev DeletingInv (config : StorageConfig) (process : Maintenance) : Prop :=
  process.Inv (runProtocol config) (fun _ => {}) (fun _ => Protocol.Ends fun _ _ => True)
    (fun world => DeleteInv world {}) DeleteInv

theorem deletingInv_run (config : StorageConfig) (clock : ℤ) {events : List MaintenanceEvent}
    (hontime : OnTime config (Maintenance.initial .legacy clock) events) :
    DeletingInv config (Machine.run (Process.exec (maintenanceHost config))
      (Maintenance.initial .legacy clock) events) := by
  have hinitial : DeletingInv config (Maintenance.initial .legacy clock) := by
    refine (Process.Inv.of_idle rfl).mpr ⟨rfl, ⟨List.nodup_nil, nofun⟩, ?_, ?_, nofun, nofun, nofun,
      nofun⟩
    · intro name rows manifest hread
      cases hread
    · intro name manifest hread
      cases hread
  exact Process.inv_run (deletingKeeps config) hinitial hontime

/-- **A deleted row is archived.**  In every run of the maintenance of a legacy table to which no row
comes late: a row that a step takes away was deleted by a batch of its interval, and the archive
directory holds the archive of that interval, verified against its manifest, with the row in it. -/
theorem deleted_rows_archived (config : StorageConfig) (clock : ℤ) (events : List MaintenanceEvent)
    (event : MaintenanceEvent)
    (hontime : OnTime config (Maintenance.initial .legacy clock) events) :
    let process := Machine.run (Process.exec (maintenanceHost config))
      (Maintenance.initial .legacy clock) events
    ∀ row ∈ process.world.legacy.rows,
      row ∉ (process.exec (maintenanceHost config) event).world.legacy.rows →
      ∃ call startAt endAt limit deleted manifest rows,
        process.performs (maintenanceHost config) event =
          some (call, ⟨.deleteRawIntervalBatch startAt endAt limit, .ok deleted⟩) ∧
        within startAt endAt row = true ∧
        Files.read process.world.archives ⟨startAt, endAt⟩ = some rows ∧
        Files.read process.world.manifests ⟨startAt, endAt⟩ = some manifest ∧
        Verified config ⟨startAt, endAt⟩ manifest rows ∧ row ∈ rows := by
  intro process row hrow hgone
  have hinv : DeletingInv config process := deletingInv_run config clock hontime
  rcases process.exec_world_cases (maintenanceHost config) event with
    hsame | ⟨-, hstopped⟩ | ⟨change, -, hchanged⟩ | ⟨call, op, proposal, answer, hperforms, hserve⟩
  · exact absurd hrow (by rwa [hsame] at hgone)
  · rw [hstopped] at hgone
    exact absurd hrow hgone
  · rw [hchanged] at hgone
    exact absurd (legacy_rows_change change hrow) hgone
  · obtain ⟨-, hallowed, hknown⟩ := hinv.allowed_of_performs hperforms
    rcases serve_eq_some hserve with ⟨raised, rfl, hsame⟩ | ⟨offered, result, rfl, happly⟩
    · rw [hsame] at hgone
      exact absurd hrow hgone
    · by_cases hop : ∃ startAt endAt limit, op = .deleteRawIntervalBatch startAt endAt limit
      · obtain ⟨startAt, endAt, limit, rfl⟩ := hop
        obtain ⟨name, manifest, rows, harchive, hmanifest, hverified, rfl, rfl⟩ := hallowed
        have hread := hknown.archive name rows harchive
        have hpublished := hknown.manifest name manifest hmanifest
        obtain ⟨hstart, hend⟩ := hknown.manifests name manifest hpublished
        have hname : (⟨manifest.startAt, manifest.endAt⟩ : ArchiveName) = name := by
          rw [hstart, hend]
        have hwithin : within manifest.startAt manifest.endAt row = true := by
          refine within_of_not_survives hknown.sound.ids _ _ limit hrow fun hsurvives => ?_
          obtain ⟨-, hafter⟩ := Prod.mk.inj (Except.ok.inj happly)
          rw [← hafter] at hgone
          exact hgone hsurvives
        refine ⟨call, _, _, limit, result, manifest, rows, hperforms, hwithin, ?_⟩
        rw [hname]
        refine ⟨hread, hpublished, hverified, ?_⟩
        refine hknown.archives name rows manifest hread hpublished row hrow ?_
        rwa [hstart, hend] at hwithin
      · have hlegacy := apply_legacy happly fun startAt endAt limit heq =>
          hop ⟨startAt, endAt, limit, heq⟩
        rw [hlegacy] at hgone
        exact absurd hrow hgone

/-- An hour with one row ends, a run starts and goes on for some steps, and rows are inserted. -/
def sampleDeletion (steps : ℕ) (late : List RawEvent) : List MaintenanceEvent :=
  .outside (.insertEvents false [sampleEvent "a" 7] none) :: .outside (.elapse 3600000000) ::
    .start sampleSettings :: (List.replicate steps MaintenanceEvent.go ++
      [.outside (.insertEvents false late none)])

theorem onTime_replicate_go (config : StorageConfig) (process : Maintenance) (count : ℕ) :
    OnTime config process (List.replicate count MaintenanceEvent.go) := by
  induction count generalizing process with
  | zero => trivial
  | succ count ih => exact ⟨fun _ _ => ⟨fun _ _ => trivial, fun _ _ => trivial⟩, ih _⟩

/-- The deletion of an hour with one row. -/
theorem deleted_rows_archived_sample :
    let process := Machine.run (Process.exec (maintenanceHost sampleConfig))
      (Maintenance.initial .legacy 0) (sampleDeletion 23 [])
    ∃ row ∈ process.world.legacy.rows,
      ∃ call startAt endAt limit deleted manifest rows,
        process.performs (maintenanceHost sampleConfig) MaintenanceEvent.go =
          some (call, ⟨.deleteRawIntervalBatch startAt endAt limit, .ok deleted⟩) ∧
        within startAt endAt row = true ∧
        Files.read process.world.archives ⟨startAt, endAt⟩ = some rows ∧
        Files.read process.world.manifests ⟨startAt, endAt⟩ = some manifest ∧
        Verified sampleConfig ⟨startAt, endAt⟩ manifest rows ∧ row ∈ rows := by
  intro process
  have hontime : OnTime sampleConfig (Maintenance.initial .legacy 0) (sampleDeletion 23 []) := by
    refine ⟨fun row _ _ name hheld => ?_, fun row hrow hnew => absurd hrow hnew, trivial, ?_⟩
    · rcases hheld with ⟨rows, manifest, hread, -⟩ | ⟨rows, hselected⟩
      · cases hread
      · cases hselected
    · refine (Machine.along_append _ _ _ _).mpr ⟨onTime_replicate_go _ _ _, fun row hrow hnew => ?_,
        trivial⟩
      exact absurd hrow hnew
  obtain ⟨row, hrow, hgone⟩ : ∃ row ∈ process.world.legacy.rows,
      ∀ later ∈ (process.exec (maintenanceHost sampleConfig) MaintenanceEvent.go).world.legacy.rows,
        later.id ≠ row.id := by
    decide +kernel
  exact ⟨row, hrow, deleted_rows_archived sampleConfig 0 (sampleDeletion 23 []) MaintenanceEvent.go hontime row hrow
    fun hkept => hgone row hkept rfl⟩

/-- A row that comes when the archive is being verified is deleted, and no archive holds it. -/
theorem late_row_lost :
    let process := Machine.run (Process.exec (maintenanceHost sampleConfig))
      (Maintenance.initial .legacy 0)
      (sampleDeletion 13 [sampleEvent "b" 8] ++ List.replicate 10 MaintenanceEvent.go)
    ∃ row ∈ process.world.legacy.rows,
      (∀ later ∈ (process.exec (maintenanceHost sampleConfig)
        MaintenanceEvent.go).world.legacy.rows, later.id ≠ row.id) ∧
        ∀ file ∈ process.world.archives, ∀ archived ∈ file.2, archived.id ≠ row.id := by
  decide +kernel

/-- Not every row that is deleted is archived. -/
theorem not_deleted_rows_archived :
    ¬ ∀ (config : StorageConfig) (clock : ℤ) (events : List MaintenanceEvent)
        (event : MaintenanceEvent),
      let process := Machine.run (Process.exec (maintenanceHost config))
        (Maintenance.initial .legacy clock) events
      ∀ row ∈ process.world.legacy.rows,
        row ∉ (process.exec (maintenanceHost config) event).world.legacy.rows →
        ∃ file ∈ process.world.archives, row ∈ file.2 := by
  intro h
  have hlate := h sampleConfig 0
    (sampleDeletion 13 [sampleEvent "b" 8] ++ List.replicate 10 MaintenanceEvent.go)
    MaintenanceEvent.go
  obtain ⟨row, hrow, hgone, hlost⟩ := late_row_lost
  obtain ⟨file, hfile, harchived⟩ := hlate row hrow fun hkept => hgone row hkept rfl
  exact hlost file hfile row harchived rfl

end BpEngine.Storage
