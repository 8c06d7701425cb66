import BpEngine.Storage.Discipline

/-!
# A dropped partition is archived

Every row of an hourly table that the maintenance drops is in the archive of its hour, whatever the
recorder writes in between.

* `Archived` is what an export stays good for: each of its rows is still in a table, or the table of
  its hour is gone for good.
* `ArchiveInv` is the invariant; `retireKeeps` is its step.
* `dropped_rows_archived` is the result for every run of the maintenance.
-/

namespace BpEngine.Storage

/-! ## Exports -/

/-- The rows were selected from the interval of the name, and each of them is still in a table or its
hour ended by `bound` and has no table. -/
structure Archived (store : RawStore) (bound : ℤ) (name : ArchiveName) (rows : List RawRow) : Prop where
  nodup : rows.Nodup
  within : ∀ row ∈ rows, name.startAt ≤ row.receivedAt ∧ row.receivedAt < name.endAt
  kept : ∀ row ∈ rows, (∃ partition ∈ store.partitions, row ∈ partition.rows) ∨
    floorHour row.receivedAt + hour ≤ bound ∧
      ∀ partition ∈ store.partitions, partition.startAt ≠ floorHour row.receivedAt

/-- The invariant of the world, as far as the archives go. -/
structure ArchiveInv (bound : ℤ) (world : World) : Prop where
  mode : world.mode = .partitioned
  sound : world.store.Sound
  bound_le : bound ≤ world.clock
  archived : ∀ file ∈ world.archives, Archived world.store bound file.1 file.2
  manifests : ∀ file ∈ world.manifests,
    file.2.startAt = file.1.startAt ∧ file.2.endAt = file.1.endAt

variable {config : StorageConfig} {world after : World} {store later : RawStore} {bound bound' : ℤ}
  {name : ArchiveName} {rows : List RawRow}

theorem Archived.mono (h : Archived store bound name rows) (hle : bound ≤ bound') :
    Archived store bound' name rows :=
  ⟨h.nodup, h.within, fun row hrow => (h.kept row hrow).imp_right fun hgone =>
    ⟨hgone.1.trans hle, hgone.2⟩⟩

/-- The tables of `later` hold the rows the ones of `store` do, and a table of a new hour is one of an
hour that has not ended by `bound`. -/
def TablesGrow (bound : ℤ) (store later : RawStore) : Prop :=
  (∀ partition ∈ store.partitions, ∃ next ∈ later.partitions,
    next.startAt = partition.startAt ∧ ∀ row ∈ partition.rows, row ∈ next.rows) ∧
    ∀ next ∈ later.partitions, bound < next.startAt + hour ∨
      ∃ partition ∈ store.partitions, partition.startAt = next.startAt

theorem TablesGrow.refl : TablesGrow bound store store :=
  ⟨fun partition hpartition => ⟨partition, hpartition, rfl, fun _ hrow => hrow⟩,
    fun next hnext => .inr ⟨next, hnext, rfl⟩⟩

theorem Archived.grow (h : Archived store bound name rows) (hgrow : TablesGrow bound store later) :
    Archived later bound name rows := by
  refine ⟨h.nodup, h.within, fun row hrow => ?_⟩
  rcases h.kept row hrow with ⟨partition, hpartition, hin⟩ | ⟨hended, hgone⟩
  · obtain ⟨next, hnext, -, hrows⟩ := hgrow.1 partition hpartition
    exact .inl ⟨next, hnext, hrows row hin⟩
  · refine .inr ⟨hended, fun next hnext hstart => ?_⟩
    rcases hgrow.2 next hnext with hnew | ⟨partition, hpartition, hsame⟩
    · rw [hstart] at hnew
      omega
    · exact hgone partition hpartition (hsame.trans hstart)

/-! ### How tables grow -/

theorem TablesGrow.of_partitions (h : later.partitions = store.partitions) :
    TablesGrow bound store later := by
  unfold TablesGrow
  rw [h]
  exact TablesGrow.refl

theorem tablesGrow_insert {early : Bool} {events : List RawEvent} {new : List RawRow}
    (h : Inserted store early events later new) : TablesGrow bound store later := by
  unfold TablesGrow
  rw [h.partitions]
  refine ⟨fun partition hpartition => ?_, fun next hnext => .inr ?_⟩
  · exact mem_foldl_addRow_of_mem hpartition
  · obtain ⟨partition, hpartition, hstart, -⟩ := mem_foldl_addRow hnext
    exact ⟨partition, hpartition, hstart.symm⟩

theorem tablesGrow_ensure {now : ℤ} (hnow : bound ≤ now) :
    TablesGrow bound store (ensurePartitionedRawStorage store now) := by
  obtain ⟨hold, hall⟩ : (∀ partition ∈ store.partitions,
      partition ∈ (ensurePartitionedRawStorage store now).partitions) ∧
      ∀ next ∈ (ensurePartitionedRawStorage store now).partitions, bound < next.startAt + hour ∨
        ∃ partition ∈ store.partitions, partition.startAt = next.startAt := by
    refine ensureHourPartitions_induction (J := fun partitions =>
      (∀ partition ∈ store.partitions, partition ∈ partitions) ∧
        ∀ next ∈ partitions, bound < next.startAt + hour ∨
          ∃ partition ∈ store.partitions, partition.startAt = next.startAt) ?_
      ⟨fun _ hpartition => hpartition, fun next hnext => .inr ⟨next, hnext, rfl⟩⟩
    rintro partitions startAt - hstart ⟨hkept, hnew⟩
    refine ⟨fun partition hpartition => mem_ensureHour.mpr (.inl (hkept partition hpartition)),
      fun next hnext => ?_⟩
    rcases mem_ensureHour.mp hnext with hin | ⟨rfl, -⟩
    · exact hnew next hin
    · have hlt := lt_floorHour_add now
      have hended : bound < startAt + hour := by omega
      exact .inl hended
  exact ⟨fun partition hpartition =>
    ⟨partition, hold partition hpartition, rfl, fun _ hrow => hrow⟩, hall⟩

theorem tablesGrow_setAttachment {startAt : ℤ} {attachment : Attachment} :
    TablesGrow bound world.store (world.setAttachment startAt attachment).store := by
  refine ⟨fun partition hpartition => ?_, fun next hnext => .inr ?_⟩
  · refine ⟨_, List.mem_map_of_mem hpartition, ?_⟩
    split_ifs <;> exact ⟨rfl, fun _ hrow => hrow⟩
  · obtain ⟨partition, hpartition, rfl⟩ := List.mem_map.mp hnext
    refine ⟨partition, hpartition, ?_⟩
    split_ifs <;> rfl

/-! ### The drop -/

theorem Archived.drop (h : Archived store bound name rows) {startAt : ℤ}
    (hended : startAt + hour ≤ bound) (hafter : later.partitions =
      store.partitions.filter (·.startAt ≠ startAt)) : Archived later bound name rows := by
  refine ⟨h.nodup, h.within, fun row hrow => ?_⟩
  rw [hafter]
  rcases h.kept row hrow with ⟨partition, hpartition, hin⟩ | ⟨hrowEnded, hgone⟩
  · by_cases hdropped : partition.startAt = startAt
    · have hhour : floorHour row.receivedAt = startAt :=
        (partition.bounded row hin).trans hdropped
      refine .inr ⟨by rw [hhour]; exact hended, fun other hother => ?_⟩
      rw [hhour]
      simpa using (List.mem_filter.mp hother).2
    · refine .inl ⟨partition, List.mem_filter.mpr ⟨hpartition, ?_⟩, hin⟩
      simpa using hdropped
  · exact .inr ⟨hrowEnded, fun partition hpartition => hgone partition (List.mem_filter.mp hpartition).1⟩

/-- **The recount is enough.**  Rows only come to a table, so an export with as many rows as the table
has now holds all of them. -/
theorem rows_subset_of_archived (hsound : store.Sound) {startAt : ℤ}
    {partition : RawPartition} (hfound : store.partition? startAt = some partition)
    (h : Archived store bound ⟨startAt, startAt + hour⟩ rows)
    (hlength : rows.length = partition.rows.length) : ∀ row ∈ partition.rows, row ∈ rows := by
  obtain ⟨hmem, rfl⟩ := (partition?_eq_some hsound).mp hfound
  have haligned := hsound.aligned partition hmem
  have hsubset : rows ⊆ partition.rows := by
    intro row hrow
    have hhour : floorHour row.receivedAt = partition.startAt :=
      (floorHour_eq_iff haligned).mpr (h.within row hrow)
    rcases h.kept row hrow with ⟨other, hother, hin⟩ | ⟨-, hgone⟩
    · have hsame : other.startAt = partition.startAt := (other.bounded row hin).symm.trans hhour
      rwa [← List.inj_on_of_nodup_map hsound.names hother hmem hsame]
    · exact absurd hhour.symm (hgone partition hmem)
  have hperm := (h.nodup.subperm hsubset).perm_of_length_le hlength.ge
  exact fun row hrow => hperm.symm.subset hrow

/-- An export, at the moment it is selected. -/
theorem archived_select (hinv : ArchiveInv bound world) (startAt endAt : ℤ) :
    Archived world.store bound ⟨startAt, endAt⟩
      (inOrder (world.rawMarketEvents.filter (within startAt endAt))) := by
  have hperm : (inOrder (world.rawMarketEvents.filter (within startAt endAt))).Perm
      (world.rawMarketEvents.filter (within startAt endAt)) := List.perm_insertionSort _ _
  have hrows : world.rawMarketEvents = world.store.rawMarketEvents := by
    unfold World.rawMarketEvents
    rw [hinv.mode]
  have hsublist : world.store.rawMarketEvents.Sublist world.store.allRows :=
    List.filter_sublist.flatMap _
  refine ⟨hperm.nodup_iff.mpr ?_, fun row hrow => ?_, fun row hrow => .inl ?_⟩
  · rw [hrows]
    exact ((nodup_allRows hinv.sound).sublist hsublist).filter _
  · have hwithin := (List.mem_filter.mp (hperm.subset hrow)).2
    simpa [within] using hwithin
  · have hmem := (List.mem_filter.mp (hperm.subset hrow)).1
    rw [hrows] at hmem
    exact List.mem_flatMap.mp (hsublist.subset hmem)

/-! ## The invariant -/

theorem ArchiveInv.mono (h : ArchiveInv bound world) (hle : bound ≤ bound')
    (hclock : bound' ≤ world.clock) : ArchiveInv bound' world :=
  ⟨h.mode, h.sound, hclock, fun file hfile => (h.archived file hfile).mono hle, h.manifests⟩

/-- Growing tables keep the invariant. -/
theorem ArchiveInv.grow (h : ArchiveInv bound world) (hmode : after.mode = world.mode)
    (hclock : world.clock ≤ after.clock) (hsound : after.store.Sound)
    (hgrow : TablesGrow bound world.store after.store) (harchives : after.archives = world.archives)
    (hmanifests : after.manifests = world.manifests) : ArchiveInv bound after :=
  ⟨hmode.trans h.mode, hsound, h.bound_le.trans hclock,
    fun file hfile => (h.archived file (harchives ▸ hfile)).grow hgrow,
    fun file hfile => h.manifests file (hmanifests ▸ hfile)⟩

/-- The bound that goes with a phase: the reading of the clock, or the clock. -/
def RunPhase.limit (phase : RunPhase) (world : World) : ℤ := phase.now.getD world.clock

/-- The world and what a run knows of it. -/
structure RetireInv (world : World) (phase : RunPhase) : Prop where
  inv : ArchiveInv (phase.limit world) world
  selected : ∀ name rows, phase.selected = some (name, rows) →
    Archived world.store (phase.limit world) name rows
  archive : ∀ name rows, phase.archive = some (name, rows) →
    Files.read world.archives name = some rows
  manifest : ∀ name manifest, phase.manifest = some (name, manifest) →
    Files.read world.manifests name = some manifest

variable {phase : RunPhase}

/-- What a run no longer knows it does not rely on. -/
theorem RetireInv.forget (h : RetireInv world phase) {phase' : RunPhase}
    (hnow : phase'.now = phase.now) (hselected : phase'.selected = phase.selected)
    (harchive : phase'.archive = phase.archive ∨ phase'.archive = none)
    (hmanifest : phase'.manifest = phase.manifest ∨ phase'.manifest = none) :
    RetireInv world phase' := by
  have hbound : phase'.limit world = phase.limit world := by
    unfold RunPhase.limit
    rw [hnow]
  refine ⟨hbound ▸ h.inv, fun name rows hrows => ?_, fun name rows hrows => ?_,
    fun name manifest hread => ?_⟩
  · rw [hbound]
    exact h.selected name rows (hselected ▸ hrows)
  · rcases harchive with hsame | hnone
    · exact h.archive name rows (hsame ▸ hrows)
    · rw [hnone] at hrows
      cases hrows
  · rcases hmanifest with hsame | hnone
    · exact h.manifest name manifest (hsame ▸ hread)
    · rw [hnone] at hread
      cases hread

/-- Growing tables keep what a run knows. -/
theorem RetireInv.grow (h : RetireInv world phase) (hmode : after.mode = world.mode)
    (hclock : world.clock ≤ after.clock) (hsound : after.store.Sound)
    (hgrow : TablesGrow (phase.limit world) world.store after.store)
    (harchives : after.archives = world.archives) (hmanifests : after.manifests = world.manifests) :
    RetireInv after phase := by
  have hle : phase.limit world ≤ phase.limit after := by
    unfold RunPhase.limit
    cases phase.now with
    | none => exact hclock
    | some now => exact le_rfl
  have hinv := h.inv.grow hmode hclock hsound hgrow harchives hmanifests
  refine ⟨hinv.mono hle ?_, fun name rows hrows => ((h.selected name rows hrows).grow hgrow).mono hle,
    fun name rows hrows => ?_, fun name manifest hread => ?_⟩
  · have hworld := h.inv.bound_le
    unfold RunPhase.limit at hworld ⊢
    cases hnow : phase.now with
    | none => exact le_rfl
    | some now =>
      rw [hnow] at hworld
      exact hworld.trans hclock
  · rw [harchives]
    exact h.archive name rows hrows
  · rw [hmanifests]
    exact h.manifest name manifest hread

/-- The recorder and the clock only let tables grow. -/
theorem tables_change (hmode : world.mode = .partitioned) (hbound : bound ≤ world.clock)
    (change : Change) : TablesGrow bound world.store (world.change change).store := by
  cases change with
  | upsertState row => exact TablesGrow.refl
  | elapse duration => exact TablesGrow.refl
  | ensure => exact tablesGrow_ensure hbound
  | insertEvents early events fault =>
    simp only [World.change, hmode]
    rcases commitBatch_cases world.store early events fault with ⟨new, hnew, -⟩ | ⟨⟨drawn, hdrawn⟩, -⟩
    · exact tablesGrow_insert hnew
    · rw [hdrawn]
      exact TablesGrow.of_partitions rfl

/-- The recorder and the clock keep what a run knows. -/
theorem RetireInv.change (h : RetireInv world phase) (change : Change) :
    RetireInv (world.change change) phase := by
  have hgrow := tables_change h.inv.mode h.inv.bound_le change
  cases change with
  | insertEvents early events fault =>
    have hworld : world.change (.insertEvents early events fault) =
        { world with store := (commitBatch world.store early events fault).1 } := by
      simp only [World.change, h.inv.mode]
    rw [hworld] at hgrow ⊢
    exact h.grow rfl le_rfl (h.inv.sound.commitBatch early events fault) hgrow rfl rfl
  | ensure => exact h.grow rfl le_rfl (h.inv.sound.ensure world.clock) hgrow rfl rfl
  | upsertState row => exact h.grow rfl le_rfl h.inv.sound hgrow rfl rfl
  | elapse duration =>
    refine h.grow rfl ?_ h.inv.sound hgrow rfl rfl
    change world.clock ≤ world.clock + duration
    omega

/-- **What an allowed operation does to the tables**: they grow, or it is the drop of one. -/
theorem tables_apply {op : Op} {offered result : op.Result}
    (hallowed : (runProtocol config).allowed phase op)
    (happly : world.apply config op offered = .ok (result, after)) :
    TablesGrow (phase.limit world) world.store after.store ∨
      ∃ startAt rowCount, op = .recountAndDrop startAt rowCount ∧ startAt + hour ≤ phase.limit world ∧
        floorHour startAt = startAt ∧
          after.store.partitions = world.store.partitions.filter (·.startAt ≠ startAt) := by
  have htables := (apply_frame happly).2.2.2.1
  cases op
  case ensurePartitionedRawStorage now =>
    obtain ⟨-, rfl⟩ := Prod.mk.inj (Except.ok.inj happly)
    have hnow : phase.limit world = now := by
      unfold RunPhase.limit
      rw [show phase.now = some now from hallowed]
      rfl
    exact .inl (tablesGrow_ensure hnow.le)
  case detachConcurrently startAt =>
    simp only [World.apply] at happly
    split_ifs at happly
    · obtain ⟨-, rfl⟩ := Prod.mk.inj (Except.ok.inj happly)
      exact .inl tablesGrow_setAttachment
    · cases happly
  case finalizeDetach startAt =>
    simp only [World.apply] at happly
    split_ifs at happly
    · obtain ⟨-, rfl⟩ := Prod.mk.inj (Except.ok.inj happly)
      exact .inl tablesGrow_setAttachment
    · cases happly
  case recountAndDrop startAt rowCount =>
    obtain ⟨partition, -, -, -, rfl⟩ := recountAndDrop_eq_ok (apply_recountAndDrop happly)
    obtain ⟨haligned, ⟨now, hnow, hended⟩, -⟩ := hallowed
    refine .inr ⟨startAt, rowCount, rfl, ?_, haligned, by rw [haligned]⟩
    unfold RunPhase.limit
    rw [hnow]
    exact hended
  all_goals exact .inl (TablesGrow.of_partitions (htables rfl))

/-- A failed operation teaches nothing. -/
theorem RetireInv.failed (h : RetireInv world phase) (op : Op) (raised : Raised) :
    RetireInv world ((runProtocol config).next phase op (.error raised)) := by
  cases op
  case unlinkArchive name => exact h.forget rfl rfl (.inr rfl) (.inl rfl)
  case writeManifest name manifest => exact h.forget rfl rfl (.inl rfl) (.inr rfl)
  case unlinkManifest name => exact h.forget rfl rfl (.inl rfl) (.inr rfl)
  all_goals exact h

/-- **The step**: an allowed operation keeps what a run knows, and its answer is as expected. -/
theorem RetireInv.serve (h : RetireInv world phase) {op : Op} {proposal answer : op.Ans}
    (hallowed : (runProtocol config).allowed phase op)
    (hserve : world.serve config op proposal = some (answer, after)) :
    (runProtocol config).expects phase op answer ∧
      RetireInv after ((runProtocol config).next phase op answer) := by
  rcases serve_eq_some hserve with ⟨raised, rfl, rfl⟩ | ⟨offered, result, rfl, happly⟩
  · exact ⟨by cases op <;> trivial, h.failed op raised⟩
  · obtain ⟨hmode, hclock, hnextId, htables, hfiles⟩ := apply_frame happly
    have hgrow := tables_apply hallowed happly
    cases op
    case now =>
      obtain ⟨rfl, rfl⟩ := Prod.mk.inj (Except.ok.inj happly)
      refine ⟨trivial, ⟨h.inv.mono h.inv.bound_le le_rfl, fun name rows hrows => ?_, h.archive,
        h.manifest⟩⟩
      exact (h.selected name rows hrows).mono h.inv.bound_le
    case ensurePartitionedRawStorage now =>
      obtain ⟨-, rfl⟩ := Prod.mk.inj (Except.ok.inj happly)
      exact ⟨trivial, h.grow rfl le_rfl (h.inv.sound.ensure now)
        (hgrow.resolve_right (by rintro ⟨_, _, hop, _⟩; cases hop)) rfl rfl⟩
    case selectInterval startAt endAt =>
      obtain ⟨rfl, rfl⟩ := Prod.mk.inj (Except.ok.inj happly)
      refine ⟨trivial, ⟨h.inv, fun name rows hrows => ?_, h.archive, h.manifest⟩⟩
      obtain ⟨rfl, rfl⟩ := Prod.mk.inj (Option.some.inj hrows)
      exact archived_select h.inv startAt endAt
    case readArchive name =>
      obtain ⟨rfl, rfl⟩ := Prod.mk.inj (Except.ok.inj happly)
      refine ⟨fun rows hrows => h.archive name rows hrows, ⟨h.inv, h.selected,
        fun name' rows hrows => ?_, h.manifest⟩⟩
      obtain ⟨content, hcontent, heq⟩ := Option.map_eq_some_iff.mp hrows
      obtain ⟨rfl, rfl⟩ := Prod.mk.inj heq
      exact hcontent
    case readManifest name =>
      obtain ⟨rfl, rfl⟩ := Prod.mk.inj (Except.ok.inj happly)
      refine ⟨fun manifest hread => h.inv.manifests _ (Files.mem_of_read hread),
        ⟨h.inv, h.selected, h.archive, fun name' manifest hread => ?_⟩⟩
      obtain ⟨content, hcontent, heq⟩ := Option.map_eq_some_iff.mp hread
      obtain ⟨rfl, rfl⟩ := Prod.mk.inj heq
      exact hcontent
    case replaceArchive name rows =>
      obtain ⟨-, rfl⟩ := Prod.mk.inj (Except.ok.inj happly)
      refine ⟨trivial, ⟨⟨h.inv.mode, h.inv.sound, h.inv.bound_le, fun file hfile => ?_,
        h.inv.manifests⟩, h.selected, fun _ _ hread => (by cases hread), h.manifest⟩⟩
      rcases Files.mem_replace hfile with rfl | hfile
      · exact h.selected name rows hallowed
      · exact h.inv.archived file hfile
    case unlinkArchive name =>
      obtain ⟨-, rfl⟩ := Prod.mk.inj (Except.ok.inj happly)
      exact ⟨trivial, ⟨⟨h.inv.mode, h.inv.sound, h.inv.bound_le,
        fun file hfile => h.inv.archived file (Files.mem_unlink hfile), h.inv.manifests⟩,
        h.selected, fun _ _ hread => (by cases hread), h.manifest⟩⟩
    case writeManifest name manifest =>
      obtain ⟨-, rfl⟩ := Prod.mk.inj (Except.ok.inj happly)
      refine ⟨trivial, ⟨⟨h.inv.mode, h.inv.sound, h.inv.bound_le, h.inv.archived,
        fun file hfile => ?_⟩, h.selected, h.archive, fun _ _ hread => (by cases hread)⟩⟩
      rcases Files.mem_replace hfile with rfl | hfile
      · exact ⟨hallowed.1, hallowed.2.1⟩
      · exact h.inv.manifests file hfile
    case unlinkManifest name =>
      obtain ⟨-, rfl⟩ := Prod.mk.inj (Except.ok.inj happly)
      exact ⟨trivial, ⟨⟨h.inv.mode, h.inv.sound, h.inv.bound_le, h.inv.archived,
        fun file hfile => h.inv.manifests file (Files.mem_unlink hfile)⟩,
        h.selected, h.archive, fun _ _ hread => (by cases hread)⟩⟩
    case detachConcurrently startAt =>
      simp only [World.apply] at happly
      split_ifs at happly
      · obtain ⟨-, rfl⟩ := Prod.mk.inj (Except.ok.inj happly)
        exact ⟨trivial, h.grow rfl le_rfl (sound_setAttachment h.inv.sound startAt _)
          (hgrow.resolve_right (by rintro ⟨_, _, hop, _⟩; cases hop)) rfl rfl⟩
      · cases happly
    case finalizeDetach startAt =>
      simp only [World.apply] at happly
      split_ifs at happly
      · obtain ⟨-, rfl⟩ := Prod.mk.inj (Except.ok.inj happly)
        exact ⟨trivial, h.grow rfl le_rfl (sound_setAttachment h.inv.sound startAt _)
          (hgrow.resolve_right (by rintro ⟨_, _, hop, _⟩; cases hop)) rfl rfl⟩
      · cases happly
    case recountAndDrop startAt rowCount =>
      obtain ⟨haligned, ⟨now, hnow, hended⟩, -⟩ := hallowed
      obtain ⟨partition, -, -, -, rfl⟩ := recountAndDrop_eq_ok (apply_recountAndDrop happly)
      have hbound : startAt + hour ≤ phase.limit world := by
        unfold RunPhase.limit
        rw [hnow]
        exact hended
      rw [haligned]
      refine ⟨trivial, ⟨⟨h.inv.mode, h.inv.sound.drop startAt, h.inv.bound_le,
        fun file hfile => (h.inv.archived file hfile).drop hbound rfl, h.inv.manifests⟩,
        fun name rows hrows => (h.selected name rows hrows).drop hbound rfl, h.archive, h.manifest⟩⟩
    all_goals
      obtain ⟨harchives, hmanifests⟩ := hfiles rfl
      exact ⟨trivial, h.grow hmode hclock.ge (h.inv.sound.of_partitions (htables rfl) hnextId)
        (hgrow.resolve_right (by rintro ⟨_, _, hop, _⟩; cases hop)) harchives hmanifests⟩

/-! ## The result -/

/-- The step lemmas put together. -/
theorem retireKeeps (config : StorageConfig) :
    Process.Keeps Process.Guard.all (runProtocol config) (fun _ => {}) (maintenanceHost config)
      (fun _ => Protocol.Ends fun _ _ => True) (fun world => ArchiveInv world.clock world)
      RetireInv where
  obeys := fun settings => triple_runCommand settings
  start := fun _ _ h => ⟨h, nofun, nofun, nofun⟩
  serve := fun _ _ _ _ _ _ h hallowed hserve => h.serve hallowed hserve
  finish := fun _ _ _ _ h _ _ => h.inv.mono h.inv.bound_le le_rfl
  stop := fun _ _ h => h
  crash := fun _ _ _ h => h.inv.mono h.inv.bound_le le_rfl
  idle := fun world change _ h => (@RetireInv.change world {} ⟨h, nofun, nofun, nofun⟩ change).inv
  outside := fun _ _ change _ h => h.change change

/-- The invariant of a process of the maintenance. -/
abbrev RetiringInv (config : StorageConfig) (process : Maintenance) : Prop :=
  process.Inv (runProtocol config) (fun _ => {}) (fun _ => Protocol.Ends fun _ _ => True)
    (fun world => ArchiveInv world.clock world) RetireInv

/-- At work or idle, the world keeps the invariant of the archives. -/
theorem RetiringInv.archiveInv {process : Maintenance} (h : RetiringInv config process) :
    ArchiveInv process.world.clock process.world := by
  cases hrunning : process.running with
  | none => exact (Process.Inv.of_idle (I := fun world => ArchiveInv world.clock world) hrunning).mp h
  | some call =>
    have hinv := ((Process.Inv.of_running hrunning).mp h).2.inv
    exact hinv.mono hinv.bound_le le_rfl

theorem retireInv_run (config : StorageConfig) (clock : ℤ) (events : List MaintenanceEvent) :
    RetiringInv config (Machine.run (Process.exec (maintenanceHost config))
      (Maintenance.initial .partitioned clock) events) := by
  have hinitial : RetiringInv config (Maintenance.initial .partitioned clock) :=
    (Process.Inv.of_idle rfl).mpr
      ⟨rfl, matched_empty.sound, le_rfl, by simp [Maintenance.initial], by simp [Maintenance.initial]⟩
  exact Process.inv_run (retireKeeps config) hinitial (Process.Guard.along_all _ events)

/-- **The drop of a run that knows its world**: the archive of the hour is there, was verified, and
holds every row of the table. -/
theorem archived_of_mayDrop {phase : RunPhase} (h : RetireInv world phase) {startAt : ℤ}
    {rowCount : ℕ} (hmay : MayDrop config phase startAt rowCount)
    (hdrop : world.recountAndDrop startAt rowCount = .ok after) {partition : RawPartition}
    (hpartition : partition ∈ world.store.partitions)
    (hgone : ∀ later ∈ after.store.partitions, later.startAt ≠ partition.startAt) :
    startAt = partition.startAt ∧ ∃ manifest rows, manifest.rowCount = rowCount ∧
      Files.read world.archives ⟨partition.startAt, partition.startAt + hour⟩ = some rows ∧
        Files.read world.manifests ⟨partition.startAt, partition.startAt + hour⟩ = some manifest ∧
          Verified config ⟨partition.startAt, partition.startAt + hour⟩ manifest rows ∧
            ∀ row ∈ partition.rows, row ∈ rows := by
  obtain ⟨haligned, -, ⟨startAt', endAt'⟩, manifest, rows, harchive, hmanifest, hverified, hstart,
    hend, hcount⟩ := hmay
  obtain ⟨dropped, hfound, hlength, -, rfl⟩ := recountAndDrop_eq_ok hdrop
  rw [haligned] at hfound hgone
  have hsame : startAt = partition.startAt := by
    by_contra hne
    have hkept : partition ∈ world.store.partitions.filter (·.startAt ≠ startAt) :=
      List.mem_filter.mpr ⟨hpartition, by simpa using fun heq => hne heq.symm⟩
    exact hgone partition hkept rfl
  subst hsame
  obtain rfl : dropped = partition := by
    have hpart := (partition?_eq_some h.inv.sound).mpr ⟨hpartition, rfl⟩
    rw [hpart] at hfound
    exact (Option.some.inj hfound).symm
  have hread := h.archive _ rows harchive
  have hreadManifest := h.manifest _ manifest hmanifest
  obtain ⟨hnameStart, hnameEnd⟩ := h.inv.manifests _ (Files.mem_of_read hreadManifest)
  obtain rfl : startAt' = dropped.startAt := hnameStart.symm.trans hstart
  obtain rfl : endAt' = dropped.startAt + hour := hnameEnd.symm.trans hend
  have hrowCount : rows.length = dropped.rows.length := by
    rw [hverified.rowCount, hcount, hlength]
  exact ⟨rfl, manifest, rows, hcount, hread, hreadManifest, hverified,
    rows_subset_of_archived h.inv.sound hfound (h.inv.archived _ (Files.mem_of_read hread)) hrowCount⟩

/-- **A dropped partition is archived.**  In every run of the maintenance, with any batches of the
recorder, crashes and failures in between: a step after which an hourly table is gone is the drop of a
run, and then the archive directory holds an archive of that hour that was verified against its
manifest and that holds every row of the table. -/
theorem dropped_rows_archived (config : StorageConfig) (clock : ℤ) (events : List MaintenanceEvent)
    (event : MaintenanceEvent) :
    let process := Machine.run (Process.exec (maintenanceHost config))
      (Maintenance.initial .partitioned clock) events
    ∀ partition ∈ process.world.store.partitions,
      (∀ later ∈ (process.exec (maintenanceHost config) event).world.store.partitions,
        later.startAt ≠ partition.startAt) →
      ∃ call manifest rows,
        process.performs (maintenanceHost config) event =
          some (call, ⟨.recountAndDrop partition.startAt manifest.rowCount, .ok ()⟩) ∧
        Files.read process.world.archives ⟨partition.startAt, partition.startAt + hour⟩ = some rows ∧
        Files.read process.world.manifests ⟨partition.startAt, partition.startAt + hour⟩ =
          some manifest ∧
        Verified config ⟨partition.startAt, partition.startAt + hour⟩ manifest rows ∧
        ∀ row ∈ partition.rows, row ∈ rows := by
  intro process partition hpartition hgone
  have hinv : RetiringInv config process := retireInv_run config clock events
  rcases process.exec_world_cases (maintenanceHost config) event with
    hsame | ⟨-, hstopped⟩ | ⟨change, -, hchanged⟩ | ⟨call, op, proposal, answer, hperforms, hserve⟩
  · exact absurd rfl (hgone partition (by rw [hsame]; exact hpartition))
  · exact absurd rfl (hgone partition (by rw [hstopped]; exact hpartition))
  · have hgrow := tables_change hinv.archiveInv.mode le_rfl change
    obtain ⟨later, hlater, hstart, -⟩ := hgrow.1 partition hpartition
    exact absurd hstart (hgone later (by rw [hchanged]; exact hlater))
  · obtain ⟨-, hallowed, hknown⟩ := hinv.allowed_of_performs hperforms
    rcases serve_eq_some hserve with ⟨raised, rfl, hsame⟩ | ⟨offered, result, rfl, happly⟩
    · exact absurd rfl (hgone partition (by rw [hsame]; exact hpartition))
    · rcases tables_apply hallowed happly with hgrow | ⟨startAt, rowCount, rfl, -⟩
      · obtain ⟨later, hlater, hstart, -⟩ := hgrow.1 partition hpartition
        exact absurd hstart (hgone later hlater)
      · obtain ⟨rfl, manifest, rows, rfl, hrows⟩ :=
          archived_of_mayDrop hknown hallowed (apply_recountAndDrop happly) hpartition hgone
        exact ⟨call, manifest, rows, hperforms, hrows⟩

/-- The drop of an hour with two rows. -/
theorem dropped_rows_archived_sample :
    let events := sampleHour ++ .start sampleSettings :: List.replicate 31 MaintenanceEvent.go
    let process := Machine.run (Process.exec (maintenanceHost sampleConfig))
      (Maintenance.initial .partitioned 0) events
    ∃ partition ∈ process.world.store.partitions, partition.rows.length = 2 ∧
      ∃ call manifest rows,
        process.performs (maintenanceHost sampleConfig) MaintenanceEvent.go =
          some (call, ⟨.recountAndDrop partition.startAt manifest.rowCount, .ok ()⟩) ∧
        Files.read process.world.archives ⟨partition.startAt, partition.startAt + hour⟩ = some rows ∧
        Files.read process.world.manifests ⟨partition.startAt, partition.startAt + hour⟩ =
          some manifest ∧
        Verified sampleConfig ⟨partition.startAt, partition.startAt + hour⟩ manifest rows ∧
        ∀ row ∈ partition.rows, row ∈ rows := by
  intro events process
  obtain ⟨partition, hpartition, hlength, hgone⟩ :
      ∃ partition ∈ process.world.store.partitions, partition.rows.length = 2 ∧
        ∀ later ∈ (process.exec (maintenanceHost sampleConfig) MaintenanceEvent.go).world.store.partitions,
          later.startAt ≠ partition.startAt := by
    decide +kernel
  exact ⟨partition, hpartition, hlength,
    dropped_rows_archived sampleConfig 0 events MaintenanceEvent.go partition hpartition hgone⟩

end BpEngine.Storage
