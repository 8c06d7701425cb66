import BpEngine.Library.Machine
import BpEngine.Storage.Records

/-!
# Recording events

`RecorderRepository._insert_partitioned_events` of `storage/recorder.py` and the transaction around it.

* `claims` is `INSERT INTO raw_event_dedupe … ON CONFLICT DO NOTHING RETURNING dedupe_key, id`;
  `insertRow` routes one row to its hourly table.
* `commitBatch` is one batch: a failure leaves nothing but the ids the sequence has given away.
* `Inserted` says what a committed batch adds; `RawStore.Sound` and `RawStore.Matched` are kept.
* `partitioned_insert_bijection`: after any run, the rows and the claims are one to one.
-/

namespace BpEngine.Storage

/-! ## The insert -/

/-- `unique_rows`: the first row of every key. -/
def uniqueRows (rows : List RawEvent) : List RawEvent :=
  rows.foldl (fun unique row =>
    if unique.any (·.dedupeKey = row.dedupeKey) then unique else unique ++ [row]) []

/-- The claims the statement returns.  The sequence gives an id to every proposed row, also to the
ones that conflict. -/
def claims (taken : List DedupeClaim) (nextId : ℕ) : List RawEvent → List DedupeClaim
  | [] => []
  | row :: rows =>
    if taken.any (·.dedupeKey = row.dedupeKey) then claims taken (nextId + 1) rows
    else
      let claim : DedupeClaim := ⟨row.dedupeKey, nextId, row.receivedAt⟩
      claim :: claims (taken ++ [claim]) (nextId + 1) rows

/-- `raw_rows`: the rows whose keys were claimed, under the ids of their claims. -/
def rawRows (claimed : List DedupeClaim) (unique : List RawEvent) : List RawRow :=
  unique.filterMap fun row =>
    (claimed.find? (·.dedupeKey = row.dedupeKey)).map fun claim => ⟨claim.id, row⟩

/-- The tables with the row in the table of its hour. -/
def addRow (partitions : List RawPartition) (row : RawRow) : List RawPartition :=
  partitions.map fun partition =>
    if h : floorHour row.receivedAt = partition.startAt then partition.insert row h else partition

/-- One row of `INSERT INTO raw_market_events`. -/
def insertRow (early : Bool) (partitions : List RawPartition) (row : RawRow) :
    Outcome (List RawPartition) := do
  require row.event.fits .databaseError "value too long for type character varying"
  match partitions.find? fun p => p.startAt = floorHour row.receivedAt && p.accepts early with
  | none => raise .databaseError "no partition of relation raw_market_events found for row"
  | some partition =>
    require (¬ partition.rows.any fun r => r.receivedAt = row.receivedAt && r.id = row.id)
      .integrityError "duplicate key value violates unique constraint"
    .ok (addRow partitions row)

/-- `INSERT INTO raw_market_events`, row by row. -/
def insertRows (early : Bool) : List RawPartition → List RawRow → Outcome (List RawPartition)
  | partitions, [] => .ok partitions
  | partitions, row :: rows => do insertRows early (← insertRow early partitions row) rows

/-- `_insert_partitioned_events`. -/
def insertPartitionedEvents (store : RawStore) (early : Bool) (events : List RawEvent) :
    Outcome (RawStore × ℕ) := do
  let unique := uniqueRows events
  require (unique.all (·.dedupeKey.length ≤ 80)) .databaseError
    "value too long for type character varying"
  let claimed := claims store.dedupe store.nextId unique
  let nextId := store.nextId + unique.length
  if claimed = [] then .ok ({ store with nextId }, 0)
  else
    let rows := rawRows claimed unique
    let partitions ← insertRows early store.partitions rows
    .ok ({ partitions, dedupe := store.dedupe ++ claimed, nextId }, rows.length)

/-- One batch in a transaction of its own.  A batch that fails, by itself or by a `fault` of the
database, is rolled back; the ids the sequence gave away stay given. -/
def commitBatch (store : RawStore) (early : Bool) (events : List RawEvent) (fault : Option ℕ) :
    RawStore × Outcome ℕ :=
  match fault with
  | some drawn => ({ store with nextId := store.nextId + drawn }, raise .databaseError "")
  | none =>
    match insertPartitionedEvents store early events with
    | .ok (after, inserted) => (after, .ok inserted)
    | .error raised =>
      ({ store with nextId := store.nextId + (uniqueRows events).length }, .error raised)

/-! ## What is claimed -/

theorem uniqueRows_spec (rows : List RawEvent) :
    ((uniqueRows rows).map RawEvent.dedupeKey).Nodup ∧ (∀ row ∈ uniqueRows rows, row ∈ rows) ∧
      ∀ row ∈ rows, row.dedupeKey ∈ (uniqueRows rows).map RawEvent.dedupeKey := by
  have hfold : ∀ (rows unique : List RawEvent), (unique.map RawEvent.dedupeKey).Nodup →
      let result := rows.foldl (fun unique row =>
        if unique.any (·.dedupeKey = row.dedupeKey) then unique else unique ++ [row]) unique
      (result.map RawEvent.dedupeKey).Nodup ∧ (∀ row ∈ result, row ∈ unique ∨ row ∈ rows) ∧
        (∀ row ∈ unique, row ∈ result) ∧
          ∀ row ∈ rows, row.dedupeKey ∈ result.map RawEvent.dedupeKey := by
    intro rows
    induction rows with
    | nil => exact fun unique h => ⟨h, fun row hrow => .inl hrow, fun row hrow => hrow, by simp⟩
    | cons row rows ih =>
      intro unique hunique
      simp only [List.foldl_cons]
      by_cases hknown : unique.any (·.dedupeKey = row.dedupeKey)
      · obtain ⟨hnodup, hmem, hkept, hall⟩ := ih unique hunique
        rw [if_pos hknown]
        refine ⟨hnodup, fun r hr => ?_, hkept, fun r hr => ?_⟩
        · exact (hmem r hr).imp_right (List.mem_cons_of_mem _)
        · rcases List.mem_cons.mp hr with rfl | hr
          · obtain ⟨r', hr', hkey⟩ := List.any_eq_true.mp hknown
            exact List.mem_map.mpr ⟨r', hkept r' hr', by simpa using hkey⟩
          · exact hall r hr
      · have hnew : ((unique ++ [row]).map RawEvent.dedupeKey).Nodup := by
          simp only [List.any_eq_true, decide_eq_true_eq, not_exists, not_and] at hknown
          rw [List.map_append, List.nodup_append]
          refine ⟨hunique, by simp, fun key hkey key' hkey' => ?_⟩
          obtain ⟨r, hr, rfl⟩ := List.mem_map.mp hkey
          rw [List.map_singleton, List.mem_singleton] at hkey'
          rw [hkey']
          exact hknown r hr
        obtain ⟨hnodup, hmem, hkept, hall⟩ := ih _ hnew
        rw [if_neg hknown]
        refine ⟨hnodup, fun r hr => ?_, fun r hr => hkept r (List.mem_append_left _ hr),
          fun r hr => ?_⟩
        · rcases hmem r hr with hr | hr
          · rcases List.mem_append.mp hr with hr | hr
            · exact .inl hr
            · exact .inr (List.mem_cons.mpr (.inl (List.mem_singleton.mp hr)))
          · exact .inr (List.mem_cons_of_mem _ hr)
        · rcases List.mem_cons.mp hr with rfl | hr
          · exact List.mem_map_of_mem (hkept _ (List.mem_append_right _ (List.mem_singleton.mpr rfl)))
          · exact hall r hr
  obtain ⟨hnodup, hmem, -, hall⟩ := hfold rows [] List.nodup_nil
  exact ⟨hnodup, fun row hrow => (hmem row hrow).resolve_left List.not_mem_nil, hall⟩

variable {taken : List DedupeClaim} {nextId : ℕ} {rows : List RawEvent}

/-- A claim is new, was made for a row, and has an id of the statement. -/
theorem mem_claims {claim : DedupeClaim} (h : claim ∈ claims taken nextId rows) :
    claim.dedupeKey ∉ taken.map DedupeClaim.dedupeKey ∧
      claim.dedupeKey ∈ rows.map RawEvent.dedupeKey ∧
        nextId ≤ claim.id ∧ claim.id < nextId + rows.length := by
  induction rows generalizing taken nextId with
  | nil => cases h
  | cons row rows ih =>
    unfold claims at h
    split_ifs at h with hknown
    · obtain ⟨hfresh, hrow, hlow, hhigh⟩ := ih h
      refine ⟨hfresh, List.mem_cons_of_mem _ hrow, by omega, ?_⟩
      rw [List.length_cons]
      omega
    · rcases List.mem_cons.mp h with rfl | h
      · refine ⟨fun hmem => hknown ?_, by simp, le_rfl, by simp⟩
        obtain ⟨other, hother, hkey⟩ := List.mem_map.mp hmem
        exact List.any_eq_true.mpr ⟨other, hother, by simpa using hkey⟩
      · obtain ⟨hfresh, hrow, hlow, hhigh⟩ := ih h
        rw [List.map_append, List.mem_append, not_or] at hfresh
        refine ⟨hfresh.1, List.mem_cons_of_mem _ hrow, by omega, ?_⟩
        rw [List.length_cons]
        omega

theorem nodup_claims_ids : ((claims taken nextId rows).map DedupeClaim.id).Nodup := by
  induction rows generalizing taken nextId with
  | nil => exact List.nodup_nil
  | cons row rows ih =>
    unfold claims
    split_ifs with hknown
    · exact ih
    · refine List.nodup_cons.mpr ⟨fun hmem => ?_, ih⟩
      obtain ⟨claim, hclaim, hid⟩ := List.mem_map.mp hmem
      have hlow := (mem_claims hclaim).2.2.1
      change claim.id = nextId at hid
      omega

theorem nodup_claims_keys : ((claims taken nextId rows).map DedupeClaim.dedupeKey).Nodup := by
  induction rows generalizing taken nextId with
  | nil => exact List.nodup_nil
  | cons row rows ih =>
    unfold claims
    split_ifs with hknown
    · exact ih
    · refine List.nodup_cons.mpr ⟨fun hmem => ?_, ih⟩
      obtain ⟨claim, hclaim, hkey⟩ := List.mem_map.mp hmem
      exact (mem_claims hclaim).1 (by rw [hkey]; simp)

/-- After the statement every row has a claim, an old one or a new one. -/
theorem claimed_of_mem {row : RawEvent} (h : row ∈ rows) :
    row.dedupeKey ∈ (taken ++ claims taken nextId rows).map DedupeClaim.dedupeKey := by
  induction rows generalizing taken nextId with
  | nil => cases h
  | cons first rows ih =>
    unfold claims
    split_ifs with hknown
    · rcases List.mem_cons.mp h with rfl | h
      · obtain ⟨claim, hclaim, hkey⟩ := List.any_eq_true.mp hknown
        exact List.mem_map.mpr ⟨claim, List.mem_append_left _ hclaim, by simpa using hkey⟩
      · exact ih h
    · rcases List.mem_cons.mp h with rfl | h
      · simp
      · have hlater := @ih (taken ++ [⟨first.dedupeKey, nextId, first.receivedAt⟩]) (nextId + 1) h
        simpa using hlater

/-- The claim of another key is not looked at. -/
theorem rawRows_cons_of_notMem {claim : DedupeClaim} {claimed : List DedupeClaim}
    (h : claim.dedupeKey ∉ rows.map RawEvent.dedupeKey) :
    rawRows (claim :: claimed) rows = rawRows claimed rows := by
  unfold rawRows
  refine List.filterMap_congr fun row hrow => ?_
  have hne : claim.dedupeKey ≠ row.dedupeKey := fun heq => h (List.mem_map.mpr ⟨row, hrow, heq.symm⟩)
  rw [List.find?_cons_of_neg (by simpa using hne)]

/-- **The rows that are inserted are the ones of the new claims**, in their order. -/
theorem map_claim_rawRows (hrows : (rows.map RawEvent.dedupeKey).Nodup) :
    (rawRows (claims taken nextId rows) rows).map RawRow.claim = claims taken nextId rows := by
  induction rows generalizing taken nextId with
  | nil => rfl
  | cons row rows ih =>
    rw [List.map_cons, List.nodup_cons] at hrows
    unfold claims
    split_ifs with hknown
    · have hnone : (claims taken (nextId + 1) rows).find? (·.dedupeKey = row.dedupeKey) = none := by
        rw [List.find?_eq_none]
        intro claim hclaim hkey
        exact hrows.1 (by rw [← of_decide_eq_true hkey]; exact (mem_claims hclaim).2.1)
      have hcons : rawRows (claims taken (nextId + 1) rows) (row :: rows) =
          rawRows (claims taken (nextId + 1) rows) rows := by
        unfold rawRows
        rw [List.filterMap_cons_none (by rw [hnone]; rfl)]
      rw [hcons, ih hrows.2]
    · have hcons : ∀ rest, rawRows (⟨row.dedupeKey, nextId, row.receivedAt⟩ :: rest) (row :: rows) =
          ⟨nextId, row⟩ :: rawRows rest rows := by
        intro rest
        have hother : (⟨row.dedupeKey, nextId, row.receivedAt⟩ : DedupeClaim).dedupeKey ∉
            rows.map RawEvent.dedupeKey := hrows.1
        rw [← rawRows_cons_of_notMem hother]
        unfold rawRows
        rw [List.filterMap_cons_some (b := ⟨nextId, row⟩) (by rw [List.find?_cons_of_pos (by simp)]; rfl)]
      simp only [hcons, List.map_cons, ih hrows.2]
      rfl

theorem mem_rawRows {claimed : List DedupeClaim} {row : RawRow} (h : row ∈ rawRows claimed rows) :
    row.event ∈ rows := by
  obtain ⟨event, hevent, hrow⟩ := List.mem_filterMap.mp h
  obtain ⟨claim, -, rfl⟩ := Option.map_eq_some_iff.mp hrow
  exact hevent

/-! ## What a batch adds -/

@[simp] theorem map_startAt_addRow (partitions : List RawPartition) (row : RawRow) :
    (addRow partitions row).map RawPartition.startAt = partitions.map RawPartition.startAt := by
  unfold addRow
  rw [List.map_map]
  refine List.map_congr_left fun partition _ => ?_
  change (if _ : _ then _ else _ : RawPartition).startAt = _
  split_ifs <;> rfl

/-- The table a table becomes has the hour and the attachment it had. -/
theorem mem_addRow {partitions : List RawPartition} {row : RawRow} {after : RawPartition} :
    after ∈ addRow partitions row ↔ ∃ partition ∈ partitions,
      after.startAt = partition.startAt ∧ after.attachment = partition.attachment ∧
        after.rows = if floorHour row.receivedAt = partition.startAt then partition.rows ++ [row]
          else partition.rows := by
  unfold addRow
  rw [List.mem_map]
  constructor
  · rintro ⟨partition, hpartition, rfl⟩
    refine ⟨partition, hpartition, ?_⟩
    split_ifs <;> exact ⟨rfl, rfl, rfl⟩
  · rintro ⟨partition, hpartition, hstart, hattachment, hrows⟩
    refine ⟨partition, hpartition, ?_⟩
    obtain ⟨startAt, attachment, rows, bounded⟩ := after
    subst hstart hattachment
    split_ifs at hrows ⊢ <;> subst hrows <;> rfl

/-- The row comes to the rows of the tables once. -/
theorem flatMap_addRow {partitions : List RawPartition} {row : RawRow}
    (hnames : (partitions.map RawPartition.startAt).Nodup)
    (hrouted : floorHour row.receivedAt ∈ partitions.map RawPartition.startAt) :
    ((addRow partitions row).flatMap RawPartition.rows).Perm
      (partitions.flatMap RawPartition.rows ++ [row]) := by
  induction partitions with
  | nil => cases hrouted
  | cons partition partitions ih =>
    rw [List.map_cons, List.nodup_cons] at hnames
    have hcons : addRow (partition :: partitions) row =
        (if h : floorHour row.receivedAt = partition.startAt then partition.insert row h
          else partition) :: addRow partitions row := rfl
    rw [hcons, List.flatMap_cons, List.flatMap_cons]
    by_cases hhere : floorHour row.receivedAt = partition.startAt
    · have hrest : addRow partitions row = partitions := by
        unfold addRow
        conv_rhs => rw [← List.map_id partitions]
        refine List.map_congr_left fun other hother => ?_
        have hne : floorHour row.receivedAt ≠ other.startAt := fun heq =>
          hnames.1 (List.mem_map.mpr ⟨other, hother, by rw [← heq, hhere]⟩)
        rw [dif_neg hne]
        rfl
      rw [dif_pos hhere, hrest, RawPartition.insert_rows, List.append_assoc, List.append_assoc]
      exact (List.perm_append_comm).append_left _
    · rw [dif_neg hhere, List.append_assoc]
      refine (ih hnames.2 ?_).append_left _
      exact (List.mem_cons.mp hrouted).resolve_left hhere

/-- **One row**: it fits, the table of its hour takes it, and it comes to that table. -/
theorem insertRow_eq_ok {early : Bool} {partitions after : List RawPartition} {row : RawRow}
    (h : insertRow early partitions row = .ok after) :
    (∃ partition ∈ partitions,
      partition.startAt = floorHour row.receivedAt ∧ partition.accepts early = true) ∧
        after = addRow partitions row := by
  unfold insertRow at h
  obtain ⟨_, -, h⟩ := bind_eq_ok.mp h
  cases hfind : partitions.find? fun p => p.startAt = floorHour row.receivedAt && p.accepts early with
  | none => simp [hfind] at h
  | some partition =>
    simp only [hfind] at h
    obtain ⟨_, -, h⟩ := bind_eq_ok.mp h
    have hprops := List.find?_some hfind
    simp only [Bool.and_eq_true, decide_eq_true_eq] at hprops
    exact ⟨⟨partition, List.mem_of_find?_eq_some hfind, hprops⟩, (Except.ok.inj h).symm⟩

theorem insertRows_eq_ok {early : Bool} {partitions after : List RawPartition} {rows : List RawRow}
    (h : insertRows early partitions rows = .ok after) :
    (∀ row ∈ rows, ∃ partition ∈ partitions,
      partition.startAt = floorHour row.receivedAt ∧ partition.accepts early = true) ∧
        after = rows.foldl addRow partitions := by
  induction rows generalizing partitions with
  | nil => exact ⟨fun row hrow => absurd hrow List.not_mem_nil, (Except.ok.inj h).symm⟩
  | cons row rows ih =>
    obtain ⟨between, hrow, hrest⟩ := bind_eq_ok.mp h
    obtain ⟨hrouted, rfl⟩ := insertRow_eq_ok hrow
    obtain ⟨hlater, hafter⟩ := ih hrest
    refine ⟨fun r hr => ?_, hafter⟩
    rcases List.mem_cons.mp hr with rfl | hr
    · exact hrouted
    · obtain ⟨partition, hpartition, hstart, haccepts⟩ := hlater r hr
      obtain ⟨old, hold, hsame, hattachment, -⟩ := mem_addRow.mp hpartition
      refine ⟨old, hold, hsame.symm.trans hstart, ?_⟩
      unfold RawPartition.accepts at haccepts ⊢
      rwa [← hattachment]

/-- What a committed batch adds: the rows `new`, each under a claim of its own. -/
structure Inserted (store : RawStore) (early : Bool) (events : List RawEvent) (after : RawStore)
    (new : List RawRow) : Prop where
  dedupe : after.dedupe = store.dedupe ++ new.map RawRow.claim
  partitions : after.partitions = new.foldl addRow store.partitions
  nextId_le : store.nextId ≤ after.nextId
  ids : ∀ row ∈ new, store.nextId ≤ row.id ∧ row.id < after.nextId
  nodup_ids : (new.map RawRow.id).Nodup
  nodup_keys : (new.map RawRow.dedupeKey).Nodup
  fresh : ∀ row ∈ new, row.dedupeKey ∉ store.dedupe.map DedupeClaim.dedupeKey
  routed : ∀ row ∈ new, ∃ partition ∈ store.partitions,
    partition.startAt = floorHour row.receivedAt ∧ partition.accepts early = true
  given : ∀ row ∈ new, row.event ∈ events
  claimed : ∀ event ∈ events, event.dedupeKey ∈ after.dedupe.map DedupeClaim.dedupeKey

/-- **The insert**: what it adds when it succeeds. -/
theorem insertPartitionedEvents_eq_ok {store after : RawStore} {early : Bool}
    {events : List RawEvent} {inserted : ℕ}
    (h : insertPartitionedEvents store early events = .ok (after, inserted)) :
    ∃ new, Inserted store early events after new ∧ new.length = inserted := by
  obtain ⟨hkeys, hmem, hall⟩ := uniqueRows_spec events
  unfold insertPartitionedEvents at h
  obtain ⟨_, -, h⟩ := bind_eq_ok.mp h
  have hclaimed : ∀ event ∈ events, event.dedupeKey ∈
      (store.dedupe ++ claims store.dedupe store.nextId (uniqueRows events)).map
        DedupeClaim.dedupeKey := by
    intro event hevent
    obtain ⟨row, hrow, hkey⟩ := List.mem_map.mp (hall event hevent)
    rw [← hkey]
    exact claimed_of_mem hrow
  dsimp only at h
  split_ifs at h with hnone
  · obtain ⟨rfl, rfl⟩ := Prod.mk.inj (Except.ok.inj h)
    rw [hnone, List.append_nil] at hclaimed
    exact ⟨[], ⟨by simp, rfl, by simp, by simp, by simp, by simp, by simp, by simp, by simp,
      hclaimed⟩, rfl⟩
  · obtain ⟨partitions, hrows, h⟩ := bind_eq_ok.mp h
    obtain ⟨rfl, rfl⟩ := Prod.mk.inj (Except.ok.inj h)
    obtain ⟨hrouted, rfl⟩ := insertRows_eq_ok hrows
    have hmap := @map_claim_rawRows store.dedupe store.nextId _ hkeys
    have hclaim : ∀ row ∈ rawRows (claims store.dedupe store.nextId (uniqueRows events))
        (uniqueRows events), row.claim ∈ claims store.dedupe store.nextId (uniqueRows events) :=
      fun row hrow => hmap ▸ List.mem_map_of_mem hrow
    refine ⟨_, ⟨by rw [hmap], rfl, by simp, fun row hrow => ?_, ?_, ?_, fun row hrow => ?_, hrouted,
      fun row hrow => hmem _ (mem_rawRows hrow), hclaimed⟩, rfl⟩
    · exact (mem_claims (hclaim row hrow)).2.2
    · have hids := @nodup_claims_ids store.dedupe store.nextId (uniqueRows events)
      rwa [← hmap, List.map_map] at hids
    · have hnodup := @nodup_claims_keys store.dedupe store.nextId (uniqueRows events)
      rwa [← hmap, List.map_map] at hnodup
    · exact (mem_claims (hclaim row hrow)).1

/-- **The transaction**: a batch is committed, or leaves nothing but a later id. -/
theorem commitBatch_cases (store : RawStore) (early : Bool) (events : List RawEvent)
    (fault : Option ℕ) :
    (∃ new, Inserted store early events (commitBatch store early events fault).1 new ∧
      (commitBatch store early events fault).2 = .ok new.length) ∨
    (∃ drawn, (commitBatch store early events fault).1 =
      { store with nextId := store.nextId + drawn }) ∧
      ∃ raised, (commitBatch store early events fault).2 = .error raised := by
  cases fault with
  | some drawn => exact .inr ⟨⟨drawn, rfl⟩, _, rfl⟩
  | none =>
    unfold commitBatch
    cases hinsert : insertPartitionedEvents store early events with
    | error raised => exact .inr ⟨⟨_, rfl⟩, raised, rfl⟩
    | ok result =>
      obtain ⟨after, inserted⟩ := result
      obtain ⟨new, hnew, rfl⟩ := insertPartitionedEvents_eq_ok hinsert
      exact .inl ⟨new, hnew, rfl⟩

/-! ## Sound stores -/

/-- What every store has: one table an hour, and no id given twice. -/
structure RawStore.Sound (store : RawStore) : Prop where
  names : (store.partitions.map RawPartition.startAt).Nodup
  aligned : ∀ partition ∈ store.partitions, floorHour partition.startAt = partition.startAt
  ids : (store.allRows.map RawRow.id).Nodup
  drawn : ∀ row ∈ store.allRows, row.id < store.nextId

theorem map_startAt_foldl_addRow (rows : List RawRow) (partitions : List RawPartition) :
    (rows.foldl addRow partitions).map RawPartition.startAt =
      partitions.map RawPartition.startAt := by
  induction rows generalizing partitions with
  | nil => rfl
  | cons row rows ih => rw [List.foldl_cons, ih, map_startAt_addRow]

theorem flatMap_foldl_addRow {rows : List RawRow} {partitions : List RawPartition}
    (hnames : (partitions.map RawPartition.startAt).Nodup)
    (hrouted : ∀ row ∈ rows, floorHour row.receivedAt ∈ partitions.map RawPartition.startAt) :
    ((rows.foldl addRow partitions).flatMap RawPartition.rows).Perm
      (partitions.flatMap RawPartition.rows ++ rows) := by
  induction rows generalizing partitions with
  | nil => simp
  | cons row rows ih =>
    have hrow := flatMap_addRow hnames (hrouted row List.mem_cons_self)
    have hrest := @ih (addRow partitions row) (by rwa [map_startAt_addRow])
      (fun r hr => by rw [map_startAt_addRow]; exact hrouted r (List.mem_cons_of_mem _ hr))
    rw [List.foldl_cons]
    refine hrest.trans ((hrow.append_right rows).trans ?_)
    rw [List.append_assoc, List.singleton_append]

/-- A table after a batch is a table before it, with rows of the batch added. -/
theorem mem_foldl_addRow {rows : List RawRow} {partitions : List RawPartition}
    {after : RawPartition} (h : after ∈ rows.foldl addRow partitions) :
    ∃ partition ∈ partitions, after.startAt = partition.startAt ∧
      after.attachment = partition.attachment ∧
        after.rows = partition.rows ++
          rows.filter (fun row => floorHour row.receivedAt = partition.startAt) := by
  induction rows generalizing partitions with
  | nil => exact ⟨after, h, rfl, rfl, by simp⟩
  | cons row rows ih =>
    obtain ⟨between, hbetween, hstart, hattachment, hrows⟩ := ih h
    obtain ⟨partition, hpartition, hstart', hattachment', hrows'⟩ := mem_addRow.mp hbetween
    refine ⟨partition, hpartition, hstart.trans hstart', hattachment.trans hattachment', ?_⟩
    rw [hrows, hrows', hstart', List.filter_cons]
    by_cases hhere : floorHour row.receivedAt = partition.startAt <;> simp [hhere]

/-- A table keeps its rows through a batch. -/
theorem mem_foldl_addRow_of_mem {rows : List RawRow} {partitions : List RawPartition}
    {partition : RawPartition} (h : partition ∈ partitions) :
    ∃ later ∈ rows.foldl addRow partitions, later.startAt = partition.startAt ∧
      ∀ row ∈ partition.rows, row ∈ later.rows := by
  induction rows generalizing partitions partition with
  | nil => exact ⟨partition, h, rfl, fun _ hrow => hrow⟩
  | cons row rows ih =>
    by_cases hhere : floorHour row.receivedAt = partition.startAt
    · have hbetween : partition.insert row hhere ∈ addRow partitions row :=
        List.mem_map.mpr ⟨partition, h, dif_pos hhere⟩
      obtain ⟨later, hlater, hstart, hrows⟩ := ih hbetween
      exact ⟨later, hlater, hstart, fun r hr => hrows r (List.mem_append_left _ hr)⟩
    · have hbetween : partition ∈ addRow partitions row :=
        List.mem_map.mpr ⟨partition, h, dif_neg hhere⟩
      exact ih hbetween

theorem RawStore.Sound.rows_perm {store after : RawStore} {early : Bool} {events : List RawEvent}
    {new : List RawRow} (hsound : store.Sound) (h : Inserted store early events after new) :
    after.allRows.Perm (store.allRows ++ new) := by
  unfold RawStore.allRows
  rw [h.partitions]
  refine flatMap_foldl_addRow hsound.names fun row hrow => ?_
  obtain ⟨partition, hpartition, hstart, -⟩ := h.routed row hrow
  exact hstart ▸ List.mem_map_of_mem hpartition

theorem RawStore.Sound.insert {store after : RawStore} {early : Bool} {events : List RawEvent}
    {new : List RawRow} (hsound : store.Sound) (h : Inserted store early events after new) :
    after.Sound := by
  have hperm := hsound.rows_perm h
  refine ⟨?_, fun partition hpartition => ?_, ?_, fun row hrow => ?_⟩
  · rw [h.partitions, map_startAt_foldl_addRow]
    exact hsound.names
  · rw [h.partitions] at hpartition
    obtain ⟨old, hold, hstart, -⟩ := mem_foldl_addRow hpartition
    rw [hstart]
    exact hsound.aligned old hold
  · rw [(hperm.map RawRow.id).nodup_iff, List.map_append, List.nodup_append]
    refine ⟨hsound.ids, h.nodup_ids, fun id hid id' hid' => ?_⟩
    obtain ⟨old, hold, rfl⟩ := List.mem_map.mp hid
    obtain ⟨row, hrow, rfl⟩ := List.mem_map.mp hid'
    have hlt := hsound.drawn old hold
    have hge := (h.ids row hrow).1
    omega
  · rcases List.mem_append.mp (hperm.mem_iff.mp hrow) with hrow | hrow
    · have hlt := hsound.drawn row hrow
      have hle := h.nextId_le
      omega
    · exact (h.ids row hrow).2

theorem RawStore.Sound.draw {store : RawStore} (hsound : store.Sound) (drawn : ℕ) :
    ({ store with nextId := store.nextId + drawn } : RawStore).Sound :=
  ⟨hsound.names, hsound.aligned, hsound.ids, fun row hrow => by
    have hlt := hsound.drawn row hrow
    change row.id < store.nextId + drawn
    omega⟩

theorem RawStore.Sound.commitBatch {store : RawStore} (hsound : store.Sound) (early : Bool)
    (events : List RawEvent) (fault : Option ℕ) :
    (commitBatch store early events fault).1.Sound := by
  rcases commitBatch_cases store early events fault with ⟨new, hnew, -⟩ | ⟨⟨drawn, hdrawn⟩, -⟩
  · exact hsound.insert hnew
  · rw [hdrawn]
    exact hsound.draw drawn

theorem nodup_allRows {store : RawStore} (h : store.Sound) : store.allRows.Nodup :=
  List.Nodup.of_map _ h.ids

theorem RawStore.Sound.of_partitions {store later : RawStore} (h : store.Sound)
    (hpartitions : later.partitions = store.partitions) (hnextId : later.nextId = store.nextId) :
    later.Sound := by
  have hrows : later.allRows = store.allRows := by
    unfold RawStore.allRows
    rw [hpartitions]
  exact ⟨by rw [hpartitions]; exact h.names, by rw [hpartitions]; exact h.aligned,
    by rw [hrows]; exact h.ids, by rw [hrows, hnextId]; exact h.drawn⟩

theorem RawStore.Sound.drop {store : RawStore} (h : store.Sound) (startAt : ℤ) :
    ({ store with
      partitions := store.partitions.filter (·.startAt ≠ startAt) } : RawStore).Sound := by
  have hsublist : (store.partitions.filter (·.startAt ≠ startAt)).Sublist
      store.partitions := List.filter_sublist
  have hrows : ((store.partitions.filter (·.startAt ≠ startAt)).flatMap
      RawPartition.rows).Sublist store.allRows := hsublist.flatMap _
  exact ⟨h.names.sublist (hsublist.map _), fun partition hpartition =>
    h.aligned partition (hsublist.subset hpartition), h.ids.sublist (hrows.map _),
    fun row hrow => h.drawn row (hrows.subset hrow)⟩

/-- The table of an hour is the one of that name. -/
theorem partition?_eq_some {store : RawStore} (h : store.Sound) {startAt : ℤ}
    {partition : RawPartition} :
    store.partition? startAt = some partition ↔
      partition ∈ store.partitions ∧ partition.startAt = startAt := by
  constructor
  · intro hfound
    exact ⟨List.mem_of_find?_eq_some hfound, by simpa using List.find?_some hfound⟩
  · rintro ⟨hmem, rfl⟩
    unfold RawStore.partition?
    cases hfound : store.partitions.find? (·.startAt = partition.startAt) with
    | none => exact absurd (List.find?_eq_none.mp hfound partition hmem) (by simp)
    | some other =>
      have hother := List.mem_of_find?_eq_some hfound
      have hstart : other.startAt = partition.startAt := by simpa using List.find?_some hfound
      rw [List.inj_on_of_nodup_map h.names hother hmem hstart]

/-! ### Providing hours -/

/-- The tables of a later database: the old ones, and empty attached tables of other hours. -/
theorem mem_ensureHour {partitions : List RawPartition} {startAt : ℤ} {partition : RawPartition} :
    partition ∈ ensureHour partitions startAt ↔ partition ∈ partitions ∨
      partition = { startAt } ∧ ∀ old ∈ partitions, old.startAt ≠ startAt := by
  unfold ensureHour
  split_ifs with hknown
  · simp only [List.any_eq_true, decide_eq_true_eq] at hknown
    obtain ⟨old, hold, hstart⟩ := hknown
    exact ⟨.inl, fun h => h.resolve_right fun hnew => hnew.2 old hold hstart⟩
  · simp only [List.any_eq_true, decide_eq_true_eq, not_exists, not_and] at hknown
    rw [List.mem_append, List.mem_singleton]
    exact or_congr_right ⟨fun h => ⟨h, hknown⟩, fun h => h.1⟩

theorem flatMap_ensureHour (partitions : List RawPartition) (startAt : ℤ) :
    (ensureHour partitions startAt).flatMap RawPartition.rows =
      partitions.flatMap RawPartition.rows := by
  unfold ensureHour
  split_ifs <;> simp

theorem nodup_ensureHour {partitions : List RawPartition} {startAt : ℤ}
    (h : (partitions.map RawPartition.startAt).Nodup) :
    ((ensureHour partitions startAt).map RawPartition.startAt).Nodup := by
  unfold ensureHour
  split_ifs with hknown
  · exact h
  · simp only [List.any_eq_true, decide_eq_true_eq, not_exists, not_and] at hknown
    rw [List.map_append, List.nodup_append]
    refine ⟨h, by simp, fun start hstart start' hstart' => ?_⟩
    obtain ⟨old, hold, rfl⟩ := List.mem_map.mp hstart
    rw [List.map_singleton, List.mem_singleton] at hstart'
    rw [hstart']
    exact hknown old hold

/-- What holds of the tables and is kept when an hour from `startAt` on is provided holds when all
are. -/
theorem ensureHourPartitions_induction {J : List RawPartition → Prop}
    {partitions : List RawPartition} {startAt : ℤ} {hoursAhead : ℕ}
    (hstep : ∀ partitions next, floorHour next = next → floorHour startAt ≤ next →
      J partitions → J (ensureHour partitions next)) (h : J partitions) :
    J (ensureHourPartitions partitions startAt hoursAhead) := by
  unfold ensureHourPartitions
  refine List.foldlRecOn _ _ h fun partitions hpartitions offset _ => ?_
  refine hstep partitions _ ?_ ?_ hpartitions
  · unfold floorHour hour
    omega
  · unfold hour
    omega

theorem RawStore.Sound.ensure {store : RawStore} (hsound : store.Sound) (now : ℤ) :
    (ensurePartitionedRawStorage store now).Sound := by
  obtain ⟨hnames, haligned, hrows⟩ :
      ((ensurePartitionedRawStorage store now).partitions.map RawPartition.startAt).Nodup ∧
        (∀ partition ∈ (ensurePartitionedRawStorage store now).partitions,
          floorHour partition.startAt = partition.startAt) ∧
          (ensurePartitionedRawStorage store now).allRows = store.allRows := by
    refine ensureHourPartitions_induction (J := fun partitions =>
      (partitions.map RawPartition.startAt).Nodup ∧
        (∀ partition ∈ partitions, floorHour partition.startAt = partition.startAt) ∧
          partitions.flatMap RawPartition.rows = store.allRows) ?_
      ⟨hsound.names, hsound.aligned, rfl⟩
    rintro partitions next haligned - ⟨hnames, hall, hrows⟩
    refine ⟨nodup_ensureHour hnames, fun partition hpartition => ?_,
      (flatMap_ensureHour partitions next).trans hrows⟩
    rcases mem_ensureHour.mp hpartition with hold | ⟨rfl, -⟩
    · exact hall partition hold
    · exact haligned
  exact ⟨hnames, haligned, hrows ▸ hsound.ids, hrows ▸ hsound.drawn⟩

/-! ## Rows and claims are one to one -/

/-- Every table is attached, and the rows are the ones of the claims. -/
structure RawStore.Matched (store : RawStore) : Prop where
  sound : store.Sound
  attached : ∀ partition ∈ store.partitions, partition.attachment = .attached
  keys : (store.dedupe.map DedupeClaim.dedupeKey).Nodup
  rows : (store.allRows.map RawRow.claim).Perm store.dedupe

/-- What the recorder does to the database: it inserts a batch, and it provides hours. -/
inductive RecorderOp where
  | insertEvents (early : Bool) (events : List RawEvent) (fault : Option ℕ)
  | ensure (now : ℤ)

/-- One operation. -/
def RawStore.exec (store : RawStore) : RecorderOp → RawStore
  | .insertEvents early events fault => (commitBatch store early events fault).1
  | .ensure now => ensurePartitionedRawStorage store now

theorem RawStore.Matched.insert {store after : RawStore} {early : Bool} {events : List RawEvent}
    {new : List RawRow} (h : store.Matched) (hnew : Inserted store early events after new) :
    after.Matched := by
  refine ⟨h.sound.insert hnew, fun partition hpartition => ?_, ?_, ?_⟩
  · rw [hnew.partitions] at hpartition
    obtain ⟨old, hold, -, hattachment, -⟩ := mem_foldl_addRow hpartition
    exact hattachment.trans (h.attached old hold)
  · have hmap : (new.map RawRow.claim).map DedupeClaim.dedupeKey = new.map RawRow.dedupeKey := by
      rw [List.map_map]
      rfl
    rw [hnew.dedupe, List.map_append, hmap, List.nodup_append]
    refine ⟨h.keys, hnew.nodup_keys, fun key hkey key' hkey' heq => ?_⟩
    obtain ⟨row, hrow, rfl⟩ := List.mem_map.mp hkey'
    exact hnew.fresh row hrow (heq ▸ hkey)
  · rw [hnew.dedupe]
    have hperm := (h.sound.rows_perm hnew).map RawRow.claim
    rw [List.map_append] at hperm
    exact hperm.trans (h.rows.append_right _)

theorem RawStore.Matched.exec {store : RawStore} (h : store.Matched) (op : RecorderOp) :
    (store.exec op).Matched := by
  cases op with
  | insertEvents early events fault =>
    change (commitBatch store early events fault).1.Matched
    rcases commitBatch_cases store early events fault with ⟨new, hnew, -⟩ | ⟨⟨drawn, hdrawn⟩, -⟩
    · exact h.insert hnew
    · rw [hdrawn]
      exact ⟨h.sound.draw drawn, h.attached, h.keys, h.rows⟩
  | ensure now =>
    obtain ⟨hattached, hrows⟩ : (∀ partition ∈ (ensurePartitionedRawStorage store now).partitions,
        partition.attachment = .attached) ∧
          (ensurePartitionedRawStorage store now).allRows = store.allRows := by
      refine ensureHourPartitions_induction (J := fun partitions =>
        (∀ partition ∈ partitions, partition.attachment = .attached) ∧
          partitions.flatMap RawPartition.rows = store.allRows) ?_ ⟨h.attached, rfl⟩
      rintro partitions next - - ⟨hattached, hrows⟩
      refine ⟨fun partition hpartition => ?_, (flatMap_ensureHour partitions next).trans hrows⟩
      rcases mem_ensureHour.mp hpartition with hold | ⟨rfl, -⟩
      · exact hattached partition hold
      · rfl
    refine ⟨h.sound.ensure now, hattached, h.keys, ?_⟩
    change ((ensurePartitionedRawStorage store now).allRows.map RawRow.claim).Perm store.dedupe
    rw [hrows]
    exact h.rows

theorem matched_empty : ({} : RawStore).Matched :=
  ⟨⟨List.nodup_nil, by simp, List.nodup_nil, by simp [RawStore.allRows]⟩, by simp, List.nodup_nil,
    List.Perm.refl _⟩

theorem matched_run (ops : List RecorderOp) : (Machine.run RawStore.exec {} ops).Matched :=
  Machine.run_invariant' RawStore.exec (J := RawStore.Matched) (fun _ op h => h.exec op)
    matched_empty ops

theorem RawStore.Matched.rawMarketEvents_eq {store : RawStore} (h : store.Matched) :
    store.rawMarketEvents = store.allRows := by
  unfold RawStore.rawMarketEvents RawStore.allRows
  rw [List.filter_eq_self.mpr fun partition hpartition => by simpa using h.attached partition hpartition]

/-- A key has as many rows as claims. -/
theorem RawStore.Matched.countP_key {store : RawStore} (h : store.Matched) (key : String) :
    store.rawMarketEvents.countP (·.dedupeKey = key) = store.dedupe.countP (·.dedupeKey = key) := by
  rw [h.rawMarketEvents_eq, ← h.rows.countP_eq, List.countP_map]
  rfl

/-- A claimed key has one claim. -/
theorem RawStore.Matched.countP_claim {store : RawStore} (h : store.Matched) {key : String}
    (hkey : key ∈ store.dedupe.map DedupeClaim.dedupeKey) :
    store.dedupe.countP (·.dedupeKey = key) = 1 := by
  have hcount := List.count_eq_one_of_mem h.keys hkey
  rw [List.count_eq_countP, List.countP_map] at hcount
  exact (List.countP_congr fun claim _ => by simp).trans hcount

/-- The claims of a run stay. -/
theorem dedupe_subset_run (store : RawStore) (ops : List RecorderOp) :
    store.dedupe ⊆ (Machine.run RawStore.exec store ops).dedupe := by
  refine Machine.run_invariant' RawStore.exec (J := fun later => store.dedupe ⊆ later.dedupe) ?_
    (List.Subset.refl _) ops
  intro later op hsubset
  cases op with
  | ensure now => exact hsubset
  | insertEvents early events fault =>
    change _ ⊆ (commitBatch later early events fault).1.dedupe
    rcases commitBatch_cases later early events fault with ⟨new, hnew, -⟩ | ⟨⟨drawn, hdrawn⟩, -⟩
    · rw [hnew.dedupe]
      exact List.subset_append_of_subset_left _ hsubset
    · rw [hdrawn]
      exact hsubset

/-- **Rows and claims are one to one.**  After any batches, of any events and with any hours provided
in between: every key of a batch that was committed has exactly one row; every claim has exactly one
row; and every row stands, in the table of its hour, under the id and the instant of its claim. -/
theorem partitioned_insert_bijection (before after : List RecorderOp) (early : Bool)
    (events : List RawEvent) (fault : Option ℕ) :
    let store := Machine.run RawStore.exec {}
      (before ++ .insertEvents early events fault :: after)
    (∀ inserted,
      (commitBatch (Machine.run RawStore.exec {} before) early events fault).2 = .ok inserted →
        ∀ event ∈ events, store.rawMarketEvents.countP (·.dedupeKey = event.dedupeKey) = 1) ∧
      (∀ claim ∈ store.dedupe,
        store.rawMarketEvents.countP (·.dedupeKey = claim.dedupeKey) = 1 ∧
          store.rawMarketEvents.countP (·.id = claim.id) = 1) ∧
        ∀ partition ∈ store.partitions, ∀ row ∈ partition.rows, ∃ claim ∈ store.dedupe,
          claim.dedupeKey = row.dedupeKey ∧ claim.id = row.id ∧
            claim.receivedAt = row.receivedAt ∧ floorHour claim.receivedAt = partition.startAt := by
  intro store
  have hmatched : store.Matched := matched_run _
  have hone : ∀ key ∈ store.dedupe.map DedupeClaim.dedupeKey,
      store.rawMarketEvents.countP (·.dedupeKey = key) = 1 := fun key hkey => by
    rw [hmatched.countP_key, hmatched.countP_claim hkey]
  refine ⟨fun inserted hcommitted event hevent => hone _ ?_, fun claim hclaim => ⟨?_, ?_⟩, ?_⟩
  · rcases commitBatch_cases (Machine.run RawStore.exec {} before) early events fault with
      ⟨new, hnew, -⟩ | ⟨-, raised, hraised⟩
    · have hthen := hnew.claimed event hevent
      have hlater := dedupe_subset_run
        (commitBatch (Machine.run RawStore.exec {} before) early events fault).1 after
      have hstore : store = Machine.run RawStore.exec
          (commitBatch (Machine.run RawStore.exec {} before) early events fault).1 after := by
        simp only [store, Machine.run_append, Machine.run_cons]
        rfl
      rw [hstore]
      exact List.map_subset _ hlater hthen
    · rw [hraised] at hcommitted
      cases hcommitted
  · exact hone _ (List.mem_map_of_mem hclaim)
  · have hids : (store.rawMarketEvents.map RawRow.id).Nodup := by
      rw [hmatched.rawMarketEvents_eq]
      exact hmatched.sound.ids
    have hmem : claim.id ∈ store.rawMarketEvents.map RawRow.id := by
      rw [hmatched.rawMarketEvents_eq]
      obtain ⟨row, hrow, hrowClaim⟩ := List.mem_map.mp (hmatched.rows.mem_iff.mpr hclaim)
      exact List.mem_map.mpr ⟨row, hrow, by rw [← hrowClaim]; rfl⟩
    have hcount := List.count_eq_one_of_mem hids hmem
    rw [List.count_eq_countP, List.countP_map] at hcount
    exact (List.countP_congr fun row _ => by simp).trans hcount
  · intro partition hpartition row hrow
    have hmem : row ∈ store.allRows := List.mem_flatMap.mpr ⟨partition, hpartition, hrow⟩
    exact ⟨row.claim, hmatched.rows.mem_iff.mp (List.mem_map_of_mem hmem), rfl, rfl, rfl,
      partition.bounded row hrow⟩

/-- An event of the sample runs: its key and when it was received. -/
def sampleEvent (dedupeKey : String) (receivedAt : ℤ) : RawEvent where
  source := "bybit"
  stream := "linear"
  instrument := "BTCUSDT"
  eventType := "trade"
  sourceTimestamp := none
  receivedAt
  sequence := none
  marketId := none
  assetId := none
  payload := []
  dedupeKey

/-- A batch that repeats a key of its own and one of an earlier batch. -/
theorem partitioned_insert_bijection_sample :
    let before : List RecorderOp :=
      [.ensure 5, .insertEvents false [sampleEvent "a" 7] none]
    let store := Machine.run RawStore.exec {} (before ++
      [.insertEvents false [sampleEvent "b" 8, sampleEvent "a" 9, sampleEvent "b" 10] none])
    store.rawMarketEvents.countP (·.dedupeKey = "b") = 1 := by
  intro before store
  exact (partitioned_insert_bijection before [] false
    [sampleEvent "b" 8, sampleEvent "a" 9, sampleEvent "b" 10] none).1 1 (by decide +kernel)
    (sampleEvent "b" 8) (by simp)

end BpEngine.Storage
