import BpEngine.Backfill.Prices

/-!
# Running a backfill again

The columns round what is stored, and the write compares what is stored with what is to be stored as it
was sent.

* `Lawful` says what a table of observations has to do with a value that a column keeps as it is.
* `raises_store_iff`: a write of an observation that is stored conflicts unless the observation is exact.
* `Restorable` is the condition on a run: every observation it writes again is exact.
  `storeChunks_conflict_iff` and `storeChunks_appends` are about runs.
* `btcCandles_lawful` and `polymarketPriceHistory_lawful` instantiate them; `second_backfill_iff` is the
  result for the three backfills.
-/

namespace BpEngine.Backfill

/-! ## Exceptions that are not conflicts -/

/-- The outcome is not a conflict of historical data. -/
def Quiet {α : Type} (x : Outcome α) : Prop := raises .historicalDataConflict x = false

theorem quiet_ok {α : Type} (a : α) : Quiet (.ok a : Outcome α) := rfl

theorem quiet_raise {α : Type} {cls : PyClass} (h : cls ≠ .historicalDataConflict) (message : String) :
    Quiet (raise cls message : Outcome α) := by
  unfold Quiet
  rw [raises_raise]
  simpa using h

theorem Quiet.bind {α β : Type} {x : Outcome α} {f : α → Outcome β} (hx : Quiet x)
    (hf : ∀ a, Quiet (f a)) : Quiet (x >>= f) := by
  cases x with
  | error raised => exact hx
  | ok a => exact hf a

theorem quiet_require {condition : Prop} [Decidable condition] {cls : PyClass}
    (h : cls ≠ .historicalDataConflict) (message : String) :
    Quiet (require condition cls message) := by
  unfold require
  split_ifs
  · exact quiet_ok ()
  · exact quiet_raise h message

theorem quiet_mapM {α β : Type} {f : α → Outcome β} (hf : ∀ a, Quiet (f a)) (l : List α) :
    Quiet (l.mapM f) := by
  induction l with
  | nil => exact quiet_ok []
  | cons a l ih =>
    rw [List.mapM_cons]
    exact (hf a).bind fun b => ih.bind fun bs => quiet_ok (b :: bs)

/-! ## Tables of observations -/

variable {Obs Row Key : Type} [DecidableEq Key]

/-- A table keeps the key of an observation; a row agrees with an observation of the values it was made
from exactly when its columns keep the values as they are. -/
structure Lawful (relation : Observations Obs Row Key) (Same : Obs → Obs → Prop) (Exact : Obs → Prop) :
    Prop where
  rowKey : ∀ {o row}, relation.written o = .ok row → relation.rowKey row = relation.key o
  agrees : ∀ {o o' row}, relation.written o' = .ok row → Same o' o →
    (relation.agrees row o = true ↔ Exact o)
  quiet_written : ∀ o, Quiet (relation.written o)
  conflict_cls : ∀ o, (relation.conflict o).cls = .historicalDataConflict

/-- The data of a provider: every observation passes the checks, and those with one key have one
value. -/
structure OneData (relation : Observations Obs Row Key) (Same : Obs → Obs → Prop) (data : Obs → Prop) :
    Prop where
  valid : ∀ o, data o → relation.valid o = .ok ()
  same : ∀ o o', data o → data o' → relation.key o = relation.key o' → Same o o'

/-- Every row of the table was made from the data. -/
def WrittenFrom (relation : Observations Obs Row Key) (data : Obs → Prop) (table : List Row) : Prop :=
  ∀ row ∈ table, ∃ o, data o ∧ relation.written o = .ok row

section Runs

variable {relation : Observations Obs Row Key} {Same : Obs → Obs → Prop} {Exact data : Obs → Prop}

theorem existing_eq_some {table : List Row} {o : Obs} {row : Row}
    (h : relation.existing table o = some row) :
    row ∈ table ∧ relation.rowKey row = relation.key o :=
  ⟨List.mem_of_find?_eq_some h, by simpa using List.find?_some h⟩

theorem existing_eq_none {table : List Row} {o : Obs} (h : relation.existing table o = none) :
    ∀ row ∈ table, relation.rowKey row ≠ relation.key o := by
  intro row hrow
  simpa using List.find?_eq_none.mp h row hrow

/-- A row of the table agrees with an observation of its key exactly when the observation is exact. -/
theorem agrees_of_existing (hlaw : Lawful relation Same Exact) (hdata : OneData relation Same data)
    {table : List Row} (htable : WrittenFrom relation data table) {o : Obs} (ho : data o) {row : Row}
    (h : relation.existing table o = some row) : relation.agrees row o = true ↔ Exact o := by
  obtain ⟨hrow, hkey⟩ := existing_eq_some h
  obtain ⟨o', ho', hwritten⟩ := htable row hrow
  have hkeys : relation.key o' = relation.key o := by
    rw [← hlaw.rowKey hwritten, hkey]
  exact hlaw.agrees hwritten (hdata.same o' o ho' ho hkeys)

/-- **A write conflicts exactly when the observation is stored and not exact.** -/
theorem raises_store_iff (hlaw : Lawful relation Same Exact) (hdata : OneData relation Same data)
    {table : List Row} (htable : WrittenFrom relation data table) {o : Obs} (ho : data o) :
    Quiet (relation.store table o) ↔ (relation.existing table o ≠ none → Exact o) := by
  unfold Observations.store
  rw [hdata.valid o ho, ok_bind]
  cases hfind : relation.existing table o with
  | none =>
    have hquiet : Quiet (do
        let row ← relation.written o
        (.ok ⟨table ++ [row], true⟩ : Outcome (Stored Row))) :=
      (hlaw.quiet_written o).bind fun row => quiet_ok _
    simpa using hquiet
  | some row =>
    have hagrees := agrees_of_existing hlaw hdata htable ho hfind
    dsimp only
    split_ifs with hsame
    · exact ⟨fun _ _ => hagrees.mp hsame, fun _ => quiet_ok _⟩
    · constructor
      · intro hquiet
        unfold Quiet at hquiet
        rw [raises_error, hlaw.conflict_cls] at hquiet
        cases hquiet
      · intro hexact
        exact absurd (hagrees.mpr (hexact (Option.some_ne_none row))) hsame

/-- What a write does: nothing for an observation that is stored, a row for a new one. -/
theorem store_eq_ok (hlaw : Lawful relation Same Exact) {table : List Row} {o : Obs} {stored : Stored Row}
    (h : relation.store table o = .ok stored) :
    (stored.table = table ∧ stored.created = false) ∨
      ∃ row, relation.written o = .ok row ∧ stored.table = table ++ [row] ∧ stored.created = true ∧
        ∀ old ∈ table, relation.rowKey row ≠ relation.rowKey old := by
  unfold Observations.store at h
  obtain ⟨_, _, h⟩ := bind_eq_ok.mp h
  cases hfind : relation.existing table o with
  | none =>
    rw [hfind] at h
    obtain ⟨row, hwritten, h⟩ := bind_eq_ok.mp h
    cases h
    refine .inr ⟨row, hwritten, rfl, rfl, ?_⟩
    intro old hold
    rw [hlaw.rowKey hwritten]
    exact (existing_eq_none hfind old hold).symm
  | some row =>
    rw [hfind] at h
    dsimp only at h
    split_ifs at h
    cases h
    exact .inl ⟨rfl, rfl⟩

/-! ## Runs -/

/-- The observations of a chunk that are in its window. -/
def Chunk.kept (chunk : Chunk Obs) : List Obs :=
  (chunk.observations.filter fun o => chunk.start ≤ o.1 ∧ o.1 < chunk.finish).map Prod.snd

/-- Every observation that is written while its key is in the table is exact. -/
def RestorableAll (relation : Observations Obs Row Key) (Exact : Obs → Prop) :
    List Row → List Obs → Prop
  | _, [] => True
  | table, o :: rest =>
    (relation.existing table o ≠ none → Exact o) ∧
      ∀ stored, relation.store table o = .ok stored → RestorableAll relation Exact stored.table rest

/-- The condition on the chunks of a run, each in the state it is stored in. -/
def Restorable (relation : Observations Obs Row Key) (Exact : Obs → Prop) :
    Progress Row → List (Outcome (Chunk Obs)) → Prop
  | _, [] => True
  | progress, chunk :: rest =>
    (∀ received, chunk = .ok received → RestorableAll relation Exact progress.table received.kept) ∧
      ∀ after, storeChunk relation.store progress chunk = .ok after →
        Restorable relation Exact after rest

/-- What a run adds: rows of the data under new keys, each of them counted. -/
structure Appends (relation : Observations Obs Row Key) (data : Obs → Prop) (before after : Progress Row)
    (new : List Row) : Prop where
  table : after.table = before.table ++ new
  counted : after.stats.rowsInserted = before.stats.rowsInserted + new.length
  unstored : ∀ row ∈ new, ∀ old ∈ before.table, relation.rowKey row ≠ relation.rowKey old
  written : WrittenFrom relation data new

omit [DecidableEq Key] in
theorem Appends.refl (before after : Progress Row) (htable : after.table = before.table)
    (hstats : after.stats.rowsInserted = before.stats.rowsInserted) :
    Appends relation data before after [] where
  table := by rw [htable, List.append_nil]
  counted := by rw [hstats, List.length_nil, Nat.add_zero]
  unstored _ h := nomatch h
  written _ h := nomatch h

omit [DecidableEq Key] in
theorem Appends.trans {before between after : Progress Row} {new new' : List Row}
    (h : Appends relation data before between new) (h' : Appends relation data between after new') :
    Appends relation data before after (new ++ new') where
  table := by rw [h'.table, h.table, List.append_assoc]
  counted := by
    rw [h'.counted, h.counted, List.length_append]
    omega
  unstored row hrow old hold := by
    rcases List.mem_append.mp hrow with hrow | hrow
    · exact h.unstored row hrow old hold
    · exact h'.unstored row hrow old (by rw [h.table]; exact List.mem_append_left _ hold)
  written row hrow := by
    rcases List.mem_append.mp hrow with hrow | hrow
    · exact h.written row hrow
    · exact h'.written row hrow

omit [DecidableEq Key] in
theorem Appends.writtenFrom {before after : Progress Row} {new : List Row}
    (h : Appends relation data before after new) (hbefore : WrittenFrom relation data before.table) :
    WrittenFrom relation data after.table := by
  intro row hrow
  rw [h.table] at hrow
  rcases List.mem_append.mp hrow with hrow | hrow
  · exact hbefore row hrow
  · exact h.written row hrow

theorem storeAll_appends (hlaw : Lawful relation Same Exact) {obs : List Obs}
    (hobs : ∀ o ∈ obs, data o) {before after : Progress Row}
    (h : storeAll relation.store before obs = .ok after) :
    ∃ new, Appends relation data before after new := by
  induction obs generalizing before with
  | nil =>
    cases h
    exact ⟨[], Appends.refl _ _ rfl rfl⟩
  | cons o obs ih =>
    obtain ⟨stored, hstore, hrest⟩ := bind_eq_ok.mp h
    obtain ⟨new, hnew⟩ := ih (fun o' ho' => hobs o' (List.mem_cons_of_mem o ho')) hrest
    rcases store_eq_ok hlaw hstore with ⟨htable, hcreated⟩ | ⟨row, hwritten, htable, hcreated, hkey⟩
    · refine ⟨[] ++ new, (Appends.refl before _ htable ?_).trans hnew⟩
      simp [BackfillStats.count, hcreated]
    · refine ⟨[row] ++ new, Appends.trans ⟨htable, ?_, ?_, ?_⟩ hnew⟩
      · simp [BackfillStats.count, hcreated]
      · intro other hother
        rw [List.mem_singleton.mp hother]
        exact hkey
      · intro other hother
        rw [List.mem_singleton.mp hother]
        exact ⟨o, hobs o List.mem_cons_self, hwritten⟩

theorem storeAll_conflict_iff (hlaw : Lawful relation Same Exact) (hdata : OneData relation Same data)
    {obs : List Obs} (hobs : ∀ o ∈ obs, data o) {progress : Progress Row}
    (htable : WrittenFrom relation data progress.table) :
    Quiet (storeAll relation.store progress obs) ↔
      RestorableAll relation Exact progress.table obs := by
  induction obs generalizing progress with
  | nil => exact ⟨fun _ => trivial, fun _ => rfl⟩
  | cons o obs ih =>
    have ho := hobs o List.mem_cons_self
    have hone := raises_store_iff hlaw hdata htable ho
    unfold storeAll RestorableAll
    cases hstore : relation.store progress.table o with
    | error raised =>
      rw [hstore] at hone
      rw [← hone]
      constructor
      · exact fun hquiet => ⟨hquiet, fun stored hstored => nomatch hstored⟩
      · exact fun h => h.1
    | ok stored =>
      rw [hstore] at hone
      have hexact := hone.mp (quiet_ok stored)
      have hnext : WrittenFrom relation data stored.table := by
        rcases store_eq_ok hlaw hstore with ⟨hsame, -⟩ | ⟨row, hwritten, hgrown, -⟩
        · rw [hsame]
          exact htable
        · rw [hgrown]
          intro other hother
          rcases List.mem_append.mp hother with hother | hother
          · exact htable other hother
          · rw [List.mem_singleton.mp hother]
            exact ⟨o, ho, hwritten⟩
      rw [ok_bind, ih (fun o' ho' => hobs o' (List.mem_cons_of_mem o ho')) hnext]
      constructor
      · intro hrest
        refine ⟨hexact, fun other hother => ?_⟩
        cases hother
        exact hrest
      · exact fun h => h.2 stored rfl

/-- The observations of a chunk that arrives. -/
def observationsOf : Outcome (Chunk Obs) → List Obs
  | .ok chunk => chunk.kept
  | .error _ => []

/-- The observations a run receives are of the data. -/
def Delivers (data : Obs → Prop) (chunks : List (Outcome (Chunk Obs))) : Prop :=
  ∀ chunk ∈ chunks, ∀ o ∈ observationsOf chunk, data o

theorem storeChunk_eq (relation : Observations Obs Row Key) (progress : Progress Row)
    (chunk : Chunk Obs) :
    storeChunk relation.store progress (.ok chunk) = storeAll relation.store
      { progress with
        artifacts := recordArtifact progress.artifacts chunk.artifact
        stats := { progress.stats with chunksFetched := progress.stats.chunksFetched + 1 } }
      chunk.kept := rfl

theorem storeChunks_appends (hlaw : Lawful relation Same Exact) {chunks : List (Outcome (Chunk Obs))}
    (hchunks : Delivers data chunks) {before after : Progress Row}
    (h : chunks.foldlM (storeChunk relation.store) before = .ok after) :
    ∃ new, Appends relation data before after new := by
  induction chunks generalizing before with
  | nil =>
    cases h
    exact ⟨[], Appends.refl _ _ rfl rfl⟩
  | cons chunk chunks ih =>
    rw [List.foldlM_cons] at h
    obtain ⟨between, hchunk, hrest⟩ := bind_eq_ok.mp h
    obtain ⟨new', hnew'⟩ := ih (fun c hc => hchunks c (List.mem_cons_of_mem chunk hc)) hrest
    cases chunk with
    | error raised => cases hchunk
    | ok received =>
      rw [storeChunk_eq] at hchunk
      obtain ⟨new, hnew⟩ := storeAll_appends hlaw (hchunks _ List.mem_cons_self) hchunk
      exact ⟨new ++ new', Appends.trans ⟨hnew.table, hnew.counted, hnew.unstored, hnew.written⟩ hnew'⟩

/-- A run raises no conflict exactly when it is restorable. -/
theorem storeChunks_conflict_iff (hlaw : Lawful relation Same Exact)
    (hdata : OneData relation Same data) {chunks : List (Outcome (Chunk Obs))}
    (hchunks : Delivers data chunks) (hquiet : ∀ chunk ∈ chunks, Quiet chunk)
    {progress : Progress Row} (htable : WrittenFrom relation data progress.table) :
    Quiet (chunks.foldlM (storeChunk relation.store) progress) ↔
      Restorable relation Exact progress chunks := by
  induction chunks generalizing progress with
  | nil => exact ⟨fun _ => trivial, fun _ => rfl⟩
  | cons chunk chunks ih =>
    rw [List.foldlM_cons]
    unfold Restorable
    cases chunk with
    | error raised =>
      constructor
      · exact fun _ => ⟨fun received hreceived => (nomatch hreceived), fun after hafter =>
          (nomatch hafter)⟩
      · exact fun _ => hquiet _ List.mem_cons_self
    | ok received =>
      have hreceived := hchunks _ List.mem_cons_self
      have hone : Quiet (storeChunk relation.store progress (.ok received)) ↔
          RestorableAll relation Exact progress.table received.kept :=
        storeAll_conflict_iff hlaw hdata hreceived htable
      cases hchunk : storeChunk relation.store progress (.ok received) with
      | error raised =>
        rw [hchunk] at hone
        constructor
        · intro hraised
          refine ⟨fun other hother => ?_, fun after hafter => nomatch hafter⟩
          cases hother
          exact hone.mp hraised
        · exact fun h => hone.mpr (h.1 received rfl)
      | ok between =>
        rw [hchunk] at hone
        have hall := hone.mp (quiet_ok between)
        rw [storeChunk_eq] at hchunk
        obtain ⟨new, hnew⟩ := storeAll_appends hlaw hreceived hchunk
        have hnext : WrittenFrom relation data between.table := hnew.writtenFrom htable
        rw [ok_bind, ih (fun c hc => hchunks c (List.mem_cons_of_mem _ hc))
          (fun c hc => hquiet c (List.mem_cons_of_mem _ hc)) hnext]
        constructor
        · intro hrest
          refine ⟨fun other hother => ?_, fun after hafter => ?_⟩
          · cases hother
            exact hall
          · cases hafter
            exact hrest
        · exact fun h => h.2 between rfl

/-! ### A run after a run -/

/-- A run that is made again, from what is stored: it raises no conflict, and if it ends it has left
every row as it was, has inserted nothing for a key that was stored, and has counted what it
inserted. -/
structure RunsAgain (relation : Observations Obs Row Key) (stored : List Row)
    (result : Outcome (Progress Row)) : Prop where
  quiet : Quiet result
  kept : ∀ again, result = .ok again → ∃ new, again.table = stored ++ new ∧
    again.stats.rowsInserted = new.length ∧
      ∀ row ∈ new, ∀ old ∈ stored, relation.rowKey row ≠ relation.rowKey old

/-- The loop over the chunks that a backfill asks for, unless it rejects its arguments. -/
def runRequests (store : List Row → Obs → Outcome (Stored Row))
    (requests : Outcome (List (Outcome (Chunk Obs)))) (progress : Progress Row) :
    Outcome (Progress Row) := do
  let chunks ← requests
  chunks.foldlM (storeChunk store) progress

/-- A backfill that has nothing done yet. -/
def Progress.again (after : Progress Row) : Progress Row :=
  { table := after.table, artifacts := after.artifacts }

/-- Two runs over the data of one provider, the first of which has ended. -/
structure Twice (relation : Observations Obs Row Key) (Same : Obs → Obs → Prop) (data : Obs → Prop)
    (first second : Outcome (List (Outcome (Chunk Obs)))) (before after : Progress Row) : Prop where
  oneData : OneData relation Same data
  table : WrittenFrom relation data before.table
  received : ∀ chunks, first = .ok chunks → Delivers data chunks
  receivedAgain : ∀ chunks, second = .ok chunks → Delivers data chunks
  ended : runRequests relation.store first before = .ok after

/-- Every observation a run writes while it is stored is exact. -/
def Exactly (relation : Observations Obs Row Key) (Exact : Obs → Prop) (progress : Progress Row)
    (requests : Outcome (List (Outcome (Chunk Obs)))) : Prop :=
  ∀ chunks, requests = .ok chunks → Restorable relation Exact progress chunks

/-- **A second run leaves what is stored as it is exactly when what it writes again is exact.** -/
theorem runs_again_iff (hlaw : Lawful relation Same Exact)
    {first second : Outcome (List (Outcome (Chunk Obs)))} {before after : Progress Row}
    (h : Twice relation Same data first second before after)
    (hquiet : Quiet second) (hchunks : ∀ chunks, second = .ok chunks → ∀ chunk ∈ chunks, Quiet chunk) :
    RunsAgain relation after.table (runRequests relation.store second after.again) ↔
      Exactly relation Exact after.again second := by
  obtain ⟨received, hreceived, hended⟩ := bind_eq_ok.mp h.ended
  obtain ⟨new, hnew⟩ := storeChunks_appends hlaw (h.received received hreceived) hended
  have htable : WrittenFrom relation data after.again.table := hnew.writtenFrom h.table
  unfold Exactly runRequests
  cases hsecond : second with
  | error raised =>
    rw [hsecond] at hquiet
    constructor
    · exact fun _ chunks hother => nomatch hother
    · exact fun _ => ⟨hquiet, fun again hagain => nomatch hagain⟩
  | ok chunks =>
    have hdelivers := h.receivedAgain chunks hsecond
    have hiff := storeChunks_conflict_iff hlaw h.oneData hdelivers (hchunks chunks hsecond) htable
    rw [ok_bind]
    constructor
    · rintro hagain other hother
      rw [← Except.ok.inj hother]
      exact hiff.mp hagain.quiet
    · intro hexact
      refine ⟨hiff.mpr (hexact chunks rfl), fun again hagain => ?_⟩
      obtain ⟨added, hadded⟩ := storeChunks_appends hlaw hdelivers hagain
      refine ⟨added, hadded.table, ?_, hadded.unstored⟩
      have hcounted := hadded.counted
      rw [hcounted]
      exact Nat.zero_add _

end Runs

/-! ## The two tables -/

theorem Column.written_eq {column : Column} {value kept : Decimal}
    (h : column.written value = .ok kept) : kept = value.roundToScale column.scale := by
  obtain ⟨_, -, h⟩ := bind_eq_ok.mp h
  exact (Except.ok.inj h).symm

theorem Column.writtenOrNull_eq {column : Column} {value kept : Option Decimal}
    (h : column.writtenOrNull value = .ok kept) :
    kept = value.map fun value => value.roundToScale column.scale := by
  cases value with
  | none => exact (Except.ok.inj h).symm
  | some value =>
    obtain ⟨rounded, hrounded, h⟩ := bind_eq_ok.mp h
    rw [← Except.ok.inj h, Column.written_eq hrounded]
    rfl

theorem Column.quiet_written (column : Column) (value : Decimal) : Quiet (column.written value) :=
  (quiet_require (by decide) _).bind fun _ => quiet_ok _

theorem Column.quiet_writtenOrNull (column : Column) (value : Option Decimal) :
    Quiet (column.writtenOrNull value) := by
  cases value with
  | none => exact quiet_ok none
  | some value => exact (column.quiet_written value).bind fun _ => quiet_ok _

/-- The column keeps the value as it is: it has no more decimals than the scale. -/
def Column.Keeps (column : Column) (value : Decimal) : Prop :=
  Decimal.Same (value.roundToScale column.scale) value

/-- The columns keep the values of the candle. -/
structure BtcCandle.Representable (candle : BtcCandle) : Prop where
  opening : priceColumn.Keeps candle.opening
  high : priceColumn.Keeps candle.high
  low : priceColumn.Keeps candle.low
  close : priceColumn.Keeps candle.close
  volume : volumeColumn.Keeps candle.volume
  turnover : ∀ turnover ∈ candle.turnover, volumeColumn.Keeps turnover

/-- Two candles have the same values. -/
structure BtcCandle.SameValues (candle other : BtcCandle) : Prop where
  opening : candle.opening = other.opening
  high : candle.high = other.high
  low : candle.low = other.low
  close : candle.close = other.close
  volume : candle.volume = other.volume
  turnover : candle.turnover = other.turnover

/-- The row of a candle, column by column. -/
theorem BtcCandle.written_eq {candle row : BtcCandle} (h : candle.written = .ok row) :
    row.key = candle.key ∧ row.opening = candle.opening.roundToScale 12 ∧
      row.high = candle.high.roundToScale 12 ∧ row.low = candle.low.roundToScale 12 ∧
      row.close = candle.close.roundToScale 12 ∧ row.volume = candle.volume.roundToScale 18 ∧
      row.turnover = candle.turnover.map fun turnover => turnover.roundToScale 18 := by
  obtain ⟨opening, hopening, h⟩ := bind_eq_ok.mp h
  obtain ⟨high, hhigh, h⟩ := bind_eq_ok.mp h
  obtain ⟨low, hlow, h⟩ := bind_eq_ok.mp h
  obtain ⟨close, hclose, h⟩ := bind_eq_ok.mp h
  obtain ⟨volume, hvolume, h⟩ := bind_eq_ok.mp h
  obtain ⟨turnover, hturnover, h⟩ := bind_eq_ok.mp h
  rw [← Except.ok.inj h]
  exact ⟨rfl, Column.written_eq hopening, Column.written_eq hhigh, Column.written_eq hlow,
    Column.written_eq hclose, Column.written_eq hvolume, Column.writtenOrNull_eq hturnover⟩

theorem btcCandles_lawful :
    Lawful btcCandles BtcCandle.SameValues BtcCandle.Representable where
  rowKey h := (BtcCandle.written_eq h).1
  agrees := by
    intro candle other row hwritten hsame
    obtain ⟨-, hopening, hhigh, hlow, hclose, hvolume, hturnover⟩ := BtcCandle.written_eq hwritten
    have hshown : sameOrNull row.turnover candle.turnover = true ↔
        ∀ turnover ∈ candle.turnover, volumeColumn.Keeps turnover := by
      rw [hturnover, hsame.turnover]
      cases candle.turnover with
      | none => simp [sameOrNull]
      | some turnover => simp [sameOrNull, Column.Keeps, volumeColumn]
    change BtcCandle.agrees row candle = true ↔ _
    unfold BtcCandle.agrees
    simp only [Bool.and_eq_true, decide_eq_true_eq, hshown]
    rw [hopening, hhigh, hlow, hclose, hvolume, hsame.opening, hsame.high, hsame.low, hsame.close,
      hsame.volume]
    constructor
    · rintro ⟨⟨⟨⟨⟨h1, h2⟩, h3⟩, h4⟩, h5⟩, h6⟩
      exact ⟨h1, h2, h3, h4, h5, h6⟩
    · intro h
      exact ⟨⟨⟨⟨⟨h.opening, h.high⟩, h.low⟩, h.close⟩, h.volume⟩, h.turnover⟩
  quiet_written candle :=
    (priceColumn.quiet_written _).bind fun _ => (priceColumn.quiet_written _).bind fun _ =>
      (priceColumn.quiet_written _).bind fun _ => (priceColumn.quiet_written _).bind fun _ =>
        (volumeColumn.quiet_written _).bind fun _ =>
          (volumeColumn.quiet_writtenOrNull _).bind fun _ => quiet_ok _
  conflict_cls _ := rfl

/-- The column keeps the price of the point. -/
def PricePoint.Representable (point : PricePoint) : Prop := priceColumn.Keeps point.price

/-- Two points have the same values. -/
structure PricePoint.SameValues (point other : PricePoint) : Prop where
  source : point.source = other.source
  conditionId : point.conditionId = other.conditionId
  outcome : point.outcome = other.outcome
  price : point.price = other.price

theorem polymarketPriceHistory_lawful :
    Lawful polymarketPriceHistory PricePoint.SameValues PricePoint.Representable where
  rowKey h := by
    obtain ⟨price, -, h⟩ := bind_eq_ok.mp h
    rw [← Except.ok.inj h]
    rfl
  agrees := by
    intro point other row hwritten hsame
    obtain ⟨price, hprice, hrow⟩ := bind_eq_ok.mp hwritten
    change PricePoint.agrees row point = true ↔ _
    rw [← Except.ok.inj hrow]
    unfold PricePoint.agrees PricePoint.Representable Column.Keeps
    rw [Column.written_eq hprice, hsame.source, hsame.conditionId, hsame.outcome, hsame.price]
    simp
  quiet_written point := (priceColumn.quiet_written _).bind fun _ => quiet_ok _
  conflict_cls _ := rfl

/-! ## Responses -/

theorem quiet_fromTimestamp (seconds : ℚ) : Quiet (fromTimestamp seconds) := by
  unfold fromTimestamp
  dsimp only
  split_ifs
  · exact quiet_ok _
  · exact quiet_raise (by decide) _
  · exact quiet_raise (by decide) _

theorem quiet_rowNumeral {cls : PyClass} (h : cls ≠ .historicalDataConflict) (message : String)
    (value : Json) : Quiet (rowNumeral cls message value) := by
  unfold rowNumeral
  split
  · exact quiet_ok _
  · exact quiet_raise h message

theorem quiet_finiteNumeral {cls : PyClass} (h : cls ≠ .historicalDataConflict) (message : String)
    (number : Numeral) : Quiet (finiteNumeral cls message number) := by
  cases number with
  | finite value => exact quiet_ok value
  | nan => exact quiet_raise h message
  | infinity negative => exact quiet_raise h message

theorem quiet_rowInt {cls : PyClass} (h : cls ≠ .historicalDataConflict) (message : String)
    (value : Json) : Quiet (rowInt cls message value) := by
  unfold rowInt
  split
  · exact quiet_ok _
  · exact quiet_raise h message

theorem quiet_turnoverNumeral (value : Json) : Quiet (turnoverNumeral value) := by
  unfold turnoverNumeral
  split
  · exact quiet_ok none
  · exact (quiet_rowNumeral (by decide) _ _).bind fun _ => quiet_ok _

theorem quiet_finiteTurnover (turnover : Option Numeral) : Quiet (finiteTurnover turnover) := by
  cases turnover with
  | none => exact quiet_ok none
  | some turnover => exact (quiet_finiteNumeral (by decide) _ _).bind fun _ => quiet_ok _

theorem quiet_readKline (row : Json) : Quiet (readKline row) := by
  have hnumeral := fun value => quiet_rowNumeral (by decide : PyClass.bybitHistoryError ≠ _)
    invalidKline value
  have hfinite := fun message number =>
    quiet_finiteNumeral (by decide : PyClass.bybitHistoryError ≠ _) message number
  unfold readKline
  split
  · refine (quiet_rowInt (by decide) _ _).bind fun _ => ?_
    refine (hnumeral _).bind fun _ => (hnumeral _).bind fun _ => (hnumeral _).bind fun _ =>
      (hnumeral _).bind fun _ => (hnumeral _).bind fun _ => (quiet_turnoverNumeral _).bind fun _ => ?_
    exact (hfinite _ _).bind fun _ => (hfinite _ _).bind fun _ => (hfinite _ _).bind fun _ =>
      (hfinite _ _).bind fun _ => (hfinite _ _).bind fun _ => (quiet_finiteTurnover _).bind fun _ =>
        (quiet_fromTimestamp _).bind fun _ => quiet_ok _
  · exact quiet_raise (by decide) _

theorem quiet_readKlines (payload : Dict) : Quiet (readKlines payload) := by
  unfold readKlines
  refine (quiet_require (by decide) _).bind fun _ => ?_
  split
  · exact quiet_raise (by decide) _
  · split
    · exact (quiet_mapM quiet_readKline _).bind fun _ => quiet_ok _
    · exact quiet_raise (by decide) _

theorem quiet_rowItem (row : Dict) (name : String) : Quiet (rowItem row name) := by
  unfold rowItem
  split_ifs
  · exact quiet_ok _
  · exact quiet_raise (by decide) _

theorem quiet_rowValue (row : Dict) (name : String) : Quiet (rowValue row name) :=
  (quiet_rowItem row name).bind fun _ => quiet_rowNumeral (by decide) _ _

theorem quiet_candleSeconds (row : Json) : Quiet (candleSeconds row) := by
  unfold candleSeconds
  split
  · exact (quiet_rowItem _ _).bind fun _ => quiet_rowInt (by decide) _ _
  · exact quiet_raise (by decide) _

theorem quiet_candleTime (seconds : ℤ) : Quiet (candleTime seconds) := by
  have hquiet := quiet_fromTimestamp seconds
  unfold candleTime
  cases htime : fromTimestamp seconds with
  | ok time => exact quiet_ok time
  | error raised =>
    rw [htime] at hquiet
    dsimp only
    split_ifs
    · exact quiet_raise (by decide) _
    · exact hquiet

theorem quiet_readCandle (row : Json) : Quiet (readCandle row) := by
  have hfinite := fun message number =>
    quiet_finiteNumeral (by decide : PyClass.coinbaseHistoryError ≠ _) message number
  unfold readCandle
  split
  · next entries =>
    have hvalue := quiet_rowValue entries
    refine (quiet_candleSeconds _).bind fun seconds => (quiet_candleTime seconds).bind fun _ => ?_
    refine (hvalue _).bind fun _ => (hvalue _).bind fun _ => (hvalue _).bind fun _ =>
      (hvalue _).bind fun _ => (hvalue _).bind fun _ => ?_
    exact (hfinite _ _).bind fun _ => (hfinite _ _).bind fun _ => (hfinite _ _).bind fun _ =>
      (hfinite _ _).bind fun _ => (hfinite _ _).bind fun _ => quiet_ok _
  · exact quiet_raise (by decide) _

theorem quiet_readCandles (payload : Dict) : Quiet (readCandles payload) := by
  unfold readCandles
  split
  · exact (quiet_mapM quiet_readCandle _).bind fun _ => quiet_ok _
  · exact quiet_raise (by decide) _

theorem quiet_readHistory (payload : Dict) : Quiet (readHistory payload) := by
  have hpoint : ∀ item, Quiet (readPoint item) := by
    intro item
    unfold readPoint
    split
    · split
      · exact quiet_raise (by decide) _
      · dsimp only
        split
        · exact (quiet_finiteNumeral (by decide) _ _).bind fun _ =>
            (quiet_require (by decide) _).bind fun _ => quiet_ok _
        · exact quiet_raise (by decide) _
    · exact quiet_raise (by decide) _
  unfold readHistory
  split
  · exact (quiet_mapM hpoint _).bind fun _ => quiet_ok _
  · exact quiet_raise (by decide) _

/-- A provider that raises errors of its own only. -/
structure Provider.IsQuiet (provider : Provider) : Prop where
  check : ∀ symbol limit, Quiet (provider.check symbol limit)
  notMapping : provider.notMapping.cls ≠ .historicalDataConflict
  read : ∀ payload, Quiet (provider.read payload)

theorem bybit_quiet (category interval : String) : (bybit category interval).IsQuiet where
  check _ _ := (quiet_require (by decide) _).bind fun _ => (quiet_require (by decide) _).bind fun _ =>
    quiet_require (by decide) _
  notMapping h := PyClass.noConfusion h
  read := quiet_readKlines

theorem coinbase_quiet (granularity : String) : (coinbase granularity).IsQuiet where
  check _ _ := (quiet_require (by decide) _).bind fun _ => quiet_require (by decide) _
  notMapping h := PyClass.noConfusion h
  read := quiet_readCandles

theorem quiet_windows (width finish : Timestamp) (fuel : ℕ) (cursor : Timestamp) :
    ∀ window ∈ windowsFrom width finish fuel cursor, Quiet window := by
  induction fuel generalizing cursor with
  | zero => simp [windowsFrom]
  | succ fuel ih =>
    unfold windowsFrom
    intro window hwindow
    split_ifs at hwindow
    · rcases List.mem_cons.mp hwindow with rfl | hwindow
      · exact quiet_ok _
      · exact ih _ window hwindow
    · rw [List.mem_singleton.mp hwindow]
      rfl
    · cases hwindow

theorem quiet_candleWindows (start finish : Timestamp) (intervalSeconds maxCandles : ℤ) :
    ∀ window ∈ candleWindows start finish intervalSeconds maxCandles, Quiet window := by
  unfold candleWindows
  intro window hwindow
  split_ifs at hwindow
  · rw [List.mem_singleton.mp hwindow]
    exact quiet_raise (by decide) _
  · rw [List.mem_singleton.mp hwindow]
    exact quiet_raise (by decide) _
  · rw [List.mem_singleton.mp hwindow]
    exact quiet_raise (by decide) _
  · exact quiet_windows _ _ _ _ window hwindow

/-- The chunks of a backfill of candles. -/
def Provider.chunks (provider : Provider) (job : Job) (start finish : Timestamp) :
    List (Outcome (Chunk BtcCandle)) :=
  (candleWindows start finish job.intervalSeconds job.maxCandles).map (provider.chunk job)

theorem Provider.backfill_eq (provider : Provider) (job : Job) (start finish : Timestamp)
    (progress : Progress BtcCandle) :
    provider.backfill job start finish progress =
      (provider.chunks job start finish).foldlM (storeChunk btcCandles.store) progress := by
  unfold Provider.backfill Provider.chunks
  rw [List.foldlM_map]
  rfl

theorem Provider.IsQuiet.chunks {provider : Provider} (h : provider.IsQuiet) {job : Job}
    (hhttp : ∀ params, Quiet (job.http params)) (start finish : Timestamp) :
    ∀ chunk ∈ provider.chunks job start finish, Quiet chunk := by
  intro chunk hchunk
  obtain ⟨window, hwindow, rfl⟩ := List.mem_map.mp hchunk
  refine (quiet_candleWindows _ _ _ _ window hwindow).bind fun bounds => Quiet.bind ?_ fun response =>
    quiet_ok _
  refine (h.check _ _).bind fun _ => (quiet_require (by decide) _).bind fun _ =>
    (hhttp _).bind fun payload => ?_
  split
  · unfold Quiet
    rw [raises_error]
    simpa using h.notMapping
  · exact (h.read _).bind fun _ => quiet_ok _

/-- The chunks of a backfill of prices. -/
def priceChunks (job : PriceJob) (markets : List PolymarketMarket) (start finish : Timestamp) :
    List (Outcome (Chunk PricePoint)) :=
  (priceRequests markets start finish).map fun request =>
    priceChunk job request.1 request.2.1 request.2.2

theorem quiet_priceChunks {job : PriceJob} (hhttp : ∀ params, Quiet (job.http params))
    (markets : List PolymarketMarket) (start finish : Timestamp) :
    ∀ chunk ∈ priceChunks job markets start finish, Quiet chunk := by
  intro chunk hchunk
  obtain ⟨request, -, rfl⟩ := List.mem_map.mp hchunk
  refine Quiet.bind ?_ fun response => quiet_ok _
  refine (quiet_require (by decide) _).bind fun _ => (quiet_require (by decide) _).bind fun _ =>
    (quiet_require (by decide) _).bind fun _ => (hhttp _).bind fun payload => ?_
  split
  · exact quiet_raise (by decide) _
  · exact (quiet_readHistory _).bind fun _ => quiet_ok _

/-! ## The three backfills -/

/-- What `backfill_bybit_candles` asks for. -/
def bybitRequests (job : Job) (category : String) (start finish : Timestamp) :
    Outcome (List (Outcome (Chunk BtcCandle))) := do
  require (1 ≤ job.maxCandles ∧ job.maxCandles ≤ 1000) .valueError
    "max_candles_per_request must be between 1 and 1000"
  let interval ← bybitInterval job.intervalSeconds
  .ok ((bybit category interval).chunks job start finish)

/-- What `backfill_coinbase_candles` asks for. -/
def coinbaseRequests (job : Job) (start finish : Timestamp) :
    Outcome (List (Outcome (Chunk BtcCandle))) := do
  require (1 ≤ job.maxCandles ∧ job.maxCandles ≤ 350) .valueError
    "max_candles_per_request must be between 1 and 350"
  let granularity ← coinbaseGranularity job.intervalSeconds
  .ok ((coinbase granularity).chunks job start finish)

/-- What `backfill_polymarket_prices` asks for. -/
def polymarketRequests (job : PriceJob) (markets : List PolymarketMarket) (start finish : Timestamp) :
    Outcome (List (Outcome (Chunk PricePoint))) := do
  require (start < finish) .valueError "start must be before end"
  require (0 < job.fidelityMinutes) .valueError "fidelity_minutes must be positive"
  .ok (priceChunks job markets start finish)

theorem backfillBybitCandles_eq (job : Job) (category : String) (start finish : Timestamp)
    (progress : Progress BtcCandle) :
    backfillBybitCandles job category start finish progress =
      runRequests btcCandles.store (bybitRequests job category start finish) progress := by
  unfold backfillBybitCandles runRequests bybitRequests
  simp only [Provider.backfill_eq, bind_assoc, ok_bind]

theorem backfillCoinbaseCandles_eq (job : Job) (start finish : Timestamp)
    (progress : Progress BtcCandle) :
    backfillCoinbaseCandles job start finish progress =
      runRequests btcCandles.store (coinbaseRequests job start finish) progress := by
  unfold backfillCoinbaseCandles runRequests coinbaseRequests
  simp only [Provider.backfill_eq, bind_assoc, ok_bind]

theorem backfillPolymarketPrices_eq (job : PriceJob) (markets : List PolymarketMarket)
    (start finish : Timestamp) (progress : Progress PricePoint) :
    backfillPolymarketPrices job markets start finish progress =
      runRequests polymarketPriceHistory.store (polymarketRequests job markets start finish)
        progress := by
  unfold backfillPolymarketPrices runRequests polymarketRequests priceChunks
  simp only [bind_assoc, ok_bind, List.foldlM_map]
  rfl

theorem quiet_bybitRequests (job : Job) (category : String) (start finish : Timestamp) :
    Quiet (bybitRequests job category start finish) := by
  refine (quiet_require (by decide) _).bind fun _ => Quiet.bind ?_ fun interval => quiet_ok _
  unfold bybitInterval
  split
  · exact quiet_ok _
  · exact quiet_raise (by decide) _

theorem quiet_coinbaseRequests (job : Job) (start finish : Timestamp) :
    Quiet (coinbaseRequests job start finish) := by
  refine (quiet_require (by decide) _).bind fun _ => Quiet.bind ?_ fun granularity => quiet_ok _
  unfold coinbaseGranularity
  split
  · exact quiet_ok _
  · exact quiet_raise (by decide) _

theorem quiet_polymarketRequests (job : PriceJob) (markets : List PolymarketMarket)
    (start finish : Timestamp) : Quiet (polymarketRequests job markets start finish) :=
  (quiet_require (by decide) _).bind fun _ => (quiet_require (by decide) _).bind fun _ => quiet_ok _

/-- **A backfill that is run again over the data of its provider leaves what is stored as it is exactly
when every value it writes again is one its column keeps.**  The transport of the second run raises no
conflict of historical data itself. -/
theorem second_backfill_iff (start finish start' finish' : Timestamp) :
    (∀ (data : BtcCandle → Prop) (job again : Job) (category : String)
      (before after : Progress BtcCandle),
      Twice btcCandles BtcCandle.SameValues data (bybitRequests job category start finish)
        (bybitRequests again category start' finish') before after →
      (∀ params, Quiet (again.http params)) →
      (RunsAgain btcCandles after.table
          (backfillBybitCandles again category start' finish' after.again) ↔
        Exactly btcCandles BtcCandle.Representable after.again
          (bybitRequests again category start' finish'))) ∧
    (∀ (data : BtcCandle → Prop) (job again : Job) (before after : Progress BtcCandle),
      Twice btcCandles BtcCandle.SameValues data (coinbaseRequests job start finish)
        (coinbaseRequests again start' finish') before after →
      (∀ params, Quiet (again.http params)) →
      (RunsAgain btcCandles after.table (backfillCoinbaseCandles again start' finish' after.again) ↔
        Exactly btcCandles BtcCandle.Representable after.again
          (coinbaseRequests again start' finish'))) ∧
    ∀ (data : PricePoint → Prop) (job again : PriceJob) (markets markets' : List PolymarketMarket)
      (before after : Progress PricePoint),
      Twice polymarketPriceHistory PricePoint.SameValues data
        (polymarketRequests job markets start finish)
        (polymarketRequests again markets' start' finish') before after →
      (∀ params, Quiet (again.http params)) →
      (RunsAgain polymarketPriceHistory after.table
          (backfillPolymarketPrices again markets' start' finish' after.again) ↔
        Exactly polymarketPriceHistory PricePoint.Representable after.again
          (polymarketRequests again markets' start' finish')) := by
  refine ⟨?_, ?_, ?_⟩
  · intro data job again category before after htwice hhttp
    rw [backfillBybitCandles_eq]
    refine runs_again_iff btcCandles_lawful htwice (quiet_bybitRequests ..) fun chunks hchunks => ?_
    obtain ⟨_, -, hchunks⟩ := bind_eq_ok.mp hchunks
    obtain ⟨interval, -, hchunks⟩ := bind_eq_ok.mp hchunks
    rw [← Except.ok.inj hchunks]
    exact (bybit_quiet category interval).chunks hhttp start' finish'
  · intro data job again before after htwice hhttp
    rw [backfillCoinbaseCandles_eq]
    refine runs_again_iff btcCandles_lawful htwice (quiet_coinbaseRequests ..) fun chunks hchunks => ?_
    obtain ⟨_, -, hchunks⟩ := bind_eq_ok.mp hchunks
    obtain ⟨granularity, -, hchunks⟩ := bind_eq_ok.mp hchunks
    rw [← Except.ok.inj hchunks]
    exact (coinbase_quiet granularity).chunks hhttp start' finish'
  · intro data job again markets markets' before after htwice hhttp
    rw [backfillPolymarketPrices_eq]
    refine runs_again_iff polymarketPriceHistory_lawful htwice (quiet_polymarketRequests ..)
      fun chunks hchunks => ?_
    obtain ⟨_, -, hchunks⟩ := bind_eq_ok.mp hchunks
    obtain ⟨_, -, hchunks⟩ := bind_eq_ok.mp hchunks
    rw [← Except.ok.inj hchunks]
    exact quiet_priceChunks hhttp markets' start' finish'

/-! ### One candle -/

/-- A backfill of one-minute candles from a provider that answers with the candle of the first minute,
which opens at `opening`. -/
def oneCandle (opening : String) : Job where
  runId := "run"
  symbol := "BTCUSDT"
  downloadedAt := 0
  intervalSeconds := 60
  maxCandles := 1
  digest _ := "sha256"
  http _ := .ok (.obj [("retCode", .int 0), ("result", .obj [("list", .arr [.arr
    [.str "0", .str opening, .str "2", .str "1", .str "1.5", .str "10", .str "15"]])])])

/-- The candle that is answered when it opens at 1.5. -/
def firstCandle (candle : BtcCandle) : Bool :=
  candle.key.intervalSeconds = 60 && candle.opening = ⟨15, -1⟩ && candle.high = ⟨2, 0⟩ &&
    candle.low = ⟨1, 0⟩ && candle.close = ⟨15, -1⟩ && candle.volume = ⟨10, 0⟩ &&
    candle.turnover = some ⟨15, 0⟩

theorem oneCandle_delivers :
    ∀ chunks, bybitRequests (oneCandle "1.5") "spot" 0 60000000 = .ok chunks →
      Delivers (fun candle => firstCandle candle = true) chunks := by
  have hall : (match bybitRequests (oneCandle "1.5") "spot" 0 60000000 with
      | .ok chunks => chunks.all fun chunk => (observationsOf chunk).all firstCandle
      | .error _ => false) = true := by decide +kernel
  intro chunks hchunks
  rw [hchunks] at hall
  intro chunk hchunk candle hcandle
  exact List.all_eq_true.mp (List.all_eq_true.mp hall chunk hchunk) candle hcandle

theorem second_backfill_iff_sample :
    ∃ after, backfillBybitCandles (oneCandle "1.5") "spot" 0 60000000 ⟨[], [], {}⟩ = .ok after ∧
      after.table.length = 1 ∧
      (RunsAgain btcCandles after.table
          (backfillBybitCandles (oneCandle "1.5") "spot" 0 60000000 after.again) ↔
        Exactly btcCandles BtcCandle.Representable after.again
          (bybitRequests (oneCandle "1.5") "spot" 0 60000000)) := by
  have hended : (match backfillBybitCandles (oneCandle "1.5") "spot" 0 60000000 ⟨[], [], {}⟩ with
      | .ok after => after.table.length
      | .error _ => 0) = 1 := by decide +kernel
  cases hafter : backfillBybitCandles (oneCandle "1.5") "spot" 0 60000000 ⟨[], [], {}⟩ with
  | error raised => simp [hafter] at hended
  | ok after =>
    rw [hafter] at hended
    refine ⟨after, rfl, hended, ?_⟩
    refine (second_backfill_iff 0 60000000 0 60000000).1 (fun candle => firstCandle candle = true)
      (oneCandle "1.5") (oneCandle "1.5") "spot" ⟨[], [], {}⟩ after ?_ fun _ => quiet_ok _
    refine ⟨⟨?_, ?_⟩, fun row hrow => (nomatch hrow), oneCandle_delivers, oneCandle_delivers, ?_⟩
    · intro candle hcandle
      simp only [firstCandle, Bool.and_eq_true, decide_eq_true_eq] at hcandle
      simp [btcCandles, hcandle, require]
    · intro candle other hcandle hother _
      simp only [firstCandle, Bool.and_eq_true, decide_eq_true_eq] at hcandle hother
      obtain ⟨⟨⟨⟨⟨⟨-, h1⟩, h2⟩, h3⟩, h4⟩, h5⟩, h6⟩ := hcandle
      obtain ⟨⟨⟨⟨⟨⟨-, h1'⟩, h2'⟩, h3'⟩, h4'⟩, h5'⟩, h6'⟩ := hother
      exact ⟨h1.trans h1'.symm, h2.trans h2'.symm, h3.trans h3'.symm, h4.trans h4'.symm,
        h5.trans h5'.symm, h6.trans h6'.symm⟩
    · rw [← backfillBybitCandles_eq]
      exact hafter

/-- A price with thirteen decimals: the second run raises a conflict with what the first one stored. -/
theorem second_backfill_conflicts :
    ∃ after, backfillBybitCandles (oneCandle "1.0000000000001") "spot" 0 60000000 ⟨[], [], {}⟩ =
        .ok after ∧
      raises .historicalDataConflict
        (backfillBybitCandles (oneCandle "1.0000000000001") "spot" 0 60000000 after.again) = true := by
  have hraised : (match
      backfillBybitCandles (oneCandle "1.0000000000001") "spot" 0 60000000 ⟨[], [], {}⟩ with
      | .ok after => raises .historicalDataConflict
          (backfillBybitCandles (oneCandle "1.0000000000001") "spot" 0 60000000 after.again)
      | .error _ => false) = true := by decide +kernel
  cases hafter : backfillBybitCandles (oneCandle "1.0000000000001") "spot" 0 60000000 ⟨[], [], {}⟩ with
  | error raised => simp [hafter] at hraised
  | ok after =>
    rw [hafter] at hraised
    exact ⟨after, rfl, hraised⟩

end BpEngine.Backfill
