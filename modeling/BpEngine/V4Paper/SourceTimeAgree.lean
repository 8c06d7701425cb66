import BpEngine.V4Paper.SourceTimeReads

/-!
# The three ways to the candidate rows

A price read from rows that were fetched ahead, from the hourly tables and from one query of their
parent is the same while the reader's beliefs are true.

* `aheadRows_eq_selected`: the hours have for a request what the parent has.
* `Session` is a reader with the tables it reads, which others change; `reads_agree` is about every
  run in which the hours that the reader looked up keep hanging on the parent, or apart from it.
* `not_reads_agree`: an hour that was looked up too early stays unread.
-/

namespace BpEngine.V4Paper.SourceTime

open BpEngine.Prospective (Arithmetic)
open BpEngine.Storage (RawPartition RawRow floorHour hour floorHour_mono floorHour_idem)

/-! ## The hours and their parent -/

/-- The connection to hourly tables. -/
def HourTables.connection (tables : HourTables) : Connection := ⟨true, .hourly tables⟩

variable {tables : HourTables} {limits : SourceLimits} {key : CandidateKey}

theorem partition?_of_mem {partition : RawPartition} (h : partition ∈ tables.partitions) :
    (RawTable.hourly tables).partition? partition.startAt = some partition := by
  show tables.partitions.find? (fun other => other.startAt = partition.startAt) = some partition
  cases hfind : tables.partitions.find? fun other => other.startAt = partition.startAt with
  | none =>
    exact absurd (decide_eq_true rfl) (List.find?_eq_none.mp hfind partition h)
  | some other =>
    have hstart := List.find?_some hfind
    rw [decide_eq_true_eq] at hstart
    rw [List.inj_on_of_nodup_map tables.starts (List.mem_of_find?_eq_some hfind) h hstart]

theorem mem_of_partition? {name : Timestamp} {partition : RawPartition}
    (h : (RawTable.hourly tables).partition? name = some partition) :
    partition ∈ tables.partitions ∧ partition.startAt = name := by
  have hstart := List.find?_some h
  exact ⟨List.mem_of_find?_eq_some h, of_decide_eq_true hstart⟩

/-- The hours of a request at `requested`. -/
def SourceLimits.hoursAt (limits : SourceLimits) (requested : Timestamp) : List Timestamp :=
  hoursBetween (requested + -limits.window) requested

/-- No hourly table of the request is about to leave its parent. -/
def Settled (tables : HourTables) (limits : SourceLimits) (requested : Timestamp) : Prop :=
  ∀ name ∈ limits.hoursAt requested, ∀ partition,
    (RawTable.hourly tables).partition? name = some partition →
      partition.attachment ≠ .detachPending

instance (tables : HourTables) (limits : SourceLimits) (requested : Timestamp) :
    Decidable (Settled tables limits requested) :=
  decidable_of_iff (∀ name ∈ limits.hoursAt requested,
    ((RawTable.hourly tables).partition? name).all fun partition =>
      partition.attachment ≠ .detachPending) <| by
    refine forall₂_congr fun name _ => ?_
    cases (RawTable.hourly tables).partition? name <;> simp

/-- A row under the condition came in one of the hours of the request. -/
theorem floorHour_mem_hoursAt {clause : String → Bool} {row : RawRow}
    (h : isCandidate key (limits.boundsAt key.requestedAt) clause row = true) :
    floorHour row.receivedAt ∈ limits.hoursAt key.requestedAt := by
  have hbetween : key.requestedAt + -limits.window ≤ row.receivedAt ∧
      row.receivedAt ≤ key.requestedAt := by
    unfold isCandidate at h
    simp only [Bool.and_eq_true, decide_eq_true_eq] at h
    exact ⟨h.1.1.1.2, h.1.1.2⟩
  exact mem_hoursBetween.mpr ⟨floorHour_idem _, floorHour_mono hbetween.1, floorHour_mono hbetween.2⟩

/-- **The hours have what the parent has**, where none of them is about to leave. -/
theorem aheadRows_eq_selected (hsettled : Settled tables limits key.requestedAt) :
    aheadRows tables.connection (RawTable.hourly tables).inherits limits key =
      selected key (limits.boundsAt key.requestedAt) (clauseOf key.source key.tickerOnly)
        (RawTable.hourly tables).rows := by
  have hnames : ((limits.namesAt key).filter (RawTable.hourly tables).inherits).Nodup :=
    (nodup_hoursBetween _ _).filter _
  have hpositions : ((((limits.namesAt key).filter (RawTable.hourly tables).inherits).flatMap
      (selectedIn tables.connection limits key)).map position).Nodup :=
    positions_hours limits key hnames
  have hparent : ((RawTable.hourly tables).rows.map position).Nodup := by
    refine tables.positions.sublist (List.Sublist.map position ?_)
    exact List.Sublist.flatMap List.filter_sublist RawPartition.rows
  refine Relation.insertionSort_newestFirst_eq hpositions ?_
  refine (List.perm_ext_iff_of_nodup (List.Nodup.of_map _ hpositions)
    ((List.Nodup.of_map _ hparent).filter _)).mpr fun row => ?_
  rw [List.mem_flatMap, List.mem_filter]
  constructor
  · rintro ⟨name, hname, hrow⟩
    obtain ⟨hin, hinherits⟩ := List.mem_filter.mp hname
    obtain ⟨hrows, hcandidate⟩ := List.mem_filter.mp ((List.mem_insertionSort _).mp hrow)
    refine ⟨?_, hcandidate⟩
    rcases rowsIn_cases tables.connection name with hnil | ⟨_, _, partition, _, hfind, _, heq⟩
    · rw [hnil] at hrows
      exact absurd hrows List.not_mem_nil
    · have hfind' : (RawTable.hourly tables).partition? name = some partition := hfind
      have hattached : partition.attachment = .attached := by
        unfold RawTable.inherits at hinherits
        rw [hfind'] at hinherits
        have hleaving := hsettled name hin partition hfind'
        cases hcase : partition.attachment with
        | attached => rfl
        | detachPending => exact absurd hcase hleaving
        | detached => simp [hcase] at hinherits
      rw [heq] at hrows
      refine List.mem_flatMap.mpr ⟨partition, List.mem_filter.mpr ⟨?_, ?_⟩, hrows⟩
      · exact (mem_of_partition? hfind').1
      · exact decide_eq_true hattached
  · rintro ⟨hrow, hcandidate⟩
    obtain ⟨partition, hpartition, hrow⟩ := List.mem_flatMap.mp hrow
    obtain ⟨hmem, hattached⟩ := List.mem_filter.mp hpartition
    rw [decide_eq_true_eq] at hattached
    have hfind := partition?_of_mem hmem
    have hhour : floorHour row.receivedAt = partition.startAt := partition.bounded row hrow
    refine ⟨partition.startAt, List.mem_filter.mpr ⟨?_, ?_⟩, ?_⟩
    · rw [← hhour]
      exact floorHour_mem_hoursAt hcandidate
    · unfold RawTable.inherits
      rw [hfind, Option.any_some, hattached]
      rfl
    · refine (List.mem_insertionSort _).mpr (List.mem_filter.mpr ⟨?_, hcandidate⟩)
      have hfind' : tables.connection.table.partition? partition.startAt = some partition := hfind
      unfold rowsIn
      rw [hfind']
      exact hrow

/-! ## The price of the rows -/

variable {F : Type} (A : Arithmetic F)

/-- A price that is read from rows is read from whatever finds the same rows. -/
theorem latestPriceFrom_of_ok {rowsFor rowsFor' : CandidateKey → Outcome (List RawRow)}
    {source stream instrument : String} {requested : Timestamp} {includeLinearTickerState : Bool}
    (h : ∀ tickerOnly rows, rowsFor ⟨source, stream, instrument, requested, tickerOnly⟩ = .ok rows →
      rowsFor' ⟨source, stream, instrument, requested, tickerOnly⟩ = .ok rows)
    {price : PriceRead}
    (hprice : latestPriceFrom A limits rowsFor source stream instrument requested
      includeLinearTickerState = .ok price) :
    latestPriceFrom A limits rowsFor' source stream instrument requested
      includeLinearTickerState = .ok price := by
  unfold latestPriceFrom at hprice ⊢
  obtain ⟨rows, hrows, hrest⟩ := bind_eq_ok.mp hprice
  rw [h false rows hrows, ok_bind]
  cases hchosen : minBy (fun a b => ranksBefore A a.1 b.1)
      (priceCandidates limits source requested rows) with
  | none =>
    rw [hchosen] at hrest
    exact hrest
  | some chosen =>
    rw [hchosen] at hrest
    cases includeLinearTickerState with
    | false => exact hrest
    | true =>
      obtain ⟨tickers, htickers, hlast⟩ := bind_eq_ok.mp hrest
      exact bind_eq_ok.mpr ⟨tickers, h true tickers htickers, hlast⟩

/-! ## Sessions -/

/-- A reader, and the tables that it reads. -/
structure Session where
  tables : HourTables
  reader : V4SourceTimeReader

/-- What happens in a session: hourly tables are created, attached, detached or written to, or a method
of the reader is called. -/
inductive SessionOp where
  | change (tables : HourTables)
  | prefetch (requests : List CandidateKey)
  | latestPrice (source stream instrument : String) (requested : Timestamp)
      (includeLinearTickerState : Bool)

/-- One step of a session; a call that raises leaves the reader as far as it came. -/
def Session.exec (session : Session) : SessionOp → Session
  | .change tables => { session with tables }
  | .prefetch requests =>
    { session with
      reader := (prefetchCandidateRows session.tables.connection requests session.reader).2 }
  | .latestPrice source stream instrument requested includeLinearTickerState =>
    { session with
      reader := (SourceTime.latestPrice A session.tables.connection source stream instrument requested
        includeLinearTickerState session.reader).2 }

/-- The hours that the reader looked up hang on the parent after a change as they did before it. -/
def Session.KeepsAttached (session : Session) : SessionOp → Prop
  | .change tables => ∀ name,
    (session.reader.postgresAttachedPartitions.lookup name).isSome = true →
      (RawTable.hourly tables).inherits name = (RawTable.hourly session.tables).inherits name
  | _ => True

/-- What the reader remembers is so. -/
structure Session.Sound (session : Session) : Prop where
  attached : Batch.Sound session.reader.postgresAttachedPartitions
    (RawTable.hourly session.tables).inherits
  partitioned : session.reader.partitioned session.tables.connection = true

theorem Session.sound_new (tables : HourTables) (limits : SourceLimits) :
    Session.Sound ⟨tables, { limits }⟩ := ⟨Batch.sound_nil _, rfl⟩

/-- A call changes no belief. -/
theorem Session.Sound.of_beliefs {session : Session} {after : V4SourceTimeReader}
    (h : session.Sound) (hsame : SameBeliefs session.tables.connection session.reader after) :
    Session.Sound { session with reader := after } :=
  ⟨h.attached.of_known hsame.known, hsame.partitioned.trans h.partitioned⟩

theorem Session.Sound.exec {session : Session} (h : session.Sound) {op : SessionOp}
    (hkeeps : session.KeepsAttached op) : (session.exec A op).Sound := by
  cases op with
  | change tables => exact ⟨h.attached.change hkeeps, h.partitioned⟩
  | prefetch requests => exact h.of_beliefs (prefetchCandidateRows_spec _ _ _).1
  | latestPrice source stream instrument requested includeLinearTickerState =>
    exact h.of_beliefs (gives_latestPrice A source stream instrument requested
      includeLinearTickerState).learned.toSameBeliefs

/-- The invariant of a run. -/
theorem Session.Sound.run {session : Session} (h : session.Sound) {ops : List SessionOp}
    (hkeeps : Machine.Along (Session.exec A) Session.KeepsAttached session ops) :
    (Machine.run (Session.exec A) session ops).Sound :=
  Machine.run_invariant (Session.exec A)
    (fun (before : Session) op (hsound : before.Sound) (hop : before.KeepsAttached op) =>
      hsound.exec A hop) h hkeeps

theorem Session.Sound.known_eq {session : Session} (h : session.Sound) :
    session.reader.known session.tables.connection = (RawTable.hourly session.tables).inherits :=
  Batch.known_of_sound h.attached

/-! ## Agreement -/

section Reads

variable (source stream instrument : String) (requested : Timestamp)
  (includeLinearTickerState : Bool)

/-- `latest_price`, by the queries of the hourly tables. -/
def Session.byPartition (session : Session) : Outcome PriceRead :=
  (SourceTime.latestPrice A session.tables.connection source stream instrument requested
    includeLinearTickerState session.reader.cleared).1

/-- `latest_price`, by one query of the parent. -/
def Session.byParent (session : Session) : Outcome PriceRead :=
  latestPriceFrom A session.reader.limits
    (selectCandidateRows session.tables.connection session.reader.limits) source stream instrument
    requested includeLinearTickerState

/-- `latest_price` after `prefetch_candidate_rows`. -/
def Session.fetchedAhead (session : Session) (requests : List CandidateKey) : Outcome PriceRead :=
  match prefetchCandidateRows session.tables.connection requests session.reader with
  | (.ok (), after) => (SourceTime.latestPrice A session.tables.connection source stream instrument
      requested includeLinearTickerState after).1
  | (.error raised, _) => .error raised

end Reads

theorem selectCandidateRows_eq_ok {connection : Connection} {rows : List RawRow}
    (hpostgresql : connection.postgresql = true) :
    selectCandidateRows connection limits key = .ok rows ↔
      (limits.Within key.requestedAt ∧
        eventClause true key.source key.tickerOnly = .ok (clauseOf key.source key.tickerOnly)) ∧
      rows = selected key (limits.boundsAt key.requestedAt) (clauseOf key.source key.tickerOnly)
        connection.table.rows := by
  unfold selectCandidateRows
  rw [hpostgresql]
  exact ((bounds_returns _ _).bind ((clause_returns _ _).map _)) rows

/-- What the hourly tables return, the parent returns. -/
theorem select_of_partition (hsettled : Settled tables limits key.requestedAt) {rows : List RawRow}
    (h : partitionCandidates tables.connection (RawTable.hourly tables).inherits limits key =
      .ok rows) : selectCandidateRows tables.connection limits key = .ok rows := by
  obtain ⟨⟨hwithin, hclause, -, -⟩, rfl⟩ := (partitionCandidates_returns _ _ _ _ _).mp h
  exact (selectCandidateRows_eq_ok rfl).mpr ⟨⟨hwithin, hclause⟩, aheadRows_eq_selected hsettled⟩

/-- What the parent returns, the hourly tables return, before the last hour of the calendar. -/
theorem partition_of_select (hsettled : Settled tables limits key.requestedAt)
    (hlast : IsoTime.InRange (floorHour key.requestedAt + hour)) {rows : List RawRow}
    (h : selectCandidateRows tables.connection limits key = .ok rows) :
    partitionCandidates tables.connection (RawTable.hourly tables).inherits limits key =
      .ok rows := by
  obtain ⟨⟨hwithin, hclause⟩, rfl⟩ := (selectCandidateRows_eq_ok rfl).mp h
  refine (partitionCandidates_returns _ _ _ _ _).mpr
    ⟨⟨hwithin, hclause, ?_, fun name _ hinherits => ?_⟩, (aheadRows_eq_selected hsettled).symm⟩
  · unfold candidatePartitionNames
    rw [require_eq_ok (u := ()) |>.mpr fun _ => hlast]
    rfl
  · unfold RawTable.inherits at hinherits
    unfold partitionRows rowsIn
    cases hfind : tables.connection.table.partition? name with
    | none =>
      have hmissing : (RawTable.hourly tables).partition? name = none := hfind
      simp [hmissing] at hinherits
    | some partition => rfl

/-- Rows that were fetched ahead are the ones that the hourly tables return. -/
theorem candidatesOf_fetched {connection : Connection} {reader : V4SourceTimeReader}
    {requests : List CandidateKey} (hbyHour : reader.byHour connection = true)
    (hok : (prefetchCandidateRows connection requests reader).1 = .ok ()) {rows : List RawRow}
    (hrows : partitionCandidates connection (reader.known connection) reader.limits key = .ok rows) :
    candidatesOf connection (prefetchCandidateRows connection requests reader).2 key = .ok rows := by
  obtain ⟨hsame, -, hleft⟩ := prefetchCandidateRows_spec connection reader requests
  have hpartitioned : (connection.postgresql &&
      (prefetchCandidateRows connection requests reader).2.partitioned connection) = true := by
    rw [hsame.partitioned]
    exact hbyHour
  unfold candidatesOf
  rw [hleft hok key]
  split_ifs
  · rw [((partitionCandidates_returns _ _ _ _ _).mp hrows).2]
  · rw [hsame.known, hsame.limits]
    exact hrows

/-- **The three ways agree.** In every run of a reader in which the hours it looked up keep hanging on
the parent or apart from it, and for every request none of whose hours is about to leave: a price that
the hourly tables return is the one that the parent returns, and the one that is read after fetching
any requests ahead; and before the last hour of the calendar the hourly tables return what the parent
does. -/
theorem reads_agree (limits : SourceLimits) (start : HourTables) (ops : List SessionOp)
    (hkeeps : Machine.Along (Session.exec A) Session.KeepsAttached ⟨start, { limits }⟩ ops)
    (source stream instrument : String) (requested : Timestamp) (includeLinearTickerState : Bool)
    (hsettled : Settled (Machine.run (Session.exec A) ⟨start, { limits }⟩ ops).tables
      (Machine.run (Session.exec A) ⟨start, { limits }⟩ ops).reader.limits requested) :
    let session := Machine.run (Session.exec A) ⟨start, { limits }⟩ ops
    (∀ price, session.byPartition A source stream instrument requested includeLinearTickerState =
        .ok price →
      session.byParent A source stream instrument requested includeLinearTickerState = .ok price ∧
        ∀ requests, (prefetchCandidateRows session.tables.connection requests session.reader).1 =
            .ok () →
          session.fetchedAhead A source stream instrument requested includeLinearTickerState requests =
            .ok price) ∧
    (IsoTime.InRange (floorHour requested + hour) → ∀ price,
      session.byParent A source stream instrument requested includeLinearTickerState = .ok price →
      session.byPartition A source stream instrument requested includeLinearTickerState =
        .ok price) := by
  intro session
  have hsound : session.Sound := (Session.sound_new start limits).run A hkeeps
  have hknown := hsound.known_eq
  have hbyHour : session.reader.byHour session.tables.connection = true := by
    unfold V4SourceTimeReader.byHour
    rw [hsound.partitioned]
    rfl
  -- the rows that the hourly tables give
  have hpartition : session.byPartition A source stream instrument requested
      includeLinearTickerState = latestPriceFrom A session.reader.limits
        (partitionCandidates session.tables.connection (RawTable.hourly session.tables).inherits
          session.reader.limits) source stream instrument requested includeLinearTickerState := by
    refine (gives_latestPrice A source stream instrument requested
      includeLinearTickerState).result.trans ?_
    have hcandidates : candidatesOf session.tables.connection session.reader.cleared =
        partitionCandidates session.tables.connection (RawTable.hourly session.tables).inherits
          session.reader.limits := by
      funext key
      rw [← hknown]
      exact if_pos hbyHour
    rw [hcandidates]
    rfl
  rw [hpartition]
  refine ⟨fun price hprice => ⟨?_, fun requests hok => ?_⟩, fun hlast price hprice => ?_⟩
  · exact latestPriceFrom_of_ok A (fun _ _ h => select_of_partition hsettled h) hprice
  · have hlimits := (prefetchCandidateRows_spec session.tables.connection session.reader
      requests).1.limits
    have hrows : ∀ key rows, partitionCandidates session.tables.connection
        (RawTable.hourly session.tables).inherits session.reader.limits key = .ok rows →
          candidatesOf session.tables.connection (prefetchCandidateRows session.tables.connection
            requests session.reader).2 key = .ok rows := by
      intro key rows hrows
      rw [← hknown] at hrows
      exact candidatesOf_fetched hbyHour hok hrows
    unfold Session.fetchedAhead
    rcases hafter : prefetchCandidateRows session.tables.connection requests session.reader with
      ⟨result, after⟩
    rw [hafter] at hok hlimits hrows
    dsimp only at hok hlimits hrows
    subst hok
    refine (gives_latestPrice A source stream instrument requested
      includeLinearTickerState).result.trans ?_
    rw [hlimits]
    exact latestPriceFrom_of_ok A (fun _ _ h => hrows _ _ h) hprice
  · exact latestPriceFrom_of_ok A (fun _ _ h => partition_of_select hsettled hlast h) hprice

/-! ### One ticker -/

/-- Times in whole microseconds. -/
def microseconds : Arithmetic ℤ where
  ofDecimal value := value.coeff
  ofInt value := value
  totalSeconds value := value
  isFinite _ := true
  isPositive value := decide (0 < value)
  isNegative value := decide (value < 0)
  add := (· + ·)
  sub := (· - ·)
  div := (· / ·)
  log _ := none
  pstdev _ := 0
  digest _ := ""
  mul := (· * ·)
  neg value := -value
  exp _ := 1
  lt a b := decide (a < b)
  le a b := decide (a ≤ b)
  same a b := decide (a = b)
  trunc value := value

/-- A ticker of the hour of 11:00 UTC, as it arrives. -/
def oneTicker : RawRow where
  id := 1
  event :=
    { source := "bybit"
      stream := "spot"
      instrument := "BTCUSDT"
      eventType := "ticker"
      sourceTimestamp := some 1788520499800000
      receivedAt := 1788520499900000
      sequence := none
      marketId := none
      assetId := none
      payload := [("data", .obj [("lastPrice", .str "50000")])]
      dedupeKey := "ticker" }

/-- No hour has a table. -/
def noTables : HourTables := ⟨[], List.nodup_nil, List.nodup_nil⟩

/-- The hour of the ticker has one. -/
def tickerTables : HourTables where
  partitions := [{ startAt := 1788519600000000, rows := [oneTicker], bounded := by decide +kernel }]
  starts := List.nodup_singleton _
  positions := List.nodup_singleton _

theorem reads_agree_sample :
    ∃ price : PriceRead, price.1.isSome = true ∧
      (Machine.run (Session.exec microseconds) ⟨noTables, {}⟩ [.change tickerTables]).byPartition
        microseconds "bybit" "spot" "BTCUSDT" 1788520500000000 false = .ok price ∧
      (Machine.run (Session.exec microseconds) ⟨noTables, {}⟩ [.change tickerTables]).byParent
        microseconds "bybit" "spot" "BTCUSDT" 1788520500000000 false = .ok price := by
  have hfound : (match (Machine.run (Session.exec microseconds) ⟨noTables, {}⟩
      [.change tickerTables]).byPartition microseconds "bybit" "spot" "BTCUSDT" 1788520500000000 false
      with
      | .ok price => price.1.isSome
      | .error _ => false) = true := by decide +kernel
  cases hprice : (Machine.run (Session.exec microseconds) ⟨noTables, {}⟩
      [.change tickerTables]).byPartition microseconds "bybit" "spot" "BTCUSDT" 1788520500000000
      false with
  | error raised =>
    rw [hprice] at hfound
    exact Bool.noConfusion hfound
  | ok price =>
    rw [hprice] at hfound
    have hagree := (reads_agree microseconds {} noTables [.change tickerTables]
      ⟨fun _ h => (nomatch h), trivial⟩ "bybit" "spot" "BTCUSDT" 1788520500000000 false
      (by decide +kernel)).1 price hprice
    exact ⟨price, hfound, rfl, hagree.1⟩

/-- **An hour that was looked up before its table was there stays unread**: the reader asks in the hour,
the table of the hour is attached with its rows, and the next price is not found. -/
theorem not_reads_agree :
    ¬ ∀ (start : HourTables) (ops : List SessionOp) (source stream instrument : String)
      (requested : Timestamp) (includeLinearTickerState : Bool),
      (Machine.run (Session.exec microseconds) ⟨start, {}⟩ ops).byPartition microseconds source stream
          instrument requested includeLinearTickerState =
        (Machine.run (Session.exec microseconds) ⟨start, {}⟩ ops).byParent microseconds source stream
          instrument requested includeLinearTickerState := by
  intro hall
  have hsame := hall noTables [.latestPrice "bybit" "spot" "BTCUSDT" 1788520500000000 false,
    .change tickerTables] "bybit" "spot" "BTCUSDT" 1788520500000000 false
  have hpartition : (match (Machine.run (Session.exec microseconds) ⟨noTables, {}⟩
      [.latestPrice "bybit" "spot" "BTCUSDT" 1788520500000000 false,
        .change tickerTables]).byPartition microseconds "bybit" "spot" "BTCUSDT" 1788520500000000 false
      with
      | .ok price => price.1.isSome
      | .error _ => false) = false := by decide +kernel
  have hparent : (match (Machine.run (Session.exec microseconds) ⟨noTables, {}⟩
      [.latestPrice "bybit" "spot" "BTCUSDT" 1788520500000000 false,
        .change tickerTables]).byParent microseconds "bybit" "spot" "BTCUSDT" 1788520500000000 false
      with
      | .ok price => price.1.isSome
      | .error _ => false) = true := by decide +kernel
  rw [hsame, hparent] at hpartition
  exact Bool.noConfusion hpartition

end BpEngine.V4Paper.SourceTime
