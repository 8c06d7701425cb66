import BpEngine.Library.Machine
import BpEngine.V4Paper.SourceTime

/-!
# What the reads of the source-time reader return

A read returns what the table and the reader's beliefs say, and leaves the beliefs as they are.

* `Learned` is what a read may change of a reader; `Gives` says what a read returns and that it only
  learns.
* `candidatesOf` are the rows a request gets; `gives_latestPrice` is the price that is read.
* `prefetch_iff` says when fetching ahead returns, and which rows it leaves.
-/

namespace BpEngine.V4Paper.SourceTime

open BpEngine.Prospective (Arithmetic)
open BpEngine.Storage (RawPartition RawRow floorHour hour)

/-! ## Beliefs -/

/-- The hourly tables that the reader takes to be attached. -/
def V4SourceTimeReader.known (reader : V4SourceTimeReader) (connection : Connection) :
    Timestamp → Bool :=
  Batch.known reader.postgresAttachedPartitions connection.table.inherits

/-- Whether the reader takes the table to be partitioned. -/
def V4SourceTimeReader.partitioned (reader : V4SourceTimeReader) (connection : Connection) : Bool :=
  reader.postgresPartitionedRaw.getD connection.table.isPartitioned

/-- The beliefs of two readers are the same. -/
structure SameBeliefs (connection : Connection) (before after : V4SourceTimeReader) : Prop where
  limits : after.limits = before.limits
  known : after.known connection = before.known connection
  partitioned : after.partitioned connection = before.partitioned connection

/-- What a read may change: the reader remembers more, but believes the same. -/
structure Learned (connection : Connection) (before after : V4SourceTimeReader) : Prop extends
    SameBeliefs connection before after where
  prefetched : after.prefetchedCandidateRows = before.prefetchedCandidateRows

variable {connection : Connection} {reader after later : V4SourceTimeReader} {α β : Type}

theorem SameBeliefs.refl (connection : Connection) (reader : V4SourceTimeReader) :
    SameBeliefs connection reader reader := ⟨rfl, rfl, rfl⟩

theorem SameBeliefs.trans (h : SameBeliefs connection reader after)
    (h' : SameBeliefs connection after later) : SameBeliefs connection reader later where
  limits := h'.limits.trans h.limits
  known := h'.known.trans h.known
  partitioned := h'.partitioned.trans h.partitioned

theorem Learned.refl (connection : Connection) (reader : V4SourceTimeReader) :
    Learned connection reader reader := ⟨.refl connection reader, rfl⟩

theorem Learned.trans (h : Learned connection reader after) (h' : Learned connection after later) :
    Learned connection reader later :=
  ⟨h.toSameBeliefs.trans h'.toSameBeliefs, h'.prefetched.trans h.prefetched⟩

/-! ## Reads -/

namespace Reading

theorem bind_apply (m : Reading α) (f : α → Reading β) (reader : V4SourceTimeReader) :
    (m >>= f) reader = match m reader with
      | (.ok a, after) => f a after
      | (.error raised, after) => (.error raised, after) := rfl

theorem of_bind (outcome : Outcome α) (f : α → Reading β) (reader : V4SourceTimeReader) :
    (Reading.of outcome >>= f) reader = match outcome with
      | .ok a => f a reader
      | .error raised => (.error raised, reader) := by
  cases outcome <;> rfl

theorem map_id_eq (m : Reading α) : id <$> m = m := by
  funext reader
  show (m >>= fun a => pure (id a)) reader = m reader
  rw [bind_apply]
  rcases m reader with ⟨_ | _, _⟩ <;> rfl

theorem bind_bind_eq {γ : Type} (m : Reading α) (f : α → Reading β) (g : β → Reading γ) :
    m >>= f >>= g = m >>= fun a => f a >>= g := by
  funext reader
  rw [bind_apply, bind_apply, bind_apply]
  rcases m reader with ⟨_ | _, _⟩ <;> rfl

instance : LawfulMonad Reading :=
  LawfulMonad.mk' Reading map_id_eq (fun _ _ => rfl) bind_bind_eq

end Reading

/-- The read returns `outcome`, and only learns. -/
structure Gives (connection : Connection) (reader : V4SourceTimeReader) (m : Reading α)
    (outcome : Outcome α) : Prop where
  result : (m reader).1 = outcome
  learned : Learned connection reader (m reader).2

theorem gives_pure (a : α) : Gives connection reader (pure a) (.ok a) := ⟨rfl, .refl _ _⟩

theorem gives_of (outcome : Outcome α) : Gives connection reader (Reading.of outcome) outcome :=
  ⟨rfl, .refl _ _⟩

theorem gives_get {f : V4SourceTimeReader → Reading α} {outcome : Outcome α}
    (h : Gives connection reader (f reader) outcome) :
    Gives connection reader (Reading.get >>= f) outcome := ⟨h.result, h.learned⟩

theorem Gives.bind {m : Reading α} {outcome : Outcome α} {f : α → Reading β}
    {g : α → Outcome β} (h : Gives connection reader m outcome)
    (hnext : ∀ a after, outcome = .ok a → Learned connection reader after →
      Gives connection after (f a) (g a)) :
    Gives connection reader (m >>= f) (outcome >>= g) := by
  obtain ⟨hresult, hlearned⟩ := h
  have hrun := Reading.bind_apply m f reader
  rcases hm : m reader with ⟨result, after⟩
  rw [hm] at hrun hresult hlearned
  cases result with
  | error raised =>
    constructor
    · rw [hrun, ← hresult]
      rfl
    · rw [hrun]
      exact hlearned
  | ok a =>
    have hgives := hnext a after hresult.symm hlearned
    constructor
    · rw [hrun, ← hresult]
      exact hgives.result
    · rw [hrun]
      exact hlearned.trans hgives.learned

theorem gives_mapM {f : α → Reading β} {g : α → Outcome β} {items : List α}
    (h : ∀ a ∈ items, ∀ after, Learned connection reader after →
      Gives connection after (f a) (g a)) :
    Gives connection reader (items.mapM f) (items.mapM g) := by
  induction items generalizing reader with
  | nil =>
    rw [List.mapM_nil, List.mapM_nil]
    exact gives_pure []
  | cons a rest ih =>
    rw [List.mapM_cons, List.mapM_cons]
    refine (h a List.mem_cons_self reader (.refl _ _)).bind fun b after _ hafter => ?_
    refine (ih fun c hc later hlater =>
      h c (List.mem_cons_of_mem a hc) later (hafter.trans hlater)).bind fun bs last _ _ => ?_
    exact gives_pure (b :: bs)

/-! ## Candidate rows -/

theorem gives_postgresRawIsPartitioned :
    Gives connection reader (postgresRawIsPartitioned connection)
      (.ok (reader.partitioned connection)) := by
  obtain ⟨limits, cached, attached, rows⟩ := reader
  cases cached with
  | some cached => exact ⟨rfl, .refl _ _⟩
  | none => exact ⟨rfl, ⟨rfl, rfl, rfl⟩, rfl⟩

theorem learned_refresh (names : List Timestamp) :
    Learned connection reader
      { reader with
        postgresAttachedPartitions :=
          Batch.learn reader.postgresAttachedPartitions connection.table.inherits names } :=
  ⟨⟨rfl, Batch.known_learn _ _ _, rfl⟩, rfl⟩

theorem isAttached_refresh {names : List Timestamp} {name : Timestamp} (h : name ∈ names) :
    V4SourceTimeReader.isAttached
      { reader with
        postgresAttachedPartitions :=
          Batch.learn reader.postgresAttachedPartitions connection.table.inherits names } name =
      reader.known connection name := by
  unfold V4SourceTimeReader.isAttached V4SourceTimeReader.known
  dsimp only
  rw [Batch.lookup_learn_of_mem h]
  cases Batch.known reader.postgresAttachedPartitions connection.table.inherits name <;> rfl

theorem gives_postgresPartitionIsAttached (name : Timestamp) :
    Gives connection reader (postgresPartitionIsAttached connection name)
      (.ok (reader.known connection name)) :=
  ⟨congrArg Except.ok (isAttached_refresh List.mem_cons_self), learned_refresh [name]⟩

/-- The rows of one hourly table, if it is believed to be attached. -/
def hourCandidates (connection : Connection) (attached : Timestamp → Bool) (key : CandidateKey)
    (bounds : Bounds) (clause : String → Bool) (name : Timestamp) : Outcome (List RawRow) :=
  if attached name then (partitionRows connection name).map (selected key bounds clause) else .ok []

theorem gives_hourRows (key : CandidateKey) (bounds : Bounds) (clause : String → Bool)
    (name : Timestamp) :
    Gives connection reader (hourRows connection key bounds clause name)
      (hourCandidates connection (reader.known connection) key bounds clause name) := by
  unfold hourRows hourCandidates
  refine (gives_postgresPartitionIsAttached name).bind (g := fun attached =>
    if attached then (partitionRows connection name).map (selected key bounds clause) else .ok [])
    fun attached after _ _ => ?_
  cases attached with
  | false => exact gives_pure []
  | true =>
    refine (gives_of (partitionRows connection name)).bind
      (g := fun rows => .ok (selected key bounds clause rows)) fun rows _ _ _ => ?_
    exact gives_pure _

/-- What a request gets from the hourly tables that are believed to be attached. -/
def partitionCandidates (connection : Connection) (attached : Timestamp → Bool)
    (limits : SourceLimits) (key : CandidateKey) : Outcome (List RawRow) := do
  let bounds ← limits.bounds key.requestedAt
  let clause ← eventClause true key.source key.tickerOnly
  let names ← candidatePartitionNames bounds.receivedLower bounds.requested
  let rows ← names.mapM (hourCandidates connection attached key bounds clause)
  .ok (newestFirst rows.flatten)

theorem gives_postgresCandidateRows (key : CandidateKey) :
    Gives connection reader (postgresCandidateRows connection key)
      (partitionCandidates connection (reader.known connection) reader.limits key) := by
  unfold postgresCandidateRows partitionCandidates
  refine gives_get ?_
  refine (gives_of _).bind fun bounds first _ hfirst => ?_
  refine (gives_of _).bind fun clause second _ hsecond => ?_
  refine (gives_of _).bind fun names third _ hthird => ?_
  have hlearned := (hfirst.trans hsecond).trans hthird
  have hrows : Gives connection third (names.mapM (hourRows connection key bounds clause))
      (names.mapM (hourCandidates connection (reader.known connection) key bounds clause)) := by
    refine gives_mapM fun name _ last hlast => ?_
    rw [← (hlearned.trans hlast).known]
    exact gives_hourRows key bounds clause name
  exact hrows.bind fun rows _ _ _ => gives_pure _

/-- What a request gets. -/
def candidatesOf (connection : Connection) (reader : V4SourceTimeReader) (key : CandidateKey) :
    Outcome (List RawRow) :=
  match reader.prefetchedCandidateRows.lookup key with
  | some rows => .ok rows
  | none =>
    if connection.postgresql && reader.partitioned connection then
      partitionCandidates connection (reader.known connection) reader.limits key
    else selectCandidateRows connection reader.limits key

/-- Readers that believe the same and fetched the same ahead get the same. -/
theorem candidatesOf_learned (h : Learned connection reader after) (key : CandidateKey) :
    candidatesOf connection after key = candidatesOf connection reader key := by
  unfold candidatesOf
  rw [h.prefetched, h.known, h.partitioned, h.limits]

theorem gives_readsByHour :
    Gives connection reader (readsByHour connection)
      (.ok (connection.postgresql && reader.partitioned connection)) := by
  unfold readsByHour
  cases connection.postgresql with
  | false => exact gives_pure false
  | true => exact gives_postgresRawIsPartitioned

theorem gives_candidateRows (key : CandidateKey) :
    Gives connection reader (candidateRows connection key) (candidatesOf connection reader key) := by
  unfold candidateRows candidatesOf
  refine gives_get ?_
  cases reader.prefetchedCandidateRows.lookup key with
  | some rows => exact gives_pure rows
  | none =>
    refine gives_readsByHour.bind (g := fun partitioned =>
      if partitioned then partitionCandidates connection (reader.known connection) reader.limits key
      else selectCandidateRows connection reader.limits key) fun partitioned after _ hafter => ?_
    cases partitioned with
    | false => exact gives_of _
    | true =>
      rw [← hafter.known, ← hafter.limits]
      exact gives_postgresCandidateRows key

/-- **The price that is read** is the one of the rows that the requests get. -/
theorem gives_latestPrice {F : Type} (A : Arithmetic F) (source stream instrument : String)
    (requested : Timestamp) (includeLinearTickerState : Bool) :
    Gives connection reader
      (latestPrice A connection source stream instrument requested includeLinearTickerState)
      (latestPriceFrom A reader.limits (candidatesOf connection reader) source stream instrument
        requested includeLinearTickerState) := by
  unfold latestPrice latestPriceFrom
  refine gives_get ?_
  refine (gives_candidateRows _).bind fun rows after _ hafter => ?_
  split
  · exact gives_pure _
  · next chosen _ =>
    cases includeLinearTickerState with
    | false => exact gives_pure _
    | true =>
      have hrows : Gives connection after
          (candidateRows connection ⟨source, stream, instrument, requested, true⟩)
          (candidatesOf connection reader ⟨source, stream, instrument, requested, true⟩) := by
        rw [← candidatesOf_learned hafter]
        exact gives_candidateRows _
      exact hrows.bind fun _ _ _ _ => gives_pure _

/-! ## What a computation can return -/

/-- The computation returns when `P` holds, and then it returns `a`. -/
def Returns (outcome : Outcome α) (P : Prop) (a : α) : Prop :=
  ∀ b, outcome = .ok b ↔ P ∧ b = a

section Returns

variable {outcome : Outcome α} {P Q : Prop} {a : α} {b : β}

theorem returns_ok (a : α) : Returns (.ok a) True a := by
  intro b
  rw [true_and, Except.ok.injEq]
  exact eq_comm

/-- With one result at most, it is returned or none is. -/
theorem returns_of (h : ∀ b, outcome = .ok b → b = a) : Returns outcome (outcome = .ok a) a := by
  intro b
  constructor
  · intro hb
    obtain rfl := h b hb
    exact ⟨hb, rfl⟩
  · rintro ⟨ha, rfl⟩
    exact ha

theorem Returns.congr {a' : α} (h : Returns outcome P a) (hP : P ↔ Q) (ha : a = a') :
    Returns outcome Q a' := by
  intro b
  rw [h b, hP, ha]

theorem Returns.bind {f : α → Outcome β} (h : Returns outcome P a) (hf : Returns (f a) Q b) :
    Returns (outcome >>= f) (P ∧ Q) b := by
  intro c
  rw [bind_eq_ok, and_assoc, ← hf c]
  constructor
  · rintro ⟨d, hd, hc⟩
    obtain ⟨hP, rfl⟩ := (h d).mp hd
    exact ⟨hP, hc⟩
  · rintro ⟨hP, hc⟩
    exact ⟨a, (h a).mpr ⟨hP, rfl⟩, hc⟩

theorem Returns.map (h : Returns outcome P a) (g : α → β) :
    Returns (outcome >>= fun v => .ok (g v)) P (g a) :=
  (h.bind (returns_ok (g a))).congr (iff_of_eq (and_true P)) rfl

theorem Returns.mapM {f : α → Outcome β} {P : α → Prop} {g : α → β} {items : List α}
    (h : ∀ a ∈ items, Returns (f a) (P a) (g a)) :
    Returns (items.mapM f) (∀ a ∈ items, P a) (items.map g) := by
  induction items with
  | nil =>
    rw [List.mapM_nil]
    exact (returns_ok []).congr (by simp) rfl
  | cons a rest ih =>
    have hrest := ih fun c hc => h c (List.mem_cons_of_mem a hc)
    rw [List.mapM_cons, List.map_cons, List.forall_mem_cons]
    exact (h a List.mem_cons_self).bind (hrest.map fun results => g a :: results)

end Returns

/-! ## Fetching ahead -/

variable {limits : SourceLimits} {requests : List CandidateKey} {attached : Timestamp → Bool}

theorem shift_returns (time : Timestamp) (delta : ℤ) :
    Returns (shift time delta) (IsoTime.InRange (time + delta)) (time + delta) := by
  intro moved
  unfold shift
  rw [bind_eq_ok]
  constructor
  · rintro ⟨_, hrange, hmoved⟩
    exact ⟨require_eq_ok.mp hrange, (Except.ok.inj hmoved).symm⟩
  · rintro ⟨hrange, rfl⟩
    exact ⟨(), require_eq_ok.mpr hrange, rfl⟩

/-- The bounds of a request, where the times are in range. -/
def SourceLimits.boundsAt (limits : SourceLimits) (requested : Timestamp) : Bounds :=
  ⟨requested + -limits.window, requested, requested + -limits.maxSourceAge,
    requested + limits.maxFutureSkew⟩

/-- The times of a request are in range. -/
structure SourceLimits.Within (limits : SourceLimits) (requested : Timestamp) : Prop where
  received : IsoTime.InRange (requested + -limits.window)
  lower : IsoTime.InRange (requested + -limits.maxSourceAge)
  upper : IsoTime.InRange (requested + limits.maxFutureSkew)

theorem bounds_returns (limits : SourceLimits) (requested : Timestamp) :
    Returns (limits.bounds requested) (limits.Within requested) (limits.boundsAt requested) := by
  refine ((shift_returns _ _).bind ((shift_returns _ _).bind ((shift_returns _ _).map _))).congr ?_ rfl
  constructor
  · rintro ⟨hreceived, hlower, hupper⟩
    exact ⟨hreceived, hlower, hupper⟩
  · rintro ⟨hreceived, hlower, hupper⟩
    exact ⟨hreceived, hlower, hupper⟩

/-- The condition of a source; none of another source. -/
def clauseOf (source : String) (tickerOnly : Bool) : String → Bool :=
  match eventClause true source tickerOnly with
  | .ok clause => clause
  | .error _ => fun _ => false

/-- The rows of an hourly table; none where there is no table. -/
def rowsIn (connection : Connection) (name : Timestamp) : List RawRow :=
  match connection.table.partition? name with
  | none => []
  | some partition => partition.rows

theorem clause_returns (source : String) (tickerOnly : Bool) :
    Returns (eventClause true source tickerOnly)
      (eventClause true source tickerOnly = .ok (clauseOf source tickerOnly))
      (clauseOf source tickerOnly) := by
  refine returns_of fun clause h => ?_
  unfold clauseOf
  rw [h]

theorem rows_returns (connection : Connection) (name : Timestamp) :
    Returns (partitionRows connection name)
      (partitionRows connection name = .ok (rowsIn connection name)) (rowsIn connection name) := by
  refine returns_of fun rows h => ?_
  unfold partitionRows at h
  unfold rowsIn
  cases hpartition : connection.table.partition? name with
  | none =>
    rw [hpartition] at h
    exact absurd h raise_ne_ok
  | some partition =>
    rw [hpartition] at h
    exact (Except.ok.inj h).symm

/-- The hours of a request. -/
def SourceLimits.namesAt (limits : SourceLimits) (key : CandidateKey) : List Timestamp :=
  hoursBetween (key.requestedAt + -limits.window) key.requestedAt

theorem names_returns (lower upper : Timestamp) :
    Returns (candidatePartitionNames lower upper)
      (candidatePartitionNames lower upper = .ok (hoursBetween lower upper))
      (hoursBetween lower upper) := by
  refine returns_of fun names h => ?_
  obtain ⟨_, -, h⟩ := bind_eq_ok.mp h
  exact (Except.ok.inj h).symm

theorem namesOf_returns (limits : SourceLimits) (key : CandidateKey) :
    Returns (limits.namesOf key) (limits.namesOf key = .ok (key, limits.namesAt key))
      (key, limits.namesAt key) :=
  returns_of fun entry h =>
    (((shift_returns _ _).bind ((names_returns _ _).map fun names => (key, names))) entry).mp h |>.2

/-- What an hourly table has for a request. -/
def selectedIn (connection : Connection) (limits : SourceLimits) (key : CandidateKey)
    (name : Timestamp) : List RawRow :=
  selected key (limits.boundsAt key.requestedAt) (clauseOf key.source key.tickerOnly)
    (rowsIn connection name)

/-- The request can be put to an hourly table. -/
structure Fetchable (connection : Connection) (limits : SourceLimits) (key : CandidateKey)
    (name : Timestamp) : Prop where
  clause : eventClause true key.source key.tickerOnly = .ok (clauseOf key.source key.tickerOnly)
  within : limits.Within key.requestedAt
  table : partitionRows connection name = .ok (rowsIn connection name)

/-- A statement returns when each of its requests can be put. -/
theorem fetchGroup_returns {group : GroupKey × List CandidateKey}
    (hgroup : ∀ key ∈ group.2, key.group group.1.name = group.1) (hne : group.2 ≠ []) :
    Returns (fetchGroup connection limits group)
      (∀ key ∈ group.2, Fetchable connection limits key group.1.name)
      (group.2.flatMap fun key =>
        (selectedIn connection limits key group.1.name).map fun row => (key, row)) := by
  have hsame : ∀ key ∈ group.2, key.source = group.1.source ∧ key.tickerOnly = group.1.tickerOnly := by
    intro key hkey
    have := hgroup key hkey
    exact ⟨congrArg GroupKey.source this, congrArg GroupKey.tickerOnly this⟩
  have hvalues : Returns (group.2.mapM fun key => do
      let bounds ← limits.bounds key.requestedAt
      (.ok (key, bounds) : Outcome (CandidateKey × Bounds)))
      (∀ key ∈ group.2, limits.Within key.requestedAt)
      (group.2.map fun key => (key, limits.boundsAt key.requestedAt)) :=
    .mapM fun key _ => (bounds_returns limits key.requestedAt).map fun bounds => (key, bounds)
  refine ((clause_returns _ _).bind (hvalues.bind ((rows_returns _ _).map _))).congr ?_ ?_
  · constructor
    · rintro ⟨hclause, hwithin, htable⟩ key hkey
      refine ⟨?_, hwithin key hkey, htable⟩
      rw [(hsame key hkey).1, (hsame key hkey).2]
      exact hclause
    · intro hall
      obtain ⟨key, hkey⟩ := List.exists_mem_of_ne_nil _ hne
      have hclause := (hall key hkey).clause
      rw [(hsame key hkey).1, (hsame key hkey).2] at hclause
      exact ⟨hclause, fun other hother => (hall other hother).within, (hall key hkey).table⟩
  · rw [List.flatMap_map]
    refine List.flatMap_congr fun key hkey => ?_
    unfold selectedIn
    rw [(hsame key hkey).1, (hsame key hkey).2]

/-- What is fetched ahead for a request. -/
def aheadRows (connection : Connection) (attached : Timestamp → Bool) (limits : SourceLimits)
    (key : CandidateKey) : List RawRow :=
  newestFirst (((limits.namesAt key).filter attached).flatMap (selectedIn connection limits key))

/-- The request can be fetched ahead. -/
structure Ahead (connection : Connection) (attached : Timestamp → Bool) (limits : SourceLimits)
    (key : CandidateKey) : Prop where
  names : limits.namesOf key = .ok (key, limits.namesAt key)
  fetch : ∀ name ∈ limits.namesAt key, attached name = true → Fetchable connection limits key name

/-- The reader that looked up the hours of some requests. -/
def refreshed (connection : Connection) (reader : V4SourceTimeReader)
    (asked : List (CandidateKey × List Timestamp)) : V4SourceTimeReader :=
  { reader with
    postgresAttachedPartitions :=
      Batch.learn reader.postgresAttachedPartitions connection.table.inherits
        (asked.flatMap Prod.snd) }

theorem prefetchPartitioned_apply (requests : List CandidateKey) :
    prefetchPartitioned connection requests reader =
      match requests.eraseDups.mapM reader.limits.namesOf with
      | .error raised => (.error raised, reader)
      | .ok asked =>
        match (Batch.grouped ((refreshed connection reader asked).requestGroups asked)).mapM
            (fetchGroup connection reader.limits) with
        | .error raised => (.error raised, refreshed connection reader asked)
        | .ok fetched => (.ok (),
            { refreshed connection reader asked with
              prefetchedCandidateRows :=
                requests.eraseDups.map fun key => (key, rowsOf key fetched.flatten) }) := by
  have happly : prefetchPartitioned connection requests reader =
      (Reading.of (requests.eraseDups.mapM reader.limits.namesOf) >>= fun asked =>
        postgresRefreshAttachedPartitions connection (asked.flatMap Prod.snd) >>= fun _ =>
        Reading.get >>= fun after =>
        Reading.of ((Batch.grouped (after.requestGroups asked)).mapM
          (fetchGroup connection reader.limits)) >>= fun fetched =>
        Reading.modify fun last =>
          { last with
            prefetchedCandidateRows :=
              requests.eraseDups.map fun key => (key, rowsOf key fetched.flatten) }) reader := rfl
  rw [happly, Reading.of_bind]
  cases requests.eraseDups.mapM reader.limits.namesOf with
  | error raised => rfl
  | ok asked =>
    refine (Reading.of_bind ((Batch.grouped ((refreshed connection reader asked).requestGroups
      asked)).mapM (fetchGroup connection reader.limits)) _ (refreshed connection reader asked)).trans ?_
    dsimp only
    cases (Batch.grouped ((refreshed connection reader asked).requestGroups asked)).mapM
        (fetchGroup connection reader.limits) with
    | error raised => rfl
    | ok fetched => rfl

/-! ### The rows of the hours -/

theorem mem_hoursBetween {lower upper name : ℤ} :
    name ∈ hoursBetween lower upper ↔
      floorHour name = name ∧ floorHour lower ≤ name ∧ name ≤ floorHour upper := by
  unfold hoursBetween
  rw [List.mem_map]
  unfold floorHour hour
  constructor
  · rintro ⟨k, hk, rfl⟩
    rw [List.mem_range] at hk
    refine ⟨?_, ?_, ?_⟩ <;> omega
  · rintro ⟨hfloor, hlower, hupper⟩
    obtain ⟨k, hk⟩ := Int.eq_ofNat_of_zero_le
      (show 0 ≤ name / 3600000000 - lower / 3600000000 by omega)
    refine ⟨k, List.mem_range.mpr ?_, ?_⟩ <;> omega

theorem nodup_hoursBetween (lower upper : ℤ) : (hoursBetween lower upper).Nodup := by
  refine List.nodup_range.map fun k k' h => ?_
  have hk : (k : ℤ) * hour = k' * hour := add_left_cancel h
  unfold hour at hk
  omega

/-- The hourly table of a name, and its rows among those of all tables. -/
theorem rowsIn_cases (connection : Connection) (name : Timestamp) :
    rowsIn connection name = [] ∨
      ∃ tables, connection.table = .hourly tables ∧ ∃ partition ∈ tables.partitions,
        connection.table.partition? name = some partition ∧ partition.startAt = name ∧
          rowsIn connection name = partition.rows := by
  unfold rowsIn
  cases htable : connection.table with
  | whole rows => exact .inl rfl
  | hourly tables =>
    cases hfind : (RawTable.hourly tables).partition? name with
    | none => exact .inl rfl
    | some partition =>
      have hstart := List.find?_some hfind
      exact .inr ⟨tables, rfl, partition, List.mem_of_find?_eq_some hfind, rfl,
        of_decide_eq_true hstart, rfl⟩

theorem floorHour_of_mem_rowsIn {name : Timestamp} {row : RawRow} (h : row ∈ rowsIn connection name) :
    floorHour row.receivedAt = name := by
  rcases rowsIn_cases connection name with hnil | ⟨tables, -, partition, -, -, hstart, hrows⟩
  · rw [hnil] at h
    exact absurd h List.not_mem_nil
  · rw [hrows] at h
    rw [← hstart]
    exact partition.bounded row h

theorem positions_rowsIn (connection : Connection) (name : Timestamp) :
    ((rowsIn connection name).map position).Nodup := by
  rcases rowsIn_cases connection name with hnil | ⟨tables, -, partition, hmem, -, -, hrows⟩
  · rw [hnil]
    exact List.nodup_nil
  · rw [hrows]
    refine tables.positions.sublist (List.Sublist.map position ?_)
    rw [List.flatMap]
    exact List.sublist_flatten_of_mem (List.mem_map_of_mem hmem)

/-- What the hours have for a request, each row once. -/
theorem positions_hours (limits : SourceLimits) (key : CandidateKey) {names : List Timestamp}
    (hnames : names.Nodup) :
    ((names.flatMap (selectedIn connection limits key)).map position).Nodup := by
  have hsub : ∀ name row, row ∈ selectedIn connection limits key name →
      row ∈ rowsIn connection name := by
    intro name row hrow
    exact (List.mem_filter.mp ((List.mem_insertionSort _).mp hrow)).1
  rw [List.map_flatMap, List.nodup_flatMap]
  constructor
  · intro name _
    have hperm := (List.perm_insertionSort (Relation.newestFirst RawRow.receivedAt RawRow.id)
      ((rowsIn connection name).filter (isCandidate key (limits.boundsAt key.requestedAt)
        (clauseOf key.source key.tickerOnly)))).map position
    exact hperm.nodup_iff.mpr
      ((positions_rowsIn connection name).sublist (List.filter_sublist.map position))
  · refine hnames.pairwise_of_forall_ne fun name _ other _ hne => ?_
    intro place hplace hplace'
    obtain ⟨row, hrow, hat⟩ := List.mem_map.mp hplace
    obtain ⟨row', hrow', hat'⟩ := List.mem_map.mp hplace'
    have htime : row.receivedAt = row'.receivedAt := congrArg Prod.fst (hat.trans hat'.symm)
    apply hne
    rw [← floorHour_of_mem_rowsIn (hsub name row hrow), htime,
      floorHour_of_mem_rowsIn (hsub other row' hrow')]

/-! ### What fetching ahead leaves -/

/-- The requests of the statements, each under the key of its statement. -/
def statements (attached : Timestamp → Bool) (limits : SourceLimits) (requests : List CandidateKey) :
    List (GroupKey × CandidateKey) :=
  requests.flatMap fun key =>
    ((limits.namesAt key).filter attached).map fun name => (key.group name, key)

theorem mem_statements {pair : GroupKey × CandidateKey} :
    pair ∈ statements attached limits requests ↔
      ∃ key ∈ requests, ∃ name ∈ limits.namesAt key, attached name = true ∧
        pair = (key.group name, key) := by
  unfold statements
  rw [List.mem_flatMap]
  constructor
  · rintro ⟨key, hkey, hpair⟩
    obtain ⟨name, hname, rfl⟩ := List.mem_map.mp hpair
    obtain ⟨hmem, hattached⟩ := List.mem_filter.mp hname
    exact ⟨key, hkey, name, hmem, hattached, rfl⟩
  · rintro ⟨key, hkey, name, hname, hattached, rfl⟩
    exact ⟨key, hkey, List.mem_map.mpr ⟨name, List.mem_filter.mpr ⟨hname, hattached⟩, rfl⟩⟩

theorem requestGroups_eq (requests : List CandidateKey) :
    (refreshed connection reader (requests.map fun key => (key, reader.limits.namesAt key))).requestGroups
        (requests.map fun key => (key, reader.limits.namesAt key)) =
      statements (reader.known connection) reader.limits requests := by
  unfold V4SourceTimeReader.requestGroups statements
  rw [List.flatMap_map]
  refine List.flatMap_congr fun key hkey => ?_
  dsimp only
  congr 1
  refine List.filter_congr fun name hname => isAttached_refresh ?_
  exact List.mem_flatMap.mpr ⟨_, List.mem_map.mpr ⟨key, hkey, rfl⟩, hname⟩

/-- A group is never empty, and its requests are the ones of its key. -/
theorem group_spec {group : GroupKey × List CandidateKey}
    (hgroup : group ∈ Batch.grouped (statements attached limits requests)) :
    (∀ key ∈ group.2, key.group group.1.name = group.1) ∧ group.2 ≠ [] := by
  have hmem := Batch.mem_grouped hgroup
  constructor
  · intro key hkey
    obtain ⟨other, -, name, -, -, hpair⟩ := mem_statements.mp ((hmem key).mp hkey)
    obtain ⟨hfirst, rfl⟩ := Prod.mk.inj hpair
    rw [hfirst]
    rfl
  · obtain ⟨name, hname, rfl⟩ := List.mem_map.mp hgroup
    obtain ⟨pair, hpair, rfl⟩ := List.mem_map.mp (List.mem_eraseDups.mp hname)
    exact List.ne_nil_of_mem ((hmem pair.2).mpr hpair)

/-- What the statements return, one after the other. -/
def statementRows (connection : Connection) (attached : Timestamp → Bool) (limits : SourceLimits)
    (requests : List CandidateKey) : List (List (CandidateKey × RawRow)) :=
  (Batch.grouped (statements attached limits requests)).map fun group =>
    group.2.flatMap fun key => (selectedIn connection limits key group.1.name).map fun row => (key, row)

/-- The statements return when every request of theirs can be put. -/
theorem fetchGroups_returns (connection : Connection) (attached : Timestamp → Bool)
    (limits : SourceLimits) (requests : List CandidateKey) :
    Returns ((Batch.grouped (statements attached limits requests)).mapM (fetchGroup connection limits))
      (∀ key ∈ requests, ∀ name ∈ limits.namesAt key, attached name = true →
        Fetchable connection limits key name)
      (statementRows connection attached limits requests) := by
  refine (Returns.mapM fun group hgroup =>
    fetchGroup_returns (group_spec hgroup).1 (group_spec hgroup).2).congr ?_ rfl
  constructor
  · intro h key hkey name hname hattached
    have hpair : (key.group name, key) ∈ statements attached limits requests :=
      mem_statements.mpr ⟨key, hkey, name, hname, hattached, rfl⟩
    obtain ⟨items, hgroup, hitem⟩ := Batch.exists_grouped hpair
    exact h _ hgroup key hitem
  · intro h group hgroup key hkey
    obtain ⟨other, hother, name, hname, hattached, hpair⟩ :=
      mem_statements.mp ((Batch.mem_grouped hgroup key).mp hkey)
    obtain ⟨hfirst, rfl⟩ := Prod.mk.inj hpair
    rw [hfirst]
    exact h key hother name hname hattached

/-- The statements together have for a request what its hours have. -/
theorem rowsOf_statementRows (hnodup : requests.Nodup)
    (attached : Timestamp → Bool) (limits : SourceLimits) {key : CandidateKey} (hkey : key ∈ requests) :
    rowsOf key (statementRows connection attached limits requests).flatten =
      aheadRows connection attached limits key := by
  have hperm := Batch.flatMap_grouped_perm (statements attached limits requests)
    fun group key => (selectedIn connection limits key group.name).map fun row => (key, row)
  have hitems : ((statements attached limits requests).flatMap fun pair =>
        (selectedIn connection limits pair.2 pair.1.name).map fun row => (pair.2, row)) =
      requests.flatMap fun key => (((limits.namesAt key).filter attached).flatMap
        (selectedIn connection limits key)).map fun row => (key, row) := by
    unfold statements
    rw [List.flatMap_assoc]
    refine List.flatMap_congr fun key _ => ?_
    rw [List.flatMap_map, List.map_flatMap]
    rfl
  rw [hitems] at hperm
  have hrows := (hperm.filter fun item => decide (item.1 = key)).map Prod.snd
  rw [Batch.items_of_key hnodup hkey] at hrows
  have hnames : ((limits.namesAt key).filter attached).Nodup := (nodup_hoursBetween _ _).filter _
  exact (Relation.insertionSort_newestFirst_eq (positions_hours limits key hnames) hrows.symm).symm

/-- **Fetching ahead** changes no belief; it returns when every request can be fetched, and then it
leaves for each request what the hours have that are believed to be attached. -/
theorem prefetchPartitioned_spec (connection : Connection) (reader : V4SourceTimeReader)
    (requests : List CandidateKey) :
    SameBeliefs connection reader (prefetchPartitioned connection requests reader).2 ∧
      ((prefetchPartitioned connection requests reader).1 = .ok () ↔
        ∀ key ∈ requests, Ahead connection (reader.known connection) reader.limits key) ∧
      ((prefetchPartitioned connection requests reader).1 = .ok () →
        (prefetchPartitioned connection requests reader).2.prefetchedCandidateRows =
          requests.eraseDups.map fun key =>
            (key, aheadRows connection (reader.known connection) reader.limits key)) := by
  have hbeliefs : ∀ asked, SameBeliefs connection reader (refreshed connection reader asked) :=
    fun asked => (learned_refresh (asked.flatMap Prod.snd)).toSameBeliefs
  have hnames := Returns.mapM fun key (_ : key ∈ requests.eraseDups) =>
    namesOf_returns reader.limits key
  rw [prefetchPartitioned_apply]
  cases hasked : requests.eraseDups.mapM reader.limits.namesOf with
  | error raised =>
    refine ⟨.refl connection reader, ⟨fun h => (nomatch h), fun h => ?_⟩, fun h => (nomatch h)⟩
    have hall : ∀ key ∈ requests.eraseDups,
        reader.limits.namesOf key = .ok (key, reader.limits.namesAt key) :=
      fun key hkey => (h key (List.mem_eraseDups.mp hkey)).names
    rw [(hnames _).mpr ⟨hall, rfl⟩] at hasked
    exact nomatch hasked
  | ok asked =>
    obtain ⟨hall, rfl⟩ := (hnames asked).mp hasked
    dsimp only
    rw [requestGroups_eq]
    cases hfetched : (Batch.grouped (statements (reader.known connection) reader.limits
        requests.eraseDups)).mapM (fetchGroup connection reader.limits) with
    | error raised =>
      refine ⟨hbeliefs _, ⟨fun h => (nomatch h), fun h => ?_⟩, fun h => (nomatch h)⟩
      have hfetch := (fetchGroups_returns _ _ _ _ _).mpr
        ⟨fun key hkey => (h key (List.mem_eraseDups.mp hkey)).fetch, rfl⟩
      rw [hfetch] at hfetched
      exact nomatch hfetched
    | ok fetched =>
      obtain ⟨hfetch, rfl⟩ := (fetchGroups_returns _ _ _ _ _).mp hfetched
      refine ⟨⟨rfl, (hbeliefs _).known, rfl⟩, ⟨fun _ key hkey => ?_, fun _ => rfl⟩, fun _ => ?_⟩
      · have hmem := List.mem_eraseDups.mpr hkey
        exact ⟨hall key hmem, hfetch key hmem⟩
      · refine List.map_congr_left fun key hkey => ?_
        rw [rowsOf_statementRows (Batch.nodup_eraseDups _) _ _ hkey]

/-- The reader reads the hourly tables. -/
def V4SourceTimeReader.byHour (reader : V4SourceTimeReader) (connection : Connection) : Bool :=
  connection.postgresql && reader.partitioned connection

/-- A reader that has nothing fetched ahead. -/
def V4SourceTimeReader.cleared (reader : V4SourceTimeReader) : V4SourceTimeReader :=
  { reader with prefetchedCandidateRows := [] }

theorem sameBeliefs_cleared (connection : Connection) (reader : V4SourceTimeReader) :
    SameBeliefs connection reader reader.cleared := ⟨rfl, rfl, rfl⟩

theorem lookup_of_prefetched {rows : CandidateKey → List RawRow} (key : CandidateKey) :
    (requests.eraseDups.map fun key => (key, rows key)).lookup key =
      if key ∈ requests then some (rows key) else none := by
  rw [Batch.lookup_map_pair]
  simp only [List.mem_eraseDups]

theorem prefetchCandidateRows_skip (h : requests = [] ∨ connection.postgresql = false) :
    prefetchCandidateRows connection requests reader = (.ok (), reader.cleared) := by
  unfold prefetchCandidateRows
  rw [if_pos h]
  rfl

/-- Otherwise the reader looks up whether the table is partitioned, and fetches if it is. -/
theorem prefetchCandidateRows_fetch (reader : V4SourceTimeReader)
    (h : ¬(requests = [] ∨ connection.postgresql = false)) :
    ∃ after, SameBeliefs connection reader after ∧ after.prefetchedCandidateRows = [] ∧
      prefetchCandidateRows connection requests reader =
        if reader.partitioned connection then prefetchPartitioned connection requests after
        else (.ok (), after) := by
  have hpart : Gives connection reader.cleared (postgresRawIsPartitioned connection)
      (.ok (reader.partitioned connection)) := gives_postgresRawIsPartitioned
  have hrun : prefetchCandidateRows connection requests reader =
      (postgresRawIsPartitioned connection >>= fun partitioned =>
        if partitioned then prefetchPartitioned connection requests else pure ()) reader.cleared := by
    unfold prefetchCandidateRows
    rw [if_neg h, Reading.bind_apply]
    rfl
  rw [Reading.bind_apply] at hrun
  obtain ⟨hresult, hlearned⟩ := hpart
  rcases hafter : postgresRawIsPartitioned connection reader.cleared with ⟨result, after⟩
  rw [hafter] at hrun hresult hlearned
  dsimp only at hresult hlearned
  subst hresult
  refine ⟨after, (sameBeliefs_cleared connection reader).trans hlearned.toSameBeliefs,
    hlearned.prefetched, hrun.trans ?_⟩
  cases reader.partitioned connection <;> rfl

/-- **What `prefetch_candidate_rows` does**, whatever the table is. -/
theorem prefetchCandidateRows_spec (connection : Connection) (reader : V4SourceTimeReader)
    (requests : List CandidateKey) :
    SameBeliefs connection reader (prefetchCandidateRows connection requests reader).2 ∧
      ((prefetchCandidateRows connection requests reader).1 = .ok () ↔
        (reader.byHour connection = true →
          ∀ key ∈ requests, Ahead connection (reader.known connection) reader.limits key)) ∧
      ((prefetchCandidateRows connection requests reader).1 = .ok () → ∀ key,
        (prefetchCandidateRows connection requests reader).2.prefetchedCandidateRows.lookup key =
          if reader.byHour connection = true ∧ key ∈ requests then
            some (aheadRows connection (reader.known connection) reader.limits key)
          else none) := by
  by_cases hskip : requests = [] ∨ connection.postgresql = false
  · have hnever : ∀ key, ¬ (reader.byHour connection = true ∧ key ∈ requests) := by
      rintro key ⟨hbyHour, hkey⟩
      rcases hskip with rfl | hpostgresql
      · exact absurd hkey List.not_mem_nil
      · simp [V4SourceTimeReader.byHour, hpostgresql] at hbyHour
    rw [prefetchCandidateRows_skip hskip]
    refine ⟨sameBeliefs_cleared connection reader, ⟨fun _ hbyHour key hkey => ?_, fun _ => rfl⟩,
      fun _ key => ?_⟩
    · exact absurd ⟨hbyHour, hkey⟩ (hnever key)
    · rw [if_neg (hnever key)]
      rfl
  · have hbyHour : reader.byHour connection = reader.partitioned connection := by
      unfold V4SourceTimeReader.byHour
      rw [Bool.eq_true_of_not_eq_false (not_or.mp hskip).2, Bool.true_and]
    obtain ⟨after, hbeliefs, hcleared, hrun⟩ := prefetchCandidateRows_fetch reader hskip
    rw [hrun, hbyHour]
    cases reader.partitioned connection with
    | false =>
      refine ⟨hbeliefs, ⟨fun _ h => (nomatch h), fun _ => rfl⟩, fun _ key => ?_⟩
      show after.prefetchedCandidateRows.lookup key = _
      rw [hcleared, if_neg fun h => Bool.false_ne_true h.1]
      rfl
    | true =>
      obtain ⟨hsame, hok, hleft⟩ := prefetchPartitioned_spec connection after requests
      rw [hbeliefs.known, hbeliefs.limits] at hok hleft
      refine ⟨hbeliefs.trans hsame, hok.trans ⟨fun h _ => h, fun h => h rfl⟩, fun h key => ?_⟩
      show (prefetchPartitioned connection requests after).2.prefetchedCandidateRows.lookup key = _
      rw [hleft h, lookup_of_prefetched]
      simp only [true_and]

/-- What a request gets of the hourly tables, when it gets something. -/
theorem partitionCandidates_returns (connection : Connection) (attached : Timestamp → Bool)
    (limits : SourceLimits) (key : CandidateKey) :
    Returns (partitionCandidates connection attached limits key)
      (limits.Within key.requestedAt ∧
        eventClause true key.source key.tickerOnly = .ok (clauseOf key.source key.tickerOnly) ∧
        candidatePartitionNames (key.requestedAt + -limits.window) key.requestedAt =
          .ok (limits.namesAt key) ∧
        ∀ name ∈ limits.namesAt key, attached name = true →
          partitionRows connection name = .ok (rowsIn connection name))
      (aheadRows connection attached limits key) := by
  have hhours : ∀ name ∈ limits.namesAt key, Returns (hourCandidates connection attached key
      (limits.boundsAt key.requestedAt) (clauseOf key.source key.tickerOnly) name)
      (attached name = true → partitionRows connection name = .ok (rowsIn connection name))
      (if attached name then selectedIn connection limits key name else []) := by
    intro name _
    unfold hourCandidates
    split_ifs with hattached
    · have hmap : ∀ f : List RawRow → List RawRow, (partitionRows connection name).map f =
          partitionRows connection name >>= fun rows => .ok (f rows) := by
        intro f
        cases partitionRows connection name <;> rfl
      rw [hmap]
      exact ((rows_returns connection name).map _).congr (by simp [hattached]) rfl
    · exact (returns_ok []).congr (by simp [hattached]) rfl
  refine ((bounds_returns _ _).bind ((clause_returns _ _).bind ((names_returns _ _).bind
    ((Returns.mapM hhours).map _)))).congr Iff.rfl ?_
  unfold aheadRows
  generalize limits.namesAt key = names
  congr 1
  induction names with
  | nil => rfl
  | cons name rest ih =>
    rw [List.map_cons, List.flatten_cons, ih, List.filter_cons]
    split_ifs <;> simp

end BpEngine.V4Paper.SourceTime
