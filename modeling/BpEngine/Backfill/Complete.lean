import BpEngine.Backfill.Repeat
import BpEngine.Library.Windows

/-!
# What a backfill of candles leaves stored

A provider has candles; it answers a request with those whose times are between two bounds, the latest
of them when there are more than the limit.  A backfill from a provider like that should leave stored
the candles of its window.

* `BtcCandle.Fits` and `BtcCandle.rounded` say what becomes of a candle that is written.
* `Leaves` is what a run leaves of candles that are not stored yet: `Leaves.bind` puts runs together,
  `run_leaves` is the run over windows.
* `windowsFrom_cover`: the windows of a backfill have the candles of the time line they cut.
* `complete_iff`: the candles of the window are stored exactly when no window loses one, to its bounds
  or to the limit.
-/

namespace BpEngine.Backfill

open Windows

/-! ## The row of a candle -/

/-- The column has the digits for the value. -/
def Column.Holds (column : Column) (value : Decimal) : Prop :=
  (value.roundToScale column.scale).coeff.natAbs < 10 ^ column.digits

/-- The columns have the digits for the values of the candle. -/
structure BtcCandle.Fits (candle : BtcCandle) : Prop where
  opening : priceColumn.Holds candle.opening
  high : priceColumn.Holds candle.high
  low : priceColumn.Holds candle.low
  close : priceColumn.Holds candle.close
  volume : volumeColumn.Holds candle.volume
  turnover : ∀ turnover ∈ candle.turnover, volumeColumn.Holds turnover

/-- The candle with the values its columns keep. -/
def BtcCandle.rounded (candle : BtcCandle) : BtcCandle :=
  { candle with
    opening := candle.opening.roundToScale priceColumn.scale
    high := candle.high.roundToScale priceColumn.scale
    low := candle.low.roundToScale priceColumn.scale
    close := candle.close.roundToScale priceColumn.scale
    volume := candle.volume.roundToScale volumeColumn.scale
    turnover := candle.turnover.map fun turnover => turnover.roundToScale volumeColumn.scale }

theorem Column.written_eq_ok {column : Column} {value kept : Decimal} :
    column.written value = .ok kept ↔
      column.Holds value ∧ kept = value.roundToScale column.scale := by
  unfold Column.written Column.Holds
  rw [bind_eq_ok]
  constructor
  · rintro ⟨_, hrequire, h⟩
    exact ⟨require_eq_ok.mp hrequire, (Except.ok.inj h).symm⟩
  · rintro ⟨hholds, rfl⟩
    exact ⟨(), require_eq_ok.mpr hholds, rfl⟩

theorem Column.writtenOrNull_eq_ok {column : Column} {value kept : Option Decimal} :
    column.writtenOrNull value = .ok kept ↔ (∀ number ∈ value, column.Holds number) ∧
      kept = value.map fun value => value.roundToScale column.scale := by
  cases value with
  | none =>
    constructor
    · intro h
      exact ⟨fun number hnumber => (nomatch hnumber), (Except.ok.inj h).symm⟩
    · rintro ⟨-, rfl⟩
      rfl
  | some value =>
    constructor
    · intro h
      obtain ⟨rounded, hrounded, h⟩ := bind_eq_ok.mp h
      obtain ⟨hholds, rfl⟩ := Column.written_eq_ok.mp hrounded
      refine ⟨fun number hnumber => ?_, (Except.ok.inj h).symm⟩
      rw [← Option.some.inj hnumber]
      exact hholds
    · rintro ⟨hholds, rfl⟩
      exact bind_eq_ok.mpr ⟨_, Column.written_eq_ok.mpr ⟨hholds value rfl, rfl⟩, rfl⟩

/-- **A candle is written exactly when it fits, as its rounded values.** -/
theorem BtcCandle.written_eq_ok {candle row : BtcCandle} :
    candle.written = .ok row ↔ candle.Fits ∧ row = candle.rounded := by
  constructor
  · intro h
    obtain ⟨opening, hopening, h⟩ := bind_eq_ok.mp h
    obtain ⟨high, hhigh, h⟩ := bind_eq_ok.mp h
    obtain ⟨low, hlow, h⟩ := bind_eq_ok.mp h
    obtain ⟨close, hclose, h⟩ := bind_eq_ok.mp h
    obtain ⟨volume, hvolume, h⟩ := bind_eq_ok.mp h
    obtain ⟨turnover, hturnover, h⟩ := bind_eq_ok.mp h
    obtain ⟨fits_opening, rfl⟩ := Column.written_eq_ok.mp hopening
    obtain ⟨fits_high, rfl⟩ := Column.written_eq_ok.mp hhigh
    obtain ⟨fits_low, rfl⟩ := Column.written_eq_ok.mp hlow
    obtain ⟨fits_close, rfl⟩ := Column.written_eq_ok.mp hclose
    obtain ⟨fits_volume, rfl⟩ := Column.written_eq_ok.mp hvolume
    obtain ⟨fits_turnover, rfl⟩ := Column.writtenOrNull_eq_ok.mp hturnover
    exact ⟨⟨fits_opening, fits_high, fits_low, fits_close, fits_volume, fits_turnover⟩,
      (Except.ok.inj h).symm⟩
  · rintro ⟨hfits, rfl⟩
    unfold BtcCandle.written
    rw [Column.written_eq_ok.mpr ⟨hfits.opening, rfl⟩, Column.written_eq_ok.mpr ⟨hfits.high, rfl⟩,
      Column.written_eq_ok.mpr ⟨hfits.low, rfl⟩, Column.written_eq_ok.mpr ⟨hfits.close, rfl⟩,
      Column.written_eq_ok.mpr ⟨hfits.volume, rfl⟩,
      Column.writtenOrNull_eq_ok.mpr ⟨hfits.turnover, rfl⟩]
    rfl

@[simp] theorem BtcCandle.rounded_key (candle : BtcCandle) : candle.rounded.key = candle.key := rfl

/-! ## Candles that are not stored yet -/

/-- The candles can be stored one after the other: their keys are new. -/
structure Fresh (table candles : List BtcCandle) : Prop where
  interval : ∀ candle ∈ candles, 0 < candle.key.intervalSeconds
  nodup : (candles.map BtcCandle.key).Nodup
  unstored : ∀ row ∈ table, ∀ candle ∈ candles, row.key ≠ candle.key

theorem Fresh.subperm {table candles part : List BtcCandle} (h : Fresh table candles)
    (hpart : part.Subperm candles) : Fresh table part where
  interval candle hcandle := h.interval candle (hpart.subset hcandle)
  nodup := by
    obtain ⟨l, hl, hsub⟩ := hpart
    have hnodup : (l.map BtcCandle.key).Nodup := h.nodup.sublist (hsub.map BtcCandle.key)
    exact (hl.map BtcCandle.key).nodup_iff.mp hnodup
  unstored row hrow candle hcandle := h.unstored row hrow candle (hpart.subset hcandle)

/-- After some of them are stored, the others are still fresh. -/
theorem Fresh.rest {table first rest new : List BtcCandle} (h : Fresh table (first ++ rest))
    (hnew : new.Perm (first.map BtcCandle.rounded)) : Fresh (table ++ new) rest where
  interval candle hcandle := h.interval candle (List.mem_append_right first hcandle)
  nodup := by
    have hnodup := h.nodup
    rw [List.map_append] at hnodup
    exact hnodup.of_append_right
  unstored row hrow candle hcandle := by
    rcases List.mem_append.mp hrow with hrow | hrow
    · exact h.unstored row hrow candle (List.mem_append_right first hcandle)
    · obtain ⟨stored, hstored, rfl⟩ := List.mem_map.mp (hnew.mem_iff.mp hrow)
      have hnodup := h.nodup
      rw [List.map_append] at hnodup
      have hdisjoint := List.disjoint_of_nodup_append hnodup
      intro heq
      refine hdisjoint (List.mem_map_of_mem hstored) ?_
      rw [← BtcCandle.rounded_key, heq]
      exact List.mem_map_of_mem hcandle

theorem Fresh.one_rest {table rest : List BtcCandle} {candle : BtcCandle}
    (h : Fresh table (candle :: rest)) : Fresh (table ++ [candle.rounded]) rest := by
  rw [← List.singleton_append] at h
  exact h.rest (List.Perm.refl _)

/-- What a run makes of candles that are not stored: it ends when they fit, and has then added their
rows. -/
structure Leaves (table candles : List BtcCandle) (result : Outcome (Progress BtcCandle)) : Prop where
  ended : ∀ after, result = .ok after → (∀ candle ∈ candles, candle.Fits) ∧
    ∃ new, after.table = table ++ new ∧ new.Perm (candles.map BtcCandle.rounded)
  ends : (∀ candle ∈ candles, candle.Fits) → ∃ after, result = .ok after

theorem Leaves.perm {table candles candles' : List BtcCandle} {result : Outcome (Progress BtcCandle)}
    (h : Leaves table candles result) (hperm : candles.Perm candles') : Leaves table candles' result where
  ended after hafter := by
    obtain ⟨hfits, new, htable, hnew⟩ := h.ended after hafter
    exact ⟨fun candle hcandle => hfits candle (hperm.mem_iff.mpr hcandle), new, htable,
      hnew.trans (hperm.map _)⟩
  ends hfits := h.ends fun candle hcandle => hfits candle (hperm.mem_iff.mp hcandle)

/-- A run after a run leaves the candles of both. -/
theorem Leaves.bind {table first rest : List BtcCandle} {x : Outcome (Progress BtcCandle)}
    {f : Progress BtcCandle → Outcome (Progress BtcCandle)} (hfresh : Fresh table (first ++ rest))
    (hx : Leaves table first x)
    (hf : ∀ after, x = .ok after → Fresh after.table rest → Leaves after.table rest (f after)) :
    Leaves table (first ++ rest) (x >>= f) where
  ended after hafter := by
    obtain ⟨between, hbetween, hafter⟩ := bind_eq_ok.mp hafter
    obtain ⟨hfits, new, htable, hnew⟩ := hx.ended between hbetween
    have hnext : Fresh between.table rest := by
      rw [htable]
      exact hfresh.rest hnew
    obtain ⟨hfits', new', htable', hnew'⟩ := (hf between hbetween hnext).ended after hafter
    refine ⟨fun candle hcandle => ?_, new ++ new', ?_, ?_⟩
    · rcases List.mem_append.mp hcandle with hcandle | hcandle
      · exact hfits candle hcandle
      · exact hfits' candle hcandle
    · rw [htable', htable, List.append_assoc]
    · rw [List.map_append]
      exact hnew.append hnew'
  ends hfits := by
    obtain ⟨between, hbetween⟩ := hx.ends fun candle hcandle =>
      hfits candle (List.mem_append_left rest hcandle)
    obtain ⟨-, new, htable, hnew⟩ := hx.ended between hbetween
    have hnext : Fresh between.table rest := by
      rw [htable]
      exact hfresh.rest hnew
    obtain ⟨after, hafter⟩ := (hf between hbetween hnext).ends fun candle hcandle =>
      hfits candle (List.mem_append_right first hcandle)
    exact ⟨after, bind_eq_ok.mpr ⟨between, hbetween, hafter⟩⟩

/-- The write of a candle that is not stored. -/
theorem storeBtcCandle_fresh {table : List BtcCandle} {candle : BtcCandle}
    (h : Fresh table [candle]) :
    storeBtcCandle table candle =
      candle.written >>= fun row => .ok ⟨table ++ [row], true⟩ := by
  have hvalid : btcCandles.valid candle = .ok () :=
    require_eq_ok.mpr (h.interval candle List.mem_cons_self)
  have hnone : btcCandles.existing table candle = none := by
    refine List.find?_eq_none.mpr fun row hrow => ?_
    have hkey : row.key ≠ candle.key := h.unstored row hrow candle List.mem_cons_self
    exact fun h => hkey (of_decide_eq_true h)
  unfold storeBtcCandle Observations.store
  rw [hvalid, ok_bind, hnone]
  rfl

theorem storeAll_leaves {candles : List BtcCandle} {progress : Progress BtcCandle}
    (h : Fresh progress.table candles) :
    Leaves progress.table candles (storeAll storeBtcCandle progress candles) := by
  induction candles generalizing progress with
  | nil =>
    refine ⟨fun after hafter => ?_, fun _ => ⟨progress, rfl⟩⟩
    cases hafter
    exact ⟨fun candle hcandle => (nomatch hcandle), [], (List.append_nil _).symm, List.Perm.refl _⟩
  | cons candle rest ih =>
    have hone : Fresh progress.table [candle] :=
      h.subperm (List.Sublist.subperm (List.singleton_sublist.mpr List.mem_cons_self))
    unfold storeAll
    rw [storeBtcCandle_fresh hone]
    constructor
    · intro after hafter
      obtain ⟨stored, hstored, hafter⟩ := bind_eq_ok.mp hafter
      obtain ⟨row, hwritten, hstored⟩ := bind_eq_ok.mp hstored
      obtain ⟨hfits, rfl⟩ := BtcCandle.written_eq_ok.mp hwritten
      cases hstored
      have hnext : Fresh (progress.table ++ [candle.rounded]) rest :=
        h.one_rest
      obtain ⟨hfits', new, htable, hnew⟩ := (ih hnext).ended after hafter
      refine ⟨fun other hother => ?_, candle.rounded :: new, ?_, hnew.cons _⟩
      · rcases List.mem_cons.mp hother with rfl | hother
        · exact hfits
        · exact hfits' other hother
      · rw [htable, List.append_assoc, List.singleton_append]
    · intro hfits
      have hwritten : candle.written = .ok candle.rounded :=
        BtcCandle.written_eq_ok.mpr ⟨hfits candle List.mem_cons_self, rfl⟩
      have hnext : Fresh (progress.table ++ [candle.rounded]) rest :=
        h.one_rest
      rw [hwritten]
      exact (ih hnext).ends fun other hother => hfits other (List.mem_cons_of_mem candle hother)

/-! ## What a provider answers -/

/-- A candle of a provider with its time in the unit of the provider. -/
structure Offered where
  time : ℤ
  candle : Candle

/-- When the bucket of the candle starts. -/
def Offered.bucketAt (offered : Offered) : Timestamp := offered.candle.bucketAt

/-- What a provider answers of its candles: those between the bounds, and the latest of them when there
are more than the limit. -/
def answer (candles : List Offered) (lower upper limit : ℤ) : List Offered :=
  let between := candles.filter fun c => lower ≤ c.time ∧ c.time ≤ upper
  between.filter fun c => ((between.filter fun later => c.time < later.time).length : ℤ) < limit

/-- The candle is in the bounds, and it is one of the latest up to the last of them. -/
structure Answered (candles : List Offered) (lower upper limit : ℤ) (c : Offered) : Prop where
  above : lower ≤ c.time
  below : c.time ≤ upper
  latest : ((candles.filter fun later => c.time < later.time ∧ later.time ≤ upper).length : ℤ) < limit

theorem mem_answer {candles : List Offered} {lower upper limit : ℤ} {c : Offered} (hc : c ∈ candles) :
    c ∈ answer candles lower upper limit ↔ Answered candles lower upper limit c := by
  have hlater : lower ≤ c.time →
      (candles.filter fun c => lower ≤ c.time ∧ c.time ≤ upper).filter
          (fun later => c.time < later.time) =
        candles.filter fun later => c.time < later.time ∧ later.time ≤ upper := by
    intro hlower
    rw [List.filter_filter]
    refine List.filter_congr fun later _ => ?_
    simp only [← Bool.decide_and, decide_eq_decide]
    omega
  unfold answer
  simp only [List.mem_filter, decide_eq_true_eq]
  constructor
  · rintro ⟨⟨-, hlower, hupper⟩, hlimit⟩
    rw [hlater hlower] at hlimit
    exact ⟨hlower, hupper, hlimit⟩
  · intro h
    rw [hlater h.above]
    exact ⟨⟨hc, h.above, h.below⟩, h.latest⟩

theorem answer_sublist (candles : List Offered) (lower upper limit : ℤ) :
    (answer candles lower upper limit).Sublist candles :=
  List.filter_sublist.trans List.filter_sublist

/-- A provider that has the candles: they have the times of their rows and buckets of their own, and it
answers the requests of a backfill with them. -/
structure Offers (provider : Provider) (job : Job) (start finish : Timestamp) (candles : List Offered) :
    Prop where
  time : ∀ c ∈ candles, provider.rowTime c.candle.rawPayload = .ok c.time
  distinct : (candles.map Offered.bucketAt).Nodup
  answers : ∀ window, .ok window ∈ candleWindows start finish job.intervalSeconds job.maxCandles →
    ∃ payload entries received,
      job.http (provider.params job.symbol (provider.lower window.1) (provider.upper window.2)
        job.maxCandles) = .ok payload ∧
      payload.mapping = some entries ∧ provider.read entries = .ok received ∧
      received.Perm ((answer candles (provider.lower window.1) (provider.upper window.2)
        job.maxCandles).map Offered.candle)

/-- The candle as a backfill stores it. -/
def Provider.stores (provider : Provider) (job : Job) (c : Offered) : BtcCandle :=
  provider.stored job.symbol job.intervalSeconds c.candle

/-- What a backfill keeps of the answer for a window. -/
def Provider.keeps (provider : Provider) (job : Job) (candles : List Offered)
    (window : Timestamp × Timestamp) : List Offered :=
  during Offered.bucketAt window.1 window.2
    (answer candles (provider.lower window.1) (provider.upper window.2) job.maxCandles)

theorem Provider.keeps_sublist (provider : Provider) (job : Job) (candles : List Offered)
    (window : Timestamp × Timestamp) : (provider.keeps job candles window).Sublist
      (during Offered.bucketAt window.1 window.2 candles) :=
  (answer_sublist ..).filter _

/-- The chunk of a window. -/
theorem Offers.chunk {provider : Provider} {job : Job} {start finish : Timestamp}
    {candles : List Offered} (h : Offers provider job start finish candles)
    (hcheck : provider.check job.symbol job.maxCandles = .ok ()) {window : Timestamp × Timestamp}
    (hwindow : .ok window ∈ candleWindows start finish job.intervalSeconds job.maxCandles)
    (hlt : window.1 < window.2) :
    ∃ chunk, provider.chunk job (.ok window) = .ok chunk ∧
      chunk.kept.Perm ((provider.keeps job candles window).map (provider.stores job)) := by
  obtain ⟨payload, entries, received, hhttp, hmapping, hread, hreceived⟩ := h.answers window hwindow
  have hbefore : require (window.1 < window.2) .valueError "start must be before end" = .ok () :=
    require_eq_ok.mpr hlt
  have hget : provider.get job.http job.symbol window.1 window.2 job.maxCandles =
      .ok (received, provider.recorded job.symbol (provider.params job.symbol
        (provider.lower window.1) (provider.upper window.2) job.maxCandles), payload) := by
    unfold Provider.get
    rw [hcheck, ok_bind, hbefore, ok_bind]
    dsimp only
    rw [hhttp, ok_bind, hmapping]
    dsimp only
    rw [hread]
    rfl
  unfold Provider.chunk
  rw [ok_bind]
  dsimp only
  rw [hget]
  refine ⟨_, rfl, ?_⟩
  have hkept := (hreceived.filter fun candle : Candle =>
    decide (window.1 ≤ candle.bucketAt ∧ candle.bucketAt < window.2)).map
      (provider.stored job.symbol job.intervalSeconds)
  rw [List.filter_map, List.map_map] at hkept
  dsimp only [Chunk.kept]
  rw [List.filter_map, List.map_map]
  exact hkept

/-! ## The windows -/

/-- **The windows cut the time line between the cursor and its end.** -/
theorem windowsFrom_cover {width finish : Timestamp} (hwidth : 0 < width) {fuel : ℕ}
    {cursor : Timestamp} (hfuel : finish - cursor ≤ fuel * width)
    (hok : ∀ window ∈ windowsFrom width finish fuel cursor, ∃ bounds, window = .ok bounds) :
    ∃ windows : List (Timestamp × Timestamp),
      windowsFrom width finish fuel cursor = windows.map .ok ∧
      (∀ window ∈ windows, window.1 < window.2) ∧
      ∀ candles : List Offered,
        (windows.flatMap fun window => during Offered.bucketAt window.1 window.2 candles).Perm
          (during Offered.bucketAt cursor finish candles) := by
  induction fuel generalizing cursor with
  | zero =>
    have hle : finish ≤ cursor := by
      rw [Nat.cast_zero, zero_mul] at hfuel
      exact sub_nonpos.mp hfuel
    refine ⟨[], rfl, fun window hwindow => (nomatch hwindow), fun candles => ?_⟩
    rw [during_of_le _ hle]
    exact List.Perm.refl _
  | succ fuel ih =>
    unfold windowsFrom at hok ⊢
    split_ifs at hok ⊢ with hlt hrange
    · have hnext : finish - min (cursor + width) finish ≤ fuel * width := by
        rcases le_total (cursor + width) finish with h | h
        · rw [min_eq_left h]
          push_cast at hfuel
          linarith
        · rw [min_eq_right h, sub_self]
          positivity
      obtain ⟨windows, hwindows, hbounds, hcover⟩ :=
        ih hnext fun window hwindow => hok window (List.mem_cons_of_mem _ hwindow)
      refine ⟨(cursor, min (cursor + width) finish) :: windows, ?_, ?_, fun candles => ?_⟩
      · rw [hwindows, List.map_cons]
      · intro window hwindow
        rcases List.mem_cons.mp hwindow with rfl | hwindow
        · exact lt_min (lt_add_of_pos_right cursor hwidth) hlt
        · exact hbounds window hwindow
      · rw [List.flatMap_cons]
        refine ((hcover candles).append_left _).trans (during_split _ ?_ (min_le_right _ _) candles)
        exact le_min (le_add_of_nonneg_right hwidth.le) hlt.le
    · obtain ⟨bounds, hbounds⟩ := hok _ List.mem_cons_self
      cases hbounds
    · refine ⟨[], rfl, fun window hwindow => (nomatch hwindow), fun candles => ?_⟩
      rw [during_of_le _ (not_lt.mp hlt)]
      exact List.Perm.refl _

theorem candleWindows_cover {start finish : Timestamp} {intervalSeconds maxCandles : ℤ}
    (hstart : start < finish) (hinterval : 0 < intervalSeconds) (hmax : 0 < maxCandles)
    (hok : ∀ window ∈ candleWindows start finish intervalSeconds maxCandles,
      ∃ bounds, window = .ok bounds) :
    ∃ windows : List (Timestamp × Timestamp),
      candleWindows start finish intervalSeconds maxCandles = windows.map .ok ∧
      (∀ window ∈ windows, window.1 < window.2) ∧
      ∀ candles : List Offered,
        (windows.flatMap fun window => during Offered.bucketAt window.1 window.2 candles).Perm
          (during Offered.bucketAt start finish candles) := by
  have hwidth : 0 < Timestamp.ofSeconds (intervalSeconds * maxCandles) := by
    have hpos : 0 < intervalSeconds * maxCandles := mul_pos hinterval hmax
    unfold Timestamp.ofSeconds
    linarith
  unfold candleWindows at hok ⊢
  rw [if_neg (not_le.mpr hstart), if_neg (not_le.mpr hinterval), if_neg (not_le.mpr hmax)] at hok ⊢
  refine windowsFrom_cover hwidth ?_ hok
  generalize Timestamp.ofSeconds (intervalSeconds * maxCandles) = width at hwidth ⊢
  have hdiv : 0 ≤ (finish - start) / width := Int.ediv_nonneg (sub_nonneg.mpr hstart.le) hwidth.le
  rw [Int.toNat_of_nonneg (by linarith)]
  have hmod := Int.emod_lt_of_pos (finish - start) hwidth
  have hsplit := Int.mul_ediv_add_emod (finish - start) width
  linarith

/-! ## Runs over windows -/

theorem storeChunk_leaves {chunk : Chunk BtcCandle} {candles : List BtcCandle}
    {progress : Progress BtcCandle} (hkept : chunk.kept.Perm candles)
    (hfresh : Fresh progress.table candles) :
    Leaves progress.table candles (storeChunk storeBtcCandle progress (.ok chunk)) := by
  have hfresh' : Fresh progress.table chunk.kept := hfresh.subperm hkept.subperm
  have hall : ∀ between : Progress BtcCandle, between.table = progress.table →
      Leaves progress.table chunk.kept (storeAll storeBtcCandle between chunk.kept) := by
    intro between htable
    rw [← htable] at hfresh' ⊢
    exact storeAll_leaves hfresh'
  refine Leaves.perm ?_ hkept
  exact hall _ rfl

/-- The run over windows leaves what it keeps of their answers. -/
theorem Offers.run_leaves {provider : Provider} {job : Job} {start finish : Timestamp}
    {candles : List Offered} (h : Offers provider job start finish candles)
    (hcheck : provider.check job.symbol job.maxCandles = .ok ())
    {windows : List (Timestamp × Timestamp)}
    (hwindows : ∀ window ∈ windows,
      .ok window ∈ candleWindows start finish job.intervalSeconds job.maxCandles ∧
        window.1 < window.2) {progress : Progress BtcCandle}
    (hfresh : Fresh progress.table
      ((windows.flatMap (provider.keeps job candles)).map (provider.stores job))) :
    Leaves progress.table ((windows.flatMap (provider.keeps job candles)).map (provider.stores job))
      ((windows.map .ok).foldlM
        (fun progress window => storeChunk storeBtcCandle progress (provider.chunk job window))
        progress) := by
  induction windows generalizing progress with
  | nil =>
    refine ⟨fun after hafter => ?_, fun _ => ⟨progress, rfl⟩⟩
    cases hafter
    exact ⟨fun candle hcandle => (nomatch hcandle), [], (List.append_nil _).symm, List.Perm.refl _⟩
  | cons window windows ih =>
    rw [List.flatMap_cons, List.map_append] at hfresh ⊢
    rw [List.map_cons, List.foldlM_cons]
    obtain ⟨hmem, hlt⟩ := hwindows window List.mem_cons_self
    obtain ⟨chunk, hchunk, hkept⟩ := h.chunk hcheck hmem hlt
    have hfirst : Fresh progress.table
        ((provider.keeps job candles window).map (provider.stores job)) :=
      hfresh.subperm (List.sublist_append_left _ _).subperm
    rw [hchunk]
    refine Leaves.bind hfresh (storeChunk_leaves hkept hfirst) fun after _ hrest => ?_
    exact ih (fun w hw => hwindows w (List.mem_cons_of_mem window hw)) hrest

/-- A run that ends has had a chunk for every window. -/
theorem ok_of_run {provider : Provider} {job : Job}
    {windows : List (Outcome (Timestamp × Timestamp))} {progress after : Progress BtcCandle}
    (h : windows.foldlM
      (fun progress window => storeChunk storeBtcCandle progress (provider.chunk job window))
      progress = .ok after) : ∀ window ∈ windows, ∃ bounds, window = .ok bounds := by
  induction windows generalizing progress with
  | nil => exact fun window hwindow => nomatch hwindow
  | cons window windows ih =>
    rw [List.foldlM_cons] at h
    obtain ⟨between, hbetween, hrest⟩ := bind_eq_ok.mp h
    obtain ⟨chunk, hchunk, -⟩ := bind_eq_ok.mp hbetween
    obtain ⟨bounds, hbounds, -⟩ := bind_eq_ok.mp hchunk
    intro other hother
    rcases List.mem_cons.mp hother with rfl | hother
    · exact ⟨bounds, hbounds⟩
    · exact ih hrest other hother

/-! ### Nothing is lost -/

section Parts

variable {α β : Type} {f g : α → List β} {l : List α}

theorem flatMap_sublist (h : ∀ x ∈ l, (f x).Sublist (g x)) : (l.flatMap f).Sublist (l.flatMap g) := by
  induction l with
  | nil => exact List.Sublist.refl _
  | cons x l ih =>
    rw [List.flatMap_cons, List.flatMap_cons]
    exact (h x List.mem_cons_self).append (ih fun y hy => h y (List.mem_cons_of_mem x hy))

/-- Parts that have as many items together as the wholes are the wholes. -/
theorem eq_of_flatMap_length (h : ∀ x ∈ l, (f x).Sublist (g x))
    (hlength : (l.flatMap f).length = (l.flatMap g).length) : ∀ x ∈ l, f x = g x := by
  induction l with
  | nil => exact fun x hx => nomatch hx
  | cons x l ih =>
    have htail : ∀ y ∈ l, (f y).Sublist (g y) := fun y hy => h y (List.mem_cons_of_mem x hy)
    have hhead := h x List.mem_cons_self
    have h1 := hhead.length_le
    have h2 := (flatMap_sublist htail).length_le
    rw [List.flatMap_cons, List.flatMap_cons, List.length_append, List.length_append] at hlength
    intro y hy
    rcases List.mem_cons.mp hy with rfl | hy
    · exact hhead.eq_of_length (by omega)
    · exact ih htail (by omega) y hy

end Parts

/-- Exactly the rows of the candles are added, each once. -/
def StoresExactly (before : Progress BtcCandle) (candles : List BtcCandle)
    (result : Outcome (Progress BtcCandle)) : Prop :=
  ∃ after new, result = .ok after ∧ after.table = before.table ++ new ∧
    new.Perm (candles.map BtcCandle.rounded)

/-- The candles of the provider in a window, as they are stored. -/
def Provider.expected (provider : Provider) (job : Job) (start finish : Timestamp)
    (candles : List Offered) : List BtcCandle :=
  (during Offered.bucketAt start finish candles).map (provider.stores job)

/-- Every window is one of years up to 9999, the request for it reaches the candles in it, and the
columns have the digits for them. -/
structure NothingLost (provider : Provider) (job : Job) (start finish : Timestamp)
    (candles : List Offered) : Prop where
  windows : ∀ window ∈ candleWindows start finish job.intervalSeconds job.maxCandles,
    ∃ bounds, window = .ok bounds
  answered : ∀ window, .ok window ∈ candleWindows start finish job.intervalSeconds job.maxCandles →
    ∀ c ∈ candles, window.1 ≤ c.bucketAt → c.bucketAt < window.2 →
      Answered candles (provider.lower window.1) (provider.upper window.2) job.maxCandles c
  fits : ∀ c ∈ candles, start ≤ c.bucketAt → c.bucketAt < finish → (provider.stores job c).Fits

theorem Offers.fresh {provider : Provider} {job : Job} {start finish : Timestamp}
    {candles : List Offered} (h : Offers provider job start finish candles)
    (hinterval : 0 < job.intervalSeconds) {table : List BtcCandle}
    (hsymbol : ∀ row ∈ table, row.key.symbol ≠ job.symbol) :
    Fresh table (provider.expected job start finish candles) where
  interval candle hcandle := by
    obtain ⟨c, -, rfl⟩ := List.mem_map.mp hcandle
    exact hinterval
  nodup := by
    refine List.Nodup.of_map CandleKey.bucketAt ?_
    have hbuckets : ((provider.expected job start finish candles).map BtcCandle.key).map
        CandleKey.bucketAt = (during Offered.bucketAt start finish candles).map Offered.bucketAt := by
      unfold Provider.expected
      rw [List.map_map, List.map_map]
      rfl
    rw [hbuckets]
    exact h.distinct.sublist (List.filter_sublist.map Offered.bucketAt)
  unstored row hrow candle hcandle := by
    obtain ⟨c, -, rfl⟩ := List.mem_map.mp hcandle
    intro heq
    exact hsymbol row hrow (congrArg CandleKey.symbol heq)

/-- **The candles of the window are stored exactly when no window loses one.** -/
theorem Provider.complete_iff {provider : Provider} {job : Job} {start finish : Timestamp}
    {candles : List Offered} {before : Progress BtcCandle} (hstart : start < finish)
    (hinterval : 0 < job.intervalSeconds) (hmax : 0 < job.maxCandles)
    (hcheck : provider.check job.symbol job.maxCandles = .ok ())
    (hoffers : Offers provider job start finish candles)
    (hsymbol : ∀ row ∈ before.table, row.key.symbol ≠ job.symbol) :
    StoresExactly before (provider.expected job start finish candles)
        (provider.backfill job start finish before) ↔
      NothingLost provider job start finish candles := by
  have hfresh := hoffers.fresh hinterval hsymbol
  have hsub : ∀ window : Timestamp × Timestamp, (provider.keeps job candles window).Sublist
      (during Offered.bucketAt window.1 window.2 candles) := provider.keeps_sublist job candles
  -- what is shared by the two directions: the windows, and what the run over them leaves
  have hrun : (∀ window ∈ candleWindows start finish job.intervalSeconds job.maxCandles,
      ∃ bounds, window = .ok bounds) → ∃ windows : List (Timestamp × Timestamp),
        candleWindows start finish job.intervalSeconds job.maxCandles = windows.map .ok ∧
        (windows.flatMap fun window => during Offered.bucketAt window.1 window.2 candles).Perm
          (during Offered.bucketAt start finish candles) ∧
        Leaves before.table
          ((windows.flatMap (provider.keeps job candles)).map (provider.stores job))
          (provider.backfill job start finish before) := by
    intro hok
    obtain ⟨windows, hwindows, hlt, hcover⟩ := candleWindows_cover hstart hinterval hmax hok
    refine ⟨windows, hwindows, hcover candles, ?_⟩
    have hparts : ((windows.flatMap (provider.keeps job candles)).map (provider.stores job)).Subperm
        (provider.expected job start finish candles) := by
      obtain ⟨l, hl, hpart⟩ := ((flatMap_sublist fun window _ => hsub window).subperm).trans
        (hcover candles).subperm
      exact ⟨l.map (provider.stores job), hl.map _, hpart.map _⟩
    unfold Provider.backfill
    rw [hwindows]
    refine hoffers.run_leaves hcheck (fun window hwindow => ⟨?_, hlt window hwindow⟩)
      (hfresh.subperm hparts)
    rw [hwindows]
    exact List.mem_map_of_mem hwindow
  constructor
  · rintro ⟨after, new, hafter, htable, hnew⟩
    have hok := ok_of_run hafter
    obtain ⟨windows, hwindows, hcover, hleaves⟩ := hrun hok
    obtain ⟨hfits, new', htable', hnew'⟩ := hleaves.ended after hafter
    have hsame : new' = new := List.append_cancel_left (htable'.symm.trans htable)
    have hlength : (windows.flatMap (provider.keeps job candles)).length =
        (windows.flatMap fun window => during Offered.bucketAt window.1 window.2 candles).length := by
      have h1 := hnew.length_eq
      have h2 := hnew'.length_eq
      have h3 := hcover.length_eq
      rw [hsame] at h2
      unfold Provider.expected at h1
      simp only [List.length_map] at h1 h2
      omega
    have heq := eq_of_flatMap_length (fun window _ => hsub window) hlength
    refine ⟨hok, fun window hwindow c hc hfrom hto => ?_, fun c hc hfrom hto => ?_⟩
    · rw [hwindows] at hwindow
      obtain ⟨_, hmem, hbounds⟩ := List.mem_map.mp hwindow
      cases hbounds
      have hin : c ∈ provider.keeps job candles window := by
        rw [heq window hmem]
        exact (mem_during _).mpr ⟨hc, hfrom, hto⟩
      exact (mem_answer hc).mp ((mem_during _).mp hin).1
    · have hin : c ∈ windows.flatMap (provider.keeps job candles) := by
        have hc' := hcover.mem_iff.mpr ((mem_during _).mpr ⟨hc, hfrom, hto⟩)
        obtain ⟨window, hmem, hc'⟩ := List.mem_flatMap.mp hc'
        exact List.mem_flatMap.mpr ⟨window, hmem, by rw [heq window hmem]; exact hc'⟩
      exact hfits _ (List.mem_map_of_mem hin)
  · intro h
    obtain ⟨windows, hwindows, hcover, hleaves⟩ := hrun h.windows
    have heq : ∀ window ∈ windows, provider.keeps job candles window =
        during Offered.bucketAt window.1 window.2 candles := by
      intro window hmem
      have hwindow : .ok window ∈ candleWindows start finish job.intervalSeconds job.maxCandles := by
        rw [hwindows]
        exact List.mem_map_of_mem hmem
      have hnodup : (during Offered.bucketAt window.1 window.2 candles).Nodup :=
        (List.Nodup.of_map _ hoffers.distinct).sublist List.filter_sublist
      have hreached : during Offered.bucketAt window.1 window.2 candles ⊆
          provider.keeps job candles window := by
        intro c hc
        obtain ⟨hc, hfrom, hto⟩ := (mem_during _).mp hc
        exact (mem_during _).mpr
          ⟨(mem_answer hc).mpr (h.answered window hwindow c hc hfrom hto), hfrom, hto⟩
      exact (hsub window).eq_of_length_le (hnodup.subperm hreached).length_le
    have hkept : (windows.flatMap (provider.keeps job candles)).Perm
        (during Offered.bucketAt start finish candles) := by
      rw [List.flatMap_congr heq]
      exact hcover
    have hall := hleaves.perm (hkept.map (provider.stores job))
    obtain ⟨after, hafter⟩ := hall.ends fun candle hcandle => by
      obtain ⟨c, hc, rfl⟩ := List.mem_map.mp hcandle
      obtain ⟨hc, hfrom, hto⟩ := (mem_during _).mp hc
      exact h.fits c hc hfrom hto
    obtain ⟨-, new, htable, hnew⟩ := hall.ended after hafter
    exact ⟨after, new, hafter, htable, hnew⟩

/-! ## The two backfills -/

theorem pos_of_lookup {table : List (ℤ × String)} (htable : ∀ entry ∈ table, 0 < entry.1) {n : ℤ}
    {name : String} (h : table.lookup n = some name) : 0 < n := by
  obtain ⟨before, after, hlist, -⟩ := List.lookup_eq_some_iff.mp h
  have hmem : (n, name) ∈ table := by
    rw [hlist]
    exact List.mem_append_right before List.mem_cons_self
  exact htable _ hmem

theorem bybitInterval_pos {intervalSeconds : ℤ} {interval : String}
    (h : bybitInterval intervalSeconds = .ok interval) : 0 < intervalSeconds := by
  unfold bybitInterval at h
  split at h
  · next hlookup => exact pos_of_lookup (by decide) hlookup
  · cases h

theorem coinbaseGranularity_pos {intervalSeconds : ℤ} {granularity : String}
    (h : coinbaseGranularity intervalSeconds = .ok granularity) : 0 < intervalSeconds := by
  unfold coinbaseGranularity at h
  split at h
  · next hlookup => exact pos_of_lookup (by decide) hlookup
  · cases h

/-- **A backfill from a provider that answers with its latest candles leaves stored the candles of its
window, each once, exactly when no window of it loses one.** -/
theorem backfill_complete_iff (job : Job) {start finish : Timestamp} (candles : List Offered)
    (before : Progress BtcCandle) (hstart : start < finish)
    (hsymbol : ∀ row ∈ before.table, row.key.symbol ≠ job.symbol) :
    (∀ category interval : String, bybitInterval job.intervalSeconds = .ok interval →
      (bybit category interval).check job.symbol job.maxCandles = .ok () →
      Offers (bybit category interval) job start finish candles →
      (StoresExactly before ((bybit category interval).expected job start finish candles)
          (backfillBybitCandles job category start finish before) ↔
        NothingLost (bybit category interval) job start finish candles)) ∧
    ∀ granularity : String, coinbaseGranularity job.intervalSeconds = .ok granularity →
      (coinbase granularity).check job.symbol job.maxCandles = .ok () →
      Offers (coinbase granularity) job start finish candles →
      (StoresExactly before ((coinbase granularity).expected job start finish candles)
          (backfillCoinbaseCandles job start finish before) ↔
        NothingLost (coinbase granularity) job start finish candles) := by
  constructor
  · intro category interval hinterval hcheck hoffers
    obtain ⟨_, -, hlimit⟩ := bind_eq_ok.mp hcheck
    obtain ⟨_, -, hlimit⟩ := bind_eq_ok.mp hlimit
    have hmax : 1 ≤ job.maxCandles ∧ job.maxCandles ≤ 1000 := require_eq_ok.mp hlimit
    have haccepted : require (1 ≤ job.maxCandles ∧ job.maxCandles ≤ 1000) .valueError
        "max_candles_per_request must be between 1 and 1000" = .ok () := require_eq_ok.mpr hmax
    unfold backfillBybitCandles
    rw [haccepted, ok_bind, hinterval, ok_bind]
    exact Provider.complete_iff hstart (bybitInterval_pos hinterval) (by omega) hcheck hoffers hsymbol
  · intro granularity hinterval hcheck hoffers
    obtain ⟨_, -, hlimit⟩ := bind_eq_ok.mp hcheck
    have hmax : 1 ≤ job.maxCandles ∧ job.maxCandles ≤ 350 := require_eq_ok.mp hlimit
    have haccepted : require (1 ≤ job.maxCandles ∧ job.maxCandles ≤ 350) .valueError
        "max_candles_per_request must be between 1 and 350" = .ok () := require_eq_ok.mpr hmax
    unfold backfillCoinbaseCandles
    rw [haccepted, ok_bind, hinterval, ok_bind]
    exact Provider.complete_iff hstart (coinbaseGranularity_pos hinterval) (by omega) hcheck hoffers
      hsymbol

/-! ### Minutes of one product -/

/-- The row of a minute. -/
def minuteRow (start : String) : Json :=
  .obj [("start", .str start), ("low", .str "1"), ("high", .str "1"), ("open", .str "1"),
    ("close", .str "1"), ("volume", .str "1")]

/-- The candle of a minute that starts `seconds` after the epoch. -/
def minute (start : String) (seconds : ℤ) : Offered where
  time := seconds
  candle :=
    { bucketAt := Timestamp.ofSeconds seconds
      opening := ⟨1, 0⟩
      high := ⟨1, 0⟩
      low := ⟨1, 0⟩
      close := ⟨1, 0⟩
      volume := ⟨1, 0⟩
      turnover := none
      rawPayload := minuteRow start }

/-- A backfill of one-minute candles, one for each request, from a provider that has those of the first
three minutes: it answers the request for the minutes 0 and 1 with the later of them, and the one for
the minutes 1 and 2 as well. -/
def minutes : Job where
  runId := "run"
  symbol := "BTC-USD"
  downloadedAt := 0
  intervalSeconds := 60
  maxCandles := 1
  digest _ := "sha256"
  http params := .ok (.obj [("candles", .arr [minuteRow
    (if (params.get "end").text = "60" then "60" else "120")])])

theorem rowValue_one {row : Dict} {name : String} (h : rowItem row name = .ok (.str "1")) :
    rowValue row name = .ok (.finite ⟨1, 0⟩) := by
  have hone : decimalOfText (Json.str "1").text = some (.finite ⟨1, 0⟩) := by decide +kernel
  unfold rowValue
  rw [h, ok_bind]
  unfold rowNumeral
  rw [hone]

theorem read_minute {start : String} {seconds : ℤ} (h : candleSeconds (minuteRow start) = .ok seconds)
    (htime : fromTimestamp seconds = .ok (Timestamp.ofSeconds seconds)) :
    readCandles [("candles", .arr [minuteRow start])] = .ok [(minute start seconds).candle] := by
  have hrow : readCandle (minuteRow start) = .ok (minute start seconds).candle := by
    have hbucket : candleTime seconds = .ok (Timestamp.ofSeconds seconds) := by
      unfold candleTime
      rw [htime]
    change (candleSeconds (minuteRow start) >>= fun seconds => candleTime seconds >>= fun bucketAt =>
      _) = _
    rw [h, ok_bind, hbucket, ok_bind, rowValue_one rfl, rowValue_one rfl, rowValue_one rfl,
      rowValue_one rfl, rowValue_one rfl]
    rfl
  change (List.mapM readCandle [minuteRow start] >>= fun rows => _) = _
  rw [List.mapM_cons, hrow]
  rfl

/-- The candles of the first three minutes. -/
def threeMinutes : List Offered := [minute "0" 0, minute "60" 60, minute "120" 120]

theorem minutes_offers : Offers (coinbase "ONE_MINUTE") minutes 0 120000000 threeMinutes where
  time c hc := by
    simp only [threeMinutes, List.mem_cons, List.not_mem_nil, or_false] at hc
    rcases hc with rfl | rfl | rfl
    · rfl
    · rfl
    · rfl
  distinct := by decide
  answers window hwindow := by
    have hwindows : candleWindows 0 120000000 minutes.intervalSeconds minutes.maxCandles =
        [.ok (0, 60000000), .ok (60000000, 120000000)] := by decide +kernel
    have h0 : wholeSeconds 0 = 0 := by decide +kernel
    have h1 : wholeSeconds 60000000 = 60 := by decide +kernel
    have h2 : wholeSeconds 120000000 = 120 := by decide +kernel
    rw [hwindows] at hwindow
    simp only [List.mem_cons, List.not_mem_nil, or_false, Except.ok.injEq] at hwindow
    dsimp only [coinbase]
    rcases hwindow with rfl | rfl
    · rw [h0, h1]
      exact ⟨_, _, _, rfl, rfl, read_minute rfl (by decide +kernel), List.Perm.refl _⟩
    · rw [h1, h2]
      exact ⟨_, _, _, rfl, rfl, read_minute rfl (by decide +kernel), List.Perm.refl _⟩

theorem backfill_complete_iff_sample :
    StoresExactly ⟨[], [], {}⟩ ((coinbase "ONE_MINUTE").expected minutes 0 120000000 threeMinutes)
        (backfillCoinbaseCandles minutes 0 120000000 ⟨[], [], {}⟩) ↔
      NothingLost (coinbase "ONE_MINUTE") minutes 0 120000000 threeMinutes :=
  (backfill_complete_iff minutes threeMinutes ⟨[], [], {}⟩ (by decide)
    fun row hrow => (nomatch hrow)).2 "ONE_MINUTE" (by decide +kernel) (by decide +kernel)
    minutes_offers

/-- A window ends with the first candle of the next one, which takes the place of its own: the run ends
and stores nothing, where the two candles of its window are to be stored. -/
theorem backfill_loses_candles :
    Offers (coinbase "ONE_MINUTE") minutes 0 120000000 threeMinutes ∧
      ((coinbase "ONE_MINUTE").expected minutes 0 120000000 threeMinutes).length = 2 ∧
      ¬ StoresExactly ⟨[], [], {}⟩
        ((coinbase "ONE_MINUTE").expected minutes 0 120000000 threeMinutes)
        (backfillCoinbaseCandles minutes 0 120000000 ⟨[], [], {}⟩) := by
  have hlength : ((coinbase "ONE_MINUTE").expected minutes 0 120000000 threeMinutes).length = 2 := rfl
  refine ⟨minutes_offers, hlength, ?_⟩
  have hnothing : (match backfillCoinbaseCandles minutes 0 120000000 ⟨[], [], {}⟩ with
      | .ok after => after.table.length
      | .error _ => 0) = 0 := by decide +kernel
  rintro ⟨after, new, hafter, htable, hnew⟩
  rw [hafter] at hnothing
  have htwo := hnew.length_eq
  rw [List.length_map, hlength] at htwo
  have hadded : after.table.length = new.length := by
    rw [htable]
    rfl
  dsimp only at hnothing
  omega

end BpEngine.Backfill
