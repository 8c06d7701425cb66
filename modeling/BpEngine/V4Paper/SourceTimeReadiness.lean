import BpEngine.V4Paper.SourceTimeAgree
import BpEngine.V4Paper.SourceTimeFeatures

/-!
# The probe and the builder agree

When the builder makes features, the probe reads the same prices at the start of the market and at the
decision, so that both have the same flags of the core sources and the same evidence.

* `priceAt` is the price that a reader reads; `candidatesOf_prefetched` says that what else is fetched
  ahead does not matter.
* `get?_mergeGroups`: a flag of a group is a flag of the features.
* `readiness_agrees` is about every table, every target and every reader.
-/

namespace BpEngine.V4Paper.SourceTime

open BpEngine.Execution
open BpEngine.Features (FeatureGroup Value Venue ShortAnchorSet RegimeAnchorSet stateGroup
  shortReturnGroup regimeReturnGroup)
open BpEngine.Prospective (Arithmetic)
open BpEngine.Storage (RawRow)

variable {F : Type} (A : Arithmetic F) {connection : Connection}
  {reader after other : V4SourceTimeReader} {α β : Type}

/-! ## Reads that return -/

theorem Reading.bind_eq_ok {m : Reading α} {f : α → Reading β} {b : β} :
    (m >>= f) reader = (.ok b, after) ↔
      ∃ a middle, m reader = (.ok a, middle) ∧ f a middle = (.ok b, after) := by
  rw [Reading.bind_apply]
  rcases m reader with ⟨raised | a, middle⟩
  · constructor
    · intro h
      exact nomatch congrArg Prod.fst h
    · rintro ⟨a, _, h, -⟩
      exact nomatch congrArg Prod.fst h
  · constructor
    · intro h
      exact ⟨a, middle, rfl, h⟩
    · rintro ⟨_, _, h, hf⟩
      cases h
      exact hf

theorem Reading.of_eq_ok {outcome : Outcome α} {a : α} :
    Reading.of outcome reader = (.ok a, after) ↔ outcome = .ok a ∧ after = reader := by
  constructor
  · intro h
    exact ⟨congrArg Prod.fst h, (congrArg Prod.snd h).symm⟩
  · rintro ⟨rfl, rfl⟩
    rfl

theorem Reading.pure_eq_ok {a b : α} :
    (pure a : Reading α) reader = (.ok b, after) ↔ a = b ∧ after = reader := by
  constructor
  · intro h
    exact ⟨Except.ok.inj (congrArg Prod.fst h), (congrArg Prod.snd h).symm⟩
  · rintro ⟨rfl, rfl⟩
    rfl

/-- The price that a reader reads of a venue. -/
def priceAt (connection : Connection) (reader : V4SourceTimeReader) (venue : VenueSpec)
    (requested : Timestamp) (includeLinearTickerState : Bool) : Outcome PriceRead :=
  latestPriceFrom A reader.limits (candidatesOf connection reader) venue.source venue.stream
    venue.instrument requested includeLinearTickerState

theorem priceAt_learned (h : Learned connection reader after) (venue : VenueSpec)
    (requested : Timestamp) (includeLinearTickerState : Bool) :
    priceAt A connection after venue requested includeLinearTickerState =
      priceAt A connection reader venue requested includeLinearTickerState := by
  have hcandidates : candidatesOf connection after = candidatesOf connection reader :=
    funext (candidatesOf_learned h)
  unfold priceAt
  rw [h.limits, hcandidates]

theorem gives_priceAt (venue : VenueSpec) (requested : Timestamp)
    (includeLinearTickerState : Bool) :
    Gives connection reader
      (latestPrice A connection venue.source venue.stream venue.instrument requested
        includeLinearTickerState)
      (priceAt A connection reader venue requested includeLinearTickerState) :=
  gives_latestPrice A venue.source venue.stream venue.instrument requested includeLinearTickerState

section Anchors

variable {venue : VenueSpec} {key : String} {ofTicker : Bool} {requested : Timestamp}
  {includeLinearTickerState : Bool}

theorem readAnchor_of_price {price : PriceRead}
    (h : priceAt A connection reader venue requested includeLinearTickerState = .ok price) :
    ∃ after, readAnchor A connection venue key ofTicker requested includeLinearTickerState reader =
      (.ok ⟨key, ofTicker, price⟩, after) ∧ Learned connection reader after := by
  obtain ⟨hresult, hlearned⟩ : Gives connection reader _ _ :=
    gives_priceAt A venue requested includeLinearTickerState
  rw [h] at hresult
  refine ⟨_, Reading.bind_eq_ok.mpr ⟨price, _, Prod.ext hresult rfl, rfl⟩, hlearned⟩

theorem readAnchor_eq_ok {read : AnchorRead}
    (h : readAnchor A connection venue key ofTicker requested includeLinearTickerState reader =
      (.ok read, after)) :
    (∃ price, priceAt A connection reader venue requested includeLinearTickerState = .ok price ∧
      read = ⟨key, ofTicker, price⟩) ∧ Learned connection reader after := by
  obtain ⟨price, middle, hprice, hread⟩ := Reading.bind_eq_ok.mp h
  obtain ⟨rfl, rfl⟩ := Reading.pure_eq_ok.mp hread
  obtain ⟨hresult, hlearned⟩ : Gives connection reader _ _ :=
    gives_priceAt A venue requested includeLinearTickerState
  rw [hprice] at hresult hlearned
  exact ⟨⟨price, hresult.symm, rfl⟩, hlearned⟩

end Anchors

/-! ## The price with and without the ticker -/

/-- What the flags and the evidence take from a price. -/
structure SameAnchor (price other : PriceRead) : Prop where
  missing : price.1.isNone = other.1.isNone
  fresh : ∀ state, price.1 = some state ∨ other.1 = some state → state.observation.fresh = true
  evidence : price.2.head? = other.2.head?

/-- Reading the ticker too adds to what is read and changes nothing of it. -/
theorem sameAnchor_of_ticker {limits : SourceLimits} {source stream instrument : String}
    {requested : Timestamp} {includeLinearTickerState : Bool}
    {rowsFor rowsFor' : CandidateKey → Outcome (List RawRow)} {price : PriceRead}
    (hrows : rowsFor' ⟨source, stream, instrument, requested, false⟩ =
      rowsFor ⟨source, stream, instrument, requested, false⟩)
    (h : latestPriceFrom A limits rowsFor source stream instrument requested
      includeLinearTickerState = .ok price) :
    ∃ plain, latestPriceFrom A limits rowsFor' source stream instrument requested false = .ok plain ∧
      SameAnchor plain price := by
  unfold latestPriceFrom at h ⊢
  obtain ⟨rows, hread, hrest⟩ := bind_eq_ok.mp h
  rw [hrows, hread, ok_bind]
  cases hchosen : minBy (fun a b => ranksBefore A a.1 b.1)
      (priceCandidates limits source requested rows) with
  | none =>
    rw [hchosen] at hrest
    obtain rfl := Except.ok.inj hrest
    refine ⟨_, rfl, rfl, fun state hstate => ?_, rfl⟩
    rcases hstate with hstate | hstate <;> exact nomatch hstate
  | some chosen =>
    rw [hchosen] at hrest
    refine ⟨_, rfl, ?_⟩
    have hobserved : ∃ ticker, price = observed source stream instrument chosen ticker := by
      cases includeLinearTickerState with
      | false => exact ⟨none, (Except.ok.inj hrest).symm⟩
      | true =>
        obtain ⟨tickers, -, hlast⟩ := bind_eq_ok.mp hrest
        exact ⟨_, (Except.ok.inj hlast).symm⟩
    obtain ⟨ticker, rfl⟩ := hobserved
    refine ⟨rfl, fun state hstate => ?_, rfl⟩
    rcases hstate with hstate | hstate <;> exact Option.some.inj hstate ▸ rfl

/-! ## What was fetched ahead -/

/-- What a request gets that was fetched ahead. -/
theorem candidatesOf_prefetched {requests : List CandidateKey} {key : CandidateKey}
    (hok : (prefetchCandidateRows connection requests reader).1 = .ok ()) (hkey : key ∈ requests) :
    candidatesOf connection (prefetchCandidateRows connection requests reader).2 key =
      if reader.byHour connection then
        .ok (aheadRows connection (reader.known connection) reader.limits key)
      else selectCandidateRows connection reader.limits key := by
  obtain ⟨hbeliefs, -, hleft⟩ := prefetchCandidateRows_spec connection reader requests
  have hlookup := hleft hok key
  unfold candidatesOf
  rw [hlookup, hbeliefs.partitioned, hbeliefs.limits]
  cases hbyHour : reader.byHour connection with
  | true => rw [if_pos ⟨rfl, hkey⟩, if_pos rfl]
  | false =>
    rw [if_neg fun h => Bool.false_ne_true h.1, if_neg Bool.false_ne_true]
    exact if_neg fun h => Bool.false_ne_true (hbyHour.symm.trans h)

/-- It does not depend on what else was. -/
theorem candidatesOf_prefetched_same {requests requests' : List CandidateKey} {key : CandidateKey}
    (hsame : SameBeliefs connection reader other)
    (hok : (prefetchCandidateRows connection requests reader).1 = .ok ())
    (hok' : (prefetchCandidateRows connection requests' other).1 = .ok ()) (hkey : key ∈ requests)
    (hkey' : key ∈ requests') :
    candidatesOf connection (prefetchCandidateRows connection requests reader).2 key =
      candidatesOf connection (prefetchCandidateRows connection requests' other).2 key := by
  have hbyHour : other.byHour connection = reader.byHour connection := by
    unfold V4SourceTimeReader.byHour
    rw [hsame.partitioned]
  rw [candidatesOf_prefetched hok hkey, candidatesOf_prefetched hok' hkey', hbyHour, hsame.known,
    hsame.limits]

/-- Some of the requests can be fetched ahead when all of them can. -/
theorem prefetch_of_subset {requests requests' : List CandidateKey}
    (hsame : SameBeliefs connection reader other) (hsub : ∀ key ∈ requests, key ∈ requests')
    (hok : (prefetchCandidateRows connection requests' other).1 = .ok ()) :
    (prefetchCandidateRows connection requests reader).1 = .ok () := by
  have hiff := (prefetchCandidateRows_spec connection other requests').2.1.mp hok
  refine (prefetchCandidateRows_spec connection reader requests).2.1.mpr fun hbyHour key hkey => ?_
  have hbyHour' : other.byHour connection = true := by
    unfold V4SourceTimeReader.byHour at hbyHour ⊢
    rw [hsame.partitioned]
    exact hbyHour
  have hahead := hiff hbyHour' key (hsub key hkey)
  rw [hsame.known, hsame.limits] at hahead
  exact hahead

/-! ## Merging -/

theorem get?_putUnique {kind : String} {target merged : OrderedDict String α} {entry : String × α}
    (h : putUnique kind target entry = .ok merged) :
    merged.get? entry.1 = some entry.2 ∧
      ∀ key value, target.get? key = some value → merged.get? key = some value := by
  obtain ⟨_, hnew, hmerged⟩ := bind_eq_ok.mp h
  have hnone : target.get? entry.1 = none := Option.isNone_iff_eq_none.mp (require_eq_ok.mp hnew)
  obtain rfl := Except.ok.inj hmerged
  refine ⟨OrderedDict.get?_set_self _ _ _, fun key value hvalue => ?_⟩
  rw [OrderedDict.get?_set_of_ne]
  · exact hvalue
  · rintro rfl
    rw [hnone] at hvalue
    exact nomatch hvalue

/-- What was there stays, and what is put is there. -/
theorem get?_foldlM_putUnique {kind : String} {entries : List (String × α)}
    {target merged : OrderedDict String α}
    (h : entries.foldlM (putUnique kind) target = .ok merged) :
    (∀ key value, target.get? key = some value → merged.get? key = some value) ∧
      ∀ entry ∈ entries, merged.get? entry.1 = some entry.2 := by
  induction entries generalizing target with
  | nil =>
    obtain rfl := Except.ok.inj h
    exact ⟨fun _ _ hvalue => hvalue, fun _ hentry => (nomatch hentry)⟩
  | cons entry rest ih =>
    rw [List.foldlM_cons] at h
    obtain ⟨next, hnext, hrest⟩ := bind_eq_ok.mp h
    obtain ⟨hput, hkept⟩ := get?_putUnique hnext
    obtain ⟨hold, hnew⟩ := ih hrest
    refine ⟨fun key value hvalue => hold key value (hkept key value hvalue), fun item hitem => ?_⟩
    rcases List.mem_cons.mp hitem with rfl | hmem
    · exact hold _ _ hput
    · exact hnew item hmem

/-- **A flag of a group is a flag of the features.** -/
theorem get?_mergeGroups {groups : List (FeatureGroup F)} {merged start : MergedGroups F}
    (h : groups.foldlM mergeGroup start = .ok merged) :
    (∀ key flag, start.missing.get? key = some flag → merged.missing.get? key = some flag) ∧
      ∀ group ∈ groups, ∀ flag ∈ group.missingFlags, merged.missing.get? flag.1 = some flag.2 := by
  induction groups generalizing start with
  | nil =>
    obtain rfl := Except.ok.inj h
    exact ⟨fun _ _ hflag => hflag, fun _ hgroup => (nomatch hgroup)⟩
  | cons group rest ih =>
    rw [List.foldlM_cons] at h
    obtain ⟨next, hnext, hrest⟩ := bind_eq_ok.mp h
    obtain ⟨values, -, hmissing⟩ := bind_eq_ok.mp hnext
    obtain ⟨missing, hflags, hcutoffs⟩ := bind_eq_ok.mp hmissing
    obtain ⟨cutoffs, -, hlast⟩ := bind_eq_ok.mp hcutoffs
    obtain rfl := Except.ok.inj hlast
    obtain ⟨hkept, hput⟩ := get?_foldlM_putUnique hflags
    obtain ⟨hold, hnew⟩ := ih hrest
    refine ⟨fun key flag hflag => hold key flag (hkept key flag hflag), fun item hitem => ?_⟩
    rcases List.mem_cons.mp hitem with rfl | hmem
    · exact fun flag hflag => hold _ _ (hput flag hflag)
    · exact hnew item hmem

/-! ## Evidence and flags of what was read -/

/-- The evidence of an anchor is under keys that begin with its own; the first item is under it. -/
theorem mem_evidence {read : AnchorRead} {entry : String × SourceTimeEventEvidence}
    (h : entry ∈ read.evidence) :
    read.key.toList <+: entry.1.toList ∧
      (entry.1 = read.key → read.price.2.head? = some entry.2) := by
  obtain ⟨item, hitem, rfl⟩ := List.mem_map.mp h
  refine ⟨?_, fun hkey => ?_⟩
  · rw [String.toList_append]
    exact List.prefix_append _ _
  · have hempty : (if item.2 = 0 then "" else if read.ofTicker then "_ticker"
        else "_" ++ toString item.2) = "" := by
      have hlist := congrArg String.toList hkey
      rw [String.toList_append, List.append_right_eq_self] at hlist
      exact String.toList_eq_nil_iff.mp hlist
    have hzero : item.2 = 0 := by
      by_contra hne
      rw [if_neg hne] at hempty
      have hlist := congrArg String.toList hempty
      split_ifs at hlist with hticker
      · exact absurd hlist (by decide)
      · rw [String.toList_append] at hlist
        exact absurd hlist (by simp)
    have hget := List.mem_zipIdx_iff_getElem?.mp hitem
    rw [hzero] at hget
    rw [List.head?_eq_getElem?]
    exact hget

theorem head_mem_evidence {read : AnchorRead} {evidence : SourceTimeEventEvidence}
    (h : read.price.2.head? = some evidence) : (read.key, evidence) ∈ read.evidence := by
  rw [List.head?_eq_getElem?] at h
  refine List.mem_map.mpr ⟨(evidence, 0), List.mem_zipIdx_iff_getElem?.mpr h, ?_⟩
  rw [if_pos rfl, String.append_empty]

/-- The names of the anchors are different, and the one of `key` continues no other. -/
structure KeyAlone (keys : List String) (key : String) : Prop where
  nodup : keys.Nodup
  alone : ∀ other ∈ keys, other.toList <+: key.toList → other = key

/-- **The evidence under the name of an anchor** is the first of the anchor. -/
theorem get?_sourceEvidence {reads : List AnchorRead} {read : AnchorRead} (hread : read ∈ reads)
    (hkey : KeyAlone (reads.map AnchorRead.key) read.key) :
    (sourceEvidence reads).get? read.key = read.price.2.head? := by
  have hown : ∀ evidence, (read.key, evidence) ∈ reads.flatMap AnchorRead.evidence →
      read.price.2.head? = some evidence := by
    intro evidence hmem
    obtain ⟨other, hother, hentry⟩ := List.mem_flatMap.mp hmem
    obtain ⟨hstart, hfirst⟩ := mem_evidence hentry
    have hsame := hkey.alone other.key (List.mem_map_of_mem hother) hstart
    obtain rfl := List.inj_on_of_nodup_map hkey.nodup hother hread hsame
    exact hfirst rfl
  unfold sourceEvidence
  cases hhead : read.price.2.head? with
  | none =>
    refine OrderedDict.get?_ofPairs_eq_none fun evidence hmem => ?_
    rw [hown evidence hmem] at hhead
    exact nomatch hhead
  | some evidence =>
    refine OrderedDict.get?_ofPairs_of_mem ?_ fun other hmem => ?_
    · exact List.mem_flatMap.mpr ⟨read, hread, head_mem_evidence hhead⟩
    · exact Option.some.inj ((hown other hmem).symm.trans hhead)

/-- The flags that are set after others, under different keys, are what their keys hold. -/
theorem get?_flags {initial flags : List (String × Bool)} (hnodup : (flags.map Prod.fst).Nodup)
    {flag : String × Bool} (hflag : flag ∈ flags) :
    (OrderedDict.ofPairs (initial ++ flags)).get? flag.1 = some flag.2 := by
  refine OrderedDict.get?_ofPairs_append hflag fun other hother => ?_
  exact congrArg Prod.snd (List.inj_on_of_nodup_map hnodup hother hflag rfl)

theorem map_fst_flags (reads : List AnchorRead) :
    (reads.flatMap AnchorRead.flags).map Prod.fst =
      (reads.map AnchorRead.key).flatMap fun key => [key ++ "_missing", key ++ "_stale"] := by
  rw [List.map_flatMap, List.flatMap_map]
  rfl

/-! ## Venues -/

/-- The names of the anchors of a venue, in the order they are read. -/
def VenueSpec.keys (venue : VenueSpec) : List String :=
  ["market_start", "trailing_120s", "trailing_60s", "trailing_30s", "current"].map
      (venue.name ++ "_" ++ ·) ++
    ["trailing_60m", "trailing_15m", "trailing_5m"].map (venue.name ++ "_regime_" ++ ·)

/-- An anchor that was read as a price of the venue. -/
structure IsRead (connection : Connection) (reader : V4SourceTimeReader) (venue : VenueSpec)
    (name : String) (requested : Timestamp) (read : AnchorRead) : Prop where
  key : read.key = venue.name ++ "_" ++ name
  price : ∃ includeLinearTickerState,
    priceAt A connection reader venue requested includeLinearTickerState = .ok read.price

/-- What the builder has of a venue. -/
structure VenueReads (connection : Connection) (reader : V4SourceTimeReader) (times : AnchorTimes)
    (venue : VenueSpec) (read : SourceVenue F) (marketStart current : AnchorRead) : Prop where
  keys : read.reads.map AnchorRead.key = venue.keys
  start_mem : marketStart ∈ read.reads
  current_mem : current ∈ read.reads
  start_read : IsRead A connection reader venue "market_start" times.marketStart marketStart
  current_read : IsRead A connection reader venue "current" times.current current
  flags : ∀ flag ∈ marketStart.flags ++ current.flags,
    flag ∈ read.venue.shortGroup.missingFlags

theorem missingFlags_shortReturnGroup {name : String} {short : ShortAnchorSet}
    {group : FeatureGroup F} (h : shortReturnGroup A.toFloats name short = .ok group) :
    group.missingFlags = [("market_start", short.marketStart), ("trailing_120s", short.trailing120s),
      ("trailing_60s", short.trailing60s), ("trailing_30s", short.trailing30s),
      ("current", short.current)].flatMap fun item =>
        [(name ++ "_" ++ item.1 ++ "_missing", item.2.isNone),
          (name ++ "_" ++ item.1 ++ "_stale", item.2.any fun state => !state.observation.fresh)] := by
  obtain ⟨_, -, hrest⟩ := bind_eq_ok.mp h
  obtain ⟨_, -, hrest⟩ := bind_eq_ok.mp hrest
  obtain ⟨_, -, hrest⟩ := bind_eq_ok.mp hrest
  obtain ⟨_, -, hrest⟩ := bind_eq_ok.mp hrest
  obtain ⟨_, -, hlast⟩ := bind_eq_ok.mp hrest
  rw [← Except.ok.inj hlast]
  rfl

theorem readSourceVenue_eq_ok {times : AnchorTimes} {venue : VenueSpec} {read : SourceVenue F}
    (h : readSourceVenue A connection times venue reader = (.ok read, after)) :
    (∃ marketStart current, VenueReads A connection reader times venue read marketStart current) ∧
      Learned connection reader after := by
  obtain ⟨start, r1, hstart, h⟩ := Reading.bind_eq_ok.mp h
  obtain ⟨of120s, r2, h120s, h⟩ := Reading.bind_eq_ok.mp h
  obtain ⟨of60s, r3, h60s, h⟩ := Reading.bind_eq_ok.mp h
  obtain ⟨of30s, r4, h30s, h⟩ := Reading.bind_eq_ok.mp h
  obtain ⟨current, r5, hcurrent, h⟩ := Reading.bind_eq_ok.mp h
  obtain ⟨group, r6, hgroup, h⟩ := Reading.bind_eq_ok.mp h
  obtain ⟨of60m, r7, h60m, h⟩ := Reading.bind_eq_ok.mp h
  obtain ⟨of15m, r8, h15m, h⟩ := Reading.bind_eq_ok.mp h
  obtain ⟨of5m, r9, h5m, h⟩ := Reading.bind_eq_ok.mp h
  obtain ⟨regime, r10, hregime, h⟩ := Reading.bind_eq_ok.mp h
  obtain ⟨rfl, rfl⟩ := Reading.pure_eq_ok.mp h
  obtain ⟨⟨pstart, hpstart, rfl⟩, l1⟩ := readAnchor_eq_ok A hstart
  obtain ⟨⟨p120s, -, rfl⟩, l2⟩ := readAnchor_eq_ok A h120s
  obtain ⟨⟨p60s, -, rfl⟩, l3⟩ := readAnchor_eq_ok A h60s
  obtain ⟨⟨p30s, -, rfl⟩, l4⟩ := readAnchor_eq_ok A h30s
  obtain ⟨⟨pcurrent, hpcurrent, rfl⟩, l5⟩ := readAnchor_eq_ok A hcurrent
  obtain ⟨hshort, rfl⟩ := Reading.of_eq_ok.mp hgroup
  obtain ⟨⟨p60m, -, rfl⟩, l7⟩ := readAnchor_eq_ok A h60m
  obtain ⟨⟨p15m, -, rfl⟩, l8⟩ := readAnchor_eq_ok A h15m
  obtain ⟨⟨p5m, -, rfl⟩, l9⟩ := readAnchor_eq_ok A h5m
  obtain ⟨-, rfl⟩ := Reading.of_eq_ok.mp hregime
  have hbefore := ((l1.trans l2).trans l3).trans l4
  rw [priceAt_learned A hbefore] at hpcurrent
  have hflags := missingFlags_shortReturnGroup A hshort
  refine ⟨⟨⟨venue.name ++ "_" ++ "market_start", true, pstart⟩,
    ⟨venue.name ++ "_" ++ "current", true, pcurrent⟩, rfl, List.mem_cons_self, ?_,
    ⟨rfl, _, hpstart⟩, ⟨rfl, _, hpcurrent⟩, ?_⟩, (((hbefore.trans l5).trans l7).trans l8).trans l9⟩
  · exact .tail _ (.tail _ (.tail _ (.tail _ (.head _))))
  · intro flag hflag
    show flag ∈ group.missingFlags
    rw [hflags, List.mem_flatMap]
    rcases List.mem_append.mp hflag with hflag | hflag
    · exact ⟨_, List.mem_cons_self, hflag⟩
    · exact ⟨_, .tail _ (.tail _ (.tail _ (.tail _ (.head _)))), hflag⟩

theorem VenueReads.of_learned {times : AnchorTimes} {venue : VenueSpec} {read : SourceVenue F}
    {marketStart current : AnchorRead} (hlearned : Learned connection reader after)
    (h : VenueReads A connection after times venue read marketStart current) :
    VenueReads A connection reader times venue read marketStart current := by
  obtain ⟨hkeys, hstart, hcurrent, ⟨hskey, _, hsprice⟩, ⟨hckey, _, hcprice⟩, hflags⟩ := h
  rw [priceAt_learned A hlearned] at hsprice hcprice
  exact ⟨hkeys, hstart, hcurrent, ⟨hskey, _, hsprice⟩, ⟨hckey, _, hcprice⟩, hflags⟩

/-- Prices that are the same to the flags have the same flags. -/
theorem flags_eq {key : String} {price : PriceRead} {read : AnchorRead}
    (h : SameAnchor price read.price) (hkey : read.key = key) (ofTicker : Bool) :
    AnchorRead.flags ⟨key, ofTicker, price⟩ = read.flags := by
  have hfresh : ∀ shown : PriceRead, (shown = price ∨ shown = read.price) →
      (shown.1.any fun state => !state.observation.fresh) = false := by
    intro shown hshown
    cases hstate : shown.1 with
    | none => rfl
    | some state =>
      have hof : price.1 = some state ∨ read.price.1 = some state := by
        rcases hshown with rfl | rfl
        · exact .inl hstate
        · exact .inr hstate
      simp [h.fresh state hof]
  unfold AnchorRead.flags
  rw [hfresh price (.inl rfl), hfresh read.price (.inr rfl), h.missing, hkey]

theorem probeVenue_of_prices {times : TargetTimes} {venue : VenueSpec} {start current : PriceRead}
    (hstart : priceAt A connection reader venue times.start false = .ok start)
    (hcurrent : priceAt A connection reader venue times.decision false = .ok current) :
    ∃ after, probeVenue A connection times venue reader =
      (.ok [⟨venue.name ++ "_" ++ "market_start", false, start⟩,
        ⟨venue.name ++ "_" ++ "current", false, current⟩], after) ∧
      Learned connection reader after := by
  obtain ⟨middle, hfirst, hlearned⟩ := readAnchor_of_price A hstart
  rw [← priceAt_learned A hlearned] at hcurrent
  obtain ⟨after, hsecond, hlast⟩ := readAnchor_of_price A hcurrent
  refine ⟨after, ?_, hlearned.trans hlast⟩
  exact Reading.bind_eq_ok.mpr ⟨_, middle, hfirst, Reading.bind_eq_ok.mpr ⟨_, after, hsecond, rfl⟩⟩

/-! ## Agreement -/

/-- The requests of the probe. -/
def coreRequests (times : TargetTimes) : List CandidateKey :=
  venueSpecs.flatMap fun venue =>
    [venue.request times.start false, venue.request times.decision false]

theorem anchorTimes_eq_ok {times : TargetTimes} {anchors : AnchorTimes}
    (h : anchorTimes times = .ok anchors) :
    anchors.marketStart = times.start ∧ anchors.current = times.decision := by
  obtain ⟨_, -, hrest⟩ := bind_eq_ok.mp h
  obtain ⟨_, -, hrest⟩ := bind_eq_ok.mp hrest
  obtain ⟨_, -, hrest⟩ := bind_eq_ok.mp hrest
  obtain ⟨_, -, hrest⟩ := bind_eq_ok.mp hrest
  obtain ⟨_, -, hrest⟩ := bind_eq_ok.mp hrest
  obtain ⟨_, -, hlast⟩ := bind_eq_ok.mp hrest
  rw [← Except.ok.inj hlast]
  exact ⟨rfl, rfl⟩

/-- The builder asks for what the probe asks for. -/
theorem coreRequests_subset {times : TargetTimes} {anchors : AnchorTimes}
    (h : anchorTimes times = .ok anchors) :
    ∀ key ∈ coreRequests times, key ∈ venueSpecs.flatMap anchors.requests := by
  obtain ⟨hstart, hcurrent⟩ := anchorTimes_eq_ok h
  intro key hkey
  obtain ⟨venue, hvenue, hkey⟩ := List.mem_flatMap.mp hkey
  refine List.mem_flatMap.mpr ⟨venue, hvenue, List.mem_append_left _ (List.mem_map.mpr ?_)⟩
  rcases List.mem_cons.mp hkey with rfl | hkey
  · exact ⟨anchors.marketStart, by simp, by rw [hstart]⟩
  · rw [List.mem_singleton.mp hkey]
    exact ⟨anchors.current, by simp, by rw [hcurrent]⟩

/-- What the probe reads of a venue of which the builder made features. -/
theorem exists_plain {times : TargetTimes} {requests : List CandidateKey} {venue : VenueSpec}
    {name : String} {requested : Timestamp} {read : AnchorRead}
    (hsame : SameBeliefs connection reader other)
    (hok : (prefetchCandidateRows connection (coreRequests times) reader).1 = .ok ())
    (hok' : (prefetchCandidateRows connection requests other).1 = .ok ())
    (hkey : venue.request requested false ∈ coreRequests times)
    (hkey' : venue.request requested false ∈ requests)
    (h : IsRead A connection (prefetchCandidateRows connection requests other).2 venue name requested
      read) :
    ∃ plain, priceAt A connection (prefetchCandidateRows connection (coreRequests times) reader).2
        venue requested false = .ok plain ∧ SameAnchor plain read.price := by
  obtain ⟨-, _, hprice⟩ := h
  have hlimits : (prefetchCandidateRows connection requests other).2.limits =
      (prefetchCandidateRows connection (coreRequests times) reader).2.limits := by
    rw [(prefetchCandidateRows_spec connection other requests).1.limits,
      (prefetchCandidateRows_spec connection reader (coreRequests times)).1.limits, hsame.limits]
  unfold priceAt at hprice ⊢
  rw [hlimits] at hprice
  exact sameAnchor_of_ticker A (candidatesOf_prefetched_same hsame hok hok' hkey hkey') hprice

/-- The probe and the builder say the same. -/
structure Agree (readiness : CoreSourceTimeReadiness) (features : SourceTimeV4Features F) : Prop where
  flags : ∀ flag ∈ coreSourceRequiredFlags, ∃ value,
    readiness.missingFlags.get? flag = some value ∧ features.missingFlags.get? flag = some value
  ready : coreSourceReady readiness.missingFlags = coreSourceReady features.missingFlags
  evidence : ∀ venue ∈ venueSpecs, ∀ name ∈ ["market_start", "current"],
    readiness.sourceEvidence.get? (venue.name ++ "_" ++ name) =
      features.sourceEvidence.get? (venue.name ++ "_" ++ name)

theorem coreSourceReady_congr {missing missing' : OrderedDict String Bool}
    (h : ∀ flag ∈ coreSourceRequiredFlags, missing.get? flag = missing'.get? flag) :
    coreSourceReady missing = coreSourceReady missing' := by
  unfold coreSourceReady coreSourceIneligibleReasons
  congr 1
  refine List.filter_congr fun flag hflag => ?_
  rw [h flag hflag]

/-- What the probe and the builder read of a venue. -/
structure Paired (venue : VenueSpec) (plain : List AnchorRead) (read : SourceVenue F) : Prop where
  plain_keys : plain.map AnchorRead.key =
    ["market_start", "current"].map (venue.name ++ "_" ++ ·)
  keys : read.reads.map AnchorRead.key = venue.keys
  each : ∀ anchor ∈ plain, ∃ built ∈ read.reads, built.key = anchor.key ∧
    anchor.price.2.head? = built.price.2.head? ∧
    ∀ flag ∈ anchor.flags, flag ∈ read.venue.shortGroup.missingFlags

/-- A venue that the builder read, the probe can read, and it reads the same. -/
theorem exists_paired {times : TargetTimes} {anchors : AnchorTimes} {venue : VenueSpec}
    {read : SourceVenue F} {marketStart current : AnchorRead} {middle : V4SourceTimeReader}
    (hsame : SameBeliefs connection reader other) (hvenue : venue ∈ venueSpecs)
    (hanchors : anchorTimes times = .ok anchors)
    (hok : (prefetchCandidateRows connection (coreRequests times) reader).1 = .ok ())
    (hok' : (prefetchCandidateRows connection (venueSpecs.flatMap anchors.requests) other).1 = .ok ())
    (hreads : VenueReads A connection
      (prefetchCandidateRows connection (venueSpecs.flatMap anchors.requests) other).2 anchors venue
      read marketStart current)
    (hmiddle : Learned connection
      (prefetchCandidateRows connection (coreRequests times) reader).2 middle) :
    ∃ plain after, probeVenue A connection times venue middle = (.ok plain, after) ∧
      Learned connection (prefetchCandidateRows connection (coreRequests times) reader).2 after ∧
      Paired venue plain read := by
  obtain ⟨hstart, hcurrent⟩ := anchorTimes_eq_ok hanchors
  have hsub := coreRequests_subset hanchors
  have hstartCore : venue.request times.start false ∈ coreRequests times :=
    List.mem_flatMap.mpr ⟨venue, hvenue, List.mem_cons_self⟩
  have hcurrentCore : venue.request times.decision false ∈ coreRequests times :=
    List.mem_flatMap.mpr ⟨venue, hvenue, .tail _ (.head _)⟩
  have hstartRead := hreads.start_read
  have hcurrentRead := hreads.current_read
  rw [hstart] at hstartRead
  rw [hcurrent] at hcurrentRead
  obtain ⟨start, hstartPrice, hstartSame⟩ :=
    exists_plain A hsame hok hok' hstartCore (hsub _ hstartCore) hstartRead
  obtain ⟨now, hnowPrice, hnowSame⟩ :=
    exists_plain A hsame hok hok' hcurrentCore (hsub _ hcurrentCore) hcurrentRead
  rw [← priceAt_learned A hmiddle] at hstartPrice hnowPrice
  obtain ⟨after, hprobe, hlearned⟩ := probeVenue_of_prices A hstartPrice hnowPrice
  refine ⟨_, after, hprobe, hmiddle.trans hlearned, rfl, hreads.keys, fun anchor hanchor => ?_⟩
  rcases List.mem_cons.mp hanchor with rfl | hanchor
  · refine ⟨marketStart, hreads.start_mem, hreads.start_read.key, hstartSame.evidence, ?_⟩
    rw [flags_eq hstartSame hreads.start_read.key]
    exact fun flag hflag => hreads.flags flag (List.mem_append_left _ hflag)
  · rw [List.mem_singleton.mp hanchor]
    refine ⟨current, hreads.current_mem, hreads.current_read.key, hnowSame.evidence, ?_⟩
    rw [flags_eq hnowSame hreads.current_read.key]
    exact fun flag hflag => hreads.flags flag (List.mem_append_right _ hflag)

/-- The names of the anchors of the probe, and of the builder. -/
def coreKeys : List String :=
  venueSpecs.flatMap fun venue => ["market_start", "current"].map (venue.name ++ "_" ++ ·)

def builderKeys : List String := venueSpecs.flatMap VenueSpec.keys

theorem coreKeys_flags :
    (coreKeys.flatMap fun key => [key ++ "_missing", key ++ "_stale"]) = coreSourceRequiredFlags := by
  decide +kernel

theorem coreSourceRequiredFlags_nodup : coreSourceRequiredFlags.Nodup := by decide +kernel

theorem coreKeys_alone : ∀ key ∈ coreKeys, KeyAlone coreKeys key := by
  have halone : ∀ key ∈ coreKeys, ∀ other ∈ coreKeys, other.toList <+: key.toList → other = key := by
    decide +kernel
  exact fun key hkey => ⟨by decide +kernel, halone key hkey⟩

theorem builderKeys_alone : ∀ key ∈ coreKeys, KeyAlone builderKeys key := by
  have halone : ∀ key ∈ coreKeys, ∀ other ∈ builderKeys, other.toList <+: key.toList → other = key := by
    decide +kernel
  exact fun key hkey => ⟨by decide +kernel, halone key hkey⟩

/-- The flags and the evidence of paired reads agree. -/
theorem agree_of_paired {readiness : CoreSourceTimeReadiness} {features : SourceTimeV4Features F}
    {plain : List AnchorRead} {built : List AnchorRead}
    (hplain : plain.map AnchorRead.key = coreKeys) (hbuilt : built.map AnchorRead.key = builderKeys)
    (hflags : readiness.missingFlags = OrderedDict.ofPairs
      (coreSourceRequiredFlags.map (fun flag => (flag, false)) ++ plain.flatMap AnchorRead.flags))
    (hevidence : readiness.sourceEvidence = sourceEvidence plain)
    (hevidence' : features.sourceEvidence = sourceEvidence built)
    (heach : ∀ anchor ∈ plain, ∃ other ∈ built, other.key = anchor.key ∧
      anchor.price.2.head? = other.price.2.head? ∧
      ∀ flag ∈ anchor.flags, features.missingFlags.get? flag.1 = some flag.2) :
    Agree readiness features := by
  have hkeys : (plain.flatMap AnchorRead.flags).map Prod.fst = coreSourceRequiredFlags := by
    rw [map_fst_flags, hplain, coreKeys_flags]
  have hnodup : ((plain.flatMap AnchorRead.flags).map Prod.fst).Nodup := by
    rw [hkeys]
    exact coreSourceRequiredFlags_nodup
  have hall : ∀ flag ∈ coreSourceRequiredFlags, ∃ value,
      readiness.missingFlags.get? flag = some value ∧
        features.missingFlags.get? flag = some value := by
    intro flag hflag
    rw [← hkeys] at hflag
    obtain ⟨pair, hpair, rfl⟩ := List.mem_map.mp hflag
    refine ⟨pair.2, ?_, ?_⟩
    · rw [hflags]
      exact get?_flags hnodup hpair
    · obtain ⟨anchor, hanchor, hof⟩ := List.mem_flatMap.mp hpair
      obtain ⟨other, -, -, -, hmissing⟩ := heach anchor hanchor
      exact hmissing pair hof
  refine ⟨hall, coreSourceReady_congr fun flag hflag => ?_, fun venue hvenue name hname => ?_⟩
  · obtain ⟨value, hvalue, hvalue'⟩ := hall flag hflag
    rw [hvalue, hvalue']
  · have hkey : venue.name ++ "_" ++ name ∈ coreKeys :=
      List.mem_flatMap.mpr ⟨venue, hvenue, List.mem_map.mpr ⟨name, hname, rfl⟩⟩
    obtain ⟨anchor, hanchor, heq⟩ := List.mem_map.mp (hplain ▸ hkey)
    obtain ⟨other, hother, hsame, hhead, -⟩ := heach anchor hanchor
    have hfirst : (sourceEvidence plain).get? anchor.key = anchor.price.2.head? :=
      get?_sourceEvidence hanchor (by rw [hplain, heq]; exact coreKeys_alone _ hkey)
    have hsecond : (sourceEvidence built).get? other.key = other.price.2.head? :=
      get?_sourceEvidence hother (by rw [hbuilt, hsame, heq]; exact builderKeys_alone _ hkey)
    rw [hevidence, hevidence', ← heq, hfirst, ← hsame, hsecond, hhead]

/-- A builder that makes features, and the probe with a reader that believes the same. -/
theorem probe_agrees {target : V4FeatureTarget} {decisionAt : DateTime}
    {features : SourceTimeV4Features F} (hsame : SameBeliefs connection reader other)
    (h : buildSourceTimeV4Features A connection target decisionAt other = (.ok features, after)) :
    ∃ readiness last, probeCoreSourceTimeV4Readiness A connection target decisionAt reader =
      (.ok readiness, last) ∧ Agree readiness features := by
  obtain ⟨times, r0, htimes, h⟩ := Reading.bind_eq_ok.mp h
  obtain ⟨geometry, r1, hgeometry, h⟩ := Reading.bind_eq_ok.mp h
  obtain ⟨anchors, r2, hanchors, h⟩ := Reading.bind_eq_ok.mp h
  obtain ⟨u, r3, hprefetch, h⟩ := Reading.bind_eq_ok.mp h
  obtain ⟨coinbase, r4, hcoinbase, h⟩ := Reading.bind_eq_ok.mp h
  obtain ⟨bybitSpot, r5, hspot, h⟩ := Reading.bind_eq_ok.mp h
  obtain ⟨bybitLinear, r6, hlinear, h⟩ := Reading.bind_eq_ok.mp h
  obtain ⟨crossVenue, r7, hcross, h⟩ := Reading.bind_eq_ok.mp h
  obtain ⟨merged, r8, hmerged, h⟩ := Reading.bind_eq_ok.mp h
  obtain ⟨rfl, -⟩ := Reading.pure_eq_ok.mp h
  obtain ⟨htarget, rfl⟩ := Reading.of_eq_ok.mp htimes
  obtain ⟨-, rfl⟩ := Reading.of_eq_ok.mp hgeometry
  obtain ⟨hanchored, rfl⟩ := Reading.of_eq_ok.mp hanchors
  obtain ⟨hgroups, -⟩ := Reading.of_eq_ok.mp hmerged
  have hok' : (prefetchCandidateRows connection (venueSpecs.flatMap anchors.requests) r2).1 = .ok () := by
    rw [hprefetch]
  have hr3 : r3 = (prefetchCandidateRows connection (venueSpecs.flatMap anchors.requests) r2).2 := by
    rw [hprefetch]
  have hok := prefetch_of_subset hsame (coreRequests_subset hanchored) hok'
  obtain ⟨⟨_, _, hcoinbaseReads⟩, l4⟩ := readSourceVenue_eq_ok A hcoinbase
  obtain ⟨⟨_, _, hspotReads⟩, l5⟩ := readSourceVenue_eq_ok A hspot
  obtain ⟨⟨_, _, hlinearReads⟩, l6⟩ := readSourceVenue_eq_ok A hlinear
  have hspotReads' := hspotReads.of_learned A l4
  have hlinearReads' := hlinearReads.of_learned A (l4.trans l5)
  rw [hr3] at hcoinbaseReads hspotReads' hlinearReads'
  obtain ⟨plain1, m1, hprobe1, hm1, pair1⟩ := exists_paired A hsame (.head _) hanchored hok hok'
    hcoinbaseReads (.refl _ _)
  obtain ⟨plain2, m2, hprobe2, hm2, pair2⟩ := exists_paired A hsame (.tail _ (.head _)) hanchored hok
    hok' hspotReads' hm1
  obtain ⟨plain3, m3, hprobe3, hm3, pair3⟩ := exists_paired A hsame (.tail _ (.tail _ (.head _)))
    hanchored hok hok' hlinearReads' hm2
  refine ⟨_, m3, Reading.bind_eq_ok.mpr ⟨times, reader, Reading.of_eq_ok.mpr ⟨htarget, rfl⟩,
    Reading.bind_eq_ok.mpr ⟨(), _, Prod.ext hok rfl, Reading.bind_eq_ok.mpr ⟨plain1, m1, hprobe1,
      Reading.bind_eq_ok.mpr ⟨plain2, m2, hprobe2, Reading.bind_eq_ok.mpr ⟨plain3, m3, hprobe3,
        rfl⟩⟩⟩⟩⟩, ?_⟩
  -- every flag of a venue is in the group of the venue
  have hmissing := (get?_mergeGroups hgroups).2
  have hplain : (plain1 ++ plain2 ++ plain3).map AnchorRead.key = coreKeys := by
    rw [List.map_append, List.map_append, pair1.plain_keys, pair2.plain_keys, pair3.plain_keys]
    rfl
  have hbuilt : (coinbase.reads ++ bybitSpot.reads ++ bybitLinear.reads).map AnchorRead.key =
      builderKeys := by
    rw [List.map_append, List.map_append, pair1.keys, pair2.keys, pair3.keys]
    rfl
  refine agree_of_paired hplain hbuilt rfl rfl rfl fun anchor hanchor => ?_
  rcases List.mem_append.mp hanchor with hanchor | hanchor
  · rcases List.mem_append.mp hanchor with hanchor | hanchor
    · obtain ⟨built, hmem, hkey, hhead, hflags⟩ := pair1.each anchor hanchor
      refine ⟨built, List.mem_append_left _ (List.mem_append_left _ hmem), hkey, hhead, ?_⟩
      exact fun flag hflag => hmissing coinbase.venue.shortGroup (by simp) flag (hflags flag hflag)
    · obtain ⟨built, hmem, hkey, hhead, hflags⟩ := pair2.each anchor hanchor
      refine ⟨built, List.mem_append_left _ (List.mem_append_right _ hmem), hkey, hhead, ?_⟩
      exact fun flag hflag => hmissing bybitSpot.venue.shortGroup (by simp) flag (hflags flag hflag)
  · obtain ⟨built, hmem, hkey, hhead, hflags⟩ := pair3.each anchor hanchor
    refine ⟨built, List.mem_append_right _ hmem, hkey, hhead, ?_⟩
    exact fun flag hflag => hmissing bybitLinear.venue.shortGroup (by simp) flag (hflags flag hflag)

/-! ## The probe keeps the beliefs -/

/-- Whatever the method does, its reader believes what it believed. -/
def Keeps (connection : Connection) (m : Reading α) : Prop :=
  ∀ reader, SameBeliefs connection reader (m reader).2

theorem keeps_of (outcome : Outcome α) : Keeps connection (Reading.of outcome) :=
  fun reader => .refl connection reader

theorem Keeps.bind {m : Reading α} {f : α → Reading β} (h : Keeps connection m)
    (hf : ∀ a, Keeps connection (f a)) : Keeps connection (m >>= f) := by
  intro reader
  rw [Reading.bind_apply]
  have hfirst := h reader
  rcases hm : m reader with ⟨raised | a, middle⟩ <;> rw [hm] at hfirst
  · exact hfirst
  · exact hfirst.trans (hf a middle)

theorem keeps_readAnchor (venue : VenueSpec) (key : String) (ofTicker : Bool)
    (requested : Timestamp) (includeLinearTickerState : Bool) :
    Keeps connection
      (readAnchor A connection venue key ofTicker requested includeLinearTickerState) := by
  have hprice : Keeps connection (latestPrice A connection venue.source venue.stream venue.instrument
      requested includeLinearTickerState) :=
    fun reader => (gives_priceAt A venue requested includeLinearTickerState).learned.toSameBeliefs
  exact hprice.bind fun price => keeps_of (.ok _)

theorem keeps_probeVenue (times : TargetTimes) (venue : VenueSpec) :
    Keeps connection (probeVenue A connection times venue) :=
  (keeps_readAnchor A venue _ _ _ _).bind fun _ =>
    (keeps_readAnchor A venue _ _ _ _).bind fun _ => keeps_of (.ok _)

/-- A probe leaves a reader that believes what it believed, also where it raises. -/
theorem keeps_probe (target : V4FeatureTarget) (decisionAt : DateTime) :
    Keeps connection (probeCoreSourceTimeV4Readiness A connection target decisionAt) := by
  have hprefetch : ∀ requests, Keeps connection (prefetchCandidateRows connection requests) :=
    fun requests reader => (prefetchCandidateRows_spec connection reader requests).1
  refine (keeps_of _).bind fun times => (hprefetch _).bind fun _ => ?_
  refine (keeps_probeVenue A times coinbaseSpec).bind fun _ => ?_
  refine (keeps_probeVenue A times bybitSpotSpec).bind fun _ => ?_
  exact (keeps_probeVenue A times bybitLinearSpec).bind fun _ => keeps_of (.ok _)

/-- **The probe and the builder agree**, on every table, for every target and from every reader: when
the builder, from an equal reader or from the one that the probe leaves, makes features, the probe
returns, and the core flags, the verdict and the evidence of the core anchors are the same. -/
theorem readiness_agrees (connection : Connection) (target : V4FeatureTarget) (decisionAt : DateTime)
    (reader other after : V4SourceTimeReader) (features : SourceTimeV4Features F)
    (hreader : other = reader ∨
      other = (probeCoreSourceTimeV4Readiness A connection target decisionAt reader).2)
    (h : buildSourceTimeV4Features A connection target decisionAt other = (.ok features, after)) :
    ∃ readiness last, probeCoreSourceTimeV4Readiness A connection target decisionAt reader =
      (.ok readiness, last) ∧ Agree readiness features := by
  have hsame : SameBeliefs connection reader other := by
    rcases hreader with rfl | rfl
    · exact .refl connection other
    · exact keeps_probe A target decisionAt reader
  exact probe_agrees A hsame h

/-! ### A market -/

/-- A market of five minutes. -/
def sampleTarget : V4FeatureTarget :=
  ⟨"market", "btc", 300, utcDateTime 1788520500000000, utcDateTime 1788520800000000⟩

/-- The decision about it, after four of them. -/
def sampleDecision : DateTime := utcDateTime 1788520740000000

theorem readiness_agrees_sample :
    ∃ readiness last features after,
      buildSourceTimeV4Features microseconds tickerTables.connection sampleTarget sampleDecision {} =
        (.ok features, after) ∧
      probeCoreSourceTimeV4Readiness microseconds tickerTables.connection sampleTarget
        sampleDecision {} = (.ok readiness, last) ∧
      Agree readiness features := by
  have hbuilt : (buildSourceTimeV4Features microseconds tickerTables.connection sampleTarget
      sampleDecision {}).1.isOk = true := by decide +kernel
  obtain ⟨features, hfeatures⟩ := exists_ok_of_isOk hbuilt
  have hrun : buildSourceTimeV4Features microseconds tickerTables.connection sampleTarget
      sampleDecision {} = (.ok features, _) := Prod.ext hfeatures rfl
  obtain ⟨readiness, last, hprobe, hagree⟩ := readiness_agrees microseconds tickerTables.connection
    sampleTarget sampleDecision {} {} _ features (.inl rfl) hrun
  exact ⟨readiness, last, features, _, hrun, hprobe, hagree⟩

end BpEngine.V4Paper.SourceTime
