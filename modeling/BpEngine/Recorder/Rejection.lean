import BpEngine.Library.Machine
import BpEngine.Recorder.MarketState

/-!
# Messages the reducer rejects

A method of the reducer raises after it has written; nothing takes the writes back.

* `Keeps` says that a level is what a side already has; `applyLevels_state_eq_self` that the levels
  before the one that is refused leave a side as it is exactly when it has each of them.
* `entries_applyLevels_empty`: what they leave of a side that was cleared.
* `Restates` is the condition: the market has been tracked and the event is not newer, and what is
  written before the exception is what is stored.
* `rejected_unchanged_iff`: in every run, each rejected message leaves the reducer unchanged exactly
  when each of them restates what is stored.
-/

namespace BpEngine.Recorder

open BpEngine.Storage (RawEvent)

/-! ## Levels -/

/-- The levels before the first one with a size that is refused. -/
def readable (sent : List (String × String)) : List (String × String) :=
  sent.takeWhile fun level => (isZeroSize level.2).isOk

/-- The size of a level is a number other than zero. -/
def isShown (level : String × String) : Bool :=
  match isZeroSize level.2 with
  | .ok false => true
  | _ => false

/-- The side has the level as it was sent; a level of size zero is not there. -/
def Keeps (side : Levels) (level : String × String) : Prop :=
  side.get? level.1 = if isShown level then some level.2 else none

theorem applyLevel_eq_self {side : Levels} {level : String × String} {zero : Bool}
    (h : isZeroSize level.2 = .ok zero) : applyLevel side level zero = side ↔ Keeps side level := by
  unfold applyLevel Keeps isShown
  rw [h]
  cases zero with
  | false => exact OrderedDict.set_eq_self
  | true => exact OrderedDict.pop_eq_self

theorem get?_applyLevel {side : Levels} {level : String × String} {zero : Bool}
    (h : isZeroSize level.2 = .ok zero) (price : String) :
    (applyLevel side level zero).get? price =
      if level.1 = price then (if isShown level then some level.2 else none)
      else side.get? price := by
  unfold applyLevel isShown
  rw [h]
  cases zero with
  | false => exact OrderedDict.get?_set side level.1 price level.2
  | true => exact OrderedDict.get?_pop side level.1 price

/-- Levels of other prices leave a price alone. -/
theorem get?_applyLevels {side : Levels} {sent : List (String × String)} {price : String}
    (h : price ∉ sent.map Prod.fst) : (applyLevels side sent).state.get? price = side.get? price := by
  induction sent generalizing side with
  | nil => rfl
  | cons level sent ih =>
    rw [List.map_cons, List.mem_cons, not_or] at h
    unfold applyLevels
    cases hzero : isZeroSize level.2 with
    | error raised => rfl
    | ok zero =>
      show (applyLevels (applyLevel side level zero) sent).state.get? price = _
      rw [ih h.2, get?_applyLevel hzero, if_neg (Ne.symm h.1)]

theorem readable_cons {level : String × String} (sent : List (String × String)) {zero : Bool}
    (h : isZeroSize level.2 = .ok zero) : readable (level :: sent) = level :: readable sent := by
  unfold readable
  rw [List.takeWhile_cons, if_pos (by rw [h]; rfl)]

theorem readable_of_error {level : String × String} (sent : List (String × String)) {raised : Raised}
    (h : isZeroSize level.2 = .error raised) : readable (level :: sent) = [] := by
  unfold readable
  rw [List.takeWhile_cons, if_neg (by rw [h]; simp [Except.isOk, Except.toBool])]

/-- The levels that are applied leave a side as it is exactly when it has each of them. -/
theorem applyLevels_state_eq_self {side : Levels} {sent : List (String × String)}
    (h : (sent.map Prod.fst).Nodup) :
    (applyLevels side sent).state = side ↔ ∀ level ∈ readable sent, Keeps side level := by
  induction sent generalizing side with
  | nil => simp [applyLevels, readable]
  | cons level sent ih =>
    rw [List.map_cons, List.nodup_cons] at h
    unfold applyLevels
    cases hzero : isZeroSize level.2 with
    | error raised => simp [given, readable_of_error sent hzero]
    | ok zero =>
      show (applyLevels (applyLevel side level zero) sent).state = side ↔ _
      rw [readable_cons sent hzero, List.forall_mem_cons]
      constructor
      · intro hsame
        -- no later level has this price, so what is written under it is still there
        have hkeeps : Keeps side level := by
          have hprice : (applyLevels (applyLevel side level zero) sent).state.get? level.1 = _ :=
            get?_applyLevels h.1
          rw [hsame, get?_applyLevel hzero, if_pos rfl] at hprice
          exact hprice
        rw [(applyLevel_eq_self hzero).mpr hkeeps] at hsame
        exact ⟨hkeeps, (ih h.2).mp hsame⟩
      · rintro ⟨hkeeps, hrest⟩
        rw [(applyLevel_eq_self hzero).mpr hkeeps]
        exact (ih h.2).mpr hrest

/-- New levels are appended to a side, those of size zero left out. -/
theorem entries_applyLevels {side : Levels} {sent : List (String × String)}
    (h : (sent.map Prod.fst).Nodup) (hnew : ∀ level ∈ sent, side.get? level.1 = none) :
    (applyLevels side sent).state.entries = side.entries ++ (readable sent).filter isShown := by
  induction sent generalizing side with
  | nil => simp [applyLevels, readable]
  | cons level sent ih =>
    rw [List.map_cons, List.nodup_cons] at h
    rw [List.forall_mem_cons] at hnew
    unfold applyLevels
    cases hzero : isZeroSize level.2 with
    | error raised => simp [given, readable_of_error sent hzero]
    | ok zero =>
      show (applyLevels (applyLevel side level zero) sent).state.entries = _
      have hothers : ∀ other ∈ sent, (applyLevel side level zero).get? other.1 = none := by
        intro other hother
        have hne : level.1 ≠ other.1 := fun heq => h.1 (heq ▸ List.mem_map_of_mem hother)
        rw [get?_applyLevel hzero, if_neg hne, hnew.2 other hother]
      rw [ih h.2 hothers, readable_cons sent hzero, List.filter_cons]
      cases zero with
      | false =>
        have hshown : isShown level = true := by simp [isShown, hzero]
        rw [if_pos hshown]
        show (side.set level.1 level.2).entries ++ _ = _
        rw [OrderedDict.entries_set_of_none level.2 hnew.1, List.append_assoc]
        rfl
      | true =>
        have hshown : ¬ isShown level = true := by simp [isShown, hzero]
        rw [if_neg hshown]
        show (side.pop level.1).entries ++ _ = _
        rw [OrderedDict.pop_eq_self.mpr hnew.1]

theorem entries_applyLevels_empty {sent : List (String × String)} (h : (sent.map Prod.fst).Nodup) :
    (applyLevels .empty sent).state.entries = (readable sent).filter isShown := by
  rw [entries_applyLevels h fun _ _ => OrderedDict.get?_empty _]
  rfl

/-- Levels are applied without an exception when all their sizes are read. -/
theorem applyLevels_raised {side : Levels} {sent : List (String × String)} :
    (applyLevels side sent).raised = none ↔ readable sent = sent := by
  induction sent generalizing side with
  | nil => simp [applyLevels, readable]
  | cons level sent ih =>
    unfold applyLevels
    cases hzero : isZeroSize level.2 with
    | error raised => simp [given, readable_of_error sent hzero]
    | ok zero =>
      show (applyLevels (applyLevel side level zero) sent).raised = none ↔ _
      rw [ih, readable_cons sent hzero, List.cons.injEq]
      exact (and_iff_right rfl).symm

/-! ## The condition -/

/-- What is applied to a side leaves `stored`; a snapshot clears the side first. -/
def RestatesSide (snapshot : Bool) (stored sent : Levels) : Prop :=
  if snapshot then stored.entries = (readable sent.entries).filter isShown
  else ∀ level ∈ readable sent.entries, Keeps stored level

/-- Every size of the message is read. -/
def AllReadable (sent : Levels) : Prop := readable sent.entries = sent.entries

instance (sent : Levels) : Decidable (AllReadable sent) :=
  inferInstanceAs (Decidable (readable sent.entries = sent.entries))

/-- What a message writes to the book before it is refused is what the book has.  The asks are
reached only when all bids are read; a snapshot has cleared them by then. -/
def RestatesBook (book : Book) (snapshot : Bool) (data : Dict) : Prop :=
  RestatesSide snapshot book.bids (levels (data.get "b")) ∧
    if AllReadable (levels (data.get "b")) then
      RestatesSide snapshot book.asks (levels (data.get "a"))
    else snapshot = true → book.asks.entries = []

/-- What is written of the quotes before a sum of sizes is refused is what the market shows. -/
def RestatesQuotes (state : MarketState) (bids asks : Levels) : Prop :=
  match best true bids, best false asks with
  | .ok bid, .ok ask =>
    state.get? "best_bid" = bid.map some ∧ state.get? "best_ask" = ask.map some ∧
      match sumSizes bids with
      | .ok depth => state.get? "bid_depth" = some (some depth)
      | .error _ => True
  | _, _ => True

/-- The market has been tracked, the event is not newer than what it shows, and what the message writes
before it is refused is what is stored. -/
def Restates (reducer : Reducer) (event : RawEvent) : Prop :=
  ∃ tracked, reducer.states.get? (stateKey event none) = some tracked ∧
    event.receivedAt ≤ tracked.lastEventAt ∧
    if event.source = "polymarket" then
      RestatesQuotes tracked.state (levels (event.payload.get "bids"))
        (levels (event.payload.get "asks"))
    else
      ∃ (book : Book) (data : Dict), reducer.bybitBooks.get? (stateKey event none) = some book ∧
        event.payload.get "data" = .obj data ∧
        RestatesBook book (event.eventType = "orderbook_snapshot") data ∧
        (AllReadable (levels (data.get "b")) → AllReadable (levels (data.get "a")) →
          RestatesQuotes tracked.state book.bids book.asks)

/-! ## What is written -/

theorem restatesSide_iff {snapshot : Bool} {stored sent : Levels} :
    (applyLevels (if snapshot then .empty else stored) sent.entries).state = stored ↔
      RestatesSide snapshot stored sent := by
  unfold RestatesSide
  cases snapshot with
  | false => exact applyLevels_state_eq_self sent.nodup
  | true =>
    simp only [↓reduceIte]
    rw [← entries_applyLevels_empty sent.nodup]
    constructor
    · intro h
      rw [← h]
    · intro h
      exact OrderedDict.ext h.symm

theorem applyBook_raised {book : Book} {snapshot : Bool} {data : Dict} :
    (applyBook book snapshot data).raised = none ↔
      AllReadable (levels (data.get "b")) ∧ AllReadable (levels (data.get "a")) := by
  unfold applyBook
  dsimp only
  split
  · next raised hraised =>
    have hbids : ¬ AllReadable (levels (data.get "b")) := by
      intro hall
      rw [applyLevels_raised.mpr hall] at hraised
      cases hraised
    constructor
    · intro h
      cases h
    · exact fun h => absurd h.1 hbids
  · next hraised =>
    have hbids : AllReadable (levels (data.get "b")) := applyLevels_raised.mp hraised
    exact applyLevels_raised.trans (and_iff_right hbids).symm

theorem applyBook_state_eq_self {book : Book} {snapshot : Bool} {data : Dict} :
    (applyBook book snapshot data).state = book ↔ RestatesBook book snapshot data := by
  have hstart : ∀ side : Book → Levels, side Book.empty = .empty →
      side (if snapshot then Book.empty else book) = if snapshot then .empty else side book := by
    intro side hside
    cases snapshot with
    | false => rfl
    | true => exact hside
  unfold applyBook RestatesBook
  dsimp only
  rw [hstart Book.bids rfl, hstart Book.asks rfl]
  split
  · next raised hraised =>
    have hbids : ¬ AllReadable (levels (data.get "b")) := by
      intro hall
      rw [applyLevels_raised.mpr hall] at hraised
      cases hraised
    rw [if_neg hbids, ← restatesSide_iff, Book.ext_iff]
    refine and_congr_right fun _ => ?_
    cases snapshot with
    | false => simp
    | true =>
      constructor
      · intro h _
        rw [← h]
        rfl
      · intro h
        exact OrderedDict.ext (h rfl).symm
  · next hraised =>
    have hbids : AllReadable (levels (data.get "b")) := applyLevels_raised.mp hraised
    rw [if_pos hbids, ← restatesSide_iff, ← restatesSide_iff, Book.ext_iff]

theorem get?_writeOrPop (state : MarketState) (name other : String) (value : Option String) :
    (writeOrPop state name value).get? other =
      if name = other then value.map some else state.get? other := by
  cases value with
  | none => exact OrderedDict.get?_pop state name other
  | some value => exact OrderedDict.get?_set state name other (some value)

theorem writeOrPop_eq_self {state : MarketState} {name : String} {value : Option String} :
    writeOrPop state name value = state ↔ state.get? name = value.map some := by
  cases value with
  | none => exact OrderedDict.pop_eq_self
  | some value => exact OrderedDict.set_eq_self

/-- The best prices are written as they are stored. -/
theorem writeQuotes_eq_self {state : MarketState} {bid ask : Option String} :
    writeOrPop (writeOrPop state "best_bid" bid) "best_ask" ask = state ↔
      state.get? "best_bid" = bid.map some ∧ state.get? "best_ask" = ask.map some := by
  constructor
  · intro h
    constructor
    · rw [← h, get?_writeOrPop, if_neg (by decide), get?_writeOrPop, if_pos rfl]
    · rw [← h, get?_writeOrPop, if_pos rfl]
  · rintro ⟨hbid, hask⟩
    rw [writeOrPop_eq_self.mpr hbid, writeOrPop_eq_self.mpr hask]

/-- Quotes that are refused leave the market as it is exactly when they restate it. -/
theorem setQuoteState_state_eq_self {state : MarketState} {bids asks : Levels}
    (h : (setQuoteState state bids asks).raised ≠ none) :
    (setQuoteState state bids asks).state = state ↔ RestatesQuotes state bids asks := by
  unfold setQuoteState at h ⊢
  unfold RestatesQuotes
  cases hbid : best true bids with
  | error raised => simp [given]
  | ok bid =>
    cases hask : best false asks with
    | error raised => simp [given]
    | ok ask =>
      cases hbids : sumSizes bids with
      | error raised =>
        simp only [given, and_true]
        exact writeQuotes_eq_self
      | ok bidDepth =>
        cases hasks : sumSizes asks with
        | ok askDepth => simp [given, hbid, hask, hbids, hasks] at h
        | error raised =>
          simp only [given]
          constructor
          · intro hsame
            -- the three fields are different ones, so each still holds what was written to it
            have hdepth : state.get? "bid_depth" = some (some bidDepth) := by
              rw [← hsame, OrderedDict.get?_set_self]
            have hquotes : ∀ name, name ≠ "bid_depth" →
                (writeOrPop (writeOrPop state "best_bid" bid) "best_ask" ask).get? name =
                  state.get? name := by
              intro name hname
              rw [← OrderedDict.get?_set_of_ne _ (some bidDepth) (Ne.symm hname), hsame]
            have hbidField := hquotes "best_bid" (by decide)
            have haskField := hquotes "best_ask" (by decide)
            rw [get?_writeOrPop, if_neg (by decide), get?_writeOrPop, if_pos rfl] at hbidField
            rw [get?_writeOrPop, if_pos rfl] at haskField
            exact ⟨hbidField.symm, haskField.symm, hdepth⟩
          · rintro ⟨hbidField, haskField, hdepth⟩
            rw [writeQuotes_eq_self.mpr ⟨hbidField, haskField⟩]
            exact OrderedDict.set_eq_self.mpr hdepth

/-- A market is left as it is exactly when it was tracked, the event is not newer, and the writes
leave its fields. -/
theorem withTouched_state_eq_self {reducer : Reducer} {event : RawEvent} {assetId : Option String}
    {write : MarketState → Mutation MarketState} :
    (reducer.withTouched event assetId write).state = reducer ↔
      ∃ tracked, reducer.states.get? (stateKey event assetId) = some tracked ∧
        event.receivedAt ≤ tracked.lastEventAt ∧ (write tracked.state).state = tracked.state := by
  have hstates : (reducer.withTouched event assetId write).state = reducer ↔
      (reducer.withTouched event assetId write).state.states = reducer.states := by
    constructor
    · intro h
      rw [h]
    · intro h
      exact Reducer.ext h rfl
  rw [hstates]
  unfold Reducer.withTouched
  dsimp only
  rw [OrderedDict.set_eq_self]
  cases hget : reducer.states.get? (stateKey event assetId) with
  | none => simp
  | some tracked =>
    unfold touched
    dsimp only
    constructor
    · intro h
      refine ⟨tracked, rfl, ?_⟩
      split_ifs at h with hnewer
      · have hlast := congrArg Tracked.lastEventAt (Option.some.inj h)
        exact absurd (hlast ▸ hnewer) (lt_irrefl _)
      · exact ⟨not_lt.mp hnewer, (congrArg Tracked.state (Option.some.inj h)).symm⟩
    · rintro ⟨other, hother, hlast, hwrite⟩
      cases hother
      rw [if_neg (not_lt.mpr hlast), hwrite]

theorem withTouched_raised (reducer : Reducer) (event : RawEvent) (assetId : Option String)
    (write : MarketState → Mutation MarketState) :
    (reducer.withTouched event assetId write).raised =
      (write (touched event assetId (reducer.states.get? (stateKey event assetId))).state).raised :=
  rfl

/-- A touched market has the fields it had. -/
theorem touched_state (event : RawEvent) (assetId : Option String) (tracked : Tracked) :
    (touched event assetId (some tracked)).state = tracked.state := by
  unfold touched
  dsimp only
  split_ifs <;> rfl

/-- The writes to the market after a book message was applied to its book. -/
def writeBookQuotes (applied : Mutation Book) (state : MarketState) : Mutation MarketState :=
  match applied.raised with
  | some raised => ⟨state, some raised⟩
  | none => setQuoteState state applied.state.bids applied.state.asks

theorem observeBook_eq (reducer : Reducer) (event : RawEvent) (data : Dict) :
    observeBook reducer event data =
      let applied := applyBook (reducer.book (stateKey event none))
        (event.eventType = "orderbook_snapshot") data
      ({ reducer with bybitBooks := reducer.bybitBooks.set (stateKey event none) applied.state } :
        Reducer).withTouched event none (writeBookQuotes applied) := rfl

/-- The quotes of a book message that is refused are as they were, when its levels are refused; else
when they are restated. -/
theorem writeBookQuotes_state_eq_self {book : Book} {snapshot : Bool} {data : Dict}
    {state : MarketState} (hbook : (applyBook book snapshot data).state = book)
    (h : (writeBookQuotes (applyBook book snapshot data) state).raised ≠ none) :
    (writeBookQuotes (applyBook book snapshot data) state).state = state ↔
      (AllReadable (levels (data.get "b")) → AllReadable (levels (data.get "a")) →
        RestatesQuotes state book.bids book.asks) := by
  unfold writeBookQuotes at h ⊢
  cases hraised : (applyBook book snapshot data).raised with
  | some raised =>
    have hlevels : ¬ (AllReadable (levels (data.get "b")) ∧ AllReadable (levels (data.get "a"))) := by
      intro hall
      rw [applyBook_raised.mpr hall] at hraised
      cases hraised
    simp only [true_iff]
    exact fun hbids hasks => absurd ⟨hbids, hasks⟩ hlevels
  | none =>
    obtain ⟨hbids, hasks⟩ := applyBook_raised.mp hraised
    rw [hraised, hbook] at h
    dsimp only at h ⊢
    rw [hbook, setQuoteState_state_eq_self h]
    constructor
    · exact fun hquotes _ _ => hquotes
    · exact fun hquotes => hquotes hbids hasks

/-- A book message that is refused leaves the reducer as it is exactly when it restates the book and
the quotes. -/
theorem observeBook_state_eq_self {reducer : Reducer} {event : RawEvent} {data : Dict}
    (h : (observeBook reducer event data).raised ≠ none) :
    (observeBook reducer event data).state = reducer ↔
      ∃ tracked, reducer.states.get? (stateKey event none) = some tracked ∧
        event.receivedAt ≤ tracked.lastEventAt ∧
        ∃ book, reducer.bybitBooks.get? (stateKey event none) = some book ∧
          RestatesBook book (event.eventType = "orderbook_snapshot") data ∧
          (AllReadable (levels (data.get "b")) → AllReadable (levels (data.get "a")) →
            RestatesQuotes tracked.state book.bids book.asks) := by
  rw [observeBook_eq] at h ⊢
  dsimp only at h ⊢
  have hquotes : ∀ (tracked : Tracked) (book : Book),
      reducer.states.get? (stateKey event none) = some tracked →
      reducer.bybitBooks.get? (stateKey event none) = some book →
      (applyBook book (event.eventType = "orderbook_snapshot") data).state = book →
      ((writeBookQuotes (applyBook book (event.eventType = "orderbook_snapshot") data)
          tracked.state).state = tracked.state ↔
        (AllReadable (levels (data.get "b")) → AllReadable (levels (data.get "a")) →
          RestatesQuotes tracked.state book.bids book.asks)) := by
    intro tracked book htracked hbook hsame
    rw [withTouched_raised, htracked, touched_state, Reducer.book, hbook, Option.getD_some] at h
    exact writeBookQuotes_state_eq_self hsame h
  constructor
  · intro hstate
    have hbooks := congrArg Reducer.bybitBooks hstate
    change reducer.bybitBooks.set _ _ = reducer.bybitBooks at hbooks
    have hbook := OrderedDict.set_eq_self.mp hbooks
    have hsame : (applyBook (reducer.book (stateKey event none))
        (event.eventType = "orderbook_snapshot") data).state = reducer.book (stateKey event none) := by
      conv_rhs => rw [Reducer.book, hbook, Option.getD_some]
    rw [hbooks] at hstate
    obtain ⟨tracked, htracked, hlast, hwrite⟩ := withTouched_state_eq_self.mp hstate
    generalize reducer.book (stateKey event none) = book at *
    rw [hsame] at hbook
    exact ⟨tracked, htracked, hlast, book, hbook, applyBook_state_eq_self.mp hsame,
      (hquotes tracked book htracked hbook hsame).mp hwrite⟩
  · rintro ⟨tracked, htracked, hlast, book, hbook, hrestates, hshown⟩
    have hsame := applyBook_state_eq_self.mpr hrestates
    have hown : reducer.book (stateKey event none) = book := by
      rw [Reducer.book, hbook, Option.getD_some]
    rw [hown, hsame, OrderedDict.set_eq_self.mpr hbook]
    exact withTouched_state_eq_self.mpr
      ⟨tracked, htracked, hlast, (hquotes tracked book htracked hbook hsame).mpr hshown⟩

/-! ## Rejected messages -/

/-- Coinbase messages are never rejected. -/
theorem observeCoinbase_raised (reducer : Reducer) (event : RawEvent) :
    (observeCoinbase reducer event).raised = none := by
  unfold observeCoinbase
  split
  · rfl
  · rw [withTouched_raised]
    split_ifs
    · split <;> rfl
    · split <;> rfl
    · rfl

/-- The only message of Polymarket that is rejected is a book. -/
theorem observePolymarket_of_raised {reducer : Reducer} {event : RawEvent}
    (h : (observePolymarket reducer event).raised ≠ none) :
    observePolymarket reducer event = reducer.withTouched event none fun state =>
      setQuoteState state (levels (event.payload.get "bids"))
        (levels (event.payload.get "asks")) := by
  unfold observePolymarket at h ⊢
  split_ifs at h ⊢
  · rfl
  · split at h <;> exact absurd rfl h
  · exact absurd rfl h
  · exact absurd rfl h

/-- The only messages of Bybit that are rejected are those of the order book. -/
theorem observeBybit_of_raised {reducer : Reducer} {event : RawEvent}
    (h : (observeBybit reducer event).raised ≠ none) :
    ∃ data : Dict, event.payload.get "data" = .obj data ∧
      observeBybit reducer event = observeBook reducer event data := by
  unfold observeBybit at h ⊢
  dsimp only at h ⊢
  by_cases hbook : isBookMessage event = true
  · rw [if_pos hbook] at h ⊢
    cases hdata : event.payload.get "data" with
    | obj data => exact ⟨data, rfl, rfl⟩
    | null => exact absurd (by rw [hdata]; rfl) h
    | bool value => exact absurd (by rw [hdata]; rfl) h
    | int value => exact absurd (by rw [hdata]; rfl) h
    | float value => exact absurd (by rw [hdata]; rfl) h
    | str value => exact absurd (by rw [hdata]; rfl) h
    | arr items => exact absurd (by rw [hdata]; rfl) h
  · rw [if_neg hbook, withTouched_raised] at h
    split_ifs at h
    · split at h <;> exact absurd rfl h
    · split at h <;> exact absurd rfl h
    · exact absurd rfl h

/-- One rejected message leaves the reducer unchanged exactly when it restates what is stored. -/
theorem observed_eq_self_iff {reducer : Reducer} {event : RawEvent}
    (h : (observe reducer event).raised ≠ none) :
    observed reducer event = reducer ↔ Restates reducer event := by
  unfold observed Restates
  unfold observe at h ⊢
  by_cases hpolymarket : event.source = "polymarket"
  · simp only [if_pos hpolymarket] at h ⊢
    have heq := observePolymarket_of_raised h
    rw [heq] at h ⊢
    rw [withTouched_state_eq_self]
    refine exists_congr fun tracked => and_congr_right fun htracked => and_congr_right fun _ => ?_
    rw [withTouched_raised, htracked, touched_state] at h
    exact setQuoteState_state_eq_self h
  · simp only [if_neg hpolymarket] at h ⊢
    by_cases hbybit : event.source = "bybit"
    · simp only [if_pos hbybit] at h ⊢
      obtain ⟨data, hdata, heq⟩ := observeBybit_of_raised h
      rw [heq] at h ⊢
      rw [observeBook_state_eq_self h]
      refine exists_congr fun tracked => and_congr_right fun _ => and_congr_right fun _ =>
        exists_congr fun book => ?_
      constructor
      · rintro ⟨hbook, hrest⟩
        exact ⟨data, hbook, hdata, hrest⟩
      · rintro ⟨other, hbook, hother, hrest⟩
        rw [hdata] at hother
        cases hother
        exact ⟨hbook, hrest⟩
    · simp only [if_neg hbybit] at h
      split_ifs at h
      · exact absurd (observeCoinbase_raised reducer event) h
      · exact absurd rfl h

/-- **Rejected messages.**  In every run of the reducer each message that is rejected leaves it
unchanged, exactly when each of them restates what is stored when it is rejected. -/
theorem rejected_unchanged_iff (events : List RawEvent) :
    Machine.Along observed (fun reducer event => (observe reducer event).raised ≠ none →
        observed reducer event = reducer) Reducer.new events ↔
      Machine.Along observed (fun reducer event => (observe reducer event).raised ≠ none →
        Restates reducer event) Reducer.new events := by
  constructor
  · intro h
    exact h.mono fun reducer event hsame hraised =>
      (observed_eq_self_iff hraised).mp (hsame hraised)
  · intro h
    exact h.mono fun reducer event hrestates hraised =>
      (observed_eq_self_iff hraised).mpr (hrestates hraised)

/-! ### A delta that is refused in its second level -/

/-- A message of the linear order book of BTCUSDT. -/
def bookEvent (eventType : String) (receivedAt : Timestamp) (bids : List Json) : RawEvent where
  source := "bybit"
  stream := "linear"
  instrument := "BTCUSDT"
  eventType
  sourceTimestamp := none
  receivedAt
  sequence := none
  marketId := none
  assetId := none
  payload := [("data", .obj [("b", .arr bids), ("a", .arr [])])]
  dedupeKey := "d"

def snapshotEvent : RawEvent :=
  bookEvent "orderbook_snapshot" 1000000 [.arr [.str "100", .str "2"]]

/-- The first level removes the only bid; the size of the second is no number. -/
def refusedDelta : RawEvent :=
  bookEvent "orderbook_delta" 2000000
    [.arr [.str "100", .str "0"], .arr [.str "101", .str "?"]]

/-- The message is rejected, and the bid is gone from the book. -/
theorem rejected_changes_book :
    ¬ ∀ (events : List RawEvent) (event : RawEvent),
      (observe (Machine.run observed Reducer.new events) event).raised ≠ none →
        observed (Machine.run observed Reducer.new events) event =
          Machine.run observed Reducer.new events := by
  intro h
  have hraised : (observe (Machine.run observed Reducer.new [snapshotEvent]) refusedDelta).raised ≠
      none := by decide +kernel
  have hchanged : observed (Machine.run observed Reducer.new [snapshotEvent]) refusedDelta ≠
      Machine.run observed Reducer.new [snapshotEvent] := by decide +kernel
  exact hchanged (h [snapshotEvent] refusedDelta hraised)

end BpEngine.Recorder
