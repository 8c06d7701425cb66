import BpEngine.Execution.BookLevels

/-!
# What a replayed book shows

* `written` lists what the anchor and the applied changes say about a side, in their order.
* `ReplayLaw` is what the book of a sequence satisfies; `ReplayInv` is what the loop keeps, by
  `ReplayInv.step` and `ReplayInv.run`.
* `applyEvents_perm`: the loop does not depend on how the dictionaries list their entries, so a replay
  can be taken up again from the book it returned (`replayBookPayloads_append`).
-/

namespace BpEngine.BookReplay

open PaperLedger (BookLevel setSize sizeAt byPrice)

/-! ## What the payloads say -/

/-- The levels a full book lists. -/
def listedLevels : Json → List BookLevel
  | .arr items => items.filterMap fun raw => (readLevel raw).toOption
  | _ => []

/-- The change of the asset that an entry is. -/
def changeOf (assetId : String) : Json → Option LevelChange
  | .obj change => if concerns assetId change then (readChange change).toOption else none
  | _ => none

/-- An entry is about the asset. -/
def isAbout (assetId : String) : Json → Bool
  | .obj change => concerns assetId change
  | _ => false

/-- The entries of a message. -/
def entriesOf (payload : Dict) : List Json :=
  match payload.get "price_changes" with
  | .arr changes => changes
  | _ => []

/-- The message mentions the asset. -/
def mentions (assetId : String) (event : AppliedPayload) : Bool :=
  (entriesOf event.payload).any (isAbout assetId)

/-- What the changes say about a side. -/
def changesFor (side : BookSide) (changes : List LevelChange) : List BookLevel :=
  (changes.filter fun change => change.side = side).map (·.toBookLevel)

/-- The dictionary of a side. -/
def Sides.of (sides : Sides) : BookSide → List BookLevel
  | .buy => sides.bids
  | .sell => sides.asks

/-- What the anchor says about a side. -/
def anchored (anchor : Anchor) : BookSide → List BookLevel
  | .buy => listedLevels (anchor.payload.get "bids")
  | .sell => listedLevels (anchor.payload.get "asks")

/-- The changes of the asset, in their order. -/
def changesIn (assetId : String) (events : List AppliedPayload) : List LevelChange :=
  events.flatMap fun event => (entriesOf event.payload).filterMap (changeOf assetId)

/-- What the anchor and the events say about a side, in their order. -/
def written (assetId : String) (anchor : Anchor) (events : List AppliedPayload)
    (side : BookSide) : List BookLevel :=
  anchored anchor side ++ changesFor side (changesIn assetId events)

theorem changesFor_append (side : BookSide) (changes more : List LevelChange) :
    changesFor side (changes ++ more) = changesFor side changes ++ changesFor side more := by
  simp [changesFor]

theorem written_append (assetId : String) (anchor : Anchor) (events more : List AppliedPayload)
    (side : BookSide) : written assetId anchor (events ++ more) side =
      written assetId anchor events side ++ changesFor side (changesIn assetId more) := by
  simp [written, changesIn, changesFor_append]

/-! ## Reading -/

theorem nonneg_of_size {value : Json} {number : Decimal} (h : size value = .ok number) :
    0 ≤ number.toRat := by
  obtain ⟨numeric, -, h⟩ := bind_eq_ok.mp h
  obtain ⟨_, hsize, h⟩ := bind_eq_ok.mp h
  cases h
  have hsize := require_eq_ok.mp hsize
  rw [Decimal.lt_iff, Decimal.toRat_zero] at hsize
  exact not_lt.mp hsize

theorem nonneg_of_readPair {priceOf sizeOf : Json} {level : BookLevel}
    (h : readPair priceOf sizeOf = .ok level) : 0 ≤ level.size.toRat := by
  obtain ⟨number, -, h⟩ := bind_eq_ok.mp h
  obtain ⟨shares, hsize, h⟩ := bind_eq_ok.mp h
  cases h
  exact nonneg_of_size hsize

theorem nonneg_of_readLevel {raw : Json} {level : BookLevel} (h : readLevel raw = .ok level) :
    0 ≤ level.size.toRat := by
  unfold readLevel at h
  split at h
  · split_ifs at h
    · exact nonneg_of_readPair h
    · cases h
  · exact nonneg_of_readPair h
  · cases h
  · cases h

theorem nonneg_of_readChange {change : Dict} {read : LevelChange}
    (h : readChange change = .ok read) : 0 ≤ read.size.toRat := by
  unfold readChange at h
  split at h
  · cases h
  · obtain ⟨number, -, h⟩ := bind_eq_ok.mp h
    obtain ⟨shares, hsize, h⟩ := bind_eq_ok.mp h
    cases h
    exact nonneg_of_size hsize

/-- **A full book** is read into a dictionary that shows what the book lists. -/
theorem levelsFrom_law {side : String} {items : List Json} {result levels : List BookLevel}
    (h : levelsFrom side items result = .ok levels) (hok : SideOk result) :
    SideOk levels ∧ ∀ price, (sizeAt levels price).toRat =
      (sizeAt ((items.filterMap fun raw => (readLevel raw).toOption).reverse ++ result) price).toRat := by
  induction items generalizing result with
  | nil =>
    cases h
    exact ⟨hok, fun _ => rfl⟩
  | cons raw rest ih =>
    obtain ⟨level, hlevel, h⟩ := bind_eq_ok.mp h
    obtain ⟨_, hfresh, h⟩ := bind_eq_ok.mp h
    have hfresh := require_eq_ok.mp hfresh
    have hnew : level.price.toRat ∉ pricesOf result := fun hmem => by
      rw [hasPrice_iff.mpr hmem] at hfresh
      cases hfresh
    have hread : (readLevel raw).toOption = some level := by rw [hlevel]; rfl
    have hnext : SideOk (if 0 < level.size then result ++ [level] else result) := by
      split_ifs with hpos
      · rw [Decimal.lt_iff, Decimal.toRat_zero] at hpos
        exact hok.append hnew hpos
      · exact hok
    obtain ⟨hlevels, hshown⟩ := ih h hnext
    refine ⟨hlevels, fun price => ?_⟩
    rw [hshown, List.filterMap_cons, hread, List.reverse_cons, List.append_assoc]
    refine toRat_sizeAt_append_congr _ ?_
    rw [List.singleton_append, sizeAt_cons]
    split_ifs with hpos hprice hprice
    · rw [sizeAt_append_singleton, if_neg (hprice ▸ hnew), if_pos hprice]
    · rw [sizeAt_append_singleton]
      split_ifs with hmem
      · rfl
      · rw [sizeAt_eq_zero hmem]
    · have hzero : level.size.toRat = 0 := by
        rw [Decimal.lt_iff, Decimal.toRat_zero] at hpos
        exact le_antisymm (not_lt.mp hpos) (nonneg_of_readLevel hlevel)
      rw [sizeAt_eq_zero (hprice ▸ hnew), hzero, Decimal.toRat_zero]
    · rfl

theorem readLevels_law {payload : Json} {side : String} {levels : List BookLevel}
    (h : readLevels payload side = .ok levels) :
    SideOk levels ∧ ∀ price, (sizeAt levels price).toRat =
      (sizeAt (listedLevels payload).reverse price).toRat := by
  unfold readLevels at h
  split at h
  · obtain ⟨hok, hshown⟩ := levelsFrom_law h SideOk.nil
    refine ⟨hok, fun price => ?_⟩
    rw [hshown, List.append_nil]
    rfl
  · cases h

/-! ## Applying changes -/

/-- Both dictionaries are in order. -/
structure SidesOk (sides : Sides) : Prop where
  bids : SideOk sides.bids
  asks : SideOk sides.asks

theorem SidesOk.write {sides : Sides} (hok : SidesOk sides) {change : LevelChange}
    (hsize : 0 ≤ change.size.toRat) : SidesOk (sides.write change) := by
  unfold Sides.write
  split
  · exact ⟨hok.bids.write hsize, hok.asks⟩
  · exact ⟨hok.bids, hok.asks.write hsize⟩

/-- A change of one side gives its size to its price there, and changes nothing else. -/
theorem toRat_sizeAt_write (sides : Sides) (change : LevelChange) (side : BookSide)
    (price : Decimal) : (sizeAt ((sides.write change).of side) price).toRat =
      (sizeAt (changesFor side [change] ++ sides.of side) price).toRat := by
  obtain ⟨level, own⟩ := change
  cases own <;> cases side
  · simp only [Sides.write, Sides.of, changesFor, List.filter_cons, decide_true, if_true,
      List.filter_nil, List.map_singleton, List.singleton_append]
    rw [toRat_sizeAt_writeLevel, sizeAt_cons]
    split_ifs <;> rfl
  · rfl
  · rfl
  · simp only [Sides.write, Sides.of, changesFor, List.filter_cons, decide_true, if_true,
      List.filter_nil, List.map_singleton, List.singleton_append]
    rw [toRat_sizeAt_writeLevel, sizeAt_cons]
    split_ifs <;> rfl

/-- **The changes of a message** give their sizes to their prices, the last one at a price winning. -/
theorem applyChangesFrom_law {assetId : String} {changes : List Json} {sides : Sides} {used : Bool}
    {applied : Sides × Bool} (h : applyChangesFrom assetId changes sides used = .ok applied)
    (hok : SidesOk sides) :
    SidesOk applied.1 ∧ applied.2 = (used || changes.any (isAbout assetId)) ∧
      ∀ side price, (sizeAt (applied.1.of side) price).toRat =
        (sizeAt ((changesFor side (changes.filterMap (changeOf assetId))).reverse ++ sides.of side)
          price).toRat := by
  induction changes generalizing sides used with
  | nil =>
    cases h
    exact ⟨hok, by simp, fun _ _ => rfl⟩
  | cons entry rest ih =>
    cases entry with
    | obj change =>
      rw [applyChangesFrom] at h
      by_cases hconcerns : concerns assetId change
      · rw [if_pos hconcerns] at h
        obtain ⟨read, hread, h⟩ := bind_eq_ok.mp h
        obtain ⟨hsides, hused, hshown⟩ := ih h (hok.write (nonneg_of_readChange hread))
        have hof : changeOf assetId (.obj change) = some read := by
          rw [changeOf, if_pos hconcerns, hread]
          rfl
        refine ⟨hsides, ?_, fun side price => ?_⟩
        · rw [hused]
          simp [isAbout, hconcerns]
        · have hsplit : changesFor side (read :: rest.filterMap (changeOf assetId)) =
              changesFor side [read] ++ changesFor side (rest.filterMap (changeOf assetId)) := by
            rw [← changesFor_append]
            rfl
          have hone : (changesFor side [read]).reverse = changesFor side [read] := by
            obtain ⟨level, own⟩ := read
            cases own <;> cases side <;> rfl
          rw [hshown, List.filterMap_cons, hof, hsplit, List.reverse_append, List.append_assoc, hone]
          exact toRat_sizeAt_append_congr _ (toRat_sizeAt_write sides read side price)
      · rw [if_neg hconcerns] at h
        obtain ⟨hsides, hused, hshown⟩ := ih h hok
        have hof : changeOf assetId (.obj change) = none := by rw [changeOf, if_neg hconcerns]
        refine ⟨hsides, ?_, fun side price => ?_⟩
        · rw [hused]
          simp [isAbout, hconcerns]
        · rw [hshown, List.filterMap_cons, hof]
    | _ => cases h

/-- Changes of other assets leave the dictionaries alone. -/
theorem applyChangesFrom_unused {assetId : String} {changes : List Json} {sides : Sides}
    {used : Bool} {applied : Sides × Bool}
    (h : applyChangesFrom assetId changes sides used = .ok applied) :
    applied.2 = true ∨ applied.1 = sides := by
  have htrue : ∀ {changes : List Json} {sides : Sides} {applied : Sides × Bool},
      applyChangesFrom assetId changes sides true = .ok applied → applied.2 = true := by
    intro changes
    induction changes with
    | nil =>
      intro sides applied h
      cases h
      rfl
    | cons entry rest ih =>
      intro sides applied h
      cases entry with
      | obj change =>
        rw [applyChangesFrom] at h
        split_ifs at h
        · obtain ⟨read, -, h⟩ := bind_eq_ok.mp h
          exact ih h
        · exact ih h
      | _ => cases h
  induction changes with
  | nil =>
    cases h
    exact Or.inr rfl
  | cons entry rest ih =>
    cases entry with
    | obj change =>
      rw [applyChangesFrom] at h
      split_ifs at h
      · obtain ⟨read, -, h⟩ := bind_eq_ok.mp h
        exact Or.inl (htrue h)
      · exact ih h
    | _ => cases h

/-! ## The loop over the messages -/

/-- What the loop keeps, after the events it has consumed. -/
structure ReplayInv (assetId : String) (anchor : Anchor) (events : List AppliedPayload)
    (replay : Replay) : Prop where
  sides : SidesOk replay.toSides
  uncrossed : crossed replay.toSides = false
  shown : ∀ side price, (sizeAt (replay.toSides.of side) price).toRat =
    (sizeAt (written assetId anchor events side).reverse price).toRat
  ids : replay.usedIds = (events.filter (mentions assetId)).map (·.eventId)
  keys : replay.usedKeys = (events.filter (mentions assetId)).map (·.dedupeKey)
  previous : replay.previousEventId = (events.getLast?.map (·.eventId)).getD anchor.eventId

theorem startReplay_inv {conditionId assetId : String} {anchor : Anchor} {replay : Replay}
    (h : startReplay conditionId assetId anchor = .ok replay) :
    ReplayInv assetId anchor [] replay := by
  obtain ⟨_, -, h⟩ := bind_eq_ok.mp h
  obtain ⟨key, -, h⟩ := bind_eq_ok.mp h
  obtain ⟨_, -, h⟩ := bind_eq_ok.mp h
  obtain ⟨asset, -, h⟩ := bind_eq_ok.mp h
  obtain ⟨_, -, h⟩ := bind_eq_ok.mp h
  obtain ⟨bids, hbids, h⟩ := bind_eq_ok.mp h
  obtain ⟨asks, hasks, h⟩ := bind_eq_ok.mp h
  obtain ⟨_, hcrossed, h⟩ := bind_eq_ok.mp h
  cases h
  obtain ⟨hbidsOk, hbidsShown⟩ := readLevels_law hbids
  obtain ⟨hasksOk, hasksShown⟩ := readLevels_law hasks
  refine ⟨⟨hbidsOk, hasksOk⟩, require_eq_ok.mp hcrossed, fun side price => ?_, rfl, rfl, rfl⟩
  cases side with
  | buy => simpa [written, anchored, changesIn, changesFor, Sides.of] using hbidsShown price
  | sell => simpa [written, anchored, changesIn, changesFor, Sides.of] using hasksShown price

theorem applyChanges_law {conditionId assetId : String} {sides : Sides} {payload : Dict}
    {applied : Sides × Bool} (h : applyChanges conditionId assetId sides payload = .ok applied)
    (hok : SidesOk sides) (hopen : crossed sides = false) :
    SidesOk applied.1 ∧ crossed applied.1 = false ∧
      applied.2 = (entriesOf payload).any (isAbout assetId) ∧
      ∀ side price, (sizeAt (applied.1.of side) price).toRat =
        (sizeAt ((changesFor side ((entriesOf payload).filterMap (changeOf assetId))).reverse ++
          sides.of side) price).toRat := by
  obtain ⟨_, -, h⟩ := bind_eq_ok.mp h
  split at h
  · next changes hchanges =>
    obtain ⟨result, hresult, h⟩ := bind_eq_ok.mp h
    have hentries : entriesOf payload = changes := by rw [entriesOf, hchanges]
    obtain ⟨hsides, hused, hshown⟩ := applyChangesFrom_law hresult hok
    rw [hentries]
    rw [Bool.false_or] at hused
    split_ifs at h with htrue
    · obtain ⟨_, hcrossed, h⟩ := bind_eq_ok.mp h
      cases h
      exact ⟨hsides, require_eq_ok.mp hcrossed, hused, hshown⟩
    · cases h
      have hsame := (applyChangesFrom_unused hresult).resolve_left htrue
      refine ⟨hsides, ?_, hused, hshown⟩
      rw [hsame]
      exact hopen
  · cases h

theorem ReplayInv.step {conditionId assetId : String} {anchor : Anchor}
    {events : List AppliedPayload} {replay next : Replay} {event : AppliedPayload}
    (hinv : ReplayInv assetId anchor events replay)
    (h : applyEvent conditionId assetId replay event = .ok next) :
    ReplayInv assetId anchor (events ++ [event]) next := by
  obtain ⟨_, -, h⟩ := bind_eq_ok.mp h
  obtain ⟨_, -, h⟩ := bind_eq_ok.mp h
  obtain ⟨key, hkey, h⟩ := bind_eq_ok.mp h
  obtain ⟨applied, happlied, h⟩ := bind_eq_ok.mp h
  cases h
  have hkey : key = event.dedupeKey := by
    unfold dedupe at hkey
    split_ifs at hkey
    · cases hkey
      rfl
    · cases hkey
  obtain ⟨hsides, hcrossed, hused, hshown⟩ :=
    applyChanges_law happlied hinv.sides hinv.uncrossed
  have hmentions : mentions assetId event = applied.2 := hused.symm
  refine ⟨hsides, hcrossed, fun side price => ?_, ?_, ?_, ?_⟩
  · have hone : changesIn assetId [event] =
        (entriesOf event.payload).filterMap (changeOf assetId) := by simp [changesIn]
    rw [written_append, hone, List.reverse_append, hshown]
    exact toRat_sizeAt_append_congr _ (hinv.shown side price)
  · rw [List.filter_append, List.map_append, ← hinv.ids, List.filter_singleton, hmentions]
    cases applied.2 <;> simp
  · rw [List.filter_append, List.map_append, ← hinv.keys, List.filter_singleton, hmentions, hkey]
    cases applied.2 <;> simp
  · simp

/-- **The loop keeps its invariant.** -/
theorem ReplayInv.run {conditionId assetId : String} {anchor : Anchor}
    {more : List AppliedPayload} {events : List AppliedPayload} {replay last : Replay}
    (hinv : ReplayInv assetId anchor events replay)
    (h : applyEvents conditionId assetId more replay = .ok last) :
    ReplayInv assetId anchor (events ++ more) last := by
  induction more generalizing events replay with
  | nil =>
    cases h
    rwa [List.append_nil]
  | cons event rest ih =>
    obtain ⟨next, hnext, h⟩ := bind_eq_ok.mp h
    have := ih (hinv.step hnext) h
    rwa [List.append_assoc, List.singleton_append] at this

/-- A longer sequence is replayed by replaying its beginning and going on from there. -/
theorem applyEvents_append (conditionId assetId : String) (events more : List AppliedPayload)
    (replay : Replay) : applyEvents conditionId assetId (events ++ more) replay =
      (applyEvents conditionId assetId events replay >>= applyEvents conditionId assetId more) := by
  induction events generalizing replay with
  | nil => rfl
  | cons event rest ih =>
    rw [List.cons_append, applyEvents, applyEvents]
    cases applyEvent conditionId assetId replay event with
    | error e => rfl
    | ok next => exact ih next

/-! ## The order of the dictionaries -/

/-- Two states that differ in how their dictionaries list their entries. -/
structure Replay.Alike (replay other : Replay) : Prop where
  bids : replay.bids.Perm other.bids
  asks : replay.asks.Perm other.asks
  ids : replay.usedIds = other.usedIds
  keys : replay.usedKeys = other.usedKeys
  previous : replay.previousEventId = other.previousEventId

theorem any_perm {levels other : List BookLevel} (hperm : levels.Perm other)
    (p : BookLevel → Bool) : levels.any p = other.any p := by
  rw [Bool.eq_iff_iff, List.any_eq_true, List.any_eq_true]
  exact ⟨fun ⟨l, hl, hp⟩ => ⟨l, hperm.mem_iff.mp hl, hp⟩,
    fun ⟨l, hl, hp⟩ => ⟨l, hperm.mem_iff.mpr hl, hp⟩⟩

theorem writeLevel_perm {levels other : List BookLevel} (hperm : levels.Perm other)
    (level : BookLevel) : (writeLevel levels level).Perm (writeLevel other level) := by
  unfold writeLevel
  split_ifs
  · exact hperm.filter _
  · unfold setSize
    rw [any_perm hperm]
    split_ifs
    · exact hperm.map _
    · exact hperm.append_right _

/-- The dictionaries have the same entries. -/
structure Sides.Alike (sides other : Sides) : Prop where
  bids : sides.bids.Perm other.bids
  asks : sides.asks.Perm other.asks

theorem Sides.Alike.write {sides other : Sides} (halike : sides.Alike other)
    (change : LevelChange) : (sides.write change).Alike (other.write change) := by
  unfold Sides.write
  split
  · exact ⟨writeLevel_perm halike.bids _, halike.asks⟩
  · exact ⟨halike.bids, writeLevel_perm halike.asks _⟩

theorem Sides.Alike.crossed_eq {sides other : Sides} (halike : sides.Alike other) :
    crossed sides = crossed other := by
  unfold crossed
  rw [any_perm halike.bids]
  congr 1
  funext bid
  exact any_perm halike.asks _

/-- Two outcomes with the same exception, or with related values. -/
def Related {α β : Type} (R : α → β → Prop) : Outcome α → Outcome β → Prop
  | .ok a, .ok b => R a b
  | .error e, .error f => e = f
  | _, _ => False

theorem Related.bind {α β γ δ : Type} {R : α → β → Prop} {S : γ → δ → Prop} {x : Outcome α}
    {y : Outcome β} {f : α → Outcome γ} {g : β → Outcome δ} (hxy : Related R x y)
    (hfg : ∀ a b, R a b → Related S (f a) (g b)) : Related S (x >>= f) (y >>= g) := by
  cases x with
  | error e =>
    cases y with
    | error e' => exact hxy
    | ok b => exact hxy.elim
  | ok a =>
    cases y with
    | error e' => exact hxy.elim
    | ok b => exact hfg a b hxy

/-- Related outcomes give one result where the rest of the computation does. -/
theorem Related.bind_eq {α β γ : Type} {R : α → β → Prop} {x : Outcome α} {y : Outcome β}
    {f : α → Outcome γ} {g : β → Outcome γ} (hxy : Related R x y)
    (hfg : ∀ a b, x = .ok a → R a b → f a = g b) : (x >>= f) = (y >>= g) := by
  cases x with
  | error e =>
    cases y with
    | error e' =>
      change e = e' at hxy
      rw [hxy]
      rfl
    | ok b => exact hxy.elim
  | ok a =>
    cases y with
    | error e' => exact hxy.elim
    | ok b => exact hfg a b rfl hxy

theorem Related.same {α : Type} (x : Outcome α) : Related (· = ·) x x := by
  cases x with
  | error e => exact rfl
  | ok a => exact rfl

theorem applyChangesFrom_perm (assetId : String) (changes : List Json) {sides other : Sides}
    (halike : sides.Alike other) (used : Bool) :
    Related (fun a b : Sides × Bool => a.1.Alike b.1 ∧ a.2 = b.2)
      (applyChangesFrom assetId changes sides used)
      (applyChangesFrom assetId changes other used) := by
  induction changes generalizing sides other used with
  | nil => exact ⟨halike, rfl⟩
  | cons entry rest ih =>
    cases entry with
    | obj change =>
      rw [applyChangesFrom, applyChangesFrom]
      split_ifs
      · refine (Related.same (readChange change)).bind ?_
        rintro read _ rfl
        exact ih (halike.write read) true
      · exact ih halike used
    | _ => exact rfl

theorem applyEvent_perm (conditionId assetId : String) (event : AppliedPayload)
    {replay other : Replay} (halike : replay.Alike other) :
    Related Replay.Alike (applyEvent conditionId assetId replay event)
      (applyEvent conditionId assetId other event) := by
  unfold applyEvent
  rw [halike.previous, halike.ids, halike.keys]
  refine (Related.same _).bind fun _ _ _ => (Related.same _).bind fun _ _ _ => ?_
  refine (Related.same (dedupe event.dedupeKey)).bind ?_
  rintro key _ rfl
  refine Related.bind (R := fun a b : Sides × Bool => a.1.Alike b.1 ∧ a.2 = b.2) ?_ ?_
  · unfold applyChanges
    refine (Related.same _).bind fun _ _ _ => ?_
    split
    · refine (applyChangesFrom_perm assetId _ ⟨halike.bids, halike.asks⟩ false).bind ?_
      rintro a b ⟨hsides, hused⟩
      rw [hused, validateNotCrossed, validateNotCrossed, hsides.crossed_eq]
      split_ifs
      · exact (Related.same _).bind fun _ _ _ => ⟨hsides, hused⟩
      · exact ⟨hsides, hused⟩
    · exact rfl
  · rintro a b ⟨hsides, hused⟩
    rw [hused]
    exact ⟨hsides.bids, hsides.asks, rfl, rfl, rfl⟩

/-- **The loop does not depend on the order of its dictionaries.** -/
theorem applyEvents_perm (conditionId assetId : String) (events : List AppliedPayload)
    {replay other : Replay} (halike : replay.Alike other) :
    Related Replay.Alike (applyEvents conditionId assetId events replay)
      (applyEvents conditionId assetId events other) := by
  induction events generalizing replay other with
  | nil => exact halike
  | cons event rest ih =>
    exact (applyEvent_perm conditionId assetId event halike).bind fun _ _ h => ih h

/-! ## The returned book -/

/-- What the book of a sequence of messages is: at every price the size last written there, without
empty levels, each side in strict order from its best price on, the sides apart, and the events that
mention the asset as its sources. -/
structure ReplayLaw (assetId : String) (anchor : Anchor) (events : List AppliedPayload)
    (book : ReplayedBook) : Prop where
  bid_size : ∀ price, (sizeAt book.bids price).toRat =
    (sizeAt (written assetId anchor events .buy).reverse price).toRat
  ask_size : ∀ price, (sizeAt book.asks price).toRat =
    (sizeAt (written assetId anchor events .sell).reverse price).toRat
  bids_positive : ∀ level ∈ book.bids, 0 < level.size
  asks_positive : ∀ level ∈ book.asks, 0 < level.size
  bids_sorted : book.bids.Pairwise fun a b => b.price < a.price
  asks_sorted : book.asks.Pairwise fun a b => a.price < b.price
  uncrossed : ∀ bid ∈ book.bids, ∀ ask ∈ book.asks, bid.price < ask.price
  ids : book.appliedEventIds = (events.filter (mentions assetId)).map (·.eventId)
  keys : book.appliedDedupeKeys = (events.filter (mentions assetId)).map (·.dedupeKey)

theorem lt_of_not_crossed {sides : Sides} (h : crossed sides = false) {bid ask : BookLevel}
    (hbid : bid ∈ sides.bids) (hask : ask ∈ sides.asks) : bid.price < ask.price := by
  intro hle
  have hcrossed : crossed sides = true :=
    List.any_eq_true.mpr ⟨bid, hbid, List.any_eq_true.mpr ⟨ask, hask, decide_eq_true hle⟩⟩
  rw [h] at hcrossed
  cases hcrossed

/-- **The book of a state** satisfies the law of the events that led to the state. -/
theorem ReplayInv.law {conditionId assetId : String} {anchor : Anchor} {cutoff : Timestamp}
    {events : List AppliedPayload} {replay : Replay} (hinv : ReplayInv assetId anchor events replay) :
    ReplayLaw assetId anchor events (replay.book conditionId assetId anchor cutoff) := by
  have hbids := hinv.sides.bids
  have hasks := hinv.sides.asks
  have hbid : ∀ {level}, level ∈ bestBidFirst replay.bids → level ∈ replay.bids :=
    fun h => (bestBidFirst_perm _).mem_iff.mp h
  have hask : ∀ {level}, level ∈ byPrice replay.asks → level ∈ replay.asks :=
    fun h => (byPrice_perm _).mem_iff.mp h
  constructor
  · intro price
    change (sizeAt (bestBidFirst replay.bids) price).toRat = _
    rw [hbids.sizeAt_perm (bestBidFirst_perm _).symm]
    exact hinv.shown .buy price
  · intro price
    change (sizeAt (byPrice replay.asks) price).toRat = _
    rw [hasks.sizeAt_perm (byPrice_perm _).symm]
    exact hinv.shown .sell price
  · intro level hlevel
    rw [Decimal.lt_iff, Decimal.toRat_zero]
    exact hbids.positive level (hbid hlevel)
  · intro level hlevel
    rw [Decimal.lt_iff, Decimal.toRat_zero]
    exact hasks.positive level (hask hlevel)
  · exact hbids.pairwise_bestBidFirst
  · exact hasks.pairwise_byPrice
  · intro bid hb ask ha
    exact lt_of_not_crossed hinv.uncrossed (hbid hb) (hask ha)
  · exact hinv.ids
  · exact hinv.keys

/-- The event a replay consumed last. -/
def lastEventId (anchor : Anchor) (events : List AppliedPayload) : ℤ :=
  (events.getLast?.map (·.eventId)).getD anchor.eventId

/-- A replay is taken up again from the book it returned and the event it consumed last. -/
def continueReplay (conditionId assetId : String) (anchor : Anchor) (cutoff : Timestamp)
    (book : ReplayedBook) (previousEventId : ℤ) (events : List AppliedPayload) :
    Outcome ReplayedBook := do
  let replay ← applyEvents conditionId assetId events
    ⟨⟨book.bids, book.asks⟩, book.appliedEventIds, book.appliedDedupeKeys, previousEventId⟩
  .ok (replay.book conditionId assetId anchor cutoff)

/-- States with the same entries and histories return one book. -/
theorem Replay.Alike.book_eq {replay other : Replay} (halike : replay.Alike other)
    (hok : SidesOk replay.toSides) (conditionId assetId : String) (anchor : Anchor)
    (cutoff : Timestamp) :
    replay.book conditionId assetId anchor cutoff = other.book conditionId assetId anchor cutoff := by
  unfold Replay.book
  rw [hok.bids.bestBidFirst_congr halike.bids, hok.asks.byPrice_congr halike.asks, halike.ids,
    halike.keys]

/-- **Replaying a sequence is replaying its beginning and going on** from the book that returned. -/
theorem replayBookPayloads_append (conditionId assetId : String) (anchor : Anchor)
    (events more : List AppliedPayload) (cutoff : Timestamp) :
    replayBookPayloads conditionId assetId anchor (events ++ more) cutoff =
      (replayBookPayloads conditionId assetId anchor events cutoff >>= fun book =>
        continueReplay conditionId assetId anchor cutoff book (lastEventId anchor events) more) := by
  unfold replayBookPayloads
  cases hstart : startReplay conditionId assetId anchor with
  | error e => rfl
  | ok start =>
    rw [ok_bind, ok_bind, applyEvents_append]
    cases hmid : applyEvents conditionId assetId events start with
    | error e => rfl
    | ok mid =>
      have hinv := (startReplay_inv hstart).run hmid
      have halike : Replay.Alike mid
          ⟨⟨bestBidFirst mid.bids, byPrice mid.asks⟩, mid.usedIds, mid.usedKeys,
            lastEventId anchor events⟩ :=
        ⟨(bestBidFirst_perm _).symm, (byPrice_perm _).symm, rfl, rfl, hinv.previous⟩
      refine (applyEvents_perm conditionId assetId more halike).bind_eq fun last other hlast h => ?_
      rw [h.book_eq (hinv.run hlast).sides]

/-- **The replayed book.**  Every book of an accepted sequence, after any of its messages, satisfies the
law of the messages so far; and the replay of the sequence is the replay of its beginning, taken up
again from the book that returned. -/
theorem replayed_book {conditionId assetId : String} {anchor : Anchor}
    {before after : List AppliedPayload} {cutoff : Timestamp} {book : ReplayedBook}
    (h : replayBookPayloads conditionId assetId anchor (before ++ after) cutoff = .ok book) :
    ReplayLaw assetId anchor (before ++ after) book ∧
      ∃ first, replayBookPayloads conditionId assetId anchor before cutoff = .ok first ∧
        ReplayLaw assetId anchor before first ∧
        continueReplay conditionId assetId anchor cutoff first (lastEventId anchor before) after =
          .ok book := by
  have hlaw : ∀ {events : List AppliedPayload} {result : ReplayedBook},
      replayBookPayloads conditionId assetId anchor events cutoff = .ok result →
      ReplayLaw assetId anchor events result := by
    intro events result hresult
    obtain ⟨start, hstart, hresult⟩ := bind_eq_ok.mp hresult
    obtain ⟨replay, hreplay, hresult⟩ := bind_eq_ok.mp hresult
    cases hresult
    exact ((startReplay_inv hstart).run hreplay).law
  refine ⟨hlaw h, ?_⟩
  rw [replayBookPayloads_append] at h
  obtain ⟨first, hfirst, hrest⟩ := bind_eq_ok.mp h
  exact ⟨first, hfirst, hlaw hfirst, hrest⟩

/-- A key, a full book of one bid and one ask, and two messages: the first takes the ask away, which the
second, about both tokens of the market, puts back at another price. -/
def sampleKey : String := "00000000000000000000000000000000000000000000000000000000000000aa"

def sampleAnchor : Anchor :=
  ⟨101, sampleKey,
    [("event_type", .str "book"), ("market", .str "condition-1"), ("asset_id", .str "up-token"),
      ("bids", .arr [.obj [("price", .str "0.54"), ("size", .str "10")]]),
      ("asks", .arr [.obj [("price", .str "0.56"), ("size", .str "2")]])]⟩

def sampleChange (eventId : ℤ) (changes : List Json) : AppliedPayload :=
  ⟨eventId, sampleKey,
    [("event_type", .str "price_change"), ("market", .str "condition-1"),
      ("price_changes", .arr changes)]⟩

def sampleLevel (asset price size : String) : Json :=
  .obj [("asset_id", .str asset), ("side", .str "SELL"), ("price", .str price), ("size", .str size)]

theorem replayed_book_at_two_messages :
    ∃ book, ReplayLaw "up-token" sampleAnchor
        ([sampleChange 102 [sampleLevel "up-token" "0.56" "0"]] ++
          [sampleChange 103 [sampleLevel "down-token" "0.2" "5", sampleLevel "up-token" "0.57" "3"]])
        book ∧
      book.asks = [⟨⟨57, -2⟩, ⟨3, 0⟩⟩] :=
  ⟨_, (replayed_book (show replayBookPayloads "condition-1" "up-token" sampleAnchor (_ ++ _) 0 = .ok _
    from rfl)).1, rfl⟩

/-! ## Events that are applied -/

/-- The order of a replay: by the time of receipt, then by the id. -/
def Earlier (a b : Storage.RawRow) : Prop :=
  a.receivedAt < b.receivedAt ∨ a.receivedAt = b.receivedAt ∧ a.id < b.id

theorem isChain_of_applyEvents {conditionId assetId : String} {events : List AppliedPayload}
    {replay last : Replay} (h : applyEvents conditionId assetId events replay = .ok last) :
    (∀ event ∈ events, 0 < event.eventId) ∧
      (replay.previousEventId :: events.map (·.eventId)).IsChain (· ≠ ·) := by
  induction events generalizing replay with
  | nil => exact ⟨fun _ hevent => (nomatch hevent), List.isChain_singleton _⟩
  | cons event rest ih =>
    obtain ⟨next, hnext, h⟩ := bind_eq_ok.mp h
    obtain ⟨_, hpos, hnext⟩ := bind_eq_ok.mp hnext
    obtain ⟨_, hne, hnext⟩ := bind_eq_ok.mp hnext
    obtain ⟨key, -, hnext⟩ := bind_eq_ok.mp hnext
    obtain ⟨applied, -, hnext⟩ := bind_eq_ok.mp hnext
    cases hnext
    obtain ⟨hrest, hchain⟩ := ih h
    refine ⟨?_, ?_⟩
    · intro other hother
      rcases List.mem_cons.mp hother with rfl | hother
      · exact require_eq_ok.mp hpos
      · exact hrest other hother
    · rw [List.map_cons, List.isChain_cons_cons]
      exact ⟨(require_eq_ok.mp hne).symm, hchain⟩

theorem previous_startReplay {conditionId assetId : String} {anchor : Anchor} {replay : Replay}
    (h : startReplay conditionId assetId anchor = .ok replay) :
    replay.previousEventId = anchor.eventId := (startReplay_inv h).previous

/-- The rows between an anchor and the cutoff are handed over in strict order, after the anchor. -/
theorem pairwise_changeRows (rows : RawEvents) (conditionId : String) (cutoff : Timestamp)
    (anchor : Storage.RawRow) :
    (anchor :: changeRows rows conditionId cutoff anchor).Pairwise Earlier := by
  refine List.pairwise_cons.mpr ⟨fun row hrow => ?_, ?_⟩
  · have hlater := (Relation.mem_select.mp hrow).2
    simp only [Bool.and_eq_true, laterThan, Bool.or_eq_true, decide_eq_true_eq] at hlater
    rcases hlater.2 with h | ⟨htime, hid⟩
    · exact Or.inl h
    · exact Or.inr ⟨htime.symm, hid⟩
  · have hsorted : (changeRows rows conditionId cutoff anchor).Pairwise
        (Relation.oldestFirst Storage.RawRow.receivedAt Storage.RawRow.id) :=
      List.pairwise_insertionSort _ _
    have hdistinct : ((changeRows rows conditionId cutoff anchor).map Storage.RawRow.id).Nodup := by
      refine ((List.perm_insertionSort _ _).map _).nodup_iff.mpr ?_
      exact rows.distinct.sublist (List.filter_sublist.map _)
    refine (hsorted.and (List.pairwise_map.mp hdistinct)).imp ?_
    rintro a b ⟨hle, hne⟩
    unfold Relation.oldestFirst at hle
    unfold Earlier
    omega

theorem nodup_changeRows (rows : RawEvents) (conditionId : String) (cutoff : Timestamp)
    {anchor : Storage.RawRow} (hanchor : anchor ∈ rows.rows) :
    ((anchor :: changeRows rows conditionId cutoff anchor).map Storage.RawRow.id).Nodup := by
  have hrows : ∀ row ∈ anchor :: changeRows rows conditionId cutoff anchor, row ∈ rows.rows := by
    intro row hrow
    rcases List.mem_cons.mp hrow with rfl | hrow
    · exact hanchor
    · exact (Relation.mem_select.mp hrow).1
  rw [List.Nodup, List.pairwise_map]
  refine (pairwise_changeRows rows conditionId cutoff anchor).imp_of_mem ?_
  intro a b ha hb hearlier hid
  have hsame := List.inj_on_of_nodup_map rows.distinct (hrows a ha) (hrows b hb) hid
  subst hsame
  unfold Earlier at hearlier
  omega

/-- **No event is applied twice.**  A replay rejects an event with the id of the one before it, the
anchor counted; and the replay of a book from the raw events is given the anchor and rows of the table
that follow it in strict order of receipt and id, whose ids are all different. -/
theorem applied_once (conditionId assetId : String) (cutoff : Timestamp) :
    (∀ (anchor : Anchor) (events : List AppliedPayload) (book : ReplayedBook),
      replayBookPayloads conditionId assetId anchor events cutoff = .ok book →
        (∀ event ∈ events, 0 < event.eventId) ∧
          (anchor.eventId :: events.map (·.eventId)).IsChain (· ≠ ·)) ∧
    ∀ (rows : RawEvents) (book : ReplayedBook),
      bookAt rows conditionId assetId cutoff = .ok (some book) →
        ∃ (anchor : Storage.RawRow) (events : List Storage.RawRow),
          replayBookPayloads conditionId assetId
              ⟨anchor.id, anchor.event.dedupeKey, anchor.event.payload⟩ (events.map applied) cutoff =
            .ok book ∧
          (∀ row ∈ anchor :: events, row ∈ rows.rows) ∧
          (anchor :: events).Pairwise Earlier ∧
          ((anchor :: events).map Storage.RawRow.id).Nodup := by
  refine ⟨fun anchor events book h => ?_, fun rows book h => ?_⟩
  · obtain ⟨start, hstart, h⟩ := bind_eq_ok.mp h
    obtain ⟨replay, hreplay, -⟩ := bind_eq_ok.mp h
    rw [← previous_startReplay hstart]
    exact isChain_of_applyEvents hreplay
  · unfold bookAt at h
    split at h
    · cases h
    · next anchor hhead =>
      obtain ⟨replayed, hreplayed, h⟩ := bind_eq_ok.mp h
      cases h
      have hanchor : anchor ∈ rows.rows :=
        (Relation.mem_select.mp (List.mem_of_head? hhead)).1
      refine ⟨anchor, changeRows rows conditionId cutoff anchor, hreplayed, ?_,
        pairwise_changeRows rows conditionId cutoff anchor,
        nodup_changeRows rows conditionId cutoff hanchor⟩
      intro row hrow
      rcases List.mem_cons.mp hrow with rfl | hrow
      · exact hanchor
      · exact (Relation.mem_select.mp hrow).1

/-- A replay accepts an event that comes back after another one, and applies it again. -/
theorem applied_twice :
    ∃ book, replayBookPayloads "condition-1" "up-token" sampleAnchor
        [sampleChange 102 [sampleLevel "up-token" "0.57" "1"],
          sampleChange 103 [sampleLevel "up-token" "0.57" "0"],
          sampleChange 102 [sampleLevel "up-token" "0.57" "1"]] 0 = .ok book ∧
      book.appliedEventIds = [102, 103, 102] ∧ ¬ book.appliedEventIds.Nodup :=
  ⟨_, by rfl, rfl, by decide⟩

end BpEngine.BookReplay
