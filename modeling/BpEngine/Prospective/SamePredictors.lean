import BpEngine.Calibration.Dataset
import BpEngine.Prospective.Inputs

/-!
# The predictors of one observation

A stored feature and a live input that are made of the same price and the same books have the same
predictors, as far as an edge decision reads them.

* `bookState_eq` says which entries a book group has, `get_value` and `get_flag` which predictors a
  stored feature has.
* `SameObservations` relates a stored feature and a live input; `predictors_agree` is the result.
-/

namespace BpEngine.Prospective

open BpEngine.Calibration BpEngine.Features

/-! ## Books -/

section Books

variable {F : Type}

/-- A number, or a missing value. -/
def ofNumber : Option F → Value F
  | none => .none
  | some value => .float value

@[simp] theorem numberOf_ofNumber (value : Option F) : numberOf (ofNumber value) = value := by
  cases value <;> rfl

/-- What a book group is made of. -/
structure BookNumbers (F : Type) where
  bestBid : Option F
  bestAsk : Option F
  mid : Value F
  spread : Value F
  bidDepth : Value F
  askDepth : Value F
  imbalance : Value F
  missing : Bool
  stale : Bool

/-- The values of the group. -/
def BookNumbers.values (book : BookNumbers F) (name : String) : List (String × Value F) :=
  [(name ++ "_best_bid", ofNumber book.bestBid), (name ++ "_best_ask", ofNumber book.bestAsk),
    (name ++ "_mid", book.mid), (name ++ "_spread", book.spread),
    (name ++ "_bid_depth", book.bidDepth), (name ++ "_ask_depth", book.askDepth),
    (name ++ "_book_imbalance", book.imbalance)]

/-- The missing flags of the group. -/
def BookNumbers.flags (book : BookNumbers F) (name : String) : List (String × Bool) :=
  [(name ++ "_book_missing", book.missing), (name ++ "_book_stale", book.stale)]

variable {floats : Floats F}

theorem floatOrNone_number {value : Option Decimal} {name : String} {result : Value F}
    (h : floatOrNone floats value name = .ok result) : ∃ number, result = ofNumber number := by
  cases value with
  | none =>
    cases h
    exact ⟨none, rfl⟩
  | some value =>
    unfold floatOrNone floatOf finiteFloat at h
    obtain ⟨_, -, h⟩ := bind_eq_ok.mp h
    cases h
    exact ⟨some (floats.ofDecimal value), rfl⟩

/-- What the depths of a book add to its values. -/
theorem imbalance_eq {name : String} {bidDepth askDepth : Option Decimal}
    {make : Value F → List (String × Value F) × Bool} {result : List (String × Value F) × Bool}
    (h : (match bidDepth, askDepth with
      | some bidDepth, some askDepth =>
        if 0 < bidDepth + askDepth then do
          let ratio ← quotient (bidDepth - askDepth) (bidDepth + askDepth)
          let imbalance ← floatOf floats ratio (name ++ "_book_imbalance")
          Except.ok (make imbalance)
        else do
          let imbalance ← pure Value.none
          Except.ok (make imbalance)
      | _, _ => do
        let imbalance ← pure Value.none
        Except.ok (make imbalance)) = (.ok result : Outcome _)) : ∃ imbalance, result = make imbalance := by
  split at h
  · split_ifs at h
    · obtain ⟨_, -, h⟩ := bind_eq_ok.mp h
      obtain ⟨imbalance, -, h⟩ := bind_eq_ok.mp h
      exact ⟨imbalance, (Except.ok.inj h).symm⟩
    · exact ⟨_, (Except.ok.inj h).symm⟩
  · exact ⟨_, (Except.ok.inj h).symm⟩

theorem freshBookValues_eq {name : String} {state : StateObservation}
    {result : List (String × Value F) × Bool}
    (h : freshBookValues floats name state = .ok result) :
    ∃ book : BookNumbers F, result.1 = book.values name := by
  unfold freshBookValues at h
  obtain ⟨bid, -, h⟩ := bind_eq_ok.mp h
  obtain ⟨ask, -, h⟩ := bind_eq_ok.mp h
  obtain ⟨bidSize, -, h⟩ := bind_eq_ok.mp h
  obtain ⟨askSize, -, h⟩ := bind_eq_ok.mp h
  obtain ⟨bidValue, hbid, h⟩ := bind_eq_ok.mp h
  obtain ⟨askValue, hask, h⟩ := bind_eq_ok.mp h
  obtain ⟨bestBid, rfl⟩ := floatOrNone_number hbid
  obtain ⟨bestAsk, rfl⟩ := floatOrNone_number hask
  simp only at h
  split at h
  · obtain ⟨_, -, h⟩ := bind_eq_ok.mp h
    obtain ⟨mid, -, h⟩ := bind_eq_ok.mp h
    obtain ⟨spread, -, h⟩ := bind_eq_ok.mp h
    obtain ⟨_, hpair, h⟩ := bind_eq_ok.mp h
    cases hpair
    obtain ⟨bidDepth, -, h⟩ := bind_eq_ok.mp h
    obtain ⟨askDepth, -, h⟩ := bind_eq_ok.mp h
    obtain ⟨imbalance, rfl⟩ := imbalance_eq h
    exact ⟨⟨bestBid, bestAsk, mid, spread, bidDepth, askDepth, imbalance, false, false⟩, rfl⟩
  · obtain ⟨_, hpair, h⟩ := bind_eq_ok.mp h
    cases hpair
    obtain ⟨bidDepth, -, h⟩ := bind_eq_ok.mp h
    obtain ⟨askDepth, -, h⟩ := bind_eq_ok.mp h
    obtain ⟨imbalance, rfl⟩ := imbalance_eq h
    exact ⟨⟨bestBid, bestAsk, .none, .none, bidDepth, askDepth, imbalance, false, false⟩, rfl⟩

/-- **A book group** has the values and the flags of its prefix. -/
theorem bookState_eq {name : String} {state : Option StateObservation} {group : FeatureGroup F}
    (h : bookState floats name state = .ok group) :
    ∃ book : BookNumbers F, group.values = book.values name ∧
      group.missingFlags = book.flags name := by
  unfold bookState at h
  split at h
  · cases h
    exact ⟨⟨none, none, .none, .none, .none, .none, .none, true, false⟩, rfl, rfl⟩
  · next state =>
    simp only at h
    split_ifs at h
    · obtain ⟨⟨values, missing⟩, hvalues, h⟩ := bind_eq_ok.mp h
      obtain ⟨book, hbook⟩ := freshBookValues_eq hvalues
      cases h
      exact ⟨{ book with missing, stale := !state.fresh }, hbook, rfl⟩
    · cases h
      exact ⟨⟨none, none, .none, .none, .none, .none, .none, true, !state.fresh⟩, rfl, rfl⟩

end Books

/-! ## The stored predictors -/

section Stored

theorem lookup_of_mem {α : Type} {entries : List (String × α)} {entry : String × α}
    (hnodup : (entries.map (·.1)).Nodup) (hmem : entry ∈ entries) :
    entries.lookup entry.1 = some entry.2 := by
  induction entries with
  | nil => simp at hmem
  | cons first entries ih =>
    rw [List.map_cons, List.nodup_cons] at hnodup
    rcases List.mem_cons.mp hmem with rfl | hmem
    · exact List.lookup_cons_self
    · have hne : (entry.1 == first.1) = false := by
        rw [beq_eq_false_iff_ne]
        rintro heq
        exact hnodup.1 (heq ▸ List.mem_map_of_mem hmem)
      rw [List.lookup_cons, hne]
      exact ih hnodup.2 hmem

theorem lookup_eq_none_of_ne {α : Type} {entries : List (String × α)} {key : String}
    (h : ∀ entry ∈ entries, entry.1 ≠ key) : entries.lookup key = none :=
  List.lookup_eq_none_iff.mpr fun entry hentry => bne_iff_ne.mpr (h entry hentry).symm

variable {F : Type} {A : Arithmetic F}

/-- Putting entries keeps the keys distinct. -/
theorem putUnique_foldlM {α : Type} {kind : String} {entries target result : List (String × α)}
    (hnodup : (target.map (·.1)).Nodup) (h : entries.foldlM (putUnique kind) target = .ok result) :
    result = target ++ entries ∧ (result.map (·.1)).Nodup := by
  induction entries generalizing target with
  | nil =>
    cases h
    exact ⟨(List.append_nil _).symm, hnodup⟩
  | cons entry entries ih =>
    rw [List.foldlM_cons] at h
    obtain ⟨next, hnext, h⟩ := bind_eq_ok.mp h
    unfold putUnique at hnext
    obtain ⟨_, hnew, hnext⟩ := bind_eq_ok.mp hnext
    cases hnext
    have hnew := require_eq_ok.mp hnew
    simp only [List.any_eq_true, decide_eq_true_eq, not_exists, not_and] at hnew
    have hnext : ((target ++ [entry]).map (·.1)).Nodup := by
      rw [List.map_append, List.nodup_append]
      refine ⟨hnodup, by simp, ?_⟩
      intro key hkey other hother heq
      obtain ⟨known, hknown, rfl⟩ := List.mem_map.mp hkey
      rw [List.map_singleton, List.mem_singleton] at hother
      exact hnew known hknown (heq.trans hother)
    obtain ⟨hresult, hkeys⟩ := ih hnext h
    exact ⟨by rw [hresult, List.append_assoc]; rfl, hkeys⟩

/-- What a merge keeps of its groups. -/
structure MergedOf (merged : Merged F) (groups : List (FeatureGroup F)) : Prop where
  features : merged.features = groups.flatMap (·.values)
  missing : merged.missing = groups.flatMap (·.missingFlags)
  featureKeys : (merged.features.map (·.1)).Nodup
  missingKeys : (merged.missing.map (·.1)).Nodup

theorem mergedOf_foldlM {groups before : List (FeatureGroup F)} {start merged : Merged F}
    (hstart : MergedOf start before) (h : groups.foldlM mergeGroup start = .ok merged) :
    MergedOf merged (before ++ groups) := by
  induction groups generalizing start before with
  | nil =>
    cases h
    rwa [List.append_nil]
  | cons group groups ih =>
    rw [List.foldlM_cons] at h
    obtain ⟨next, hnext, h⟩ := bind_eq_ok.mp h
    unfold mergeGroup at hnext
    obtain ⟨features, hfeatures, hnext⟩ := bind_eq_ok.mp hnext
    obtain ⟨missing, hmissing, hnext⟩ := bind_eq_ok.mp hnext
    obtain ⟨cutoffs, -, hnext⟩ := bind_eq_ok.mp hnext
    cases hnext
    obtain ⟨hvalues, hkeys⟩ := putUnique_foldlM hstart.featureKeys hfeatures
    obtain ⟨hflags, hflagKeys⟩ := putUnique_foldlM hstart.missingKeys hmissing
    have hnext : MergedOf ⟨features, missing, cutoffs, start.observations ++ group.observations⟩
        (before ++ [group]) :=
      { features := by simp [hvalues, hstart.features]
        missing := by simp [hflags, hstart.missing]
        featureKeys := hkeys
        missingKeys := hflagKeys }
    have hrest := ih hnext h
    rwa [List.append_assoc] at hrest

/-- **A merged row** has the entries of every group, under distinct keys. -/
theorem mergedOf_mergeGroups {groups : List (FeatureGroup F)} {merged : Merged F}
    (h : mergeGroups groups = .ok merged) : MergedOf merged groups := by
  have hempty : MergedOf ({} : Merged F) [] :=
    ⟨rfl, rfl, List.nodup_nil, List.nodup_nil⟩
  exact mergedOf_foldlM hempty h

/-- The entries of a stored feature. -/
structure StoredOf (feature : MarketFeature F) (groups : List (FeatureGroup F)) : Prop where
  features : feature.features = groups.flatMap (·.values)
  missing : feature.missingFlags = groups.flatMap (·.missingFlags)
  featureKeys : (feature.features.map (·.1)).Nodup
  missingKeys : (feature.missingFlags.map (·.1)).Nodup

theorem storedOf_assemble {floats : Floats F} {kind version : String} {target : FeatureTarget}
    {featureAt generatedAt : Timestamp} {groups : List (FeatureGroup F)}
    {feature : MarketFeature F}
    (h : assemble floats kind version target featureAt generatedAt groups = .ok feature) :
    StoredOf feature groups := by
  unfold assemble at h
  obtain ⟨merged, hmerged, h⟩ := bind_eq_ok.mp h
  obtain ⟨_, -, h⟩ := bind_eq_ok.mp h
  obtain ⟨_, -, h⟩ := bind_eq_ok.mp h
  obtain ⟨_, -, h⟩ := bind_eq_ok.mp h
  cases h
  have hof := mergedOf_mergeGroups hmerged
  exact ⟨hof.features, hof.missing, hof.featureKeys, hof.missingKeys⟩

theorem sortedByKey_keys {α : Type} {entries : List (String × α)}
    (h : (entries.map (·.1)).Nodup) : ((sortedByKey entries).map (·.1)).Nodup :=
  ((List.perm_insertionSort _ entries).map _).nodup_iff.mpr h

/-- No missing flag is a predictor of a price or of a book. -/
theorem missing_ne (flag : String) {rest : String} : "missing__" ++ flag ≠ "pm_" ++ rest := by
  intro h
  have := congrArg String.toList h
  simp at this

section Predictors

variable {feature : MarketFeature F} {predictors : Predictors F}

/-- The predictors of a feature: the flags under their prefix, and the values. -/
theorem featurePredictors_eq (h : featurePredictors A feature = .ok predictors) :
    ∃ values flags, predictors = flags.reverse ++ values.reverse ∧
      List.Forall₂ (fun entry value => featurePredictor A entry = .ok value)
        (sortedByKey feature.features) values ∧
      List.Forall₂ (fun entry flag => flagPredictor A entry = .ok flag)
        (sortedByKey feature.missingFlags) flags := by
  unfold featurePredictors at h
  obtain ⟨values, hvalues, h⟩ := bind_eq_ok.mp h
  obtain ⟨flags, hflags, h⟩ := bind_eq_ok.mp h
  cases h
  exact ⟨values, flags, rfl, forall₂_of_mapM hvalues,
    forall₂_of_mapM hflags⟩

theorem featurePredictor_eq {entry : String × Value F} {value : String × Option F}
    (h : featurePredictor A entry = .ok value) :
    value.1 = entry.1 ∧ numeric A entry.1 entry.2 = .ok value.2 := by
  unfold featurePredictor at h
  obtain ⟨_, -, h⟩ := bind_eq_ok.mp h
  obtain ⟨number, hnumber, h⟩ := bind_eq_ok.mp h
  cases h
  exact ⟨rfl, hnumber⟩

theorem flagPredictor_eq {entry : String × Bool} {flag : String × Option F}
    (h : flagPredictor A entry = .ok flag) :
    flag = ("missing__" ++ entry.1, some (if entry.2 then A.one else A.zero)) := by
  unfold flagPredictor at h
  obtain ⟨_, -, h⟩ := bind_eq_ok.mp h
  exact (Except.ok.inj h).symm

theorem map_fst_of_forall₂ {α β : Type} {f : α → String} {g : β → String} {R : α → β → Prop}
    {l : List α} {r : List β} (h : List.Forall₂ R l r) (hR : ∀ a b, R a b → g b = f a) :
    r.map g = l.map f := by
  induction h with
  | nil => rfl
  | cons hab _ ih => rw [List.map_cons, List.map_cons, hR _ _ hab, ih]

theorem exists_of_forall₂ {α β : Type} {R : α → β → Prop} {l : List α} {r : List β}
    (h : List.Forall₂ R l r) {a : α} (ha : a ∈ l) : ∃ b ∈ r, R a b := by
  induction h with
  | nil => simp at ha
  | cons hab _ ih =>
    rcases List.mem_cons.mp ha with rfl | ha
    · exact ⟨_, List.mem_cons_self, hab⟩
    · obtain ⟨b, hb, hR⟩ := ih ha
      exact ⟨b, List.mem_cons_of_mem _ hb, hR⟩

/-- **A stored value** is the predictor of its key. -/
theorem get_value {groups : List (FeatureGroup F)} (hstored : StoredOf feature groups)
    (h : featurePredictors A feature = .ok predictors) {group : FeatureGroup F}
    (hgroup : group ∈ groups) {rest : String} {number : Option F}
    (hmem : ("pm_" ++ rest, ofNumber number) ∈ group.values) :
    predictors.get ("pm_" ++ rest) = number := by
  obtain ⟨values, flags, rfl, hvalues, hflags⟩ := featurePredictors_eq h
  have hsorted : ("pm_" ++ rest, ofNumber number) ∈ sortedByKey feature.features := by
    refine (List.mem_insertionSort _).mpr ?_
    rw [hstored.features]
    exact List.mem_flatMap.mpr ⟨group, hgroup, hmem⟩
  obtain ⟨value, hvalue, hof⟩ := exists_of_forall₂ hvalues hsorted
  obtain ⟨hkey, hnumeric⟩ := featurePredictor_eq hof
  have hnumber : value.2 = number := by
    cases number with
    | none => exact (Except.ok.inj hnumeric).symm
    | some number =>
      unfold ofNumber numeric at hnumeric
      obtain ⟨_, -, hnumeric⟩ := bind_eq_ok.mp hnumeric
      exact (Except.ok.inj hnumeric).symm
  have hkeys : (values.reverse.map (·.1)).Nodup := by
    rw [List.map_reverse, List.nodup_reverse,
      map_fst_of_forall₂ hvalues fun _ _ hR => (featurePredictor_eq hR).1]
    exact sortedByKey_keys hstored.featureKeys
  have hflag : flags.reverse.lookup ("pm_" ++ rest) = none := by
    refine lookup_eq_none_of_ne fun flag hflag => ?_
    refine forall_right_of_forall₂ (p := fun flag => flag.1 ≠ "pm_" ++ rest) hflags ?_
      flag (List.mem_reverse.mp hflag)
    intro entry flag hentry
    rw [flagPredictor_eq hentry]
    exact missing_ne entry.1
  have hlookup := lookup_of_mem hkeys (List.mem_reverse.mpr hvalue)
  rw [hkey, hnumber] at hlookup
  unfold Predictors.get
  rw [List.lookup_append, hflag, Option.none_or, hlookup]
  rfl

/-- **A stored flag** is the predictor of its key. -/
theorem get_flag {groups : List (FeatureGroup F)} (hstored : StoredOf feature groups)
    (h : featurePredictors A feature = .ok predictors) {group : FeatureGroup F}
    (hgroup : group ∈ groups) {entry : String × Bool} (hmem : entry ∈ group.missingFlags) :
    predictors.get ("missing__" ++ entry.1) = some (if entry.2 then A.one else A.zero) := by
  obtain ⟨values, flags, rfl, hvalues, hflags⟩ := featurePredictors_eq h
  have hsorted : entry ∈ sortedByKey feature.missingFlags := by
    refine (List.mem_insertionSort _).mpr ?_
    rw [hstored.missing]
    exact List.mem_flatMap.mpr ⟨group, hgroup, hmem⟩
  obtain ⟨flag, hflag, hof⟩ := exists_of_forall₂ hflags hsorted
  have hkeys : (flags.reverse.map (·.1)).Nodup := by
    rw [List.map_reverse, List.nodup_reverse,
      map_fst_of_forall₂ (f := fun entry : String × Bool => "missing__" ++ entry.1) hflags
        fun _ _ hR => by rw [flagPredictor_eq hR]]
    have hnodup := (sortedByKey_keys hstored.missingKeys).map
      (f := fun key => "missing__" ++ key) fun a b hab => by simpa using hab
    rwa [List.map_map] at hnodup
  have hflagEq := flagPredictor_eq hof
  have hlookup := lookup_of_mem hkeys (List.mem_reverse.mpr hflag)
  rw [hflagEq] at hlookup
  unfold Predictors.get
  rw [List.lookup_append, hlookup]
  rfl

end Predictors

end Stored

/-! ## The same observations -/

section Observations

variable {F : Type} {A : Arithmetic F}

/-- The stored feature is what is built of an Up price and two books. -/
def FeatureOf (A : Arithmetic F) (feature : MarketFeature F) (price : Option PriceRow)
    (up down : Option StateObservation) : Prop :=
  ∃ db target featureAt generatedAt downPrice,
    latestPolymarketPrice db target.conditionId "Up" featureAt = .ok price ∧
      latestPolymarketPrice db target.conditionId "Down" featureAt = .ok downPrice ∧
      sideState db target price featureAt = .ok up ∧
      sideState db target downPrice featureAt = .ok down ∧
      buildFeature A.toFloats db target featureAt generatedAt = .ok feature

/-- The live input is what an observation makes of a price and two books. -/
def InputOf (A : Arithmetic F) (input : LiveMarketInput F) (price : Option F)
    (up down : Option StateObservation) : Prop :=
  ∃ digests market downloadedAt response probability upGroup downGroup,
    probability.map (·.1) = price ∧ bookState A.toFloats "pm_up" up = .ok upGroup ∧
      bookState A.toFloats "pm_down" down = .ok downGroup ∧
      input = liveInput A digests market downloadedAt response probability up down upGroup downGroup

/-- The stored feature and the live input are of the same price, which may be missing, and of the same
books. -/
def SameObservations (A : Arithmetic F) (feature : MarketFeature F) (input : LiveMarketInput F) :
    Prop :=
  ∃ price up down, FeatureOf A feature price up down ∧
    InputOf A input (price.map fun row => A.ofDecimal row.price) up down

/-- The predictors that a decision reads. -/
def decisionKeys : List String :=
  ["pm_up_price", "missing__pm_up_book_missing", "missing__pm_up_book_stale", "pm_up_best_ask",
    "pm_up_best_bid", "missing__pm_down_book_missing", "missing__pm_down_book_stale",
    "pm_down_best_ask", "pm_down_best_bid"]

/-- **A decision** is made of the predictors it reads. -/
theorem edgeDecision_congr {predictors other : Predictors F}
    (h : ∀ key ∈ decisionKeys, predictors.get key = other.get key) (probabilityUp : F)
    (config : EdgeConfig F) (minEdge : Option F) :
    edgeDecisionFromPredictors A predictors probabilityUp config minEdge =
      edgeDecisionFromPredictors A other probabilityUp config minEdge := by
  simp only [decisionKeys, List.forall_mem_cons, List.not_mem_nil, false_implies, implies_true,
    and_true] at h
  obtain ⟨hprice, hupMissing, hupStale, hupAsk, hupBid, hdownMissing, hdownStale, hdownAsk,
    hdownBid⟩ := h
  unfold edgeDecisionFromPredictors observedMarketProbability clearFlag
  rw [hprice]
  cases hside : (predicted A probabilityUp).side with
  | up =>
    simp only [hside, sideName]
    rw [show predictors.get ("missing__" ++ "pm_up" ++ "_book_missing") = _ from hupMissing,
      show predictors.get ("missing__" ++ "pm_up" ++ "_book_stale") = _ from hupStale,
      show predictors.get ("pm_up" ++ "_best_ask") = _ from hupAsk,
      show predictors.get ("pm_up" ++ "_best_bid") = _ from hupBid]
    rfl
  | down =>
    simp only [hside, sideName]
    rw [show predictors.get ("missing__" ++ "pm_down" ++ "_book_missing") = _ from hdownMissing,
      show predictors.get ("missing__" ++ "pm_down" ++ "_book_stale") = _ from hdownStale,
      show predictors.get ("pm_down" ++ "_best_ask") = _ from hdownAsk,
      show predictors.get ("pm_down" ++ "_best_bid") = _ from hdownBid]
    rfl

theorem upPrice_mem {floats : Floats F} {up down : Option PriceRow} {featureAt : Timestamp}
    {group : FeatureGroup F} (h : polymarketPrices floats up down featureAt = .ok group) :
    ("pm_up_price", ofNumber (up.map fun row => floats.ofDecimal row.price)) ∈ group.values := by
  unfold polymarketPrices at h
  obtain ⟨⟨upPrice, upStaleness⟩, hup, h⟩ := bind_eq_ok.mp h
  obtain ⟨⟨downPrice, downStaleness⟩, -, h⟩ := bind_eq_ok.mp h
  have hprice : upPrice = ofNumber (up.map fun row => floats.ofDecimal row.price) := by
    unfold sidePrice at hup
    cases up with
    | none =>
      cases hup
      rfl
    | some row =>
      obtain ⟨_, -, hup⟩ := bind_eq_ok.mp hup
      obtain ⟨value, hvalue, hup⟩ := bind_eq_ok.mp hup
      obtain ⟨_, -, hup⟩ := bind_eq_ok.mp hup
      unfold floatOf finiteFloat at hvalue
      obtain ⟨_, -, hvalue⟩ := bind_eq_ok.mp hvalue
      cases hvalue
      cases hup
      rfl
  simp only at h
  split at h
  · obtain ⟨_, -, h⟩ := bind_eq_ok.mp h
    obtain ⟨_, -, h⟩ := bind_eq_ok.mp h
    obtain ⟨_, hpair, h⟩ := bind_eq_ok.mp h
    cases hpair
    cases h
    rw [← hprice]
    exact List.mem_cons_self
  · obtain ⟨_, hpair, h⟩ := bind_eq_ok.mp h
    cases hpair
    cases h
    rw [← hprice]
    exact List.mem_cons_self

/-- The groups of a built feature: those of its price and of its books are among them. -/
theorem storedOf_buildFeature {feature : MarketFeature F} {price : Option PriceRow}
    {up down : Option StateObservation} {upGroup downGroup : FeatureGroup F}
    (h : FeatureOf A feature price up down)
    (hup : bookState A.toFloats "pm_up" up = .ok upGroup)
    (hdown : bookState A.toFloats "pm_down" down = .ok downGroup) :
    ∃ groups prices, StoredOf feature groups ∧ prices ∈ groups ∧ upGroup ∈ groups ∧
      downGroup ∈ groups ∧
      ("pm_up_price", ofNumber (price.map fun row => A.ofDecimal row.price)) ∈ prices.values := by
  obtain ⟨db, target, featureAt, generatedAt, downPrice, hupPrice, hdownPrice, hupState, hdownState,
    h⟩ := h
  unfold buildFeature at h
  obtain ⟨_, -, h⟩ := bind_eq_ok.mp h
  obtain ⟨_, -, h⟩ := bind_eq_ok.mp h
  rw [hupPrice] at h
  obtain ⟨_, hsame, h⟩ := bind_eq_ok.mp h
  cases hsame
  rw [hdownPrice] at h
  obtain ⟨_, hsame, h⟩ := bind_eq_ok.mp h
  cases hsame
  rw [hupState] at h
  obtain ⟨_, hsame, h⟩ := bind_eq_ok.mp h
  cases hsame
  rw [hdownState] at h
  obtain ⟨_, hsame, h⟩ := bind_eq_ok.mp h
  cases hsame
  obtain ⟨_, -, h⟩ := bind_eq_ok.mp h
  obtain ⟨_, -, h⟩ := bind_eq_ok.mp h
  obtain ⟨_, -, h⟩ := bind_eq_ok.mp h
  obtain ⟨geometry, -, h⟩ := bind_eq_ok.mp h
  obtain ⟨prices, hprices, h⟩ := bind_eq_ok.mp h
  rw [hup] at h
  obtain ⟨_, hsame, h⟩ := bind_eq_ok.mp h
  cases hsame
  rw [hdown] at h
  obtain ⟨_, hsame, h⟩ := bind_eq_ok.mp h
  cases hsame
  obtain ⟨coinbase, -, h⟩ := bind_eq_ok.mp h
  obtain ⟨bybit, -, h⟩ := bind_eq_ok.mp h
  obtain ⟨trades, -, h⟩ := bind_eq_ok.mp h
  exact ⟨_, prices, storedOf_assemble h, by simp, by simp, by simp, upPrice_mem hprices⟩

/-- The predictors of a side are those of a book. -/
structure ReadsBook (A : Arithmetic F) (predictors : Predictors F) (name : String)
    (book : BookNumbers F) : Prop where
  missing : predictors.get ("missing__" ++ (name ++ "_book_missing")) =
    some (if book.missing then A.one else A.zero)
  stale : predictors.get ("missing__" ++ (name ++ "_book_stale")) =
    some (if book.stale then A.one else A.zero)
  ask : predictors.get (name ++ "_best_ask") = book.bestAsk
  bid : predictors.get (name ++ "_best_bid") = book.bestBid

/-- The stored predictors of a side are those of its book. -/
theorem reads_book {feature : MarketFeature F} {predictors : Predictors F}
    {groups : List (FeatureGroup F)} (hgroups : StoredOf feature groups)
    (h : featurePredictors A feature = .ok predictors) {group : FeatureGroup F}
    (hgroup : group ∈ groups) {side : String} {book : BookNumbers F}
    (hvalues : group.values = book.values ("pm_" ++ side))
    (hflags : group.missingFlags = book.flags ("pm_" ++ side)) :
    ReadsBook A predictors ("pm_" ++ side) book := by
  have hask : ("pm_" ++ (side ++ "_best_ask"), ofNumber book.bestAsk) ∈ group.values := by
    rw [hvalues, ← String.append_assoc]
    simp [BookNumbers.values]
  have hbid : ("pm_" ++ (side ++ "_best_bid"), ofNumber book.bestBid) ∈ group.values := by
    rw [hvalues, ← String.append_assoc]
    simp [BookNumbers.values]
  have hmissing : ("pm_" ++ side ++ "_book_missing", book.missing) ∈ group.missingFlags := by
    rw [hflags]
    simp [BookNumbers.flags]
  have hstale : ("pm_" ++ side ++ "_book_stale", book.stale) ∈ group.missingFlags := by
    rw [hflags]
    simp [BookNumbers.flags]
  have haskAt := get_value hgroups h hgroup hask
  have hbidAt := get_value hgroups h hgroup hbid
  rw [← String.append_assoc] at haskAt hbidAt
  exact ⟨get_flag hgroups h hgroup hmissing, get_flag hgroups h hgroup hstale, haskAt, hbidAt⟩

section Live

variable {up down : FeatureGroup F} {upBook downBook : BookNumbers F} (price : Option F)

theorem live_price (hup : up.values = upBook.values "pm_up")
    (hupFlags : up.missingFlags = upBook.flags "pm_up")
    (hdown : down.values = downBook.values "pm_down")
    (hdownFlags : down.missingFlags = downBook.flags "pm_down") :
    (mergeBookPredictors A price up down).get "pm_up_price" = price := by
  unfold mergeBookPredictors groupPredictors
  rw [hup, hupFlags, hdown, hdownFlags]
  simp [BookNumbers.values, BookNumbers.flags, Predictors.get, List.lookup_cons]

theorem live_up (hup : up.values = upBook.values "pm_up")
    (hupFlags : up.missingFlags = upBook.flags "pm_up")
    (hdown : down.values = downBook.values "pm_down")
    (hdownFlags : down.missingFlags = downBook.flags "pm_down") :
    ReadsBook A (mergeBookPredictors A price up down) "pm_up" upBook := by
  unfold mergeBookPredictors groupPredictors
  rw [hup, hupFlags, hdown, hdownFlags]
  constructor <;> simp [BookNumbers.values, BookNumbers.flags, Predictors.get, List.lookup_cons]

theorem live_down (hdown : down.values = downBook.values "pm_down")
    (hdownFlags : down.missingFlags = downBook.flags "pm_down") :
    ReadsBook A (mergeBookPredictors A price up down) "pm_down" downBook := by
  unfold mergeBookPredictors groupPredictors
  rw [hdown, hdownFlags]
  constructor <;> simp [BookNumbers.values, BookNumbers.flags, Predictors.get, List.lookup_cons]

end Live

/-- **The predictors agree**, as far as a decision reads them. -/
theorem predictors_agree {feature : MarketFeature F} {input : LiveMarketInput F}
    {predictors : Predictors F} (h : SameObservations A feature input)
    (hstored : featurePredictors A feature = .ok predictors) :
    ∀ key ∈ decisionKeys, predictors.get key = input.predictors.get key := by
  obtain ⟨price, up, down, hfeature, digests, market, downloadedAt, response, probability, upGroup,
    downGroup, hprice, hup, hdown, rfl⟩ := h
  obtain ⟨groups, prices, hgroups, hpricesIn, hupIn, hdownIn, hpriceIn⟩ :=
    storedOf_buildFeature hfeature hup hdown
  obtain ⟨upBook, hupValues, hupFlags⟩ := bookState_eq hup
  obtain ⟨downBook, hdownValues, hdownFlags⟩ := bookState_eq hdown
  have hlive : (liveInput A digests market downloadedAt response probability up down upGroup
      downGroup).predictors = mergeBookPredictors A (price.map fun row => A.ofDecimal row.price)
        upGroup downGroup := by rw [← hprice]; rfl
  have hpriceAt : predictors.get ("pm_" ++ "up_price") = _ :=
    get_value hgroups hstored hpricesIn hpriceIn
  have hupAt : ReadsBook A predictors ("pm_" ++ "up") upBook :=
    reads_book hgroups hstored hupIn hupValues hupFlags
  have hdownAt : ReadsBook A predictors ("pm_" ++ "down") downBook :=
    reads_book hgroups hstored hdownIn hdownValues hdownFlags
  have hlivePrice := live_price (A := A) (price.map fun row => A.ofDecimal row.price) hupValues hupFlags
    hdownValues hdownFlags
  have hliveUp := live_up (A := A) (price.map fun row => A.ofDecimal row.price) hupValues hupFlags
    hdownValues hdownFlags
  have hliveDown : ReadsBook A (mergeBookPredictors A (price.map fun row => A.ofDecimal row.price)
      upGroup downGroup) "pm_down" downBook := live_down _ hdownValues hdownFlags
  rw [hlive]
  simp only [decisionKeys, List.forall_mem_cons, List.not_mem_nil, false_implies, implies_true,
    and_true]
  exact ⟨hpriceAt.trans hlivePrice.symm, hupAt.missing.trans hliveUp.missing.symm,
    hupAt.stale.trans hliveUp.stale.symm, hupAt.ask.trans hliveUp.ask.symm,
    hupAt.bid.trans hliveUp.bid.symm, hdownAt.missing.trans hliveDown.missing.symm,
    hdownAt.stale.trans hliveDown.stale.symm, hdownAt.ask.trans hliveDown.ask.symm,
    hdownAt.bid.trans hliveDown.bid.symm⟩

theorem inputOf_price {input : LiveMarketInput F} {price : Option F}
    {up down : Option StateObservation} (h : InputOf A input price up down) :
    input.predictors.get "pm_up_price" = price := by
  obtain ⟨digests, market, downloadedAt, response, probability, upGroup, downGroup, rfl, hup, hdown,
    rfl⟩ := h
  obtain ⟨upBook, hupValues, hupFlags⟩ := bookState_eq hup
  obtain ⟨downBook, hdownValues, hdownFlags⟩ := bookState_eq hdown
  exact live_price _ hupValues hupFlags hdownValues hdownFlags

end Observations

end BpEngine.Prospective
