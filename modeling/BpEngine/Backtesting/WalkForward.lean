import BpEngine.Backtesting.Folds
import BpEngine.Library.Batch
import Mathlib.Data.Set.Card

/-!
# Walk-forward plans do not leak

What a plan that `buildWalkForwardPlan` accepts guarantees.

* `timeline_spec`: a time line has one market for each id, and every market has a positive length.
* `noLeak_split`: the partitions of three adjacent windows are in the order of time, and each market
  of the whole window is in exactly one of them, under embargo or purged.
* `foldsFrom_spec` is what the loop over the folds leaves; `lt_length_folds` says that its fuel is
  enough.
-/

namespace BpEngine.Backtesting

open BpEngine.Windows
open Batch (nodup_eraseDups)

/-! ## The time line -/

theorem marketRecord_spec {dataset : DatasetSnapshot} {conditionId : String}
    {market : MarketRecord} (h : marketRecord dataset conditionId = .ok market) :
    market.conditionId = conditionId ∧ market.marketStartAt < market.marketEndAt := by
  unfold marketRecord at h
  simp only at h
  split at h
  · exact absurd h raise_ne_ok
  · obtain ⟨_, _, h⟩ := bind_eq_ok.mp h
    obtain ⟨_, _, h⟩ := bind_eq_ok.mp h
    obtain ⟨_, hlt, h⟩ := bind_eq_ok.mp h
    obtain ⟨_, _, h⟩ := bind_eq_ok.mp h
    cases h
    exact ⟨rfl, require_eq_ok.mp hlt⟩

/-- The markets have different ids, and positive lengths. -/
structure IsTimeline (timeline : List MarketRecord) : Prop where
  nodup : (timeline.map (·.conditionId)).Nodup
  pos : ∀ market ∈ timeline, market.marketStartAt < market.marketEndAt

/-- **A time line has one market for each id of the dataset, of a positive length.** -/
theorem timeline_spec {dataset : DatasetSnapshot} {timeline : List MarketRecord}
    (h : buildMarketTimeline dataset = .ok timeline) : IsTimeline timeline := by
  unfold buildMarketTimeline at h
  obtain ⟨markets, hmarkets, h⟩ := bind_eq_ok.mp h
  cases h
  have hrecords := forall₂_of_mapM hmarkets
  have hids : markets.map (·.conditionId) = (dataset.rows.map (·.conditionId)).eraseDups := by
    have hspec := hrecords.imp fun _ _ hrecord => (marketRecord_spec hrecord).1
    refine List.forall₂_eq_eq_eq ▸ ?_
    rw [List.forall₂_map_left_iff]
    exact hspec.flip
  have hperm := List.perm_insertionSort startsFirst markets
  constructor
  · rw [(hperm.map _).nodup_iff, hids]
    exact nodup_eraseDups _
  · intro market hmarket
    exact forall_right_of_forall₂ hrecords (fun _ _ hrecord => (marketRecord_spec hrecord).2) market
      (hperm.mem_iff.mp hmarket)

/-! ## Splits -/

theorem contained_iff {a b : Timestamp} {market : MarketRecord} :
    contained a b market = true ↔
      Within MarketRecord.marketStartAt MarketRecord.marketEndAt a b market := decide_eq_true_iff

theorem crossesBoundary_iff {boundary : Timestamp} {market : MarketRecord} :
    crossesBoundary market boundary = true ↔
      Straddles MarketRecord.marketStartAt MarketRecord.marketEndAt boundary market :=
  decide_eq_true_iff

/-- The ids an embargo keeps and the ones it removes are the ids there were. -/
theorem embargo_append (records : List MarketRecord) (count : ℕ) :
    (embargoEarlierPartition records count).1.map (·.conditionId) ++
      (embargoEarlierPartition records count).2 = records.map (·.conditionId) := by
  unfold embargoEarlierPartition
  split_ifs with h
  · simp
  · rw [← List.map_append, List.take_append_drop]

theorem mem_of_mem_kept {records : List MarketRecord} {count : ℕ} {conditionId : String}
    (h : conditionId ∈ (embargoEarlierPartition records count).1.map (·.conditionId)) :
    ∃ market ∈ records, market.conditionId = conditionId := by
  have hmem : conditionId ∈ records.map (·.conditionId) := by
    rw [← embargo_append records count]
    exact List.mem_append_left _ h
  exact List.mem_map.mp hmem

/-- **What keeps a split from leaking**: its partitions are in the order of time, and each market of
its whole window is in exactly one of them, under embargo or purged. -/
structure NoLeak (timeline : List MarketRecord) (train validation test : FoldPartition)
    (embargo purged : List String) : Prop where
  members : ∀ conditionId ∈ train.conditionIds ++ validation.conditionIds ++ test.conditionIds,
    ∃ market ∈ timeline, market.conditionId = conditionId
  train_before_validation : ∀ x ∈ timeline, ∀ y ∈ timeline, x.conditionId ∈ train.conditionIds →
    y.conditionId ∈ validation.conditionIds → x.marketEndAt ≤ y.marketStartAt
  validation_before_test : ∀ x ∈ timeline, ∀ y ∈ timeline,
    x.conditionId ∈ validation.conditionIds → y.conditionId ∈ test.conditionIds →
      x.marketEndAt ≤ y.marketStartAt
  exactly_once : ∀ x ∈ timeline, train.start ≤ x.marketStartAt → x.marketEndAt ≤ test.finish →
    (train.conditionIds ++ validation.conditionIds ++ test.conditionIds ++ embargo ++
      purged).count x.conditionId = 1

section Split

variable {timeline : List MarketRecord} (hline : IsTimeline timeline)

include hline in
theorem eq_of_conditionId {x y : MarketRecord} (hx : x ∈ timeline) (hy : y ∈ timeline)
    (h : x.conditionId = y.conditionId) : x = y :=
  List.inj_on_of_nodup_map hline.nodup hx hy h

include hline in
/-- A market whose id is listed from a window is within the window. -/
theorem contained_of_mem {a b : Timestamp} {x : MarketRecord} (hx : x ∈ timeline)
    (h : ∃ y ∈ timeline.filter (contained a b), y.conditionId = x.conditionId) :
    Within MarketRecord.marketStartAt MarketRecord.marketEndAt a b x := by
  obtain ⟨y, hy, hyx⟩ := h
  obtain ⟨hyl, hyc⟩ := List.mem_filter.mp hy
  rw [← eq_of_conditionId hline hyl hx hyx]
  exact contained_iff.mp hyc

variable {trainName validationName testName : String} {embargoMarkets : ℕ} {a b c d : Timestamp}

include hline in
/-- How often a split lists a market: once for each of its windows that contains it, and once if a
boundary purges it. -/
theorem count_split {x : MarketRecord} (hx : x ∈ timeline) :
    let s := split timeline embargoMarkets trainName validationName testName a b c d
    (s.train.conditionIds ++ s.validation.conditionIds ++ s.test.conditionIds ++ s.embargo ++
        s.purged).count x.conditionId =
      (if contained a b x = true then 1 else 0) + (if contained b c x = true then 1 else 0) +
        (if contained c d x = true then 1 else 0) +
        (if [a, b, c, d].any (crossesBoundary x) = true then 1 else 0) := by
  intro s
  have htrain := congrArg (List.count x.conditionId)
    (embargo_append (timeline.filter (contained a b)) embargoMarkets)
  have hvalidation := congrArg (List.count x.conditionId)
    (embargo_append (timeline.filter (contained b c)) embargoMarkets)
  rw [List.count_append] at htrain hvalidation
  have hcount := count_map_filter hline.nodup hx
  rw [hcount] at htrain hvalidation
  have htest : s.test.conditionIds.count x.conditionId = _ := hcount (contained c d)
  have hpurged : s.purged.count x.conditionId = _ :=
    hcount fun market => [a, b, c, d].any (crossesBoundary market)
  rw [List.count_append, List.count_append, List.count_append, List.count_append, htest, hpurged,
    ← htrain, ← hvalidation]
  show _ + _ + _ + List.count x.conditionId (_ ++ _) + _ = _
  rw [List.count_append]
  simp only [s, split, partition]
  omega

include hline in
/-- **A split of adjacent windows does not leak.** -/
theorem noLeak_split (hbc : b ≤ c) :
    let s := split timeline embargoMarkets trainName validationName testName a b c d
    NoLeak timeline s.train s.validation s.test s.embargo s.purged := by
  intro s
  refine ⟨?_, ?_, ?_, ?_⟩
  · intro id hid
    have hkept : ∀ {p q : Timestamp} {n : ℕ},
        id ∈ (embargoEarlierPartition (timeline.filter (contained p q)) n).1.map (·.conditionId) →
          ∃ market ∈ timeline, market.conditionId = id := by
      intro p q n h
      obtain ⟨market, hmarket, hid⟩ := mem_of_mem_kept h
      exact ⟨market, (List.mem_filter.mp hmarket).1, hid⟩
    rcases List.mem_append.mp hid with hid | hid
    · rcases List.mem_append.mp hid with hid | hid
      · exact hkept hid
      · exact hkept hid
    · obtain ⟨market, hmarket, hid⟩ := List.mem_map.mp hid
      exact ⟨market, (List.mem_filter.mp hmarket).1, hid⟩
  · intro x hx y hy hxt hyv
    have hxw := contained_of_mem hline hx (mem_of_mem_kept hxt)
    have hyw := contained_of_mem hline hy (mem_of_mem_kept hyv)
    exact hxw.finish_le_start hyw le_rfl
  · intro x hx y hy hxv hyt
    have hxw := contained_of_mem hline hx (mem_of_mem_kept hxv)
    have hyw := contained_of_mem hline hy (List.mem_map.mp hyt)
    exact hxw.finish_le_start hyw le_rfl
  · intro x hx hstart hend
    rw [count_split hline hx]
    have hwhole : Within MarketRecord.marketStartAt MarketRecord.marketEndAt a d x :=
      ⟨hstart, hend⟩
    have hcount := within_count (hline.pos x hx) hbc hwhole
    simpa only [contained_iff, crossesBoundary_iff, List.any_cons, List.any_nil, Bool.or_false,
      Bool.or_eq_true] using hcount

end Split

/-! ## The loop over the folds -/

section Loop

variable {D : FoldDigests} {timeline : List MarketRecord} {config : WalkForwardConfig}
  {holdoutStart : ℤ}

/-- **What the loop leaves**: the folds at the step offsets, as long as their test windows end before
the holdout. -/
theorem foldsFrom_spec {fuel index : ℕ} {foldStart : Timestamp} {folds : List WalkForwardFold}
    (h : foldsFrom D timeline config holdoutStart fuel index foldStart = .ok folds) :
    (∀ (k : ℕ) (hk : k < folds.length),
      foldAt D timeline config (index + k) (foldStart + k * config.stepDuration) =
          .ok (folds.get ⟨k, hk⟩) ∧
        config.testEnd (foldStart + k * config.stepDuration) ≤ holdoutStart) ∧
      (folds.length = fuel ∨
        holdoutStart < config.testEnd (foldStart + folds.length * config.stepDuration)) := by
  induction fuel generalizing index foldStart folds with
  | zero =>
    cases h
    exact ⟨fun k hk => absurd hk (Nat.not_lt_zero k), Or.inl rfl⟩
  | succ fuel ih =>
    unfold foldsFrom at h
    split_ifs at h with hend
    · cases h
      refine ⟨fun k hk => absurd hk (Nat.not_lt_zero k), Or.inr ?_⟩
      simpa using hend
    · obtain ⟨fold, hfold, h⟩ := bind_eq_ok.mp h
      obtain ⟨rest, hrest, h⟩ := bind_eq_ok.mp h
      cases h
      obtain ⟨hat, hlast⟩ := ih hrest
      have hshift : ∀ k : ℕ, foldStart + config.stepDuration + k * config.stepDuration =
          foldStart + (k + 1 : ℕ) * config.stepDuration := by
        intro k
        push_cast
        ring
      constructor
      · intro k hk
        cases k with
        | zero =>
          refine ⟨by simpa using hfold, ?_⟩
          simpa using not_lt.mp hend
        | succ k =>
          have hk' : k < rest.length := Nat.lt_of_succ_lt_succ hk
          obtain ⟨hfoldAt, hle⟩ := hat k hk'
          rw [hshift] at hfoldAt hle
          rw [show index + 1 + k = index + (k + 1) by omega] at hfoldAt
          exact ⟨hfoldAt, hle⟩
      · rcases hlast with hlast | hlast
        · exact Or.inl (by rw [List.length_cons, hlast])
        · rw [hshift] at hlast
          exact Or.inr hlast

theorem testEnd_eq (foldStart : ℤ) : config.testEnd foldStart = foldStart + config.span := by
  unfold WalkForwardConfig.testEnd WalkForwardConfig.span
  ring

theorem span_pos : 0 < config.span := by
  have h1 := config.train_pos
  have h2 := config.validation_pos
  have h3 := config.test_pos
  unfold WalkForwardConfig.span
  omega

/-- **The folds are the step offsets whose test window ends before the holdout**: the fuel of the
loop is enough. -/
theorem lt_length_folds {index : ℕ} {foldStart : ℤ} {folds : List WalkForwardFold}
    (h : foldsFrom D timeline config holdoutStart (holdoutStart - foldStart).toNat index foldStart =
      .ok folds) (k : ℕ) :
    k < folds.length ↔ foldStart + k * config.stepDuration + config.span ≤ holdoutStart := by
  obtain ⟨hat, hlast⟩ := foldsFrom_spec h
  have hstep := config.step_pos
  have hspan : 0 < config.span := span_pos
  constructor
  · intro hk
    have hle := (hat k hk).2
    rwa [testEnd_eq] at hle
  · intro hk
    by_contra hlt
    have hmono : (folds.length : ℤ) * config.stepDuration ≤ k * config.stepDuration := by
      have : (folds.length : ℤ) ≤ k := by omega
      exact mul_le_mul_of_nonneg_right this hstep.le
    rcases hlast with hlast | hlast
    · -- as many folds as the loop has fuel would start at the holdout or after it
      have hfuel : (folds.length : ℤ) ≤ folds.length * config.stepDuration := by
        have hone : (1 : ℤ) ≤ config.stepDuration := hstep
        exact le_mul_of_one_le_right (by omega) hone
      omega
    · rw [testEnd_eq] at hlast
      omega

/-- A fold is the split of its windows. -/
theorem foldAt_spec {index : ℕ} {foldStart : Timestamp} {fold : WalkForwardFold}
    (h : foldAt D timeline config index foldStart = .ok fold) :
    fold.train = (config.foldSplit timeline foldStart).train ∧
      fold.validation = (config.foldSplit timeline foldStart).validation ∧
      fold.test = (config.foldSplit timeline foldStart).test ∧
      fold.purgedConditionIds = (config.foldSplit timeline foldStart).purged ∧
      fold.embargoConditionIds = (config.foldSplit timeline foldStart).embargo := by
  unfold foldAt at h
  obtain ⟨_, _, h⟩ := bind_eq_ok.mp h
  cases h
  exact ⟨rfl, rfl, rfl, rfl, rfl⟩

end Loop

/-! ## The plan -/

/-- **What a plan guarantees** about the markets of its dataset. -/
structure DoesNotLeak (timeline : List MarketRecord) (dataset : DatasetSnapshot)
    (config : WalkForwardConfig) (plan : WalkForwardPlan) : Prop where
  folds_noLeak : ∀ fold ∈ plan.folds, NoLeak timeline fold.train fold.validation fold.test
    fold.embargoConditionIds fold.purgedConditionIds
  final_noLeak : NoLeak timeline plan.finalTrain plan.finalValidation plan.finalHoldout
    plan.finalEmbargoConditionIds plan.finalPurgedConditionIds
  tests_disjoint : plan.folds.Pairwise fun fold later =>
    ∀ conditionId ∈ fold.test.conditionIds, conditionId ∉ later.test.conditionIds
  holdout_apart : ∀ fold ∈ plan.folds, ∀ conditionId ∈ plan.finalHoldout.conditionIds,
    conditionId ∉ fold.train.conditionIds ++ fold.validation.conditionIds ++ fold.test.conditionIds
  folds_length : plan.folds.length =
    {k : ℕ | dataset.start + k * config.stepDuration + config.trainDuration +
      config.validationDuration + config.testDuration ≤
        dataset.finish - config.finalHoldoutDuration}.ncard

section Plan

variable {timeline : List MarketRecord} (hline : IsTimeline timeline)

include hline in
/-- A partition of a split lists markets within the window of the split that ends with it. -/
theorem within_of_mem_split {trainName validationName testName : String} {embargoMarkets : ℕ}
    {a b c d : Timestamp} (hab : a ≤ b) (hbc : b ≤ c) (hcd : c ≤ d) {x : MarketRecord}
    (hx : x ∈ timeline)
    {s : Split} (hs : s = split timeline embargoMarkets trainName validationName testName a b c d)
    (h : x.conditionId ∈
      s.train.conditionIds ++ s.validation.conditionIds ++ s.test.conditionIds) :
    Within MarketRecord.marketStartAt MarketRecord.marketEndAt a d x := by
  subst hs
  rcases List.mem_append.mp h with h | h
  · rcases List.mem_append.mp h with h | h
    · have hw := contained_of_mem hline hx (mem_of_mem_kept h)
      exact hw.mono le_rfl (hbc.trans hcd)
    · have hw := contained_of_mem hline hx (mem_of_mem_kept h)
      exact hw.mono hab hcd
  · have hw := contained_of_mem hline hx (List.mem_map.mp h)
    exact hw.mono (hab.trans hbc) le_rfl

include hline in
/-- Windows one of which ends before the other have no market in common. -/
theorem not_mem_of_apart {ids ids' : List String} {a b c d : Timestamp} (hbc : b ≤ c)
    (hids : ∀ x ∈ timeline, x.conditionId ∈ ids →
      Within MarketRecord.marketStartAt MarketRecord.marketEndAt a b x)
    (hids' : ∀ x ∈ timeline, x.conditionId ∈ ids' →
      Within MarketRecord.marketStartAt MarketRecord.marketEndAt c d x)
    (hmember : ∀ conditionId ∈ ids, ∃ x ∈ timeline, x.conditionId = conditionId) :
    ∀ conditionId ∈ ids, conditionId ∉ ids' := by
  intro id hid hid'
  obtain ⟨x, hx, rfl⟩ := hmember id hid
  exact (hids x hx hid).not_within (hline.pos x hx) hbc (hids' x hx hid')

end Plan

/-- The test window of a fold ends before the ones of later folds start, and before the holdout. -/
theorem test_windows {config : WalkForwardConfig} {start : ℤ} {i j : ℕ} (hij : i < j) :
    start + i * config.stepDuration + config.span ≤
      start + j * config.stepDuration + config.trainDuration + config.validationDuration := by
  have hstep := config.step_pos
  have hle := config.test_le_step
  have hmono : (i : ℤ) * config.stepDuration + config.stepDuration ≤ j * config.stepDuration := by
    have hsucc : (i : ℤ) + 1 ≤ j := by omega
    calc (i : ℤ) * config.stepDuration + config.stepDuration
        = ((i : ℤ) + 1) * config.stepDuration := by ring
      _ ≤ j * config.stepDuration := mul_le_mul_of_nonneg_right hsucc hstep.le
  unfold WalkForwardConfig.span
  omega

section Folds

variable {D : FoldDigests} {timeline : List MarketRecord} (hline : IsTimeline timeline)
  {config : WalkForwardConfig} {holdoutStart foldStart : ℤ} {fuel : ℕ}
  {folds : List WalkForwardFold}
  (h : foldsFrom D timeline config holdoutStart fuel 0 foldStart = .ok folds)

include h in
/-- The k-th fold is the split at the k-th step offset. -/
theorem get_eq_split (k : Fin folds.length) :
    let s := config.foldSplit timeline (foldStart + (k : ℕ) * config.stepDuration)
    (folds.get k).train = s.train ∧ (folds.get k).validation = s.validation ∧
      (folds.get k).test = s.test ∧ (folds.get k).purgedConditionIds = s.purged ∧
      (folds.get k).embargoConditionIds = s.embargo :=
  foldAt_spec ((foldsFrom_spec h).1 k k.isLt).1

include hline h in
theorem noLeak_fold {fold : WalkForwardFold} (hfold : fold ∈ folds) :
    NoLeak timeline fold.train fold.validation fold.test fold.embargoConditionIds
      fold.purgedConditionIds := by
  obtain ⟨k, rfl⟩ := List.mem_iff_get.mp hfold
  obtain ⟨htrain, hvalidation, htest, hpurged, hembargo⟩ := get_eq_split h k
  rw [htrain, hvalidation, htest, hpurged, hembargo]
  have hpos := config.validation_pos
  exact noLeak_split hline
    (le_add_of_nonneg_right hpos.le)

include hline h in
/-- The markets of a fold lie in its span. -/
theorem within_of_mem_fold (k : Fin folds.length) {x : MarketRecord} (hx : x ∈ timeline)
    (hmem : x.conditionId ∈ (folds.get k).train.conditionIds ++
      (folds.get k).validation.conditionIds ++ (folds.get k).test.conditionIds) :
    Within MarketRecord.marketStartAt MarketRecord.marketEndAt
      (foldStart + (k : ℕ) * config.stepDuration)
      (config.testEnd (foldStart + (k : ℕ) * config.stepDuration)) x := by
  obtain ⟨htrain, hvalidation, htest, -, -⟩ := get_eq_split h k
  rw [htrain, hvalidation, htest] at hmem
  exact within_of_mem_split hline
    (le_add_of_nonneg_right config.train_pos.le) (le_add_of_nonneg_right config.validation_pos.le)
    (le_add_of_nonneg_right config.test_pos.le) hx rfl hmem

include hline h in
/-- The test markets of a fold lie in its test window. -/
theorem within_of_mem_test (k : Fin folds.length) {x : MarketRecord} (hx : x ∈ timeline)
    (hmem : x.conditionId ∈ (folds.get k).test.conditionIds) :
    Within MarketRecord.marketStartAt MarketRecord.marketEndAt
      (foldStart + (k : ℕ) * config.stepDuration + config.trainDuration +
        config.validationDuration)
      (foldStart + (k : ℕ) * config.stepDuration + config.span) x := by
  obtain ⟨-, -, htest, -, -⟩ := get_eq_split h k
  rw [htest] at hmem
  rw [← testEnd_eq]
  exact contained_of_mem hline hx (List.mem_map.mp hmem)

include hline h in
/-- **No market is tested by two folds.** -/
theorem tests_disjoint : folds.Pairwise fun fold later =>
    ∀ conditionId ∈ fold.test.conditionIds, conditionId ∉ later.test.conditionIds := by
  rw [List.pairwise_iff_get]
  intro i j hij
  refine not_mem_of_apart hline (test_windows hij)
    (fun x hx => within_of_mem_test hline h i hx) (fun x hx => within_of_mem_test hline h j hx) ?_
  intro id hid
  exact (noLeak_fold hline h (List.get_mem folds i)).members id (List.mem_append_right _ hid)

include hline h in
/-- **No market of a fold is one of the holdout.** -/
theorem holdout_apart {finish : ℤ} {ids : List String}
    (hids : ∀ x ∈ timeline, x.conditionId ∈ ids →
      Within MarketRecord.marketStartAt MarketRecord.marketEndAt holdoutStart finish x)
    {fold : WalkForwardFold} (hfold : fold ∈ folds) : ∀ conditionId ∈ ids,
      conditionId ∉
        fold.train.conditionIds ++ fold.validation.conditionIds ++ fold.test.conditionIds := by
  intro id hid hmem
  obtain ⟨k, rfl⟩ := List.mem_iff_get.mp hfold
  have hend := ((foldsFrom_spec h).1 k k.isLt).2
  exact not_mem_of_apart hline hend (fun x hx => within_of_mem_fold hline h k hx) hids
    (noLeak_fold hline h hfold).members id hmem hid

end Folds

/-- The offsets below a bound are as many as the bound says. -/
theorem ncard_offsets {p : ℕ → Prop} {n : ℕ} (h : ∀ k, k < n ↔ p k) : n = {k : ℕ | p k}.ncard := by
  have hset : {k : ℕ | p k} = Set.Iio n := Set.ext fun k => (h k).symm
  rw [hset, Set.ncard_eq_toFinset_card']
  simp

/-- **A walk-forward plan does not leak.** -/
theorem walkForwardPlan_doesNotLeak {D : FoldDigests} {dataset : DatasetSnapshot}
    {config : WalkForwardConfig} {plan : WalkForwardPlan}
    (h : buildWalkForwardPlan D dataset config = .ok plan) :
    ∃ timeline, buildMarketTimeline dataset = .ok timeline ∧
      DoesNotLeak timeline dataset config plan := by
  unfold buildWalkForwardPlan at h
  obtain ⟨_, -, h⟩ := bind_eq_ok.mp h
  obtain ⟨timeline, htimeline, h⟩ := bind_eq_ok.mp h
  obtain ⟨_, -, h⟩ := bind_eq_ok.mp h
  obtain ⟨folds, hfolds, h⟩ := bind_eq_ok.mp h
  obtain ⟨_, -, h⟩ := bind_eq_ok.mp h
  obtain ⟨_, -, h⟩ := bind_eq_ok.mp h
  obtain ⟨_, -, h⟩ := bind_eq_ok.mp h
  cases h
  have hline := timeline_spec htimeline
  have hvalidation := config.validation_pos
  refine ⟨timeline, htimeline, ?_, ?_, ?_, ?_, ?_⟩
  · exact fun fold hfold => noLeak_fold hline hfolds hfold
  · exact noLeak_split hline
      (sub_le_self _ hvalidation.le)
  · exact tests_disjoint hline hfolds
  · intro fold hfold
    refine @holdout_apart _ _ hline _ _ _ _ _ hfolds dataset.finish _ (fun x hx hmem => ?_) _ hfold
    exact contained_of_mem hline hx (List.mem_map.mp hmem)
  · refine ncard_offsets fun k => (lt_length_folds hfolds k).trans ?_
    rw [← testEnd_eq]
    exact Iff.rfl

/-! ### A plan of three folds -/

/-- Eighteen markets in a row, one after the other. -/
def rowOfMarkets : DatasetSnapshot where
  horizonSeconds := 300
  start := 0
  finish := 18
  rows := (List.range 18).map fun i =>
    ⟨toString i, "btc-updown-5m-" ++ toString i, 300, i, i + 1, i % 2⟩
  datasetSha256 := ""

/-- Windows of three markets. -/
def threeMarketWindows : WalkForwardConfig where
  trainDuration := 3
  validationDuration := 3
  testDuration := 3
  stepDuration := 3
  finalHoldoutDuration := 3
  minTrainMarkets := 1
  minValidationMarkets := 1
  minTestMarkets := 1
  train_pos := by decide
  validation_pos := by decide
  test_pos := by decide
  step_pos := by decide
  holdout_pos := by decide
  test_le_step := by decide

/-- Digests that are all the same. -/
def noDigests : FoldDigests := ⟨fun _ _ _ _ _ _ => "", fun _ _ _ _ _ => "", fun _ _ _ _ => ""⟩

/-- The theorem at a plan of three folds. -/
theorem walkForwardPlan_doesNotLeak_sample :
    ∃ plan timeline, buildWalkForwardPlan noDigests rowOfMarkets threeMarketWindows = .ok plan ∧
      buildMarketTimeline rowOfMarkets = .ok timeline ∧
        DoesNotLeak timeline rowOfMarkets threeMarketWindows plan := by
  obtain ⟨plan, hplan⟩ := exists_ok_of_isOk
    (x := buildWalkForwardPlan noDigests rowOfMarkets threeMarketWindows) (by decide +kernel)
  obtain ⟨timeline, htimeline, hleak⟩ := walkForwardPlan_doesNotLeak hplan
  exact ⟨plan, timeline, hplan, htimeline, hleak⟩

end BpEngine.Backtesting
