import BpEngine.Backtesting.WalkForward
import BpEngine.V4Research.Plan

/-!
# What a plan guarantees, and when there is one

* `buildMarkets_eq_ok`: the markets of the plan are those of the rows, and those the readiness report
  counts.
* `splitLaw` says of three adjacent windows that every market within them is in one part of the split
  only, and that the parts have the previewed sizes.
* `plan_law`: the splits of a plan, and that a plan can be made when the report is ready.
-/

namespace BpEngine.V4Research

open BpEngine.Features BpEngine.Features.Coverage
open BpEngine.Windows (Within Straddles within_count count_map_filter)
open Batch (nodup_eraseDups)

variable {F : Type} {A : CoverageFloats F} {config : V4GateBConfig F}

/-! ## The markets of rows -/

/-- A market and the rows it was made of. -/
structure MarketOf (config : V4GateBConfig F) (conditionId : String) (rows : List FeatureRow)
    (market : PlanMarket) : Prop where
  id : market.conditionId = conditionId
  nonempty : rows ≠ []
  times : ∀ row ∈ rows, row.marketStartAt = market.marketStartAt ∧ row.marketEndAt = market.marketEndAt
  length : market.marketEndAt = afterSeconds market.marketStartAt config.horizonSeconds
  offsets_nodup : (rows.map (·.featureOffsetSeconds)).Nodup
  offsets : (rows.map (·.featureOffsetSeconds)).toFinset = config.featureOffsetsSeconds.toFinset

theorem buildMarket_eq_ok {conditionId : String} {rows : List FeatureRow} {market : PlanMarket}
    (h : buildMarket config conditionId rows = .ok market) : MarketOf config conditionId rows market := by
  cases rows with
  | nil => cases h
  | cons first rest =>
    obtain ⟨_, -, h⟩ := bind_eq_ok.mp h
    obtain ⟨_, hbounds, h⟩ := bind_eq_ok.mp h
    obtain ⟨_, hrows, h⟩ := bind_eq_ok.mp h
    obtain ⟨_, hnodup, h⟩ := bind_eq_ok.mp h
    obtain ⟨_, hoffsets, h⟩ := bind_eq_ok.mp h
    cases h
    refine ⟨rfl, List.cons_ne_nil _ _, ?_, require_eq_ok.mp hbounds, require_eq_ok.mp hnodup,
      require_eq_ok.mp hoffsets⟩
    intro row hrow
    have hchecked := forM_eq_ok.mp hrows row hrow
    obtain ⟨_, hstatic, -⟩ := bind_eq_ok.mp hchecked
    have hidentity := require_eq_ok.mp hstatic
    simp only [FeatureRow.staticIdentity, Prod.mk.injEq] at hidentity
    exact hidentity.2.2

theorem dedup_of_forall {α β : Type} [DecidableEq β] {f : α → β} {l : List α} {b : β} (hne : l ≠ [])
    (h : ∀ a ∈ l, f a = b) : (l.map f).dedup = [b] := by
  have hreplicate : l.map f = List.replicate l.length b := by
    rw [List.eq_replicate_iff]
    refine ⟨List.length_map f, ?_⟩
    intro c hc
    obtain ⟨a, ha, rfl⟩ := List.mem_map.mp hc
    exact h a ha
  rw [hreplicate]
  exact List.replicate_dedup (List.length_pos_iff.mpr hne).ne'

/-- **The report counts a market of the plan, with its times.** -/
theorem MarketOf.preview {conditionId : String} {rows rows' : List FeatureRow} {market : PlanMarket}
    (h : MarketOf config conditionId rows market) (hperm : rows'.Perm rows) :
    previewMarket config.featureOffsetsSeconds.toFinset rows' =
      some (market.marketStartAt, market.marketEndAt) := by
  have hne : rows' ≠ [] := fun hnil => h.nonempty (List.perm_nil.mp (hnil ▸ hperm.symm))
  have hoffsets := hperm.map (·.featureOffsetSeconds)
  have hset : (rows'.map (·.featureOffsetSeconds)).toFinset = config.featureOffsetsSeconds.toFinset :=
    (List.toFinset_eq_of_perm _ _ hoffsets).trans h.offsets
  have hcard : (rows'.map (·.featureOffsetSeconds)).length =
      config.featureOffsetsSeconds.toFinset.card := by
    rw [← hset, List.toFinset_card_of_nodup (hoffsets.nodup_iff.mpr h.offsets_nodup)]
  have hstart : (rows'.map (·.marketStartAt)).dedup = [market.marketStartAt] :=
    dedup_of_forall hne fun row hrow => (h.times row (hperm.mem_iff.mp hrow)).1
  have hend : (rows'.map (·.marketEndAt)).dedup = [market.marketEndAt] :=
    dedup_of_forall hne fun row hrow => (h.times row (hperm.mem_iff.mp hrow)).2
  unfold previewMarket
  dsimp only
  rw [if_neg (not_or.mpr ⟨not_not.mpr hcard, not_not.mpr hset⟩), hstart, hend]

theorem exists_right_of_forall₂ {α β : Type} {R : α → β → Prop} {l : List α} {r : List β}
    (h : List.Forall₂ R l r) : ∀ a ∈ l, ∃ b ∈ r, R a b := by
  induction h with
  | nil => exact fun a ha => nomatch ha
  | cons hab _ ih =>
    intro a ha
    rcases List.mem_cons.mp ha with rfl | ha
    · exact ⟨_, List.mem_cons_self, hab⟩
    · obtain ⟨b, hb, hR⟩ := ih a ha
      exact ⟨b, List.mem_cons_of_mem _ hb, hR⟩

theorem filterMap_eq_map_of_forall₂ {α β γ : Type} {R : α → β → Prop} {f : α → Option γ} {g : β → γ}
    {l : List α} {r : List β} (h : List.Forall₂ R l r) (hR : ∀ a b, R a b → f a = some (g b)) :
    l.filterMap f = r.map g := by
  induction h with
  | nil => rfl
  | cons hab _ ih => rw [List.filterMap_cons_some (hR _ _ hab), List.map_cons, ih]

/-- The times of a market. -/
def timesOf (market : PlanMarket) : Timestamp × Timestamp :=
  (market.marketStartAt, market.marketEndAt)

/-- The markets of rows: one for each id, with the times of its rows, as the report counts them. -/
structure MarketsOf (config : V4GateBConfig F) (rows : List FeatureRow) (markets : List PlanMarket) :
    Prop where
  nodup : (conditionIds markets).Nodup
  lengths : ∀ market ∈ markets,
    market.marketEndAt = afterSeconds market.marketStartAt config.horizonSeconds
  of_row : ∀ row ∈ rows, ∃ market ∈ markets, market.conditionId = row.conditionId ∧
    row.marketStartAt = market.marketStartAt ∧ row.marketEndAt = market.marketEndAt
  preview : ∀ rows' : List FeatureRow, rows'.Perm rows →
    ((grouped rows').filterMap fun market =>
      previewMarket config.featureOffsetsSeconds.toFinset market.2).Perm (markets.map timesOf)

theorem mem_grouped {rows : List FeatureRow} {market : String × List FeatureRow}
    (h : market ∈ grouped rows) :
    market.1 ∈ rows.map (·.conditionId) ∧
      market.2 = rows.filter fun row => row.conditionId = market.1 := by
  obtain ⟨conditionId, hid, rfl⟩ := List.mem_map.mp h
  exact ⟨List.mem_eraseDups.mp hid, rfl⟩

theorem grouped_of_mem {rows : List FeatureRow} {row : FeatureRow} (h : row ∈ rows) :
    (row.conditionId, rows.filter fun other => other.conditionId = row.conditionId) ∈ grouped rows :=
  List.mem_map.mpr ⟨row.conditionId, List.mem_eraseDups.mpr (List.mem_map_of_mem h), rfl⟩

/-- The markets that the report counts do not depend on the order of the rows. -/
theorem preview_perm {rows rows' : List FeatureRow} {markets : List PlanMarket}
    (hmarkets : List.Forall₂ (fun entry market => MarketOf config entry.1 entry.2 market) (grouped rows)
      markets) (hperm : rows'.Perm rows) :
    ((grouped rows').filterMap fun market =>
      previewMarket config.featureOffsetsSeconds.toFinset market.2).Perm (markets.map timesOf) := by
  have hsame : ∀ conditionId ∈ (rows'.map (·.conditionId)).eraseDups,
      previewMarket config.featureOffsetsSeconds.toFinset
          (rows'.filter fun row => row.conditionId = conditionId) =
        previewMarket config.featureOffsetsSeconds.toFinset
          (rows.filter fun row => row.conditionId = conditionId) := by
    intro conditionId hid
    have hmem : (conditionId, rows.filter fun row => row.conditionId = conditionId) ∈ grouped rows := by
      obtain ⟨row, hrow, rfl⟩ := List.mem_map.mp (List.mem_eraseDups.mp hid)
      exact grouped_of_mem (hperm.mem_iff.mp hrow)
    obtain ⟨market, -, hmarket⟩ := exists_right_of_forall₂ hmarkets _ hmem
    rw [hmarket.preview (hperm.filter _), hmarket.preview (List.Perm.refl _)]
  have hids : ((rows'.map (·.conditionId)).eraseDups).Perm (rows.map (·.conditionId)).eraseDups := by
    refine (List.perm_ext_iff_of_nodup (nodup_eraseDups _) (nodup_eraseDups _)).mpr fun conditionId => ?_
    rw [List.mem_eraseDups, List.mem_eraseDups, (hperm.map _).mem_iff]
  have hcounted : (grouped rows).filterMap (fun market =>
      previewMarket config.featureOffsetsSeconds.toFinset market.2) = markets.map timesOf :=
    filterMap_eq_map_of_forall₂ hmarkets fun entry market h => h.preview (List.Perm.refl _)
  rw [← hcounted]
  unfold grouped
  rw [List.filterMap_map, List.filterMap_map]
  have hfirst := List.filterMap_congr hsame
  simp only [Function.comp_def]
  rw [hfirst]
  exact hids.filterMap _

theorem buildMarkets_eq_ok {rows : List FeatureRow} {markets : List PlanMarket} {manifest : String}
    (h : buildMarkets A rows config = .ok (markets, manifest)) : MarketsOf config rows markets := by
  obtain ⟨built, hbuilt, h⟩ := bind_eq_ok.mp h
  obtain ⟨_, -, h⟩ := bind_eq_ok.mp h
  cases h
  have hall := (forall₂_of_mapM hbuilt).imp fun _ _ h => buildMarket_eq_ok h
  have hsorted := List.perm_insertionSort (fun a b => marketKey a ≤ marketKey b) built
  have hids : conditionIds built = (grouped rows).map (·.1) := by
    refine List.forall₂_eq_eq_eq ▸ ?_
    unfold conditionIds
    rw [List.forall₂_map_left_iff, List.forall₂_map_right_iff]
    exact hall.flip.imp fun _ _ h => h.id
  refine ⟨?_, ?_, ?_, ?_⟩
  · unfold conditionIds
    rw [(hsorted.map _).nodup_iff]
    change (conditionIds built).Nodup
    rw [hids, grouped, List.map_map]
    simpa [Function.comp_def] using nodup_eraseDups (rows.map (·.conditionId))
  · intro market hmarket
    exact forall_right_of_forall₂ hall (fun _ _ h => h.length) market (hsorted.mem_iff.mp hmarket)
  · intro row hrow
    obtain ⟨market, hmarket, hof⟩ := exists_right_of_forall₂ hall _ (grouped_of_mem hrow)
    refine ⟨market, hsorted.mem_iff.mpr hmarket, hof.id, hof.times row ?_⟩
    exact List.mem_filter.mpr ⟨hrow, decide_eq_true rfl⟩
  · intro rows' hperm
    exact (preview_perm hall hperm).trans (hsorted.map timesOf).symm

/-! ## The embargo -/

/-- The markets an embargo keeps, and the ids it removes. -/
structure Embargoed (markets : List PlanMarket) (embargoMarkets : ℤ) (kept : List PlanMarket)
    (removed : List String) : Prop where
  ids : conditionIds kept ++ removed = conditionIds markets
  length : (kept.length : ℤ) = markets.length - embargoMarkets

theorem embargoEarlierSide_eq_ok {markets : List PlanMarket} {embargoMarkets : ℤ}
    {result : List PlanMarket × List String} (hembargo : 0 ≤ embargoMarkets)
    (h : embargoEarlierSide markets embargoMarkets = .ok result) :
    Embargoed markets embargoMarkets result.1 result.2 := by
  unfold embargoEarlierSide at h
  by_cases hzero : embargoMarkets = 0
  · rw [if_pos hzero] at h
    cases h
    exact ⟨List.append_nil _, by rw [hzero, sub_zero]⟩
  · rw [if_neg hzero] at h
    obtain ⟨_, hfits, h⟩ := bind_eq_ok.mp h
    cases h
    have hle := require_eq_ok.mp hfits
    refine ⟨?_, ?_⟩
    · unfold conditionIds
      rw [← List.map_append, List.take_append_drop]
    · rw [List.length_take]
      omega

/-- An embargo that is not larger than the partition can be made. -/
theorem embargoEarlierSide_ok {markets : List PlanMarket} {embargoMarkets : ℤ}
    (h : embargoMarkets ≤ markets.length) :
    ∃ result, embargoEarlierSide markets embargoMarkets = .ok result := by
  unfold embargoEarlierSide
  by_cases hzero : embargoMarkets = 0
  · exact ⟨_, if_pos hzero⟩
  · rw [if_neg hzero]
    have hfits : require (embargoMarkets ≤ markets.length) .v4PlanIntegrityError
        "partition is too small for frozen embargo" = .ok () := require_eq_ok.mpr h
    rw [hfits, ok_bind]
    exact ⟨_, rfl⟩

/-! ## Splits -/

/-- What a window cuts: it overlaps the window and is not contained. -/
def cuts (start finish : Timestamp) (market : PlanMarket) : Bool :=
  !contained start finish market && overlaps start finish market

/-- The parts of a split. -/
structure IsSplit (markets : List PlanMarket) (embargoMarkets : ℤ) (windows : Windows) (split : Split) :
    Prop where
  train : ∃ removed removed', split.embargo = removed ++ removed' ∧
    Embargoed (markets.filter (contained windows.trainStart windows.trainEnd)) embargoMarkets
      split.train removed ∧
    Embargoed (markets.filter (contained windows.trainEnd windows.validationEnd)) embargoMarkets
      split.validation removed'
  test : split.test = markets.filter (contained windows.validationEnd windows.testEnd)
  purged_nodup : split.purged.Nodup
  purged : ∀ conditionId, conditionId ∈ split.purged ↔
    ∃ market ∈ markets, market.conditionId = conditionId ∧
      (cuts windows.trainStart windows.trainEnd market = true ∨
        cuts windows.trainEnd windows.validationEnd market = true ∨
        cuts windows.validationEnd windows.testEnd market = true)

theorem splitMarkets_eq_ok {markets : List PlanMarket} {embargoMarkets : ℤ} {windows : Windows}
    {split : Split} (hembargo : 0 ≤ embargoMarkets)
    (h : splitMarkets markets embargoMarkets windows = .ok split) :
    IsSplit markets embargoMarkets windows split := by
  obtain ⟨keptTrain, htrain, h⟩ := bind_eq_ok.mp h
  obtain ⟨keptValidation, hvalidation, h⟩ := bind_eq_ok.mp h
  cases h
  refine ⟨⟨keptTrain.2, keptValidation.2, rfl, embargoEarlierSide_eq_ok hembargo htrain,
    embargoEarlierSide_eq_ok hembargo hvalidation⟩, rfl, ?_, ?_⟩
  · exact (List.perm_insertionSort _ _).nodup_iff.mpr (List.nodup_dedup _)
  · intro conditionId
    dsimp only
    rw [(List.perm_insertionSort _ _).mem_iff, List.mem_dedup]
    simp only [windowMembers, conditionIds, cuts, List.mem_append, List.mem_map, List.mem_filter]
    constructor
    · rintro ((⟨market, ⟨hmem, hcut⟩, rfl⟩ | ⟨market, ⟨hmem, hcut⟩, rfl⟩) | ⟨market, ⟨hmem, hcut⟩, rfl⟩)
      · exact ⟨market, hmem, rfl, .inl hcut⟩
      · exact ⟨market, hmem, rfl, .inr (.inl hcut)⟩
      · exact ⟨market, hmem, rfl, .inr (.inr hcut)⟩
    · rintro ⟨market, hmem, rfl, hcut | hcut | hcut⟩
      · exact .inl (.inl ⟨market, ⟨hmem, hcut⟩, rfl⟩)
      · exact .inl (.inr ⟨market, ⟨hmem, hcut⟩, rfl⟩)
      · exact .inr ⟨market, ⟨hmem, hcut⟩, rfl⟩

/-- The windows are in the order of time. -/
structure Windows.Ordered (windows : Windows) : Prop where
  train : windows.trainStart ≤ windows.trainEnd
  validation : windows.trainEnd ≤ windows.validationEnd
  test : windows.validationEnd ≤ windows.testEnd

theorem contained_iff {a b : Timestamp} {market : PlanMarket} :
    contained a b market = true ↔
      Within PlanMarket.marketStartAt PlanMarket.marketEndAt a b market := decide_eq_true_iff

theorem cuts_iff {a b : Timestamp} {market : PlanMarket} :
    cuts a b market = true ↔
      ¬ (a ≤ market.marketStartAt ∧ market.marketEndAt ≤ b) ∧
        market.marketStartAt < b ∧ a < market.marketEndAt := by
  unfold cuts contained overlaps
  simp only [Bool.and_eq_true, Bool.not_eq_true', decide_eq_true_iff, decide_eq_false_iff_not]

/-- What is cut by one of three adjacent windows, and is within all three taken together, straddles one
of their bounds. -/
theorem cuts_windows_iff {windows : Windows} (hordered : windows.Ordered) {market : PlanMarket}
    (hwithin : Within PlanMarket.marketStartAt PlanMarket.marketEndAt windows.trainStart windows.testEnd
      market) :
    (cuts windows.trainStart windows.trainEnd market = true ∨
        cuts windows.trainEnd windows.validationEnd market = true ∨
        cuts windows.validationEnd windows.testEnd market = true) ↔
      (Straddles PlanMarket.marketStartAt PlanMarket.marketEndAt windows.trainStart market ∨
        Straddles PlanMarket.marketStartAt PlanMarket.marketEndAt windows.trainEnd market ∨
        Straddles PlanMarket.marketStartAt PlanMarket.marketEndAt windows.validationEnd market ∨
        Straddles PlanMarket.marketStartAt PlanMarket.marketEndAt windows.testEnd market) := by
  obtain ⟨h1, h2, h3⟩ := hordered
  obtain ⟨hstart, hend⟩ := hwithin
  rw [cuts_iff, cuts_iff, cuts_iff]
  unfold Straddles
  constructor
  · rintro (⟨hnot, hlt, hgt⟩ | ⟨hnot, hlt, hgt⟩ | ⟨hnot, hlt, hgt⟩)
    · refine .inr (.inl ⟨hlt, ?_⟩)
      by_contra hle
      exact hnot ⟨hstart, not_lt.mp hle⟩
    · by_cases hbefore : market.marketStartAt < windows.trainEnd
      · exact .inr (.inl ⟨hbefore, hgt⟩)
      · refine .inr (.inr (.inl ⟨hlt, ?_⟩))
        by_contra hle
        exact hnot ⟨not_lt.mp hbefore, not_lt.mp hle⟩
    · refine .inr (.inr (.inl ⟨?_, hgt⟩))
      by_contra hle
      exact hnot ⟨not_lt.mp hle, hend⟩
  · rintro (⟨hlt, -⟩ | ⟨hlt, hgt⟩ | ⟨hlt, hgt⟩ | ⟨-, hgt⟩)
    · exact absurd hstart (not_le.mpr hlt)
    · exact .inl ⟨fun h => absurd h.2 (not_le.mpr hgt), hlt, h1.trans_lt hgt⟩
    · exact .inr (.inl ⟨fun h => absurd h.2 (not_le.mpr hgt), hlt, h2.trans_lt hgt⟩)
    · exact absurd hend (not_le.mpr hgt)

section Split

variable {markets : List PlanMarket} {embargoMarkets : ℤ} {windows : Windows} {split : Split}

/-- **A market within the windows of a split is in one of its parts only.** -/
theorem IsSplit.exactly_once (h : IsSplit markets embargoMarkets windows split)
    (hordered : windows.Ordered) (hnodup : (conditionIds markets).Nodup) {market : PlanMarket}
    (hmarket : market ∈ markets) (hpos : market.marketStartAt < market.marketEndAt)
    (hwithin : Within PlanMarket.marketStartAt PlanMarket.marketEndAt windows.trainStart windows.testEnd
      market) :
    (conditionIds split.train ++ conditionIds split.validation ++ conditionIds split.test ++
      split.embargo ++ split.purged).count market.conditionId = 1 := by
  have hfilter : ∀ a b, (conditionIds (markets.filter (contained a b))).count market.conditionId =
      if Within PlanMarket.marketStartAt PlanMarket.marketEndAt a b market then 1 else 0 := by
    intro a b
    refine (count_map_filter hnodup hmarket (contained a b)).trans ?_
    simp only [contained_iff]
  obtain ⟨removed, removed', hembargo, htrain, hvalidation⟩ := h.train
  have htrainCount := congrArg (List.count market.conditionId) htrain.ids
  have hvalidationCount := congrArg (List.count market.conditionId) hvalidation.ids
  rw [List.count_append, hfilter] at htrainCount hvalidationCount
  have htestCount := hfilter windows.validationEnd windows.testEnd
  rw [← h.test] at htestCount
  have hpurged : split.purged.count market.conditionId =
      if Straddles PlanMarket.marketStartAt PlanMarket.marketEndAt windows.trainStart market ∨
        Straddles PlanMarket.marketStartAt PlanMarket.marketEndAt windows.trainEnd market ∨
        Straddles PlanMarket.marketStartAt PlanMarket.marketEndAt windows.validationEnd market ∨
        Straddles PlanMarket.marketStartAt PlanMarket.marketEndAt windows.testEnd market then 1 else 0 := by
    rw [List.Nodup.count h.purged_nodup]
    refine if_congr ?_ rfl rfl
    rw [h.purged, ← cuts_windows_iff hordered hwithin]
    constructor
    · rintro ⟨other, hother, hid, hcut⟩
      rw [← List.inj_on_of_nodup_map hnodup hother hmarket hid]
      exact hcut
    · exact fun hcut => ⟨market, hmarket, rfl, hcut⟩
  have hcount := within_count hpos hordered.validation hwithin
  rw [hembargo]
  simp only [List.count_append]
  omega

/-- How many markets the report counts in a window. -/
theorem containedCount_eq {preview : List (Timestamp × Timestamp)}
    (hpreview : preview.Perm (markets.map timesOf)) (a b : Timestamp) :
    containedCount preview a b = (markets.filter (contained a b)).length := by
  unfold containedCount
  rw [(hpreview.filter _).length_eq, List.filter_map, List.length_map]
  rfl

/-- **The previewed sizes are those of the parts.** -/
theorem IsSplit.counts (h : IsSplit markets embargoMarkets windows split)
    {preview : List (Timestamp × Timestamp)} (hpreview : preview.Perm (markets.map timesOf)) :
    splitCounts preview embargoMarkets windows =
      ⟨split.train.length, split.validation.length, split.test.length⟩ := by
  obtain ⟨_, _, -, htrain, hvalidation⟩ := h.train
  unfold splitCounts
  simp only [containedCount_eq hpreview]
  rw [← htrain.length, ← hvalidation.length, h.test, max_eq_right (Int.natCast_nonneg _),
    max_eq_right (Int.natCast_nonneg _)]

/-- A split can be made when its first two parts are previewed with markets. -/
theorem splitMarkets_ok {preview : List (Timestamp × Timestamp)}
    (hpreview : preview.Perm (markets.map timesOf))
    (htrain : 0 < (splitCounts preview embargoMarkets windows).train)
    (hvalidation : 0 < (splitCounts preview embargoMarkets windows).validation) :
    ∃ split, splitMarkets markets embargoMarkets windows = .ok split := by
  simp only [splitCounts, containedCount_eq hpreview] at htrain hvalidation
  have hfitsTrain :
      embargoMarkets ≤ (markets.filter (contained windows.trainStart windows.trainEnd)).length := by
    omega
  have hfitsValidation :
      embargoMarkets ≤ (markets.filter (contained windows.trainEnd windows.validationEnd)).length := by
    omega
  obtain ⟨keptTrain, hkept⟩ := embargoEarlierSide_ok hfitsTrain
  obtain ⟨keptValidation, hkept'⟩ := embargoEarlierSide_ok hfitsValidation
  unfold splitMarkets windowMembers
  dsimp only
  rw [hkept, ok_bind, hkept', ok_bind]
  exact ⟨_, rfl⟩

/-- What a part of a split lists is within the windows. -/
theorem IsSplit.mem_within (h : IsSplit markets embargoMarkets windows split)
    (hordered : windows.Ordered) {conditionId : String}
    (hmem : conditionId ∈ conditionIds split.train ++ conditionIds split.validation ++
      conditionIds split.test) :
    conditionId ∈ conditionIds (markets.filter (contained windows.trainStart windows.testEnd)) := by
  obtain ⟨_, _, -, htrain, hvalidation⟩ := h.train
  have hwider : ∀ {a b}, windows.trainStart ≤ a → b ≤ windows.testEnd →
      conditionId ∈ conditionIds (markets.filter (contained a b)) →
        conditionId ∈ conditionIds (markets.filter (contained windows.trainStart windows.testEnd)) := by
    intro a b ha hb hid
    obtain ⟨market, hmarket, rfl⟩ := List.mem_map.mp hid
    obtain ⟨hmarket, hcontained⟩ := List.mem_filter.mp hmarket
    refine List.mem_map.mpr ⟨market, List.mem_filter.mpr ⟨hmarket, ?_⟩, rfl⟩
    exact contained_iff.mpr ((contained_iff.mp hcontained).mono ha hb)
  obtain ⟨h1, h2, h3⟩ := hordered
  rcases List.mem_append.mp hmem with hmem | hmem
  · rcases List.mem_append.mp hmem with hmem | hmem
    · refine hwider le_rfl (h2.trans h3) ?_
      rw [← htrain.ids]
      exact List.mem_append_left _ hmem
    · refine hwider h1 h3 ?_
      rw [← hvalidation.ids]
      exact List.mem_append_left _ hmem
  · rw [h.test] at hmem
    exact hwider (h1.trans h2) le_rfl hmem

/-- Windows one after the other have no market in common. -/
theorem contained_apart (hnodup : (conditionIds markets).Nodup)
    (hpos : ∀ market ∈ markets, market.marketStartAt < market.marketEndAt) {a b c d : Timestamp}
    (hbc : b ≤ c) : ∀ conditionId ∈ conditionIds (markets.filter (contained a b)),
      conditionId ∉ conditionIds (markets.filter (contained c d)) := by
  intro conditionId hid hid'
  obtain ⟨market, hmarket, rfl⟩ := List.mem_map.mp hid
  obtain ⟨other, hother, hsame⟩ := List.mem_map.mp hid'
  obtain ⟨hmarket, hcontained⟩ := List.mem_filter.mp hmarket
  obtain ⟨hother, hcontained'⟩ := List.mem_filter.mp hother
  rw [List.inj_on_of_nodup_map hnodup hother hmarket hsame] at hcontained'
  exact (contained_iff.mp hcontained).not_within (hpos market hmarket) hbc
    (contained_iff.mp hcontained')

end Split

/-! ## The windows of a configuration -/

section Geometry

variable (hgeometry : config.Geometry)

include hgeometry

theorem foldWindows_ordered (index : ℕ) : (config.foldWindows index).Ordered := by
  have htrain := hgeometry.train
  have hvalidation := hgeometry.validation
  have htest := hgeometry.test
  refine ⟨?_, ?_, ?_⟩
  · exact le_add_of_nonneg_right htrain.le
  · exact le_add_of_nonneg_right hvalidation.le
  · exact le_add_of_nonneg_right htest.le

theorem finalWindows_ordered : config.finalWindows.Ordered := by
  have htrain := hgeometry.train
  have hvalidation := hgeometry.validation
  have hholdout := hgeometry.holdout
  refine ⟨?_, ?_, ?_⟩
  · exact sub_le_self _ htrain.le
  · exact sub_le_self _ hvalidation.le
  · exact sub_le_self _ hholdout.le

/-- The test window of a fold ends before that of a later fold starts. -/
theorem tests_in_order {index later : ℕ} (h : index < later) :
    (config.foldWindows index).testEnd ≤ (config.foldWindows later).validationEnd := by
  have hstep := hgeometry.step
  have htest := hgeometry.test
  obtain ⟨more, rfl⟩ := Nat.exists_eq_add_of_lt h
  have hsteps : (0 : ℤ) ≤ more * config.stepDuration :=
    mul_nonneg (Int.natCast_nonneg _) (by linarith)
  unfold V4GateBConfig.foldWindows
  dsimp only
  push_cast
  linarith

/-- A fold ends before the holdout starts. -/
theorem fold_before_holdout {index : ℕ} (h : (index : ℤ) < config.ordinaryFoldCount) :
    (config.foldWindows index).testEnd ≤ config.finalWindows.validationEnd := by
  have hfits := hgeometry.folds index h
  unfold V4GateBConfig.firstFoldSpan V4GateBConfig.ordinarySpan at hfits
  unfold V4GateBConfig.foldWindows V4GateBConfig.finalWindows
  dsimp only
  linarith

end Geometry

/-! ## The report -/

theorem eligibleRows_perm (table : FeatureTable) : (eligibleRows table config).Perm (eligible table config) :=
  List.perm_insertionSort _ _

theorem loadFeatureRows_perm (table : FeatureTable) :
    (loadFeatureRows table config).Perm (eligible table config) := List.perm_insertionSort _ _

/-- The markets that the report counts. -/
def previewOf (config : V4GateBConfig F) (rows : List FeatureRow) : List (Timestamp × Timestamp) :=
  (grouped rows).filterMap fun market =>
    previewMarket config.featureOffsetsSeconds.toFinset market.2

/-- What a report says about the rows. -/
structure ReportOf (A : CoverageFloats F) (config : V4GateBConfig F) (rows : List FeatureRow)
    (report : ReadinessReport F) : Prop where
  counts : report.partitionMarketCounts = (partitionFeasibility rows config).1
  blockers : report.ready = true → (partitionFeasibility rows config).2 = []
  offsets : report.ready = true → hasCompleteOffsets rows config.featureOffsetsSeconds = true
  config_hash : ∃ hash, canonicalHash A.toFloats (configPayload A config) = .ok hash

theorem sortedReasons_isEmpty {blockers : List String} (h : (sortedReasons blockers).isEmpty = true) :
    blockers = [] := by
  have hperm := List.perm_insertionSort (fun a b : String => a ≤ b) blockers.dedup
  rw [show blockers.dedup.insertionSort (fun a b => a ≤ b) = [] from List.isEmpty_iff.mp h] at hperm
  exact List.eq_nil_iff_forall_not_mem.mpr fun reason hreason =>
    List.not_mem_nil (hperm.mem_iff.mpr (List.mem_dedup.mpr hreason))

/-- What is hashed first has a hash of its own. -/
theorem canonicalHash_first {floats : Floats F} {key : String} {value : Value F}
    {rest : List (String × Value F)} {hash : String}
    (h : canonicalHash floats (.obj ((key, value) :: rest)) = .ok hash) :
    ∃ first, canonicalHash floats value = .ok first := by
  obtain ⟨canonical, hcanonical, -⟩ := bind_eq_ok.mp h
  rw [canonicalize] at hcanonical
  obtain ⟨entries, hentries, -⟩ := bind_eq_ok.mp hcanonical
  rw [canonicalizeEntries] at hentries
  obtain ⟨first, hfirst, -⟩ := bind_eq_ok.mp hentries
  refine ⟨floats.digest first, ?_⟩
  unfold canonicalHash
  rw [hfirst, ok_bind]

theorem assessReadiness_eq_ok {table : FeatureTable} {asOf : Option Timestamp} {report : ReadinessReport F}
    (h : assessReadiness A table asOf config = .ok report) :
    ReportOf A config (eligibleRows table config) report := by
  obtain ⟨checkedAt, -, h⟩ := bind_eq_ok.mp h
  obtain ⟨coverage, -, h⟩ := bind_eq_ok.mp h
  obtain ⟨source, -, h⟩ := bind_eq_ok.mp h
  obtain ⟨regimes, -, h⟩ := bind_eq_ok.mp h
  obtain ⟨digest, hdigest, h⟩ := bind_eq_ok.mp h
  obtain rfl := Except.ok.inj h
  refine ⟨rfl, ?_, ?_, ?_⟩
  · intro hempty
    dsimp only at hempty
    have hnil := sortedReasons_isEmpty hempty
    unfold readinessBlockers at hnil
    simp only [List.append_eq_nil_iff, and_assoc] at hnil
    exact hnil.1
  · intro hempty
    dsimp only at hempty
    have hnil := sortedReasons_isEmpty hempty
    unfold readinessBlockers at hnil
    simp only [List.append_eq_nil_iff, and_assoc] at hnil
    have hoffsets := hnil.2.2.2.2.2.1
    unfold blockerIf at hoffsets
    by_contra hincomplete
    rw [Bool.not_eq_true] at hincomplete
    rw [hincomplete] at hoffsets
    cases hoffsets
  · unfold readinessValue at hdigest
    exact canonicalHash_first hdigest

/-- A split is not blocked when its parts have their minima. -/
theorem countBlockers_eq_nil {name lastName : String} {lastMinimum : ℤ} {counts : SplitCounts} :
    countBlockers config name lastName lastMinimum counts = [] ↔
      config.minTrainMarkets ≤ counts.train ∧ config.minValidationMarkets ≤ counts.validation ∧
        lastMinimum ≤ counts.test := by
  unfold countBlockers
  simp only [List.append_eq_nil_iff, ite_eq_right_iff, reduceCtorEq, imp_false, not_lt, and_assoc]

theorem partitionFeasibility_blockers {rows : List FeatureRow}
    (h : (partitionFeasibility rows config).2 = []) :
    (∀ index : ℕ, (index : ℤ) < config.ordinaryFoldCount →
      countBlockers config (foldName index) "test" config.minTestMarkets
        (splitCounts (previewOf config rows) config.embargoMarkets (config.foldWindows index)) = []) ∧
    countBlockers config "final" "holdout" config.minFinalHoldoutMarkets
      (splitCounts (previewOf config rows) config.embargoMarkets config.finalWindows) = [] := by
  obtain ⟨hfolds, hfinal⟩ := List.append_eq_nil_iff.mp h
  refine ⟨fun index hindex => ?_, hfinal⟩
  refine List.flatMap_eq_nil_iff.mp hfolds (_, index) (List.mem_zipIdx_iff_getElem?.mpr ?_)
  rw [List.getElem?_map, List.getElem?_range (by omega)]
  rfl

/-! ## Values that have a hash -/

/-- The value can be written in its canonical form. -/
def Canonical (floats : Floats F) (value : Value F) : Prop := ∃ written, canonicalize floats value = .ok written

section Canonical

variable {floats : Floats F}

theorem canonicalHash_ok {value : Value F} (h : Canonical floats value) :
    ∃ hash, canonicalHash floats value = .ok hash := by
  obtain ⟨written, hwritten⟩ := h
  unfold canonicalHash
  rw [hwritten]
  exact ⟨_, rfl⟩

@[simp] theorem canonical_text (text : String) : Canonical floats (.text text) :=
  ⟨.text text, by simp [canonicalize]⟩

@[simp] theorem canonical_int (number : ℤ) : Canonical floats (.int number) :=
  ⟨.int number, by simp [canonicalize]⟩

@[simp] theorem canonical_bool (value : Bool) : Canonical floats (.bool value) :=
  ⟨.bool value, by simp [canonicalize]⟩

@[simp] theorem canonical_time (time : Timestamp) : Canonical floats (.time time) :=
  ⟨.text (utcText time), by simp [canonicalize]⟩

theorem canonical_list {items : List (Value F)} (h : ∀ item ∈ items, Canonical floats item) :
    Canonical floats (.list items) := by
  have hitems : ∃ written, canonicalizeItems floats items = .ok written := by
    induction items with
    | nil => exact ⟨[], rfl⟩
    | cons item items ih =>
      obtain ⟨first, hfirst⟩ := h item List.mem_cons_self
      obtain ⟨rest, hrest⟩ := ih fun other hother => h other (List.mem_cons_of_mem item hother)
      refine ⟨first :: rest, ?_⟩
      rw [canonicalizeItems, hfirst, hrest]
      rfl
  obtain ⟨written, hwritten⟩ := hitems
  refine ⟨.list written, ?_⟩
  rw [canonicalize, hwritten]
  rfl

theorem canonical_obj {entries : List (String × Value F)}
    (h : ∀ entry ∈ entries, Canonical floats entry.2) : Canonical floats (.obj entries) := by
  have hentries : ∃ written, canonicalizeEntries floats entries = .ok written := by
    induction entries with
    | nil => exact ⟨[], rfl⟩
    | cons entry entries ih =>
      obtain ⟨first, hfirst⟩ := h entry List.mem_cons_self
      obtain ⟨rest, hrest⟩ := ih fun other hother => h other (List.mem_cons_of_mem entry hother)
      refine ⟨(entry.1, first) :: rest, ?_⟩
      rw [canonicalizeEntries, hfirst, hrest]
      rfl
  obtain ⟨written, hwritten⟩ := hentries
  refine ⟨.obj written, ?_⟩
  rw [canonicalize, hwritten]
  rfl

@[simp] theorem canonical_textList (texts : List String) : Canonical floats (textList texts) := by
  refine canonical_list fun item hitem => ?_
  obtain ⟨text, -, rfl⟩ := List.mem_map.mp hitem
  exact canonical_text text

@[simp] theorem canonical_intList (numbers : List ℤ) : Canonical floats (intList numbers) := by
  refine canonical_list fun item hitem => ?_
  obtain ⟨number, -, rfl⟩ := List.mem_map.mp hitem
  exact canonical_int number

@[simp] theorem canonical_countEntries (counts : List (String × ℕ)) :
    Canonical floats (countEntries counts) := by
  refine canonical_obj fun entry hentry => ?_
  obtain ⟨count, -, rfl⟩ := List.mem_map.mp hentry
  exact canonical_int count.2

@[simp] theorem canonical_payload (payload : PartitionPayload) : Canonical floats payload.value := by
  refine canonical_obj ?_
  simp [Bounds.entries]

@[simp] theorem canonical_bounds (bounds : Bounds) : Canonical floats (.obj bounds.entries) := by
  refine canonical_obj ?_
  simp [Bounds.entries]

theorem canonical_foldEntries (fold : PlanFold) :
    ∀ entry ∈ fold.entries, Canonical floats entry.2 := by
  simp [PlanFold.entries]

theorem canonical_finalEntries (final : PlanFinal) :
    ∀ entry ∈ final.entries, Canonical floats entry.2 := by
  simp [PlanFinal.entries]

theorem canonical_withMembership {entries : List (String × Value F)} {membership : String}
    (h : ∀ entry ∈ entries, Canonical floats entry.2) :
    Canonical floats (withMembership entries membership) := by
  refine canonical_obj fun entry hentry => ?_
  rcases List.mem_append.mp hentry with hentry | hentry
  · exact h entry hentry
  · rw [List.mem_singleton.mp hentry]
    exact canonical_text membership

/-- The payload of a plan can be hashed. -/
theorem canonical_plan (plan : V4GateBPlan) : Canonical floats plan.value := by
  have hfolds : Canonical floats
      (.list (plan.folds.map fun fold => withMembership fold.entries fold.membershipSha256)) := by
    refine canonical_list fun item hitem => ?_
    obtain ⟨fold, -, rfl⟩ := List.mem_map.mp hitem
    exact canonical_withMembership (canonical_foldEntries fold)
  have hfinal : Canonical floats (withMembership plan.final.entries plan.final.membershipSha256) :=
    canonical_withMembership (canonical_finalEntries plan.final)
  refine canonical_obj ?_
  simp [hfolds, hfinal]

theorem featureManifest_ok (rows : List FeatureRow) : ∃ hash, featureManifest A rows = .ok hash := by
  refine canonicalHash_ok (canonical_list fun item hitem => ?_)
  obtain ⟨row, -, rfl⟩ := List.mem_map.mp hitem
  refine canonical_obj ?_
  simp

end Canonical

/-! ## Markets of consistent rows -/

/-- The rows of a market agree on its metadata, which is that of the frozen horizon, and the time of a
row is that of its offset. -/
structure ConsistentMetadata (config : V4GateBConfig F) (rows : List FeatureRow) : Prop where
  static : ∀ row ∈ rows, ∀ other ∈ rows, row.conditionId = other.conditionId →
    row.staticIdentity = other.staticIdentity
  horizon : ∀ row ∈ rows, row.horizonSeconds = config.horizonSeconds
  bounds : ∀ row ∈ rows, row.marketEndAt = afterSeconds row.marketStartAt config.horizonSeconds
  feature : ∀ row ∈ rows, row.featureAt = afterSeconds row.marketStartAt row.featureOffsetSeconds

/-- Rows of a market with all the offsets, each once, make a market when they are consistent. -/
theorem buildMarket_ok {rows all : List FeatureRow} {conditionId : String} (hne : rows ≠ [])
    (hrows : ∀ row ∈ rows, row ∈ all ∧ row.conditionId = conditionId)
    (hconsistent : ConsistentMetadata config all)
    (hnodup : (rows.map (·.featureOffsetSeconds)).Nodup)
    (hoffsets : (rows.map (·.featureOffsetSeconds)).toFinset = config.featureOffsetsSeconds.toFinset) :
    ∃ market, buildMarket config conditionId rows = .ok market := by
  cases rows with
  | nil => exact absurd rfl hne
  | cons first rest =>
    obtain ⟨hfirst, hid⟩ := hrows first List.mem_cons_self
    have hchecks : (first :: rest).forM (checkRow conditionId first) = .ok () := by
      refine forM_eq_ok.mpr fun row hrow => ?_
      obtain ⟨hall, hrowId⟩ := hrows row hrow
      have hstatic := hconsistent.static row hall first hfirst (hrowId.trans hid.symm)
      have htime : row.featureAt = afterSeconds first.marketStartAt row.featureOffsetSeconds := by
        simp only [FeatureRow.staticIdentity, Prod.mk.injEq] at hstatic
        rw [hconsistent.feature row hall, hstatic.2.2.1]
      exact bind_eq_ok.mpr ⟨(), require_eq_ok.mpr hstatic, require_eq_ok.mpr htime⟩
    refine ⟨⟨conditionId, first.slug, first.horizonSeconds, first.marketStartAt, first.marketEndAt⟩, ?_⟩
    refine bind_eq_ok.mpr ⟨(), require_eq_ok.mpr (hconsistent.horizon first hfirst), ?_⟩
    refine bind_eq_ok.mpr ⟨(), require_eq_ok.mpr (hconsistent.bounds first hfirst), ?_⟩
    refine bind_eq_ok.mpr ⟨(), hchecks, ?_⟩
    refine bind_eq_ok.mpr ⟨(), require_eq_ok.mpr hnodup, ?_⟩
    exact bind_eq_ok.mpr ⟨(), require_eq_ok.mpr hoffsets, rfl⟩

/-- Consistent rows of a market do not repeat an offset: the table does not repeat a time. -/
theorem offsets_nodup {table : FeatureTable}
    (hconsistent : ConsistentMetadata config (eligible table config)) (conditionId : String) :
    (((loadFeatureRows table config).filter fun row => row.conditionId = conditionId).map
      (·.featureOffsetSeconds)).Nodup := by
  have hkeys : ((eligible table config).map fun row =>
      (row.conditionId, row.featureAt, row.featureVersion)).Nodup :=
    table.unique.sublist (List.filter_sublist.map _)
  have hperm : (loadFeatureRows table config).Perm (eligible table config) := loadFeatureRows_perm table
  have hrows : ((loadFeatureRows table config).filter fun row => row.conditionId = conditionId).Nodup :=
    (hperm.nodup_iff.mpr (List.Nodup.of_map _ hkeys)).filter _
  refine hrows.map_on ?_
  intro row hrow other hother hsame
  obtain ⟨hrow, hid⟩ := List.mem_filter.mp hrow
  obtain ⟨hother, hid'⟩ := List.mem_filter.mp hother
  have hrow := hperm.mem_iff.mp hrow
  have hother := hperm.mem_iff.mp hother
  have hids : row.conditionId = other.conditionId :=
    (of_decide_eq_true hid).trans (of_decide_eq_true hid').symm
  have hstatic := hconsistent.static row hrow other hother hids
  simp only [FeatureRow.staticIdentity, Prod.mk.injEq] at hstatic
  have htime : row.featureAt = other.featureAt := by
    rw [hconsistent.feature row hrow, hconsistent.feature other hother, hstatic.2.2.1, hsame]
  have hversion : row.featureVersion = other.featureVersion :=
    (of_decide_eq_true (List.mem_filter.mp hrow).2).1.trans
      (of_decide_eq_true (List.mem_filter.mp hother).2).1.symm
  refine List.inj_on_of_nodup_map hkeys hrow hother ?_
  rw [hids, htime, hversion]

/-- **Consistent rows with all the offsets make markets.** -/
theorem buildMarkets_ok {table : FeatureTable}
    (hconsistent : ConsistentMetadata config (eligible table config))
    (hoffsets : hasCompleteOffsets (eligibleRows table config) config.featureOffsetsSeconds = true) :
    ∃ markets manifest, buildMarkets A (loadFeatureRows table config) config = .ok (markets, manifest) ∧
      markets ≠ [] := by
  have hperm : (eligibleRows table config).Perm (loadFeatureRows table config) :=
    (eligibleRows_perm table).trans (loadFeatureRows_perm table).symm
  obtain ⟨hnonempty, hall⟩ := Bool.and_eq_true_iff.mp hoffsets
  have heach : ∀ entry ∈ grouped (loadFeatureRows table config),
      ∃ market, buildMarket config entry.1 entry.2 = .ok market := by
    intro entry hentry
    obtain ⟨hid, hrows⟩ := mem_grouped hentry
    obtain ⟨row, hrow, hrowId⟩ := List.mem_map.mp hid
    rw [hrows]
    refine buildMarket_ok ?_ ?_ hconsistent (offsets_nodup hconsistent entry.1) ?_
    · exact List.ne_nil_of_mem (List.mem_filter.mpr ⟨hrow, decide_eq_true hrowId⟩)
    · intro other hother
      obtain ⟨hother, hotherId⟩ := List.mem_filter.mp hother
      exact ⟨(loadFeatureRows_perm table).mem_iff.mp hother, of_decide_eq_true hotherId⟩
    · have hset := List.all_eq_true.mp hall _ (grouped_of_mem (hperm.mem_iff.mpr hrow))
      rw [← of_decide_eq_true hset, hrowId]
      exact List.toFinset_eq_of_perm _ _ ((hperm.symm.filter _).map _)
  obtain ⟨built, hbuilt⟩ := exists_mapM heach
  obtain ⟨manifest, hmanifest⟩ := featureManifest_ok (A := A) (loadFeatureRows table config)
  refine ⟨built.insertionSort fun a b => marketKey a ≤ marketKey b, manifest, ?_, ?_⟩
  · unfold buildMarkets
    rw [hbuilt, ok_bind, hmanifest]
    rfl
  · intro hnil
    have hempty : built = [] := List.perm_nil.mp (hnil ▸ (List.perm_insertionSort _ built).symm)
    have hgrouped : grouped (loadFeatureRows table config) = [] := by
      have hlength := (forall₂_of_mapM hbuilt).length_eq
      rw [hempty] at hlength
      exact List.length_eq_zero_iff.mp hlength
    -- the report groups the same rows
    have hnone : eligibleRows table config = [] := by
      refine List.eq_nil_iff_forall_not_mem.mpr fun row hrow => ?_
      have hmem := grouped_of_mem (hperm.mem_iff.mp hrow)
      rw [hgrouped] at hmem
      exact List.not_mem_nil hmem
    rw [hnone] at hnonempty
    cases hnonempty

/-! ## The plan -/

/-- What a plan says about the markets of some windows. -/
structure SplitLaw (rows : List FeatureRow) (windows : Windows) (counts : SplitCounts)
    (train validation test embargo purged : List String) : Prop where
  exactly_once : ∀ row ∈ rows, windows.trainStart ≤ row.marketStartAt →
    row.marketEndAt ≤ windows.testEnd →
      (train ++ validation ++ test ++ embargo ++ purged).count row.conditionId = 1
  train_count : counts.train = train.length
  validation_count : counts.validation = validation.length
  test_count : counts.test = test.length

/-- What a plan says about the markets of all windows. -/
structure PlanLaw (rows : List FeatureRow) (config : V4GateBConfig F) (counts : PartitionMarketCounts)
    (plan : V4GateBPlan) : Prop where
  length : plan.folds.length = counts.folds.length
  fold : ∀ index fold, plan.folds[index]? = some fold → ∃ foldCounts,
    counts.folds[index]? = some foldCounts ∧
      SplitLaw rows (config.foldWindows index) foldCounts fold.train.conditionIds
        fold.validation.conditionIds fold.test.conditionIds fold.embargoConditionIds
        fold.purgedConditionIds
  final : SplitLaw rows config.finalWindows counts.final plan.final.trainConditionIds
    plan.final.validationConditionIds plan.final.holdoutConditionIds plan.final.embargoConditionIds
    plan.final.purgedConditionIds
  tests_apart : plan.folds.Pairwise fun fold later =>
    ∀ conditionId ∈ fold.test.conditionIds, conditionId ∉ later.test.conditionIds
  holdout_apart : ∀ fold ∈ plan.folds, ∀ conditionId ∈ plan.final.holdoutConditionIds,
    conditionId ∉ fold.train.conditionIds ++ fold.validation.conditionIds ++ fold.test.conditionIds

theorem MarketsOf.pos {rows : List FeatureRow} {markets : List PlanMarket}
    (hmarkets : MarketsOf config rows markets) (hhorizon : 0 < config.horizonSeconds) :
    ∀ market ∈ markets, market.marketStartAt < market.marketEndAt := by
  intro market hmarket
  rw [hmarkets.lengths market hmarket]
  have hlength : 0 < config.horizonSeconds * 1000000 := by omega
  exact lt_add_of_pos_right _ hlength

/-- **What a split of the markets says about their rows.** -/
theorem IsSplit.law {rows : List FeatureRow} {markets : List PlanMarket} {embargoMarkets : ℤ}
    {windows : Windows} {split : Split} (h : IsSplit markets embargoMarkets windows split)
    (hmarkets : MarketsOf config rows markets) (hhorizon : 0 < config.horizonSeconds)
    (hordered : windows.Ordered) {rows' : List FeatureRow} (hperm : rows'.Perm rows) :
    SplitLaw rows windows (splitCounts (previewOf config rows') embargoMarkets windows)
      (conditionIds split.train) (conditionIds split.validation) (conditionIds split.test)
      split.embargo split.purged := by
  have hcounts := h.counts (hmarkets.preview rows' hperm)
  unfold previewOf
  rw [hcounts]
  refine ⟨?_, ?_, ?_, ?_⟩
  · intro row hrow hstart hend
    obtain ⟨market, hmarket, hid, hstarts, hends⟩ := hmarkets.of_row row hrow
    rw [← hid]
    refine h.exactly_once hordered hmarkets.nodup hmarket (hmarkets.pos hhorizon market hmarket) ?_
    rw [hstarts] at hstart
    rw [hends] at hend
    exact ⟨hstart, hend⟩
  · simp [conditionIds]
  · simp [conditionIds]
  · simp [conditionIds]

section Built

variable {markets : List PlanMarket}

theorem buildFold_eq_ok {index : ℕ} {fold : PlanFold} (h : buildFold A markets config index = .ok fold) :
    ∃ split membership, splitMarkets markets config.embargoMarkets (config.foldWindows index) = .ok split ∧
      fold = { foldOf index (config.foldWindows index) split with membershipSha256 := membership } := by
  obtain ⟨split, hsplit, h⟩ := bind_eq_ok.mp h
  obtain ⟨_, -, h⟩ := bind_eq_ok.mp h
  obtain ⟨membership, -, h⟩ := bind_eq_ok.mp h
  exact ⟨split, membership, hsplit, (Except.ok.inj h).symm⟩

theorem buildFinalPartition_eq_ok {final : PlanFinal}
    (h : buildFinalPartition A markets config = .ok final) :
    ∃ split membership, splitMarkets markets config.embargoMarkets config.finalWindows = .ok split ∧
      final = { finalOf config.finalWindows split with membershipSha256 := membership } := by
  obtain ⟨split, hsplit, h⟩ := bind_eq_ok.mp h
  obtain ⟨_, -, h⟩ := bind_eq_ok.mp h
  obtain ⟨membership, -, h⟩ := bind_eq_ok.mp h
  exact ⟨split, membership, hsplit, (Except.ok.inj h).symm⟩

/-- The folds of a plan, by their indices. -/
theorem fold_of_mapM {n : ℕ} {folds : List PlanFold}
    (h : (List.range n).mapM (buildFold A markets config) = .ok folds) :
    folds.length = n ∧ ∀ (index : ℕ) (fold : PlanFold), folds[index]? = some fold →
      index < n ∧ buildFold A markets config index = .ok fold := by
  obtain ⟨hlength, hget⟩ := List.forall₂_iff_get.mp (forall₂_of_mapM h)
  rw [List.length_range] at hlength
  refine ⟨hlength.symm, ?_⟩
  intro index fold hfold
  obtain ⟨hindex, rfl⟩ := List.getElem?_eq_some_iff.mp hfold
  have hat := hget index (by rw [List.length_range]; omega) hindex
  rw [List.get_eq_getElem, List.getElem_range] at hat
  exact ⟨by omega, hat⟩

variable {rows : List FeatureRow} {folds : List PlanFold} {final : PlanFinal}
  (hgeometry : config.Geometry) (hmarkets : MarketsOf config rows markets)
  (hfolds : (List.range config.ordinaryFoldCount.toNat).mapM (buildFold A markets config) = .ok folds)

include hgeometry hmarkets hfolds

/-- The test windows of two folds have no market in common. -/
theorem tests_apart_of_built : folds.Pairwise fun fold later =>
    ∀ conditionId ∈ fold.test.conditionIds, conditionId ∉ later.test.conditionIds := by
  obtain ⟨hlength, hget⟩ := fold_of_mapM hfolds
  rw [List.pairwise_iff_getElem]
  intro i j hi hj hij
  obtain ⟨hiCount, hbuilt⟩ := hget i _ (List.getElem?_eq_getElem hi)
  obtain ⟨hjCount, hbuilt'⟩ := hget j _ (List.getElem?_eq_getElem hj)
  obtain ⟨split, membership, hsplit, hfold⟩ := buildFold_eq_ok hbuilt
  obtain ⟨split', membership', hsplit', hfold'⟩ := buildFold_eq_ok hbuilt'
  rw [hfold, hfold']
  change ∀ conditionId ∈ conditionIds split.test, conditionId ∉ conditionIds split'.test
  rw [(splitMarkets_eq_ok hgeometry.embargo hsplit).test,
    (splitMarkets_eq_ok hgeometry.embargo hsplit').test]
  exact contained_apart hmarkets.nodup (hmarkets.pos hgeometry.horizon) (tests_in_order hgeometry hij)

/-- No fold has a market of the holdout. -/
theorem holdout_apart_of_built (hfinal : buildFinalPartition A markets config = .ok final) :
    ∀ fold ∈ folds, ∀ conditionId ∈ final.holdoutConditionIds,
      conditionId ∉ fold.train.conditionIds ++ fold.validation.conditionIds ++ fold.test.conditionIds := by
  obtain ⟨hlength, hget⟩ := fold_of_mapM hfolds
  obtain ⟨last, membership', hlast, rfl⟩ := buildFinalPartition_eq_ok hfinal
  intro fold hfold conditionId hholdout hmem
  obtain ⟨index, hindex⟩ := List.mem_iff_getElem?.mp hfold
  obtain ⟨hcount, hbuilt⟩ := hget index fold hindex
  obtain ⟨split, membership, hsplit, rfl⟩ := buildFold_eq_ok hbuilt
  have hwithin := (splitMarkets_eq_ok hgeometry.embargo hsplit).mem_within
    (foldWindows_ordered hgeometry index) hmem
  change conditionId ∈ conditionIds last.test at hholdout
  rw [(splitMarkets_eq_ok hgeometry.embargo hlast).test] at hholdout
  exact contained_apart hmarkets.nodup (hmarkets.pos hgeometry.horizon)
    (fold_before_holdout hgeometry (by omega)) conditionId hwithin hholdout

/-- **The integrity check of a plan never fails.** -/
theorem assertPartitionIntegrity_ok (hfinal : buildFinalPartition A markets config = .ok final) :
    assertPartitionIntegrity folds final = .ok () := by
  obtain ⟨hlength, hget⟩ := fold_of_mapM hfolds
  have heach : ∀ fold ∈ folds, fold.test.conditionIds.Nodup := by
    intro fold hfold
    obtain ⟨index, hindex⟩ := List.mem_iff_getElem?.mp hfold
    obtain ⟨split, membership, hsplit, rfl⟩ := buildFold_eq_ok (hget index fold hindex).2
    change (conditionIds split.test).Nodup
    rw [(splitMarkets_eq_ok hgeometry.embargo hsplit).test]
    exact hmarkets.nodup.sublist (List.filter_sublist.map _)
  have hunique : (folds.flatMap fun fold => fold.test.conditionIds).Nodup := by
    rw [List.nodup_flatMap]
    refine ⟨heach, (tests_apart_of_built hgeometry hmarkets hfolds).imp fun h => ?_⟩
    intro conditionId hid hid'
    exact h conditionId hid hid'
  have hapart : ∀ conditionId ∈ folds.flatMap fun fold => fold.test.conditionIds,
      conditionId ∉ final.holdoutConditionIds := by
    intro conditionId hid hholdout
    obtain ⟨fold, hfold, hid⟩ := List.mem_flatMap.mp hid
    exact holdout_apart_of_built hgeometry hmarkets hfolds hfinal fold hfold conditionId hholdout
      (List.mem_append_right _ hid)
  exact bind_eq_ok.mpr ⟨(), require_eq_ok.mpr hunique, require_eq_ok.mpr hapart⟩

end Built

/-- **What a plan that was made says.** -/
theorem planLaw_of_eq_ok {table : FeatureTable} {asOf : Option Timestamp} {plan : V4GateBPlan}
    (hgeometry : config.Geometry) (h : buildV4GateBPlan A table asOf config = .ok plan) :
    ∃ report, assessReadiness A table asOf config = .ok report ∧
      PlanLaw (eligible table config) config report.partitionMarketCounts plan := by
  obtain ⟨report, hreport, h⟩ := bind_eq_ok.mp h
  obtain ⟨_, -, h⟩ := bind_eq_ok.mp h
  obtain ⟨⟨markets, manifest⟩, hbuilt, h⟩ := bind_eq_ok.mp h
  obtain ⟨_, -, h⟩ := bind_eq_ok.mp h
  obtain ⟨folds, hfolds, h⟩ := bind_eq_ok.mp h
  obtain ⟨final, hfinal, h⟩ := bind_eq_ok.mp h
  obtain ⟨_, -, h⟩ := bind_eq_ok.mp h
  obtain ⟨_, -, h⟩ := bind_eq_ok.mp h
  obtain ⟨_, -, h⟩ := bind_eq_ok.mp h
  obtain rfl := Except.ok.inj h
  have hmarkets := buildMarkets_eq_ok hbuilt
  have hload : (loadFeatureRows table config).Perm (eligible table config) := loadFeatureRows_perm table
  have hperm : (eligibleRows table config).Perm (loadFeatureRows table config) :=
    (eligibleRows_perm table).trans hload.symm
  have heligible : ∀ {windows counts train validation test embargo purged},
      SplitLaw (loadFeatureRows table config) windows counts train validation test embargo purged →
        SplitLaw (eligible table config) windows counts train validation test embargo purged :=
    fun law => ⟨fun row hrow => law.exactly_once row (hload.mem_iff.mpr hrow), law.train_count,
      law.validation_count, law.test_count⟩
  obtain ⟨hlength, hget⟩ := fold_of_mapM hfolds
  refine ⟨report, hreport, ?_⟩
  rw [(assessReadiness_eq_ok hreport).counts]
  refine ⟨?_, ?_, ?_, tests_apart_of_built hgeometry hmarkets hfolds,
    holdout_apart_of_built hgeometry hmarkets hfolds hfinal⟩
  · change folds.length = ((List.range config.ordinaryFoldCount.toNat).map _).length
    rw [List.length_map, List.length_range, hlength]
  · intro index fold hfold
    obtain ⟨hindex, hfoldBuilt⟩ := hget index fold hfold
    obtain ⟨split, membership, hsplit, rfl⟩ := buildFold_eq_ok hfoldBuilt
    refine ⟨splitCounts (previewOf config (eligibleRows table config)) config.embargoMarkets
      (config.foldWindows index), ?_, ?_⟩
    · change ((List.range config.ordinaryFoldCount.toNat).map _)[index]? = _
      rw [List.getElem?_map, List.getElem?_range hindex]
      rfl
    · exact heligible ((splitMarkets_eq_ok hgeometry.embargo hsplit).law hmarkets hgeometry.horizon
        (foldWindows_ordered hgeometry index) hperm)
  · obtain ⟨split, membership, hsplit, rfl⟩ := buildFinalPartition_eq_ok hfinal
    exact heligible ((splitMarkets_eq_ok hgeometry.embargo hsplit).law hmarkets hgeometry.horizon
      (finalWindows_ordered hgeometry) hperm)

/-- A split with the minima of its parts passes its checks. -/
theorem Split.validate_ok {split : Split} {name lastName : String} {lastMinimum : ℤ}
    (htrain : config.minTrainMarkets ≤ split.train.length)
    (hvalidation : config.minValidationMarkets ≤ split.validation.length)
    (htest : lastMinimum ≤ split.test.length) :
    split.validate config name lastName lastMinimum = .ok () :=
  bind_eq_ok.mpr ⟨(), require_eq_ok.mpr htrain,
    bind_eq_ok.mpr ⟨(), require_eq_ok.mpr hvalidation, require_eq_ok.mpr htest⟩⟩

/-- **A split whose preview is not blocked can be made, and passes its checks.** -/
theorem split_ok {rows rows' : List FeatureRow} {markets : List PlanMarket} {windows : Windows}
    {name label lastName : String} {lastMinimum : ℤ} (hgeometry : config.Geometry)
    (hmarkets : MarketsOf config rows markets) (hperm : rows'.Perm rows)
    (h : countBlockers config name lastName lastMinimum
      (splitCounts (previewOf config rows') config.embargoMarkets windows) = []) :
    ∃ split, splitMarkets markets config.embargoMarkets windows = .ok split ∧
      split.validate config label lastName lastMinimum = .ok () := by
  obtain ⟨htrain, hvalidation, htest⟩ := countBlockers_eq_nil.mp h
  have hpreview := hmarkets.preview rows' hperm
  obtain ⟨split, hsplit⟩ := splitMarkets_ok hpreview (hgeometry.minTrain.trans_le htrain)
    (hgeometry.minValidation.trans_le hvalidation)
  have hcounts : splitCounts (previewOf config rows') config.embargoMarkets windows = _ :=
    (splitMarkets_eq_ok hgeometry.embargo hsplit).counts hpreview
  rw [hcounts] at htrain hvalidation htest
  exact ⟨split, hsplit, Split.validate_ok htrain hvalidation htest⟩

/-- A sequence returns when its parts do. -/
theorem exists_bind {α β : Type} {x : Outcome α} {f : α → Outcome β} (hx : ∃ a, x = .ok a)
    (hf : ∀ a, ∃ b, f a = .ok b) : ∃ b, (x >>= f) = .ok b := by
  obtain ⟨a, rfl⟩ := hx
  exact hf a

/-- **A plan can be made when the report is ready** and the rows are consistent. -/
theorem buildV4GateBPlan_ok {table : FeatureTable} {asOf : Option Timestamp} {report : ReadinessReport F}
    (hgeometry : config.Geometry) (hreport : assessReadiness A table asOf config = .ok report)
    (hready : report.ready = true) (hconsistent : ConsistentMetadata config (eligible table config)) :
    ∃ plan, buildV4GateBPlan A table asOf config = .ok plan := by
  have hof := assessReadiness_eq_ok hreport
  obtain ⟨markets, manifest, hbuilt, hne⟩ :=
    buildMarkets_ok (A := A) hconsistent (hof.offsets hready)
  have hmarkets := buildMarkets_eq_ok hbuilt
  have hperm : (eligibleRows table config).Perm (loadFeatureRows table config) :=
    (eligibleRows_perm table).trans (loadFeatureRows_perm table).symm
  obtain ⟨hfoldBlockers, hfinalBlockers⟩ := partitionFeasibility_blockers (hof.blockers hready)
  have heach : ∀ index ∈ List.range config.ordinaryFoldCount.toNat,
      ∃ fold, buildFold A markets config index = .ok fold := by
    intro index hindex
    have hcount := List.mem_range.mp hindex
    obtain ⟨split, hsplit, hvalid⟩ : ∃ split,
        splitMarkets markets config.embargoMarkets (config.foldWindows index) = .ok split ∧
          split.validate config ("fold " ++ toString index) "test" config.minTestMarkets = .ok () :=
      split_ok hgeometry hmarkets hperm (hfoldBlockers index (by omega))
    obtain ⟨membership, hmembership⟩ := canonicalHash_ok
      (canonical_obj (canonical_foldEntries (foldOf index (config.foldWindows index) split)))
    exact ⟨_, bind_eq_ok.mpr ⟨split, hsplit, bind_eq_ok.mpr ⟨(), hvalid,
      bind_eq_ok.mpr ⟨membership, hmembership, rfl⟩⟩⟩⟩
  obtain ⟨folds, hfolds⟩ := exists_mapM heach
  obtain ⟨final, hfinal⟩ : ∃ final, buildFinalPartition A markets config = .ok final := by
    obtain ⟨split, hsplit, hvalid⟩ := split_ok hgeometry hmarkets hperm hfinalBlockers
    obtain ⟨membership, hmembership⟩ := canonicalHash_ok
      (canonical_obj (canonical_finalEntries (finalOf config.finalWindows split)))
    exact ⟨_, bind_eq_ok.mpr ⟨split, hsplit, bind_eq_ok.mpr ⟨(), hvalid,
      bind_eq_ok.mpr ⟨membership, hmembership, rfl⟩⟩⟩⟩
  have hintegrity := assertPartitionIntegrity_ok hgeometry hmarkets hfolds hfinal
  obtain ⟨configHash, hconfigHash⟩ := hof.config_hash
  have hnonempty : ¬ markets.isEmpty = true := fun h => hne (List.isEmpty_iff.mp h)
  have hcheck : require (report.ready = true) .v4PlanIntegrityError
      ("readiness failed: " ++ ",".intercalate report.blockingReasons) = .ok () :=
    require_eq_ok.mpr hready
  have hsome : require (¬ markets.isEmpty = true) .v4PlanIntegrityError
      "no eligible V4 markets in frozen epoch" = .ok () := require_eq_ok.mpr hnonempty
  unfold buildV4GateBPlan
  rw [hreport, ok_bind, hcheck, ok_bind, hbuilt, ok_bind]
  dsimp only
  rw [hsome, ok_bind, hfolds, ok_bind, hfinal, ok_bind, hintegrity, ok_bind, hconfigHash, ok_bind]
  exact exists_bind (canonicalHash_ok (canonical_plan _)) fun digest => ⟨_, rfl⟩

/-- **The law of the plan, and its preview.**  In a plan that was made every market within the windows of
a split is in one part of it only, the parts have the previewed sizes, no test market is in two folds and
no fold has a market of the holdout; and when the report is ready and the rows are consistent, the plan
can be made. -/
theorem plan_law (table : FeatureTable) (asOf : Option Timestamp) (config : V4GateBConfig F)
    (hconfig : config.postInit A = .ok ()) :
    (∀ plan, buildV4GateBPlan A table asOf config = .ok plan →
      ∃ report, assessReadiness A table asOf config = .ok report ∧
        PlanLaw (eligible table config) config report.partitionMarketCounts plan) ∧
    (∀ report, assessReadiness A table asOf config = .ok report → report.ready = true →
      ConsistentMetadata config (eligible table config) →
        ∃ plan, buildV4GateBPlan A table asOf config = .ok plan) := by
  have hgeometry := V4GateBConfig.geometry A hconfig
  constructor
  · intro plan hplan
    exact planLaw_of_eq_ok hgeometry hplan
  · intro report hreport hready hconsistent
    exact buildV4GateBPlan_ok hgeometry hreport hready hconsistent

/-! ### Four markets in a row -/

/-- One fold and the final split, of windows as long as a market. -/
def sampleConfig : V4GateBConfig ℚ where
  researchPlanVersion := "plan"
  datasetVersion := "dataset"
  featureVersion := v4FeatureVersion
  labelVersion := "label"
  horizonSeconds := 300
  featureOffsetsSeconds := [120]
  epochStart := 0
  epochEnd := 1200000000
  trainDuration := 300000000
  validationDuration := 300000000
  testDuration := 300000000
  stepDuration := 300000000
  finalHoldoutDuration := 300000000
  embargoMarkets := 0
  minTrainMarkets := 1
  minValidationMarkets := 1
  minTestMarkets := 1
  minFinalHoldoutMarkets := 1
  ordinaryFoldCount := 1
  knownRegimes := ["bull"]
  minKnownRegimeMarkets := 1
  predictorNames := ["coinbase_return_30s"]
  shortContextPredictorNames := ["coinbase_return_30s"]
  forecastCandidates := ["training_prior"]
  primaryValidationMetric := "mean_fold_log_loss"
  validationTieBreakers := ["simpler_model"]
  nonlinearReplacementRule := "rule"
  calibrationCandidates := ["identity"]
  calibrationEligibilityRule := "rule"
  offsetCandidatesSeconds := [120]
  feeRate := 7 / 100
  slippageBuffer := 1 / 100
  minEdgeGrid := [0]
  noTradeCandidate := true
  maxSelectedBookAgeSeconds := 10
  minValidationTradesPerFold := 1
  requiredNonNegativeValidationFolds := 1
  requirePositiveAggregateValidationPnl := true
  reportingSlices := ["overall"]
  minReportingSliceMarkets := 1
  sideSpecificPolicyAllowed := false
  regimeSpecificPolicyAllowed := false
  coverageFrontierRequired := true
  drawdownReportingRequired := true
  losingStreakReportingRequired := true
  profitFactorReportingRequired := true
  executionAvailabilityReportRequired := true

/-- The row of a market that starts so many times five minutes after the epoch. -/
def sampleFeatureRow (id : ℤ) (conditionId : String) : FeatureRow where
  id
  conditionId
  marketStartAt := id * 300000000
  featureAt := id * 300000000 + 120000000
  featureOffsetSeconds := 120
  featureVersion := v4FeatureVersion
  features := (shortReturnFields ++ regimeReturnFields).map (·, .int 0) ++
    [("regime_bull", .int 1), ("regime_bear", .int 0), ("regime_sideways_mixed", .int 0)]
  missingFlags := sourcePrefixes.map fun name => (name ++ "_current_missing", .bool false)
  sourceCutoffs := []
  inputFingerprint := ""
  featureHash := ""
  slug := conditionId
  horizonSeconds := 300
  marketEndAt := id * 300000000 + 300000000

def sampleTable : FeatureTable where
  rows := [sampleFeatureRow 0 "a", sampleFeatureRow 1 "b", sampleFeatureRow 2 "c",
    sampleFeatureRow 3 "d"]
  unique := by decide

theorem plan_law_sample :
    ∃ plan report,
      buildV4GateBPlan sampleFloats sampleTable (some 1200000000) sampleConfig = .ok plan ∧
        assessReadiness sampleFloats sampleTable (some 1200000000) sampleConfig = .ok report ∧
          PlanLaw (eligible sampleTable sampleConfig) sampleConfig report.partitionMarketCounts plan := by
  have hmade : (buildV4GateBPlan sampleFloats sampleTable (some 1200000000) sampleConfig).isOk = true := by
    decide +kernel
  obtain ⟨plan, hplan⟩ := exists_ok_of_isOk hmade
  have hlaw := plan_law (A := sampleFloats) sampleTable (some 1200000000) sampleConfig
    (by decide +kernel)
  obtain ⟨report, hreport, hholds⟩ := hlaw.1 plan hplan
  exact ⟨plan, report, hplan, hreport, hholds⟩

end BpEngine.V4Research
