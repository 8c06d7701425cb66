import BpEngine.Library.Greedy
import BpEngine.Library.Grid
import BpEngine.PaperLedger.OrderCost
import BpEngine.V4Paper.Listing

/-!
# What a fresh-book shadow fills, and what it pays

For levels of few decimals, which the decimal context computes with exactly.

* `FewDigits` are the levels, `LevelOk` is what the merged levels inherit.
* `take_exact` is one level of the fill, `takeLevels_exact` the fill, as what is taken from the cheapest
  (`Greedy.spent`).
* `orderOf_ok` says how the order is sized, `depthWithin_merge` what the merged levels display.
* `fill_law` puts them together: how much is filled, that it stays within the budget, and that no other
  way to buy as much costs less.
-/

namespace BpEngine.V4Paper

open BpEngine.Execution BpEngine.Features BpEngine.Prospective BookReplay
open Decimal (OnGrid)
open PaperLedger (BookLevel setSize sizeAt byPrice unitCost unitCost_mono unitCost_nonneg depthWithin
  depthWithin_cons depthWithin_nonneg depthWithin_perm)

/-! ## Levels of few decimals -/

/-- A level that passed its checks, with at most `p` decimals in its price and `k` in its size. -/
structure LevelOk (k p : ℕ) (level : BookLevel) : Prop where
  pos : 0 < level.price.toRat
  le_one : level.price.toRat ≤ 1
  size_nonneg : 0 ≤ level.size.toRat
  price : OnGrid p level.price.toRat
  size : OnGrid k level.size.toRat

/-- Levels the context computes with exactly: prices of `p` decimals, sizes of `k` decimals, and no more
shares at all than the context has digits for. -/
structure FewDigits (k p : ℕ) (listed : List BookLevel) : Prop where
  shares : 6 ≤ k
  cents : 2 ≤ p
  digits : k + 2 * p ≤ 22
  prices : ∀ level ∈ listed, OnGrid p level.price.toRat
  sizes : ∀ level ∈ listed, OnGrid k level.size.toRat
  total : (listed.map fun level => level.size.toRat).sum < 10 ^ (28 - k)

/-- The size of a level, as a number. -/
def sizeOf (level : BookLevel) : ℚ := level.size.toRat

/-- The price of a level, as a number. -/
def priceOf (level : BookLevel) : ℚ := level.price.toRat

/-- The fee for a share of a level. -/
def feeOf (level : BookLevel) : ℚ := 7 / 100 * level.price.toRat * (1 - level.price.toRat)

theorem toRat_feeRate : frozenV4FeeRate.toRat = 7 / 100 := by
  norm_num [frozenV4FeeRate, Decimal.toRat]

/-! ## The fill -/

/-- A filling on the grids, of an order for `requested` shares. -/
structure FillingOk (k p : ℕ) (requested : ℚ) (filling : Filling) : Prop where
  remaining : OnGrid k filling.remaining.toRat
  filled : OnGrid k filling.filledShares.toRat
  gross : OnGrid (k + p) filling.grossFillCost.toRat
  fees : OnGrid (k + 2 + p + p) filling.totalFees.toRat
  remaining_nonneg : 0 ≤ filling.remaining.toRat
  gross_nonneg : 0 ≤ filling.grossFillCost.toRat
  gross_le : filling.grossFillCost.toRat ≤ filling.filledShares.toRat
  fees_nonneg : 0 ≤ filling.totalFees.toRat
  fees_le : filling.totalFees.toRat ≤ filling.filledShares.toRat
  total : filling.filledShares.toRat + filling.remaining.toRat ≤ requested

/-- What is taken of a level, exactly. -/
structure Takes (filling after : Filling) (level : BookLevel) (t : ℚ) : Prop where
  filled : after.filledShares.toRat = filling.filledShares.toRat + t
  gross : after.grossFillCost.toRat = filling.grossFillCost.toRat + t * priceOf level
  fees : after.totalFees.toRat = filling.totalFees.toRat + t * feeOf level
  remaining : after.remaining.toRat = filling.remaining.toRat - t

/-- **A level is taken exactly**, up to what remains. -/
theorem take_exact {k p : ℕ} {requested : ℚ} {filling : Filling} {level : BookLevel}
    (hdigits : k + 2 * p ≤ 22) (hrequested : requested < 10 ^ 3)
    (hfilling : FillingOk k p requested filling) (hlevel : LevelOk k p level) :
    Takes filling (filling.take level) level (min (sizeOf level) filling.remaining.toRat) ∧
      FillingOk k p requested (filling.take level) := by
  have hprecision : Decimal.precision = 28 := rfl
  have hfilled0 : 0 ≤ filling.filledShares.toRat := hfilling.gross_nonneg.trans hfilling.gross_le
  have hbound := hfilling.total
  set shares := Decimal.min' level.size filling.remaining with hshares
  set t := min (sizeOf level) filling.remaining.toRat with ht
  have hvalue : shares.toRat = t := Decimal.toRat_min' _ _
  have hgrid : OnGrid k shares.toRat := by
    rw [hvalue]
    exact hlevel.size.min hfilling.remaining
  have ht0 : 0 ≤ t := le_min hlevel.size_nonneg hfilling.remaining_nonneg
  have htr : t ≤ filling.remaining.toRat := min_le_right _ _
  have hp0 := hlevel.pos.le
  have hp1 := hlevel.le_one
  -- the shares
  have hfilled : (filling.filledShares + shares).toRat = filling.filledShares.toRat + t := by
    rw [Decimal.add_eq hfilling.filled hgrid (n := 3) (by linarith) (by linarith) (by omega), hvalue]
  have hremaining : (filling.remaining - shares).toRat = filling.remaining.toRat - t := by
    rw [Decimal.sub_eq hfilling.remaining hgrid (n := 3) (by linarith) (by linarith) (by omega), hvalue]
  -- their price
  have htp0 : 0 ≤ t * priceOf level := mul_nonneg ht0 hp0
  have htp : t * priceOf level ≤ t := mul_le_of_le_one_right ht0 hp1
  have hprice : (shares * level.price).toRat = t * priceOf level := by
    rw [Decimal.mul_eq hgrid hlevel.price (n := 3) (by rw [hvalue]; exact htp0)
      (by rw [hvalue]; exact lt_of_le_of_lt htp (by linarith)) (by omega), hvalue]
    rfl
  have hpriceGrid : OnGrid (k + p) (shares * level.price).toRat := by
    rw [hprice, ← hvalue]
    exact hgrid.mul hlevel.price
  have hgross : (filling.grossFillCost + shares * level.price).toRat =
      filling.grossFillCost.toRat + t * priceOf level := by
    have hle := hfilling.gross_le
    have h0 := hfilling.gross_nonneg
    rw [Decimal.add_eq hfilling.gross hpriceGrid (n := 3) (by linarith) (by linarith) (by omega), hprice]
  -- their fee, one factor after the other
  have hrate : OnGrid 2 frozenV4FeeRate.toRat := ⟨7, by rw [toRat_feeRate]; norm_num⟩
  have h1 : (shares * frozenV4FeeRate).toRat = t * (7 / 100) := by
    rw [Decimal.mul_eq hgrid hrate (n := 3) (by rw [hvalue, toRat_feeRate]; positivity)
      (by rw [hvalue, toRat_feeRate]; linarith) (by omega), hvalue, toRat_feeRate]
  have h1Grid : OnGrid (k + 2) (shares * frozenV4FeeRate).toRat := by
    rw [h1, ← hvalue, ← toRat_feeRate]
    exact hgrid.mul hrate
  have h2pos : 0 ≤ t * (7 / 100) * priceOf level := mul_nonneg (by positivity) hp0
  have h2le : t * (7 / 100) * priceOf level ≤ t * (7 / 100) :=
    mul_le_of_le_one_right (by positivity) hp1
  have h2 : (shares * frozenV4FeeRate * level.price).toRat = t * (7 / 100) * priceOf level := by
    rw [Decimal.mul_eq h1Grid hlevel.price (n := 3) (by rw [h1]; exact h2pos)
      (by rw [h1]; exact lt_of_le_of_lt h2le (by linarith)) (by omega), h1]
    rfl
  have h2Grid : OnGrid (k + 2 + p) (shares * frozenV4FeeRate * level.price).toRat := by
    rw [h2, ← h1]
    exact h1Grid.mul hlevel.price
  have hone : OnGrid p (1 : Decimal).toRat := by
    rw [Decimal.toRat_one]
    exact OnGrid.one p
  have hrest : ((1 : Decimal) - level.price).toRat = 1 - level.price.toRat := by
    rw [Decimal.sub_eq hone hlevel.price (n := 1) (by rw [Decimal.toRat_one]; exact hp1)
      (by rw [Decimal.toRat_one]; linarith [hlevel.pos]) (by omega), Decimal.toRat_one]
  have hrestGrid : OnGrid p ((1 : Decimal) - level.price).toRat := by
    rw [hrest, ← Decimal.toRat_one]
    exact hone.sub hlevel.price
  have hfeeEq : t * (7 / 100) * priceOf level * (1 - level.price.toRat) = t * feeOf level := by
    unfold feeOf priceOf
    ring
  have h3pos : 0 ≤ t * feeOf level := by
    rw [← hfeeEq]
    exact mul_nonneg h2pos (by linarith)
  have h3le : t * feeOf level ≤ t := by
    rw [← hfeeEq]
    have hle : t * (7 / 100) * priceOf level * (1 - level.price.toRat) ≤
        t * (7 / 100) * priceOf level := mul_le_of_le_one_right h2pos (by linarith)
    linarith
  have hfee : (shares * frozenV4FeeRate * level.price * (1 - level.price)).toRat = t * feeOf level := by
    rw [Decimal.mul_eq h2Grid hrestGrid (n := 3) (by rw [h2, hrest, hfeeEq]; exact h3pos)
      (by rw [h2, hrest, hfeeEq]; linarith) (by omega), h2, hrest, hfeeEq]
  have hfeeGrid : OnGrid (k + 2 + p + p)
      (shares * frozenV4FeeRate * level.price * (1 - level.price)).toRat := by
    rw [hfee, ← hfeeEq, ← h2, ← hrest]
    exact h2Grid.mul hrestGrid
  have hfees : (filling.totalFees +
      shares * frozenV4FeeRate * level.price * (1 - level.price)).toRat =
      filling.totalFees.toRat + t * feeOf level := by
    have hle := hfilling.fees_le
    have h0 := hfilling.fees_nonneg
    rw [Decimal.add_eq hfilling.fees hfeeGrid (n := 3) (by linarith) (by linarith) (by omega), hfee]
  refine ⟨⟨hfilled, hgross, hfees, hremaining⟩, ?_⟩
  constructor
  · change OnGrid k (filling.remaining - shares).toRat
    rw [hremaining, ← hvalue]
    exact hfilling.remaining.sub hgrid
  · change OnGrid k (filling.filledShares + shares).toRat
    rw [hfilled, ← hvalue]
    exact hfilling.filled.add hgrid
  · change OnGrid (k + p) (filling.grossFillCost + shares * level.price).toRat
    rw [hgross, ← hprice]
    exact hfilling.gross.add hpriceGrid
  · change OnGrid (k + 2 + p + p) (filling.totalFees +
      shares * frozenV4FeeRate * level.price * (1 - level.price)).toRat
    rw [hfees, ← hfee]
    exact hfilling.fees.add hfeeGrid
  · change 0 ≤ (filling.remaining - shares).toRat
    linarith
  · change 0 ≤ (filling.grossFillCost + shares * level.price).toRat
    linarith [hfilling.gross_nonneg]
  · change (filling.grossFillCost + shares * level.price).toRat ≤ (filling.filledShares + shares).toRat
    linarith [hfilling.gross_le]
  · change 0 ≤ (filling.totalFees + shares * frozenV4FeeRate * level.price * (1 - level.price)).toRat
    linarith [hfilling.fees_nonneg]
  · change (filling.totalFees + shares * frozenV4FeeRate * level.price * (1 - level.price)).toRat ≤
      (filling.filledShares + shares).toRat
    linarith [hfilling.fees_le]
  · change (filling.filledShares + shares).toRat + (filling.remaining - shares).toRat ≤ requested
    linarith

/-- The levels within a limit. -/
def within (limit : Decimal) (levels : List BookLevel) : List BookLevel :=
  levels.filter fun level => level.price ≤ limit

/-- What is taken of levels, exactly. -/
structure TakesAll (filling after : Filling) (levels : List BookLevel) : Prop where
  filled : after.filledShares.toRat =
    filling.filledShares.toRat + Greedy.taken sizeOf filling.remaining.toRat levels
  gross : after.grossFillCost.toRat =
    filling.grossFillCost.toRat + Greedy.spent sizeOf priceOf filling.remaining.toRat levels
  fees : after.totalFees.toRat =
    filling.totalFees.toRat + Greedy.spent sizeOf feeOf filling.remaining.toRat levels

theorem TakesAll.nil (filling : Filling) : TakesAll filling filling [] :=
  ⟨(add_zero _).symm, (add_zero _).symm, (add_zero _).symm⟩

/-- **The loop takes from the cheapest levels within the limit.** -/
theorem takeLevels_exact {k p : ℕ} {requested : ℚ} {limit : Decimal} {levels : List BookLevel}
    {filling : Filling} (hdigits : k + 2 * p ≤ 22) (hrequested : requested < 10 ^ 3)
    (hlevels : ∀ level ∈ levels, LevelOk k p level)
    (hsorted : levels.Pairwise fun a b => a.price ≤ b.price)
    (hfilling : FillingOk k p requested filling) :
    TakesAll filling (takeLevels limit levels filling) (within limit levels) ∧
      FillingOk k p requested (takeLevels limit levels filling) := by
  induction levels generalizing filling with
  | nil => exact ⟨TakesAll.nil filling, hfilling⟩
  | cons level rest ih =>
    obtain ⟨hfirst, hrest⟩ := List.pairwise_cons.mp hsorted
    have hrestOk : ∀ other ∈ rest, LevelOk k p other :=
      fun other hother => hlevels other (List.mem_cons_of_mem level hother)
    unfold takeLevels
    by_cases hdone : filling.remaining ≤ 0
    · have hzero : filling.remaining.toRat = 0 := by
        rw [Decimal.le_iff, Decimal.toRat_zero] at hdone
        exact le_antisymm hdone hfilling.remaining_nonneg
      have hsizes : ∀ other ∈ within limit (level :: rest), 0 ≤ sizeOf other := fun other hother =>
        (hlevels other (List.mem_filter.mp hother).1).size_nonneg
      rw [if_pos (Or.inl hdone)]
      refine ⟨⟨?_, ?_, ?_⟩, hfilling⟩
      · rw [hzero, Greedy.taken, Greedy.spent_zero hsizes, add_zero]
      · rw [hzero, Greedy.spent_zero hsizes, add_zero]
      · rw [hzero, Greedy.spent_zero hsizes, add_zero]
    · by_cases hlimit : limit < level.price
      · have hnone : within limit (level :: rest) = [] := by
          refine List.filter_eq_nil_iff.mpr fun other hother hle => ?_
          have hle' := Decimal.le_iff.mp (of_decide_eq_true hle)
          have hlt := Decimal.lt_iff.mp hlimit
          rcases List.mem_cons.mp hother with rfl | hother
          · linarith
          · have := Decimal.le_iff.mp (hfirst other hother)
            linarith
        rw [if_pos (Or.inr hlimit), hnone]
        exact ⟨TakesAll.nil filling, hfilling⟩
      · obtain ⟨htakes, hnext⟩ :=
          take_exact hdigits hrequested hfilling (hlevels level List.mem_cons_self)
        obtain ⟨hall, hlast⟩ := ih hrestOk hrest hnext
        have hwithin : within limit (level :: rest) = level :: within limit rest :=
          List.filter_cons_of_pos (decide_eq_true
            (Decimal.le_iff.mpr (not_lt.mp fun h => hlimit (Decimal.lt_iff.mpr h))))
        rw [if_neg (not_or.mpr ⟨hdone, hlimit⟩), hwithin]
        refine ⟨⟨?_, ?_, ?_⟩, hlast⟩
        · rw [hall.filled, htakes.filled, htakes.remaining, Greedy.taken, Greedy.taken, Greedy.spent]
          ring
        · rw [hall.gross, htakes.gross, htakes.remaining, Greedy.spent]
          ring
        · rw [hall.fees, htakes.fees, htakes.remaining, Greedy.spent]
          ring

/-! ## What the merged levels display -/

/-- A change of an entry changes what is displayed by it. -/
theorem depthWithin_setSize {levels : List BookLevel} (hok : SideOk levels) (limit price size : Decimal) :
    depthWithin limit (setSize levels ⟨price, size⟩) +
        (if price ≤ limit then max 0 (sizeAt levels price).toRat else 0) =
      depthWithin limit levels + (if price ≤ limit then max 0 size.toRat else 0) := by
  have hcongr : ∀ level : BookLevel, level.price.toRat = price.toRat →
      (level.price ≤ limit ↔ price ≤ limit) := by
    intro level h
    rw [Decimal.le_iff, Decimal.le_iff, h]
  by_cases hany : (levels.any fun shown => Decimal.Same shown.price price) = true
  · unfold setSize
    rw [if_pos hany]
    induction levels with
    | nil => cases hany
    | cons first rest ih =>
      have hnodup := List.nodup_cons.mp hok.distinct
      have hrest : SideOk rest :=
        ⟨hnodup.2, fun level hlevel => hok.positive level (List.mem_cons_of_mem _ hlevel)⟩
      rw [List.map_cons, depthWithin_cons, depthWithin_cons, sizeAt_cons]
      by_cases hfirst : Decimal.Same first.price price
      · have heq := Decimal.same_iff.mp hfirst
        have hsame : (rest.map fun shown =>
            if Decimal.Same shown.price price then ⟨shown.price, size⟩ else shown) = rest := by
          refine (List.map_congr_left fun shown hshown => ?_).trans (List.map_id rest)
          refine if_neg fun h => hnodup.1 ?_
          exact List.mem_map.mpr ⟨shown, hshown, (Decimal.same_iff.mp h).trans heq.symm⟩
        rw [if_pos hfirst, if_pos heq, hsame]
        simp only [hcongr first heq]
        ring
      · have hne : ¬ first.price.toRat = price.toRat := fun h => hfirst (Decimal.same_iff.mpr h)
        have hany' : (rest.any fun shown => Decimal.Same shown.price price) = true := by
          rw [List.any_cons, decide_eq_false hfirst, Bool.false_or] at hany
          exact hany
        rw [if_neg hfirst, if_neg hne]
        have hstep := ih hrest hany'
        linarith
  · have hnone : sizeAt levels price = 0 :=
      sizeAt_eq_zero fun h => hany (any_same_iff.mpr h)
    have happend : depthWithin limit (levels ++ [⟨price, size⟩]) =
        depthWithin limit levels + (if price ≤ limit then max 0 size.toRat else 0) := by
      rw [depthWithin_perm List.perm_append_comm, List.singleton_append,
        depthWithin_cons]
      ring
    unfold setSize
    rw [if_neg hany, happend, hnone, Decimal.toRat_zero, max_self, ite_self, add_zero]

theorem depthWithin_append (limit : Decimal) (listed : List BookLevel) (level : BookLevel) :
    depthWithin limit (listed ++ [level]) =
      depthWithin limit listed + (if level.price ≤ limit then max 0 level.size.toRat else 0) := by
  rw [depthWithin_perm List.perm_append_comm, List.singleton_append, depthWithin_cons]
  ring

/-- What is displayed at a price is displayed within a limit above it. -/
theorem sizeAt_le_depthWithin {levels : List BookLevel} (hok : SideOk levels) {limit price : Decimal}
    (hprice : price ≤ limit) : (sizeAt levels price).toRat ≤ depthWithin limit levels := by
  induction levels with
  | nil =>
    rw [sizeAt_nil, Decimal.toRat_zero]
    exact depthWithin_nonneg limit []
  | cons first rest ih =>
    have hnodup := List.nodup_cons.mp hok.distinct
    have hrest : SideOk rest :=
      ⟨hnodup.2, fun level hlevel => hok.positive level (List.mem_cons_of_mem _ hlevel)⟩
    have hnonneg := depthWithin_nonneg limit rest
    rw [sizeAt_cons, depthWithin_cons]
    by_cases hfirst : first.price.toRat = price.toRat
    · have hle : first.price ≤ limit := by
        rw [Decimal.le_iff, hfirst]
        exact Decimal.le_iff.mp hprice
      rw [if_pos hfirst, if_pos hle]
      linarith [le_max_right 0 first.size.toRat]
    · have hstep := ih hrest
      have hmax : 0 ≤ if first.price ≤ limit then max 0 first.size.toRat else 0 := by
        split_ifs
        · exact le_max_left _ _
        · exact le_rfl
      rw [if_neg hfirst]
      linarith

/-- What the checks and the digits of a listing make of its merged levels. -/
structure Merged (k p : ℕ) (listed merged : List BookLevel) : Prop where
  levels : ∀ level ∈ merged, LevelOk k p level
  depth : ∀ limit, depthWithin limit merged = depthWithin limit listed

/-- A level that is added to the merged ones. -/
theorem Merged.add {k p : ℕ} {listed merged : List BookLevel} {level : BookLevel}
    (h : Merged k p listed merged) (hok : SideOk merged) (hlevel : LevelOk k p level)
    (htotal : depthWithin 1 listed + level.size.toRat < 10 ^ (28 - k)) (hk : k ≤ 22) :
    Merged k p (listed ++ [level]) (addSize merged level) := by
  unfold addSize
  by_cases hzero : level.size.isZero
  · rw [if_pos hzero]
    refine ⟨h.levels, fun limit => ?_⟩
    rw [depthWithin_append, h.depth, Decimal.isZero_iff.mp hzero, max_self, ite_self, add_zero]
  · rw [if_neg hzero]
    have hone : level.price ≤ 1 := by
      rw [Decimal.le_iff, Decimal.toRat_one]
      exact hlevel.le_one
    have hbefore : 0 ≤ (sizeAt merged level.price).toRat ∧ OnGrid k (sizeAt merged level.price).toRat := by
      rw [sizeAt_eq]
      cases hfound : levelAt merged level.price with
      | none =>
        rw [Option.map_none, Option.getD_none, Decimal.toRat_zero]
        exact ⟨le_rfl, OnGrid.zero k⟩
      | some shown =>
        have hshown := h.levels shown (levelAt_eq_some hfound).1
        exact ⟨hshown.size_nonneg, hshown.size⟩
    have hle := sizeAt_le_depthWithin hok hone
    rw [h.depth] at hle
    have hsum : (sizeAt merged level.price + level.size).toRat =
        (sizeAt merged level.price).toRat + level.size.toRat :=
      Decimal.add_eq hbefore.2 hlevel.size (add_nonneg hbefore.1 hlevel.size_nonneg)
        (lt_of_le_of_lt (by linarith) htotal) (by simp only [Decimal.precision]; omega)
    refine ⟨fun other hother => ?_, fun limit => ?_⟩
    · have hnew : 0 ≤ (sizeAt merged level.price + level.size).toRat ∧
          OnGrid k (sizeAt merged level.price + level.size).toRat := by
        rw [hsum]
        exact ⟨add_nonneg hbefore.1 hlevel.size_nonneg, hbefore.2.add hlevel.size⟩
      unfold setSize at hother
      split_ifs at hother
      · obtain ⟨shown, hshown, rfl⟩ := List.mem_map.mp hother
        have hold := h.levels shown hshown
        split_ifs
        · exact ⟨hold.pos, hold.le_one, hnew.1, hold.price, hnew.2⟩
        · exact hold
      · rcases List.mem_append.mp hother with hother | hother
        · exact h.levels other hother
        · rw [List.mem_singleton.mp hother]
          exact ⟨hlevel.pos, hlevel.le_one, hnew.1, hlevel.price, hnew.2⟩
    · have hset := depthWithin_setSize hok limit level.price (sizeAt merged level.price + level.size)
      rw [h.depth, hsum, max_eq_right hbefore.1,
        max_eq_right (add_nonneg hbefore.1 hlevel.size_nonneg)] at hset
      rw [depthWithin_append, max_eq_right hlevel.size_nonneg]
      split_ifs at hset ⊢
      · linarith
      · linarith

/-- All of a listing is within the limit one. -/
theorem depthWithin_one {listed : List BookLevel}
    (h : ∀ level ∈ listed, level.price.toRat ≤ 1 ∧ 0 ≤ level.size.toRat) :
    depthWithin 1 listed = (listed.map fun level => level.size.toRat).sum := by
  induction listed with
  | nil => rfl
  | cons level rest ih =>
    obtain ⟨hone, hsize⟩ := h level List.mem_cons_self
    have hle : level.price ≤ 1 := by
      rw [Decimal.le_iff, Decimal.toRat_one]
      exact hone
    rw [depthWithin_cons, if_pos hle, max_eq_right hsize, List.map_cons, List.sum_cons,
      ih fun other hother => h other (List.mem_cons_of_mem level hother)]

/-- **The merged levels display what the listing does.** -/
theorem depthWithin_merge {k p : ℕ} {listed : List BookLevel}
    (hlevels : ∀ level ∈ listed, LevelOk k p level) (hk : k ≤ 22)
    (htotal : (listed.map fun level => level.size.toRat).sum < 10 ^ (28 - k)) :
    Merged k p listed (merge listed) := by
  induction listed using List.reverseRecOn with
  | nil => exact ⟨fun level hlevel => (nomatch hlevel), fun limit => rfl⟩
  | append_singleton listed level ih =>
    have hbefore : ∀ other ∈ listed, LevelOk k p other :=
      fun other hother => hlevels other (List.mem_append_left _ hother)
    have hlevel := hlevels level (List.mem_append_right _ List.mem_cons_self)
    rw [List.map_append, List.map_singleton, List.sum_append, List.sum_singleton] at htotal
    have hsize := hlevel.size_nonneg
    have hmerged := ih hbefore (by linarith)
    have hok : SideOk (merge listed) := merge_sideOk fun other hother => (hbefore other hother).size_nonneg
    have hadd := hmerged.add hok hlevel (by
      rw [depthWithin_one fun other hother => ⟨(hbefore other hother).le_one,
        (hbefore other hother).size_nonneg⟩]
      exact htotal) hk
    unfold merge at hadd ⊢
    rw [List.foldl_append]
    exact hadd

/-! ## The order -/

/-- An order that was sized by its worst case, of `worst` a share. -/
structure Sized (requested : Decimal) (worst : ℚ) : Prop where
  grid : OnGrid 6 requested.toRat
  nonneg : 0 ≤ requested.toRat
  small : requested.toRat < 10 ^ 3
  budget : requested.toRat * worst ≤ 5

theorem toRat_slippageBuffer : frozenV4SlippageBuffer.toRat = 1 / 100 := by
  norm_num [frozenV4SlippageBuffer, Decimal.toRat]

theorem toRat_targetNotional : targetNotionalUsd.toRat = 5 := by
  norm_num [targetNotionalUsd, Decimal.toRat]

/-- The limit of an order is computed exactly. -/
theorem limitPrice_exact {p : ℕ} {bestAsk : Decimal} (hcents : 2 ≤ p) (hp : p ≤ 8)
    (hpos : 0 < bestAsk.toRat) (hone : bestAsk.toRat ≤ 1) (hgrid : OnGrid p bestAsk.toRat) :
    (limitPrice bestAsk frozenV4SlippageBuffer).toRat = min 1 (bestAsk.toRat + 1 / 100) ∧
      OnGrid p (limitPrice bestAsk frozenV4SlippageBuffer).toRat := by
  have hbuffer : OnGrid p frozenV4SlippageBuffer.toRat := by
    refine OnGrid.mono ⟨1, ?_⟩ hcents
    rw [toRat_slippageBuffer]
    norm_num
  have hsum : (bestAsk + frozenV4SlippageBuffer).toRat = bestAsk.toRat + 1 / 100 := by
    rw [Decimal.add_eq hgrid hbuffer (n := 1) (by rw [toRat_slippageBuffer]; linarith)
      (by rw [toRat_slippageBuffer]; linarith) (by simp only [Decimal.precision]; omega),
      toRat_slippageBuffer]
  have hlimit : (limitPrice bestAsk frozenV4SlippageBuffer).toRat =
      min 1 (bestAsk.toRat + 1 / 100) := by
    rw [limitPrice, Decimal.toRat_min', Decimal.toRat_one, hsum]
  refine ⟨hlimit, ?_⟩
  rw [hlimit, ← toRat_slippageBuffer]
  exact (OnGrid.one p).min (hgrid.add hbuffer)

/-- The worst case of a share is computed exactly. -/
theorem worstTotalPerShare_exact {p : ℕ} {limit : Decimal} (hp : p ≤ 8) (hpos : 0 < limit.toRat)
    (hone : limit.toRat ≤ 1) (hgrid : OnGrid p limit.toRat) :
    (worstTotalPerShare frozenV4FeeRate limit).toRat = unitCost (7 / 100) limit.toRat ∧
      OnGrid (2 + p + p) (unitCost (7 / 100) limit.toRat) := by
  have hprecision : Decimal.precision = 28 := rfl
  have hrate : OnGrid 2 frozenV4FeeRate.toRat := ⟨7, by rw [toRat_feeRate]; norm_num⟩
  have honeGrid : OnGrid p (1 : Decimal).toRat := by
    rw [Decimal.toRat_one]
    exact OnGrid.one p
  have hrest : ((1 : Decimal) - limit).toRat = 1 - limit.toRat := by
    rw [Decimal.sub_eq honeGrid hgrid (n := 1) (by rw [Decimal.toRat_one]; exact hone)
      (by rw [Decimal.toRat_one]; linarith) (by omega), Decimal.toRat_one]
  have hrestGrid : OnGrid p ((1 : Decimal) - limit).toRat := by
    rw [hrest, ← Decimal.toRat_one]
    exact honeGrid.sub hgrid
  have hrated : (frozenV4FeeRate * limit).toRat = 7 / 100 * limit.toRat := by
    rw [Decimal.mul_eq hrate hgrid (n := 1) (by rw [toRat_feeRate]; linarith)
      (by rw [toRat_feeRate]; linarith) (by omega), toRat_feeRate]
  have hratedGrid : OnGrid (2 + p) (frozenV4FeeRate * limit).toRat := by
    rw [hrated, ← toRat_feeRate]
    exact hrate.mul hgrid
  have hfee0 : 0 ≤ 7 / 100 * limit.toRat * (1 - limit.toRat) :=
    mul_nonneg (by linarith) (by linarith)
  have hfee1 : 7 / 100 * limit.toRat * (1 - limit.toRat) ≤ 7 / 100 * limit.toRat :=
    mul_le_of_le_one_right (by linarith) (by linarith)
  have hfee : (frozenV4FeeRate * limit * (1 - limit)).toRat =
      7 / 100 * limit.toRat * (1 - limit.toRat) := by
    rw [Decimal.mul_eq hratedGrid hrestGrid (n := 1) (by rw [hrated, hrest]; exact hfee0)
      (by rw [hrated, hrest]; linarith) (by omega), hrated, hrest]
  have hfeeGrid : OnGrid (2 + p + p) (frozenV4FeeRate * limit * (1 - limit)).toRat := by
    rw [hfee, ← hrated, ← hrest]
    exact hratedGrid.mul hrestGrid
  have hlimitGrid : OnGrid (2 + p + p) limit.toRat := hgrid.mono (by omega)
  have hworst : (worstTotalPerShare frozenV4FeeRate limit).toRat = unitCost (7 / 100) limit.toRat := by
    unfold worstTotalPerShare
    rw [Decimal.add_eq hlimitGrid hfeeGrid (n := 1) (by rw [hfee]; linarith)
      (by rw [hfee]; linarith) (by omega), hfee]
    rfl
  refine ⟨hworst, ?_⟩
  unfold unitCost
  rw [← hfee]
  exact hlimitGrid.add hfeeGrid

/-- **The shares for the budget.**  The quotient may round above the exact one; but what the shares
cost is on a grid too coarse for that to exceed the budget. -/
theorem sharesForBudget_sized {p : ℕ} {worst : Decimal} (hp : p ≤ 8) (hgrid : OnGrid (2 + p + p) worst.toRat)
    (hlow : 1 / 100 ≤ worst.toRat) :
    ∃ requested, sharesForBudget targetNotionalUsd worst sharePrecision = .ok requested ∧
      Sized requested worst.toRat := by
  have hpos : 0 < worst.toRat := by linarith
  have hslack : Decimal.slack ^ 2 ≤ 1 + 1 / 10 ^ 26 := by norm_num [Decimal.slack]
  have hne : worst.coeff ≠ 0 := by
    intro h
    rw [Decimal.toRat, h] at hpos
    norm_num at hpos
  obtain ⟨quotient, hquotient⟩ : ∃ quotient, Decimal.div targetNotionalUsd worst = some quotient := by
    unfold Decimal.div
    dsimp only
    rw [if_neg hne]
    split_ifs
    all_goals exact ⟨_, rfl⟩
  have hle := Decimal.div_le hquotient (by rw [toRat_targetNotional]; norm_num) hpos
  have hquotient0 := Decimal.div_nonneg hquotient (by rw [toRat_targetNotional]; norm_num) hpos.le
  rw [toRat_targetNotional] at hle
  have hcost : quotient.toRat * worst.toRat ≤ 5 + 5 / 10 ^ 26 := by
    calc quotient.toRat * worst.toRat
        ≤ 5 / worst.toRat * Decimal.slack ^ 2 * worst.toRat := mul_le_mul_of_nonneg_right hle hpos.le
      _ = 5 * Decimal.slack ^ 2 := by field_simp
      _ ≤ 5 + 5 / 10 ^ 26 := by linarith
  have hsmall : quotient.toRat < 10 ^ 3 := by
    have hmul : quotient.toRat * (1 / 100) ≤ quotient.toRat * worst.toRat :=
      mul_le_mul_of_nonneg_left hlow hquotient0
    linarith
  obtain ⟨requested, hdown⟩ := Decimal.quantizeDown_isSome (k := sharePrecision) hquotient0 hsmall
    (by simp only [Decimal.precision, sharePrecision]; omega)
  have hnonneg := Decimal.quantizeDown_nonneg hdown hquotient0
  have hrequestedGrid : OnGrid 6 requested.toRat := Decimal.quantizeDown_onGrid hdown
  have hrequested : requested.toRat ≤ quotient.toRat := by
    rcases hnonneg.eq_or_lt with hzero | hlt
    · rw [← hzero]
      exact hquotient0
    · exact Decimal.quantizeDown_le hdown hlt
  refine ⟨requested, ?_, hrequestedGrid, hnonneg, lt_of_le_of_lt hrequested hsmall, ?_⟩
  · unfold sharesForBudget
    rw [hquotient]
    dsimp only
    rw [hdown]
  · by_contra hover
    have hstep := OnGrid.add_le_of_lt (k := 6 + (2 + p + p)) (OnGrid.int _ 5)
      (hrequestedGrid.mul hgrid) (by push_cast; exact not_le.mp hover)
    have hcost' : requested.toRat * worst.toRat ≤ 5 + 5 / 10 ^ 26 :=
      (mul_le_mul_of_nonneg_right hrequested hpos.le).trans hcost
    have hfine : (1 : ℚ) / 10 ^ 24 ≤ 1 / 10 ^ (6 + (2 + p + p)) :=
      one_div_le_one_div_of_le (by positivity) (pow_le_pow_right₀ (by norm_num) (by omega))
    push_cast at hstep
    linarith

/-- What a share of a level costs, with its fee. -/
def costOf (level : BookLevel) : ℚ := unitCost frozenV4FeeRate.toRat level.price.toRat

theorem costOf_eq : costOf = fun level => priceOf level + feeOf level := by
  funext level
  rw [costOf, toRat_feeRate]
  rfl

/-- What is bought of some levels: as much as was asked for or all there is, within the target notional,
and as cheaply as possible. -/
structure Buys (levels : List BookLevel) (requested shares total : ℚ) : Prop where
  filled : shares = min requested (levels.map sizeOf).sum
  budget : total ≤ targetNotionalUsd.toRat
  cheapest : ∀ amount : BookLevel → ℚ, (∀ level ∈ levels, 0 ≤ amount level ∧ amount level ≤ sizeOf level) →
    (levels.map amount).sum = shares → total ≤ (levels.map fun level => amount level * costOf level).sum

/-- Nothing is bought when nothing may be. -/
theorem Buys.nothing : Buys [] 0 0 0 := by
  refine ⟨(min_self 0).symm, ?_, fun amount _ _ => le_rfl⟩
  rw [toRat_targetNotional]
  norm_num

/-- **What is taken from the cheapest levels is bought as cheaply as possible.** -/
theorem buys_of_spent {levels : List BookLevel} {limit requested : ℚ}
    (hlevels : ∀ level ∈ levels, 0 < level.price.toRat ∧ 0 ≤ sizeOf level)
    (hlimit : ∀ level ∈ levels, level.price.toRat ≤ limit) (hone : limit ≤ 1)
    (hsorted : levels.Pairwise fun a b => a.price ≤ b.price) (hrequested : 0 ≤ requested)
    (hlimit0 : 0 ≤ limit) (hbudget : requested * unitCost (7 / 100) limit ≤ 5) :
    Buys levels requested (Greedy.taken sizeOf requested levels)
      (Greedy.spent sizeOf costOf requested levels) := by
  have hmono : ∀ {price other : ℚ}, price ≤ other → other ≤ 1 →
      unitCost (7 / 100) price ≤ unitCost (7 / 100) other :=
    fun hle hother => unitCost_mono (by norm_num) (by norm_num) hle hother
  have hcost : ∀ level, costOf level = unitCost (7 / 100) level.price.toRat := fun level => by
    rw [costOf, toRat_feeRate]
  have hsizes : ∀ level ∈ levels, 0 ≤ sizeOf level := fun level hlevel => (hlevels level hlevel).2
  have hnonneg : ∀ level ∈ levels, 0 ≤ costOf level := by
    intro level hlevel
    rw [hcost]
    exact unitCost_nonneg (by norm_num) (hlevels level hlevel).1.le ((hlimit level hlevel).trans hone)
  refine ⟨Greedy.taken_eq hsizes hrequested, ?_, ?_⟩
  · have hbound := (Greedy.spent_bounds hsizes hrequested hnonneg
      (M := unitCost (7 / 100) limit) fun level hlevel => by
        rw [hcost]
        exact hmono (hlimit level hlevel) hone).2
    have htaken : Greedy.taken sizeOf requested levels ≤ requested := by
      rw [Greedy.taken_eq hsizes hrequested]
      exact min_le_left _ _
    have hunit : 0 ≤ unitCost (7 / 100) limit := unitCost_nonneg (by norm_num) hlimit0 hone
    have hmul := mul_le_mul_of_nonneg_left htaken hunit
    rw [toRat_targetNotional]
    linarith
  · intro amount hamount hsum
    refine Greedy.spent_le_of_sum_eq hamount ?_ hrequested hnonneg hsum
    refine hsorted.imp_of_mem fun hfirst hsecond hle => ?_
    rw [hcost, hcost]
    exact hmono (Decimal.le_iff.mp hle) ((hlimit _ hsecond).trans hone)

/-- What an order gets. -/
structure OrderLaw (levels : List BookLevel) (limit : Decimal) (ordered : Ordered) : Prop where
  limited : ordered.limitPrice = some limit
  buys : Buys (within limit levels) ordered.requestedShares.toRat ordered.filling.filledShares.toRat
    (ordered.filling.grossFillCost + ordered.filling.totalFees).toRat

/-- **An order is made, and what it gets.** -/
theorem orderOf_law {k p : ℕ} {levels : List BookLevel} {bestAsk : Decimal} (hshares : 6 ≤ k)
    (hcents : 2 ≤ p) (hdigits : k + 2 * p ≤ 22) (hlevels : ∀ level ∈ levels, LevelOk k p level)
    (hsorted : levels.Pairwise fun a b => a.price ≤ b.price)
    (hbest : levels.head?.map BookLevel.price = some bestAsk) :
    ∃ ordered, orderOf levels bestAsk = .ok ordered ∧
      OrderLaw levels (limitPrice bestAsk frozenV4SlippageBuffer) ordered := by
  have hprecision : Decimal.precision = 28 := rfl
  obtain ⟨first, hfirst, rfl⟩ := Option.map_eq_some_iff.mp hbest
  have hask := hlevels first (List.mem_of_head? hfirst)
  obtain ⟨hlimit, hlimitGrid⟩ := limitPrice_exact hcents (by omega) hask.pos hask.le_one hask.price
  set limit := limitPrice first.price frozenV4SlippageBuffer with hlimitDef
  have hlimit1 : limit.toRat ≤ 1 := by
    rw [hlimit]
    exact min_le_left _ _
  have hlimit0 : 1 / 100 ≤ limit.toRat := by
    rw [hlimit]
    exact le_min (by norm_num) (by linarith [hask.pos])
  have hlimitPos : 0 < limit.toRat := by linarith
  obtain ⟨hworst, hworstGrid⟩ := worstTotalPerShare_exact (by omega) hlimitPos hlimit1 hlimitGrid
  have hworstLow : 1 / 100 ≤ (worstTotalPerShare frozenV4FeeRate limit).toRat := by
    rw [hworst]
    unfold unitCost
    have hfee : 0 ≤ 7 / 100 * limit.toRat * (1 - limit.toRat) :=
      mul_nonneg (by linarith) (by linarith)
    linarith
  obtain ⟨requested, hrequested, hsized⟩ :=
    sharesForBudget_sized (p := p) (by omega) (by rw [hworst]; exact hworstGrid) hworstLow
  have hbudget := hsized.budget
  rw [hworst] at hbudget
  have hstart : FillingOk k p requested.toRat { remaining := requested } := by
    have hzero : ∀ n, OnGrid n (0 : Decimal).toRat := fun n => by
      rw [Decimal.toRat_zero]
      exact OnGrid.zero n
    refine ⟨hsized.grid.mono hshares, hzero _, hzero _, hzero _, hsized.nonneg,
      Decimal.toRat_zero.ge, le_rfl, Decimal.toRat_zero.ge, le_rfl, ?_⟩
    dsimp only
    rw [Decimal.toRat_zero, zero_add]
  obtain ⟨htakes, hlast⟩ : TakesAll _ (takeLevels limit levels { remaining := requested }) _ ∧
      FillingOk k p requested.toRat _ := takeLevels_exact hdigits hsized.small hlevels hsorted hstart
  set last := takeLevels limit levels { remaining := requested } with hlastDef
  refine ⟨⟨requested, some limit, last⟩, ?_, rfl, ?_⟩
  · unfold orderOf
    dsimp only
    rw [← hlimitDef, hrequested]
    rfl
  · have hfilled := htakes.filled
    have hgross := htakes.gross
    have hfees := htakes.fees
    dsimp only at hfilled hgross hfees
    rw [Decimal.toRat_zero, zero_add] at hfilled hgross hfees
    have hbelow : last.filledShares.toRat < 10 ^ 3 := by
      linarith [hlast.total, hlast.remaining_nonneg, hsized.small]
    have htotal : (last.grossFillCost + last.totalFees).toRat =
        Greedy.spent sizeOf costOf requested.toRat (within limit levels) := by
      rw [costOf_eq, Greedy.spent_add, ← hgross, ← hfees]
      refine Decimal.add_eq (n := 4) (hlast.gross.mono (by omega)) hlast.fees ?_ ?_ (by omega)
      · exact add_nonneg hlast.gross_nonneg hlast.fees_nonneg
      · linarith [hlast.gross_le, hlast.fees_le]
    have hmem : ∀ level ∈ within limit levels, LevelOk k p level ∧ level.price ≤ limit := by
      intro level hlevel
      obtain ⟨hlevel, hle⟩ := List.mem_filter.mp hlevel
      exact ⟨hlevels level hlevel, of_decide_eq_true hle⟩
    dsimp only
    rw [hfilled, htotal]
    exact buys_of_spent (fun level hlevel => ⟨(hmem level hlevel).1.pos, (hmem level hlevel).1.size_nonneg⟩)
      (fun level hlevel => Decimal.le_iff.mp (hmem level hlevel).2) hlimit1
      (hsorted.sublist List.filter_sublist) hsized.nonneg hlimitPos.le hbudget

/-! ## The evaluation -/

section Evaluation

variable {F : Type} {A : ShadowFloats F}

/-- A decision is made of any probability. -/
theorem edgeDecisionV3_returns {probability : F} (hprobability : A.isProbability probability = true)
    (book : V3ExecutionBook F) (feeRate slippageBuffer : F) (minEdge : Option F) :
    ∃ decision, edgeDecisionV3 A probability book feeRate slippageBuffer minEdge = .ok decision := by
  unfold edgeDecisionV3
  rw [require_eq_ok (u := ()) |>.mpr hprobability, ok_bind]
  dsimp only
  generalize decide ((predicted A.toArithmetic probability).side = .up) = up
  generalize (if up = true then book.upFresh else book.downFresh) = fresh
  generalize (if up = true then book.upBestAsk else book.downBestAsk).filter A.isProbability = ask
  cases fresh with
  | false => exact ⟨_, rfl⟩
  | true =>
    cases ask with
    | none => exact ⟨_, rfl⟩
    | some ask => exact ⟨_, rfl⟩

/-- Without an ask, there is no trade. -/
theorem edgeDecisionV3_no_ask {probability : F} {up : Bool} {feeRate slippageBuffer : F}
    {minEdge : Option F} {decision : EdgeDecision F}
    (h : edgeDecisionV3 A probability (shadowBook A up none) feeRate slippageBuffer minEdge =
      .ok decision) : decision.trade = false := by
  obtain ⟨_, -, h⟩ := bind_eq_ok.mp h
  dsimp only at h
  rw [if_pos (by simp [shadowBook])] at h
  cases h
  rfl

/-- The levels up to a limit; without a limit, there are none. -/
def upTo : Option Decimal → List BookLevel → List BookLevel
  | none, _ => []
  | some limit, levels => within limit levels

/-- What a result fills of the levels that were listed, and what it pays. -/
structure FillLaw (listed : List BookLevel) (result : V4FreshBookShadowResult) : Prop where
  filled : result.filledShares.toRat =
    min result.requestedShares.toRat ((upTo result.limitPrice listed).map sizeOf).sum
  buys : Buys (upTo result.limitPrice result.displayedAskLevels) result.requestedShares.toRat
    result.filledShares.toRat result.totalFillCost.toRat

theorem depthWithin_eq {levels : List BookLevel} (hsizes : ∀ level ∈ levels, 0 ≤ level.size.toRat)
    (limit : Decimal) : depthWithin limit levels = ((within limit levels).map sizeOf).sum := by
  induction levels with
  | nil => rfl
  | cons level rest ih =>
    have hrest := ih fun other hother => hsizes other (List.mem_cons_of_mem level hother)
    rw [depthWithin_cons, hrest, max_eq_right (hsizes level List.mem_cons_self)]
    by_cases hle : level.price ≤ limit
    · have hwithin : within limit (level :: rest) = level :: within limit rest := by
        simp [within, hle]
      rw [if_pos hle, hwithin, List.map_cons, List.sum_cons]
      rfl
    · have hwithin : within limit (level :: rest) = within limit rest := by
        simp [within, hle]
      rw [if_neg hle, hwithin, zero_add]

/-- **What a fresh-book shadow fills, and what it pays.**  The levels are of few decimals. -/
theorem fill_law {k p : ℕ} {prediction : List (String × Field F)} {asks : List (Field F × Field F)}
    {observedAt : Field F} {accepted : Accepted} {listed : List BookLevel}
    (haccept : acceptPrediction A prediction observedAt = .ok accepted)
    (hread : asks.mapM (readLevel A) = .ok listed) (hfew : FewDigits k p listed)
    (hfloat : A.isProbability (A.ofDecimal accepted.probabilityUp) = true) :
    ∃ result, evaluateV4FreshBookShadow A prediction asks observedAt = .ok result ∧
      FillLaw listed result := by
  have hlisted : ∀ level ∈ listed, LevelOk k p level := by
    intro level hlevel
    obtain ⟨⟨hpos, hone⟩, hsize⟩ := forall_of_readLevels
      (P := fun level => (0 < level.price.toRat ∧ level.price.toRat ≤ 1) ∧ 0 ≤ level.size.toRat)
      hread (fun _ _ h => readLevel_eq_ok h) level hlevel
    exact ⟨hpos, hone, hsize, hfew.prices level hlevel, hfew.sizes level hlevel⟩
  have hsizes : ∀ level ∈ listed, 0 ≤ level.size.toRat :=
    fun level hlevel => (hlisted level hlevel).size_nonneg
  have hdigits := hfew.digits
  have hmerged := depthWithin_merge hlisted (by omega) hfew.total
  have hok := merge_sideOk hsizes
  set levels := byPrice (merge listed) with hlevels
  have hperm : levels.Perm (merge listed) := byPrice_perm _
  have hlevelsOk : ∀ level ∈ levels, LevelOk k p level :=
    fun level hlevel => hmerged.levels level (hperm.mem_iff.mp hlevel)
  have hsorted : levels.Pairwise fun a b => a.price ≤ b.price := by
    refine hok.pairwise_byPrice.imp fun h => ?_
    rw [Decimal.le_iff]
    exact (Decimal.lt_iff.mp h).le
  have hdepth : ∀ limit, ((within limit levels).map sizeOf).sum =
      ((within limit listed).map sizeOf).sum := by
    intro limit
    rw [← depthWithin_eq (fun level hlevel => (hlevelsOk level hlevel).size_nonneg) limit,
      ← depthWithin_eq hsizes limit, depthWithin_perm hperm, hmerged.depth]
  rw [evaluate_eq haccept hread, ← hlevels]
  obtain ⟨decision, hdecision⟩ := edgeDecisionV3_returns hfloat
    (shadowBook A (isUp accepted.probabilityUp) (levels.head?.map BookLevel.price))
    (A.ofDecimal frozenV4FeeRate) (A.ofDecimal frozenV4SlippageBuffer)
    (some (A.ofDecimal frozenV4MinEdge))
  -- the order, when there is one
  obtain ⟨ordered, hordered, hfill⟩ : ∃ ordered,
      orderFor decision.trade levels (levels.head?.map BookLevel.price) = .ok ordered ∧
      Buys (upTo ordered.limitPrice levels) ordered.requestedShares.toRat
        ordered.filling.filledShares.toRat
        (ordered.filling.grossFillCost + ordered.filling.totalFees).toRat := by
    by_cases htraded : decision.trade = true
    · obtain ⟨bestAsk, hbest⟩ : ∃ bestAsk, levels.head?.map BookLevel.price = some bestAsk := by
        refine Option.ne_none_iff_exists'.mp fun hnone => ?_
        rw [hnone] at hdecision
        rw [edgeDecisionV3_no_ask hdecision] at htraded
        cases htraded
      obtain ⟨ordered, hordered, hlaw⟩ :=
        orderOf_law hfew.shares hfew.cents hdigits hlevelsOk hsorted hbest
      refine ⟨ordered, ?_, ?_⟩
      · unfold orderFor
        rw [if_pos htraded, hbest]
        exact hordered
      · rw [hlaw.limited]
        exact hlaw.buys
    · refine ⟨{}, if_neg htraded, ?_⟩
      have hsum : ((0 : Decimal) + 0).toRat = 0 := by decide +kernel
      dsimp only [upTo]
      rw [hsum, Decimal.toRat_zero]
      exact Buys.nothing
  refine ⟨{ resultOf A accepted levels decision ordered with
    semanticSha256 := A.digest (semanticValues (resultOf A accepted levels decision ordered)) }, ?_, ?_, hfill⟩
  · unfold evaluateLevels
    dsimp only
    rw [hdecision, ok_bind, hordered, ok_bind, canonicalHash_semanticValues]
    rfl
  · refine hfill.filled.trans ?_
    change min _ ((upTo ordered.limitPrice levels).map sizeOf).sum =
      min _ ((upTo ordered.limitPrice listed).map sizeOf).sum
    cases ordered.limitPrice with
    | none => rfl
    | some limit =>
      dsimp only [upTo]
      rw [hdepth limit]
      rfl

end Evaluation

theorem fill_law_sample :
    ∃ result, evaluateV4FreshBookShadow rationals upPrediction twoForms (.aware 0) = .ok result ∧
      FillLaw [⟨⟨50, -2⟩, ⟨10, 0⟩⟩, ⟨⟨5, -1⟩, ⟨10, 0⟩⟩] result := by
  have hread : twoForms.mapM (readLevel rationals) =
      .ok [⟨⟨50, -2⟩, ⟨10, 0⟩⟩, ⟨⟨5, -1⟩, ⟨10, 0⟩⟩] := by decide +kernel
  have hfloat : (match acceptPrediction rationals upPrediction (.aware 0) with
      | .ok accepted => rationals.isProbability (rationals.ofDecimal accepted.probabilityUp)
      | .error _ => false) = true := by decide +kernel
  have hfew : FewDigits 6 2 [⟨⟨50, -2⟩, ⟨10, 0⟩⟩, ⟨⟨5, -1⟩, ⟨10, 0⟩⟩] := by
    refine ⟨le_rfl, le_rfl, by norm_num, ?_, ?_, by norm_num [Decimal.toRat]⟩
    · rintro level (_ | ⟨_, _ | ⟨_, h⟩⟩)
      · exact ⟨50, by norm_num [Decimal.toRat]⟩
      · exact ⟨50, by norm_num [Decimal.toRat]⟩
      · cases h
    · rintro level (_ | ⟨_, _ | ⟨_, h⟩⟩)
      · exact ⟨10000000, by norm_num [Decimal.toRat]⟩
      · exact ⟨10000000, by norm_num [Decimal.toRat]⟩
      · cases h
  cases haccept : acceptPrediction rationals upPrediction (.aware 0) with
  | error raised => simp [haccept] at hfloat
  | ok accepted =>
    rw [haccept] at hfloat
    exact fill_law haccept hread hfew hfloat

/-- Sizes of twenty-seven decimals. -/
def longSizes : List (Field ℚ × Field ℚ) :=
  [(.text "0.5", .text "8.000000000000000000000000001"),
    (.text "0.505", .text "0.1000000000000000000000000004")]

/-- The sum of two long sizes is rounded: less is filled than is displayed and was asked for. -/
theorem long_sizes_fill_less :
    ∃ listed result, longSizes.mapM (readLevel rationals) = .ok listed ∧
      evaluateV4FreshBookShadow rationals upPrediction longSizes (.aware 0) = .ok result ∧
      result.filledShares.toRat <
        min result.requestedShares.toRat ((upTo result.limitPrice listed).map sizeOf).sum := by
  have hless : (longSizes.mapM (readLevel rationals)).toOption.any (fun listed =>
      (evaluateV4FreshBookShadow rationals upPrediction longSizes (.aware 0)).toOption.any
        fun result => decide (result.filledShares.toRat <
          min result.requestedShares.toRat ((upTo result.limitPrice listed).map sizeOf).sum)) =
        true := by
    decide +kernel
  cases hread : longSizes.mapM (readLevel rationals) with
  | error raised => simp [hread, Except.toOption] at hless
  | ok listed =>
    cases hresult : evaluateV4FreshBookShadow rationals upPrediction longSizes (.aware 0) with
    | error raised => simp [hread, hresult, Except.toOption] at hless
    | ok result =>
      rw [hread, hresult] at hless
      exact ⟨listed, result, rfl, rfl, of_decide_eq_true hless⟩

end BpEngine.V4Paper
