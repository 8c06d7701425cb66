import BpEngine.PaperLedger.SimulateBuy

/-!
# What a paper order can cost

An order is planned so that its worst case, all shares at the limit price with the fee there, stays
within the target notional and the cash.  Every decimal operation on the way may round; `slack` is the
factor that covers one of them.

* `buildPaperOrder_eq_order` says how an order was planned, `planned_worst` what its worst case is.
* `walkBooks_shares` bounds the shares that are filled, `fillCost_le` what one fill costs.
* `simulateBuy_cost` puts them together.
-/

namespace BpEngine.PaperLedger

open BpEngine.Execution BookReplay

/-! ## Planning -/

/-- How an order was planned. -/
structure Planned (config : PaperExecutionConfig) (cash : Decimal) (draft : PaperOrderDraft) : Prop where
  cash_pos : 0 < cash.toRat
  fee_nonneg : 0 ≤ draft.signalFeeRate.toRat
  fee_le_one : draft.signalFeeRate.toRat ≤ 1
  shares : sharesForBudget (Decimal.min' config.targetNotionalUsd cash)
    (worstTotalPerShare draft.signalFeeRate draft.request.limitPrice) config.sharePrecision =
      .ok draft.request.requestedShares

/-- An order is what a plan gives when it is not a terminal. -/
theorem not_terminal {condition : Prop} [Decidable condition] {ending : PaperTerminalDraft}
    {rest : Outcome PaperOrderPlan} {draft : PaperOrderDraft}
    (h : (if condition then .ok (.terminal ending) else rest) = .ok (.order draft)) :
    ¬ condition ∧ rest = .ok (.order draft) := by
  split_ifs at h with hcondition
  · cases h
  · exact ⟨hcondition, h⟩

theorem buildFromSignal_eq_order {D : ExecutionDigests} {prediction : Prediction}
    {config : PaperExecutionConfig} {cash selectedAsk feeRate : Decimal} {draft : PaperOrderDraft}
    (h : buildFromSignal D prediction config cash selectedAsk feeRate = .ok (.order draft)) :
    Planned config cash draft := by
  unfold buildFromSignal at h
  dsimp only at h
  obtain ⟨-, h⟩ := not_terminal h
  obtain ⟨-, h⟩ := not_terminal h
  obtain ⟨hfee, h⟩ := not_terminal h
  obtain ⟨hcash, h⟩ := not_terminal h
  obtain ⟨-, h⟩ := not_terminal h
  obtain ⟨-, h⟩ := not_terminal h
  obtain ⟨-, h⟩ := not_terminal h
  obtain ⟨shares, hshares, h⟩ := bind_eq_ok.mp h
  obtain ⟨-, h⟩ := not_terminal h
  obtain ⟨request, hrequest, h⟩ := bind_eq_ok.mp h
  cases h
  obtain ⟨hrequested, hlimit, -⟩ := ExecutionOrderRequest.create_eq_ok hrequest
  rw [not_not, Decimal.le_iff, Decimal.le_iff, Decimal.toRat_zero, Decimal.toRat_one] at hfee
  rw [Decimal.le_iff, Decimal.toRat_zero, not_le] at hcash
  refine ⟨hcash, hfee.1, hfee.2, ?_⟩
  dsimp only
  rw [hrequested, hlimit]
  exact hshares

/-- **How an order was planned.** -/
theorem buildPaperOrder_eq_order {D : ExecutionDigests} {prediction : Prediction}
    {config : PaperExecutionConfig} {cash : Decimal} {draft : PaperOrderDraft}
    (h : buildPaperOrder D prediction config cash = .ok (.order draft)) :
    Planned config cash draft := by
  unfold buildPaperOrder at h
  split at h
  · cases h
  · split at h
    · exact buildFromSignal_eq_order h
    · cases h

/-! ## The worst case -/

/-- What a share costs at a price, exactly. -/
def unitCost (feeRate price : ℚ) : ℚ := price + feeRate * price * (1 - price)

theorem unitCost_nonneg {f p : ℚ} (hf : 0 ≤ f) (hp : 0 ≤ p) (hp1 : p ≤ 1) : 0 ≤ unitCost f p :=
  add_nonneg hp (mul_nonneg (mul_nonneg hf hp) (by linarith))

/-- A share costs more at a higher price. -/
theorem unitCost_mono {f p q : ℚ} (hf : 0 ≤ f) (hf1 : f ≤ 1) (hle : p ≤ q) (hq : q ≤ 1) :
    unitCost f p ≤ unitCost f q := by
  have hfactor : 0 ≤ 1 + f * (1 - p - q) := by
    have hmul : f * (p + q - 1) ≤ f * 1 := mul_le_mul_of_nonneg_left (by linarith) hf
    linarith
  have hdiff : unitCost f q - unitCost f p = (q - p) * (1 + f * (1 - p - q)) := by
    unfold unitCost
    ring
  have := mul_nonneg (by linarith : 0 ≤ q - p) hfactor
  linarith

theorem limit_range (order : PaperOrderDraft) :
    0 < order.request.limitPrice.toRat ∧ order.request.limitPrice.toRat ≤ 1 := by
  have hpos := order.request.limitPrice_pos
  have hone := order.request.limitPrice_le_one
  rw [Decimal.lt_iff, Decimal.toRat_zero] at hpos
  rw [Decimal.le_iff, Decimal.toRat_one] at hone
  exact ⟨hpos, hone⟩

/-- The computed cost of a share at the limit covers the exact one, up to four factors. -/
theorem unitCost_le_worst {feeRate limit : Decimal} (hfee : 0 ≤ feeRate.toRat)
    (hlimit : 0 < limit.toRat) (hlimit1 : limit.toRat ≤ 1) :
    unitCost feeRate.toRat limit.toRat ≤ (worstTotalPerShare feeRate limit).toRat * Decimal.slack ^ 4 ∧
      0 < (worstTotalPerShare feeRate limit).toRat := by
  have hone := Decimal.one_le_slack
  have hslack := Decimal.slack_pos
  have hrest : (1 : Decimal).toRat - limit.toRat ≤ ((1 : Decimal) - limit).toRat * Decimal.slack :=
    Decimal.le_sub_mul_slack (by rwa [Decimal.toRat_one])
  have hrest0 : 0 ≤ ((1 : Decimal) - limit).toRat := Decimal.sub_nonneg (by rwa [Decimal.toRat_one])
  rw [Decimal.toRat_one] at hrest
  have hfl0 : 0 ≤ feeRate.toRat * limit.toRat := mul_nonneg hfee hlimit.le
  have hfl : feeRate.toRat * limit.toRat ≤ (feeRate * limit).toRat * Decimal.slack :=
    Decimal.le_mul_mul_slack hfl0
  have hfl0' : 0 ≤ (feeRate * limit).toRat := Decimal.mul_nonneg' hfl0
  have hprod0 := mul_nonneg hfl0' hrest0
  have hprod := Decimal.le_mul_mul_slack hprod0
  have hprod0' : 0 ≤ (feeRate * limit * (1 - limit)).toRat := Decimal.mul_nonneg' hprod0
  have hfeeCost : feeRate.toRat * limit.toRat * (1 - limit.toRat) ≤
      (feeRate * limit * (1 - limit)).toRat * Decimal.slack ^ 3 := by
    calc feeRate.toRat * limit.toRat * (1 - limit.toRat)
        ≤ (feeRate * limit).toRat * Decimal.slack * (((1 : Decimal) - limit).toRat * Decimal.slack) :=
          mul_le_mul hfl hrest (by linarith) (mul_nonneg hfl0' hslack.le)
      _ = (feeRate * limit).toRat * ((1 : Decimal) - limit).toRat * Decimal.slack ^ 2 := by ring
      _ ≤ (feeRate * limit * (1 - limit)).toRat * Decimal.slack * Decimal.slack ^ 2 :=
          mul_le_mul_of_nonneg_right hprod (pow_nonneg hslack.le 2)
      _ = _ := by ring
  have hsum0 : 0 ≤ limit.toRat + (feeRate * limit * (1 - limit)).toRat := by linarith
  have hsum := Decimal.le_add_mul_slack hsum0
  have hcube := Decimal.one_le_slack_pow 3
  refine ⟨?_, Decimal.fix_pos (d := Decimal.rawAdd limit (feeRate * limit * (1 - limit)))
    (by rw [Decimal.toRat_rawAdd]; linarith)⟩
  unfold unitCost worstTotalPerShare
  calc limit.toRat + feeRate.toRat * limit.toRat * (1 - limit.toRat)
      ≤ limit.toRat * Decimal.slack ^ 3 +
          (feeRate * limit * (1 - limit)).toRat * Decimal.slack ^ 3 :=
        add_le_add (le_mul_of_one_le_right hlimit.le hcube) hfeeCost
    _ = (limit.toRat + (feeRate * limit * (1 - limit)).toRat) * Decimal.slack ^ 3 := by ring
    _ ≤ (limit + feeRate * limit * (1 - limit)).toRat * Decimal.slack * Decimal.slack ^ 3 :=
        mul_le_mul_of_nonneg_right hsum (pow_nonneg hslack.le 3)
    _ = _ := by ring

/-- **The worst case of a planned order** stays within the budget, up to six factors. -/
theorem planned_worst {config : PaperExecutionConfig} {cash : Decimal} {draft : PaperOrderDraft}
    (hplan : Planned config cash draft) :
    draft.request.requestedShares.toRat *
        unitCost draft.signalFeeRate.toRat draft.request.limitPrice.toRat ≤
      min config.targetNotionalUsd.toRat cash.toRat * Decimal.slack ^ 6 := by
  obtain ⟨hlimit, hlimit1⟩ := limit_range draft
  obtain ⟨hworst, hworst0⟩ := unitCost_le_worst hplan.fee_nonneg hlimit hlimit1
  have hbudget : (Decimal.min' config.targetNotionalUsd cash).toRat =
      min config.targetNotionalUsd.toRat cash.toRat := Decimal.toRat_min' _ _
  have hbudget0 : 0 < (Decimal.min' config.targetNotionalUsd cash).toRat := by
    have htarget := config.targetNotional_pos
    rw [Decimal.lt_iff, Decimal.toRat_zero] at htarget
    rw [hbudget]
    exact lt_min htarget hplan.cash_pos
  have hshares := hplan.shares
  unfold sharesForBudget at hshares
  split at hshares
  · cases hshares
  · next quotient hquotient =>
    split at hshares
    · cases hshares
    · next shares hdown =>
      cases hshares
      have hrequested := requested_pos draft
      have hquotient := Decimal.div_le hquotient hbudget0 hworst0
      have hslack := Decimal.slack_pos
      have hle := Decimal.quantizeDown_le hdown hrequested
      rw [← hbudget]
      calc draft.request.requestedShares.toRat *
            unitCost draft.signalFeeRate.toRat draft.request.limitPrice.toRat
          ≤ draft.request.requestedShares.toRat *
              ((worstTotalPerShare draft.signalFeeRate draft.request.limitPrice).toRat *
                Decimal.slack ^ 4) := mul_le_mul_of_nonneg_left hworst hrequested.le
        _ ≤ (Decimal.min' config.targetNotionalUsd cash).toRat /
              (worstTotalPerShare draft.signalFeeRate draft.request.limitPrice).toRat *
                Decimal.slack ^ 2 *
              ((worstTotalPerShare draft.signalFeeRate draft.request.limitPrice).toRat *
                Decimal.slack ^ 4) :=
            mul_le_mul_of_nonneg_right (hle.trans hquotient)
              (mul_nonneg hworst0.le (pow_nonneg hslack.le 4))
        _ = (Decimal.min' config.targetNotionalUsd cash).toRat * Decimal.slack ^ 6 := by
            field_simp

/-! ## What is filled -/

/-- What is filled and what remains is at most the requested, up to a factor for each fill. -/
def SharesWithin (requested : ℚ) (filled : Filled) : Prop :=
  sharesOf filled.fills + filled.remaining.toRat ≤ requested * Decimal.slack ^ filled.fills.length

theorem walkDepth_shares {requested : ℚ} (order : PaperOrderDraft) (book : ReplayedBook)
    (cutoff : Timestamp) (levels : List BookLevel) {filled : Filled}
    (hpositive : ∀ fill ∈ filled.fills, 0 < fill.shares.toRat) (hremaining : 0 ≤ filled.remaining.toRat)
    (hwithin : SharesWithin requested filled) :
    SharesWithin requested (walkDepth order book cutoff levels filled) := by
  induction levels generalizing filled with
  | nil => exact hwithin
  | cons level rest ih =>
    rw [walkDepth]
    split_ifs with hdone hlimit hempty
    · exact hwithin
    · exact hwithin
    · exact ih hpositive hremaining hwithin
    · obtain ⟨hpos, hle⟩ := shares_pos_le hempty (Filled.pos_of_not_le hdone)
      set shares := Decimal.min' level.size filled.remaining
      have hfillsPos : ∀ fill ∈ filled.fills ++ [fillDraft order book shares level.price cutoff],
          0 < fill.shares.toRat := by
        intro fill hfill
        rcases List.mem_append.mp hfill with hfill | hfill
        · exact hpositive fill hfill
        · rw [List.mem_singleton.mp hfill]
          exact hpos
      refine ih hfillsPos (Decimal.sub_nonneg hle) ?_
      have hleft : (filled.remaining - shares).toRat ≤
          (filled.remaining.toRat - shares.toRat) * Decimal.slack :=
        Decimal.sub_le_mul_slack le_rfl (by linarith)
      have hbefore : 0 ≤ sharesOf filled.fills + shares.toRat := by
        have hsum : 0 ≤ sharesOf filled.fills := by
          refine List.sum_nonneg fun v hv => ?_
          obtain ⟨fill, hfill, rfl⟩ := List.mem_map.mp hv
          exact (hpositive fill hfill).le
        linarith
      have hone : sharesOf [fillDraft order book shares level.price cutoff] = shares.toRat := by
        simp [sharesOf, fillDraft]
      unfold SharesWithin at hwithin ⊢
      dsimp only
      rw [sharesOf_append, hone, List.length_append, List.length_singleton, pow_succ, ← mul_assoc]
      calc sharesOf filled.fills + shares.toRat + (filled.remaining - shares).toRat
          ≤ (sharesOf filled.fills + shares.toRat) * Decimal.slack +
              (filled.remaining.toRat - shares.toRat) * Decimal.slack :=
            add_le_add (le_mul_of_one_le_right hbefore Decimal.one_le_slack) hleft
        _ = (sharesOf filled.fills + filled.remaining.toRat) * Decimal.slack := by ring
        _ ≤ requested * Decimal.slack ^ filled.fills.length * Decimal.slack :=
            mul_le_mul_of_nonneg_right hwithin Decimal.slack_pos.le

/-- A fill of the order: taken at a price within the limit. -/
structure IsFill (order : PaperOrderDraft) (fill : PaperFillDraft) : Prop where
  made : ∃ book cutoff, fill = fillDraft order book fill.shares fill.price cutoff
  within : fill.price.toRat ≤ order.request.limitPrice.toRat
  positive : 0 < fill.shares.toRat

/-- **The shares of a walk**, and its fills. -/
theorem walkBooks_shares {order : PaperOrderDraft} {executionCutoff : Timestamp}
    {books : List ReplayedBook} {walk last : BookWalk} {requested : ℚ}
    (h : walkBooks order executionCutoff books walk = .ok last)
    (hfills : ∀ fill ∈ walk.fills, IsFill order fill) (hremaining : 0 ≤ walk.remaining.toRat)
    (hwithin : SharesWithin requested walk.toFilled) :
    SharesWithin requested last.toFilled ∧ (∀ fill ∈ last.fills, IsFill order fill) ∧
      0 ≤ last.remaining.toRat := by
  induction books generalizing walk with
  | nil =>
    cases h
    exact ⟨hwithin, hfills, hremaining⟩
  | cons book rest ih =>
    obtain ⟨-, -, ⟨-, hrest⟩ | ⟨-, next, hnext, -, -, hdone⟩⟩ := walkBooks_cons h
    · have hsame := ih hrest hfills hremaining hwithin
      exact hsame
    · obtain ⟨group, hgroup⟩ := walkDepth_fills order book
        (byPrice (newDepth walk.previousDisplay (displayOf book.asks))) walk.toFilled hremaining
      rw [← hnext] at hgroup
      have hnextWithin : SharesWithin requested next.toFilled := by
        rw [hnext]
        exact walkDepth_shares order book _ _ (fun fill hfill => (hfills fill hfill).positive)
          hremaining hwithin
      have hnextFills : ∀ fill ∈ next.fills, IsFill order fill := by
        intro fill hfill
        rw [hgroup.fills] at hfill
        rcases List.mem_append.mp hfill with hfill | hfill
        · exact hfills fill hfill
        · obtain ⟨hmade, hprice, hpos⟩ := hgroup.each fill hfill
          exact ⟨⟨book, _, hmade⟩, Decimal.le_iff.mp hprice, hpos⟩
      rcases hdone with ⟨-, rfl⟩ | ⟨-, hrest⟩
      · exact ⟨hnextWithin, hnextFills, hgroup.remaining⟩
      · exact ih hrest hnextFills hgroup.remaining hnextWithin

/-! ## What the fills cost -/

/-- **What a fill costs**: its shares at the limit price, up to five factors. -/
theorem fillCost_le {order : PaperOrderDraft} {fill : PaperFillDraft} (hfill : IsFill order fill)
    (hfee : 0 ≤ order.signalFeeRate.toRat) (hfee1 : order.signalFeeRate.toRat ≤ 1) :
    fill.totalCost.toRat ≤ fill.shares.toRat *
      unitCost order.signalFeeRate.toRat order.request.limitPrice.toRat * Decimal.slack ^ 5 := by
  obtain ⟨hlimit, hlimit1⟩ := limit_range order
  obtain ⟨book, cutoff, hmade⟩ := hfill.made
  have hprice := hfill.within
  have hshares := hfill.positive
  rw [hmade]
  change (fill.shares * fill.price +
    fill.shares * order.signalFeeRate * fill.price * (1 - fill.price)).toRat ≤
      fill.shares.toRat * _ * _
  generalize fill.shares = s at hshares ⊢
  generalize fill.price = p at hprice ⊢
  generalize order.signalFeeRate = f at hfee hfee1 ⊢
  have hslack := Decimal.slack_pos
  have hone := Decimal.one_le_slack
  have hunit := unitCost_nonneg hfee hlimit.le hlimit1
  have hworst : 0 ≤ s.toRat * unitCost f.toRat order.request.limitPrice.toRat :=
    mul_nonneg hshares.le hunit
  have hsf0 : 0 ≤ s.toRat * f.toRat := mul_nonneg hshares.le hfee
  have hsf : (s * f).toRat ≤ s.toRat * f.toRat * Decimal.slack := Decimal.mul_le_mul_slack le_rfl hsf0
  have hsf0' : 0 ≤ (s * f).toRat := Decimal.mul_nonneg' hsf0
  have hrest0 : 0 ≤ ((1 : Decimal) - p).toRat :=
    Decimal.sub_nonneg (by rw [Decimal.toRat_one]; linarith)
  rcases le_total 0 p.toRat with hp | hp
  · have hrest : ((1 : Decimal) - p).toRat ≤ (1 - p.toRat) * Decimal.slack :=
      Decimal.sub_le_mul_slack (by rw [Decimal.toRat_one]) (by linarith)
    have hgross : (s * p).toRat ≤ s.toRat * p.toRat * Decimal.slack :=
      Decimal.mul_le_mul_slack le_rfl (mul_nonneg hshares.le hp)
    have hsfp : (s * f * p).toRat ≤ s.toRat * f.toRat * p.toRat * Decimal.slack ^ 2 := by
      have hle : (s * f).toRat * p.toRat ≤ s.toRat * f.toRat * p.toRat * Decimal.slack := by
        calc (s * f).toRat * p.toRat ≤ s.toRat * f.toRat * Decimal.slack * p.toRat :=
              mul_le_mul_of_nonneg_right hsf hp
          _ = _ := by ring
      refine (Decimal.mul_le_mul_slack hle ?_).trans (le_of_eq (by ring))
      exact mul_nonneg (mul_nonneg hsf0 hp) hslack.le
    have hsfp0 : 0 ≤ (s * f * p).toRat := Decimal.mul_nonneg' (mul_nonneg hsf0' hp)
    have hfee0 : 0 ≤ s.toRat * f.toRat * p.toRat * (1 - p.toRat) :=
      mul_nonneg (mul_nonneg hsf0 hp) (by linarith)
    have hfeeCost : (s * f * p * (1 - p)).toRat ≤
        s.toRat * f.toRat * p.toRat * (1 - p.toRat) * Decimal.slack ^ 4 := by
      have hle : (s * f * p).toRat * ((1 : Decimal) - p).toRat ≤
          s.toRat * f.toRat * p.toRat * (1 - p.toRat) * Decimal.slack ^ 3 := by
        calc (s * f * p).toRat * ((1 : Decimal) - p).toRat
            ≤ s.toRat * f.toRat * p.toRat * Decimal.slack ^ 2 * ((1 - p.toRat) * Decimal.slack) :=
              mul_le_mul hsfp hrest hrest0
                (mul_nonneg (mul_nonneg hsf0 hp) (pow_nonneg hslack.le 2))
          _ = _ := by ring
      refine (Decimal.mul_le_mul_slack hle ?_).trans (le_of_eq (by ring))
      exact mul_nonneg hfee0 (pow_nonneg hslack.le 3)
    have hcube := Decimal.one_le_slack_pow 3
    have hsum : (s * p).toRat + (s * f * p * (1 - p)).toRat ≤
        s.toRat * unitCost f.toRat p.toRat * Decimal.slack ^ 4 := by
      have hgross4 : s.toRat * p.toRat * Decimal.slack ≤ s.toRat * p.toRat * Decimal.slack ^ 4 := by
        refine mul_le_mul_of_nonneg_left ?_ (mul_nonneg hshares.le hp)
        calc Decimal.slack ≤ Decimal.slack * Decimal.slack ^ 3 := le_mul_of_one_le_right hslack.le hcube
          _ = Decimal.slack ^ 4 := by ring
      calc (s * p).toRat + (s * f * p * (1 - p)).toRat
          ≤ s.toRat * p.toRat * Decimal.slack ^ 4 +
              s.toRat * f.toRat * p.toRat * (1 - p.toRat) * Decimal.slack ^ 4 :=
            add_le_add (hgross.trans hgross4) hfeeCost
        _ = _ := by
          unfold unitCost
          ring
    have hmono := unitCost_mono hfee hfee1 hprice hlimit1
    have hlimitSum : (s * p).toRat + (s * f * p * (1 - p)).toRat ≤
        s.toRat * unitCost f.toRat order.request.limitPrice.toRat * Decimal.slack ^ 4 :=
      hsum.trans (mul_le_mul_of_nonneg_right (mul_le_mul_of_nonneg_left hmono hshares.le)
        (pow_nonneg hslack.le 4))
    refine (Decimal.add_le_mul_slack hlimitSum ?_).trans (le_of_eq (by ring))
    exact mul_nonneg hworst (pow_nonneg hslack.le 4)
  · -- below zero a fill costs nothing
    have hgross : (s * p).toRat ≤ 0 := by
      have := Decimal.mul_le_mul_slack (a := s) (b := p) (mul_nonpos_of_nonneg_of_nonpos hshares.le hp)
        le_rfl
      linarith
    have hsfp : (s * f * p).toRat ≤ 0 := by
      have := Decimal.mul_le_mul_slack (a := s * f) (b := p) (mul_nonpos_of_nonneg_of_nonpos hsf0' hp)
        le_rfl
      linarith
    have hfeeCost : (s * f * p * (1 - p)).toRat ≤ 0 := by
      have := Decimal.mul_le_mul_slack (a := s * f * p) (b := 1 - p)
        (mul_nonpos_of_nonpos_of_nonneg hsfp hrest0) le_rfl
      linarith
    have hsum : (s * p + s * f * p * (1 - p)).toRat ≤ 0 := by
      have := Decimal.add_le_mul_slack (a := s * p) (b := s * f * p * (1 - p)) (y := 0) (by linarith)
        le_rfl
      linarith
    exact hsum.trans (mul_nonneg hworst (pow_nonneg hslack.le 5))

/-- What the fills cost, exactly. -/
def exactCost (order : PaperOrderDraft) (fills : List PaperFillDraft) : ℚ :=
  (fills.map fun fill =>
    fill.shares.toRat * unitCost order.signalFeeRate.toRat fill.price.toRat).sum

theorem exactCost_le {order : PaperOrderDraft} {fills : List PaperFillDraft}
    (hfills : ∀ fill ∈ fills, IsFill order fill) (hfee : 0 ≤ order.signalFeeRate.toRat)
    (hfee1 : order.signalFeeRate.toRat ≤ 1) :
    exactCost order fills ≤
      sharesOf fills * unitCost order.signalFeeRate.toRat order.request.limitPrice.toRat := by
  obtain ⟨-, hlimit1⟩ := limit_range order
  induction fills with
  | nil => simp [exactCost]
  | cons fill rest ih =>
    have hfirst := hfills fill List.mem_cons_self
    have hmono := mul_le_mul_of_nonneg_left (unitCost_mono hfee hfee1 hfirst.within hlimit1)
      hfirst.positive.le
    have hrest := ih fun other hother => hfills other (List.mem_cons_of_mem _ hother)
    simp only [exactCost, sharesOf, List.map_cons, List.sum_cons] at hrest ⊢
    linarith

/-- **A paper order never overspends**, up to the rounding of the decimal context: for an order as
planned from a prediction and the cash, and any books and cancellation, the recorded cost of its fills
and their exact cost are within the target notional and the cash, with a factor of at most one part in
`10 ^ 27` for each decimal operation. -/
theorem simulateBuy_cost {D : ExecutionDigests} {prediction : Prediction}
    {config : PaperExecutionConfig} {cash : Decimal} {draft : PaperOrderDraft}
    {books : List ReplayedBook} {cancelAt : Option Timestamp} {result : PaperSimulationResult}
    (hplan : buildPaperOrder D prediction config cash = .ok (.order draft))
    (hresult : simulateBuy draft books cancelAt = .ok result) :
    result.totalCost.toRat ≤ min config.targetNotionalUsd.toRat cash.toRat *
        (1 + 1 / 10 ^ 27) ^ (2 * result.fills.length + 11) ∧
      exactCost draft result.fills ≤ min config.targetNotionalUsd.toRat cash.toRat *
        (1 + 1 / 10 ^ 27) ^ (result.fills.length + 6) := by
  change _ ≤ _ * Decimal.slack ^ _ ∧ _ ≤ _ * Decimal.slack ^ _
  have hplanned := buildPaperOrder_eq_order hplan
  have hworst := planned_worst hplanned
  have hfee := hplanned.fee_nonneg
  have hfee1 := hplanned.fee_le_one
  obtain ⟨hlimit, hlimit1⟩ := limit_range draft
  obtain ⟨-, walk, -, hwalk, -, hfills, -, -, htotal⟩ := simulateBuy_eq_ok hresult
  have hslack := Decimal.slack_pos
  have hstart : SharesWithin draft.request.requestedShares.toRat (startWalk draft.request).toFilled := by
    simp [SharesWithin, startWalk]
  obtain ⟨hwithin, hisFill, hremaining⟩ := walkBooks_shares hwalk (fun _ h => nomatch h)
    (requested_pos draft).le hstart
  have hwithin : sharesOf walk.fills + walk.remaining.toRat ≤
    draft.request.requestedShares.toRat * Decimal.slack ^ walk.fills.length := hwithin
  set unit := unitCost draft.signalFeeRate.toRat draft.request.limitPrice.toRat with hunit
  have hunit0 : 0 ≤ unit := unitCost_nonneg hfee hlimit.le hlimit1
  set n := walk.fills.length with hn
  -- all the shares at the limit price
  have hshares : sharesOf walk.fills * unit ≤
      min config.targetNotionalUsd.toRat cash.toRat * Decimal.slack ^ (n + 6) := by
    calc sharesOf walk.fills * unit
        ≤ draft.request.requestedShares.toRat * Decimal.slack ^ n * unit :=
          mul_le_mul_of_nonneg_right (by linarith) hunit0
      _ = draft.request.requestedShares.toRat * unit * Decimal.slack ^ n := by ring
      _ ≤ min config.targetNotionalUsd.toRat cash.toRat * Decimal.slack ^ 6 * Decimal.slack ^ n :=
          mul_le_mul_of_nonneg_right hworst (pow_nonneg hslack.le n)
      _ = _ := by ring
  rw [hfills, htotal]
  refine ⟨?_, (exactCost_le hisFill hfee hfee1).trans hshares⟩
  have hcosts : List.Forall₂ (fun (d : Decimal) (y : ℚ) => d.toRat ≤ y ∧ 0 ≤ y)
      (walk.fills.map (·.totalCost))
      (walk.fills.map fun fill => fill.shares.toRat * unit * Decimal.slack ^ 5) := by
    rw [List.forall₂_map_left_iff, List.forall₂_map_right_iff, List.forall₂_same]
    intro fill hfill
    refine ⟨fillCost_le (hisFill fill hfill) hfee hfee1, ?_⟩
    exact mul_nonneg (mul_nonneg (hisFill fill hfill).positive.le hunit0) (pow_nonneg hslack.le 5)
  have hsum := Decimal.foldl_add_le 0 hcosts (le_of_eq Decimal.toRat_zero) le_rfl
  have hfactor : (walk.fills.map fun fill => fill.shares.toRat * unit * Decimal.slack ^ 5).sum =
      sharesOf walk.fills * unit * Decimal.slack ^ 5 := by
    rw [List.sum_map_mul_right, List.sum_map_mul_right]
    rfl
  rw [hfactor, zero_add, List.length_map, ← hn] at hsum
  calc (total (walk.fills.map (·.totalCost))).toRat
      ≤ sharesOf walk.fills * unit * Decimal.slack ^ 5 * Decimal.slack ^ n := hsum
    _ ≤ min config.targetNotionalUsd.toRat cash.toRat * Decimal.slack ^ (n + 6) * Decimal.slack ^ 5 *
          Decimal.slack ^ n :=
        mul_le_mul_of_nonneg_right (mul_le_mul_of_nonneg_right hshares (pow_nonneg hslack.le 5))
          (pow_nonneg hslack.le n)
    _ = _ := by ring

/-- Digests of the sample. -/
def sampleDigests : ExecutionDigests :=
  ⟨fun _ _ => "", fun _ => "00000000000000000000000000000000000000000000000000000000000000aa"⟩

/-- A prediction with an ask of 28 digits, and no fee. -/
def samplePrediction : Prediction :=
  { predictionId := "p"
    semanticSha256 := "00000000000000000000000000000000000000000000000000000000000000aa"
    predictionVersion := "v", conditionId := "c", upTokenId := "u", downTokenId := "d"
    trade := true, executable := true, selectedSide := "up"
    selectedAsk := some ⟨9000000000000000000000000005, -28⟩, selectedSpread := none
    slippageBuffer := 0, feeRate := some 0, calibratedProbability := 0, costAdjustedEdge := none
    recordedAt := 0, scheduledAt := 0, marketEndAt := 100000000 }

/-- The cash of the sample: the quotient by the price rounds up to `1.000001`. -/
def sampleCash : Decimal := ⟨9000009000000000000000000003, -28⟩

/-- A book that displays a hundred shares at the ask of the prediction. -/
def sampleAskBook : ReplayedBook :=
  ⟨"c", "u", [⟨⟨9000000000000000000000000005, -28⟩, ⟨100, 0⟩⟩], 1, "", [], [], 250000⟩

/-- The order that is planned, filled from `books`, has the property. -/
def planAndFill (config : PaperExecutionConfig) (cash : Decimal) (books : List ReplayedBook)
    (holds : PaperOrderDraft → PaperSimulationResult → Bool) : Bool :=
  match buildPaperOrder sampleDigests samplePrediction config cash with
  | .ok (.order draft) =>
    match simulateBuy draft books none with
    | .ok result => holds draft result
    | .error _ => false
  | _ => false

theorem exists_of_planAndFill {config : PaperExecutionConfig} {cash : Decimal} {books : List ReplayedBook}
    {holds : PaperOrderDraft → PaperSimulationResult → Bool}
    (h : planAndFill config cash books holds = true) :
    ∃ draft result, buildPaperOrder sampleDigests samplePrediction config cash = .ok (.order draft) ∧
      simulateBuy draft books none = .ok result ∧ holds draft result = true := by
  unfold planAndFill at h
  split at h
  · next draft hplan =>
    split at h
    · next result hresult => exact ⟨draft, result, hplan, hresult, h⟩
    · cases h
  · cases h

theorem simulateBuy_cost_at_one_book :
    ∃ draft result, buildPaperOrder sampleDigests samplePrediction {} sampleCash =
        .ok (.order draft) ∧
      simulateBuy draft [sampleAskBook] none = .ok result ∧
      result.totalCost.toRat ≤
        min ({} : PaperExecutionConfig).targetNotionalUsd.toRat sampleCash.toRat *
          (1 + 1 / 10 ^ 27) ^ (2 * 1 + 11) := by
  have hrun : planAndFill {} sampleCash [sampleAskBook] (fun _ result => result.fills.length = 1) = true :=
    by decide +kernel
  obtain ⟨draft, result, hplan, hresult, hone⟩ := exists_of_planAndFill hrun
  have hcost := (simulateBuy_cost hplan hresult).1
  rw [of_decide_eq_true hone] at hcost
  exact ⟨draft, result, hplan, hresult, hcost⟩

/-- The division rounds half to even before the shares are rounded down, so that the order of the sample
costs more than the cash it was planned from. -/
theorem simulateBuy_overspends :
    ∃ draft result, buildPaperOrder sampleDigests samplePrediction {} sampleCash =
        .ok (.order draft) ∧
      simulateBuy draft [sampleAskBook] none = .ok result ∧
      min ({} : PaperExecutionConfig).targetNotionalUsd.toRat sampleCash.toRat <
        exactCost draft result.fills ∧
      min ({} : PaperExecutionConfig).targetNotionalUsd.toRat sampleCash.toRat <
        result.totalCost.toRat := by
  have hrun : planAndFill {} sampleCash [sampleAskBook] (fun draft result =>
      min ({} : PaperExecutionConfig).targetNotionalUsd.toRat sampleCash.toRat <
          exactCost draft result.fills ∧
        min ({} : PaperExecutionConfig).targetNotionalUsd.toRat sampleCash.toRat <
          result.totalCost.toRat) = true := by
    decide +kernel
  obtain ⟨draft, result, hplan, hresult, hover⟩ := exists_of_planAndFill hrun
  exact ⟨draft, result, hplan, hresult, of_decide_eq_true hover⟩

end BpEngine.PaperLedger
