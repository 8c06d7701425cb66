import BpEngine.Execution.BookLevels

/-!
# What a simulated order is filled with

* `eligible` are the books an order is filled from, `displayedIncrease` is what they display at or below
  the limit price beyond the eligible book before.
* `walkDepth_fills` and `walkBooks_groups` say where the fills come from: one group for each eligible
  book, in the order of its prices.
* `walkDepth_exact` and `walkBooks_exact` say how much is filled, for sizes on a grid that the decimal
  context holds (`OnGrid`).
-/

namespace BpEngine.PaperLedger

open BpEngine.Execution BookReplay

/-! ## The law -/

/-- The book is displayed while the order can be filled. -/
def isEligible (order : PaperOrderDraft) (executionCutoff : Timestamp) (book : ReplayedBook) : Bool :=
  order.request.arrivalAt ≤ book.replayCutoffAt && book.replayCutoffAt ≤ executionCutoff

/-- The books the order is filled from. -/
def eligible (order : PaperOrderDraft) (executionCutoff : Timestamp) (books : List ReplayedBook) :
    List ReplayedBook :=
  books.filter (isEligible order executionCutoff)

/-- What a display shows at or below the limit beyond the display before; without one, all of it. -/
def levelIncrease (limit : Decimal) (previous : Option (List BookLevel)) (display : List BookLevel) :
    ℚ :=
  ((display.filter fun level => level.price ≤ limit).map fun level =>
    max 0 (level.size.toRat - (previous.elim 0 fun before => sizeAt before level.price).toRat)).sum

/-- What the books show at or below the limit, each beyond the book before it. -/
def displayedIncrease (limit : Decimal) : Option (List BookLevel) → List ReplayedBook → ℚ
  | _, [] => 0
  | previous, book :: books =>
    levelIncrease limit previous (displayOf book.asks) +
      displayedIncrease limit (some (displayOf book.asks)) books

/-- The fills are taken from the book: at its time, at or below the limit, from the best price on. -/
structure FilledFrom (order : PaperOrderDraft) (book : ReplayedBook) (group : List PaperFillDraft) :
    Prop where
  fills : ∀ fill ∈ group,
    fill = fillDraft order book fill.shares fill.price book.replayCutoffAt ∧
      fill.price ≤ order.request.limitPrice ∧ 0 < fill.shares.toRat
  sorted : group.Pairwise fun a b => a.price ≤ b.price

theorem FilledFrom.fillAt {order : PaperOrderDraft} {book : ReplayedBook}
    {group : List PaperFillDraft} (h : FilledFrom order book group) {fill : PaperFillDraft}
    (hfill : fill ∈ group) : fill.fillAt = book.replayCutoffAt := by
  rw [(h.fills fill hfill).1]
  rfl

theorem FilledFrom.nil (order : PaperOrderDraft) (book : ReplayedBook) : FilledFrom order book [] :=
  ⟨fun _ hfill => (nomatch hfill), List.Pairwise.nil⟩

/-- The shares of the fills. -/
def sharesOf (fills : List PaperFillDraft) : ℚ := (fills.map (·.shares.toRat)).sum

@[simp] theorem sharesOf_nil : sharesOf [] = 0 := rfl

@[simp] theorem sharesOf_append (fills more : List PaperFillDraft) :
    sharesOf (fills ++ more) = sharesOf fills + sharesOf more := by
  simp [sharesOf]

/-! ## One book -/

theorem Filled.pos_of_not_le {filled : Filled} (h : ¬ filled.remaining ≤ 0) :
    0 < filled.remaining.toRat := by
  rw [Decimal.le_iff, Decimal.toRat_zero, not_le] at h
  exact h

/-- What is taken of a level is positive and at most what remains. -/
theorem shares_pos_le {level : BookLevel} {remaining : Decimal} (hlevel : ¬ level.size ≤ 0)
    (hremaining : 0 < remaining.toRat) :
    0 < (Decimal.min' level.size remaining).toRat ∧
      (Decimal.min' level.size remaining).toRat ≤ remaining.toRat := by
  rw [Decimal.le_iff, Decimal.toRat_zero, not_le] at hlevel
  rw [Decimal.toRat_min']
  exact ⟨lt_min hlevel hremaining, min_le_right _ _⟩

/-- The fills after the levels of a book are those before and a group taken from the levels. -/
structure TakenFrom (order : PaperOrderDraft) (book : ReplayedBook) (levels : List BookLevel)
    (before after : Filled) (group : List PaperFillDraft) : Prop where
  fills : after.fills = before.fills ++ group
  each : ∀ fill ∈ group, fill = fillDraft order book fill.shares fill.price book.replayCutoffAt ∧
    fill.price ≤ order.request.limitPrice ∧ 0 < fill.shares.toRat
  prices : (group.map (·.price)).Sublist (levels.map (·.price))
  remaining : 0 ≤ after.remaining.toRat
  untouched : group = [] → after.remaining = before.remaining

theorem TakenFrom.stop (order : PaperOrderDraft) (book : ReplayedBook) (levels : List BookLevel)
    {filled : Filled} (hremaining : 0 ≤ filled.remaining.toRat) :
    TakenFrom order book levels filled filled [] :=
  ⟨(List.append_nil _).symm, fun _ h => (nomatch h), List.nil_sublist _, hremaining, fun _ => rfl⟩

/-- **Where the fills of a book come from.** -/
theorem walkDepth_fills (order : PaperOrderDraft) (book : ReplayedBook) (levels : List BookLevel)
    (filled : Filled) (hremaining : 0 ≤ filled.remaining.toRat) :
    ∃ group, TakenFrom order book levels filled
      (walkDepth order book book.replayCutoffAt levels filled) group := by
  induction levels generalizing filled with
  | nil => exact ⟨[], TakenFrom.stop order book [] hremaining⟩
  | cons level rest ih =>
    rw [walkDepth]
    split_ifs with hdone hlimit hempty
    · exact ⟨[], TakenFrom.stop order book _ hremaining⟩
    · exact ⟨[], TakenFrom.stop order book _ hremaining⟩
    · obtain ⟨group, hgroup⟩ := ih filled hremaining
      exact ⟨group, hgroup.fills, hgroup.each, hgroup.prices.trans (List.sublist_cons_self _ _),
        hgroup.remaining, hgroup.untouched⟩
    · obtain ⟨hpos, hle⟩ := shares_pos_le hempty (Filled.pos_of_not_le hdone)
      set shares := Decimal.min' level.size filled.remaining
      have hprice : level.price ≤ order.request.limitPrice :=
        Decimal.le_iff.mpr (not_lt.mp fun h => hlimit (Decimal.lt_iff.mpr h))
      obtain ⟨group, hgroup⟩ := ih
        ⟨filled.fills ++ [fillDraft order book shares level.price book.replayCutoffAt],
          filled.remaining - shares⟩ (Decimal.sub_nonneg hle)
      refine ⟨fillDraft order book shares level.price book.replayCutoffAt :: group, ?_, ?_, ?_,
        hgroup.remaining, fun h => nomatch h⟩
      · rw [hgroup.fills, List.append_assoc, List.singleton_append]
      · intro fill hfill
        rcases List.mem_cons.mp hfill with rfl | hfill
        · exact ⟨rfl, hprice, hpos⟩
        · exact hgroup.each fill hfill
      · exact hgroup.prices.cons_cons level.price

/-- What a dictionary displays at or below the limit. -/
def depthWithin (limit : Decimal) (levels : List BookLevel) : ℚ :=
  ((levels.filter fun level => level.price ≤ limit).map fun level => max 0 level.size.toRat).sum

theorem depthWithin_cons (limit : Decimal) (level : BookLevel) (levels : List BookLevel) :
    depthWithin limit (level :: levels) =
      (if level.price ≤ limit then max 0 level.size.toRat else 0) + depthWithin limit levels := by
  unfold depthWithin
  rw [List.filter_cons]
  by_cases h : level.price ≤ limit
  · simp [h]
  · simp [h]

theorem depthWithin_nonneg (limit : Decimal) (levels : List BookLevel) :
    0 ≤ depthWithin limit levels := by
  refine List.sum_nonneg fun v hv => ?_
  obtain ⟨level, -, rfl⟩ := List.mem_map.mp hv
  exact le_max_left _ _

theorem depthWithin_perm {limit : Decimal} {levels other : List BookLevel}
    (hperm : levels.Perm other) : depthWithin limit levels = depthWithin limit other :=
  ((hperm.filter _).map _).sum_eq

/-- Above the limit there is nothing to take. -/
theorem depthWithin_eq_zero {limit : Decimal} {levels : List BookLevel}
    (h : ∀ level ∈ levels, limit < level.price) : depthWithin limit levels = 0 := by
  induction levels with
  | nil => rfl
  | cons level rest ih =>
    have hlevel : ¬ level.price ≤ limit := Decimal.lt_iff_not_le.mp (h level List.mem_cons_self)
    rw [depthWithin_cons, if_neg hlevel,
      ih fun other hother => h other (List.mem_cons_of_mem _ hother), zero_add]

theorem Fits.sub {k : ℤ} {a b : ℚ} (ha : Decimal.Fits k a) (hb : Decimal.Fits k b) (hb0 : 0 ≤ b)
    (hle : b ≤ a) : Decimal.Fits k (a - b) := by
  obtain ⟨x, hx⟩ := ha.grid
  obtain ⟨y, hy⟩ := hb.grid
  refine Decimal.Fits.of_nonneg ⟨x - y, ?_⟩ (by linarith) ?_
  · rw [hx, hy]
    push_cast
    ring
  · have hsmall := (abs_lt.mp ha.small).2
    linarith

/-- **How much of a book is taken**: as much as it shows, until nothing remains. -/
theorem walkDepth_exact {k : ℤ} (order : PaperOrderDraft) (book : ReplayedBook) (cutoff : Timestamp)
    {levels : List BookLevel} {filled : Filled}
    (hsorted : levels.Pairwise fun a b => a.price ≤ b.price)
    (hgrid : ∀ level ∈ levels, Decimal.Fits k level.size.toRat)
    (hfits : Decimal.Fits k filled.remaining.toRat) (hremaining : 0 ≤ filled.remaining.toRat) :
    let after := walkDepth order book cutoff levels filled
    after.remaining.toRat =
        max 0 (filled.remaining.toRat - depthWithin order.request.limitPrice levels) ∧
      sharesOf after.fills = sharesOf filled.fills + (filled.remaining.toRat - after.remaining.toRat) ∧
      Decimal.Fits k after.remaining.toRat := by
  have hdepth := depthWithin_nonneg order.request.limitPrice
  induction levels generalizing filled with
  | nil => exact ⟨by simp [walkDepth, depthWithin, hremaining], by simp [walkDepth], hfits⟩
  | cons level rest ih =>
    obtain ⟨hfirst, hsorted⟩ := List.pairwise_cons.mp hsorted
    have hlevel := hgrid level List.mem_cons_self
    have hrest : ∀ other ∈ rest, Decimal.Fits k other.size.toRat :=
      fun other hother => hgrid other (List.mem_cons_of_mem _ hother)
    have hnonneg := hdepth rest
    dsimp only
    rw [walkDepth, depthWithin_cons]
    by_cases hdone : filled.remaining ≤ 0
    · have hzero : filled.remaining.toRat = 0 := by
        rw [Decimal.le_iff, Decimal.toRat_zero] at hdone
        exact le_antisymm hdone hremaining
      rw [if_pos hdone]
      refine ⟨?_, by ring, hfits⟩
      have hfirst : 0 ≤ if level.price ≤ order.request.limitPrice then max 0 level.size.toRat
          else 0 := by
        split_ifs
        · exact le_max_left _ _
        · exact le_rfl
      rw [hzero, max_eq_left (by linarith)]
    rw [if_neg hdone]
    by_cases hlimit : order.request.limitPrice < level.price
    · have habove : ∀ other ∈ rest, order.request.limitPrice < other.price := fun other hother =>
        Decimal.lt_iff.mpr ((Decimal.lt_iff.mp hlimit).trans_le (Decimal.le_iff.mp (hfirst other hother)))
      rw [if_pos hlimit, if_neg (Decimal.lt_iff_not_le.mp hlimit), depthWithin_eq_zero habove]
      refine ⟨?_, by ring, hfits⟩
      rw [zero_add, sub_zero, max_eq_right hremaining]
    have hwithin : level.price ≤ order.request.limitPrice :=
      Decimal.le_iff.mpr (not_lt.mp fun h => hlimit (Decimal.lt_iff.mpr h))
    rw [if_neg hlimit, if_pos hwithin]
    by_cases hempty : level.size ≤ 0
    · have hzero : max 0 level.size.toRat = 0 := by
        rw [Decimal.le_iff, Decimal.toRat_zero] at hempty
        exact max_eq_left hempty
      rw [if_pos hempty, hzero, zero_add]
      exact ih hsorted hrest hfits hremaining
    · obtain ⟨hpos, hle⟩ := shares_pos_le hempty (Filled.pos_of_not_le hdone)
      rw [if_neg hempty]
      have hsize : max 0 level.size.toRat = level.size.toRat := by
        rw [Decimal.le_iff, Decimal.toRat_zero, not_le] at hempty
        exact max_eq_right hempty.le
      set shares := Decimal.min' level.size filled.remaining with hshares
      have hvalue : shares.toRat = min level.size.toRat filled.remaining.toRat := Decimal.toRat_min' _ _
      have htaken : Decimal.Fits k shares.toRat := by
        rw [hvalue]
        rcases min_choice level.size.toRat filled.remaining.toRat with h | h <;> rw [h]
        · exact hlevel
        · exact hfits
      have hleft := Fits.sub hfits htaken hpos.le hle
      have hexact := Decimal.sub_exact hleft
      obtain ⟨hafter, hsum, hfit⟩ := @ih
        ⟨filled.fills ++ [fillDraft order book shares level.price cutoff], filled.remaining - shares⟩
        hsorted hrest (by rw [hexact]; exact hleft) (by rw [hexact]; linarith)
      dsimp only at hafter hsum hfit
      refine ⟨?_, ?_, hfit⟩
      · rw [hafter, hexact, hsize, hvalue]
        rcases min_cases level.size.toRat filled.remaining.toRat with ⟨h, -⟩ | ⟨h, hlt⟩ <;> rw [h]
        · congr 1
          ring
        · rw [max_eq_left (by linarith), max_eq_left (by linarith)]
      · rw [hsum, hexact, sharesOf_append]
        have hone : sharesOf [fillDraft order book shares level.price cutoff] = shares.toRat := by
          simp [sharesOf, fillDraft]
        rw [hone]
        ring

/-! ## What a book shows beyond the book before -/

theorem forall_setSize {P : Decimal → Prop} {display : List BookLevel} {level : BookLevel}
    (hdisplay : ∀ shown ∈ display, P shown.size) (hlevel : P level.size) :
    ∀ shown ∈ setSize display level, P shown.size := by
  intro shown hshown
  unfold setSize at hshown
  split_ifs at hshown
  · obtain ⟨before, hbefore, rfl⟩ := List.mem_map.mp hshown
    split_ifs
    · exact hlevel
    · exact hdisplay before hbefore
  · rcases List.mem_append.mp hshown with h | h
    · exact hdisplay shown h
    · rw [List.mem_singleton.mp h]
      exact hlevel

/-- A display has the sizes of the asks. -/
theorem forall_displayOf {P : Decimal → Prop} {asks : List BookLevel}
    (hasks : ∀ ask ∈ asks, P ask.size) : ∀ shown ∈ displayOf asks, P shown.size := by
  have hfold : ∀ (rest display : List BookLevel), (∀ shown ∈ display, P shown.size) →
      (∀ ask ∈ rest, P ask.size) → ∀ shown ∈ rest.foldl setSize display, P shown.size := by
    intro rest
    induction rest with
    | nil => exact fun display hdisplay _ => hdisplay
    | cons ask rest ih =>
      intro display hdisplay hrest
      exact ih _ (forall_setSize hdisplay (hrest ask List.mem_cons_self))
        fun other hother => hrest other (List.mem_cons_of_mem _ hother)
  exact hfold asks [] (fun _ h => (nomatch h)) hasks

theorem sizeAt_of_forall {P : Decimal → Prop} {display : List BookLevel} (hzero : P 0)
    (hdisplay : ∀ shown ∈ display, P shown.size) (price : Decimal) : P (sizeAt display price) := by
  induction display with
  | nil => exact hzero
  | cons first rest ih =>
    rw [sizeAt_cons]
    split_ifs
    · exact hdisplay first List.mem_cons_self
    · exact ih fun other hother => hdisplay other (List.mem_cons_of_mem _ hother)

/-- A size that the decimal context holds exactly. -/
structure ExactSize (k : ℤ) (size : Decimal) : Prop where
  nonneg : 0 ≤ size.toRat
  fits : Decimal.Fits k size.toRat

theorem ExactSize.zero (k : ℤ) : ExactSize k 0 := by
  refine ⟨by simp, ⟨⟨0, by simp⟩, ?_⟩⟩
  rw [Decimal.toRat_zero, abs_zero]
  exact zpow_pos (by norm_num) _

/-- **The new depth of a book** is what it displays beyond the book before. -/
theorem newDepth_exact {k : ℤ} (limit : Decimal) {previous : Option (List BookLevel)}
    {display : List BookLevel} (hdisplay : ∀ shown ∈ display, ExactSize k shown.size)
    (hprevious : ∀ before ∈ previous, ∀ shown ∈ before, ExactSize k shown.size) :
    depthWithin limit (newDepth previous display) = levelIncrease limit previous display ∧
      ∀ level ∈ newDepth previous display, Decimal.Fits k level.size.toRat := by
  cases previous with
  | none => exact ⟨by simp [newDepth, depthWithin, levelIncrease], fun level h => (hdisplay level h).fits⟩
  | some before =>
    have hbefore : ∀ price, ExactSize k (sizeAt before price) :=
      sizeAt_of_forall (ExactSize.zero k) (hprevious before rfl)
    have hfits : ∀ shown ∈ display, sizeAt before shown.price < shown.size →
        Decimal.Fits k (shown.size.toRat - (sizeAt before shown.price).toRat) := by
      intro shown hshown hlt
      exact Fits.sub (hdisplay shown hshown).fits (hbefore _).fits (hbefore _).nonneg
        (Decimal.lt_iff.mp hlt).le
    refine ⟨?_, fun level hlevel => ?_⟩
    · induction display with
      | nil => rfl
      | cons shown rest ih =>
        have hrest := ih (fun other hother => hdisplay other (List.mem_cons_of_mem _ hother))
          fun other hother => hfits other (List.mem_cons_of_mem _ hother)
        have hstep : levelIncrease limit (some before) (shown :: rest) =
            (if shown.price ≤ limit then
              max 0 (shown.size.toRat - (sizeAt before shown.price).toRat) else 0) +
              levelIncrease limit (some before) rest := by
          unfold levelIncrease
          rw [List.filter_cons]
          by_cases h : shown.price ≤ limit
          · simp [h]
          · simp [h]
        rw [hstep, ← hrest]
        by_cases hlt : sizeAt before shown.price < shown.size
        · have hnew : newDepth (some before) (shown :: rest) =
              ⟨shown.price, shown.size - sizeAt before shown.price⟩ :: newDepth (some before) rest := by
            simp [newDepth, hlt]
          rw [hnew, depthWithin_cons, Decimal.sub_exact (hfits shown List.mem_cons_self hlt)]
        · have hnew : newDepth (some before) (shown :: rest) = newDepth (some before) rest := by
            simp [newDepth, hlt]
          have hnone : max 0 (shown.size.toRat - (sizeAt before shown.price).toRat) = 0 := by
            have := not_lt.mp fun h => hlt (Decimal.lt_iff.mpr h)
            exact max_eq_left (by linarith)
          rw [hnew, hnone, ite_self, zero_add]
    · obtain ⟨shown, hshown, rfl⟩ := List.mem_map.mp hlevel
      obtain ⟨hmem, hlt⟩ := List.mem_filter.mp hshown
      have hfit := hfits shown hmem (by simpa using hlt)
      dsimp only
      rwa [Decimal.sub_exact hfit]

/-! ## The loop over the books -/

theorem displayedIncrease_nonneg (limit : Decimal) (previous : Option (List BookLevel))
    (books : List ReplayedBook) : 0 ≤ displayedIncrease limit previous books := by
  induction books generalizing previous with
  | nil => exact le_rfl
  | cons book rest ih =>
    refine add_nonneg (List.sum_nonneg fun v hv => ?_) (ih _)
    obtain ⟨level, -, rfl⟩ := List.mem_map.mp hv
    exact le_max_left _ _

theorem pairwise_byPrice (levels : List BookLevel) :
    (byPrice levels).Pairwise fun a b => a.price ≤ b.price := List.pairwise_insertionSort _ _

/-- A step of the loop: a book that is not eligible is passed over, another one is walked. -/
theorem walkBooks_cons {order : PaperOrderDraft} {executionCutoff : Timestamp} {book : ReplayedBook}
    {books : List ReplayedBook} {walk last : BookWalk}
    (h : walkBooks order executionCutoff (book :: books) walk = .ok last) :
    (book.conditionId = order.request.conditionId ∧ book.assetId = order.request.tokenId) ∧
    (∀ previous ∈ walk.previousCutoff, previous ≤ book.replayCutoffAt) ∧
    ((isEligible order executionCutoff book = false ∧
        walkBooks order executionCutoff books { walk with previousCutoff := some book.replayCutoffAt } =
          .ok last) ∨
      (isEligible order executionCutoff book = true ∧ ∃ next : BookWalk,
        next.toFilled = walkDepth order book book.replayCutoffAt
          (byPrice (newDepth walk.previousDisplay (displayOf book.asks))) walk.toFilled ∧
        next.previousDisplay = some (displayOf book.asks) ∧
        next.previousCutoff = some book.replayCutoffAt ∧
        (next.remaining ≤ 0 ∧ last = next ∨
          ¬ next.remaining ≤ 0 ∧ walkBooks order executionCutoff books next = .ok last))) := by
  obtain ⟨cutoff, hcutoff, h⟩ := bind_eq_ok.mp h
  obtain ⟨_, hcondition, hcutoff⟩ := bind_eq_ok.mp hcutoff
  obtain ⟨_, hasset, hcutoff⟩ := bind_eq_ok.mp hcutoff
  cases hcutoff
  obtain ⟨_, hchronological, h⟩ := bind_eq_ok.mp h
  refine ⟨⟨require_eq_ok.mp hcondition, require_eq_ok.mp hasset⟩, ?_, ?_⟩
  · have hall := require_eq_ok.mp hchronological
    intro previous hprevious
    rw [Option.mem_def.mp hprevious] at hall
    simpa using hall
  · by_cases hskip : book.replayCutoffAt < order.request.arrivalAt ∨
        executionCutoff < book.replayCutoffAt
    · rw [if_pos hskip] at h
      refine Or.inl ⟨?_, h⟩
      rw [isEligible, Bool.and_eq_false_iff, decide_eq_false_iff_not, decide_eq_false_iff_not]
      exact hskip.imp not_le.mpr not_le.mpr
    · rw [if_neg hskip] at h
      refine Or.inr ⟨?_, ⟨walkDepth order book book.replayCutoffAt
        (byPrice (newDepth walk.previousDisplay (displayOf book.asks))) walk.toFilled,
        some (displayOf book.asks), some book.replayCutoffAt⟩, rfl, rfl, rfl, ?_⟩
      · rw [isEligible, Bool.and_eq_true, decide_eq_true_eq, decide_eq_true_eq]
        exact ⟨not_lt.mp fun h => hskip (Or.inl h), not_lt.mp fun h => hskip (Or.inr h)⟩
      · dsimp only at h
        split_ifs at h with hdone
        · cases h
          exact Or.inl ⟨hdone, rfl⟩
        · exact Or.inr ⟨hdone, h⟩

theorem eligible_cons_of_skip {order : PaperOrderDraft} {executionCutoff : Timestamp}
    {book : ReplayedBook} (books : List ReplayedBook)
    (h : isEligible order executionCutoff book = false) :
    eligible order executionCutoff (book :: books) = eligible order executionCutoff books := by
  simp [eligible, h]

theorem eligible_cons_of_take {order : PaperOrderDraft} {executionCutoff : Timestamp}
    {book : ReplayedBook} (books : List ReplayedBook)
    (h : isEligible order executionCutoff book = true) :
    eligible order executionCutoff (book :: books) = book :: eligible order executionCutoff books := by
  simp [eligible, h]

/-- One group of fills for each book. -/
abbrev Groups (order : PaperOrderDraft) := List.Forall₂ (FilledFrom order)

theorem Groups.none (order : PaperOrderDraft) (books : List ReplayedBook) :
    Groups order books (books.map fun _ => []) := by
  induction books with
  | nil => exact .nil
  | cons book rest ih => exact .cons (FilledFrom.nil order book) ih

/-- **Where the fills come from**: each eligible book gives a group of them. -/
theorem walkBooks_groups {order : PaperOrderDraft} {executionCutoff : Timestamp}
    {books : List ReplayedBook} {walk last : BookWalk}
    (h : walkBooks order executionCutoff books walk = .ok last)
    (hremaining : 0 ≤ walk.remaining.toRat) :
    ∃ groups, Groups order (eligible order executionCutoff books) groups ∧
      last.fills = walk.fills ++ groups.flatten ∧ 0 ≤ last.remaining.toRat ∧
      (groups.flatten = [] → last.remaining = walk.remaining) := by
  induction books generalizing walk with
  | nil =>
    cases h
    exact ⟨[], .nil, by simp, hremaining, fun _ => rfl⟩
  | cons book rest ih =>
    obtain ⟨-, -, ⟨hskip, hrest⟩ | ⟨htake, next, hnext, -, -, hdone⟩⟩ := walkBooks_cons h
    · rw [eligible_cons_of_skip rest hskip]
      have hsame := ih hrest hremaining
      exact hsame
    · rw [eligible_cons_of_take rest htake]
      obtain ⟨group, hgroup⟩ := walkDepth_fills order book
        (byPrice (newDepth walk.previousDisplay (displayOf book.asks))) walk.toFilled hremaining
      rw [← hnext] at hgroup
      have hfrom : FilledFrom order book group := by
        refine ⟨hgroup.each, List.pairwise_map.mp (List.Pairwise.sublist hgroup.prices ?_)⟩
        exact List.pairwise_map.mpr (pairwise_byPrice _)
      rcases hdone with ⟨-, rfl⟩ | ⟨-, hrest⟩
      · refine ⟨group :: (eligible order executionCutoff rest).map fun _ => [],
          .cons hfrom (Groups.none order _), ?_, hgroup.remaining, fun h => hgroup.untouched ?_⟩
        · rw [hgroup.fills]
          simp
        · simpa using h
      · obtain ⟨groups, hgroups, hfills, hlast, hnone⟩ := ih hrest hgroup.remaining
        refine ⟨group :: groups, .cons hfrom hgroups, ?_, hlast, fun h => ?_⟩
        · rw [hfills, hgroup.fills, List.flatten_cons, List.append_assoc]
        · rw [List.flatten_cons, List.append_eq_nil_iff] at h
          exact (hnone h.2).trans (hgroup.untouched h.1)

/-- **How much is filled**: what the eligible books show beyond each other, until nothing remains. -/
theorem walkBooks_exact {k : ℤ} {order : PaperOrderDraft} {executionCutoff : Timestamp}
    {books : List ReplayedBook} {walk last : BookWalk}
    (h : walkBooks order executionCutoff books walk = .ok last)
    (hgrid : ∀ book ∈ books, ∀ ask ∈ book.asks, ExactSize k ask.size)
    (hprevious : ∀ before ∈ walk.previousDisplay, ∀ shown ∈ before, ExactSize k shown.size)
    (hremaining : ExactSize k walk.remaining) :
    last.remaining.toRat = max 0 (walk.remaining.toRat - displayedIncrease order.request.limitPrice
        walk.previousDisplay (eligible order executionCutoff books)) ∧
      sharesOf last.fills =
        sharesOf walk.fills + (walk.remaining.toRat - last.remaining.toRat) ∧
      ExactSize k last.remaining := by
  induction books generalizing walk with
  | nil =>
    cases h
    refine ⟨?_, by ring, hremaining⟩
    simp [eligible, displayedIncrease, hremaining.nonneg]
  | cons book rest ih =>
    have hrestGrid : ∀ other ∈ rest, ∀ ask ∈ other.asks, ExactSize k ask.size :=
      fun other hother => hgrid other (List.mem_cons_of_mem _ hother)
    obtain ⟨-, -, ⟨hskip, hrest⟩ | ⟨htake, next, hnext, hdisplay, -, hdone⟩⟩ := walkBooks_cons h
    · rw [eligible_cons_of_skip rest hskip]
      have hsame := ih hrest hrestGrid hprevious hremaining
      exact hsame
    · rw [eligible_cons_of_take rest htake, displayedIncrease]
      have hshown : ∀ shown ∈ displayOf book.asks, ExactSize k shown.size :=
        forall_displayOf (hgrid book List.mem_cons_self)
      obtain ⟨hdepth, hnew⟩ := newDepth_exact order.request.limitPrice hshown hprevious
      obtain ⟨hafter, hsum, hfits⟩ := walkDepth_exact order book book.replayCutoffAt
        (pairwise_byPrice (newDepth walk.previousDisplay (displayOf book.asks)))
        (fun level hlevel => hnew level ((byPrice_perm _).mem_iff.mp hlevel)) hremaining.fits
        hremaining.nonneg
      rw [← hnext, depthWithin_perm (byPrice_perm _), hdepth] at hafter
      rw [← hnext] at hsum hfits
      have hnextSize : ExactSize k next.remaining := ⟨by rw [hafter]; exact le_max_left _ _, hfits⟩
      rcases hdone with ⟨hle, rfl⟩ | ⟨-, hrest⟩
      · refine ⟨?_, hsum, hnextSize⟩
        rw [Decimal.le_iff, Decimal.toRat_zero] at hle
        have hmore := displayedIncrease_nonneg order.request.limitPrice
          (some (displayOf book.asks)) (eligible order executionCutoff rest)
        rw [hafter] at hle ⊢
        have hzero := max_eq_left_iff.mp (le_antisymm hle (le_max_left _ _))
        rw [max_eq_left hzero, max_eq_left (by linarith)]
      · obtain ⟨hlast, hlastSum, hlastSize⟩ := ih hrest hrestGrid
          (by rw [hdisplay]; rintro before ⟨⟩; exact hshown) hnextSize
        refine ⟨?_, by rw [hlastSum, hsum]; ring, hlastSize⟩
        rw [hlast, hdisplay, hafter]
        have hmore := displayedIncrease_nonneg order.request.limitPrice
          (some (displayOf book.asks)) (eligible order executionCutoff rest)
        rcases max_cases 0 (walk.remaining.toRat -
          levelIncrease order.request.limitPrice walk.previousDisplay (displayOf book.asks)) with
          ⟨hmax, hle⟩ | ⟨hmax, -⟩
        · rw [hmax, max_eq_left (by linarith), max_eq_left (by linarith)]
        · rw [hmax]
          congr 1
          ring

/-- **The loop returns** for books of the order's token in the order of their times. -/
theorem walkBooks_ok {order : PaperOrderDraft} (executionCutoff : Timestamp)
    {books : List ReplayedBook} {walk : BookWalk}
    (hmarket : ∀ book ∈ books, book.conditionId = order.request.conditionId ∧
      book.assetId = order.request.tokenId)
    (hchronological : books.Pairwise fun a b => a.replayCutoffAt ≤ b.replayCutoffAt)
    (hprevious : ∀ previous ∈ walk.previousCutoff, ∀ book ∈ books, previous ≤ book.replayCutoffAt) :
    ∃ last, walkBooks order executionCutoff books walk = .ok last := by
  induction books generalizing walk with
  | nil => exact ⟨walk, rfl⟩
  | cons book rest ih =>
    obtain ⟨hfirst, hrest⟩ := List.pairwise_cons.mp hchronological
    obtain ⟨hcondition, hasset⟩ := hmarket book List.mem_cons_self
    have hmarketRest := fun other (hother : other ∈ rest) =>
      hmarket other (List.mem_cons_of_mem _ hother)
    have hall : walk.previousCutoff.all (· ≤ book.replayCutoffAt) = true := by
      cases hcutoff : walk.previousCutoff with
      | none => rfl
      | some previous => simpa using hprevious previous hcutoff book List.mem_cons_self
    have hnext : ∀ walk' : BookWalk, walk'.previousCutoff = some book.replayCutoffAt →
        ∃ last, walkBooks order executionCutoff rest walk' = .ok last := by
      intro walk' hwalk'
      refine ih hmarketRest hrest ?_
      rw [hwalk']
      rintro previous ⟨⟩ other hother
      exact hfirst other hother
    rw [walkBooks, validateBook, require, if_pos hcondition, ok_bind, require, if_pos hasset, ok_bind,
      ok_bind, require, if_pos hall, ok_bind]
    split_ifs
    · exact hnext _ rfl
    · dsimp only
      split_ifs
      · exact ⟨_, rfl⟩
      · exact hnext _ rfl

end BpEngine.PaperLedger
