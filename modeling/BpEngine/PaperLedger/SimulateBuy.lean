import BpEngine.PaperLedger.SimulationLaw

/-!
# The simulation of an order

What `simulate_buy` returns, from the facts about its loop.

* `simulateBuy_eq_ok` takes a simulation apart; `simulateBuy_law` is the law of its fills.
* `simulateBuy_truncates`: a cancelled simulation has the fills of the uncancelled one up to the
  cancellation.
-/

namespace BpEngine.PaperLedger

open BpEngine.Execution BookReplay

/-! ## The parts of a simulation -/

/-- The last instant an order is filled at: its cancellation if that comes before it expires. -/
def executionCutoff (request : ExecutionOrderRequest) (cancelAt : Option Timestamp) : Timestamp :=
  match cancelAt with
  | some t => if t < request.expiresAt then t else request.expiresAt
  | none => request.expiresAt

/-- The state before the first book. -/
def startWalk (request : ExecutionOrderRequest) : BookWalk :=
  { fills := [], remaining := request.requestedShares }

theorem requested_pos (order : PaperOrderDraft) : 0 < order.request.requestedShares.toRat := by
  have hpos := order.request.requestedShares_pos
  rwa [Decimal.lt_iff, Decimal.toRat_zero] at hpos

theorem cancellation_eq_ok {request : ExecutionOrderRequest} {cancelAt at_ : Option Timestamp}
    (h : cancellation request cancelAt = .ok at_) :
    at_.getD request.expiresAt = executionCutoff request cancelAt := by
  cases cancelAt with
  | none =>
    cases h
    rfl
  | some t =>
    obtain ⟨_, -, h⟩ := bind_eq_ok.mp h
    cases h
    unfold executionCutoff
    dsimp only
    split_ifs <;> rfl

/-- A simulation is a walk over the books and a terminal. -/
theorem simulateBuy_eq_ok {order : PaperOrderDraft} {books : List ReplayedBook}
    {cancelAt : Option Timestamp} {result : PaperSimulationResult}
    (h : simulateBuy order books cancelAt = .ok result) :
    ∃ at_ walk, cancellation order.request cancelAt = .ok at_ ∧
      walkBooks order (executionCutoff order.request cancelAt) books (startWalk order.request) =
        .ok walk ∧
      simulatedTerminal order at_ walk.toFilled = .ok result.terminal ∧
      result.fills = walk.fills ∧ result.remainingShares = walk.remaining ∧
      result.filledShares = order.request.requestedShares - walk.remaining ∧
      result.totalCost = total (walk.fills.map (·.totalCost)) := by
  obtain ⟨at_, hat, h⟩ := bind_eq_ok.mp h
  obtain ⟨walk, hwalk, h⟩ := bind_eq_ok.mp h
  obtain ⟨ending, hending, h⟩ := bind_eq_ok.mp h
  cases h
  rw [cancellation_eq_ok hat] at hwalk
  exact ⟨at_, walk, hat, hwalk, hending, rfl, rfl, rfl, rfl⟩

/-- The terminal says `FILLED` exactly when nothing remains. -/
theorem simulatedTerminal_status {order : PaperOrderDraft} {at_ : Option Timestamp}
    {filled : Filled} {ending : PaperTerminalDraft} (hremaining : 0 ≤ filled.remaining.toRat)
    (h : simulatedTerminal order at_ filled = .ok ending) :
    ending.status = .filled ↔ filled.remaining.isZero := by
  rw [Decimal.isZero_iff]
  unfold simulatedTerminal at h
  dsimp only at h
  by_cases hdone : filled.remaining ≤ 0
  · rw [if_pos hdone] at h
    rw [Decimal.le_iff, Decimal.toRat_zero] at hdone
    split at h
    · cases h
    · cases h
      exact iff_of_true rfl (le_antisymm hdone hremaining)
  · rw [if_neg hdone] at h
    have hpos := Filled.pos_of_not_le hdone
    have hnot : ¬ ending.status = .filled := by
      split at h
      · cases h
        simp [terminal]
      · split_ifs at h <;> cases h <;> simp [terminal]
    exact iff_of_false hnot (ne_of_gt hpos)

/-- A terminal is found whenever there is a fill or something remains. -/
theorem simulatedTerminal_ok (order : PaperOrderDraft) (at_ : Option Timestamp) {filled : Filled}
    (h : filled.fills ≠ [] ∨ 0 < filled.remaining.toRat) :
    ∃ ending, simulatedTerminal order at_ filled = .ok ending := by
  unfold simulatedTerminal
  dsimp only
  by_cases hdone : filled.remaining ≤ 0
  · rw [if_pos hdone]
    rw [Decimal.le_iff, Decimal.toRat_zero] at hdone
    have hfills : filled.fills ≠ [] := h.resolve_right (not_lt.mpr hdone)
    cases hlast : filled.fills.getLast? with
    | none => exact absurd (List.getLast?_eq_none_iff.mp hlast) hfills
    | some last => exact ⟨_, rfl⟩
  · rw [if_neg hdone]
    cases at_ with
    | some t => exact ⟨_, rfl⟩
    | none =>
      dsimp only
      split_ifs <;> exact ⟨_, rfl⟩

/-- A fill of the groups is at the time of one of the books. -/
theorem Groups.fillAt {order : PaperOrderDraft} {books : List ReplayedBook}
    {groups : List (List PaperFillDraft)} (hgroups : Groups order books groups) :
    ∀ fill ∈ groups.flatten, ∃ book ∈ books, fill.fillAt = book.replayCutoffAt := by
  induction hgroups with
  | nil => exact fun _ h => nomatch h
  | cons hfirst _ ih =>
    intro fill hfill
    rw [List.flatten_cons, List.mem_append] at hfill
    rcases hfill with hfill | hfill
    · exact ⟨_, List.mem_cons_self, hfirst.fillAt hfill⟩
    · obtain ⟨book, hbook, hat⟩ := ih fill hfill
      exact ⟨book, List.mem_cons_of_mem _ hbook, hat⟩

/-- The fills of groups from books in the order of their times are in the order of their times. -/
theorem Groups.chronological {order : PaperOrderDraft} {books : List ReplayedBook}
    {groups : List (List PaperFillDraft)} (hgroups : Groups order books groups)
    (hbooks : books.Pairwise fun a b => a.replayCutoffAt ≤ b.replayCutoffAt) :
    groups.flatten.Pairwise fun a b => a.fillAt ≤ b.fillAt := by
  induction hgroups with
  | nil => exact List.Pairwise.nil
  | cons hfirst hrest ih =>
    obtain ⟨hbefore, hbooks⟩ := List.pairwise_cons.mp hbooks
    rw [List.flatten_cons, List.pairwise_append]
    refine ⟨List.pairwise_of_forall_mem_list fun a ha b hb => ?_, ih hbooks, fun a ha b hb => ?_⟩
    · rw [hfirst.fillAt ha, hfirst.fillAt hb]
    · obtain ⟨book, hbook, hat⟩ := Groups.fillAt hrest b hb
      rw [hfirst.fillAt ha, hat]
      exact hbefore book hbook

theorem Groups.price_le {order : PaperOrderDraft} {books : List ReplayedBook}
    {groups : List (List PaperFillDraft)} (hgroups : Groups order books groups) :
    ∀ fill ∈ groups.flatten, fill.price ≤ order.request.limitPrice := by
  induction hgroups with
  | nil => exact fun _ h => nomatch h
  | cons hfirst _ ih =>
    intro fill hfill
    rw [List.flatten_cons, List.mem_append] at hfill
    rcases hfill with hfill | hfill
    · exact (hfirst.fills fill hfill).2.1
    · exact ih fill hfill

/-- **The law of `simulate_buy`.**  For books of the order's token in the order of their times, the fills
are one group for each eligible book, from its best price on and never above the limit; the order is
`FILLED` exactly when nothing remains; and where the sizes lie on a grid that the decimal context holds,
the fills sum to what does not remain, and the order is filled with what the eligible books display at
or below the limit, each beyond the one before, up to the requested shares. -/
theorem simulateBuy_law {order : PaperOrderDraft} {books : List ReplayedBook}
    {cancelAt : Option Timestamp}
    (hmarket : ∀ book ∈ books, book.conditionId = order.request.conditionId ∧
      book.assetId = order.request.tokenId)
    (hchronological : books.Pairwise fun a b => a.replayCutoffAt ≤ b.replayCutoffAt)
    (hcancel : ∀ t ∈ cancelAt, order.request.submittedAt ≤ t) :
    ∃ result, simulateBuy order books cancelAt = .ok result ∧
      (∃ groups, List.Forall₂ (FilledFrom order)
          (eligible order (executionCutoff order.request cancelAt) books) groups ∧
        result.fills = groups.flatten) ∧
      result.fills.Pairwise (fun a b => a.fillAt ≤ b.fillAt) ∧
      (∀ fill ∈ result.fills, fill.price ≤ order.request.limitPrice) ∧
      (result.terminal.status = .filled ↔ result.remainingShares.isZero) ∧
      ∀ k, ExactSize k order.request.requestedShares →
        (∀ book ∈ books, ∀ ask ∈ book.asks, ExactSize k ask.size) →
        sharesOf result.fills =
            order.request.requestedShares.toRat - result.remainingShares.toRat ∧
          result.filledShares.toRat = min order.request.requestedShares.toRat
            (displayedIncrease order.request.limitPrice none
              (eligible order (executionCutoff order.request cancelAt) books)) := by
  have hstart : 0 ≤ (startWalk order.request).remaining.toRat := (requested_pos order).le
  obtain ⟨at_, hat⟩ : ∃ at_, cancellation order.request cancelAt = .ok at_ := by
    cases cancelAt with
    | none => exact ⟨_, rfl⟩
    | some t =>
      refine ⟨if t < order.request.expiresAt then some t else none, ?_⟩
      rw [cancellation, require, if_pos (hcancel t rfl), ok_bind]
  obtain ⟨walk, hwalk⟩ := walkBooks_ok (executionCutoff order.request cancelAt) hmarket hchronological
    (show ∀ previous ∈ (startWalk order.request).previousCutoff, _ from fun _ h => by cases h)
  obtain ⟨groups, hgroups, hfills, hremaining, hnone⟩ := walkBooks_groups hwalk hstart
  have hfills : walk.fills = groups.flatten := hfills
  obtain ⟨ending, hending⟩ := simulatedTerminal_ok order at_ (show walk.fills ≠ [] ∨ _ by
    by_cases hempty : groups.flatten = []
    · right
      rw [hnone hempty]
      exact requested_pos order
    · left
      rwa [hfills])
  refine ⟨⟨walk.fills, ending, order.request.requestedShares - walk.remaining, walk.remaining,
    total (walk.fills.map (·.totalCost))⟩, ?_, ⟨groups, hgroups, hfills⟩, ?_, ?_,
    simulatedTerminal_status hremaining hending, ?_⟩
  · unfold simulateBuy
    rw [hat, ok_bind, cancellation_eq_ok hat]
    change (walkBooks order _ books (startWalk order.request) >>= _) = _
    rw [hwalk, ok_bind, hending, ok_bind]
  · change walk.fills.Pairwise _
    rw [hfills]
    exact hgroups.chronological (hchronological.filter _)
  · change ∀ fill ∈ walk.fills, _
    rw [hfills]
    exact hgroups.price_le
  · intro k hrequested hsizes
    obtain ⟨hlast, hsum, hexact⟩ := walkBooks_exact hwalk hsizes (fun _ h => by cases h) hrequested
    have hsum : sharesOf walk.fills = order.request.requestedShares.toRat - walk.remaining.toRat := by
      rw [hsum]
      exact zero_add _
    have hnonneg := displayedIncrease_nonneg order.request.limitPrice none
      (eligible order (executionCutoff order.request cancelAt) books)
    have hlast : walk.remaining.toRat = max 0 (order.request.requestedShares.toRat -
        displayedIncrease order.request.limitPrice none
          (eligible order (executionCutoff order.request cancelAt) books)) := hlast
    have hle : walk.remaining.toRat ≤ order.request.requestedShares.toRat := by
      rw [hlast]
      exact max_le hrequested.nonneg (by linarith)
    refine ⟨hsum, ?_⟩
    change (order.request.requestedShares - walk.remaining).toRat = _
    rw [Decimal.sub_exact (Fits.sub hrequested.fits hexact.fits hexact.nonneg hle), hlast]
    rcases max_cases 0 (order.request.requestedShares.toRat -
      displayedIncrease order.request.limitPrice none
        (eligible order (executionCutoff order.request cancelAt) books)) with ⟨h, hle⟩ | ⟨h, hlt⟩
    · rw [h, sub_zero, min_eq_left (by linarith)]
    · rw [h, sub_sub_cancel, min_eq_right (by linarith)]

theorem halfPrice_pos : (0 : Decimal) < ⟨5, -1⟩ := by decide

theorem halfPrice_le_one : (⟨5, -1⟩ : Decimal) ≤ 1 := by decide

/-- An order for shares at one half, and a book of its token with one ask there. -/
def sampleOrder (requestedShares : Decimal) (hpos : 0 < requestedShares) : PaperOrderDraft where
  request :=
    { predictionId := "prediction-1"
      predictionSemanticSha256 := "prediction-sha"
      conditionId := "condition-1"
      tokenId := "up-token"
      selectedSide := .up
      requestedShares := requestedShares
      targetNotionalUsd := ⟨100, 0⟩
      submittedAt := 0
      arrivalAt := 250
      expiresAt := 2250
      limitPrice := ⟨5, -1⟩
      executionVersion := .paperExecutionV1
      executionConfigSha256 := "config-sha"
      requestedShares_pos := hpos
      targetNotional_pos := by decide
      limitPrice_pos := halfPrice_pos
      limitPrice_le_one := halfPrice_le_one
      submitted_le_arrival := by decide
      arrival_lt_expires := by decide }
  signalSelectedAsk := ⟨5, -1⟩
  signalFeeRate := 0
  signalSlippageBuffer := 0
  marketEndAt := none

def sampleBook (cutoff : Timestamp) (size : Decimal) : ReplayedBook :=
  ⟨"condition-1", "up-token", [⟨⟨5, -1⟩, size⟩], 1, "anchor-key", [], [], cutoff⟩

theorem simulateBuy_law_at_three_books :
    ∃ result, simulateBuy (sampleOrder ⟨100, 0⟩ (by decide))
        [sampleBook 300 ⟨10, 0⟩, sampleBook 400 ⟨5, 0⟩, sampleBook 500 ⟨10, 0⟩] none = .ok result ∧
      (result.terminal.status = .filled ↔ result.remainingShares.isZero) := by
  obtain ⟨result, hresult, -, -, -, hstatus, -⟩ := @simulateBuy_law
    (sampleOrder ⟨100, 0⟩ (by decide))
    [sampleBook 300 ⟨10, 0⟩, sampleBook 400 ⟨5, 0⟩, sampleBook 500 ⟨10, 0⟩] none
    (by decide) (by decide) (by decide)
  exact ⟨result, hresult, hstatus⟩

/-- What the books display at or below the limit beyond all that was taken at the price before. -/
def increaseOverConsumed (limit : Decimal) : List BookLevel → List ReplayedBook → ℚ
  | _, [] => 0
  | consumed, book :: books =>
    levelIncrease limit (some consumed) (displayOf book.asks) +
      increaseOverConsumed limit
        ((displayOf book.asks).foldl (fun taken level =>
          if sizeAt taken level.price < level.size then setSize taken level else taken) consumed)
        books

/-- A size that goes away and comes back is filled again: ten, five and ten shares fill fifteen, and the
increments over what was taken are ten.  Shares below the last digit of the requested ones are filled
and do not count. -/
theorem simulateBuy_refills :
    (∃ result, simulateBuy (sampleOrder ⟨100, 0⟩ (by decide))
        [sampleBook 300 ⟨10, 0⟩, sampleBook 400 ⟨5, 0⟩, sampleBook 500 ⟨10, 0⟩] = .ok result ∧
      result.filledShares.toRat = 15 ∧
      increaseOverConsumed ⟨5, -1⟩ []
        [sampleBook 300 ⟨10, 0⟩, sampleBook 400 ⟨5, 0⟩, sampleBook 500 ⟨10, 0⟩] = 10) ∧
    ∃ result, simulateBuy (sampleOrder ⟨1, 20⟩ (by decide)) [sampleBook 300 ⟨1, -15⟩] = .ok result ∧
      sharesOf result.fills = 1 / 10 ^ 15 ∧
      (sampleOrder ⟨1, 20⟩ (by decide)).request.requestedShares.toRat - result.remainingShares.toRat = 0 :=
  ⟨⟨_, rfl, by decide +kernel, by decide +kernel⟩, ⟨_, rfl, by decide +kernel, by decide +kernel⟩⟩

/-! ## Cancellation -/

/-- Once a book is past the cutoff, nothing more is filled. -/
theorem walkBooks_past {order : PaperOrderDraft} {cutoff c : Timestamp} {books : List ReplayedBook}
    {walk last : BookWalk} (h : walkBooks order cutoff books walk = .ok last)
    (hprevious : walk.previousCutoff = some c) (hpast : cutoff < c) :
    last.fills = walk.fills := by
  induction books generalizing walk c with
  | nil =>
    cases h
    rfl
  | cons book rest ih =>
    obtain ⟨-, hafter, ⟨-, hrest⟩ | ⟨htake, -⟩⟩ := walkBooks_cons h
    · have hbook := hafter c hprevious
      have hsame := ih hrest rfl (lt_of_lt_of_le hpast hbook)
      exact hsame
    · have hbook := hafter c hprevious
      rw [isEligible, Bool.and_eq_true, decide_eq_true_eq, decide_eq_true_eq] at htake
      exact absurd (lt_of_lt_of_le hpast hbook) (not_lt.mpr htake.2)

/-- What is filled from a book on is filled at its time or later. -/
theorem walkBooks_later {order : PaperOrderDraft} {cutoff c : Timestamp} {books : List ReplayedBook}
    {walk last : BookWalk} (h : walkBooks order cutoff books walk = .ok last)
    (hprevious : walk.previousCutoff = some c) (hremaining : 0 ≤ walk.remaining.toRat) :
    ∃ more, last.fills = walk.fills ++ more ∧ ∀ fill ∈ more, c ≤ fill.fillAt := by
  induction books generalizing walk c with
  | nil =>
    cases h
    exact ⟨[], (List.append_nil _).symm, fun _ h => nomatch h⟩
  | cons book rest ih =>
    obtain ⟨-, hafter, ⟨-, hrest⟩ | ⟨-, next, hnext, -, hcutoff, hdone⟩⟩ := walkBooks_cons h
    · obtain ⟨more, hfills, hmore⟩ := ih hrest rfl hremaining
      exact ⟨more, hfills, fun fill hfill => (hafter c hprevious).trans (hmore fill hfill)⟩
    · obtain ⟨group, hgroup⟩ := walkDepth_fills order book
        (byPrice (newDepth walk.previousDisplay (displayOf book.asks))) walk.toFilled hremaining
      rw [← hnext] at hgroup
      have hat : ∀ fill ∈ group, c ≤ fill.fillAt := by
        intro fill hfill
        rw [(hgroup.each fill hfill).1]
        exact hafter c hprevious
      rcases hdone with ⟨-, rfl⟩ | ⟨-, hrest⟩
      · exact ⟨group, hgroup.fills, hat⟩
      · obtain ⟨more, hfills, hmore⟩ := ih hrest hcutoff hgroup.remaining
        refine ⟨group ++ more, by rw [hfills, hgroup.fills, List.append_assoc], ?_⟩
        intro fill hfill
        rcases List.mem_append.mp hfill with hfill | hfill
        · exact hat fill hfill
        · exact (hafter c hprevious).trans (hmore fill hfill)

/-- **An earlier cutoff truncates**: it leaves the fills up to it. -/
theorem walkBooks_truncate {order : PaperOrderDraft} {cutoff expiry : Timestamp}
    {books : List ReplayedBook} {walk cut full : BookWalk} (hle : cutoff ≤ expiry)
    (hcut : walkBooks order cutoff books walk = .ok cut)
    (hfull : walkBooks order expiry books walk = .ok full)
    (hremaining : 0 ≤ walk.remaining.toRat) (hfills : ∀ fill ∈ walk.fills, fill.fillAt ≤ cutoff) :
    cut.fills = full.fills.filter fun fill => fill.fillAt ≤ cutoff := by
  have hkeep : ∀ {fills : List PaperFillDraft}, (∀ fill ∈ fills, fill.fillAt ≤ cutoff) →
      fills.filter (fun fill => fill.fillAt ≤ cutoff) = fills := fun h =>
    List.filter_eq_self.mpr fun fill hfill => by simpa using h fill hfill
  induction books generalizing walk with
  | nil =>
    cases hcut
    cases hfull
    exact (hkeep hfills).symm
  | cons book rest ih =>
    obtain ⟨-, hafter, ⟨hskip, hrestCut⟩ | ⟨htake, next, hnext, hdisplay, hprevious, hdone⟩⟩ :=
      walkBooks_cons hcut
    · by_cases hpast : cutoff < book.replayCutoffAt
      · have hstop := walkBooks_past hrestCut rfl hpast
        have hsame : cut.fills = walk.fills := hstop
        have hmore : ∃ more, full.fills = walk.fills ++ more ∧
            ∀ fill ∈ more, book.replayCutoffAt ≤ fill.fillAt := by
          obtain ⟨-, -, ⟨-, hrest⟩ | ⟨-, next, hnext, -, hprevious, hdone⟩⟩ := walkBooks_cons hfull
          · have hlater := walkBooks_later hrest rfl hremaining
            exact hlater
          · obtain ⟨group, hgroup⟩ := walkDepth_fills order book
              (byPrice (newDepth walk.previousDisplay (displayOf book.asks))) walk.toFilled hremaining
            rw [← hnext] at hgroup
            have hat : ∀ fill ∈ group, book.replayCutoffAt ≤ fill.fillAt := by
              intro fill hfill
              rw [(hgroup.each fill hfill).1]
              exact le_rfl
            rcases hdone with ⟨-, rfl⟩ | ⟨-, hrest⟩
            · exact ⟨group, hgroup.fills, hat⟩
            · obtain ⟨more, hfills, hmore⟩ := walkBooks_later hrest hprevious hgroup.remaining
              refine ⟨group ++ more, by rw [hfills, hgroup.fills, List.append_assoc], ?_⟩
              intro fill hfill
              exact (List.mem_append.mp hfill).elim (hat fill) (hmore fill)
        obtain ⟨more, hfillsFull, hlate⟩ := hmore
        have hnone : more.filter (fun fill => fill.fillAt ≤ cutoff) = [] := by
          refine List.filter_eq_nil_iff.mpr fun fill hfill => ?_
          simpa using lt_of_lt_of_le hpast (hlate fill hfill)
        rw [hsame, hfillsFull, List.filter_append, hkeep hfills, hnone, List.append_nil]
      · -- the book is shown before the order arrives, so that neither run fills from it
        have hskipFull : isEligible order expiry book = false := by
          rw [isEligible, Bool.and_eq_false_iff, decide_eq_false_iff_not, decide_eq_false_iff_not]
            at hskip ⊢
          exact Or.inl (hskip.resolve_right fun h => h (not_lt.mp hpast))
        obtain ⟨-, -, ⟨-, hrestFull⟩ | ⟨htakeFull, -⟩⟩ := walkBooks_cons hfull
        · have hsame := ih hrestCut hrestFull hremaining hfills
          exact hsame
        · rw [hskipFull] at htakeFull
          cases htakeFull
    · have htakes := htake
      rw [isEligible, Bool.and_eq_true, decide_eq_true_eq, decide_eq_true_eq] at htakes
      have htakeFull : isEligible order expiry book = true := by
        rw [isEligible, Bool.and_eq_true, decide_eq_true_eq, decide_eq_true_eq]
        exact ⟨htakes.1, htakes.2.trans hle⟩
      obtain ⟨group, hgroup⟩ := walkDepth_fills order book
        (byPrice (newDepth walk.previousDisplay (displayOf book.asks))) walk.toFilled hremaining
      rw [← hnext] at hgroup
      have hnextFills : ∀ fill ∈ next.fills, fill.fillAt ≤ cutoff := by
        intro fill hfill
        rw [hgroup.fills] at hfill
        rcases List.mem_append.mp hfill with hfill | hfill
        · exact hfills fill hfill
        · rw [(hgroup.each fill hfill).1]
          exact htakes.2
      obtain ⟨-, -, ⟨hskipFull, -⟩ | ⟨-, next', hnext', hdisplay', hprevious', hdone'⟩⟩ :=
        walkBooks_cons hfull
      · rw [htakeFull] at hskipFull
        cases hskipFull
      · have hsame : next' = next := by
          obtain ⟨filled, display, previous⟩ := next
          obtain ⟨filled', display', previous'⟩ := next'
          dsimp only at hnext hnext' hdisplay hdisplay' hprevious hprevious'
          rw [hnext, hnext', hdisplay, hdisplay', hprevious, hprevious']
        rw [hsame] at hdone'
        rcases hdone with ⟨hle', rfl⟩ | ⟨hlt, hrest⟩
        · rcases hdone' with ⟨-, rfl⟩ | ⟨hlt, -⟩
          · exact (hkeep hnextFills).symm
          · exact absurd hle' hlt
        · rcases hdone' with ⟨hle', -⟩ | ⟨-, hrest'⟩
          · exact absurd hle' hlt
          · exact ih hrest hrest' hgroup.remaining hnextFills

/-- **A cancelled simulation** has the fills of the uncancelled one up to its cancellation. -/
theorem simulateBuy_truncates {order : PaperOrderDraft} {books : List ReplayedBook} {t : Timestamp}
    {cut full : PaperSimulationResult} (hcut : simulateBuy order books (some t) = .ok cut)
    (hfull : simulateBuy order books none = .ok full) :
    cut.fills = full.fills.filter fun fill => fill.fillAt ≤ t := by
  obtain ⟨-, walkCut, -, hwalkCut, -, hfillsCut, -⟩ := simulateBuy_eq_ok hcut
  obtain ⟨-, walkFull, -, hwalkFull, -, hfillsFull, -⟩ := simulateBuy_eq_ok hfull
  have hstart : 0 ≤ (startWalk order.request).remaining.toRat := (requested_pos order).le
  rw [hfillsCut, hfillsFull]
  unfold executionCutoff at hwalkCut hwalkFull
  dsimp only at hwalkCut hwalkFull
  split_ifs at hwalkCut with hbefore
  · exact walkBooks_truncate hbefore.le hwalkCut hwalkFull hstart fun _ h => nomatch h
  · have hsame : walkCut = walkFull := by
      rw [hwalkCut] at hwalkFull
      cases hwalkFull
      rfl
    obtain ⟨groups, hgroups, hfills, -⟩ := walkBooks_groups hwalkFull hstart
    have hfills : walkFull.fills = groups.flatten := hfills
    rw [hsame, hfills]
    refine (List.filter_eq_self.mpr fun fill hfill => ?_).symm
    obtain ⟨book, hbook, hat⟩ := hgroups.fillAt fill hfill
    have heligible := (List.mem_filter.mp hbook).2
    rw [isEligible, Bool.and_eq_true, decide_eq_true_eq, decide_eq_true_eq] at heligible
    rw [hat, decide_eq_true_eq]
    exact heligible.2.trans (not_lt.mp hbefore)

end BpEngine.PaperLedger
