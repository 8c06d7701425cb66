import BpEngine.PaperLedger.Calls
import BpEngine.PaperLedger.SimulateBuy

/-!
# Cancelling an order

`cancel_order` of the gateway against the periodic run.

* `booksUntil_eq`: the books up to a cancellation are the books of the order that are not later.
* `cancelled_fills`: an order cancelled at `t` has the fills of the uncancelled one up to `t`.
* `OrderOk` is what the rows of orders of a ledger are like after any calls.
* `cancel_is_truncation`: cancelled once it has expired, an order gets the rows of the periodic run
  exactly when its books can be replayed.
-/

namespace BpEngine.PaperLedger

open BpEngine.Execution
open BookReplay (RawEvents bookAt)

/-! ## The books of an order -/

theorem bookAt_eq_some {rows : RawEvents} {conditionId tokenId : String} {observedAt : Timestamp}
    {book : BookReplay.ReplayedBook}
    (h : bookAt rows conditionId tokenId observedAt = .ok (some book)) :
    book.replayCutoffAt = observedAt ∧ book.conditionId = conditionId ∧ book.assetId = tokenId := by
  unfold bookAt at h
  split at h
  · cases h
  · obtain ⟨replayed, hreplayed, h⟩ := bind_eq_ok.mp h
    cases h
    obtain ⟨start, -, hreplayed⟩ := bind_eq_ok.mp hreplayed
    obtain ⟨replay, -, hreplayed⟩ := bind_eq_ok.mp hreplayed
    cases hreplayed
    exact ⟨rfl, rfl, rfl⟩

/-- Every book is of the token, and shown at one of the times. -/
theorem observeBooks_mem {rows : RawEvents} {conditionId tokenId : String} {times : List Timestamp}
    {previous : Option Timestamp} {books : List ReplayedBook}
    (h : observeBooks rows conditionId tokenId times previous = .ok books) :
    ∀ book ∈ books, book.replayCutoffAt ∈ times ∧ book.conditionId = conditionId ∧
      book.assetId = tokenId := by
  induction times generalizing previous books with
  | nil =>
    cases h
    exact fun _ h => nomatch h
  | cons t rest ih =>
    intro book hbook
    unfold observeBooks at h
    split_ifs at h
    · obtain ⟨hmem, hmarket⟩ := ih h book hbook
      exact ⟨List.mem_cons_of_mem t hmem, hmarket⟩
    · obtain ⟨shown, hshown, h⟩ := bind_eq_ok.mp h
      obtain ⟨later, hlater, h⟩ := bind_eq_ok.mp h
      cases h
      rcases List.mem_append.mp hbook with hbook | hbook
      · rw [Option.mem_toList, Option.map_eq_some_iff] at hbook
        obtain ⟨full, rfl, rfl⟩ := hbook
        obtain ⟨hat, hmarket⟩ := bookAt_eq_some hshown
        exact ⟨List.mem_cons.mpr (Or.inl hat), hmarket⟩
      · obtain ⟨hmem, hmarket⟩ := ih hlater book hbook
        exact ⟨List.mem_cons_of_mem t hmem, hmarket⟩

theorem observeBooks_chronological {rows : RawEvents} {conditionId tokenId : String}
    {times : List Timestamp} {previous : Option Timestamp} {books : List ReplayedBook}
    (htimes : times.Pairwise (· ≤ ·))
    (h : observeBooks rows conditionId tokenId times previous = .ok books) :
    books.Pairwise fun a b => a.replayCutoffAt ≤ b.replayCutoffAt := by
  induction times generalizing previous books with
  | nil =>
    cases h
    exact List.Pairwise.nil
  | cons t rest ih =>
    obtain ⟨hfirst, hrest⟩ := List.pairwise_cons.mp htimes
    unfold observeBooks at h
    split_ifs at h
    · exact ih hrest h
    · obtain ⟨shown, hshown, h⟩ := bind_eq_ok.mp h
      obtain ⟨later, hlater, h⟩ := bind_eq_ok.mp h
      cases h
      cases shown with
      | none => exact ih hrest hlater
      | some book =>
        refine List.pairwise_cons.mpr ⟨fun other hother => ?_, ih hrest hlater⟩
        have hat : book.replayCutoffAt = t := (bookAt_eq_some hshown).1
        rw [show (BookReplay.ReplayedBook.toReplayedBook book).replayCutoffAt = t from hat]
        exact hfirst _ (observeBooks_mem hlater other hother).1

/-- Of ordered times, those up to a cutoff give the books up to it. -/
theorem observeBooks_filter {rows : RawEvents} {conditionId tokenId : String}
    {times : List Timestamp} {previous : Option Timestamp} {books : List ReplayedBook}
    (cutoff : Timestamp) (htimes : times.Pairwise (· ≤ ·))
    (h : observeBooks rows conditionId tokenId times previous = .ok books) :
    observeBooks rows conditionId tokenId (times.filter (· ≤ cutoff)) previous =
      .ok (books.filter fun book => book.replayCutoffAt ≤ cutoff) := by
  induction times generalizing previous books with
  | nil =>
    cases h
    rfl
  | cons t rest ih =>
    obtain ⟨hfirst, hrest⟩ := List.pairwise_cons.mp htimes
    by_cases ht : t ≤ cutoff
    · rw [List.filter_cons_of_pos (by simpa using ht)]
      unfold observeBooks at h ⊢
      split_ifs at h ⊢
      · exact ih hrest h
      · obtain ⟨shown, hshown, h⟩ := bind_eq_ok.mp h
        obtain ⟨later, hlater, h⟩ := bind_eq_ok.mp h
        cases h
        rw [hshown, ok_bind, ih hrest hlater, ok_bind, List.filter_append]
        cases shown with
        | none => rfl
        | some book =>
          have hat : book.replayCutoffAt = t := (bookAt_eq_some hshown).1
          simp [hat, ht]
    · -- every time from here on is past the cutoff
      have hpast : ∀ other ∈ t :: rest, ¬ other ≤ cutoff := by
        intro other hother
        rcases List.mem_cons.mp hother with rfl | hother
        · exact ht
        · exact fun hle => ht ((hfirst other hother).trans hle)
      have hnone : (t :: rest).filter (· ≤ cutoff) = [] :=
        List.filter_eq_nil_iff.mpr fun other hother => by simpa using hpast other hother
      have hbooks : books.filter (fun book => book.replayCutoffAt ≤ cutoff) = [] :=
        List.filter_eq_nil_iff.mpr fun book hbook => by
          simpa using hpast _ (observeBooks_mem h book hbook).1
      rw [hnone, hbooks]
      rfl

theorem mem_eventTimes {rows : RawEvents} {conditionId : String} {after cutoff t : Timestamp}
    (h : t ∈ eventTimes rows conditionId after cutoff) : after < t ∧ t ≤ cutoff := by
  obtain ⟨row, hrow, rfl⟩ := List.mem_map.mp h
  have hkept := (Relation.mem_select.mp hrow).2
  simp only [Bool.and_eq_true, decide_eq_true_eq] at hkept
  exact ⟨hkept.1.1.2, hkept.1.2⟩

theorem pairwise_eventTimes (rows : RawEvents) (conditionId : String) (after cutoff : Timestamp) :
    (eventTimes rows conditionId after cutoff).Pairwise (· ≤ ·) := by
  refine List.pairwise_map.mpr ((List.pairwise_insertionSort _ _).imp fun {a b} hab => ?_)
  rcases hab with hlt | ⟨heq, -⟩
  · exact hlt.le
  · exact heq.le

/-- The receipts up to an earlier cutoff. -/
theorem filter_eventTimes {rows : RawEvents} {conditionId : String} {after cutoff earlier : Timestamp}
    (hle : earlier ≤ cutoff) :
    (eventTimes rows conditionId after cutoff).filter (· ≤ earlier) =
      eventTimes rows conditionId after earlier := by
  unfold eventTimes
  rw [List.filter_map, Relation.select_filter fun _ _ => Relation.oldestFirst_antisymm]
  congr 2
  funext row
  rw [Bool.eq_iff_iff]
  simp only [Function.comp_apply, Bool.and_eq_true, decide_eq_true_eq]
  constructor
  · rintro ⟨⟨⟨hmarket, -⟩, htype⟩, hearlier⟩
    exact ⟨⟨hmarket, hearlier⟩, htype⟩
  · rintro ⟨⟨hmarket, hearlier⟩, htype⟩
    exact ⟨⟨⟨hmarket, hearlier.trans hle⟩, htype⟩, hearlier⟩

section Order

variable {rows : RawEvents} {request : ExecutionOrderRequest} {books : List ReplayedBook}

theorem pairwise_observed (rows : RawEvents) (request : ExecutionOrderRequest) (cutoff : Timestamp) :
    (request.arrivalAt :: eventTimes rows request.conditionId request.arrivalAt cutoff).Pairwise
      (· ≤ ·) :=
  List.pairwise_cons.mpr ⟨fun _ ht => (mem_eventTimes ht).1.le, pairwise_eventTimes _ _ _ _⟩

/-- The books of an order are of its token, in the order of their times, from its arrival on. -/
theorem booksForOrder_spec (h : booksForOrder rows request = .ok books) :
    (∀ book ∈ books, book.conditionId = request.conditionId ∧ book.assetId = request.tokenId) ∧
      (books.Pairwise fun a b => a.replayCutoffAt ≤ b.replayCutoffAt) ∧
      ∀ book ∈ books, request.arrivalAt ≤ book.replayCutoffAt ∧
        book.replayCutoffAt ≤ request.expiresAt := by
  refine ⟨fun book hbook => (observeBooks_mem h book hbook).2,
    observeBooks_chronological (pairwise_observed _ _ _) h, fun book hbook => ?_⟩
  rcases List.mem_cons.mp (observeBooks_mem h book hbook).1 with hat | hat
  · rw [hat]
    exact ⟨le_rfl, request.arrival_lt_expires.le⟩
  · exact ⟨(mem_eventTimes hat).1.le, (mem_eventTimes hat).2⟩

/-- **The books up to a cancellation** are the books of the order that are not later. -/
theorem booksUntil_eq (h : booksForOrder rows request = .ok books) (t : Timestamp) :
    booksUntil rows request t = .ok (books.filter fun book => book.replayCutoffAt ≤ t) := by
  obtain ⟨-, -, hrange⟩ := booksForOrder_spec h
  have hfilter : books.filter (fun book => book.replayCutoffAt ≤ t) =
      books.filter fun book => book.replayCutoffAt ≤ min t request.expiresAt := by
    refine List.filter_congr fun book hbook => ?_
    rw [decide_eq_decide, le_min_iff]
    exact ⟨fun hle => ⟨hle, (hrange book hbook).2⟩, And.left⟩
  rw [hfilter]
  unfold booksUntil
  dsimp only
  by_cases hearly : min t request.expiresAt < request.arrivalAt
  · rw [if_pos hearly, List.filter_eq_nil_iff.mpr fun book hbook => ?_]
    rw [decide_eq_true_eq, not_le]
    exact lt_of_lt_of_le hearly (hrange book hbook).1
  · rw [if_neg hearly, ← filter_eventTimes (min_le_right t request.expiresAt)]
    have hobserved := observeBooks_filter (min t request.expiresAt) (pairwise_observed _ _ _) h
    rwa [List.filter_cons_of_pos (by simpa using not_lt.mp hearly)] at hobserved

end Order

/-! ## Truncation -/

/-- Books past the cutoff of an execution make no difference to what is filled. -/
theorem walkBooks_filter {order : PaperOrderDraft} {executionCutoff cutoff : Timestamp}
    {books : List ReplayedBook} {walk last : BookWalk} (hle : executionCutoff ≤ cutoff)
    (hbooks : books.Pairwise fun a b => a.replayCutoffAt ≤ b.replayCutoffAt)
    (h : walkBooks order executionCutoff books walk = .ok last) :
    ∃ other, walkBooks order executionCutoff
        (books.filter fun book => book.replayCutoffAt ≤ cutoff) walk = .ok other ∧
      other.fills = last.fills := by
  induction books generalizing walk with
  | nil => exact ⟨last, h, rfl⟩
  | cons book rest ih =>
    obtain ⟨hfirst, hrest⟩ := List.pairwise_cons.mp hbooks
    by_cases hkept : book.replayCutoffAt ≤ cutoff
    · rw [List.filter_cons_of_pos (by simpa using hkept)]
      unfold walkBooks at h ⊢
      obtain ⟨at_, hvalid, h⟩ := bind_eq_ok.mp h
      obtain ⟨_, hafter, h⟩ := bind_eq_ok.mp h
      rw [hvalid, ok_bind, hafter, ok_bind]
      by_cases hskip : at_ < order.request.arrivalAt ∨ executionCutoff < at_
      · rw [if_pos hskip] at h ⊢
        exact ih hrest h
      · rw [if_neg hskip] at h ⊢
        dsimp only at h ⊢
        split_ifs at h ⊢
        · exact ⟨last, h, rfl⟩
        · exact ih hrest h
    · -- the book is past the cutoff, and so is every later one
      have hpast : executionCutoff < book.replayCutoffAt := lt_of_le_of_lt hle (not_le.mp hkept)
      have hnone : (book :: rest).filter (fun book => book.replayCutoffAt ≤ cutoff) = [] := by
        refine List.filter_eq_nil_iff.mpr fun other hother => ?_
        rw [decide_eq_true_eq]
        rcases List.mem_cons.mp hother with rfl | hother
        · exact hkept
        · exact fun hle => hkept ((hfirst other hother).trans hle)
      rw [hnone]
      refine ⟨walk, rfl, ?_⟩
      obtain ⟨-, -, ⟨-, hskipped⟩ | ⟨htaken, -⟩⟩ := walkBooks_cons h
      · have hsame := walkBooks_past hskipped rfl hpast
        exact hsame.symm
      · rw [isEligible, Bool.and_eq_true, decide_eq_true_eq, decide_eq_true_eq] at htaken
        exact absurd htaken.2 (not_le.mpr hpast)

/-- **Truncation**: an order cancelled at `t`, with the books up to `t`, has the fills of the uncancelled
one up to `t`. -/
theorem cancelled_fills {rows : RawEvents} {order : PaperOrderDraft} {books : List ReplayedBook}
    (hbooks : booksForOrder rows order.request = .ok books) {t : Timestamp}
    (ht : order.request.submittedAt ≤ t) :
    ∃ shown cut full, booksUntil rows order.request t = .ok shown ∧
      simulateBuy order shown (some t) = .ok cut ∧ simulateBuy order books none = .ok full ∧
      cut.fills = full.fills.filter fun fill => fill.fillAt ≤ t := by
  obtain ⟨hmarket, hchronological, -⟩ := booksForOrder_spec hbooks
  have hcancel : ∀ t' ∈ (some t : Option Timestamp), order.request.submittedAt ≤ t' := by
    rintro t' ⟨⟩
    exact ht
  have hnone : ∀ t' ∈ (none : Option Timestamp), order.request.submittedAt ≤ t' :=
    fun _ h => nomatch h
  obtain ⟨full, hfull, -⟩ := simulateBuy_law hmarket hchronological hnone
  obtain ⟨long, hlong, -⟩ := simulateBuy_law hmarket hchronological hcancel
  obtain ⟨cut, hcut, -⟩ := simulateBuy_law
    (fun book hbook => hmarket book (List.mem_of_mem_filter hbook))
    (hchronological.filter fun book => book.replayCutoffAt ≤ t) hcancel
  refine ⟨_, cut, full, booksUntil_eq hbooks t, hcut, hfull, ?_⟩
  rw [← simulateBuy_truncates hlong hfull]
  obtain ⟨-, walkCut, -, hwalkCut, -, hfillsCut, -⟩ := simulateBuy_eq_ok hcut
  obtain ⟨-, walkLong, -, hwalkLong, -, hfillsLong, -⟩ := simulateBuy_eq_ok hlong
  have hle : executionCutoff order.request (some t) ≤ t := by
    unfold executionCutoff
    dsimp only
    split_ifs with hbefore
    · exact le_rfl
    · exact not_lt.mp hbefore
  obtain ⟨other, hother, hfills⟩ := walkBooks_filter hle hchronological hwalkLong
  rw [hother] at hwalkCut
  cases hwalkCut
  rw [hfillsCut, hfillsLong, hfills]

/-! ## Rows of orders -/

theorem text_eq_ok {value name result : String} :
    text value name = .ok result ↔ strip value ≠ "" ∧ result = strip value := by
  unfold text
  split_ifs with h
  · simp [h]
  · simp [h, eq_comm]

/-- What a text check returns passes the check again. -/
theorem text_again {value name result : String} (h : text value name = .ok result) (other : String) :
    text result other = .ok result := by
  obtain ⟨hne, rfl⟩ := text_eq_ok.mp h
  exact text_eq_ok.mpr ⟨by rwa [strip_strip], (strip_strip value).symm⟩

/-- A text that starts with a character that is no blank. -/
theorem strip_ofList_cons {c : Char} (hc : isSpace c = false) (rest : List Char) :
    strip (String.ofList (c :: rest)) ≠ "" := by
  intro hempty
  unfold strip at hempty
  split_ifs at hempty
  · have hlist := congrArg String.toList hempty
    rw [String.toList_ofList] at hlist
    cases hlist
  · have hlist := congrArg String.toList hempty
    obtain ⟨stripped, hstripped⟩ := stripChars_cons hc rest
    rw [String.toList_ofList, String.toList_ofList, hstripped] at hlist
    cases hlist

/-- The number is kept by its column. -/
def InColumn (value : Decimal) : Prop := value.exp = -18 ∧ value.coeff.natAbs < 10 ^ 38

theorem roundToScale_exp (value : Decimal) : (value.roundToScale 18).exp = -18 := by
  unfold Decimal.roundToScale
  split_ifs <;> rfl

theorem roundToScale_of_exp {value : Decimal} (h : value.exp = -18) :
    value.roundToScale 18 = value := by
  unfold Decimal.roundToScale
  rw [if_pos (by rw [h]; norm_num)]
  obtain ⟨coeff, exp⟩ := value
  cases h
  simp [Decimal.align]

theorem numericColumn_eq_ok {value stored : Decimal} (h : numericColumn value = .ok stored) :
    InColumn stored := by
  obtain ⟨_, hfits, h⟩ := bind_eq_ok.mp h
  cases h
  exact ⟨roundToScale_exp value, require_eq_ok.mp hfits⟩

theorem InColumn.numericColumn {value : Decimal} (h : InColumn value) :
    numericColumn value = .ok value := by
  unfold PaperLedger.numericColumn
  rw [roundToScale_of_exp h.1, require, if_pos h.2]
  rfl

theorem sameNumber_self (value : Decimal) : sameNumber value value = true :=
  decide_eq_true ⟨Decimal.le_iff.mpr le_rfl, Decimal.le_iff.mpr le_rfl⟩

/-- The row of an order that was stored by a call. -/
structure OrderOk (row : OrderRow) : Prop where
  orderId : ∀ name, text row.paperOrderId name = .ok row.paperOrderId
  requestedShares : InColumn row.requestedShares
  submitted_le_arrival : row.submittedAt ≤ row.arrivalAt
  arrival_lt_expires : row.arrivalAt < row.expiresAt

theorem orderOk_written {D : ServiceDigests} {draft : PaperOrderDraft} {record row : OrderRow}
    (hrecord : orderRecord D draft = .ok record) (hrow : record.written = .ok row) : OrderOk row := by
  obtain ⟨paperOrderId, hid, hrecord⟩ := bind_eq_ok.mp hrecord
  iterate 8 obtain ⟨_, -, hrecord⟩ := bind_eq_ok.mp hrecord
  cases hrecord
  obtain ⟨requestedShares, hshares, hrow⟩ := bind_eq_ok.mp hrow
  iterate 5 obtain ⟨_, -, hrow⟩ := bind_eq_ok.mp hrow
  obtain ⟨_, -, hrow⟩ := bind_eq_ok.mp hrow
  cases hrow
  exact ⟨text_again hid, numericColumn_eq_ok hshares, draft.request.submitted_le_arrival,
    draft.request.arrival_lt_expires⟩

/-- Only an order that is new changes the orders. -/
theorem keptByParts_orderOk (D : ServiceDigests) (inputs : PaperInputs) :
    KeptByParts D inputs fun ledger => ∀ row ∈ ledger.orders, OrderOk row where
  order := by
    intro ledger draft record stored hledger hrecord hstored row hrow
    obtain ⟨-, hsame | ⟨-, -, written, hwritten, -, hnew⟩⟩ := insertOrder_spec hstored
    · rw [hsame] at hrow
      exact hledger row hrow
    · rw [hnew] at hrow
      rcases List.mem_append.mp hrow with hrow | hrow
      · exact hledger row hrow
      · rw [List.mem_singleton.mp hrow]
        exact orderOk_written hrecord hwritten
  simulation := by
    intro ledger order draft books cancelAt simulation stored prediction hledger _ _ _ _ hstored
    rw [(writeSimulation_frame hstored).1]
    exact hledger
  replayFailed := by
    intro ledger order draft raised stored prediction hledger _ _ _ hstored
    rw [(writeTerminal_frame hstored).1]
    exact hledger
  settlement := by
    intro ledger order evaluation record stored hledger _ _ _ _ _ _ hstored
    rcases insertSettlement_spec hstored with ⟨hsame, -⟩ | ⟨-, row, -, -, hnew⟩
    · rw [hsame]
      exact hledger
    · rw [hnew]
      exact hledger

/-- Whatever calls were made, the rows of orders are as they were stored. -/
theorem orderOk_run (D : ServiceDigests) (calls : List (PaperInputs × PaperCall)) :
    ∀ row ∈ (Machine.run (callStep D) {} calls).orders, OrderOk row :=
  KeptByParts.run (keptByParts_orderOk D) (fun _ h => absurd h List.not_mem_nil) calls

/-! ## After the order has expired -/

/-- The text of the terminal event of an order whose books cannot be replayed. -/
theorem text_replayFailed (draft : PaperOrderDraft) (raised : Raised) (name : String) :
    ∃ reason, text (replayFailed draft raised).reason name = .ok reason := by
  refine ⟨_, text_eq_ok.mpr ⟨?_, rfl⟩⟩
  have hreason : (replayFailed draft raised).reason = String.ofList ('c' ::
      ("ausal book replay failed closed: ".toList ++ raised.message.toList).take 127) := by
    change String.ofList (("causal book replay failed closed: " ++ raised.message).toList.take 128) = _
    rw [String.toList_append]
    rfl
  rw [hreason]
  exact strip_ofList_cons (by decide) _

theorem text_alreadyReason (status : TerminalStatus) (name : String) :
    ∃ reason, text (alreadyReason status) name = .ok reason := by
  refine ⟨_, text_eq_ok.mpr ⟨?_, rfl⟩⟩
  cases status <;> decide +kernel

theorem draftFromRows_spec {order : OrderRow} {prediction : Prediction} {draft : PaperOrderDraft}
    (h : draftFromRows order prediction = .ok draft) :
    draft.request.requestedShares = order.requestedShares ∧
      draft.request.submittedAt = order.submittedAt ∧ draft.request.expiresAt = order.expiresAt := by
  obtain ⟨request, hrequest, h⟩ := bind_eq_ok.mp h
  cases h
  obtain ⟨hshares, -, hsubmitted, -, hexpires⟩ := ExecutionOrderRequest.create_eq_ok hrequest
  exact ⟨hshares, hsubmitted, hexpires⟩

/-- An open order whose books cannot be replayed gets a terminal event. -/
theorem writeTerminal_replayFailed {ledger : Ledger} {order : OrderRow} {draft : PaperOrderDraft}
    {prediction : Prediction} (hok : OrderOk order)
    (hfound : ledger.findOrder order.paperOrderId = some order)
    (hopen : ledger.isTerminal order.paperOrderId = false)
    (hdraft : draftFromRows order prediction = .ok draft) (raised : Raised) :
    ∃ stored row, writeTerminal ledger order.paperOrderId (replayFailed draft raised) = .ok stored ∧
      stored.1.terminals = ledger.terminals ++ [row] := by
  have hshares := (draftFromRows_spec hdraft).1
  have hpositive : 0 ≤ draft.request.requestedShares :=
    Decimal.le_iff.mpr (by rw [Decimal.toRat_zero]; exact (requested_pos draft).le)
  obtain ⟨reason, hreason⟩ := text_replayFailed draft raised "reason"
  let row : TerminalRow :=
    ⟨order.paperOrderId, .expired, draft.request.requestedShares, draft.request.expiresAt, reason⟩
  have hrecord : terminalRecord order.paperOrderId (replayFailed draft raised) = .ok row := by
    change (text order.paperOrderId "paper_order_id" >>= fun orderId => _) = _
    rw [hok.orderId, ok_bind]
    change (nonnegativeDecimal draft.request.requestedShares "remaining_shares" >>= fun shares => _) = _
    rw [nonnegativeDecimal, require, if_pos hpositive, ok_bind, ok_bind, hreason]
    rfl
  have hwritten : row.written = .ok row := by
    have hcolumn : numericColumn row.remainingShares = .ok row.remainingShares := by
      change numericColumn draft.request.requestedShares = .ok draft.request.requestedShares
      rw [hshares]
      exact hok.requestedShares.numericColumn
    rw [TerminalRow.written, hcolumn, ok_bind, checked, require, if_pos (decide_eq_true hpositive)]
    rfl
  have hsame : row.same row = true := by
    simp [TerminalRow.same, sameNumber_self]
  have hnone : ledger.terminals.find? (fun other => other.paperOrderId = row.paperOrderId) = none := by
    rw [List.find?_eq_none]
    rw [Ledger.isTerminal, List.any_eq_false] at hopen
    exact hopen
  refine ⟨({ ledger with terminals := ledger.terminals ++ [row] }, true), row, ?_, rfl⟩
  rw [writeTerminal, hrecord, ok_bind, insertTerminalEvent]
  have hthere : ledger.requireOrder row.paperOrderId = .ok () :=
    requireOrder_eq_ok.mpr (by rw [hfound]; rfl)
  rw [hthere, ok_bind, store_new hnone hwritten hsame]
  rfl

/-- What is cancelled once it has expired is simulated to its end. -/
theorem cancelOrder_expired {D : ServiceDigests} {inputs : PaperInputs} {ledger : Ledger}
    {order : OrderRow} {prediction : Prediction} {observedAt : Timestamp} (hok : OrderOk order)
    (hfound : ledger.findOrder order.paperOrderId = some order)
    (hopen : ledger.isTerminal order.paperOrderId = false)
    (hprediction : predictionById inputs.predictions order.predictionId = some prediction)
    (hexpired : order.expiresAt ≤ observedAt) :
    committed ledger (cancelOrder D inputs ledger order.paperOrderId observedAt) =
      committed ledger (draftFromRows order prediction >>= fun draft =>
        persistSimulation D inputs ledger order draft none) := by
  have hnone : ledger.terminals.find? (fun row => row.paperOrderId = order.paperOrderId) = none := by
    rw [List.find?_eq_none]
    rw [Ledger.isTerminal, List.any_eq_false] at hopen
    exact hopen
  have hlate : ¬ observedAt < order.submittedAt :=
    not_lt.mpr ((hok.submitted_le_arrival.trans hok.arrival_lt_expires.le).trans hexpired)
  have hack : ∀ status, ∃ ack, cancelAck order.paperOrderId false observedAt (alreadyReason status) =
      .ok ack := by
    intro status
    obtain ⟨reason, hreason⟩ := text_alreadyReason status "reason"
    rw [cancelAck, hok.orderId, ok_bind, hreason]
    exact ⟨_, rfl⟩
  unfold cancelOrder
  dsimp only
  rw [hfound]
  dsimp only
  rw [hnone]
  dsimp only
  rw [if_neg hlate, hprediction]
  dsimp only
  cases draftFromRows order prediction with
  | error raised => rfl
  | ok draft =>
    rw [ok_bind, ok_bind, if_pos hexpired]
    cases persistSimulation D inputs ledger order draft none with
    | error raised => rfl
    | ok persisted =>
      obtain ⟨ack, hack⟩ := hack persisted.2
      rw [ok_bind, hack]
      rfl

/-- The books an order meets can be replayed. -/
def BooksReplay (inputs : PaperInputs) (order : OrderRow) (prediction : Prediction) : Prop :=
  ∀ draft, draftFromRows order prediction = .ok draft →
    raises .bookReplayError (booksForOrder inputs.rawEvents draft.request) = false

/-- The gateway and the periodic run leave the same ledger exactly when the books can be replayed: the
run writes a terminal event when they cannot, and the gateway writes nothing. -/
theorem expired_iff {D : ServiceDigests} {inputs : PaperInputs} {ledger : Ledger} {order : OrderRow}
    {prediction : Prediction} {observedAt now : Timestamp} (hok : OrderOk order)
    (hfound : ledger.findOrder order.paperOrderId = some order)
    (hopen : ledger.isTerminal order.paperOrderId = false)
    (hprediction : predictionById inputs.predictions order.predictionId = some prediction)
    (hobserved : order.expiresAt ≤ observedAt) (hnow : order.expiresAt ≤ now) :
    committed ledger (cancelOrder D inputs ledger order.paperOrderId observedAt) =
        committed ledger (processOrder D inputs ledger order prediction now) ↔
      BooksReplay inputs order prediction := by
  rw [cancelOrder_expired hok hfound hopen hprediction hobserved, processOrder, if_neg (by simp [hopen]),
    if_neg (not_lt.mpr hnow)]
  unfold BooksReplay
  cases hdraft : draftFromRows order prediction with
  | error raised =>
    refine iff_of_true rfl ?_
    rintro draft ⟨⟩
  | ok draft =>
    have honly : (∀ draft', (.ok draft : Outcome PaperOrderDraft) = .ok draft' →
        raises .bookReplayError (booksForOrder inputs.rawEvents draft'.request) = false) ↔
        raises .bookReplayError (booksForOrder inputs.rawEvents draft.request) = false := by
      constructor
      · intro h
        exact h draft rfl
      · rintro h draft' ⟨⟩
        exact h
    rw [honly, ok_bind, ok_bind, persistSimulation]
    dsimp only
    cases hbooks : booksForOrder inputs.rawEvents draft.request with
    | error raised =>
      rw [error_bind]
      dsimp only
      by_cases hreplay : raised.cls = .bookReplayError
      · -- the run writes a terminal event, the gateway raises
        obtain ⟨stored, row, hstored, hterminals⟩ :=
          writeTerminal_replayFailed hok hfound hopen hdraft raised
        rw [if_pos hreplay, hstored, ok_bind]
        refine iff_of_false (fun hsame => ?_) (by simp [hreplay])
        have hmore := congrArg (fun ledger : Ledger => ledger.terminals.length) hsame
        change ledger.terminals.length = stored.1.terminals.length at hmore
        rw [hterminals, List.length_append] at hmore
        simp at hmore
      · rw [if_neg hreplay]
        exact iff_of_true rfl (by simpa using hreplay)
    | ok books =>
      refine iff_of_true ?_ (raises_ok _ _)
      rw [ok_bind]
      dsimp only
      cases simulateBuy draft books none with
      | error raised => rfl
      | ok simulation =>
        rw [ok_bind, ok_bind]
        cases writeSimulation D ledger order.paperOrderId simulation with
        | error raised => rfl
        | ok stored => rfl

/-- **Cancel is truncation.**  The fills of an order that is cancelled are those of the uncancelled one
up to the cancellation, on the same books and on the books the gateway reads.  After any calls, an open
order that is cancelled once it has expired gets the rows of the periodic run exactly when its books can
be replayed. -/
theorem cancel_is_truncation (D : ServiceDigests) :
    (∀ order books t cut full, simulateBuy order books (some t) = .ok cut →
      simulateBuy order books none = .ok full →
      cut.fills = full.fills.filter fun fill => fill.fillAt ≤ t) ∧
    (∀ rows (order : PaperOrderDraft) books t, booksForOrder rows order.request = .ok books →
      order.request.submittedAt ≤ t → ∃ shown cut full,
        booksUntil rows order.request t = .ok shown ∧ simulateBuy order shown (some t) = .ok cut ∧
          simulateBuy order books none = .ok full ∧
          cut.fills = full.fills.filter fun fill => fill.fillAt ≤ t) ∧
    ∀ calls inputs order prediction,
      (Machine.run (callStep D) {} calls).findOrder order.paperOrderId = some order →
      (Machine.run (callStep D) {} calls).isTerminal order.paperOrderId = false →
      predictionById inputs.predictions order.predictionId = some prediction →
      ((∀ observedAt now, order.expiresAt ≤ observedAt → order.expiresAt ≤ now →
          committed (Machine.run (callStep D) {} calls)
              (cancelOrder D inputs (Machine.run (callStep D) {} calls) order.paperOrderId observedAt) =
            committed (Machine.run (callStep D) {} calls)
              (processOrder D inputs (Machine.run (callStep D) {} calls) order prediction now)) ↔
        BooksReplay inputs order prediction) := by
  refine ⟨fun order books t cut full hcut hfull => simulateBuy_truncates hcut hfull,
    fun rows order books t hbooks ht => cancelled_fills hbooks ht, ?_⟩
  intro calls inputs order prediction hfound hopen hprediction
  have hok := orderOk_run D calls order (findOrder_eq_some hfound).1
  constructor
  · intro hsame
    exact (expired_iff hok hfound hopen hprediction le_rfl le_rfl).mp
      (hsame order.expiresAt order.expiresAt le_rfl le_rfl)
  · intro hreplays observedAt now hobserved hnow
    exact (expired_iff hok hfound hopen hprediction hobserved hnow).mpr hreplays

/-! ## A book that cannot be replayed -/

/-- A digest for everything. -/
def oneDigest : String := "00000000000000000000000000000000000000000000000000000000000000aa"

/-- Digests that are all the same. -/
def oneDigests : ServiceDigests := ⟨⟨fun _ _ => oneDigest, fun _ => oneDigest⟩, fun _ => oneDigest⟩

/-- A signal at `0.5` without a fee. -/
def halfPrediction : Prediction :=
  { predictionId := "p", semanticSha256 := oneDigest, predictionVersion := "v", conditionId := "c"
    upTokenId := "u", downTokenId := "d", trade := true, executable := true, selectedSide := "up"
    selectedAsk := some ⟨5, -1⟩, selectedSpread := none, slippageBuffer := 0, feeRate := some 0
    calibratedProbability := 0, costAdjustedEdge := none, recordedAt := 0, scheduledAt := 0
    marketEndAt := 100000000 }

/-- A book whose best bid is its best ask. -/
def lockedBook : Storage.RawRow :=
  ⟨1,
    { source := "polymarket", stream := "market", instrument := "c", eventType := "book"
      sourceTimestamp := none, receivedAt := 200000, sequence := none, marketId := none
      assetId := some "u"
      payload :=
        [("event_type", .str "book"), ("market", .str "c"), ("asset_id", .str "u"),
          ("bids", .arr [.arr [.str "0.5", .str "10"]]), ("asks", .arr [.arr [.str "0.5", .str "10"]])]
      dedupeKey := oneDigest }⟩

/-- The signal and the raw events. -/
def lockedInputs : PaperInputs := ⟨[halfPrediction], [], ⟨[lockedBook], by decide⟩⟩

theorem defaultCash_pos : (0 : Decimal) < ⟨10000, -2⟩ := by decide

theorem defaultNotional_pos : (0 : Decimal) < ⟨500, -2⟩ := by decide

theorem defaultLatency_pos : (0 : ℤ) < 250 := by decide

theorem defaultTtl_pos : (0 : ℤ) < 2000 := by decide

theorem defaultPrecision_le : 6 ≤ 18 := by decide

/-- The default configuration. -/
def defaultConfig : PaperExecutionConfig where
  startingCash_pos := defaultCash_pos
  targetNotional_pos := defaultNotional_pos
  latency_pos := defaultLatency_pos
  orderTtl_pos := defaultTtl_pos
  sharePrecision_le := defaultPrecision_le

/-- The ledger after a run at the instant of the signal. -/
def submittedLedger : Ledger :=
  Machine.run (callStep oneDigests) {} [(lockedInputs, .run defaultConfig 0)]

theorem cancel_is_truncation_at_locked_book :
    ∃ order, submittedLedger.findOrder oneDigest = some order ∧
      ((∀ observedAt now, order.expiresAt ≤ observedAt → order.expiresAt ≤ now →
          committed submittedLedger
              (cancelOrder oneDigests lockedInputs submittedLedger order.paperOrderId observedAt) =
            committed submittedLedger
              (processOrder oneDigests lockedInputs submittedLedger order halfPrediction now)) ↔
        BooksReplay lockedInputs order halfPrediction) := by
  have hthere : (submittedLedger.findOrder oneDigest).any (fun order =>
      submittedLedger.isTerminal order.paperOrderId = false ∧
        predictionById lockedInputs.predictions order.predictionId = some halfPrediction) = true := by
    decide +kernel
  obtain ⟨order, hfound, hopen⟩ := Option.any_eq_true _ _ |>.mp hthere
  obtain ⟨hopen, hprediction⟩ := of_decide_eq_true hopen
  have hid := (findOrder_eq_some hfound).2
  refine ⟨order, hfound, ?_⟩
  rw [← hid] at hfound
  exact (cancel_is_truncation oneDigests).2.2 [(lockedInputs, .run {} 0)] lockedInputs order
    halfPrediction hfound hopen hprediction

/-- A run at the expiry of the order ends it; a cancellation at the same instant raises, and the order
stays open. -/
theorem cancel_leaves_open :
    submittedLedger.isTerminal oneDigest = false ∧
      ((callStep oneDigests submittedLedger (lockedInputs, .run {} 2250000)).terminals.map
        (·.terminalStatus)) = [.expired] ∧
      (callStep oneDigests submittedLedger (lockedInputs, .cancel oneDigest 2250000)).terminals = [] ∧
      raises .bookReplayError
        (cancelOrder oneDigests lockedInputs submittedLedger oneDigest 2250000) = true :=
  ⟨by decide +kernel, by decide +kernel, by decide +kernel, by decide +kernel⟩

end BpEngine.PaperLedger
