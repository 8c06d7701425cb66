import BpEngine.Execution.NumberText
import BpEngine.Library.Table
import BpEngine.PaperLedger.Cancellation

/-!
# Runs of the paper ledger

What holds of the four tables after any calls of the service and the gateway, with whatever predictions,
evaluations and raw events there are at the time of each call.

* `simulateBuy_timed`: the fills of a simulation lie between the arrival of the order and its end.
* `LedgerOk` is the invariant; `keptByParts_ledgerOk` says that the parts of a call keep it.
* `ledger_sound`: it holds after every run of calls.
* `Extends` relates a ledger to a later one; `ledger_extends`: later calls only append, and add no fill
  to an order that has ended.
-/

namespace BpEngine.PaperLedger

open BpEngine.Execution

/-! ## The fills of a simulation -/

/-- The fills of a walk are in the order of their times, between the arrival and the cutoff, and not
after the last book. -/
structure Timed (order : PaperOrderDraft) (cutoff : Timestamp) (walk : BookWalk) : Prop where
  remaining : 0 ≤ walk.remaining.toRat
  within : ∀ fill ∈ walk.fills, order.request.arrivalAt ≤ fill.fillAt ∧ fill.fillAt ≤ cutoff
  price : ∀ fill ∈ walk.fills, fill.price ≤ order.request.limitPrice
  sorted : walk.fills.Pairwise fun a b => a.fillAt ≤ b.fillAt
  seen : ∀ fill ∈ walk.fills, ∃ t, walk.previousCutoff = some t ∧ fill.fillAt ≤ t

theorem Timed.start (order : PaperOrderDraft) (cutoff : Timestamp) :
    Timed order cutoff (startWalk order.request) :=
  ⟨(requested_pos order).le, List.forall_mem_nil _,
    List.forall_mem_nil _, List.Pairwise.nil, List.forall_mem_nil _⟩

/-- A book that is taken adds fills of its own time. -/
theorem Timed.take {order : PaperOrderDraft} {cutoff : Timestamp} {walk next : BookWalk}
    {book : ReplayedBook} (h : Timed order cutoff walk)
    (hbefore : ∀ previous ∈ walk.previousCutoff, previous ≤ book.replayCutoffAt)
    (htake : isEligible order cutoff book = true)
    (hnext : next.toFilled = walkDepth order book book.replayCutoffAt
      (byPrice (newDepth walk.previousDisplay (displayOf book.asks))) walk.toFilled)
    (hcutoff : next.previousCutoff = some book.replayCutoffAt) : Timed order cutoff next := by
  obtain ⟨group, hgroup⟩ := walkDepth_fills order book
    (byPrice (newDepth walk.previousDisplay (displayOf book.asks))) walk.toFilled h.remaining
  rw [← hnext] at hgroup
  rw [isEligible, Bool.and_eq_true, decide_eq_true_eq, decide_eq_true_eq] at htake
  have hat : ∀ fill ∈ group, fill.fillAt = book.replayCutoffAt := by
    intro fill hfill
    rw [(hgroup.each fill hfill).1]
    rfl
  have hold : ∀ fill ∈ walk.fills, fill.fillAt ≤ book.replayCutoffAt := by
    intro fill hfill
    obtain ⟨t, ht, hle⟩ := h.seen fill hfill
    exact hle.trans (hbefore t ht)
  have hsplit : ∀ fill ∈ next.fills, fill ∈ walk.fills ∨ fill ∈ group := by
    intro fill hfill
    rw [hgroup.fills] at hfill
    exact List.mem_append.mp hfill
  refine ⟨hgroup.remaining, ?_, ?_, ?_, ?_⟩
  · intro fill hfill
    rcases hsplit fill hfill with hfill | hfill
    · exact h.within fill hfill
    · rw [hat fill hfill]
      exact htake
  · intro fill hfill
    rcases hsplit fill hfill with hfill | hfill
    · exact h.price fill hfill
    · exact (hgroup.each fill hfill).2.1
  · rw [hgroup.fills, List.pairwise_append]
    refine ⟨h.sorted, List.pairwise_of_forall_mem_list fun a ha b hb => ?_, fun a ha b hb => ?_⟩
    · rw [hat a ha, hat b hb]
    · rw [hat b hb]
      exact hold a ha
  · intro fill hfill
    refine ⟨book.replayCutoffAt, hcutoff, ?_⟩
    rcases hsplit fill hfill with hfill | hfill
    · exact hold fill hfill
    · exact (hat fill hfill).le

/-- By induction on the books. -/
theorem Timed.walkBooks {order : PaperOrderDraft} {cutoff : Timestamp} {books : List ReplayedBook}
    {walk last : BookWalk} (h : Timed order cutoff walk)
    (hwalk : walkBooks order cutoff books walk = .ok last) : Timed order cutoff last := by
  induction books generalizing walk with
  | nil =>
    cases hwalk
    exact h
  | cons book rest ih =>
    obtain ⟨-, hbefore, ⟨-, hrest⟩ | ⟨htake, next, hnext, -, hcutoff, hdone⟩⟩ := walkBooks_cons hwalk
    · have hskipped : Timed order cutoff
          { walk with previousCutoff := some book.replayCutoffAt } := by
        refine ⟨h.remaining, h.within, h.price, h.sorted, fun fill hfill => ?_⟩
        obtain ⟨t, ht, hle⟩ := h.seen fill hfill
        exact ⟨_, rfl, hle.trans (hbefore t ht)⟩
      exact ih hskipped hrest
    · have hnextTimed := h.take hbefore htake hnext hcutoff
      rcases hdone with ⟨-, rfl⟩ | ⟨-, hrest⟩
      · exact hnextTimed
      · exact ih hnextTimed hrest

theorem le_getLast?_of_pairwise {fills : List PaperFillDraft} {last : PaperFillDraft}
    (hsorted : fills.Pairwise fun a b => a.fillAt ≤ b.fillAt) (hlast : fills.getLast? = some last) :
    ∀ fill ∈ fills, fill.fillAt ≤ last.fillAt := by
  obtain ⟨front, rfl⟩ := List.getLast?_eq_some_iff.mp hlast
  rw [List.pairwise_append] at hsorted
  exact Table.forall_mem_concat (fun fill hfill => hsorted.2.2 fill hfill last List.mem_cons_self)
    le_rfl

/-- **The fills of a simulation** lie between the arrival of the order and its end, within the limit. -/
theorem simulateBuy_timed {order : PaperOrderDraft} {books : List ReplayedBook}
    {cancelAt : Option Timestamp} {result : PaperSimulationResult}
    (h : simulateBuy order books cancelAt = .ok result) :
    ∃ endAt, result.terminal.eventAt = some endAt ∧ endAt ≤ order.request.expiresAt ∧
      ∀ fill ∈ result.fills, order.request.arrivalAt ≤ fill.fillAt ∧ fill.fillAt ≤ endAt ∧
        fill.price ≤ order.request.limitPrice := by
  obtain ⟨at_, walk, hat, hwalk, hending, hfills, -⟩ := simulateBuy_eq_ok h
  have htimed := (Timed.start order _).walkBooks hwalk
  have hcutoff : executionCutoff order.request cancelAt ≤ order.request.expiresAt := by
    unfold executionCutoff
    cases cancelAt with
    | none => exact le_rfl
    | some t =>
      dsimp only
      split_ifs with hbefore
      · exact hbefore.le
      · exact le_rfl
  have hat := cancellation_eq_ok hat
  rw [hfills]
  unfold simulatedTerminal at hending
  dsimp only at hending
  by_cases hdone : walk.remaining ≤ 0
  · rw [if_pos hdone] at hending
    split at hending
    · cases hending
    · next last hlast =>
      have hmem : last ∈ walk.fills := List.mem_of_getLast? hlast
      refine ⟨last.fillAt, ?_, (htimed.within last hmem).2.trans hcutoff, fun fill hfill => ?_⟩
      · rw [← Except.ok.inj hending]
        rfl
      · exact ⟨(htimed.within fill hfill).1, le_getLast?_of_pairwise htimed.sorted hlast fill hfill,
          htimed.price fill hfill⟩
  · rw [if_neg hdone] at hending
    have hrest : ∀ endAt, executionCutoff order.request cancelAt ≤ endAt →
        ∀ fill ∈ walk.fills, order.request.arrivalAt ≤ fill.fillAt ∧ fill.fillAt ≤ endAt ∧
          fill.price ≤ order.request.limitPrice := fun endAt hle fill hfill =>
      ⟨(htimed.within fill hfill).1, (htimed.within fill hfill).2.trans hle, htimed.price fill hfill⟩
    cases at_ with
    | some t =>
      have ht : t = executionCutoff order.request cancelAt := hat
      refine ⟨t, ?_, ht.le.trans hcutoff, hrest t ht.ge⟩
      rw [← Except.ok.inj hending]
      rfl
    | none =>
      refine ⟨order.request.expiresAt, ?_, le_rfl, hrest _ hcutoff⟩
      dsimp only at hending
      split_ifs at hending
      · rw [← Except.ok.inj hending]
        rfl
      · rw [← Except.ok.inj hending]
        rfl

/-! ## Rows -/

variable {D : ServiceDigests} {ledger : Ledger} {paperOrderId : String}

/-- Half of a number up from a quotient stays below a bound on the quotient. -/
theorem roundUp_le {n p c : ℕ} (hp : 0 < p) (h : n ≤ c * p) :
    (if p ≤ 2 * (n % p) then n / p + 1 else n / p) ≤ c := by
  have hle : n / p ≤ c := Nat.div_le_of_le_mul (by rwa [Nat.mul_comm])
  split_ifs with hup
  · have hmod : 0 < n % p := by omega
    have hsplit := Nat.div_add_mod n p
    by_contra hgt
    have heq : n / p = c := by omega
    rw [heq, Nat.mul_comm] at hsplit
    omega
  · exact hle

/-- What a column keeps of a number is at most a number of the column that is at least as large. -/
theorem column_le {value stored limit : Decimal} (h : numericColumn value = .ok stored)
    (hpos : 0 ≤ value.coeff) (hlimit : InColumn limit) (hle : value ≤ limit) : stored ≤ limit := by
  obtain ⟨_, -, h⟩ := bind_eq_ok.mp h
  obtain rfl := Except.ok.inj h
  rw [Decimal.le_iff] at hle ⊢
  obtain ⟨coeff, exp⟩ := value
  obtain ⟨c, e⟩ := limit
  obtain rfl : e = -18 := hlimit.1
  by_cases hscale : -((18 : ℕ) : ℤ) ≤ exp
  · unfold Decimal.roundToScale
    rw [if_pos hscale]
    exact (Decimal.toRat_align hscale).le.trans hle
  · unfold Decimal.roundToScale
    rw [if_neg hscale]
    obtain ⟨n, rfl⟩ := Int.eq_ofNat_of_zero_le hpos
    set shift : ℕ := (-((18 : ℕ) : ℤ) - exp).toNat with hshift
    have hexp : exp = -18 - (shift : ℤ) := by omega
    -- both sides on the grid of the finer exponent
    have hgrid : (n : ℤ) ≤ c * 10 ^ shift := by
      unfold Decimal.toRat at hle
      dsimp only at hle
      rw [hexp, zpow_sub₀ (by norm_num), zpow_natCast, mul_div_assoc', div_le_iff₀ (by positivity),
        mul_right_comm] at hle
      have hle := le_of_mul_le_mul_right hle (by positivity : (0 : ℚ) < 10 ^ (-18 : ℤ))
      exact_mod_cast hle
    have hc : 0 ≤ c := by
      by_contra hneg
      have hlt : c * 10 ^ shift < 0 := mul_neg_of_neg_of_pos (not_le.mp hneg) (by positivity)
      omega
    obtain ⟨m, rfl⟩ := Int.eq_ofNat_of_zero_le hc
    have hnat : n ≤ m * 10 ^ shift := by exact_mod_cast hgrid
    have hround := roundUp_le (by positivity : 0 < 10 ^ shift) hnat
    have hint : (n : ℤ).sign * ((if 10 ^ shift ≤ 2 * ((n : ℤ).natAbs % 10 ^ shift) then
        (n : ℤ).natAbs / 10 ^ shift + 1 else (n : ℤ).natAbs / 10 ^ shift : ℕ) : ℤ) ≤ m := by
      rw [Int.natAbs_natCast]
      by_cases hzero : n = 0
      · simp [hzero]
      · rw [Int.sign_natCast_of_ne_zero hzero, one_mul]
        exact_mod_cast hround
    unfold Decimal.toRat
    dsimp only
    exact mul_le_mul_of_nonneg_right (by exact_mod_cast hint) (by positivity)

/-- **Keys stay distinct**: a row is stored only when no row has its key. -/
theorem store_nodup {Row Key : Type} {rows : List Row} {hasKey same : Row → Bool}
    {written : Outcome Row} {description : String} {stored : Stored Row} (key : Row → Key) {k : Key}
    (hkey : ∀ row, key row = k → hasKey row = true) (hsame : ∀ row, same row = true → key row = k)
    (h : store rows hasKey same written description = .ok stored) (hnodup : (rows.map key).Nodup) :
    (stored.rows.map key).Nodup := by
  rcases store_eq_ok h with ⟨hrows, -⟩ | ⟨hnone, row, -, hrow, hrows⟩
  · rwa [hrows]
  · rw [hrows]
    refine Table.nodup_map_concat hnodup fun other hother heq => ?_
    exact List.find?_eq_none.mp hnone other hother (hkey other (heq.trans (hsame row hrow)))

/-- The natural keys of the tables. -/
def OrderRow.key (row : OrderRow) : String × ExecutionVersion :=
  (row.predictionId, row.executionVersion)

def FillRow.key (row : FillRow) : String × String := (row.paperOrderId, row.fillKey)

def SettlementRow.key (row : SettlementRow) : String × String := (row.paperOrderId, row.labelVersion)

theorem OrderRow.same_ids {record row : OrderRow} (h : record.same row = true) :
    row.paperOrderId = record.paperOrderId ∧ row.key = record.key := by
  simp only [OrderRow.same, Bool.and_eq_true, decide_eq_true_eq] at h
  exact ⟨by tauto, Prod.ext (by tauto) (by tauto)⟩

theorem FillRow.same_key {record row : FillRow} (h : record.same row = true) :
    row.key = record.key := by
  simp only [FillRow.same, Bool.and_eq_true, decide_eq_true_eq] at h
  exact Prod.ext (by tauto) (by tauto)

theorem SettlementRow.same_key {record row : SettlementRow} (h : record.same row = true) :
    row.key = record.key := by
  simp only [SettlementRow.same, Bool.and_eq_true, decide_eq_true_eq] at h
  exact Prod.ext (by tauto) (by tauto)

theorem FillRow.hasKey {record row : FillRow} (h : row.key = record.key) :
    (decide (row.paperOrderId = record.paperOrderId) && decide (row.fillKey = record.fillKey)) =
      true := by
  have h := Prod.ext_iff.mp h
  simpa [FillRow.key] using h

theorem OrderRow.hasKey {record row : OrderRow} (h : row.key = record.key) :
    (decide (row.predictionId = record.predictionId) &&
      decide (row.executionVersion = record.executionVersion)) = true := by
  have h := Prod.ext_iff.mp h
  simpa [OrderRow.key] using h

theorem SettlementRow.hasKey {record row : SettlementRow} (h : row.key = record.key) :
    (decide (row.paperOrderId = record.paperOrderId) &&
      decide (row.labelVersion = record.labelVersion)) = true := by
  have h := Prod.ext_iff.mp h
  simpa [SettlementRow.key] using h

/-- What the row of a fill takes from the draft. -/
structure FillRow.Of (paperOrderId : String) (fill : PaperFillDraft) (row : FillRow) : Prop where
  orderId : row.paperOrderId = paperOrderId
  fillAt : row.fillAt = fill.fillAt
  positive : 0 < fill.price
  price : numericColumn fill.price = .ok row.price

theorem fillRow_of {fill : PaperFillDraft}
    {record row : FillRow} (hid : ∀ name, text paperOrderId name = .ok paperOrderId)
    (hrecord : fillRecord D paperOrderId fill = .ok record) (hrow : record.written = .ok row) :
    row.Of paperOrderId fill := by
  obtain ⟨orderId, horder, hrecord⟩ := bind_eq_ok.mp hrecord
  obtain rfl := Except.ok.inj ((hid _).symm.trans horder)
  obtain ⟨fillKey, -, hrecord⟩ := bind_eq_ok.mp hrecord
  obtain ⟨anchor, -, hrecord⟩ := bind_eq_ok.mp hrecord
  obtain ⟨shares, -, hrecord⟩ := bind_eq_ok.mp hrecord
  obtain ⟨price, hprice, hrecord⟩ := bind_eq_ok.mp hrecord
  iterate 6 obtain ⟨_, -, hrecord⟩ := bind_eq_ok.mp hrecord
  obtain ⟨keys, -, hrecord⟩ := bind_eq_ok.mp hrecord
  obtain rfl := Except.ok.inj hrecord
  obtain ⟨_, hrange, hprice⟩ := bind_eq_ok.mp hprice
  obtain rfl := Except.ok.inj hprice
  obtain ⟨rowShares, -, hrow⟩ := bind_eq_ok.mp hrow
  obtain ⟨rowPrice, hcolumn, hrow⟩ := bind_eq_ok.mp hrow
  iterate 4 obtain ⟨_, -, hrow⟩ := bind_eq_ok.mp hrow
  obtain ⟨_, -, hrow⟩ := bind_eq_ok.mp hrow
  obtain rfl := Except.ok.inj hrow
  exact ⟨rfl, rfl, (require_eq_ok.mp hrange).1, hcolumn⟩

/-- By induction on the fills: each adds at most one row of its own, and the keys stay distinct. -/
theorem insertFills_rows {fills : List PaperFillDraft}
    {written : Written} {stored : Ledger × Written}
    (hid : ∀ name, text paperOrderId name = .ok paperOrderId)
    (h : insertFills D paperOrderId fills ledger written = .ok stored)
    (hkeys : (ledger.fills.map FillRow.key).Nodup) :
    ∃ rows, stored.1 = { ledger with fills := ledger.fills ++ rows } ∧
      ((ledger.fills ++ rows).map FillRow.key).Nodup ∧
      ∀ row ∈ rows, ∃ fill ∈ fills, row.Of paperOrderId fill := by
  induction fills generalizing ledger written with
  | nil =>
    obtain rfl := Except.ok.inj h
    refine ⟨[], ?_, ?_, List.forall_mem_nil _⟩
    · simp
    · simpa using hkeys
  | cons fill rest ih =>
    obtain ⟨record, hrecord, h⟩ := bind_eq_ok.mp h
    obtain ⟨next, hnext, h⟩ := bind_eq_ok.mp h
    have hone : ∃ rows, next.1 = { ledger with fills := ledger.fills ++ rows } ∧
        ((ledger.fills ++ rows).map FillRow.key).Nodup ∧
        ∀ row ∈ rows, row.Of paperOrderId fill := by
      obtain ⟨_, -, hnext⟩ := bind_eq_ok.mp hnext
      obtain ⟨kept, hkept, hnext⟩ := bind_eq_ok.mp hnext
      obtain rfl := Except.ok.inj hnext
      have hnodup := store_nodup FillRow.key (fun row hrow => FillRow.hasKey hrow)
        (fun row hrow => FillRow.same_key hrow) hkept hkeys
      rcases store_eq_ok hkept with ⟨hrows, -⟩ | ⟨-, row, hwritten, -, hrows⟩
      · refine ⟨[], ?_, by simpa using hkeys, List.forall_mem_nil _⟩
        simp [hrows]
      · refine ⟨[row], ?_, by rwa [hrows] at hnodup, fun other hother => ?_⟩
        · simp [hrows]
        · rw [List.mem_singleton.mp hother]
          exact fillRow_of hid hrecord hwritten
    obtain ⟨first, hfirst, hnodup, heach⟩ := hone
    rw [hfirst] at h
    obtain ⟨rows, hrows, hkeys', hall⟩ := ih h hnodup
    refine ⟨first ++ rows, ?_, ?_, fun row hrow => ?_⟩
    · rw [hrows, List.append_assoc]
    · rwa [List.append_assoc] at hkeys'
    · rcases List.mem_append.mp hrow with hrow | hrow
      · exact ⟨fill, List.mem_cons_self, heach row hrow⟩
      · obtain ⟨other, hother, hof⟩ := hall row hrow
        exact ⟨other, List.mem_cons_of_mem fill hother, hof⟩

/-- An order that is open ends with its terminal event, at the time of the event. -/
theorem writeTerminal_open {ending : PaperTerminalDraft}
    {stored : Ledger × Bool} (hid : ∀ name, text paperOrderId name = .ok paperOrderId)
    (hopen : ledger.isTerminal paperOrderId = false)
    (h : writeTerminal ledger paperOrderId ending = .ok stored) :
    ∃ row : TerminalRow, row.paperOrderId = paperOrderId ∧ ending.eventAt = some row.eventAt ∧
      stored.1 = { ledger with terminals := ledger.terminals ++ [row] } := by
  obtain ⟨record, hrecord, h⟩ := bind_eq_ok.mp h
  unfold terminalRecord at hrecord
  split at hrecord
  · exact absurd hrecord raise_ne_ok
  · next eventAt hat =>
    obtain ⟨orderId, horder, hrecord⟩ := bind_eq_ok.mp hrecord
    obtain rfl := Except.ok.inj ((hid _).symm.trans horder)
    obtain ⟨remaining, -, hrecord⟩ := bind_eq_ok.mp hrecord
    obtain ⟨reason, -, hrecord⟩ := bind_eq_ok.mp hrecord
    obtain rfl := Except.ok.inj hrecord
    rcases insertTerminalEvent_spec h with ⟨-, hterminal⟩ | ⟨-, row, hwritten, -, hnew⟩
    · exact absurd hterminal (by simp [hopen])
    · obtain ⟨column, -, hwritten⟩ := bind_eq_ok.mp hwritten
      obtain ⟨_, -, hwritten⟩ := bind_eq_ok.mp hwritten
      obtain rfl := Except.ok.inj hwritten
      exact ⟨_, rfl, hat, hnew⟩

/-- **What the simulation of an open order writes**: rows of its fills, and one terminal event. -/
theorem writeSimulation_open {simulation : PaperSimulationResult} {stored : Ledger × Written × Bool}
    (hid : ∀ name, text paperOrderId name = .ok paperOrderId)
    (hopen : ledger.isTerminal paperOrderId = false)
    (hkeys : (ledger.fills.map FillRow.key).Nodup)
    (h : writeSimulation D ledger paperOrderId simulation = .ok stored) :
    ∃ rows, ∃ row : TerminalRow, stored.1 = { ledger with
        fills := ledger.fills ++ rows
        terminals := ledger.terminals ++ [row] } ∧
      ((ledger.fills ++ rows).map FillRow.key).Nodup ∧
      (∀ fill ∈ rows, ∃ draft ∈ simulation.fills, fill.Of paperOrderId draft) ∧
      row.paperOrderId = paperOrderId ∧ simulation.terminal.eventAt = some row.eventAt := by
  obtain ⟨filled, hfilled, h⟩ := bind_eq_ok.mp h
  obtain ⟨ended, hended, h⟩ := bind_eq_ok.mp h
  obtain rfl := Except.ok.inj h
  obtain ⟨rows, hrows, hnodup, heach⟩ := insertFills_rows hid hfilled hkeys
  have hstill : filled.1.isTerminal paperOrderId = false := by
    rw [hrows]
    exact hopen
  obtain ⟨row, hrow, hat, hnew⟩ := writeTerminal_open hid hstill hended
  refine ⟨rows, row, ?_, hnodup, heach, hrow, hat⟩
  rw [hnew, hrows]

/-! ## The invariant -/

/-- The order of a row is there. -/
def Ledger.Has (ledger : Ledger) (paperOrderId : String) (holds : OrderRow → Prop) : Prop :=
  ∃ order ∈ ledger.orders, order.paperOrderId = paperOrderId ∧ holds order

/-- A fill lies between the arrival of its order and the terminal event, at or below the limit. -/
def FillOk (ledger : Ledger) (fill : FillRow) : Prop :=
  ledger.Has fill.paperOrderId fun order =>
    order.arrivalAt ≤ fill.fillAt ∧ fill.price ≤ order.limitPrice ∧
      ∃ ending ∈ ledger.terminals, ending.paperOrderId = fill.paperOrderId ∧
        fill.fillAt ≤ ending.eventAt

/-- A terminal event is not after the expiry of its order. -/
def TerminalOk (ledger : Ledger) (ending : TerminalRow) : Prop :=
  ledger.Has ending.paperOrderId fun order => ending.eventAt ≤ order.expiresAt

/-- What the fills of an order pay when the market ends with an outcome. -/
def payoutOf (order : OrderRow) (fills : List FillRow) (officialOutcome : String) : Decimal :=
  if sideText order.selectedSide = lower officialOutcome then total (fills.map (·.shares)) else 0

/-- The amounts of a settlement are those of the fills of its order, and it pays one dollar for every
share of the side that won. -/
structure Settles (order : OrderRow) (fills : List FillRow) (row : SettlementRow) : Prop where
  filled : fills ≠ []
  outcome : row.officialOutcome = "Up" ∨ row.officialOutcome = "Down"
  shares : sameNumber row.filledShares (total (fills.map (·.shares))) = true
  cost : sameNumber row.totalFillCost (total (fills.map (·.totalCost))) = true
  fees : sameNumber row.totalFees (total (fills.map (·.fee))) = true
  payout : sameNumber row.payout (payoutOf order fills row.officialOutcome) = true
  profit : sameNumber row.realizedPnl
    (payoutOf order fills row.officialOutcome - total (fills.map (·.totalCost))) = true

/-- A settlement is that of an order that has ended, with the fills the ledger has of it. -/
def SettlementOk (ledger : Ledger) (row : SettlementRow) : Prop :=
  ledger.isTerminal row.paperOrderId = true ∧
    ledger.Has row.paperOrderId fun order => Settles order (ledger.fillsByTime row.paperOrderId) row

/-- **The invariant of the paper ledger.** -/
structure LedgerOk (ledger : Ledger) : Prop where
  orderIds : (ledger.orders.map (·.paperOrderId)).Nodup
  orderKeys : (ledger.orders.map OrderRow.key).Nodup
  orders : ∀ row ∈ ledger.orders, OrderOk row ∧ InColumn row.limitPrice
  fillKeys : (ledger.fills.map FillRow.key).Nodup
  fills : ∀ row ∈ ledger.fills, FillOk ledger row
  terminalIds : (ledger.terminals.map (·.paperOrderId)).Nodup
  terminals : ∀ row ∈ ledger.terminals, TerminalOk ledger row
  settlementKeys : (ledger.settlements.map SettlementRow.key).Nodup
  settlements : ∀ row ∈ ledger.settlements, SettlementOk ledger row

/-! ## What the parts of a call keep -/

theorem Ledger.Has.mono {before after : Ledger} {holds : OrderRow → Prop}
    (h : before.Has paperOrderId holds) (horders : ∀ row ∈ before.orders, row ∈ after.orders) :
    after.Has paperOrderId holds := by
  obtain ⟨order, horder, hrest⟩ := h
  exact ⟨order, horders order horder, hrest⟩

/-- Rows of another order are not among the fills of an order. -/
theorem Ledger.fillsOf_append {rows : List FillRow}
    (h : ∀ row ∈ rows, row.paperOrderId ≠ paperOrderId) :
    (ledger.fills ++ rows).filter (fun row => row.paperOrderId = paperOrderId) =
      ledger.fillsOf paperOrderId := by
  have hrows : rows.filter (fun row => row.paperOrderId = paperOrderId) = [] := by
    rw [List.filter_eq_nil_iff]
    intro row hrow
    simpa using h row hrow
  rw [List.filter_append, hrows, List.append_nil]
  rfl

/-- A new order: its id and its key are new. -/
theorem LedgerOk.addOrder {row : OrderRow} (h : LedgerOk ledger)
    (hrow : OrderOk row ∧ InColumn row.limitPrice)
    (hid : ∀ order ∈ ledger.orders, order.paperOrderId ≠ row.paperOrderId)
    (hkeys : ((ledger.orders ++ [row]).map OrderRow.key).Nodup) :
    LedgerOk { ledger with orders := ledger.orders ++ [row] } := by
  have hmore : ∀ order ∈ ledger.orders, order ∈ ledger.orders ++ [row] := fun order horder =>
    List.mem_append_left _ horder
  refine ⟨Table.nodup_map_concat h.orderIds hid, hkeys, Table.forall_mem_concat h.orders hrow,
    h.fillKeys, fun fill hfill => ?_, h.terminalIds, fun ending hending => ?_, h.settlementKeys,
    fun settled hsettled => ?_⟩
  · exact (h.fills fill hfill).mono hmore
  · exact (h.terminals ending hending).mono hmore
  · exact ⟨(h.settlements settled hsettled).1, (h.settlements settled hsettled).2.mono hmore⟩

/-- An open order ends: with fills of its own, up to its terminal event. -/
theorem LedgerOk.addEnding {order : OrderRow} {rows : List FillRow}
    {ending : TerminalRow} (h : LedgerOk ledger) (horder : order ∈ ledger.orders)
    (hopen : ledger.isTerminal order.paperOrderId = false)
    (hkeys : ((ledger.fills ++ rows).map FillRow.key).Nodup)
    (hrows : ∀ row ∈ rows, row.paperOrderId = order.paperOrderId ∧ order.arrivalAt ≤ row.fillAt ∧
      row.fillAt ≤ ending.eventAt ∧ row.price ≤ order.limitPrice)
    (hending : ending.paperOrderId = order.paperOrderId) (hat : ending.eventAt ≤ order.expiresAt) :
    LedgerOk { ledger with
      fills := ledger.fills ++ rows
      terminals := ledger.terminals ++ [ending] } := by
  refine ⟨h.orderIds, h.orderKeys, h.orders, hkeys, fun fill hfill => ?_, ?_,
    Table.forall_mem_concat h.terminals ⟨order, horder, hending.symm, hat⟩, h.settlementKeys,
    fun settled hsettled => ?_⟩
  · rcases List.mem_append.mp hfill with hfill | hfill
    · obtain ⟨owner, howner, hid, harrival, hprice, last, hlast, hrest⟩ := h.fills fill hfill
      exact ⟨owner, howner, hid, harrival, hprice, last, List.mem_append_left _ hlast, hrest⟩
    · obtain ⟨hid, harrival, hbefore, hprice⟩ := hrows fill hfill
      exact ⟨order, horder, hid.symm, harrival, hprice, ending,
        List.mem_append_right _ List.mem_cons_self, hending.trans hid.symm, hbefore⟩
  · refine Table.nodup_map_concat h.terminalIds fun row hrow heq => ?_
    rw [Ledger.isTerminal, List.any_eq_false] at hopen
    exact hopen row hrow (decide_eq_true (heq.trans hending))
  · obtain ⟨hterminal, hsettles⟩ := h.settlements settled hsettled
    have hother : settled.paperOrderId ≠ order.paperOrderId := by
      intro heq
      rw [heq, hopen] at hterminal
      cases hterminal
    refine ⟨?_, ?_⟩
    · rw [Ledger.isTerminal] at hterminal ⊢
      rw [List.any_append, hterminal, Bool.true_or]
    · unfold Ledger.fillsByTime Ledger.fillsOf
      dsimp only
      rw [Ledger.fillsOf_append fun row hrow heq => hother (heq.symm.trans (hrows row hrow).1)]
      exact hsettles

/-- A settlement of an order that has ended. -/
theorem LedgerOk.addSettlement {row : SettlementRow} (h : LedgerOk ledger)
    (hkeys : ((ledger.settlements ++ [row]).map SettlementRow.key).Nodup)
    (hrow : SettlementOk ledger row) :
    LedgerOk { ledger with settlements := ledger.settlements ++ [row] } := by
  exact ⟨h.orderIds, h.orderKeys, h.orders, h.fillKeys, h.fills, h.terminalIds, h.terminals, hkeys,
    Table.forall_mem_concat h.settlements hrow⟩

/-- The draft of a row has its times and its limit. -/
theorem draftFromRows_limits {order : OrderRow} {prediction : Prediction} {draft : PaperOrderDraft}
    (h : draftFromRows order prediction = .ok draft) :
    draft.request.arrivalAt = order.arrivalAt ∧ draft.request.expiresAt = order.expiresAt ∧
      draft.request.limitPrice = order.limitPrice := by
  obtain ⟨request, hrequest, h⟩ := bind_eq_ok.mp h
  obtain rfl := Except.ok.inj h
  obtain ⟨-, hlimit, -, harrival, hexpires⟩ := ExecutionOrderRequest.create_eq_ok hrequest
  exact ⟨harrival, hexpires, hlimit⟩

theorem limitPrice_written {record row : OrderRow} (h : record.written = .ok row) :
    InColumn row.limitPrice := by
  iterate 2 obtain ⟨_, -, h⟩ := bind_eq_ok.mp h
  obtain ⟨limitPrice, hlimit, h⟩ := bind_eq_ok.mp h
  iterate 3 obtain ⟨_, -, h⟩ := bind_eq_ok.mp h
  obtain ⟨_, -, h⟩ := bind_eq_ok.mp h
  obtain rfl := Except.ok.inj h
  exact numericColumn_eq_ok hlimit

/-- A blank is no capital. -/
theorem toLower_of_isSpace {c : Char} (h : isSpace c = true) : c.toLower = c := by
  unfold Char.toLower
  rw [dif_neg]
  rintro ⟨hlow, hhigh⟩
  have hlow : 65 ≤ c.toNat := hlow
  have hhigh : c.toNat ≤ 90 := hhigh
  simp [isSpace] at h
  omega

/-- A text whose lower case has no blanks is not stripped. -/
theorem strip_of_lower {value lowered : String} (h : lower value = lowered)
    (hplain : lowered.toList.any isSpace = false) : strip value = value := by
  have hnone := List.any_eq_false.mp hplain
  refine strip_of_all fun c hc => ?_
  rw [← Bool.not_eq_true]
  unfold lower at h
  split_ifs at h
  · rw [← h] at hnone
    exact hnone c hc
  · intro hspace
    rw [← h, String.toList_ofList] at hnone
    have hlower := hnone c.toLower (List.mem_map_of_mem hc)
    rw [toLower_of_isSpace hspace] at hlower
    exact hlower hspace

/-- **The record of a settlement** has the amounts of the fills. -/
theorem settlementRecord_settles {order : OrderRow} {evaluation : Evaluation} {fills : List FillRow}
    {record row : SettlementRow} (hid : ∀ name, text order.paperOrderId name = .ok order.paperOrderId)
    (hfills : fills.isEmpty = false) (hrecord : settlementRecord order evaluation fills = .ok record)
    (hsame : record.same row = true) :
    row.paperOrderId = order.paperOrderId ∧ Settles order fills row := by
  obtain ⟨payout, hpayout, hrecord⟩ := bind_eq_ok.mp hrecord
  obtain ⟨orderId, horder, hrecord⟩ := bind_eq_ok.mp hrecord
  obtain rfl := Except.ok.inj ((hid _).symm.trans horder)
  obtain ⟨labelVersion, -, hrecord⟩ := bind_eq_ok.mp hrecord
  obtain ⟨labelSource, -, hrecord⟩ := bind_eq_ok.mp hrecord
  obtain ⟨outcome, houtcome, hrecord⟩ := bind_eq_ok.mp hrecord
  obtain ⟨_, hupDown, hrecord⟩ := bind_eq_ok.mp hrecord
  obtain ⟨_, -, hrecord⟩ := bind_eq_ok.mp hrecord
  obtain ⟨digest, -, hrecord⟩ := bind_eq_ok.mp hrecord
  obtain ⟨shares, hshares, hrecord⟩ := bind_eq_ok.mp hrecord
  obtain ⟨cost, hcost, hrecord⟩ := bind_eq_ok.mp hrecord
  obtain ⟨fees, hfees, hrecord⟩ := bind_eq_ok.mp hrecord
  obtain ⟨paid, hpaid, hrecord⟩ := bind_eq_ok.mp hrecord
  obtain rfl := Except.ok.inj hrecord
  obtain ⟨_, -, hshares⟩ := bind_eq_ok.mp hshares
  obtain rfl := Except.ok.inj hshares
  obtain ⟨_, -, hcost⟩ := bind_eq_ok.mp hcost
  obtain rfl := Except.ok.inj hcost
  obtain ⟨_, -, hfees⟩ := bind_eq_ok.mp hfees
  obtain rfl := Except.ok.inj hfees
  obtain ⟨_, -, hpaid⟩ := bind_eq_ok.mp hpaid
  obtain rfl := Except.ok.inj hpaid
  obtain ⟨_, -, hpayout⟩ := bind_eq_ok.mp hpayout
  obtain ⟨_, hlower, hpayout⟩ := bind_eq_ok.mp hpayout
  have hlower := require_eq_ok.mp hlower
  -- the outcome is compared as it is, and kept without blanks
  have hstrip : outcome = evaluation.officialOutcome := by
    rw [(text_eq_ok.mp houtcome).2]
    rcases hlower with hup | hdown
    · exact strip_of_lower hup (by decide)
    · exact strip_of_lower hdown (by decide)
  simp only [SettlementRow.same, Bool.and_eq_true, decide_eq_true_eq] at hsame
  obtain ⟨⟨⟨⟨⟨⟨⟨⟨⟨⟨⟨⟨hid, -⟩, hout⟩, -⟩, -⟩, -⟩, -⟩, hshares⟩, hcost⟩, hfees⟩, hpaid⟩, hpnl⟩, -⟩ := hsame
  rw [hstrip] at hout
  have hkept : lower row.officialOutcome = lower evaluation.officialOutcome := by
    rw [hout]
    rcases hlower with hup | hdown
    · rw [hup, if_pos rfl]
      decide +kernel
    · rw [hdown, if_neg (by decide)]
      decide +kernel
  have hpayout : payoutOf order fills row.officialOutcome = payout := by
    rw [payoutOf, hkept]
    exact Except.ok.inj hpayout
  refine ⟨hid, ⟨?_, ?_, hshares, hcost, hfees, ?_, ?_⟩⟩
  · rintro rfl
    cases hfills
  · rw [hout]
    split_ifs
    · exact Or.inl rfl
    · exact Or.inr rfl
  · rw [hpayout]
    exact hpaid
  · rw [hpayout]
    exact hpnl

/-- **The parts of a call** keep the invariant. -/
theorem keptByParts_ledgerOk (D : ServiceDigests) (inputs : PaperInputs) :
    KeptByParts D inputs LedgerOk where
  order := by
    intro ledger draft record stored hledger hrecord hstored
    obtain ⟨-, hsame | ⟨hfresh, hnone, row, hwritten, hsame, hnew⟩⟩ := insertOrder_spec hstored
    · rw [hsame]
      exact hledger
    · obtain ⟨hid, hkey⟩ := OrderRow.same_ids hsame
      rw [hnew]
      refine hledger.addOrder ⟨orderOk_written hrecord hwritten, limitPrice_written hwritten⟩ ?_ ?_
      · intro order horder heq
        exact List.find?_eq_none.mp hfresh order horder (decide_eq_true (heq.trans hid))
      · refine Table.nodup_map_concat hledger.orderKeys fun order horder heq => ?_
        exact List.find?_eq_none.mp hnone order horder (OrderRow.hasKey (heq.trans hkey))
  simulation := by
    intro ledger order draft books cancelAt simulation stored prediction hledger horder hopen hdraft
      hsimulation hstored
    have hid := (hledger.orders order horder).1.orderId
    obtain ⟨rows, ending, hnew, hkeys, hof, hending, hat⟩ :=
      writeSimulation_open hid hopen hledger.fillKeys hstored
    obtain ⟨endAt, hendAt, hexpires, heach⟩ := simulateBuy_timed hsimulation
    obtain ⟨harrival, hexpiry, hlimit⟩ := draftFromRows_limits hdraft
    obtain rfl := Option.some.inj (hat.symm.trans hendAt)
    rw [hnew]
    refine hledger.addEnding horder hopen hkeys (fun row hrow => ?_) hending ?_
    · obtain ⟨fill, hfill, hrowOf⟩ := hof row hrow
      obtain ⟨hafter, hbefore, hprice⟩ := heach fill hfill
      refine ⟨hrowOf.orderId, ?_, ?_, ?_⟩
      · rw [hrowOf.fillAt, ← harrival]
        exact hafter
      · rw [hrowOf.fillAt]
        exact hbefore
      · have hcoeff : 0 ≤ fill.price.coeff := by
          have hpositive := Decimal.lt_iff.mp hrowOf.positive
          rw [Decimal.toRat_zero, Decimal.toRat] at hpositive
          have hcoeff := pos_of_mul_pos_left hpositive (by positivity)
          exact (Int.cast_pos.mp hcoeff).le
        rw [hlimit] at hprice
        exact column_le hrowOf.price hcoeff (hledger.orders order horder).2 hprice
    · rw [← hexpiry]
      exact hexpires
  replayFailed := by
    intro ledger order draft raised stored prediction hledger horder hopen hdraft hstored
    have hid := (hledger.orders order horder).1.orderId
    obtain ⟨ending, hending, hat, hnew⟩ := writeTerminal_open hid hopen hstored
    obtain ⟨-, hexpiry, -⟩ := draftFromRows_limits hdraft
    have hat : draft.request.expiresAt = ending.eventAt := Option.some.inj hat
    have hkept : LedgerOk { ledger with
        fills := ledger.fills ++ []
        terminals := ledger.terminals ++ [ending] } := by
      refine hledger.addEnding horder hopen ?_ (List.forall_mem_nil _) hending ?_
      · rw [List.append_nil]
        exact hledger.fillKeys
      · rw [← hat, hexpiry]
    rw [List.append_nil] at hkept
    rw [hnew]
    exact hkept
  settlement := by
    intro ledger order evaluation record stored hledger horder hterminal _ _ hfills hrecord hstored
    rcases insertSettlement_spec hstored with ⟨hsame, -⟩ | ⟨hfresh, row, -, hsame, hnew⟩
    · rw [hsame]
      exact hledger
    · have hid := (hledger.orders order horder).1.orderId
      obtain ⟨hrowId, hsettles⟩ := settlementRecord_settles hid hfills hrecord hsame
      rw [hnew]
      refine hledger.addSettlement ?_ ⟨?_, order, horder, hrowId.symm, ?_⟩
      · refine Table.nodup_map_concat hledger.settlementKeys fun other hother heq => ?_
        rw [Ledger.isSettled, List.any_eq_false] at hfresh
        exact hfresh other hother (SettlementRow.hasKey (heq.trans (SettlementRow.same_key hsame)))
      · rw [hrowId]
        exact hterminal
      · rw [hrowId]
        exact hsettles

theorem LedgerOk.empty : LedgerOk {} where
  orderIds := List.nodup_nil
  orderKeys := List.nodup_nil
  orders := List.forall_mem_nil _
  fillKeys := List.nodup_nil
  fills := List.forall_mem_nil _
  terminalIds := List.nodup_nil
  terminals := List.forall_mem_nil _
  settlementKeys := List.nodup_nil
  settlements := List.forall_mem_nil _

/-- **The paper ledger is sound**: whatever calls of the service and the gateway were made, with whatever
inputs at the time of each, failing ones included. -/
theorem ledger_sound (D : ServiceDigests) :
    ∀ calls : List (PaperInputs × PaperCall), LedgerOk (Machine.run (callStep D) {} calls) :=
  KeptByParts.run (keptByParts_ledgerOk D) LedgerOk.empty

/-! ## Later ledgers -/

/-- A ledger that came from another: rows were appended, and no fill to an order that had ended. -/
structure Extends (before after : Ledger) : Prop where
  orders : before.orders <+: after.orders
  fills : before.fills <+: after.fills
  terminals : before.terminals <+: after.terminals
  settlements : before.settlements <+: after.settlements
  closed : ∀ paperOrderId, before.isTerminal paperOrderId = true →
    after.fillsOf paperOrderId = before.fillsOf paperOrderId

theorem Extends.refl (ledger : Ledger) : Extends ledger ledger :=
  ⟨List.prefix_rfl, List.prefix_rfl, List.prefix_rfl, List.prefix_rfl, fun _ _ => rfl⟩

theorem Extends.isTerminal {before after : Ledger} (h : Extends before after)
    (hterminal : before.isTerminal paperOrderId = true) : after.isTerminal paperOrderId = true := by
  rw [Ledger.isTerminal, List.any_eq_true] at hterminal ⊢
  obtain ⟨row, hrow, hid⟩ := hterminal
  exact ⟨row, h.terminals.subset hrow, hid⟩

/-- The ending of an open order. -/
theorem Extends.addEnding {before ledger : Ledger} {order : OrderRow} {rows : List FillRow}
    {ending : TerminalRow} (h : Extends before ledger)
    (hopen : ledger.isTerminal order.paperOrderId = false)
    (hrows : ∀ row ∈ rows, row.paperOrderId = order.paperOrderId) :
    Extends before { ledger with
      fills := ledger.fills ++ rows
      terminals := ledger.terminals ++ [ending] } := by
  refine ⟨h.orders, h.fills.trans (List.prefix_append _ _), h.terminals.trans (List.prefix_append _ _),
    h.settlements, fun paperOrderId hterminal => ?_⟩
  have hother : ∀ row ∈ rows, row.paperOrderId ≠ paperOrderId := by
    rintro row hrow rfl
    rw [← hrows row hrow, h.isTerminal hterminal] at hopen
    cases hopen
  exact (Ledger.fillsOf_append hother).trans (h.closed paperOrderId hterminal)

/-- The parts of a call only append; that the ledger is sound makes the ids of the fills their orders'. -/
theorem keptByParts_extends (D : ServiceDigests) (inputs : PaperInputs) (before : Ledger) :
    KeptByParts D inputs fun ledger => LedgerOk ledger ∧ Extends before ledger where
  order := by
    rintro ledger draft record stored ⟨hledger, hafter⟩ hrecord hstored
    refine ⟨(keptByParts_ledgerOk D inputs).order hledger hrecord hstored, ?_⟩
    obtain ⟨-, hsame | ⟨-, -, row, -, -, hnew⟩⟩ := insertOrder_spec hstored
    · rw [hsame]
      exact hafter
    · rw [hnew]
      exact { hafter with orders := hafter.orders.trans (List.prefix_append _ _) }
  simulation := by
    rintro ledger order draft books cancelAt simulation stored prediction ⟨hledger, hafter⟩ horder hopen
      hdraft hsimulation hstored
    refine ⟨(keptByParts_ledgerOk D inputs).simulation hledger horder hopen hdraft hsimulation hstored,
      ?_⟩
    obtain ⟨rows, ending, hnew, -, hof, -, -⟩ := writeSimulation_open
      (hledger.orders order horder).1.orderId hopen hledger.fillKeys hstored
    rw [hnew]
    refine hafter.addEnding hopen fun row hrow => ?_
    obtain ⟨fill, -, hfill⟩ := hof row hrow
    exact hfill.orderId
  replayFailed := by
    rintro ledger order draft raised stored prediction ⟨hledger, hafter⟩ horder hopen hdraft hstored
    refine ⟨(keptByParts_ledgerOk D inputs).replayFailed hledger horder hopen hdraft hstored, ?_⟩
    obtain ⟨ending, -, -, hnew⟩ := writeTerminal_open (hledger.orders order horder).1.orderId hopen
      hstored
    rw [hnew]
    exact { hafter with terminals := hafter.terminals.trans (List.prefix_append _ _) }
  settlement := by
    rintro ledger order evaluation record stored ⟨hledger, hafter⟩ horder hterminal hmem hprediction
      hfills hrecord hstored
    refine ⟨(keptByParts_ledgerOk D inputs).settlement hledger horder hterminal hmem hprediction hfills
      hrecord hstored, ?_⟩
    rcases insertSettlement_spec hstored with ⟨hsame, -⟩ | ⟨-, row, -, -, hnew⟩
    · rw [hsame]
      exact hafter
    · rw [hnew]
      exact { hafter with settlements := hafter.settlements.trans (List.prefix_append _ _) }

/-- **The paper ledger is append-only**: later calls add rows behind the ones that are there, and no fill
to an order that has ended. -/
theorem ledger_extends (D : ServiceDigests) (calls later : List (PaperInputs × PaperCall)) :
    Extends (Machine.run (callStep D) {} calls) (Machine.run (callStep D) {} (calls ++ later)) := by
  have hsound := KeptByParts.run (keptByParts_ledgerOk D) LedgerOk.empty calls
  rw [Machine.run_append]
  exact (KeptByParts.run (fun inputs => keptByParts_extends D inputs _)
    ⟨hsound, Extends.refl _⟩ later).2

end BpEngine.PaperLedger
