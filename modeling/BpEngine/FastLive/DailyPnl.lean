import BpEngine.FastLive.Reapplication
import BpEngine.FastLive.SinglePosition

/-!
# The result of the day

What the account snapshot says of the settlements: the result of the day and the losses in a row
are threaded through the reconciliation rows, each row continuing the account of an earlier one.

* `settlements`, `daySum`, `trailingLosses`: what the rows say was settled; `FiguresRight` is the law
  of the snapshot at an instant.
* `Accounted` is the invariant: the account of every row is right for the settlements up to it.
* `CarriesCurrentAccount` is the condition on a step: no settlement was recorded since the row that
  an official reconciliation or a settlement continues.
* `accounted_exec` is the step, `accounted_ledgerAfter` the run, `preparation_figuresRight` the
  result for the next risk decision.
-/

namespace BpEngine.FastLive

open BpEngine.LiveReadiness BpEngine.Table

/-! ## The law -/

/-- The row is an official settlement. -/
def isSettlement (row : ReconciliationRow) : Bool :=
  row.payload.evidence.reconciliationKind == some .fastLiveOfficialSettlement

/-- The settlements among the rows in recorded order, each with its instant and the result it
realized. -/
def settlements (rows : List ReconciliationRow) : List (Timestamp × Decimal) :=
  (rows.filter isSettlement).map fun row =>
    (row.payload.observedAt, row.payload.evidence.riskRealizedPnlUsd.getD 0)

/-- The sum of the results realized on a day. -/
def daySum (date : ℤ) (settled : List (Timestamp × Decimal)) : Decimal :=
  ((settled.filter (·.1.date = date)).map Prod.snd).foldl (· + ·) 0

/-- The length of the run of losing settlements at the end. -/
def trailingLosses (settled : List (Timestamp × Decimal)) : ℕ :=
  (settled.reverse.takeWhile (·.2 < 0)).length

/-- The snapshot at `t` has the sum of the results realized on `t`'s day and counts the losses at
the end. -/
def FiguresRight (ledger : Ledger) (t : Timestamp) : Prop :=
  ∀ snapshot, accountSnapshot ledger t = .ok snapshot →
    Decimal.Same snapshot.realizedDailyPnlUsd
        (daySum t.date (settlements ledger.reconciliations)) ∧
      snapshot.consecutiveLosses = trailingLosses (settlements ledger.reconciliations)

/-! ## The condition -/

/-- The settlements recorded after a row. -/
def settlementsSince (ledger : Ledger) (row : ReconciliationRow) : List (Timestamp × Decimal) :=
  settlements
    (ledger.reconciliations.dropWhile (·.reconciliationId != row.reconciliationId)).tail

/-- The row an operation continues the account of, when it is not the latest row. -/
def continuedRow (ledger : Ledger) : LedgerOp → Option ReconciliationRow
  | .prepare _ => none
  | .result _ _ => none
  | .official result _ t =>
    (rowsUpTo ledger t).find? (isPendingOf (orEmpty result.intentId))
  | .settle _ intentId _ =>
    (latestFirst (·.payload.observedAt) ledger.reconciliations).find? (isFillOf (strip intentId))

/-- An operation that changes the ledger continues the account of a row no settlement was recorded
after. -/
def CarriesCurrentAccount (D : Digests) (ledger : Ledger) (op : LedgerOp) : Prop :=
  exec D ledger op ≠ ledger → ∀ row ∈ continuedRow ledger op, settlementsSince ledger row = []

instance (D : Digests) (ledger : Ledger) (op : LedgerOp) :
    Decidable (CarriesCurrentAccount D ledger op) := by
  unfold CarriesCurrentAccount; infer_instance

/-! ## Sums and runs of losses -/

@[simp] theorem settlements_append (rows rows' : List ReconciliationRow) :
    settlements (rows ++ rows') = settlements rows ++ settlements rows' := by
  simp [settlements]

theorem settlements_singleton (row : ReconciliationRow) :
    settlements [row] = if isSettlement row then
      [(row.payload.observedAt, row.payload.evidence.riskRealizedPnlUsd.getD 0)] else [] := by
  unfold settlements
  rw [List.filter_singleton]
  cases isSettlement row <;> rfl

theorem mem_settlements_time {rows : List ReconciliationRow} {s : Timestamp × Decimal}
    (h : s ∈ settlements rows) : ∃ row ∈ rows, row.payload.observedAt = s.1 := by
  obtain ⟨row, hrow, rfl⟩ := List.mem_map.mp h
  exact ⟨row, (List.mem_filter.mp hrow).1, rfl⟩

theorem daySum_append (settled : List (Timestamp × Decimal)) (t : Timestamp) (pnl : Decimal) :
    daySum t.date (settled ++ [(t, pnl)]) = daySum t.date settled + pnl := by
  simp [daySum]

theorem daySum_eq_zero {date : ℤ} {settled : List (Timestamp × Decimal)}
    (h : ∀ s ∈ settled, Timestamp.date s.1 ≠ date) : daySum date settled = 0 := by
  have hnone : settled.filter (·.1.date = date) = [] := by
    rw [List.filter_eq_nil_iff]
    intro s hs
    simpa using h s hs
  unfold daySum
  rw [hnone]
  rfl

theorem trailingLosses_append (settled : List (Timestamp × Decimal)) (t : Timestamp)
    (pnl : Decimal) : trailingLosses (settled ++ [(t, pnl)]) =
      if pnl < 0 then trailingLosses settled + 1 else 0 := by
  unfold trailingLosses
  rw [List.reverse_append, List.reverse_singleton, List.singleton_append]
  by_cases hloss : pnl < 0
  · rw [if_pos hloss, List.takeWhile_cons_of_pos (by simpa using hloss), List.length_cons]
  · rw [if_neg hloss, List.takeWhile_cons_of_neg (by simpa using hloss), List.length_nil]

theorem date_mono {s t : Timestamp} (h : s ≤ t) : s.date ≤ t.date :=
  Int.ediv_le_ediv (by norm_num) h

/-! ## The invariant -/

/-- The account of the row is right for the settlements among `rows`, on the row's day. -/
def RowRight (rows : List ReconciliationRow) (row : ReconciliationRow) : Prop :=
  ∀ account, row.payload.evidence.accountSnapshot = some account →
    account.realizedDailyPnlUsd.toRat =
        (daySum row.payload.observedAt.date (settlements rows)).toRat ∧
      account.consecutiveLosses = trailingLosses (settlements rows)

/-- The account of every row is right for the settlements up to it. -/
def Accounted (rows : List ReconciliationRow) : Prop :=
  ∀ before row after, rows = before ++ row :: after → RowRight (before ++ [row]) row

theorem Accounted.nil : Accounted [] := fun before row after h => by simp at h

theorem Accounted.append {rows : List ReconciliationRow} {new : ReconciliationRow}
    (h : Accounted rows) (hnew : RowRight (rows ++ [new]) new) : Accounted (rows ++ [new]) := by
  intro before row after heq
  rcases List.eq_nil_or_concat after with rfl | ⟨older, last, rfl⟩
  · obtain ⟨hrows, hlast⟩ := List.append_inj' heq rfl
    cases hlast
    rwa [← hrows]
  · rw [List.concat_eq_append, ← List.cons_append, ← List.append_assoc] at heq
    obtain ⟨hrows, -⟩ := List.append_inj' heq rfl
    exact h before row older hrows

/-- The account of a row without later settlements, seen at a later instant. -/
theorem Accounted.carried {rows before after : List ReconciliationRow} {row : ReconciliationRow}
    {t : Timestamp} {account : AccountEvidence} (h : Accounted rows)
    (hsplit : rows = before ++ row :: after) (hafter : settlements after = [])
    (hordered : (rows.map (·.payload.observedAt)).Pairwise (· ≤ ·))
    (ht : row.payload.observedAt ≤ t)
    (hacc : row.payload.evidence.accountSnapshot = some account) :
    (dailyPnlForObserved account.realizedDailyPnlUsd row.payload.observedAt t).toRat =
        (daySum t.date (settlements rows)).toRat ∧
      account.consecutiveLosses = trailingLosses (settlements rows) := by
  obtain ⟨hpnl, hlosses⟩ := h before row after hsplit account hacc
  have hsame : settlements rows = settlements (before ++ [row]) := by
    rw [hsplit, List.append_cons, settlements_append, hafter, List.append_nil]
  refine ⟨?_, hsame ▸ hlosses⟩
  rw [hsame]
  unfold dailyPnlForObserved
  split_ifs with hday
  · rw [← hday]
    exact hpnl
  · -- the day has changed since the row, so no settlement is of this day
    have hlt : row.payload.observedAt.date < t.date := lt_of_le_of_ne (date_mono ht) hday
    rw [daySum_eq_zero]
    intro s hs
    obtain ⟨earlier, hmem, htime⟩ := mem_settlements_time hs
    have hle : earlier.payload.observedAt ≤ row.payload.observedAt := by
      rw [hsplit, List.map_append, List.map_cons, List.pairwise_append] at hordered
      rcases List.mem_append.mp hmem with hmem | hmem
      · exact hordered.2.2 _ (List.mem_map_of_mem hmem) _ List.mem_cons_self
      · rw [List.mem_singleton.mp hmem]
    have hdate := date_mono hle
    rw [htime] at hdate
    omega

/-- A row that is no settlement and continues the account of a row without later settlements. -/
theorem RowRight.of_carried {rows before after : List ReconciliationRow}
    {row new : ReconciliationRow} {account carried : AccountEvidence} (h : Accounted rows)
    (hsplit : rows = before ++ row :: after) (hafter : settlements after = [])
    (hordered : (rows.map (·.payload.observedAt)).Pairwise (· ≤ ·))
    (ht : row.payload.observedAt ≤ new.payload.observedAt) (hkind : isSettlement new = false)
    (hacc : row.payload.evidence.accountSnapshot = some account)
    (hnew : new.payload.evidence.accountSnapshot = some carried)
    (hpnl : carried.realizedDailyPnlUsd.toRat = (dailyPnlForObserved account.realizedDailyPnlUsd
      row.payload.observedAt new.payload.observedAt).toRat)
    (hlosses : carried.consecutiveLosses = account.consecutiveLosses) :
    RowRight (rows ++ [new]) new := by
  intro found hfound
  cases hnew.symm.trans hfound
  obtain ⟨hsum, hcount⟩ := h.carried hsplit hafter hordered ht hacc
  rw [settlements_append, settlements_singleton, hkind, if_neg Bool.false_ne_true,
    List.append_nil]
  exact ⟨hpnl.trans hsum, hlosses.trans hcount⟩

/-- Where a row of the table stands, and what was settled after it. -/
theorem settlementsSince_split {ledger : Ledger} {row : ReconciliationRow}
    (hwf : RowsWellFormed ledger.reconciliations) (hmem : row ∈ ledger.reconciliations) :
    ∃ before after, ledger.reconciliations = before ++ row :: after ∧
      settlementsSince ledger row = settlements after := by
  obtain ⟨before, after, hsplit⟩ := List.append_of_mem hmem
  refine ⟨before, after, hsplit, ?_⟩
  have hids := hwf.ids
  rw [hsplit, List.map_append, List.map_cons, List.nodup_append] at hids
  have hbefore : ∀ earlier ∈ before,
      (earlier.reconciliationId != row.reconciliationId) = true := by
    intro earlier hearlier
    have hne := hids.2.2 _ (List.mem_map_of_mem hearlier) _ List.mem_cons_self
    simpa using hne
  unfold settlementsSince
  rw [hsplit, List.dropWhile_append_of_pos hbefore, List.dropWhile_cons_of_neg (by simp),
    List.tail_cons]

/-! ## The step -/

section Step

variable {D : Digests} {before after : Ledger}

theorem Baseline.accounted {t : Timestamp} {evidence : ReconciliationEvidence}
    (hb : Baseline D before after t evidence) : Accounted after.reconciliations := by
  rw [hb.row]
  refine Accounted.append Accounted.nil fun account hacc => ?_
  cases hb.account.symm.trans hacc
  rw [List.nil_append, settlements_singleton]
  simp [isSettlement, hb.kind, daySum, trailingLosses]

theorem PrepareStep.accounted {t : Timestamp} {middle : Ledger}
    (h : Accounted before.reconciliations) (hs : PrepareStep D before after t middle) :
    Accounted after.reconciliations := by
  rw [hs.rows]
  rcases hs.baseline with rfl | ⟨evidence, hb⟩
  · exact h
  · exact hb.accounted

theorem ResultStep.accounted {result : FastLiveResult} {t : Timestamp} {intentId : String}
    {type : EventType} {count : ℤ} {evidence : ReconciliationEvidence} (hwf : WellFormed before)
    (hordered : (before.reconciliations.map (·.payload.observedAt)).Pairwise (· ≤ ·))
    (hhead : (rowsUpTo before t).head? = before.reconciliations.getLast?)
    (h : Accounted before.reconciliations)
    (hs : ResultStep D before after result t intentId type count evidence) :
    Accounted after.reconciliations := by
  obtain ⟨carriedFrom, account, hcarry, hacc, -⟩ := hs.carried
  obtain ⟨latest, older, hlatest, -, -, carried, hcarried, rfl⟩ :=
    carryCleanAccount_spec hwf.rows hcarry
  have ht : latest.payload.observedAt ≤ t := (mem_rowsUpTo.mp (hlatest ▸ List.mem_cons_self)).2
  rw [hlatest, List.head?_cons] at hhead
  obtain ⟨earlier, hsplit⟩ := List.getLast?_eq_some_iff.mp hhead.symm
  rw [hs.row_appended hwf.rows]
  refine h.append (RowRight.of_carried h hsplit rfl hordered ht ?_ hcarried hacc ?_ rfl)
  · unfold isSettlement
    dsimp only
    rw [hs.kind]
    split_ifs <;> rfl
  · exact formatF_toRat _

theorem OfficialStep.accounted {result : FastLiveResult} {official : OfficialState}
    {t : Timestamp} {carriedFrom : String} {account : AccountEvidence} (hwf : WellFormed before)
    (hordered : (before.reconciliations.map (·.payload.observedAt)).Pairwise (· ≤ ·))
    (h : Accounted before.reconciliations)
    (hcurrent : after ≠ before → ∀ row ∈
      (rowsUpTo before t).find? (isPendingOf (orEmpty result.intentId)),
        settlementsSince before row = [])
    (hs : OfficialStep D before after result official t carriedFrom account) :
    Accounted after.reconciliations := by
  rcases hs.rows.cases with ⟨hrows, -⟩ | ⟨hrows, -⟩
  · rwa [hrows]
  obtain ⟨pending, carried, hpending, hcarried, hlosses, hpnl⟩ := hs.pnl_toRat t
  obtain ⟨hmem, ht⟩ := mem_rowsUpTo.mp (List.mem_of_find?_eq_some hpending)
  have hne : after ≠ before := by
    intro heq
    rw [heq] at hrows
    simp at hrows
  obtain ⟨earlier, later, hsplit, hsince⟩ := settlementsSince_split hwf.rows hmem
  rw [hcurrent hne pending hpending] at hsince
  rw [hrows]
  refine h.append (RowRight.of_carried h hsplit hsince.symm hordered ht ?_ hcarried rfl ?_ hlosses)
  · simp only [isSettlement, officialEvidence]
    split_ifs <;> rfl
  · simpa [dailyPnlForObserved] using hpnl

theorem SettleStep.accounted {t : Timestamp} {intentId : String} {fill : ReconciliationRow}
    {account : AccountEvidence} {pnl : Decimal} {evidence : ReconciliationEvidence}
    (hwf : WellFormed before)
    (hordered : (before.reconciliations.map (·.payload.observedAt)).Pairwise (· ≤ ·))
    (hle : ∀ row ∈ before.reconciliations, row.payload.observedAt ≤ t)
    (h : Accounted before.reconciliations) (hcurrent : settlementsSince before fill = [])
    (hs : SettleStep D before after t intentId fill account pnl evidence) :
    Accounted after.reconciliations := by
  obtain ⟨earlier, later, hsplit, hsince⟩ := settlementsSince_split hwf.rows hs.fill_mem
  rw [hcurrent] at hsince
  obtain ⟨hsum, hlosses⟩ := h.carried hsplit hsince.symm hordered (hle fill hs.fill_mem)
    hs.fill_account
  rw [hs.row_appended]
  refine h.append fun settled hsettled => ?_
  cases hs.account_evidence.symm.trans hsettled
  rw [settlements_append, settlements_singleton]
  simp only [isSettlement, hs.kind, beq_self_eq_true, if_true, hs.pnl_evidence, Option.getD_some]
  rw [daySum_append, trailingLosses_append]
  refine ⟨?_, ?_⟩
  · exact (formatF_toRat _).trans (Decimal.add_congr hsum (formatF_toRat pnl).symm)
  · have hsign : pnl.formatF < 0 ↔ pnl < 0 := by
      rw [Decimal.lt_iff, Decimal.lt_iff, formatF_toRat]
    simp only [settledAccount, hsign]
    split_ifs
    · rw [hlosses]
      rfl
    · rfl

/-- **The step**: an operation at an instant no row is later than, which continues a current
account, keeps the accounts right. -/
theorem accounted_exec {ledger : Ledger} {op : LedgerOp} (hwf : WellFormed ledger)
    (hordered : (ledger.reconciliations.map (·.payload.observedAt)).Pairwise (· ≤ ·))
    (hle : commits D ledger op = true →
      ∀ row ∈ ledger.reconciliations, row.payload.observedAt ≤ op.observedAt)
    (hcurrent : CarriesCurrentAccount D ledger op) (h : Accounted ledger.reconciliations) :
    Accounted (exec D ledger op).reconciliations := by
  have hclean : ∀ intent ∈ ledger.intents, strip intent.intentId = intent.intentId :=
    fun intent hmem => (hwf.intent intent hmem).2.1
  rcases exec_cases D ledger op with heq | ha
  · rwa [heq]
  have hle' := hle (by simp [commits, ha, Except.toOption])
  unfold CarriesCurrentAccount at hcurrent
  generalize exec D ledger op = after at ha hcurrent ⊢
  cases op with
  | prepare input =>
    obtain ⟨response, hr⟩ := map_fst_eq_ok.mp ha
    obtain ⟨middle, hs⟩ := prepare_cases hr
    exact hs.accounted h
  | result result t =>
    obtain ⟨response, hr⟩ := map_fst_eq_ok.mp ha
    rcases result_cases hclean hr with ⟨rfl, -⟩ | ⟨-, intentId, type, count, evidence, hs⟩
    · exact h
    · exact hs.accounted hwf hordered (rowsUpTo_of_ordered hordered hle') h
  | official result official t =>
    obtain ⟨response, hr⟩ := map_fst_eq_ok.mp ha
    obtain ⟨carriedFrom, account, hs⟩ := official_cases hr
    exact hs.accounted hwf hordered h hcurrent
  | settle evaluations intentId t =>
    obtain ⟨response, hr⟩ := map_fst_eq_ok.mp ha
    rcases settle_cases hclean hr with rfl | ⟨fill, account, pnl, evidence, hs⟩
    · exact h
    · have hne : after ≠ ledger := by
        intro heq
        have hrows := hs.row_appended
        rw [heq] at hrows
        simp at hrows
      exact hs.accounted hwf hordered hle' h (hcurrent hne fill hs.fill_latest)

end Step

/-! ## The run -/

/-- The rows are in order when the commits are. -/
theorem rows_ordered {D : Digests} {ops : List LedgerOp}
    (horder : (commitTimes D ops).Pairwise (· ≤ ·)) :
    ((ledgerAfter D ops).reconciliations.map (·.payload.observedAt)).Pairwise (· ≤ ·) :=
  horder.sublist (rows_sublist_commitTimes D ops)

/-- No row is later than an instant no commit is later than. -/
theorem rows_le {D : Digests} {ops : List LedgerOp} {t : Timestamp}
    (ht : ∀ s ∈ commitTimes D ops, s ≤ t) :
    ∀ row ∈ (ledgerAfter D ops).reconciliations, row.payload.observedAt ≤ t := fun _ hrow =>
  ht _ ((rows_sublist_commitTimes D ops).subset (List.mem_map_of_mem hrow))

/-- **The run**: the accounts are right after operations in order that continue current accounts. -/
theorem accounted_ledgerAfter {D : Digests} {ops : List LedgerOp}
    (horder : (commitTimes D ops).Pairwise (· ≤ ·))
    (hcurrent : Machine.Along (exec D) (CarriesCurrentAccount D) {} ops) :
    Accounted (ledgerAfter D ops).reconciliations := by
  induction ops using List.reverseRecOn with
  | nil => exact Accounted.nil
  | append_singleton ops op ih =>
    rw [Machine.along_append] at hcurrent
    rw [commitTimes_append, List.pairwise_append] at horder
    obtain ⟨hpast, -, hnow⟩ := horder
    rw [ledgerAfter_append]
    refine accounted_exec (wellFormed_ledgerAfter D ops) (rows_ordered hpast) ?_ hcurrent.2.1
      (ih hpast hcurrent.1)
    intro hcommit
    rw [hcommit, if_pos rfl] at hnow
    exact rows_le fun s hs => hnow s hs _ (List.mem_singleton_self _)

/-! ## The snapshot -/

/-- A ledger without settlements and without rows has right figures. -/
theorem figuresRight_of_noRows {ledger : Ledger} {t : Timestamp}
    (hrows : ledger.reconciliations = []) : FiguresRight ledger t := by
  intro snapshot hsnapshot
  have hnone : rowsUpTo ledger t = [] := by
    unfold rowsUpTo
    rw [hrows]
    rfl
  simp only [accountSnapshot, hnone, baseAccountSnapshot, bind_eq_ok] at hsnapshot
  obtain ⟨base, hbase, hsnapshot⟩ := hsnapshot
  obtain ⟨-, hpnl, hlosses, -, -⟩ := LiveAccountSnapshot.create_eq_ok.mp hbase
  obtain ⟨-, hpnl', hlosses', -, -⟩ := LiveAccountSnapshot.create_eq_ok.mp hsnapshot
  rw [hrows]
  refine ⟨Decimal.same_iff.mpr ?_, ?_⟩
  · rw [hpnl', hpnl]
    rfl
  · rw [hlosses', hlosses]
    rfl

/-- Right accounts make right figures. -/
theorem Accounted.figuresRight {ledger : Ledger} {t : Timestamp} (hwf : WellFormed ledger)
    (hordered : (ledger.reconciliations.map (·.payload.observedAt)).Pairwise (· ≤ ·))
    (hle : ∀ row ∈ ledger.reconciliations, row.payload.observedAt ≤ t)
    (h : Accounted ledger.reconciliations) : FiguresRight ledger t := by
  cases hlast : ledger.reconciliations.getLast? with
  | none => exact figuresRight_of_noRows (List.getLast?_eq_none_iff.mp hlast)
  | some latest =>
    have hhead := rowsUpTo_of_ordered hordered hle
    rw [hlast] at hhead
    obtain ⟨older, hrows⟩ := List.head?_eq_some_iff.mp hhead
    obtain ⟨earlier, hsplit⟩ := List.getLast?_eq_some_iff.mp hlast
    have hmem : latest ∈ ledger.reconciliations := List.mem_of_getLast? hlast
    obtain ⟨account, hacc, -⟩ := hwf.rows.account latest hmem
    obtain ⟨found, hfound, -, hpnl, hlosses, -⟩ := accountSnapshot_latest hwf hrows hacc
    obtain ⟨hsum, hcount⟩ := h.carried hsplit rfl hordered (hle latest hmem) hacc
    intro snapshot hsnapshot
    cases hfound.symm.trans hsnapshot
    exact ⟨Decimal.same_iff.mpr (hpnl ▸ hsum), hlosses.trans hcount⟩

/-- **The account a preparation takes its risk decision on has the sum of the day's settlements and
counts the losses at the end**, after every run with commits in order in which no operation
continues the account of a row a settlement was recorded after. -/
theorem preparation_figuresRight (D : Digests) (ops : List LedgerOp) (input : PrepareInput)
    (ledger : Ledger) (horder : (commitTimes D ops).Pairwise (· ≤ ·))
    (hlast : ∀ s ∈ commitTimes D ops, s ≤ input.observedAt)
    (hcurrent : Machine.Along (exec D) (CarriesCurrentAccount D) {} ops)
    (hstart : startingLedger D (ledgerAfter D ops) input = .ok ledger) :
    FiguresRight ledger input.observedAt := by
  have hwf := wellFormed_ledgerAfter D ops
  have hkept := (accounted_ledgerAfter horder hcurrent).figuresRight hwf (rows_ordered horder)
    (rows_le hlast)
  unfold startingLedger at hstart
  split_ifs at hstart
  · cases hstart
    exact hkept
  · rcases ensureInitialReconciliation_spec hstart with rfl | ⟨evidence, hb⟩
    · exact hkept
    · refine hb.accounted.figuresRight (hb.wellFormed hwf) ?_ ?_
      · simp [hb.row]
      · simp [hb.row]

/-- After the lost position, the account of the next preparation has the loss. -/
theorem preparation_figuresRight_sample :
    FiguresRight (ledgerAfter sampleDigests sampleLoss) 5 :=
  preparation_figuresRight sampleDigests sampleLoss (samplePrepareInput "b" 5) _
    (by decide +kernel) (by decide +kernel) (by decide +kernel) (by decide +kernel)

/-- **A loss can be missing from the account of the next preparation**: the official row of the
lost position, recorded once more after the settlement, continues the account from before it. -/
theorem not_preparation_figuresRight :
    ¬ ∀ (D : Digests) (ops : List LedgerOp) (input : PrepareInput) (ledger : Ledger),
      (commitTimes D ops).Pairwise (· ≤ ·) →
      (∀ s ∈ commitTimes D ops, s ≤ input.observedAt) →
      startingLedger D (ledgerAfter D ops) input = .ok ledger →
      FiguresRight ledger input.observedAt := by
  intro hall
  have hright := hall sampleDigests (sampleLoss ++ [sampleOfficial 5]) (samplePrepareInput "b" 6)
    (ledgerAfter sampleDigests (sampleLoss ++ [sampleOfficial 5])) (by decide +kernel)
    (by decide +kernel) (by decide +kernel)
  have hlosses : (accountSnapshot (ledgerAfter sampleDigests (sampleLoss ++ [sampleOfficial 5]))
      6).toOption.map (·.consecutiveLosses) = some 0 := by decide +kernel
  have htrailing : trailingLosses (settlements (ledgerAfter sampleDigests
      (sampleLoss ++ [sampleOfficial 5])).reconciliations) = 1 := by decide +kernel
  cases hsnapshot : accountSnapshot (ledgerAfter sampleDigests
      (sampleLoss ++ [sampleOfficial 5])) 6 with
  | error raised =>
    rw [hsnapshot] at hlosses
    cases hlosses
  | ok snapshot =>
    rw [hsnapshot] at hlosses
    have hcount := (hright snapshot hsnapshot).2
    simp only [Except.toOption, Option.map_some, Option.some.injEq] at hlosses
    rw [hlosses, htrailing] at hcount
    cases hcount

end BpEngine.FastLive
