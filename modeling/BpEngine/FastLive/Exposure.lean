import BpEngine.FastLive.Redelivery
import BpEngine.FastLive.Resolution

/-!
# The exposure of the snapshot

How the exposure of the account snapshot compares with the intents that are not resolved.

* `openExposure` is what the snapshot should cover: size times limit price, exactly, over the
  unresolved intents submitted so far.
* `SettledCounted` is the invariant: whatever a settlement row takes off the exposure, the scan over
  the intents has added.  `KeepsExposure` is the condition on a step under which it is preserved.
* `settledCounted_exec` is the step, `settledCounted_ledgerAfter` the run.
* `scan_exposure` and `settledNominal_exact` compute the two amounts, and `exposure_covered` is the
  result for every snapshot.
-/

namespace BpEngine.FastLive

open BpEngine.LiveReadiness BpEngine.Table

/-! ## The law -/

/-- Size times limit price, exactly. -/
def amount (intent : IntentRow) : ℚ := intent.size.toRat * intent.limitPrice.toRat

/-- As far as the rows up to `t` tell, the intents submitted up to `t` that are not resolved. -/
def openIntents (ledger : Ledger) (t : Timestamp) : List IntentRow :=
  (intentsUpTo ledger t).filter fun intent => ¬ ResolvedIn ledger (rowsUpTo ledger t) intent.intentId

/-- The amount of the intents that are not resolved at `t`. -/
def openExposure (ledger : Ledger) (t : Timestamp) : ℚ := ((openIntents ledger t).map amount).sum

/-- The amounts lie on the grid of `k` decimals and their sum fits the context. -/
def AmountsFit (k : ℤ) (ledger : Ledger) : Prop :=
  (∀ intent ∈ ledger.intents, ∃ z : ℤ, amount intent = z * (10 : ℚ) ^ (-k)) ∧
    (ledger.intents.map amount).sum < (10 : ℚ) ^ ((Decimal.precision : ℤ) - k)

/-! ## The condition and the invariant -/

/-- The intent has no settlement row. -/
def Unsettled (ledger : Ledger) (intentId : String) : Prop :=
  ∀ row ∈ ledger.reconciliations, isSettlementOf intentId row = false

instance (ledger : Ledger) (intentId : String) : Decidable (Unsettled ledger intentId) := by
  unfold Unsettled; infer_instance

/-- The scan adds the intent to the exposure, from `t` on. -/
def CountedFrom (ledger : Ledger) (intentId : String) (t : Timestamp) : Prop :=
  countsExposure (terminalEvent ledger intentId) = true ∧
    intentId ∉ zeroFillIntents ledger.reconciliations ∧
    ∀ intent ∈ ledger.intents, intent.intentId = intentId → intent.payload.preSubmitAt ≤ t

instance (ledger : Ledger) (intentId : String) (t : Timestamp) :
    Decidable (CountedFrom ledger intentId t) := by
  unfold CountedFrom; infer_instance

/-- A step that settles an intent finds it counted, and a step that rules an intent out or reports
it unfilled finds it unsettled. -/
def KeepsExposure (D : Digests) (ledger : Ledger) (op : LedgerOp) : Prop :=
  match op with
  | .prepare _ => True
  | .result result _ =>
    (result.status = some .rejected ∨ result.consumed = false) → exec D ledger op ≠ ledger →
      Unsettled ledger (orEmpty result.intentId)
  | .official result official _ =>
    official.filledShares.isZero → official.filledNotional.isZero →
      official.fillState = some .zeroFillObserved → exec D ledger op ≠ ledger →
      Unsettled ledger (orEmpty result.intentId)
  | .settle _ intentId t => exec D ledger op ≠ ledger → CountedFrom ledger (strip intentId) t

instance (D : Digests) (ledger : Ledger) (op : LedgerOp) : Decidable (KeepsExposure D ledger op) := by
  unfold KeepsExposure; cases op <;> infer_instance

/-- Every settlement row is about an intent of the ledger that the scan counts from then on. -/
def SettledCounted (ledger : Ledger) : Prop :=
  ∀ row ∈ ledger.reconciliations, ∀ intentId, isSettlementOf intentId row = true →
    (∃ intent ∈ ledger.intents, intent.intentId = intentId) ∧
      CountedFrom ledger intentId row.payload.observedAt

/-! ## The step -/

section Step

variable {D : Digests} {before after : Ledger}

/-- A row that is about no settlement and reports no zero fill of a settled intent. -/
theorem CountedFrom.append_row {rows : List ReconciliationRow} {new : ReconciliationRow}
    {intentId : String} {t : Timestamp} (h : CountedFrom before intentId t)
    (hintents : after.intents = before.intents)
    (hevent : countsExposure (terminalEvent after intentId) = true)
    (hrows : after.reconciliations = rows ++ [new]) (hbefore : before.reconciliations = rows)
    (hnew : reportsZeroFill new = true → new.payload.evidence.intentId ≠ some intentId)
    (hne : intentId ≠ "") : CountedFrom after intentId t := by
  refine ⟨hevent, ?_, ?_⟩
  · have hold := h.2.1
    rw [hbefore] at hold
    rw [hrows]
    unfold zeroFillIntents at hold ⊢
    rw [List.filter_append, List.map_append, List.mem_append, not_or]
    refine ⟨hold, fun hmem => ?_⟩
    obtain ⟨row, hrow, hid⟩ := List.mem_map.mp hmem
    obtain ⟨hrow, hreports⟩ := List.mem_filter.mp hrow
    rw [List.mem_singleton.mp hrow] at hid hreports
    refine hnew hreports ?_
    cases hev : new.payload.evidence.intentId with
    | none =>
      rw [hev] at hid
      exact absurd hid.symm hne
    | some id =>
      rw [hev] at hid
      exact congrArg some hid
  · rw [hintents]
    exact h.2.2

theorem isSettlementOf_ne {intentId : String} {row : ReconciliationRow}
    {kind : ReconciliationKind} (hkind : row.payload.evidence.reconciliationKind = some kind)
    (hne : kind ≠ .fastLiveOfficialSettlement) : isSettlementOf intentId row = false := by
  simp [isSettlementOf, hkind, hne]

theorem reportsZeroFill_ne {row : ReconciliationRow} {kind : ReconciliationKind}
    (hkind : row.payload.evidence.reconciliationKind = some kind)
    (hne : kind ≠ .postSubmissionOfficialZeroFill) : ¬ reportsZeroFill row = true := by
  simp [reportsZeroFill, hkind, hne]

theorem SettledCounted.intentId_ne (hwf : WellFormed before) (h : SettledCounted before)
    {row : ReconciliationRow} (hrow : row ∈ before.reconciliations) {intentId : String}
    (hset : isSettlementOf intentId row = true) : intentId ≠ "" := by
  obtain ⟨⟨intent, hmem, rfl⟩, -⟩ := h row hrow intentId hset
  exact (hwf.intent intent hmem).1

theorem ResultStep.settledCounted {result : FastLiveResult} {t : Timestamp} {intentId : String}
    {type : EventType} {count : ℤ} {evidence : ReconciliationEvidence} (hwf : WellFormed before)
    (h : SettledCounted before)
    (hcond : (result.status = some .rejected ∨ result.consumed = false) → after ≠ before →
      Unsettled before (orEmpty result.intentId))
    (hs : ResultStep D before after result t intentId type count evidence) :
    SettledCounted after := by
  have hrows := hs.row_appended hwf.rows
  have hne : after ≠ before := by
    intro heq
    rw [heq] at hrows
    simp at hrows
  have hcount : ∀ {row}, row ∈ before.reconciliations → ∀ {id}, isSettlementOf id row = true →
      countsExposure (terminalEvent after id) = true := by
    intro row hrow id hset
    obtain ⟨-, hcounted, -⟩ := h row hrow id hset
    by_cases hid : id = intentId
    · subst hid
      rcases hs.events.terminalEvent_self hs.terminal with hnow | ⟨hsame, -⟩
      · rcases hs.outcome with htype | hruled
        · rw [hnow]
          rcases htype with rfl | rfl <;> rfl
        · have hnot := hcond hruled hne row hrow
          rw [hs.intentId_eq, hset] at hnot
          cases hnot
      · rwa [hsame]
    · rwa [hs.events.terminalEvent_ne hid]
  intro row hrow id hset
  rw [hrows] at hrow
  rcases List.mem_append.mp hrow with hrow | hrow
  · obtain ⟨howner, hcounted⟩ := h row hrow id hset
    refine ⟨by rwa [hs.intents], ?_⟩
    refine hcounted.append_row hs.intents (hcount hrow hset) hrows rfl (fun hreports => ?_)
      (h.intentId_ne hwf hrow hset)
    refine absurd hreports (reportsZeroFill_ne (show _ = some _ from hs.kind) ?_)
    split_ifs <;> simp
  · rw [List.mem_singleton.mp hrow, isSettlementOf_ne (show _ = some _ from hs.kind)
      (by split_ifs <;> simp)] at hset
    cases hset

/-- A zero fill is reported only for an official state that observed one. -/
theorem reportsZeroFill_official {result : FastLiveResult} {official : OfficialState}
    {t : Timestamp} {carriedFrom id : String} {account : AccountEvidence} {count : ℤ}
    (h : reportsZeroFill ⟨id, ⟨t, count, count, officialEvidence (orEmpty result.intentId)
      (orEmpty result.externalOrderId.join) carriedFrom official official.filledShares
      official.filledNotional account⟩⟩ = true) :
    official.filledShares.isZero ∧ official.filledNotional.isZero ∧
      official.fillState = some .zeroFillObserved := by
  unfold reportsZeroFill at h
  simp only [Bool.and_eq_true, beq_iff_eq, officialEvidence, Option.any_some,
    decide_eq_true_eq] at h
  obtain ⟨⟨⟨⟨⟨⟨⟨⟨⟨-, -⟩, -⟩, -⟩, -⟩, hshares⟩, hnotional⟩, -⟩, hstate⟩, -⟩ := h
  rw [Decimal.isZero_iff, formatF_toRat, ← Decimal.isZero_iff] at hshares hnotional
  exact ⟨hshares, hnotional, hstate⟩

theorem OfficialStep.settledCounted {result : FastLiveResult} {official : OfficialState}
    {t : Timestamp} {carriedFrom : String} {account : AccountEvidence} (hwf : WellFormed before)
    (h : SettledCounted before)
    (hcond : official.filledShares.isZero → official.filledNotional.isZero →
      official.fillState = some .zeroFillObserved → after ≠ before →
      Unsettled before (orEmpty result.intentId))
    (hs : OfficialStep D before after result official t carriedFrom account) :
    SettledCounted after := by
  have hterminal : ∀ id, terminalEvent after id = terminalEvent before id := by
    intro id
    unfold terminalEvent
    rw [hs.events]
  rcases hs.rows.cases with ⟨hrows, -⟩ | ⟨hrows, -⟩
  · intro row hrow id hset
    rw [hrows] at hrow
    obtain ⟨howner, hcounted⟩ := h row hrow id hset
    unfold CountedFrom at hcounted ⊢
    rw [hs.intents, hterminal, hrows]
    exact ⟨howner, hcounted⟩
  · have hne : after ≠ before := by
      intro heq
      rw [heq] at hrows
      simp at hrows
    intro row hrow id hset
    rw [hrows] at hrow
    rcases List.mem_append.mp hrow with hrow | hrow
    · obtain ⟨howner, hcounted⟩ := h row hrow id hset
      refine ⟨by rwa [hs.intents], ?_⟩
      refine hcounted.append_row hs.intents (by rw [hterminal]; exact hcounted.1) hrows rfl
        (fun hreports hid => ?_) (h.intentId_ne hwf hrow hset)
      obtain ⟨hshares, hnotional, hstate⟩ := reportsZeroFill_official hreports
      have hid' : orEmpty result.intentId = id := Option.some.inj hid
      have hnot := hcond hshares hnotional hstate hne row hrow
      rw [hid', hset] at hnot
      cases hnot
    · rw [List.mem_singleton.mp hrow] at hset
      unfold isSettlementOf officialEvidence at hset
      by_cases hzero : official.filledShares.isZero <;> simp [hzero] at hset

theorem SettleStep.settledCounted {t : Timestamp} {intentId : String} {fill : ReconciliationRow}
    {account : AccountEvidence} {pnl : Decimal} {evidence : ReconciliationEvidence}
    (hwf : WellFormed before) (h : SettledCounted before)
    (hcond : after ≠ before → CountedFrom before intentId t)
    (hs : SettleStep D before after t intentId fill account pnl evidence) :
    SettledCounted after := by
  have hterminal : ∀ id, terminalEvent after id = terminalEvent before id := by
    intro id
    obtain ⟨extra, hevents, hextra⟩ := hs.events
    exact terminalEvent_append hevents fun e he _ => (hextra e he).2
  have hrows := hs.row_appended
  have hne : after ≠ before := by
    intro heq
    rw [heq] at hrows
    simp at hrows
  have hkeep : ∀ {id : String} {s : Timestamp}, id ≠ "" → CountedFrom before id s →
      CountedFrom after id s := by
    intro id s hid hcounted
    refine hcounted.append_row hs.intents (by rw [hterminal]; exact hcounted.1) hrows rfl
      (fun hreports => ?_) hid
    exact absurd hreports (reportsZeroFill_ne (show _ = some _ from hs.kind) (by simp))
  intro row hrow id hset
  rw [hrows] at hrow
  rw [hs.intents]
  rcases List.mem_append.mp hrow with hrow | hrow
  · obtain ⟨howner, hcounted⟩ := h row hrow id hset
    exact ⟨howner, hkeep (h.intentId_ne hwf hrow hset) hcounted⟩
  · rw [List.mem_singleton.mp hrow] at hset ⊢
    have hid : id = intentId := by
      unfold isSettlementOf at hset
      simp only [Bool.and_eq_true, beq_iff_eq, hs.intent_evidence, Option.some.injEq] at hset
      exact hset.1.symm
    rw [hid]
    exact ⟨hs.intent, hkeep hs.intentId_ne (hcond hne)⟩

theorem PrepareStep.settledCounted {t : Timestamp} {middle : Ledger} (hwf : WellFormed before)
    (h : SettledCounted before) (hs : PrepareStep D before after t middle) :
    SettledCounted after := by
  have hmiddle : WellFormed middle ∧ SettledCounted middle := by
    rcases hs.baseline with rfl | ⟨evidence, hb⟩
    · exact ⟨hwf, h⟩
    · refine ⟨hb.wellFormed hwf, fun row hrow id hset => ?_⟩
      rw [hb.row] at hrow
      rw [List.mem_singleton.mp hrow] at hset
      simp [isSettlementOf, hb.kind] at hset
  obtain ⟨hwf', h'⟩ := hmiddle
  intro row hrow id hset
  rw [hs.rows] at hrow
  obtain ⟨⟨intent, hmem, hid⟩, hcounted, hfilled, hbefore⟩ := h' row hrow id hset
  have hterminal : terminalEvent after id = terminalEvent middle id := by
    unfold terminalEvent
    rw [hs.events]
  unfold CountedFrom
  rw [hterminal, hs.rows]
  rcases hs.intents with heq | ⟨new, heq, hnew⟩
  · rw [heq]
    exact ⟨⟨intent, hmem, hid⟩, hcounted, hfilled, hbefore⟩
  · rw [heq]
    refine ⟨⟨intent, List.mem_append_left _ hmem, hid⟩, hcounted, hfilled, fun other hother hid' => ?_⟩
    rcases List.mem_append.mp hother with hother | hother
    · exact hbefore other hother hid'
    · rw [List.mem_singleton.mp hother] at hid'
      exact absurd (hid.trans hid'.symm) (hnew.fresh intent hmem)

/-- **The step**: an operation that meets the condition keeps the invariant. -/
theorem settledCounted_exec {ledger : Ledger} {op : LedgerOp} (hwf : WellFormed ledger)
    (h : SettledCounted ledger) (hcond : KeepsExposure D ledger op) :
    SettledCounted (exec D ledger op) := by
  have hclean : ∀ intent ∈ ledger.intents, strip intent.intentId = intent.intentId :=
    fun intent hmem => (hwf.intent intent hmem).2.1
  rcases exec_cases D ledger op with heq | ha
  · rwa [heq]
  cases op with
  | prepare input =>
    obtain ⟨response, hr⟩ := map_fst_eq_ok.mp ha
    obtain ⟨middle, hs⟩ := prepare_cases hr
    exact hs.settledCounted hwf h
  | result result t =>
    obtain ⟨response, hr⟩ := map_fst_eq_ok.mp ha
    rcases result_cases hclean hr with ⟨heq, -⟩ | ⟨-, intentId, type, count, evidence, hs⟩
    · rwa [heq]
    · exact hs.settledCounted hwf h hcond
  | official result official t =>
    obtain ⟨response, hr⟩ := map_fst_eq_ok.mp ha
    obtain ⟨carriedFrom, account, hs⟩ := official_cases hr
    exact hs.settledCounted hwf h hcond
  | settle evaluations intentId t =>
    obtain ⟨response, hr⟩ := map_fst_eq_ok.mp ha
    rcases settle_cases hclean hr with heq | ⟨fill, account, pnl, evidence, hs⟩
    · rwa [heq]
    · exact hs.settledCounted hwf h hcond

/-- **The run**: the invariant holds after operations that meet the condition. -/
theorem settledCounted_ledgerAfter {ops : List LedgerOp}
    (hkeeps : Machine.Along (exec D) (KeepsExposure D) {} ops) :
    SettledCounted (ledgerAfter D ops) := by
  refine (Machine.run_invariant (exec D) (J := fun ledger => WellFormed ledger ∧
    SettledCounted ledger) ?_ ⟨.empty, by intro row hrow; cases hrow⟩ hkeeps).2
  rintro ledger op ⟨hwf, h⟩ hcond
  exact ⟨wellFormed_exec op hwf, settledCounted_exec hwf h hcond⟩

end Step

/-! ## The amounts -/

/-- Disjoint parts of a list sum to at most a part that contains both. -/
theorem sum_filter_add_le {α : Type} {f : α → ℚ} {p q r : α → Bool} (l : List α)
    (hpos : ∀ x ∈ l, 0 ≤ f x) (hp : ∀ x ∈ l, p x = true → r x = true ∧ q x = false)
    (hq : ∀ x ∈ l, q x = true → r x = true) :
    ((l.filter p).map f).sum + ((l.filter q).map f).sum ≤ ((l.filter r).map f).sum := by
  induction l with
  | nil => simp
  | cons x xs ih =>
    have hrest := ih (fun y hy => hpos y (List.mem_cons_of_mem _ hy))
      (fun y hy => hp y (List.mem_cons_of_mem _ hy)) (fun y hy => hq y (List.mem_cons_of_mem _ hy))
    have hx := hpos x List.mem_cons_self
    have hpx := hp x List.mem_cons_self
    have hqx := hq x List.mem_cons_self
    cases hcp : p x <;> cases hcq : q x <;> cases hcr : r x <;>
      simp_all <;> linarith

/-- The scan adds the intent. -/
def isCounted (zeroFilled : List String) (outcome : String → Option EventType)
    (intent : IntentRow) : Bool :=
  decide (intent.intentId ∉ zeroFilled) && countsExposure (outcome intent.intentId)

theorem scanIntent_exposure (zeroFilled : List String) (outcome : String → Option EventType)
    (scan : IntentScan) (intent : IntentRow) :
    (scanIntent zeroFilled outcome scan intent).exposure =
      if isCounted zeroFilled outcome intent then scan.exposure + nominal intent
      else scan.exposure := by
  unfold scanIntent IntentScan.sawAttempt isCounted
  by_cases hzero : intent.intentId ∈ zeroFilled
  · simp [hzero]
  · cases hcount : countsExposure (outcome intent.intentId) with
    | true =>
      simp only [hzero, hcount, if_false, if_true, not_false_eq_true, decide_true, Bool.and_true]
      split_ifs <;> rfl
    | false =>
      simp only [hzero, hcount, if_false, Bool.and_false, Bool.false_eq_true]
      split_ifs <;> rfl

/-- The scan adds up the nominal amounts of the intents that count. -/
theorem scan_exposure (zeroFilled : List String) (outcome : String → Option EventType)
    (intents : List IntentRow) (scan : IntentScan) :
    (intents.foldl (scanIntent zeroFilled outcome) scan).exposure =
      ((intents.filter (isCounted zeroFilled outcome)).map nominal).foldl (· + ·)
        scan.exposure := by
  induction intents generalizing scan with
  | nil => rfl
  | cons intent intents ih =>
    rw [List.foldl_cons, ih, scanIntent_exposure, List.filter_cons]
    split_ifs <;> rfl

section Amounts

variable {ledger : Ledger} {k : ℤ}

theorem amount_nonneg (hwf : WellFormed ledger) : ∀ intent ∈ ledger.intents, 0 ≤ amount intent := by
  intro intent hmem
  obtain ⟨hsize, hprice⟩ := hwf.amounts intent hmem
  rw [Decimal.lt_iff, Decimal.toRat_zero] at hsize hprice
  exact le_of_lt (mul_pos hsize hprice)

theorem nominal_exact (hwf : WellFormed ledger) (hfit : AmountsFit k ledger) :
    ∀ intent ∈ ledger.intents, (nominal intent).toRat = amount intent := by
  intro intent hmem
  refine Decimal.mul_exact (k := k) (Decimal.Fits.of_nonneg (hfit.1 intent hmem)
    (amount_nonneg hwf intent hmem) (lt_of_le_of_lt ?_ hfit.2))
  refine List.single_le_sum ?_ _ (List.mem_map_of_mem hmem)
  intro v hv
  obtain ⟨other, hother, rfl⟩ := List.mem_map.mp hv
  exact amount_nonneg hwf other hother

theorem sum_amount_nonneg (hwf : WellFormed ledger) (p : IntentRow → Bool) :
    0 ≤ ((ledger.intents.filter p).map amount).sum := by
  refine List.sum_nonneg fun v hv => ?_
  obtain ⟨intent, h, rfl⟩ := List.mem_map.mp hv
  exact amount_nonneg hwf intent (List.mem_of_mem_filter h)

theorem sum_amount_le (hwf : WellFormed ledger) (p : IntentRow → Bool) :
    ((ledger.intents.filter p).map amount).sum ≤ (ledger.intents.map amount).sum := by
  refine ((List.filter_sublist (p := p)).map amount).sum_le_sum fun v hv => ?_
  obtain ⟨intent, h, rfl⟩ := List.mem_map.mp hv
  exact amount_nonneg hwf intent h

theorem sum_amount_grid (hfit : AmountsFit k ledger) (p : IntentRow → Bool) :
    ∃ z : ℤ, ((ledger.intents.filter p).map amount).sum = z * (10 : ℚ) ^ (-k) := by
  have hgrid : ∀ intent ∈ ledger.intents.filter p, ∃ z : ℤ, amount intent = z * (10 : ℚ) ^ (-k) :=
    fun intent h => hfit.1 intent (List.mem_of_mem_filter h)
  generalize ledger.intents.filter p = counted at hgrid ⊢
  induction counted with
  | nil => exact ⟨0, by simp⟩
  | cons intent intents ih =>
    obtain ⟨z, hz⟩ := hgrid intent List.mem_cons_self
    obtain ⟨w, hw⟩ := ih fun other h => hgrid other (List.mem_cons_of_mem _ h)
    exact ⟨z + w, by rw [List.map_cons, List.sum_cons, hz, hw]; push_cast; ring⟩

/-- **The nominal amounts of any of the intents add up exactly.** -/
theorem nominal_sum_exact (hwf : WellFormed ledger) (hfit : AmountsFit k ledger)
    (p : IntentRow → Bool) :
    (((ledger.intents.filter p).map nominal).foldl (· + ·) 0).toRat =
      ((ledger.intents.filter p).map amount).sum := by
  have hmem : ∀ intent ∈ ledger.intents.filter p, intent ∈ ledger.intents :=
    fun intent h => List.mem_of_mem_filter h
  have hmap : ((ledger.intents.filter p).map nominal).map Decimal.toRat =
      (ledger.intents.filter p).map amount := by
    rw [List.map_map]
    exact List.map_congr_left fun intent h => nominal_exact hwf hfit intent (hmem intent h)
  rw [Decimal.foldl_add_exact (k := k), Decimal.toRat_zero, zero_add, hmap]
  · intro d hd
    obtain ⟨intent, h, rfl⟩ := List.mem_map.mp hd
    rw [nominal_exact hwf hfit intent (hmem intent h)]
    exact hfit.1 intent (hmem intent h)
  · intro d hd
    obtain ⟨intent, h, rfl⟩ := List.mem_map.mp hd
    rw [nominal_exact hwf hfit intent (hmem intent h)]
    exact amount_nonneg hwf intent (hmem intent h)
  · exact ⟨0, by simp⟩
  · simp
  · rw [Decimal.toRat_zero, zero_add, hmap]
    exact lt_of_le_of_lt (sum_amount_le hwf p) hfit.2

end Amounts

/-! ## The snapshot -/

/-- The exposure of a snapshot is at least the scanned exposure less the settled amount. -/
theorem accountSnapshot_exposure {ledger : Ledger} {t : Timestamp} {snapshot : LiveAccountSnapshot}
    (h : accountSnapshot ledger t = .ok snapshot) :
    ∃ base : Decimal, (scanAt ledger t).exposure.toRat ≤ base.toRat ∧
      snapshot.totalExposureUsd =
        Decimal.max' 0 (base - settledNominal ledger (settledIntents (rowsUpTo ledger t))) := by
  unfold accountSnapshot at h
  obtain ⟨base, hbase, hsnapshot⟩ := bind_eq_ok.mp h
  obtain ⟨htotal, -⟩ := LiveAccountSnapshot.create_eq_ok.mp hsnapshot
  refine ⟨base.totalExposureUsd, ?_, htotal⟩
  unfold baseAccountSnapshot at hbase
  unfold scanAt
  split at hbase
  · obtain ⟨hexposure, -⟩ := LiveAccountSnapshot.create_eq_ok.mp hbase
    next hrows => rw [hexposure, hrows]
  · obtain ⟨hexposure, -⟩ := LiveAccountSnapshot.create_eq_ok.mp hbase
    next hrows =>
      rw [hexposure, Decimal.toRat_max', hrows]
      exact le_max_left _ _

theorem mem_settledIntents {rows : List ReconciliationRow} {intentId : String} :
    intentId ∈ settledIntents rows ↔
      intentId ≠ "" ∧ ∃ row ∈ rows, isSettlementOf intentId row = true := by
  unfold settledIntents isSettlementOf
  constructor
  · intro h
    obtain ⟨row, hrow, hid⟩ := List.mem_map.mp h
    obtain ⟨hmem, hkind⟩ := List.mem_filter.mp hrow
    simp only [Bool.and_eq_true, bne_iff_ne, beq_iff_eq] at hkind
    rw [hid] at hkind
    refine ⟨hkind.2, row, hmem, ?_⟩
    cases hev : row.payload.evidence.intentId with
    | none =>
      rw [hev] at hid
      exact absurd hid.symm hkind.2
    | some id =>
      rw [hev] at hid
      have hid' : id = intentId := hid
      simp [hid', hkind.1]
  · rintro ⟨hne, row, hmem, hkind⟩
    simp only [Bool.and_eq_true, beq_iff_eq] at hkind
    refine List.mem_map.mpr ⟨row, List.mem_filter.mpr ⟨hmem, ?_⟩, ?_⟩
    · simp only [Bool.and_eq_true, bne_iff_ne, beq_iff_eq, hkind.1, hkind.2]
      exact ⟨trivial, hne⟩
    · rw [hkind.1]
      rfl

/-- **The exposure of every snapshot covers the intents that are not resolved**, after every run
whose steps meet the condition, when the amounts fit the decimal context. -/
theorem exposure_covered (D : Digests) (ops : List LedgerOp) (t : Timestamp)
    (snapshot : LiveAccountSnapshot) (k : ℤ)
    (hkeeps : Machine.Along (exec D) (KeepsExposure D) {} ops)
    (hfit : AmountsFit k (ledgerAfter D ops))
    (h : accountSnapshot (ledgerAfter D ops) t = .ok snapshot) :
    openExposure (ledgerAfter D ops) t ≤ snapshot.totalExposureUsd.toRat := by
  have hwf := wellFormed_ledgerAfter D ops
  have hsettled := settledCounted_ledgerAfter hkeeps
  generalize ledgerAfter D ops = ledger at *
  obtain ⟨base, hbase, htotal⟩ := accountSnapshot_exposure h
  set zeroFilled := zeroFillIntents (rowsUpTo ledger t) with hzeroFilled
  set settled := settledIntents (rowsUpTo ledger t) with hsettledIds
  -- the three sums, over the same list
  have hscan : (scanAt ledger t).exposure.toRat = ((ledger.intents.filter fun intent =>
      isCounted zeroFilled (terminalEvent ledger) intent &&
        intent.payload.preSubmitAt ≤ t).map amount).sum := by
    unfold scanAt intentsUpTo
    rw [scan_exposure, List.filter_filter]
    exact nominal_sum_exact hwf hfit _
  have hnominal : (settledNominal ledger settled).toRat =
      ((ledger.intents.filter fun intent => intent.intentId ∈ settled).map amount).sum := by
    unfold settledNominal
    rw [← nominal_sum_exact hwf hfit, List.foldl_map]
  have hopen : openExposure ledger t = ((ledger.intents.filter fun intent =>
      (¬ ResolvedIn ledger (rowsUpTo ledger t) intent.intentId) &&
        intent.payload.preSubmitAt ≤ t).map amount).sum := by
    unfold openExposure openIntents intentsUpTo
    rw [List.filter_filter]
  have hparts : openExposure ledger t + (settledNominal ledger settled).toRat ≤
      (scanAt ledger t).exposure.toRat := by
    rw [hopen, hnominal, hscan]
    refine sum_filter_add_le ledger.intents (amount_nonneg hwf) ?_ ?_
    · intro intent hmem hunresolved
      simp only [Bool.and_eq_true, decide_eq_true_eq] at hunresolved
      obtain ⟨hnot, hsubmitted⟩ := hunresolved
      unfold ResolvedIn at hnot
      rw [not_or, not_or, ruledOut_iff, Bool.not_eq_false] at hnot
      refine ⟨?_, ?_⟩
      · unfold isCounted
        simp only [Bool.and_eq_true, decide_eq_true_eq]
        exact ⟨⟨fun hin => hnot.2.1 (mem_zeroFillIntents hin), hnot.1⟩, hsubmitted⟩
      · rw [decide_eq_false_iff_not, hsettledIds, mem_settledIntents]
        exact fun hin => hnot.2.2 hin.2
    · intro intent hmem hin
      rw [decide_eq_true_eq, hsettledIds, mem_settledIntents] at hin
      obtain ⟨-, row, hrow, hkind⟩ := hin
      obtain ⟨hrow, hseen⟩ := mem_rowsUpTo.mp hrow
      obtain ⟨-, hcount, hfilled, hsubmitted⟩ := hsettled row hrow _ hkind
      unfold isCounted
      simp only [Bool.and_eq_true, decide_eq_true_eq]
      refine ⟨⟨fun hzero => hfilled ?_, hcount⟩, le_trans (hsubmitted intent hmem rfl) hseen⟩
      rw [hzeroFilled] at hzero
      unfold zeroFillIntents at hzero ⊢
      obtain ⟨zero, hzrow, hid⟩ := List.mem_map.mp hzero
      obtain ⟨hzmem, hreports⟩ := List.mem_filter.mp hzrow
      exact List.mem_map.mpr ⟨zero, List.mem_filter.mpr ⟨(mem_rowsUpTo.mp hzmem).1, hreports⟩, hid⟩
  have hopen0 : 0 ≤ openExposure ledger t := by
    rw [hopen]
    exact sum_amount_nonneg hwf _
  -- the difference fits the context, so the rounded subtraction stays above it
  have hfits : Decimal.Fits k
      ((scanAt ledger t).exposure.toRat - (settledNominal ledger settled).toRat) := by
    have hsettled0 : 0 ≤ (settledNominal ledger settled).toRat := by
      rw [hnominal]
      exact sum_amount_nonneg hwf _
    refine Decimal.Fits.of_nonneg ?_ (by linarith) ?_
    · obtain ⟨z, hz⟩ := sum_amount_grid hfit fun intent =>
        isCounted zeroFilled (terminalEvent ledger) intent && intent.payload.preSubmitAt ≤ t
      obtain ⟨w, hw⟩ := sum_amount_grid hfit fun intent => intent.intentId ∈ settled
      exact ⟨z - w, by rw [hscan, hnominal, hz, hw]; push_cast; ring⟩
    · refine lt_of_le_of_lt ?_ hfit.2
      have hle := sum_amount_le hwf fun intent =>
        isCounted zeroFilled (terminalEvent ledger) intent && intent.payload.preSubmitAt ≤ t
      rw [← hscan] at hle
      linarith
  have hsub : (scanAt ledger t).exposure.toRat - (settledNominal ledger settled).toRat ≤
      (base - settledNominal ledger settled).toRat := by
    refine Decimal.le_fix hfits (by linarith) ?_
    rw [Decimal.toRat_rawAdd]
    change _ ≤ base.toRat + (-settledNominal ledger settled).toRat
    rw [Decimal.toRat_neg]
    linarith
  rw [htotal, Decimal.toRat_max']
  exact le_max_of_le_right (by linarith)

/-- Ten shares at half a dollar: a grid without decimals is enough for the first intent. -/
theorem amountsFit_sample : AmountsFit 0 (ledgerAfter sampleDigests
    [samplePrepare "a" 1, .result (sampleResult "a" .accepted) 2]) := by
  have hintents : (ledgerAfter sampleDigests
      [samplePrepare "a" 1, .result (sampleResult "a" .accepted) 2]).intents.map
        (fun intent => (intent.size, intent.limitPrice)) =
      [(⟨10 ^ 19, -18⟩, ⟨5 * 10 ^ 17, -18⟩)] := by decide +kernel
  have hamounts : (ledgerAfter sampleDigests
      [samplePrepare "a" 1, .result (sampleResult "a" .accepted) 2]).intents.map amount = [5] := by
    have hmap := congrArg (List.map fun pair : Decimal × Decimal => pair.1.toRat * pair.2.toRat)
      hintents
    rw [List.map_map] at hmap
    refine Eq.trans hmap ?_
    norm_num [Decimal.toRat]
  unfold AmountsFit
  rw [hamounts]
  refine ⟨fun intent hmem => ⟨5, ?_⟩, by norm_num [Decimal.precision]⟩
  have hvalue := List.mem_map_of_mem (f := amount) hmem
  rw [hamounts, List.mem_singleton] at hvalue
  rw [hvalue]
  norm_num

/-- The snapshot covers the accepted order of the first intent. -/
theorem exposure_covered_sample :
    openExposure (ledgerAfter sampleDigests
        [samplePrepare "a" 1, .result (sampleResult "a" .accepted) 2]) 3 ≤
      (⟨5 * 10 ^ 27, -27⟩ : Decimal).toRat :=
  exposure_covered sampleDigests _ 3
    ⟨⟨5 * 10 ^ 27, -27⟩, ⟨0, 0⟩, 0, some 1, 1, by decide, by decide, by decide⟩ 0
    (by decide +kernel) amountsFit_sample (by decide +kernel)

/-- The first order is reported unfilled, then filled and settled; the second intent is created. -/
def sampleLateFill : List LedgerOp :=
  [samplePrepare "a" 1, .result (sampleResult "a" .accepted) 2,
    .official (sampleResult "a" .accepted) sampleZeroFill 3,
    .official (sampleResult "a" .accepted) sampleFill 4,
    .settle [⟨"a", "up", "label-v1"⟩] "live-intent-a" 5,
    samplePrepare "b" 6]

/-- **The exposure can be under-reported**: the settled amount of an intent that was reported
unfilled before is taken off the exposure of the second intent. -/
theorem not_exposure_covered :
    ¬ ∀ (D : Digests) (ops : List LedgerOp) (t : Timestamp) (snapshot : LiveAccountSnapshot),
      accountSnapshot (ledgerAfter D ops) t = .ok snapshot →
      openExposure (ledgerAfter D ops) t ≤ snapshot.totalExposureUsd.toRat := by
  intro hall
  have hzero : (accountSnapshot (ledgerAfter sampleDigests sampleLateFill) 7).toOption.map
      (·.totalExposureUsd) = some ⟨0, 0⟩ := by decide +kernel
  cases hsnapshot : accountSnapshot (ledgerAfter sampleDigests sampleLateFill) 7 with
  | error e => simp [hsnapshot, Except.toOption] at hzero
  | ok snapshot =>
    have hle := hall sampleDigests sampleLateFill 7 snapshot hsnapshot
    have hopen : (openIntents (ledgerAfter sampleDigests sampleLateFill) 7).map
        (fun intent => (intent.size, intent.limitPrice)) =
        [(⟨10 ^ 19, -18⟩, ⟨5 * 10 ^ 17, -18⟩)] := by decide +kernel
    have hmap := congrArg (List.map fun pair : Decimal × Decimal => pair.1.toRat * pair.2.toRat)
      hopen
    rw [List.map_map] at hmap
    have hamounts : (openIntents (ledgerAfter sampleDigests sampleLateFill) 7).map amount = [5] :=
      Eq.trans hmap (by norm_num [Decimal.toRat])
    simp only [hsnapshot, Except.toOption, Option.map_some, Option.some.injEq] at hzero
    unfold openExposure at hle
    rw [hamounts, hzero] at hle
    norm_num [Decimal.toRat] at hle

end BpEngine.FastLive
