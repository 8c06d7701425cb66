import BpEngine.FastLive.LedgerRun

/-!
# What holds of every reachable ledger

`WellFormed` is the invariant of the live ledger under any sequence of operations, in any order of
their observation times: identifiers are unique, every reconciliation row has a usable account and
names the earlier row it carries over, every event belongs to an intent.

* `wellFormed_apply` is the step, `wellFormed_ledgerAfter` the run.
* `carried_row_is_new`: a row that carries the clean account over cannot be in the ledger already.
* `intents_run`, `rows_exec`, `rows_derived`: how the tables grow.
* `accountSnapshot_latest`: the snapshot on a well-formed ledger, from its latest row.
-/

namespace BpEngine.FastLive

open BpEngine.LiveReadiness BpEngine.Table

/-- A stored account that can be carried over. -/
def Usable (account : AccountEvidence) : Prop :=
  0 ≤ account.totalExposureUsd ∧ 0 ≤ account.consecutiveLosses

/-- The invariant of the reconciliation table. -/
structure RowsWellFormed (rows : List ReconciliationRow) : Prop where
  ids : (rows.map (·.reconciliationId)).Nodup
  counts : ∀ row ∈ rows, row.payload.unresolvedCount = row.payload.criticalCount ∧
    0 ≤ row.payload.criticalCount
  account : ∀ row ∈ rows, ∃ account, row.payload.evidence.accountSnapshot = some account ∧
    Usable account
  carried : ∀ (i : ℕ) (row : ReconciliationRow), rows[i]? = some row →
    ∀ id, row.payload.evidence.accountSnapshotCarriedFrom = some id →
      ∃ (j : ℕ) (earlier : ReconciliationRow), j < i ∧ rows[j]? = some earlier ∧
        earlier.reconciliationId = id

/-- The invariant of the live ledger. -/
structure WellFormed (ledger : Ledger) : Prop where
  rows : RowsWellFormed ledger.reconciliations
  intentIds : (ledger.intents.map (·.intentId)).Nodup
  intent : ∀ intent ∈ ledger.intents, intent.intentId ≠ "" ∧
    strip intent.intentId = intent.intentId ∧ intent.payload.policyVersion = canaryPolicyVersion
  amounts : ∀ intent ∈ ledger.intents, 0 < intent.size ∧ 0 < intent.limitPrice
  events : ∀ event ∈ ledger.events, ∃ intent ∈ ledger.intents, intent.intentId = event.intentId

theorem RowsWellFormed.nil : RowsWellFormed [] :=
  ⟨List.nodup_nil, by simp, by simp, by simp⟩

/-- A write by key keeps the table well-formed when the row's account is usable and the row it
carries over is in the table. -/
theorem RowsWellFormed.write {D : Digests} {before after : List ReconciliationRow}
    {payload : ReconciliationPayload} (h : RowsWellFormed before)
    (hw : RowWrite D before payload after) (hcounts : payload.unresolvedCount = payload.criticalCount)
    (hcritical : 0 ≤ payload.criticalCount)
    (haccount : ∃ account, payload.evidence.accountSnapshot = some account ∧ Usable account)
    (hcarried : ∀ id, payload.evidence.accountSnapshotCarriedFrom = some id →
      ∃ row ∈ before, row.reconciliationId = id) : RowsWellFormed after := by
  cases hw with
  | existing row hmem hcontent => exact h
  | created hfresh =>
    refine ⟨?_, ?_, ?_, ?_⟩
    · rw [List.map_append, List.nodup_append]
      refine ⟨h.ids, by simp, fun a ha b hb hab => ?_⟩
      obtain ⟨row, hrow, rfl⟩ := List.mem_map.mp ha
      rw [List.map_cons, List.map_nil, List.mem_singleton] at hb
      exact hfresh row hrow (hab.trans hb)
    · intro row hrow
      rcases List.mem_append.mp hrow with hrow | hrow
      · exact h.counts row hrow
      · rw [List.mem_singleton.mp hrow]
        exact ⟨hcounts, hcritical⟩
    · intro row hrow
      rcases List.mem_append.mp hrow with hrow | hrow
      · exact h.account row hrow
      · rw [List.mem_singleton.mp hrow]
        exact haccount
    · intro i row hi id hid
      rcases lt_or_ge i before.length with hlt | hge
      · rw [List.getElem?_append_left hlt] at hi
        obtain ⟨j, earlier, hj, hget, heq⟩ := h.carried i row hi id hid
        exact ⟨j, earlier, hj, by rwa [List.getElem?_append_left (hj.trans hlt)], heq⟩
      · rw [List.getElem?_append_right hge, List.getElem?_singleton] at hi
        split_ifs at hi with h0
        cases hi
        obtain ⟨earlier, hmem, heq⟩ := hcarried id hid
        obtain ⟨j, hj, hget⟩ := List.mem_iff_getElem.mp hmem
        refine ⟨j, earlier, by omega, ?_, heq⟩
        rw [List.getElem?_append_left hj, List.getElem?_eq_getElem hj, hget]

theorem isClean_iff {row : ReconciliationRow} :
    isClean row = true ↔ row.payload.unresolvedCount = 0 ∧ row.payload.criticalCount = 0 := by
  simp [isClean]

theorem mem_rowsUpTo {ledger : Ledger} {t : Timestamp} {row : ReconciliationRow} :
    row ∈ rowsUpTo ledger t ↔ row ∈ ledger.reconciliations ∧ row.payload.observedAt ≤ t := by
  simp [rowsUpTo]

theorem usableAccount_eq {row : ReconciliationRow} {account : AccountEvidence}
    (hclean : isClean row = true) (hacc : row.payload.evidence.accountSnapshot = some account)
    (hu : Usable account) : usableAccount row = some account := by
  simp [usableAccount, hclean, hacc, Option.filter, hu.1, hu.2]

/-- The clean account is the one of the latest row, which is clean. -/
theorem carryCleanAccount_spec {ledger : Ledger} {t : Timestamp} {carriedFrom : String}
    {account : AccountEvidence} (hwf : RowsWellFormed ledger.reconciliations)
    (h : carryCleanAccount ledger t = .ok (carriedFrom, account)) :
    ∃ latest older, rowsUpTo ledger t = latest :: older ∧ isClean latest = true ∧
      latest.reconciliationId = carriedFrom ∧
      ∃ carried, latest.payload.evidence.accountSnapshot = some carried ∧
        account = { carried with
          realizedDailyPnlUsd := (dailyPnlForObserved carried.realizedDailyPnlUsd
            latest.payload.observedAt t).formatF } := by
  unfold carryCleanAccount latestCleanAccount at h
  cases hrows : rowsUpTo ledger t with
  | nil =>
    simp only [hrows, ok_bind] at h
    exact absurd h raise_ne_ok
  | cons latest older =>
    simp only [hrows] at h
    split_ifs at h with hclean
    · have hmem : latest ∈ ledger.reconciliations :=
        (mem_rowsUpTo.mp (hrows ▸ List.mem_cons_self)).1
      obtain ⟨carried, hacc, hu⟩ := hwf.account latest hmem
      have husable := usableAccount_eq hclean hacc hu
      simp only [List.findSome?_cons, husable, Option.map_some, ok_bind] at h
      cases hfind : ledger.reconciliations.find?
          (·.reconciliationId == latest.reconciliationId) with
      | none =>
        rw [hfind] at h
        exact absurd h raise_ne_ok
      | some row =>
        rw [hfind] at h
        cases h
        have hrow : row = latest := by
          have hid : row.reconciliationId = latest.reconciliationId := by
            simpa using List.find?_some hfind
          exact List.inj_on_of_nodup_map hwf.ids (List.mem_of_find?_eq_some hfind) hmem hid
        exact ⟨latest, older, rfl, hclean, rfl, carried, hacc, by rw [hrow]⟩
    · simp only [raise, error_bind] at h
      exact absurd h (by simp)

/-- **A row that carries the clean account over is new**: no row at the same instant names the
latest row as the one it carries over. -/
theorem carried_row_is_new {ledger : Ledger} {t : Timestamp} {carriedFrom : String}
    {account : AccountEvidence} (hwf : RowsWellFormed ledger.reconciliations)
    (h : carryCleanAccount ledger t = .ok (carriedFrom, account)) {row : ReconciliationRow}
    (hrow : row ∈ ledger.reconciliations) (ht : row.payload.observedAt = t) :
    row.payload.evidence.accountSnapshotCarriedFrom ≠ some carriedFrom := by
  intro hcarried
  obtain ⟨latest, older, hrows, -, rfl, -⟩ := carryCleanAccount_spec hwf h
  have hlatest : latest.payload.observedAt ≤ t :=
    (mem_rowsUpTo.mp (hrows ▸ List.mem_cons_self)).2
  obtain ⟨pre, post, hsplit, hpost⟩ := head_latestFirst_split _ hrows
  obtain ⟨l₁, l₂, hall, -, hl₂⟩ := List.filter_eq_append_iff.mp hsplit
  obtain ⟨m₁, m₂, rfl, -, -, hm₂⟩ := List.filter_eq_cons_iff.mp hl₂
  -- the row stands behind the latest one, so it would have to be older
  obtain ⟨i, hi, hget⟩ := List.mem_iff_getElem.mp hrow
  obtain ⟨j, earlier, hj, hearlier, hid⟩ :=
    hwf.carried i row (by rw [List.getElem?_eq_getElem hi, hget]) _ hcarried
  have hpos : ledger.reconciliations[(l₁ ++ m₁).length]? = some latest := by
    rw [hall, ← List.append_assoc]
    simp
  have hjlen : j = (l₁ ++ m₁).length := by
    have hlt : j < (ledger.reconciliations.map (·.reconciliationId)).length := by
      rw [List.length_map]
      omega
    refine (List.getElem?_inj hlt hwf.ids).mp ?_
    rw [List.getElem?_map, List.getElem?_map, hearlier, hpos]
    simp [hid]
  have hmem : row ∈ m₂ := by
    have hget' : ledger.reconciliations[i]? = some row := by
      rw [List.getElem?_eq_getElem hi, hget]
    rw [hall, ← List.append_assoc, List.getElem?_append_right (by omega)] at hget'
    obtain ⟨k, hk⟩ : ∃ k, i - (l₁ ++ m₁).length = k + 1 := ⟨i - (l₁ ++ m₁).length - 1, by omega⟩
    rw [hk, List.getElem?_cons_succ] at hget'
    exact List.mem_of_getElem? hget'
  have hlt := hpost row (by rw [← hm₂]; simp [hmem, ht])
  rw [ht] at hlt
  exact absurd hlatest (not_le.mpr hlt)

/-- The pending account is the one of a row of the intent, with nonnegative amounts. -/
theorem carryPendingAccount_spec {ledger : Ledger} {intentId : String} {t : Timestamp}
    {carriedFrom : String} {account : AccountEvidence}
    (h : carryPendingAccount ledger intentId t = .ok (carriedFrom, account)) :
    ∃ row carried, (rowsUpTo ledger t).find? (isPendingOf intentId) = some row ∧
      row.reconciliationId = carriedFrom ∧
      row.payload.evidence.accountSnapshot = some carried ∧ Usable carried ∧
      account = ⟨carried.totalExposureUsd.formatF,
        (dailyPnlForObserved carried.realizedDailyPnlUsd row.payload.observedAt t).formatF,
        carried.consecutiveLosses⟩ := by
  unfold carryPendingAccount at h
  cases hfind : (rowsUpTo ledger t).find? (isPendingOf intentId) with
  | none =>
    simp only [hfind] at h
    exact absurd h raise_ne_ok
  | some row =>
    simp only [hfind] at h
    cases hacc : row.payload.evidence.accountSnapshot with
    | none =>
      simp only [hacc] at h
      exact absurd h raise_ne_ok
    | some carried =>
      simp only [hacc] at h
      split_ifs at h with hneg
      · exact absurd h raise_ne_ok
      · cases h
        rw [not_or] at hneg
        exact ⟨row, carried, rfl, rfl, hacc,
          ⟨not_not.mp hneg.1, not_lt.mp hneg.2⟩, rfl⟩

/-! ## The step -/

theorem formatF_toRat (d : Decimal) : d.formatF.toRat = d.toRat := by
  unfold Decimal.formatF
  split_ifs with h
  · have := Decimal.toRat_align (d := d) (e := 0) (le_of_lt h)
    simpa [Decimal.toRat] using this
  · rfl

theorem formatF_nonneg {d : Decimal} (h : 0 ≤ d) : 0 ≤ d.formatF := by
  rw [Decimal.le_iff] at h ⊢
  rwa [formatF_toRat]

theorem carryCleanAccount_usable {ledger : Ledger} {t : Timestamp} {carriedFrom : String}
    {account : AccountEvidence} (hwf : RowsWellFormed ledger.reconciliations)
    (h : carryCleanAccount ledger t = .ok (carriedFrom, account)) :
    Usable account ∧ ∃ row ∈ ledger.reconciliations, row.reconciliationId = carriedFrom := by
  obtain ⟨latest, older, hrows, -, hid, carried, hacc, rfl⟩ := carryCleanAccount_spec hwf h
  have hmem := (mem_rowsUpTo.mp (hrows ▸ List.mem_cons_self)).1
  obtain ⟨carried', hacc', hu⟩ := hwf.account latest hmem
  cases hacc.symm.trans hacc'
  exact ⟨hu, latest, hmem, hid⟩

theorem ResultStep.wellFormed {D : Digests} {before after : Ledger} {result : FastLiveResult}
    {t : Timestamp} {intentId : String} {type : EventType} {count : ℤ}
    {evidence : ReconciliationEvidence} (h : WellFormed before)
    (hs : ResultStep D before after result t intentId type count evidence) : WellFormed after := by
  obtain ⟨carriedFrom, account, hcarry, hacc, hfrom⟩ := hs.carried
  obtain ⟨husable, hrow⟩ := carryCleanAccount_usable h.rows hcarry
  have hcount : 0 ≤ count := by
    rw [hs.count_eq]
    split_ifs <;> decide
  refine ⟨h.rows.write hs.rows rfl hcount ⟨account, hacc, husable⟩ ?_, ?_, ?_, ?_, ?_⟩
  · intro id hid
    cases hfrom.symm.trans hid
    exact hrow
  · rw [hs.intents]
    exact h.intentIds
  · rw [hs.intents]
    exact h.intent
  · rw [hs.intents]
    exact h.amounts
  · obtain ⟨extra, hev, hextra⟩ := hs.events.appended
    rw [hev, hs.intents]
    intro e he
    rcases List.mem_append.mp he with he | he
    · exact h.events e he
    · obtain ⟨intent, hmem, hid⟩ := hs.intent
      exact ⟨intent, hmem, hid.trans (hextra e he).1.symm⟩

theorem OfficialStep.wellFormed {D : Digests} {before after : Ledger} {result : FastLiveResult}
    {official : OfficialState} {t : Timestamp} {carriedFrom : String} {account : AccountEvidence}
    (h : WellFormed before)
    (hs : OfficialStep D before after result official t carriedFrom account) : WellFormed after := by
  obtain ⟨row, carried, hfind, hid, hacc, hu, rfl⟩ := carryPendingAccount_spec hs.carried
  have hcount : 0 ≤ official.openCount := by
    unfold OfficialState.openCount
    split_ifs <;> decide
  have hnonneg : 0 ≤ (if official.filledShares.isZero then 0 else official.filledNotional) := by
    split_ifs
    · exact Decimal.le_iff.mpr le_rfl
    · exact hs.filledNotional_nonneg
  refine ⟨h.rows.write hs.rows rfl hcount ⟨_, rfl, ?_, hu.2⟩ ?_, ?_, ?_, ?_, ?_⟩
  · simpa only [decide_eq_true_eq] using formatF_nonneg hnonneg
  · intro id hid'
    cases hid'
    exact ⟨row, (mem_rowsUpTo.mp (List.mem_of_find?_eq_some hfind)).1, hid⟩
  · rw [hs.intents]
    exact h.intentIds
  · rw [hs.intents]
    exact h.intent
  · rw [hs.intents]
    exact h.amounts
  · rw [hs.events, hs.intents]
    exact h.events

theorem SettleStep.wellFormed {D : Digests} {before after : Ledger} {t : Timestamp}
    {intentId : String} {fill : ReconciliationRow} {account : AccountEvidence} {pnl : Decimal}
    {evidence : ReconciliationEvidence} (h : WellFormed before)
    (hs : SettleStep D before after t intentId fill account pnl evidence) : WellFormed after := by
  obtain ⟨carried, hacc, hu⟩ := h.rows.account fill hs.fill_mem
  cases hs.fill_account.symm.trans hacc
  refine ⟨h.rows.write hs.rows rfl le_rfl ⟨_, hs.account_evidence, ?_, ?_⟩ ?_, ?_, ?_, ?_, ?_⟩
  · exact Decimal.le_iff.mpr le_rfl
  · have hlosses := hu.2
    change 0 ≤ if pnl < 0 then account.consecutiveLosses + 1 else 0
    split_ifs
    · omega
    · exact le_rfl
  · intro id hid
    cases hs.carried.symm.trans hid
    exact ⟨fill, hs.fill_mem, rfl⟩
  · rw [hs.intents]
    exact h.intentIds
  · rw [hs.intents]
    exact h.intent
  · rw [hs.intents]
    exact h.amounts
  · obtain ⟨extra, hev, hextra⟩ := hs.events
    rw [hev, hs.intents]
    intro e he
    rcases List.mem_append.mp he with he | he
    · exact h.events e he
    · obtain ⟨intent, hmem, hid⟩ := hs.intent
      exact ⟨intent, hmem, hid.trans (hextra e he).1.symm⟩

theorem Baseline.wellFormed {D : Digests} {before after : Ledger} {t : Timestamp}
    {evidence : ReconciliationEvidence} (h : WellFormed before)
    (hb : Baseline D before after t evidence) : WellFormed after := by
  have hw : RowWrite D before.reconciliations ⟨t, 0, 0, evidence⟩ after.reconciliations := by
    rw [hb.row, hb.no_rows]
    exact .created (by simp)
  refine ⟨h.rows.write hw rfl le_rfl ⟨_, hb.account, ?_, le_rfl⟩ ?_, ?_, ?_, ?_, ?_⟩
  · exact Decimal.le_iff.mpr le_rfl
  · intro id hid
    cases hb.carried.symm.trans hid
  all_goals rw [hb.row]
  exacts [h.intentIds, h.intent, h.amounts, h.events]

theorem PrepareStep.wellFormed {D : Digests} {before after middle : Ledger} {t : Timestamp}
    (h : WellFormed before) (hs : PrepareStep D before after t middle) : WellFormed after := by
  have hm : WellFormed middle := by
    rcases hs.baseline with rfl | ⟨evidence, hb⟩
    · exact h
    · exact hb.wellFormed h
  rcases hs.intents with heq | ⟨new, heq, hnew⟩
  · refine ⟨hs.rows ▸ hm.rows, heq ▸ hm.intentIds, heq ▸ hm.intent, heq ▸ hm.amounts, ?_⟩
    rw [hs.events, heq]
    exact hm.events
  · refine ⟨hs.rows ▸ hm.rows, ?_, ?_, ?_, ?_⟩
    · rw [heq, List.map_append, List.nodup_append]
      refine ⟨hm.intentIds, by simp, fun a ha b hb hab => ?_⟩
      obtain ⟨intent, hmem, rfl⟩ := List.mem_map.mp ha
      rw [List.map_cons, List.map_nil, List.mem_singleton] at hb
      exact hnew.fresh intent hmem (hab.trans hb)
    · rw [heq]
      intro intent hmem
      rcases List.mem_append.mp hmem with hmem | hmem
      · exact hm.intent intent hmem
      · rw [List.mem_singleton.mp hmem]
        exact ⟨hnew.intentId_ne, hnew.strip_intentId, hnew.policyVersion⟩
    · rw [heq]
      intro intent hmem
      rcases List.mem_append.mp hmem with hmem | hmem
      · exact hm.amounts intent hmem
      · rw [List.mem_singleton.mp hmem]
        exact ⟨hnew.size_pos, hnew.limitPrice_pos⟩
    · rw [hs.events, heq]
      intro e he
      obtain ⟨intent, hmem, hid⟩ := hm.events e he
      exact ⟨intent, List.mem_append_left _ hmem, hid⟩

/-- **The step**: every operation keeps the ledger well-formed. -/
theorem wellFormed_apply {D : Digests} {ledger after : Ledger} {op : LedgerOp}
    (h : WellFormed ledger) (ha : apply D ledger op = .ok after) : WellFormed after := by
  have hclean : ∀ intent ∈ ledger.intents, strip intent.intentId = intent.intentId :=
    fun intent hmem => (h.intent intent hmem).2.1
  cases op with
  | prepare input =>
    obtain ⟨response, hr⟩ := map_fst_eq_ok.mp ha
    obtain ⟨middle, hs⟩ := prepare_cases hr
    exact hs.wellFormed h
  | result result t =>
    obtain ⟨response, hr⟩ := map_fst_eq_ok.mp ha
    rcases result_cases hclean hr with ⟨rfl, -⟩ | ⟨-, intentId, type, count, evidence, hs⟩
    · exact h
    · exact hs.wellFormed h
  | official result official t =>
    obtain ⟨response, hr⟩ := map_fst_eq_ok.mp ha
    obtain ⟨carriedFrom, account, hs⟩ := official_cases hr
    exact hs.wellFormed h
  | settle evaluations intentId t =>
    obtain ⟨response, hr⟩ := map_fst_eq_ok.mp ha
    rcases settle_cases hclean hr with rfl | ⟨fill, account, pnl, evidence, hs⟩
    · exact h
    · exact hs.wellFormed h

theorem wellFormed_exec {D : Digests} {ledger : Ledger} (op : LedgerOp) (h : WellFormed ledger) :
    WellFormed (exec D ledger op) := by
  rcases exec_cases D ledger op with heq | hok
  · rwa [heq]
  · exact wellFormed_apply h hok

theorem WellFormed.empty : WellFormed {} :=
  ⟨.nil, List.nodup_nil, by simp, by simp, by simp⟩

/-- **The run**: every reachable ledger is well-formed. -/
theorem wellFormed_ledgerAfter (D : Digests) (ops : List LedgerOp) :
    WellFormed (ledgerAfter D ops) :=
  Machine.run_invariant' (exec D) (fun _ op h => wellFormed_exec op h) .empty ops

/-! ## Growth -/

theorem PrepareStep.middle_intents {D : Digests} {before after middle : Ledger} {t : Timestamp}
    (hs : PrepareStep D before after t middle) : middle.intents = before.intents := by
  rcases hs.baseline with rfl | ⟨evidence, hb⟩
  · rfl
  · rw [hb.row]

/-- An operation appends at most one intent, submitted at the instant of the operation. -/
theorem intents_exec {D : Digests} {ledger : Ledger} (h : WellFormed ledger) (op : LedgerOp) :
    (exec D ledger op).intents = ledger.intents ∨
      ∃ new : IntentRow, new.payload.preSubmitAt = op.observedAt ∧
        (exec D ledger op).intents = ledger.intents ++ [new] := by
  have hclean : ∀ intent ∈ ledger.intents, strip intent.intentId = intent.intentId :=
    fun intent hmem => (h.intent intent hmem).2.1
  rcases exec_cases D ledger op with heq | ha
  · exact Or.inl (by rw [heq])
  generalize exec D ledger op = after at ha ⊢
  cases op with
  | prepare input =>
    obtain ⟨response, hr⟩ := map_fst_eq_ok.mp ha
    obtain ⟨middle, hs⟩ := prepare_cases hr
    rw [← hs.middle_intents]
    rcases hs.intents with heq | ⟨new, heq, hnew⟩
    · exact Or.inl heq
    · exact Or.inr ⟨new, hnew.preSubmitAt, heq⟩
  | result result t =>
    obtain ⟨response, hr⟩ := map_fst_eq_ok.mp ha
    rcases result_cases hclean hr with ⟨rfl, -⟩ | ⟨-, intentId, type, count, evidence, hs⟩
    · exact Or.inl rfl
    · exact Or.inl hs.intents
  | official result official t =>
    obtain ⟨response, hr⟩ := map_fst_eq_ok.mp ha
    obtain ⟨carriedFrom, account, hs⟩ := official_cases hr
    exact Or.inl hs.intents
  | settle evaluations intentId t =>
    obtain ⟨response, hr⟩ := map_fst_eq_ok.mp ha
    rcases settle_cases hclean hr with rfl | ⟨fill, account, pnl, evidence, hs⟩
    · exact Or.inl rfl
    · exact Or.inl hs.intents

/-- Intents are only ever appended. -/
theorem intents_run {D : Digests} {ledger : Ledger} (h : WellFormed ledger)
    (ops : List LedgerOp) :
    ∃ extra, (Machine.run (exec D) ledger ops).intents = ledger.intents ++ extra := by
  induction ops generalizing ledger with
  | nil => exact ⟨[], by simp⟩
  | cons op ops ih =>
    obtain ⟨more, hm⟩ := ih (wellFormed_exec (D := D) op h)
    rw [Machine.run_cons, hm]
    rcases intents_exec (D := D) h op with he | ⟨new, -, he⟩
    · exact ⟨more, by rw [he]⟩
    · exact ⟨new :: more, by rw [he, List.append_assoc, List.singleton_append]⟩

/-- An intent that was found is found in every later ledger. -/
theorem findIntent_run {D : Digests} {ledger : Ledger} (h : WellFormed ledger)
    (ops : List LedgerOp) {intentId : String} {intent : IntentRow}
    (hf : findIntent ledger intentId = .ok intent) :
    findIntent (Machine.run (exec D) ledger ops) intentId = .ok intent := by
  obtain ⟨extra, he⟩ := intents_run (D := D) h ops
  unfold findIntent at hf ⊢
  rw [he, List.find?_append]
  split at hf
  · exact absurd hf raise_ne_ok
  · next row hrow =>
    rw [hrow]
    exact hf

/-- An operation appends at most one reconciliation row, observed at the instant of the operation
and named by its content. -/
theorem rows_exec {D : Digests} {ledger : Ledger} (h : WellFormed ledger) (op : LedgerOp) :
    (exec D ledger op).reconciliations = ledger.reconciliations ∨
      ∃ payload : ReconciliationPayload, payload.observedAt = op.observedAt ∧
        (exec D ledger op).reconciliations =
          ledger.reconciliations ++ [⟨D.reconciliationId payload, payload⟩] := by
  have hclean : ∀ intent ∈ ledger.intents, strip intent.intentId = intent.intentId :=
    fun intent hmem => (h.intent intent hmem).2.1
  have hwrite : ∀ {payload : ReconciliationPayload} {after : List ReconciliationRow},
      payload.observedAt = op.observedAt → RowWrite D ledger.reconciliations payload after →
      after = ledger.reconciliations ∨ ∃ payload : ReconciliationPayload,
        payload.observedAt = op.observedAt ∧
          after = ledger.reconciliations ++ [⟨D.reconciliationId payload, payload⟩] := by
    intro payload after ht hw
    rcases hw.cases with ⟨heq, -⟩ | ⟨heq, -⟩
    · exact Or.inl heq
    · exact Or.inr ⟨payload, ht, heq⟩
  rcases exec_cases D ledger op with heq | ha
  · exact Or.inl (by rw [heq])
  generalize exec D ledger op = after at ha ⊢
  cases op with
  | prepare input =>
    obtain ⟨response, hr⟩ := map_fst_eq_ok.mp ha
    obtain ⟨middle, hs⟩ := prepare_cases hr
    rw [hs.rows]
    rcases hs.baseline with rfl | ⟨evidence, hb⟩
    · exact Or.inl rfl
    · refine Or.inr ⟨⟨input.observedAt, 0, 0, evidence⟩, rfl, ?_⟩
      rw [hb.row, hb.no_rows]
      rfl
  | result result t =>
    obtain ⟨response, hr⟩ := map_fst_eq_ok.mp ha
    rcases result_cases hclean hr with ⟨rfl, -⟩ | ⟨-, intentId, type, count, evidence, hs⟩
    · exact Or.inl rfl
    · exact hwrite rfl hs.rows
  | official result official t =>
    obtain ⟨response, hr⟩ := map_fst_eq_ok.mp ha
    obtain ⟨carriedFrom, account, hs⟩ := official_cases hr
    exact hwrite rfl hs.rows
  | settle evaluations intentId t =>
    obtain ⟨response, hr⟩ := map_fst_eq_ok.mp ha
    rcases settle_cases hclean hr with rfl | ⟨fill, account, pnl, evidence, hs⟩
    · exact Or.inl rfl
    · exact hwrite rfl hs.rows

/-- Every row of a reachable ledger is named by its content. -/
theorem rows_derived (D : Digests) (ops : List LedgerOp) :
    ∀ row ∈ (ledgerAfter D ops).reconciliations,
      row.reconciliationId = D.reconciliationId row.payload := by
  refine (Machine.run_invariant' (exec D) (J := fun ledger => WellFormed ledger ∧
    ∀ row ∈ ledger.reconciliations, row.reconciliationId = D.reconciliationId row.payload)
    ?_ ⟨.empty, by simp⟩ ops).2
  rintro ledger op ⟨hwf, hall⟩
  refine ⟨wellFormed_exec op hwf, fun row hrow => ?_⟩
  rcases rows_exec hwf op with heq | ⟨payload, -, heq⟩
  · exact hall row (heq ▸ hrow)
  · rw [heq] at hrow
    rcases List.mem_append.mp hrow with hrow | hrow
    · exact hall row hrow
    · rw [List.mem_singleton.mp hrow]

/-! ## The snapshot -/

/-- The scan over the intents in the snapshot at `t`. -/
def scanAt (ledger : Ledger) (t : Timestamp) : IntentScan :=
  (intentsUpTo ledger t).foldl
    (scanIntent (zeroFillIntents (rowsUpTo ledger t)) (terminalEvent ledger)) {}

theorem criticalCount_nonneg {latest : ReconciliationRow} (intents : List IntentRow)
    (scan : IntentScan) (h : 0 ≤ latest.payload.criticalCount) :
    0 ≤ criticalCount latest intents scan ∧
      latest.payload.criticalCount ≤ criticalCount latest intents scan := by
  unfold criticalCount
  dsimp only
  split_ifs <;> omega

/-- **The snapshot of a well-formed ledger with a row**: it exists, and its figures are those of
the latest row. -/
theorem accountSnapshot_latest {ledger : Ledger} {t : Timestamp} {latest : ReconciliationRow}
    {older : List ReconciliationRow} {account : AccountEvidence} (h : WellFormed ledger)
    (hrows : rowsUpTo ledger t = latest :: older)
    (hacc : latest.payload.evidence.accountSnapshot = some account) :
    ∃ snapshot, accountSnapshot ledger t = .ok snapshot ∧
      snapshot.totalExposureUsd = Decimal.max' 0
        (Decimal.max' (scanAt ledger t).exposure account.totalExposureUsd -
          settledNominal ledger (settledIntents (rowsUpTo ledger t))) ∧
      snapshot.realizedDailyPnlUsd =
        dailyPnlForObserved account.realizedDailyPnlUsd latest.payload.observedAt t ∧
      snapshot.consecutiveLosses = account.consecutiveLosses ∧
      snapshot.unresolvedCriticalReconciliation =
        criticalCount latest (intentsUpTo ledger t) (scanAt ledger t) := by
  have hmem := (mem_rowsUpTo.mp (hrows ▸ List.mem_cons_self)).1
  obtain ⟨account', hacc', hexposure, hlosses⟩ := h.rows.account latest hmem
  cases hacc.symm.trans hacc'
  have hcritical := (criticalCount_nonneg (intentsUpTo ledger t) (scanAt ledger t)
    (h.rows.counts latest hmem).2).1
  have hsafe : ∀ d : Decimal, safeNonnegative (some account.totalExposureUsd) d =
      account.totalExposureUsd :=
    fun d => if_neg (by rw [Decimal.lt_iff_not_le, not_not]; exact hexposure)
  have hmax : ∀ d : Decimal, 0 ≤ Decimal.max' d account.totalExposureUsd := by
    intro d
    rw [Decimal.le_iff, Decimal.toRat_max'] at *
    exact le_max_of_le_right hexposure
  have hzero : ∀ d : Decimal, 0 ≤ Decimal.max' 0 d := by
    intro d
    rw [Decimal.le_iff, Decimal.toRat_max', Decimal.toRat_zero]
    exact le_max_left _ _
  have hbase : baseAccountSnapshot ledger t (rowsUpTo ledger t) =
      .ok ⟨Decimal.max' (scanAt ledger t).exposure account.totalExposureUsd,
        account.realizedDailyPnlUsd, account.consecutiveLosses, (scanAt ledger t).lastOrderAt,
        criticalCount latest (intentsUpTo ledger t) (scanAt ledger t), hmax _, hlosses,
        hcritical⟩ := by
    unfold baseAccountSnapshot
    rw [hrows]
    simp only [hacc, Option.map_some, hsafe, Option.getD_some, Option.filter, hlosses,
      decide_true, if_true]
    refine LiveAccountSnapshot.create_eq_ok.mpr ⟨?_, rfl, rfl, ?_, ?_⟩
    all_goals simp only [scanAt, hrows]
  refine ⟨⟨Decimal.max' 0 (Decimal.max' (scanAt ledger t).exposure account.totalExposureUsd -
      settledNominal ledger (settledIntents (rowsUpTo ledger t))),
    dailyPnlForObserved account.realizedDailyPnlUsd latest.payload.observedAt t,
    account.consecutiveLosses, (scanAt ledger t).lastOrderAt,
    criticalCount latest (intentsUpTo ledger t) (scanAt ledger t), hzero _, hlosses, hcritical⟩,
    ?_, rfl, rfl, rfl, rfl⟩
  unfold accountSnapshot
  dsimp only
  rw [hbase, ok_bind]
  exact LiveAccountSnapshot.create_eq_ok.mpr ⟨rfl, by rw [hrows], rfl, rfl, rfl⟩

end BpEngine.FastLive
