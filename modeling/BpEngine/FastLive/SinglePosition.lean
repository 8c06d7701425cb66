import BpEngine.FastLive.Redelivery
import BpEngine.FastLive.Resolution

/-!
# At most one open position

When a preparation creates an intent, which earlier intents are resolved.

* `Guarded` is the invariant: an intent with a terminal event is resolved, or the row inserted last
  is critical and blocks every preparation.
* `ClosesOnlyItself` is the condition on a step: a zero-fill or settlement row, which is clean, is
  written only when it leaves no other intent open behind it.
* `guarded_exec` is the step, `guarded_ledgerAfter` the run, and `prepared_after_resolution` the
  result for the next preparation.
-/

namespace BpEngine.FastLive

open BpEngine.LiveReadiness BpEngine.Table

/-! ## The condition and the invariant -/

/-- Every other intent is resolved or still waits for its result. -/
def OthersDone (ledger : Ledger) (intentId : String) : Prop :=
  ∀ intent ∈ ledger.intents, intent.intentId ≠ intentId →
    Resolved ledger intent.intentId ∨ terminalEvent ledger intent.intentId = none

instance (ledger : Ledger) (intentId : String) : Decidable (OthersDone ledger intentId) := by
  unfold OthersDone; infer_instance

/-- A step that writes a zero-fill or settlement row does so when every other intent is resolved or
still waits for its result. -/
def ClosesOnlyItself (D : Digests) (ledger : Ledger) (op : LedgerOp) : Prop :=
  match op with
  | .prepare _ => True
  | .result _ _ => True
  | .official result official _ =>
    official.filledShares.isZero → exec D ledger op ≠ ledger →
      OthersDone ledger (orEmpty result.intentId)
  | .settle _ intentId _ => exec D ledger op ≠ ledger → OthersDone ledger (strip intentId)

instance (D : Digests) (ledger : Ledger) (op : LedgerOp) :
    Decidable (ClosesOnlyItself D ledger op) :=
  match op with
  | .prepare _ => inferInstanceAs (Decidable True)
  | .result _ _ => inferInstanceAs (Decidable True)
  | .official _ _ _ => inferInstanceAs (Decidable (_ → _ → _))
  | .settle _ _ _ => inferInstanceAs (Decidable (_ → _))

/-- An intent with a terminal event is resolved, or the row inserted last is critical. -/
def Guarded (ledger : Ledger) : Prop :=
  ∀ intent ∈ ledger.intents, terminalEvent ledger intent.intentId ≠ none →
    Resolved ledger intent.intentId ∨
      ∃ row ∈ ledger.reconciliations.getLast?, 0 < row.payload.criticalCount

/-! ## The step -/

section Step

variable {D : Digests} {before after : Ledger}

/-- A clean last row leaves no intent open that has a terminal event. -/
theorem Guarded.resolved (h : Guarded before) {row : ReconciliationRow}
    (hlast : before.reconciliations.getLast? = some row) (hclean : row.payload.criticalCount = 0)
    {intent : IntentRow} (hmem : intent ∈ before.intents)
    (hevent : terminalEvent before intent.intentId ≠ none) : Resolved before intent.intentId := by
  rcases h intent hmem hevent with hr | ⟨last, hin, hcritical⟩
  · exact hr
  · rw [hlast, Option.mem_some_iff] at hin
    subst hin
    omega

theorem last_mem {rows rows' : List ReconciliationRow} {row : ReconciliationRow}
    (h : rows' = rows ++ [row]) : row ∈ rows' := by
  rw [h]
  exact List.mem_append_right _ (List.mem_singleton_self row)

theorem guarded_of_critical {rows : List ReconciliationRow} {row : ReconciliationRow}
    (hrows : after.reconciliations = rows ++ [row]) (hcritical : 0 < row.payload.criticalCount) :
    Guarded after := by
  intro intent _ _
  exact Or.inr ⟨row, by simp [hrows], hcritical⟩

theorem ResultStep.guarded {result : FastLiveResult} {t : Timestamp} {intentId : String}
    {type : EventType} {count : ℤ} {evidence : ReconciliationEvidence} (hwf : WellFormed before)
    (h : Guarded before) (hhead : (rowsUpTo before t).head? = before.reconciliations.getLast?)
    (hs : ResultStep D before after result t intentId type count evidence) : Guarded after := by
  have hrows := hs.row_appended hwf.rows
  by_cases hopen : type = .accepted ∨ type = .submissionUnknown
  · refine guarded_of_critical hrows ?_
    simp [hs.count_eq, hopen]
  -- the row carries the clean account over, so the last row is clean
  obtain ⟨carriedFrom, account, hcarry, -⟩ := hs.carried
  obtain ⟨latest, older, hlatest, hclean, -⟩ := carryCleanAccount_spec hwf.rows hcarry
  have hlast : before.reconciliations.getLast? = some latest := by rw [← hhead, hlatest]; rfl
  have hresolved : ∀ {intent : IntentRow}, intent ∈ before.intents →
      terminalEvent before intent.intentId ≠ none → Resolved before intent.intentId :=
    fun hmem hevent => h.resolved hlast (isClean_iff.mp hclean).2 hmem hevent
  have hsub : ∀ row ∈ before.reconciliations, row ∈ after.reconciliations := by
    intro row hrow
    rw [hrows]
    exact List.mem_append_left _ hrow
  intro intent hmem hevent
  rw [hs.intents] at hmem
  refine Or.inl ?_
  by_cases hid : intent.intentId = intentId
  · rcases hs.events.terminalEvent_self hs.terminal with hnow | ⟨hsame, hsome⟩
    · refine Or.inl ?_
      rw [← hid] at hnow
      unfold RuledOut
      rw [hnow]
      have hterminal := hs.terminal
      cases type <;> simp_all [EventType.isTerminal, EventType.isSubmissionAttempt]
    · rw [← hid] at hsame hsome
      exact (hresolved hmem hsome).mono hsub hsame
  · have hsame := hs.events.terminalEvent_ne hid
    rw [hsame] at hevent
    exact (hresolved hmem hevent).mono hsub hsame

/-- A clean row that resolves its own intent keeps the invariant when the others are done. -/
theorem guarded_of_others {intentId : String} (hothers : OthersDone before intentId)
    (hintents : after.intents = before.intents)
    (hevents : ∀ id, terminalEvent after id = terminalEvent before id)
    (hsub : ∀ row ∈ before.reconciliations, row ∈ after.reconciliations)
    (hown : Resolved after intentId) : Guarded after := by
  intro intent hmem hevent
  rw [hintents] at hmem
  refine Or.inl ?_
  by_cases hid : intent.intentId = intentId
  · rwa [hid]
  · rcases hothers intent hmem hid with hr | hnone
    · exact hr.mono hsub (hevents _)
    · rw [hevents] at hevent
      exact absurd hnone hevent

theorem OfficialStep.guarded {result : FastLiveResult} {official : OfficialState} {t : Timestamp}
    {carriedFrom : String} {account : AccountEvidence} (h : Guarded before)
    (hcond : official.filledShares.isZero → after ≠ before →
      OthersDone before (orEmpty result.intentId))
    (hs : OfficialStep D before after result official t carriedFrom account) : Guarded after := by
  have hterminal : ∀ id, terminalEvent after id = terminalEvent before id := by
    intro id
    unfold terminalEvent
    rw [hs.events]
  rcases hs.rows.cases with ⟨hrows, -⟩ | ⟨hrows, -⟩
  · intro intent hmem hevent
    rw [hs.intents] at hmem
    rw [hterminal] at hevent
    rw [hrows]
    exact (h intent hmem hevent).imp (fun hr => hr.mono (by simp [hrows]) (hterminal _)) id
  · by_cases hzero : official.filledShares.isZero
    · have hne : after ≠ before := by
        intro heq
        rw [heq] at hrows
        simp at hrows
      refine guarded_of_others (hcond hzero hne) hs.intents hterminal ?_ ?_
      · intro row hrow
        rw [hrows]
        exact List.mem_append_left _ hrow
      · refine Or.inr (Or.inl ⟨_, last_mem hrows, ?_⟩)
        simp [isZeroFillOf, officialEvidence, hzero]
    · refine guarded_of_critical hrows ?_
      simp [OfficialState.openCount, hzero]

theorem SettleStep.guarded {t : Timestamp} {intentId : String} {fill : ReconciliationRow}
    {account : AccountEvidence} {pnl : Decimal} {evidence : ReconciliationEvidence}
    (hcond : after ≠ before → OthersDone before intentId)
    (hs : SettleStep D before after t intentId fill account pnl evidence) : Guarded after := by
  have hterminal : ∀ id, terminalEvent after id = terminalEvent before id := by
    intro id
    obtain ⟨extra, hevents, hextra⟩ := hs.events
    exact terminalEvent_append hevents fun e he _ => (hextra e he).2
  have hrows := hs.row_appended
  have hne : after ≠ before := by
    intro heq
    rw [heq] at hrows
    simp at hrows
  refine guarded_of_others (hcond hne) hs.intents hterminal ?_ ?_
  · intro row hrow
    rw [hrows]
    exact List.mem_append_left _ hrow
  · refine Or.inr (Or.inr ⟨_, last_mem hrows, ?_⟩)
    simp [isSettlementOf, hs.intent_evidence, hs.kind]

theorem PrepareStep.guarded {t : Timestamp} {middle : Ledger} (hwf : WellFormed before)
    (h : Guarded before) (hs : PrepareStep D before after t middle) : Guarded after := by
  have hevents : after.events = before.events := by
    rcases hs.baseline with rfl | ⟨evidence, hb⟩
    · exact hs.events
    · rw [hs.events, hb.row]
  have hterminal : ∀ id, terminalEvent after id = terminalEvent before id := by
    intro id
    unfold terminalEvent
    rw [hevents]
  have hold : ∀ intent ∈ before.intents, terminalEvent after intent.intentId ≠ none →
      Resolved after intent.intentId ∨
        ∃ row ∈ after.reconciliations.getLast?, 0 < row.payload.criticalCount := by
    intro intent hmem hevent
    rcases hs.baseline with rfl | ⟨evidence, hb⟩
    · rw [hterminal] at hevent
      rw [hs.rows]
      exact (h intent hmem hevent).imp (fun hr => hr.mono (by simp [hs.rows]) (hterminal _)) id
    · rw [hb.no_intents] at hmem
      cases hmem
  intro intent hmem hevent
  rcases hs.intents with heq | ⟨new, heq, hnew⟩
  · rw [heq, hs.middle_intents] at hmem
    exact hold intent hmem hevent
  · rw [heq, hs.middle_intents] at hmem
    rcases List.mem_append.mp hmem with hmem | hmem
    · exact hold intent hmem hevent
    · rw [List.mem_singleton.mp hmem] at hevent
      refine absurd (terminalEvent_eq_none fun e he hid => ?_) hevent
      rw [hevents] at he
      obtain ⟨owner, howner, hid'⟩ := hwf.events e he
      refine hnew.fresh owner ?_ (hid'.trans hid)
      rwa [hs.middle_intents]

/-- **The step**: an operation at an instant the rows are ordered up to keeps the invariant. -/
theorem guarded_exec {ledger : Ledger} {op : LedgerOp} (hwf : WellFormed ledger)
    (h : Guarded ledger)
    (hhead : commits D ledger op = true →
      (rowsUpTo ledger op.observedAt).head? = ledger.reconciliations.getLast?)
    (hcond : ClosesOnlyItself D ledger op) : Guarded (exec D ledger op) := by
  have hclean : ∀ intent ∈ ledger.intents, strip intent.intentId = intent.intentId :=
    fun intent hmem => (hwf.intent intent hmem).2.1
  rcases exec_cases D ledger op with heq | ha
  · rwa [heq]
  have hcommit : commits D ledger op = true := by simp [commits, ha, Except.toOption]
  cases op with
  | prepare input =>
    obtain ⟨response, hr⟩ := map_fst_eq_ok.mp ha
    obtain ⟨middle, hs⟩ := prepare_cases hr
    exact hs.guarded hwf h
  | result result t =>
    obtain ⟨response, hr⟩ := map_fst_eq_ok.mp ha
    rcases result_cases hclean hr with ⟨heq, -⟩ | ⟨-, intentId, type, count, evidence, hs⟩
    · rwa [heq]
    · exact hs.guarded hwf h (hhead hcommit)
  | official result official t =>
    obtain ⟨response, hr⟩ := map_fst_eq_ok.mp ha
    obtain ⟨carriedFrom, account, hs⟩ := official_cases hr
    exact hs.guarded h hcond
  | settle evaluations intentId t =>
    obtain ⟨response, hr⟩ := map_fst_eq_ok.mp ha
    rcases settle_cases hclean hr with heq | ⟨fill, account, pnl, evidence, hs⟩
    · rwa [heq]
    · exact hs.guarded hcond

end Step

/-! ## The run -/

/-- What the order of the commits says about the ledger before the next one. -/
theorem ordered_before {D : Digests} {ops : List LedgerOp} {op : LedgerOp}
    (horder : (commitTimes D (ops ++ [op])).Pairwise (· ≤ ·))
    (hcommit : commits D (ledgerAfter D ops) op = true) :
    (rowsUpTo (ledgerAfter D ops) op.observedAt).head? =
        (ledgerAfter D ops).reconciliations.getLast? ∧
      intentsUpTo (ledgerAfter D ops) op.observedAt = (ledgerAfter D ops).intents := by
  rw [commitTimes_append, hcommit, if_pos rfl, List.pairwise_append] at horder
  obtain ⟨hpast, -, hnow⟩ := horder
  have hsub := rows_sublist_commitTimes D ops
  refine ⟨rowsUpTo_of_ordered (hpast.sublist hsub) fun row hrow => ?_, ?_⟩
  · exact hnow _ (hsub.subset (List.mem_map_of_mem hrow)) _ (List.mem_singleton_self _)
  · unfold intentsUpTo
    rw [List.filter_eq_self]
    intro intent hmem
    have hle := hnow _ (preSubmitAt_mem_commitTimes D ops intent hmem) _ (List.mem_singleton_self _)
    simpa using hle

/-- **The run**: the invariant holds after operations in order that close only their own intent. -/
theorem guarded_ledgerAfter {D : Digests} {ops : List LedgerOp}
    (horder : (commitTimes D ops).Pairwise (· ≤ ·))
    (hcloses : Machine.Along (exec D) (ClosesOnlyItself D) {} ops) :
    Guarded (ledgerAfter D ops) := by
  induction ops using List.reverseRecOn with
  | nil =>
    intro intent hmem
    cases hmem
  | append_singleton ops op ih =>
    rw [Machine.along_append] at hcloses
    have hpast : (commitTimes D ops).Pairwise (· ≤ ·) := by
      rw [commitTimes_append, List.pairwise_append] at horder
      exact horder.1
    rw [ledgerAfter_append]
    exact guarded_exec (wellFormed_ledgerAfter D ops) (ih hpast hcloses.1)
      (fun hcommit => (ordered_before horder hcommit).1) hcloses.2.1

/-! ## The next preparation -/

/-- A snapshot without a critical reconciliation was derived from a row that is not critical, and
the scan has seen no unresolved intent. -/
theorem accountSnapshot_critical {ledger : Ledger} {t : Timestamp} {account : LiveAccountSnapshot}
    (hwf : WellFormed ledger) (h : accountSnapshot ledger t = .ok account)
    (hcritical : account.unresolvedCriticalReconciliation = 0) :
    ∃ latest, (rowsUpTo ledger t).head? = some latest ∧ latest.payload.criticalCount = 0 ∧
      (scanAt ledger t).unresolvedIntentSeen = false := by
  cases hrows : rowsUpTo ledger t with
  | nil =>
    unfold accountSnapshot at h
    simp only [hrows, baseAccountSnapshot, bind_eq_ok] at h
    obtain ⟨base, hbase, hsnapshot⟩ := h
    obtain ⟨-, -, -, -, hone⟩ := LiveAccountSnapshot.create_eq_ok.mp hbase
    obtain ⟨-, -, -, -, hsame⟩ := LiveAccountSnapshot.create_eq_ok.mp hsnapshot
    omega
  | cons latest older =>
    have hmem := (mem_rowsUpTo.mp (hrows ▸ List.mem_cons_self)).1
    obtain ⟨current, hcurrent, -⟩ := hwf.rows.account latest hmem
    obtain ⟨snapshot, hsnapshot, -, -, -, hcount⟩ := accountSnapshot_latest hwf hrows hcurrent
    cases h.symm.trans hsnapshot
    rw [hcount] at hcritical
    have hnonneg := (hwf.rows.counts latest hmem).2
    have hbound := criticalCount_nonneg (intentsUpTo ledger t) (scanAt ledger t) hnonneg
    refine ⟨latest, rfl, by omega, ?_⟩
    by_contra hseen
    rw [Bool.not_eq_false] at hseen
    unfold criticalCount at hcritical
    simp only [hseen, if_true] at hcritical
    omega

/-- **An intent is created only after every earlier one is resolved**, in every run with commits in
order whose steps close only their own intent. -/
theorem prepared_after_resolution (D : Digests) (ops : List LedgerOp) (input : PrepareInput)
    (after : Ledger) (horder : (commitTimes D (ops ++ [.prepare input])).Pairwise (· ≤ ·))
    (hcloses : Machine.Along (exec D) (ClosesOnlyItself D) {} ops)
    (hprepare : apply D (ledgerAfter D ops) (.prepare input) = .ok after)
    (hnew : after.intents ≠ (ledgerAfter D ops).intents) :
    ∀ intent ∈ (ledgerAfter D ops).intents, Resolved (ledgerAfter D ops) intent.intentId := by
  have hwf := wellFormed_ledgerAfter D ops
  have hcommit : commits D (ledgerAfter D ops) (.prepare input) = true := by
    simp [commits, hprepare, Except.toOption]
  obtain ⟨hhead, hintents⟩ := ordered_before horder hcommit
  have hguarded : Guarded (ledgerAfter D ops) := by
    rw [commitTimes_append, List.pairwise_append] at horder
    exact guarded_ledgerAfter horder.1 hcloses
  generalize ledgerAfter D ops = ledger at *
  obtain ⟨response, hr⟩ := map_fst_eq_ok.mp hprepare
  obtain ⟨middle, hs⟩ := prepare_cases hr
  intro intent hmem
  rcases hs.baseline with rfl | ⟨evidence, hb⟩
  · rcases hs.intents with heq | ⟨new, -, hcreated⟩
    · exact absurd heq hnew
    obtain ⟨account, haccount, hcritical⟩ := hcreated.account
    obtain ⟨latest, hlatest, hclean, hseen⟩ := accountSnapshot_critical hwf haccount hcritical
    change (rowsUpTo middle input.observedAt).head? = _ at hhead
    by_cases hevent : terminalEvent middle intent.intentId = none
    · -- the scan would have seen the intent unless a row reports it unfilled
      have hzero : intent.intentId ∈ zeroFillIntents (rowsUpTo middle input.observedAt) := by
        by_contra hnot
        have hsaw := (scan_unresolved (zeroFillIntents (rowsUpTo middle input.observedAt))
          (terminalEvent middle) (intentsUpTo middle input.observedAt) {}).mpr
            (Or.inr ⟨intent, by rw [show input.observedAt = (LedgerOp.prepare input).observedAt
              from rfl, hintents]; exact hmem, hnot, hevent⟩)
        unfold scanAt at hseen
        rw [hseen] at hsaw
        cases hsaw
      obtain ⟨row, hrow, hkind⟩ := mem_zeroFillIntents hzero
      exact Or.inr (Or.inl ⟨row, (mem_rowsUpTo.mp hrow).1, hkind⟩)
    · rw [hhead] at hlatest
      exact hguarded.resolved hlatest hclean hmem hevent
  · rw [hb.no_intents] at hmem
    cases hmem

/-- The first attempt was rejected, and the second intent is created. -/
theorem prepared_after_rejection :
    Resolved (ledgerAfter sampleDigests
      [samplePrepare "a" 1, .result (sampleResult "a" .rejected) 2]) "live-intent-a" := by
  have hids : (ledgerAfter sampleDigests
      [samplePrepare "a" 1, .result (sampleResult "a" .rejected) 2]).intents.map (·.intentId) =
        ["live-intent-a"] := by decide +kernel
  obtain ⟨intent, hmem, hid⟩ := List.mem_map.mp (hids.symm ▸ List.mem_singleton_self "live-intent-a")
  rw [← hid]
  exact prepared_after_resolution sampleDigests _ (samplePrepareInput "b" 3)
    (ledgerAfter sampleDigests
      [samplePrepare "a" 1, .result (sampleResult "a" .rejected) 2, samplePrepare "b" 3])
    (by decide +kernel) (by decide +kernel) (by decide +kernel) (by decide +kernel) intent hmem

/-- The first order is reported unfilled, the second is accepted, and the report on the first is
applied once more. -/
def sampleReapplied : List LedgerOp :=
  [samplePrepare "a" 1, .result (sampleResult "a" .accepted) 2,
    .official (sampleResult "a" .accepted) sampleZeroFill 3,
    samplePrepare "b" 4, .result (sampleResult "b" .accepted) 5,
    .official (sampleResult "a" .accepted) sampleZeroFill 6]

/-- **An intent can be created while an earlier order is open**: the repeated zero-fill row of the
first order hides that the second was accepted. -/
theorem not_prepared_after_resolution :
    ¬ ∀ (D : Digests) (ops : List LedgerOp) (input : PrepareInput) (after : Ledger),
      (commitTimes D (ops ++ [.prepare input])).Pairwise (· ≤ ·) →
      apply D (ledgerAfter D ops) (.prepare input) = .ok after →
      after.intents ≠ (ledgerAfter D ops).intents →
      ∀ intent ∈ (ledgerAfter D ops).intents, Resolved (ledgerAfter D ops) intent.intentId := by
  intro hall
  have hresolved := hall sampleDigests sampleReapplied (samplePrepareInput "c" 7)
    (ledgerAfter sampleDigests (sampleReapplied ++ [samplePrepare "c" 7]))
    (by decide +kernel) (by decide +kernel) (by decide +kernel)
  revert hresolved
  decide +kernel

end BpEngine.FastLive
