import BpEngine.FastLive.LedgerInvariant

/-!
# Resolved intents

An intent is resolved when its attempt was rejected or closed, when an official row reports it
unfilled, or when it was settled.

* `ResolvedIn` is the notion for the rows that are looked at, `Resolved` for all rows of the ledger.
* `EventWrite.terminalEvent_self`, `terminalEvent_append`: what a write does to the latest terminal
  event of an intent.
* `commitTimes` are the instants of the operations that returned, `rows_sublist_commitTimes` and
  `preSubmitAt_mem_commitTimes` find the instants of the ledger among them, and
  `rowsUpTo_of_ordered` is what it means for the rows that these are in order.
* `scan_unresolved`: what the scan over the intents says about an intent without terminal event.
-/

namespace BpEngine.FastLive

open BpEngine.LiveReadiness BpEngine.Table

/-! ## The notion -/

/-- The row is an official row that reports the intent unfilled. -/
def isZeroFillOf (intentId : String) (row : ReconciliationRow) : Bool :=
  row.payload.evidence.intentId == some intentId &&
    row.payload.evidence.reconciliationKind == some .postSubmissionOfficialZeroFill

/-- The intent was rejected or closed before submission: its latest terminal event says so. -/
def RuledOut (ledger : Ledger) (intentId : String) : Prop :=
  terminalEvent ledger intentId = some .rejected ∨
    terminalEvent ledger intentId = some .closedBeforeSubmission

instance (ledger : Ledger) (intentId : String) : Decidable (RuledOut ledger intentId) :=
  inferInstanceAs (Decidable (_ ∨ _))

/-- As far as `rows` tell, the intent is resolved. -/
def ResolvedIn (ledger : Ledger) (rows : List ReconciliationRow) (intentId : String) : Prop :=
  RuledOut ledger intentId ∨ (∃ row ∈ rows, isZeroFillOf intentId row = true) ∨
    ∃ row ∈ rows, isSettlementOf intentId row = true

instance (ledger : Ledger) (rows : List ReconciliationRow) (intentId : String) :
    Decidable (ResolvedIn ledger rows intentId) :=
  inferInstanceAs (Decidable (_ ∨ _ ∨ _))

/-- The intent is rejected, closed, reconciled to zero fill or settled. -/
def Resolved (ledger : Ledger) (intentId : String) : Prop :=
  ResolvedIn ledger ledger.reconciliations intentId

instance (ledger : Ledger) (intentId : String) : Decidable (Resolved ledger intentId) :=
  inferInstanceAs (Decidable (ResolvedIn ledger ledger.reconciliations intentId))

theorem ruledOut_iff {ledger : Ledger} {intentId : String} :
    RuledOut ledger intentId ↔ countsExposure (terminalEvent ledger intentId) = false := by
  unfold RuledOut countsExposure
  cases terminalEvent ledger intentId with
  | none => simp
  | some type => cases type <;> simp

/-- More rows and the same terminal event keep an intent resolved. -/
theorem ResolvedIn.mono {before after : Ledger} {rows rows' : List ReconciliationRow}
    {intentId : String} (h : ResolvedIn before rows intentId) (hsub : ∀ row ∈ rows, row ∈ rows')
    (hevent : terminalEvent after intentId = terminalEvent before intentId) :
    ResolvedIn after rows' intentId := by
  rcases h with hout | ⟨row, hrow, hkind⟩ | ⟨row, hrow, hkind⟩
  · refine Or.inl ?_
    unfold RuledOut at hout ⊢
    rwa [hevent]
  · exact Or.inr (Or.inl ⟨row, hsub row hrow, hkind⟩)
  · exact Or.inr (Or.inr ⟨row, hsub row hrow, hkind⟩)

/-! ## The latest terminal event -/

/-- Events that are not terminal events of the intent do not change its latest terminal event. -/
theorem terminalEvent_append {before after : Ledger} {intentId : String} {extra : List EventRow}
    (hevents : after.events = before.events ++ extra)
    (hextra : ∀ e ∈ extra, e.intentId = intentId → e.eventType.isTerminal = false) :
    terminalEvent after intentId = terminalEvent before intentId := by
  unfold terminalEvent
  rw [hevents, List.reverse_append, List.find?_append]
  have hnone : extra.reverse.find? (fun event =>
      event.intentId == intentId && event.eventType.isTerminal) = none := by
    rw [List.find?_eq_none]
    intro e he
    by_cases hid : e.intentId = intentId
    · simp [hextra e (List.mem_reverse.mp he) hid]
    · simp [hid]
  rw [hnone, Option.none_or]

theorem EventWrite.terminalEvent_ne {before after : Ledger} {intentId other : String}
    {type : EventType} (h : EventWrite before.events after.events intentId type)
    (hne : other ≠ intentId) : terminalEvent after other = terminalEvent before other := by
  obtain ⟨extra, hevents, hextra⟩ := h.appended
  refine terminalEvent_append hevents fun e he hid => ?_
  exact absurd (hid.symm.trans (hextra e he).1) hne

/-- **The terminal event after a write**: the written type, or the one there was. -/
theorem EventWrite.terminalEvent_self {before after : Ledger} {intentId : String}
    {type : EventType} (h : EventWrite before.events after.events intentId type)
    (hterminal : type.isTerminal = true) :
    terminalEvent after intentId = some type ∨
      terminalEvent after intentId = terminalEvent before intentId ∧
        terminalEvent before intentId ≠ none := by
  obtain ⟨extra, hevents, hextra⟩ := h.appended
  by_cases hnew : ∃ e ∈ extra, e.eventType.isTerminal = true
  · obtain ⟨e, he, ht⟩ := hnew
    refine Or.inl ?_
    unfold terminalEvent
    rw [hevents, List.reverse_append, List.find?_append]
    cases hfind : extra.reverse.find? (fun event =>
        event.intentId == intentId && event.eventType.isTerminal) with
    | none =>
      have hnot := List.find?_eq_none.mp hfind e (List.mem_reverse.mpr he)
      simp [(hextra e he).1, ht] at hnot
    | some found =>
      have hmem := List.mem_reverse.mp (List.mem_of_find?_eq_some hfind)
      have hprop := List.find?_some hfind
      simp only [Bool.and_eq_true] at hprop
      simp [(hextra found hmem).2 hprop.2]
  · have hold : ∀ e ∈ extra, e.intentId = intentId → e.eventType.isTerminal = false := by
      intro e he _
      by_contra ht
      exact hnew ⟨e, he, by simpa using ht⟩
    refine Or.inr ⟨terminalEvent_append hevents hold, ?_⟩
    obtain ⟨e, he, hid, ht⟩ := h.present
    have hmem : e ∈ before.events := by
      rw [hevents] at he
      rcases List.mem_append.mp he with he | he
      · exact he
      · exact absurd ⟨e, he, by rw [ht]; exact hterminal⟩ hnew
    intro hnone
    unfold terminalEvent at hnone
    rw [Option.map_eq_none_iff] at hnone
    have hnot := List.find?_eq_none.mp hnone e (List.mem_reverse.mpr hmem)
    simp [hid, ht, hterminal] at hnot

/-- An intent no event belongs to has no terminal event. -/
theorem terminalEvent_eq_none {ledger : Ledger} {intentId : String}
    (h : ∀ e ∈ ledger.events, e.intentId ≠ intentId) : terminalEvent ledger intentId = none := by
  unfold terminalEvent
  rw [Option.map_eq_none_iff, List.find?_eq_none]
  intro e he
  simp [h e (List.mem_reverse.mp he)]

/-- A settlement that writes at all appends its row. -/
theorem SettleStep.row_appended {D : Digests} {before after : Ledger} {t : Timestamp}
    {intentId : String} {fill : ReconciliationRow} {account : AccountEvidence} {pnl : Decimal}
    {evidence : ReconciliationEvidence}
    (hs : SettleStep D before after t intentId fill account pnl evidence) :
    after.reconciliations = before.reconciliations ++
      [⟨D.reconciliationId ⟨t, 0, 0, evidence⟩, ⟨t, 0, 0, evidence⟩⟩] := by
  rcases hs.rows.cases with ⟨-, row, hmem, hcontent⟩ | ⟨hrows, -⟩
  · have hnot := hs.unsettled row hmem
    unfold isSettlementOf at hnot
    rw [hcontent] at hnot
    simp [hs.intent_evidence, hs.kind] at hnot
  · exact hrows

/-! ## The order of the commits -/

/-- The operation returns. -/
def commits (D : Digests) (ledger : Ledger) (op : LedgerOp) : Bool :=
  (apply D ledger op).toOption.isSome

/-- The instants of the operations that returned, in commit order. -/
def commitTimes (D : Digests) (ops : List LedgerOp) : List Timestamp :=
  (Machine.selected (exec D) (commits D) {} ops).map (·.observedAt)

theorem commitTimes_append (D : Digests) (ops : List LedgerOp) (op : LedgerOp) :
    commitTimes D (ops ++ [op]) = commitTimes D ops ++
      if commits D (ledgerAfter D ops) op then [op.observedAt] else [] := by
  unfold commitTimes
  rw [Machine.selected_append, Machine.selected_singleton, List.map_append]
  unfold ledgerAfter
  split_ifs <;> rfl

theorem ledgerAfter_append (D : Digests) (ops : List LedgerOp) (op : LedgerOp) :
    ledgerAfter D (ops ++ [op]) = exec D (ledgerAfter D ops) op := by
  unfold ledgerAfter
  rw [Machine.run_append]
  rfl

/-- An operation that changes the ledger returned. -/
theorem commits_of_ne {D : Digests} {ledger : Ledger} {op : LedgerOp}
    (h : exec D ledger op ≠ ledger) : commits D ledger op = true := by
  rcases exec_cases D ledger op with heq | hok
  · exact absurd heq h
  · simp [commits, hok, Except.toOption]

/-- The instants of the rows are instants of commits, in the same order. -/
theorem rows_sublist_commitTimes (D : Digests) (ops : List LedgerOp) :
    ((ledgerAfter D ops).reconciliations.map (·.payload.observedAt)).Sublist
      (commitTimes D ops) := by
  induction ops using List.reverseRecOn with
  | nil => exact List.Sublist.refl _
  | append_singleton ops op ih =>
    rw [ledgerAfter_append, commitTimes_append]
    rcases rows_exec (D := D) (wellFormed_ledgerAfter D ops) op with heq | ⟨payload, ht, heq⟩
    · rw [heq]
      exact ih.trans (List.sublist_append_left _ _)
    · have hcommit : commits D (ledgerAfter D ops) op = true := by
        refine commits_of_ne fun hsame => ?_
        rw [hsame] at heq
        simp at heq
      rw [heq, List.map_append, hcommit, if_pos rfl]
      refine ih.append ?_
      simp [ht]

/-- The intents were submitted at instants of commits. -/
theorem preSubmitAt_mem_commitTimes (D : Digests) (ops : List LedgerOp) :
    ∀ intent ∈ (ledgerAfter D ops).intents, intent.payload.preSubmitAt ∈ commitTimes D ops := by
  induction ops using List.reverseRecOn with
  | nil => simp [ledgerAfter]
  | append_singleton ops op ih =>
    rw [ledgerAfter_append, commitTimes_append]
    intro intent hmem
    rcases intents_exec (D := D) (wellFormed_ledgerAfter D ops) op with heq | ⟨new, ht, heq⟩
    · rw [heq] at hmem
      exact List.mem_append_left _ (ih intent hmem)
    · have hcommit : commits D (ledgerAfter D ops) op = true := by
        refine commits_of_ne fun hsame => ?_
        rw [hsame] at heq
        simp at heq
      rw [heq] at hmem
      rcases List.mem_append.mp hmem with hmem | hmem
      · exact List.mem_append_left _ (ih intent hmem)
      · refine List.mem_append_right _ ?_
        rw [List.mem_singleton.mp hmem, hcommit, if_pos rfl, ht]
        exact List.mem_singleton_self _

/-- **The latest row is the one inserted last** when the rows are in order. -/
theorem rowsUpTo_of_ordered {ledger : Ledger} {t : Timestamp}
    (hordered : (ledger.reconciliations.map (·.payload.observedAt)).Pairwise (· ≤ ·))
    (ht : ∀ row ∈ ledger.reconciliations, row.payload.observedAt ≤ t) :
    (rowsUpTo ledger t).head? = ledger.reconciliations.getLast? := by
  have hall : ledger.reconciliations.filter (·.payload.observedAt ≤ t) =
      ledger.reconciliations := by
    rw [List.filter_eq_self]
    intro row hrow
    simpa using ht row hrow
  unfold rowsUpTo
  rw [hall]
  rcases List.eq_nil_or_concat ledger.reconciliations with hnil | ⟨rows, last, hrows⟩
  · rw [hnil]
    rfl
  · rw [List.concat_eq_append] at hrows
    rw [hrows] at hordered ⊢
    rw [latestFirst_append_of_le, List.head?_cons, List.getLast?_append]
    · rfl
    rw [List.map_append, List.pairwise_append] at hordered
    intro row hrow
    exact hordered.2.2 _ (List.mem_map_of_mem hrow) _ (by simp)

/-! ## The scan over the intents -/

theorem scanIntent_unresolved (zeroFilled : List String) (outcome : String → Option EventType)
    (scan : IntentScan) (intent : IntentRow) :
    (scanIntent zeroFilled outcome scan intent).unresolvedIntentSeen = true ↔
      scan.unresolvedIntentSeen = true ∨
        intent.intentId ∉ zeroFilled ∧ outcome intent.intentId = none := by
  unfold scanIntent IntentScan.sawAttempt
  by_cases hzero : intent.intentId ∈ zeroFilled
  · simp [hzero]
  · simp only [hzero, if_false, not_false_eq_true, true_and]
    cases outcome intent.intentId with
    | none => simp [countsExposure]
    | some type => cases type <;> simp [countsExposure, EventType.isSubmissionAttempt]

/-- **The scan has seen an unresolved intent exactly when one has no terminal event and no row that
reports it unfilled.** -/
theorem scan_unresolved (zeroFilled : List String) (outcome : String → Option EventType)
    (intents : List IntentRow) (scan : IntentScan) :
    (intents.foldl (scanIntent zeroFilled outcome) scan).unresolvedIntentSeen = true ↔
      scan.unresolvedIntentSeen = true ∨
        ∃ intent ∈ intents, intent.intentId ∉ zeroFilled ∧ outcome intent.intentId = none := by
  induction intents generalizing scan with
  | nil => simp
  | cons intent intents ih =>
    rw [List.foldl_cons, ih, scanIntent_unresolved]
    simp [or_assoc]

/-- A row that reports a zero fill is an official zero-fill row of its intent. -/
theorem mem_zeroFillIntents {rows : List ReconciliationRow} {intentId : String}
    (h : intentId ∈ zeroFillIntents rows) : ∃ row ∈ rows, isZeroFillOf intentId row = true := by
  unfold zeroFillIntents at h
  obtain ⟨row, hrow, hid⟩ := List.mem_map.mp h
  obtain ⟨hmem, hreports⟩ := List.mem_filter.mp hrow
  unfold reportsZeroFill at hreports
  simp only [Bool.and_eq_true, bne_iff_ne, beq_iff_eq] at hreports
  obtain ⟨⟨⟨⟨⟨⟨⟨⟨⟨-, hkind⟩, hne⟩, -⟩, -⟩, -⟩, -⟩, -⟩, -⟩, -⟩ := hreports
  refine ⟨row, hmem, ?_⟩
  unfold isZeroFillOf
  cases hev : row.payload.evidence.intentId with
  | none =>
    rw [hev] at hne
    exact absurd rfl hne
  | some id =>
    rw [hev] at hid
    have hid' : id = intentId := hid
    simp [hid', hkind]

end BpEngine.FastLive
