import BpEngine.FastLive.Redelivery

/-!
# Applying an official reconciliation again

What `record_fast_live_official_reconciliation` does to the account when its row is applied to a
ledger that has moved on.

* `NotRolledBack` is the law: the snapshot keeps its result of the day and its losses, and no
  settled intent is open again.
* `ReapplicationSafe` is the condition on the ledger: the row is there already, or the account of
  the intent's pending row is still the latest one and an open fill does not become the newest row
  of a settled intent.
* `notRolledBack_iff`: the law holds exactly under the condition.
-/

namespace BpEngine.FastLive

open BpEngine.Execution BpEngine.LiveReadiness BpEngine.Table

/-! ## The law -/

/-- The rows about an intent up to `t`, newest first. -/
def rowsAbout (ledger : Ledger) (t : Timestamp) (intentId : String) : List ReconciliationRow :=
  latestFirst (·.payload.observedAt)
    ((ledger.reconciliations.filter (·.payload.observedAt ≤ t)).filter
      (·.payload.evidence.intentId == some intentId))

/-- An official settlement of the intent was observed up to `t`. -/
def Settled (ledger : Ledger) (t : Timestamp) (intentId : String) : Prop :=
  ∃ row ∈ ledger.reconciliations, row.payload.observedAt ≤ t ∧ isSettlementOf intentId row = true

instance (ledger : Ledger) (t : Timestamp) (intentId : String) :
    Decidable (Settled ledger t intentId) := by
  unfold Settled; infer_instance

/-- The row reports an open fill. -/
def reportsOpenFill (row : ReconciliationRow) : Bool :=
  row.payload.evidence.reconciliationKind == some .postSubmissionOfficialFillOpenExposure

/-- The newest row about the intent reports an open fill. -/
def ExposureOpen (ledger : Ledger) (t : Timestamp) (intentId : String) : Prop :=
  (rowsAbout ledger t intentId).head?.any reportsOpenFill = true

instance (ledger : Ledger) (t : Timestamp) (intentId : String) :
    Decidable (ExposureOpen ledger t intentId) := by
  unfold ExposureOpen; infer_instance

/-- The two snapshots at `t` have the same result of the day and the same losses. -/
def SameFigures (before after : Ledger) (t : Timestamp) : Prop :=
  ∃ a b, accountSnapshot before t = .ok a ∧ accountSnapshot after t = .ok b ∧
    Decimal.Same a.realizedDailyPnlUsd b.realizedDailyPnlUsd ∧
    a.consecutiveLosses = b.consecutiveLosses

/-- From `before` to `after`, the account at `t` was not rolled back. -/
def NotRolledBack (before after : Ledger) (t : Timestamp) : Prop :=
  SameFigures before after t ∧
    ∀ intentId, Settled before t intentId → ¬ ExposureOpen before t intentId →
      ¬ ExposureOpen after t intentId

/-! ## The condition -/

/-- The row an official reconciliation writes. -/
def officialPayload (result : FastLiveResult) (official : OfficialState) (t : Timestamp)
    (carriedFrom : String) (account : AccountEvidence) : ReconciliationPayload :=
  ⟨t, official.openCount, official.openCount,
    officialEvidence (orEmpty result.intentId) (orEmpty result.externalOrderId.join) carriedFrom
      official official.filledShares official.filledNotional account⟩

/-- A row with the same content, observed at the same instant, is in the ledger. -/
def RowPresent (ledger : Ledger) (result : FastLiveResult) (official : OfficialState)
    (t : Timestamp) : Prop :=
  ∃ carriedFrom account,
    carryPendingAccount ledger (orEmpty result.intentId) t = .ok (carriedFrom, account) ∧
      ∃ row ∈ ledger.reconciliations,
        row.payload = officialPayload result official t carriedFrom account

/-- The figures of the intent's pending row at `t` are those of the latest row, seen from `seenAt`,
unless a row later than `t` is the latest. -/
def PendingFiguresCurrent (ledger : Ledger) (intentId : String) (t seenAt : Timestamp) : Prop :=
  ∀ latest ∈ (rowsUpTo ledger seenAt).head?, latest.payload.observedAt ≤ t →
    ∀ pending ∈ (rowsUpTo ledger t).find? (isPendingOf intentId),
      ∀ account ∈ latest.payload.evidence.accountSnapshot,
        ∀ carried ∈ pending.payload.evidence.accountSnapshot,
          Decimal.Same
              (dailyPnlForObserved account.realizedDailyPnlUsd latest.payload.observedAt seenAt)
              (dailyPnlForObserved (dailyPnlForObserved carried.realizedDailyPnlUsd
                pending.payload.observedAt t) t seenAt) ∧
            account.consecutiveLosses = carried.consecutiveLosses

/-- An open fill would not become the newest row of a settled intent that is not open. -/
def FillKeepsSettled (ledger : Ledger) (intentId : String) (official : OfficialState)
    (t seenAt : Timestamp) : Prop :=
  official.filledShares.isZero ∨ ¬ Settled ledger seenAt intentId ∨
    ExposureOpen ledger seenAt intentId ∨
    ∃ row ∈ (rowsAbout ledger seenAt intentId).head?, t < row.payload.observedAt

/-- The condition under which an official reconciliation leaves the account alone. -/
def ReapplicationSafe (ledger : Ledger) (result : FastLiveResult) (official : OfficialState)
    (t seenAt : Timestamp) : Prop :=
  RowPresent ledger result official t ∨
    (PendingFiguresCurrent ledger (orEmpty result.intentId) t seenAt ∧
      FillKeepsSettled ledger (orEmpty result.intentId) official t seenAt)

/-! ## The account after one more row -/

section Append

variable {before after : Ledger} {new : ReconciliationRow} {t seenAt : Timestamp}

theorem rowsUpTo_head_append (hrows : after.reconciliations = before.reconciliations ++ [new])
    (hnew : new.payload.observedAt ≤ seenAt) {latest : ReconciliationRow}
    {older : List ReconciliationRow} (hlatest : rowsUpTo before seenAt = latest :: older) :
    ∃ rest, rowsUpTo after seenAt =
      (if latest.payload.observedAt ≤ new.payload.observedAt then new else latest) :: rest := by
  have hhead : (rowsUpTo after seenAt).head? = some (if latest.payload.observedAt ≤
      new.payload.observedAt then new else latest) := by
    have h := head?_latestFirst_append (fun row : ReconciliationRow => row.payload.observedAt)
      (before.reconciliations.filter (·.payload.observedAt ≤ seenAt)) new
    rw [show latestFirst (fun row : ReconciliationRow => row.payload.observedAt)
      (before.reconciliations.filter (·.payload.observedAt ≤ seenAt)) = latest :: older from
      hlatest] at h
    unfold rowsUpTo
    rw [hrows, List.filter_append]
    simp only [List.filter_cons, hnew, decide_true, if_true, List.filter_nil]
    rw [h]
    simp only [List.head?_cons]
    split_ifs <;> rfl
  cases hrest : rowsUpTo after seenAt with
  | nil => simp [hrest] at hhead
  | cons head rest =>
    rw [hrest, List.head?_cons, Option.some.injEq] at hhead
    exact ⟨rest, by rw [hhead]⟩

/-- The rows about another intent are the same. -/
theorem rowsAbout_append_ne (hrows : after.reconciliations = before.reconciliations ++ [new])
    {intentId : String} (hne : new.payload.evidence.intentId ≠ some intentId) :
    rowsAbout after seenAt intentId = rowsAbout before seenAt intentId := by
  unfold rowsAbout
  rw [hrows, List.filter_append, List.filter_append]
  have hnone : ([new].filter (·.payload.observedAt ≤ seenAt)).filter
      (·.payload.evidence.intentId == some intentId) = [] := by
    rw [List.filter_eq_nil_iff]
    intro row hrow
    rw [List.mem_singleton.mp (List.mem_of_mem_filter hrow)]
    simpa using hne
  rw [hnone, List.append_nil]

/-- The newest row about the intent is the new one unless there is a later one. -/
theorem rowsAbout_head_append (hrows : after.reconciliations = before.reconciliations ++ [new])
    (hnew : new.payload.observedAt ≤ seenAt) {intentId : String}
    (hid : new.payload.evidence.intentId = some intentId) :
    (rowsAbout after seenAt intentId).head? =
      match (rowsAbout before seenAt intentId).head? with
      | none => some new
      | some row =>
        if row.payload.observedAt ≤ new.payload.observedAt then some new else some row := by
  have h := head?_latestFirst_append (fun row : ReconciliationRow => row.payload.observedAt)
    ((before.reconciliations.filter (·.payload.observedAt ≤ seenAt)).filter
      (·.payload.evidence.intentId == some intentId)) new
  unfold rowsAbout
  rw [hrows, List.filter_append, List.filter_append]
  have hkeep : ([new].filter (·.payload.observedAt ≤ seenAt)).filter
      (·.payload.evidence.intentId == some intentId) = [new] := by simp [hnew, hid]
  rw [hkeep, h]
  split
  · next hfind => rw [hfind]
  · next hfind => rw [hfind]

end Append

theorem mem_rowsAbout {ledger : Ledger} {t : Timestamp} {intentId : String}
    {row : ReconciliationRow} : row ∈ rowsAbout ledger t intentId ↔
      row ∈ ledger.reconciliations ∧ row.payload.observedAt ≤ t ∧
        row.payload.evidence.intentId = some intentId := by
  unfold rowsAbout
  rw [mem_latestFirst, List.mem_filter, List.mem_filter]
  simp [and_assoc]

/-- A settled intent has a newest row. -/
theorem Settled.rowsAbout_ne_nil {ledger : Ledger} {t : Timestamp} {intentId : String}
    (h : Settled ledger t intentId) : rowsAbout ledger t intentId ≠ [] := by
  obtain ⟨row, hmem, ht, hkind⟩ := h
  unfold isSettlementOf at hkind
  simp only [Bool.and_eq_true, beq_iff_eq] at hkind
  exact List.ne_nil_of_mem (mem_rowsAbout.mpr ⟨hmem, ht, hkind.1⟩)

/-! ## The figures -/

theorem dailyPnlForObserved_formatF (d : Decimal) (carriedAt observedAt : Timestamp) :
    (dailyPnlForObserved d.formatF carriedAt observedAt).toRat =
      (dailyPnlForObserved d carriedAt observedAt).toRat := by
  unfold dailyPnlForObserved
  split_ifs
  · exact formatF_toRat d
  · rfl

theorem dailyPnlForObserved_congr {d e : Decimal} (h : d.toRat = e.toRat)
    (carriedAt observedAt : Timestamp) : (dailyPnlForObserved d carriedAt observedAt).toRat =
      (dailyPnlForObserved e carriedAt observedAt).toRat := by
  unfold dailyPnlForObserved
  split_ifs
  · exact h
  · rfl

section Official

variable {D : Digests} {before after : Ledger} {result : FastLiveResult}
  {official : OfficialState} {t seenAt : Timestamp} {carriedFrom : String}
  {account : AccountEvidence}

/-- The new row's result of the day is that of the pending row. -/
theorem OfficialStep.pnl_toRat
    (hs : OfficialStep D before after result official t carriedFrom account) (seenAt : Timestamp) :
    ∃ pending carried,
      (rowsUpTo before t).find? (isPendingOf (orEmpty result.intentId)) = some pending ∧
      pending.payload.evidence.accountSnapshot = some carried ∧
      account.consecutiveLosses = carried.consecutiveLosses ∧
      (dailyPnlForObserved account.realizedDailyPnlUsd.formatF t seenAt).toRat =
        (dailyPnlForObserved (dailyPnlForObserved carried.realizedDailyPnlUsd
          pending.payload.observedAt t) t seenAt).toRat := by
  obtain ⟨pending, carried, hfind, -, hacc, -, rfl⟩ := carryPendingAccount_spec hs.carried
  refine ⟨pending, carried, hfind, hacc, rfl, ?_⟩
  rw [dailyPnlForObserved_formatF]
  exact dailyPnlForObserved_congr (formatF_toRat _) t seenAt

/-- A pending row is seen at every later instant. -/
theorem OfficialStep.rowsUpTo_ne_nil
    (hs : OfficialStep D before after result official t carriedFrom account) (ht : t ≤ seenAt) :
    ∃ latest older, rowsUpTo before seenAt = latest :: older := by
  obtain ⟨pending, carried, hfind, -⟩ := carryPendingAccount_spec hs.carried
  obtain ⟨hmem, hobs⟩ := mem_rowsUpTo.mp (List.mem_of_find?_eq_some hfind)
  exact List.exists_cons_of_ne_nil
    (List.ne_nil_of_mem (mem_rowsUpTo.mpr ⟨hmem, le_trans hobs ht⟩))

/-- **The figures stay exactly when those of the pending row are the latest ones.** -/
theorem sameFigures_iff (hbefore : WellFormed before) (hafter : WellFormed after)
    (hs : OfficialStep D before after result official t carriedFrom account) (ht : t ≤ seenAt)
    {id : String} (hrows : after.reconciliations = before.reconciliations ++
      [⟨id, officialPayload result official t carriedFrom account⟩]) :
    SameFigures before after seenAt ↔
      PendingFiguresCurrent before (orEmpty result.intentId) t seenAt := by
  obtain ⟨latest, older, hlatest⟩ := hs.rowsUpTo_ne_nil ht
  obtain ⟨current, hcurrent, -⟩ :=
    hbefore.rows.account latest (mem_rowsUpTo.mp (hlatest ▸ List.mem_cons_self)).1
  obtain ⟨a, ha, -, hapnl, halosses, -⟩ := accountSnapshot_latest hbefore hlatest hcurrent
  obtain ⟨pending, carried, hpending, hcarried, hlosses, hpnl⟩ := hs.pnl_toRat seenAt
  obtain ⟨rest, hrest⟩ := rowsUpTo_head_append hrows ht hlatest
  have hcondition : PendingFiguresCurrent before (orEmpty result.intentId) t seenAt ↔
      (latest.payload.observedAt ≤ t →
        (dailyPnlForObserved current.realizedDailyPnlUsd latest.payload.observedAt seenAt).toRat =
            (dailyPnlForObserved (dailyPnlForObserved carried.realizedDailyPnlUsd
              pending.payload.observedAt t) t seenAt).toRat ∧
          current.consecutiveLosses = carried.consecutiveLosses) := by
    simp [PendingFiguresCurrent, hlatest, hpending, hcurrent, hcarried, Decimal.same_iff]
  rw [hcondition]
  by_cases hnewest : latest.payload.observedAt ≤ t
  · rw [if_pos (show latest.payload.observedAt ≤
      (officialPayload result official t carriedFrom account).observedAt from hnewest)] at hrest
    obtain ⟨b, hb, -, hbpnl, hblosses, -⟩ := accountSnapshot_latest hafter hrest rfl
    have hpnl' : b.realizedDailyPnlUsd.toRat = (dailyPnlForObserved (dailyPnlForObserved
        carried.realizedDailyPnlUsd pending.payload.observedAt t) t seenAt).toRat := by
      rw [hbpnl]
      exact hpnl
    constructor
    · rintro ⟨a', b', ha', hb', hsame, hcount⟩ -
      cases ha.symm.trans ha'
      cases hb.symm.trans hb'
      refine ⟨?_, ?_⟩
      · rw [← hapnl, ← hpnl']
        exact Decimal.same_iff.mp hsame
      · rw [← halosses, hcount, hblosses, ← hlosses]
    · intro h
      obtain ⟨hsame, hcount⟩ := h hnewest
      refine ⟨a, b, ha, hb, Decimal.same_iff.mpr ?_, ?_⟩
      · rw [hapnl, hsame, hpnl']
      · rw [halosses, hcount, hblosses, ← hlosses]
  · rw [if_neg (show ¬ latest.payload.observedAt ≤
      (officialPayload result official t carriedFrom account).observedAt from hnewest)] at hrest
    obtain ⟨b, hb, -, hbpnl, hblosses, -⟩ := accountSnapshot_latest hafter hrest hcurrent
    refine ⟨fun _ h => absurd h hnewest, fun _ => ⟨a, b, ha, hb, Decimal.same_iff.mpr ?_, ?_⟩⟩
    · rw [hapnl, hbpnl]
    · rw [halosses, hblosses]

/-! ## The open exposure -/

/-- The new row reports an open fill unless nothing was filled. -/
theorem reportsOpenFill_official {id : String} :
    reportsOpenFill ⟨id, officialPayload result official t carriedFrom account⟩ =
      !decide official.filledShares.isZero := by
  by_cases hzero : official.filledShares.isZero
  · simp [reportsOpenFill, officialPayload, officialEvidence, hzero]
  · simp [reportsOpenFill, officialPayload, officialEvidence, hzero]

/-- **A settled intent is opened again exactly when an open fill becomes its newest row.** -/
theorem keepsClosed_iff {id : String} (ht : t ≤ seenAt)
    (hrows : after.reconciliations = before.reconciliations ++
      [⟨id, officialPayload result official t carriedFrom account⟩]) :
    (∀ intentId, Settled before seenAt intentId → ¬ ExposureOpen before seenAt intentId →
      ¬ ExposureOpen after seenAt intentId) ↔
      FillKeepsSettled before (orEmpty result.intentId) official t seenAt := by
  have hhead := rowsAbout_head_append hrows ht
    (show _ = some (orEmpty result.intentId) from rfl)
  have hopen : reportsOpenFill ⟨id, officialPayload result official t carriedFrom account⟩ = _ :=
    reportsOpenFill_official
  constructor
  · intro h
    by_cases hzero : official.filledShares.isZero
    · exact Or.inl hzero
    by_cases hsettled : Settled before seenAt (orEmpty result.intentId)
    · by_cases hwas : ExposureOpen before seenAt (orEmpty result.intentId)
      · exact Or.inr (Or.inr (Or.inl hwas))
      have hnow := h _ hsettled hwas
      obtain ⟨newest, older, hnewest⟩ := List.exists_cons_of_ne_nil hsettled.rowsAbout_ne_nil
      refine Or.inr (Or.inr (Or.inr ⟨newest, by simp [hnewest], ?_⟩))
      by_contra hle
      refine hnow ?_
      unfold ExposureOpen
      rw [hhead, hnewest, List.head?_cons]
      dsimp only
      rw [if_pos (show newest.payload.observedAt ≤
        (officialPayload result official t carriedFrom account).observedAt from not_lt.mp hle),
        Option.any_some, hopen]
      simpa using hzero
    · exact Or.inr (Or.inl hsettled)
  · intro h intentId hsettled hwas
    by_cases hid : orEmpty result.intentId = intentId
    · subst hid
      unfold ExposureOpen
      obtain ⟨newest, older, hnewest⟩ := List.exists_cons_of_ne_nil hsettled.rowsAbout_ne_nil
      unfold ExposureOpen at hwas
      rw [hhead]
      rw [hnewest, List.head?_cons] at hwas ⊢
      dsimp only
      split_ifs with hle
      · rcases h with hzero | hnot | hwas' | ⟨row, hrow, hlater⟩
        · simp [hopen, hzero]
        · exact absurd hsettled hnot
        · unfold ExposureOpen at hwas'
          rw [hnewest, List.head?_cons] at hwas'
          exact absurd hwas' hwas
        · rw [hnewest, List.head?_cons, Option.mem_some_iff] at hrow
          subst hrow
          exact absurd hle (not_le.mpr hlater)
      · exact hwas
    · unfold ExposureOpen at hwas ⊢
      rwa [rowsAbout_append_ne hrows (fun heq => hid (Option.some.inj heq))]

end Official

/-! ## The law and the condition -/

/-- A row that is there already leaves everything as it is. -/
theorem notRolledBack_self {ledger : Ledger} {t : Timestamp} (h : WellFormed ledger)
    (hrows : ∃ latest older, rowsUpTo ledger t = latest :: older) : NotRolledBack ledger ledger t := by
  obtain ⟨latest, older, hlatest⟩ := hrows
  obtain ⟨current, hcurrent, -⟩ :=
    h.rows.account latest (mem_rowsUpTo.mp (hlatest ▸ List.mem_cons_self)).1
  obtain ⟨a, ha, -⟩ := accountSnapshot_latest h hlatest hcurrent
  exact ⟨⟨a, a, ha, ha, Decimal.same_iff.mpr rfl, rfl⟩, fun _ _ hwas => hwas⟩

/-- **An official reconciliation leaves the account alone exactly under the condition**, in every
reachable ledger, at any instant and seen from any later one. -/
theorem notRolledBack_iff (D : Digests) (ops : List LedgerOp) (result : FastLiveResult)
    (official : OfficialState) (t seenAt : Timestamp) (after : Ledger) (response : OfficialResponse)
    (ht : t ≤ seenAt)
    (h : recordOfficialReconciliation D (ledgerAfter D ops) result official t
      = .ok (after, response)) :
    NotRolledBack (ledgerAfter D ops) after seenAt ↔
      ReapplicationSafe (ledgerAfter D ops) result official t seenAt := by
  have hbefore := wellFormed_ledgerAfter D ops
  have hafter : WellFormed after :=
    wellFormed_apply hbefore (show apply D _ (.official result official t) = _ from
      map_fst_eq_ok.mpr ⟨response, h⟩)
  obtain ⟨carriedFrom, account, hs⟩ := official_cases h
  rcases hs.rows.cases with ⟨hrows, row, hmem, hcontent⟩ | ⟨hrows, hfresh⟩
  · have hsame : after = ledgerAfter D ops := by
      have hevents := hs.events
      have hintents := hs.intents
      have hrisk := hs.riskDecisions
      cases after
      simp_all
    constructor
    · exact fun _ => Or.inl ⟨carriedFrom, account, hs.carried, row, hmem, hcontent⟩
    · intro _
      rw [hsame]
      exact notRolledBack_self hbefore (hs.rowsUpTo_ne_nil ht)
  · have habsent : ¬ RowPresent (ledgerAfter D ops) result official t := by
      rintro ⟨carriedFrom', account', hcarried, row, hmem, hcontent⟩
      cases hs.carried.symm.trans hcarried
      refine hfresh row hmem ?_
      rw [rows_derived D ops row hmem, hcontent]
      rfl
    unfold NotRolledBack ReapplicationSafe
    rw [sameFigures_iff hbefore hafter hs ht hrows, keepsClosed_iff ht hrows]
    simp [habsent]

/-! ## A lost position -/

/-- The official reconciliation of the filled order at `t`. -/
def sampleOfficial (t : Timestamp) : LedgerOp :=
  .official (sampleResult "a" .accepted) sampleFill t

/-- A position is opened, reported as filled at 3 and settled as lost at 4. -/
def sampleLoss : List LedgerOp :=
  [samplePrepare "a" 1, .result (sampleResult "a" .accepted) 2, sampleOfficial 3,
    .settle [⟨"a", "down", "label-v1"⟩] "live-intent-a" 4]

/-- The official row of the lost position, applied once more at the instant of the first time,
leaves the account alone. -/
theorem notRolledBack_sample :
    NotRolledBack (ledgerAfter sampleDigests sampleLoss)
      (exec sampleDigests (ledgerAfter sampleDigests sampleLoss) (sampleOfficial 3)) 5 := by
  rw [notRolledBack_iff sampleDigests sampleLoss (sampleResult "a" .accepted) sampleFill 3 5 _
    ⟨"live-intent-a", "order-a", "live-reconciliation-3", ⟨10, 0⟩, ⟨5, 0⟩, true⟩
    (by decide) (by decide +kernel)]
  exact Or.inl ⟨"live-reconciliation-2", ⟨0, 0, 0⟩, by decide +kernel⟩

/-- **An official row applied again does roll the account back**: applied at 5, the official row of
the position that was settled as lost takes back the loss. -/
theorem not_notRolledBack :
    ¬ ∀ (D : Digests) (ops between : List LedgerOp) (result : FastLiveResult)
      (official : OfficialState) (t t' seenAt : Timestamp) (first after : Ledger)
      (response response' : OfficialResponse), t ≤ t' → t' ≤ seenAt →
      recordOfficialReconciliation D (ledgerAfter D ops) result official t
        = .ok (first, response) →
      recordOfficialReconciliation D (Machine.run (exec D) first between) result official t'
        = .ok (after, response') →
      NotRolledBack (Machine.run (exec D) first between) after seenAt := by
  intro hall
  have hfirst : recordOfficialReconciliation sampleDigests
      (ledgerAfter sampleDigests (sampleLoss.take 2)) (sampleResult "a" .accepted) sampleFill 3 =
      .ok (ledgerAfter sampleDigests (sampleLoss.take 3),
        ⟨"live-intent-a", "order-a", "live-reconciliation-3", ⟨10, 0⟩, ⟨5, 0⟩, true⟩) := by
    decide +kernel
  have hagain : recordOfficialReconciliation sampleDigests
      (ledgerAfter sampleDigests sampleLoss) (sampleResult "a" .accepted) sampleFill 5 =
      .ok (ledgerAfter sampleDigests (sampleLoss ++ [sampleOfficial 5]),
        ⟨"live-intent-a", "order-a", "live-reconciliation-5", ⟨10, 0⟩, ⟨5, 0⟩, true⟩) := by
    decide +kernel
  obtain ⟨⟨a, b, ha, hb, -, hlosses⟩, -⟩ := hall sampleDigests _ (sampleLoss.drop 3) _ _ 3 5 5 _ _ _ _
    (by decide) (by decide) hfirst hagain
  have hbefore : (accountSnapshot (ledgerAfter sampleDigests sampleLoss) 5).toOption.map
      (·.consecutiveLosses) = some 1 := by decide +kernel
  have hafter : (accountSnapshot (ledgerAfter sampleDigests (sampleLoss ++ [sampleOfficial 5]))
      5).toOption.map (·.consecutiveLosses) = some 0 := by decide +kernel
  have ha' : accountSnapshot (ledgerAfter sampleDigests sampleLoss) 5 = .ok a := ha
  rw [ha'] at hbefore
  rw [hb] at hafter
  simp only [Except.toOption, Option.map_some, Option.some.injEq] at hbefore hafter
  omega

end BpEngine.FastLive
