import BpEngine.LiveReadiness.LiveRun

/-!
# Two views of an unresolved intent

The account snapshot of the gateway and the reconciliation with the official orders, on the same
ledger.

* `Resolved` is what the account snapshot passes over, `Reported` what the reconciliation names.
* `views_agree`: what is rejected or reconciled without a fill is reported only for an order that
  the venue lists; what is not reported is resolved, or has an external order or a rejection.
* An accepted order that the venue does not list is neither resolved nor reported
  (`not_views_agree`).
-/

namespace BpEngine.LiveReadiness

open BpEngine.Execution BpEngine.FastLive BpEngine.Canary BpEngine.Gateway BpEngine.Table

/-! ## The two views -/

/-- The account snapshot passes over the intent: an official row reports a zero fill, or its latest
terminal event rules it out. -/
def Resolved (ledger : Ledger) (observedAt : Timestamp) (intentId : String) : Prop :=
  intentId ∈ zeroFillIntents (rowsUpTo ledger observedAt) ∨
    countsExposure (terminalEvent ledger intentId) = false

/-- The reconciliation names the intent in one of its issues. -/
def Reported (ledger : Ledger) (officialOrders : List OfficialOrderSnapshot)
    (observedAt : Timestamp) (staleAfterSeconds : Decimal) (intentId : String) : Prop :=
  ∃ issue ∈ reconciliationIssues ledger officialOrders observedAt staleAfterSeconds,
    issue.intentId = some intentId

/-- The snapshot shows no open order and no position of the intent: its orders that are listed are
closed, and nothing of them was filled. -/
def ShowsNothing (ledger : Ledger) (officialOrders : List OfficialOrderSnapshot)
    (intentId : String) : Prop :=
  ∀ order ∈ officialOrders, order.externalOrderId ∈ externalIds ledger intentId →
    order.status ∈ ["cancelled", "canceled", "expired", "rejected"] ∧ order.filledSize.isZero = true

instance (ledger : Ledger) (observedAt : Timestamp) (intentId : String) :
    Decidable (Resolved ledger observedAt intentId) := by
  unfold Resolved; infer_instance

instance (ledger : Ledger) (officialOrders : List OfficialOrderSnapshot) (observedAt : Timestamp)
    (staleAfterSeconds : Decimal) (intentId : String) :
    Decidable (Reported ledger officialOrders observedAt staleAfterSeconds intentId) := by
  unfold Reported; infer_instance

/-! ## Issues that are found and issues that are kept -/

theorem deduplicate_subset (issues : List ReconciliationIssue) :
    ∀ issue ∈ deduplicateIssues issues, issue ∈ issues := by
  have hfold : ∀ (issues unique : List ReconciliationIssue) (issue : ReconciliationIssue),
      issue ∈ issues.foldl (fun unique issue =>
        if unique.any fun other => issueKey other == issueKey issue then unique
        else unique ++ [issue]) unique → issue ∈ unique ∨ issue ∈ issues := by
    intro issues
    induction issues with
    | nil => exact fun unique issue h => Or.inl h
    | cons head rest ih =>
      intro unique issue h
      rw [List.foldl_cons] at h
      rcases ih _ issue h with h | h
      · split_ifs at h
        · exact Or.inl h
        · rcases List.mem_append.mp h with h | h
          · exact Or.inl h
          · exact Or.inr (List.mem_cons.mpr (Or.inl (List.mem_singleton.mp h)))
      · exact Or.inr (List.mem_cons_of_mem _ h)
  exact fun issue h => (hfold issues [] issue h).resolve_left List.not_mem_nil

/-- Every issue is kept, or another one with its key. -/
theorem deduplicate_key (issues : List ReconciliationIssue) :
    ∀ issue ∈ issues, ∃ kept ∈ deduplicateIssues issues, issueKey kept = issueKey issue := by
  have hfold : ∀ (issues unique : List ReconciliationIssue) (issue : ReconciliationIssue),
      issue ∈ unique ∨ issue ∈ issues → ∃ kept ∈ issues.foldl (fun unique issue =>
        if unique.any fun other => issueKey other == issueKey issue then unique
        else unique ++ [issue]) unique, issueKey kept = issueKey issue := by
    intro issues
    induction issues with
    | nil =>
      rintro unique issue (h | h)
      · exact ⟨issue, h, rfl⟩
      · exact absurd h List.not_mem_nil
    | cons head rest ih =>
      intro unique issue h
      rw [List.foldl_cons]
      by_cases hseen : (unique.any fun other => issueKey other == issueKey head) = true
      · rw [if_pos hseen]
        rcases h with h | h
        · exact ih unique issue (Or.inl h)
        · rcases List.mem_cons.mp h with rfl | h
          · obtain ⟨other, hother, hkey⟩ := List.any_eq_true.mp hseen
            obtain ⟨kept, hkept, heq⟩ := ih unique other (Or.inl hother)
            exact ⟨kept, hkept, heq.trans (beq_iff_eq.mp hkey)⟩
          · exact ih unique issue (Or.inr h)
      · rw [if_neg hseen]
        refine ih _ issue ?_
        rcases h with h | h
        · exact Or.inl (List.mem_append_left _ h)
        · rcases List.mem_cons.mp h with rfl | h
          · exact Or.inl (List.mem_append_right _ (List.mem_singleton_self _))
          · exact Or.inr h
  exact fun issue h => hfold issues [] issue (Or.inr h)

section Issues

variable {ledger : Ledger} {officialOrders : List OfficialOrderSnapshot} {t : Timestamp}
  {stale : Decimal} {issue : ReconciliationIssue}

theorem mem_reconciliationIssues
    (h : issue ∈ reconciliationIssues ledger officialOrders t stale) :
    issue ∈ foundIssues ledger officialOrders t stale := by
  unfold reconciliationIssues at h
  exact deduplicate_subset _ issue ((List.mem_insertionSort issueLe).mp h)

theorem mem_missingResultIssue {intent : IntentRow}
    (h : issue ∈ missingResultIssue ledger intent) :
    issue.code = .intentWithoutExternalResult ∧ issue.intentId = some intent.intentId ∧
      wasRejected ledger intent.intentId = false ∧ externalIds ledger intent.intentId = [] := by
  unfold missingResultIssue at h
  split_ifs at h with hmissing
  · rw [List.mem_singleton.mp h]
    exact ⟨rfl, rfl, hmissing⟩
  · exact absurd h List.not_mem_nil

theorem mem_blockedRiskIssue {intent : IntentRow} (h : issue ∈ blockedRiskIssue ledger intent) :
    issue.code = .orderCreatedWhileRiskBlocked ∧ ¬ RiskBacked ledger intent := by
  unfold blockedRiskIssue at h
  split at h
  · exact absurd h List.not_mem_nil
  next risk hrisk =>
  split at h
  · exact absurd h List.not_mem_nil
  · split_ifs at h with heligible
    · exact absurd h List.not_mem_nil
    · rw [List.mem_singleton.mp h]
      refine ⟨rfl, ?_⟩
      rintro ⟨other, hother, heligible'⟩
      rw [hrisk, Option.some.injEq] at hother
      rw [hother] at heligible
      exact heligible heligible'

theorem mem_blockedRiskIssue_intent {intent : IntentRow}
    (h : issue ∈ blockedRiskIssue ledger intent) : issue.intentId = some intent.intentId := by
  unfold blockedRiskIssue at h
  split at h
  · exact absurd h List.not_mem_nil
  split at h
  · exact absurd h List.not_mem_nil
  · split_ifs at h
    · exact absurd h List.not_mem_nil
    · rw [List.mem_singleton.mp h]

theorem mem_orderIssue {failed : Prop} [Decidable failed] {code : IssueCode} {intent : IntentRow}
    {order : OfficialOrderSnapshot} {evidence : List (String × IssueValue)}
    (h : issue ∈ orderIssue failed code intent order evidence) :
    issue.code = code ∧ issue.intentId = some intent.intentId ∧
      issue.externalOrderId = some order.externalOrderId := by
  unfold orderIssue at h
  split_ifs at h
  · rw [List.mem_singleton.mp h]
    exact ⟨rfl, rfl, rfl⟩
  · exact absurd h List.not_mem_nil

/-- The issues of a matched order name its intent and the order. -/
theorem mem_matchedIssues {intent : IntentRow} {order : OfficialOrderSnapshot}
    (h : issue ∈ matchedIssues ledger t stale intent order) :
    issue.code ≠ .intentWithoutExternalResult ∧ issue.intentId = some intent.intentId ∧
      issue.externalOrderId = some order.externalOrderId := by
  have hone : ∀ {failed : Prop} [Decidable failed] {code : IssueCode}
      {evidence : List (String × IssueValue)}, code ≠ .intentWithoutExternalResult →
      issue ∈ orderIssue failed code intent order evidence →
      issue.code ≠ .intentWithoutExternalResult ∧ issue.intentId = some intent.intentId ∧
        issue.externalOrderId = some order.externalOrderId := by
    intro failed _ code evidence hcode hmem
    obtain ⟨heq, hrest⟩ := mem_orderIssue hmem
    exact ⟨heq ▸ hcode, hrest⟩
  unfold matchedIssues at h
  simp only [List.mem_append] at h
  rcases h with ((((((((h | h) | h) | h) | h) | h) | h) | h) | h) | h
  case inl.inl.inl.inl.inr =>
    split at h
    · exact absurd h List.not_mem_nil
    · exact hone (by decide) h
  all_goals exact hone (by decide) h

/-! ## The orders of the intents -/

/-- Every entry is an intent of the ledger that has the order. -/
def LocalOrders.Sound (ledger : Ledger) (orders : LocalOrders) : Prop :=
  ∀ entry ∈ orders.intentOf, entry.1 ∈ externalIds ledger entry.2.intentId

theorem LocalOrders.Sound.add {orders : LocalOrders} {intent : IntentRow} {id : String}
    (h : orders.Sound ledger) (hid : id ∈ externalIds ledger intent.intentId) :
    (orders.add intent id).Sound ledger := by
  unfold LocalOrders.add
  split
  · intro entry hentry
    rcases List.mem_append.mp hentry with hentry | hentry
    · exact h entry hentry
    · rw [List.mem_singleton.mp hentry]
      exact hid
  · split_ifs
    · exact h
    · exact h

theorem localOrders_sound (ledger : Ledger) : (localOrders ledger).Sound ledger := by
  have hids : ∀ (intent : IntentRow) (ids : List String) (orders : LocalOrders),
      (∀ id ∈ ids, id ∈ externalIds ledger intent.intentId) → orders.Sound ledger →
      (ids.foldl (fun orders id => orders.add intent id) orders).Sound ledger := by
    intro intent ids
    induction ids with
    | nil => exact fun orders _ h => h
    | cons id ids ih =>
      intro orders hmem h
      exact ih _ (fun other hother => hmem other (List.mem_cons_of_mem _ hother))
        (h.add (hmem id List.mem_cons_self))
  have hintents : ∀ (intents : List IntentRow) (orders : LocalOrders), orders.Sound ledger →
      (intents.foldl (fun orders intent => (externalIds ledger intent.intentId).foldl
        (fun orders id => orders.add intent id) orders) orders).Sound ledger := by
    intro intents
    induction intents with
    | nil => exact fun orders h => h
    | cons intent intents ih =>
      exact fun orders h => ih _ (hids intent _ orders (fun _ hid => hid) h)
  exact hintents ledger.intents {} fun _ hentry => absurd hentry List.not_mem_nil

theorem mem_of_lookup {α β : Type} [BEq α] [LawfulBEq α] {entries : List (α × β)} {key : α}
    {value : β} (h : entries.lookup key = some value) : (key, value) ∈ entries := by
  induction entries with
  | nil => cases h
  | cons entry entries ih =>
    rw [List.lookup_cons] at h
    split at h
    · next hkey =>
      rw [beq_iff_eq] at hkey
      cases h
      rw [hkey]
      exact List.mem_cons_self
    · exact List.mem_cons_of_mem _ (ih h)

/-- **The issues that name an intent**: its missing result, its blocked decision, or an order of it
that the snapshot lists. -/
theorem names_cases {intentId : String} (h : issue ∈ foundIssues ledger officialOrders t stale)
    (hname : issue.intentId = some intentId) :
    (∃ intent ∈ ledger.intents, intent.intentId = intentId ∧
        issue ∈ intentIssues ledger intent) ∨
      (issue.code ≠ .intentWithoutExternalResult ∧ ∃ order ∈ officialOrders,
        issue.externalOrderId = some order.externalOrderId ∧
          order.externalOrderId ∈ externalIds ledger intentId) := by
  unfold foundIssues at h
  simp only [List.mem_append, List.mem_flatMap, List.mem_map] at h
  rcases h with ((⟨intent, hintent, hissue⟩ | ⟨id, -, rfl⟩) | ⟨id, -, rfl⟩) | ⟨order, horder, hissue⟩
  · refine Or.inl ⟨intent, hintent, ?_, hissue⟩
    have hown : issue.intentId = some intent.intentId := by
      rcases List.mem_append.mp hissue with hmissing | hblocked
      · exact (mem_missingResultIssue hmissing).2.1
      · exact mem_blockedRiskIssue_intent hblocked
    rw [hown] at hname
    exact Option.some.inj hname
  · cases hname
  · cases hname
  · have hlisted : order ∈ officialOrders := by
      obtain ⟨id, -, hfind⟩ := List.mem_filterMap.mp horder
      exact List.mem_of_find?_eq_some hfind
    unfold orderIssues at hissue
    split at hissue
    · rw [List.mem_singleton.mp hissue] at hname
      cases hname
    · next intent hlookup =>
      obtain ⟨hcode, hown, horderId⟩ := mem_matchedIssues hissue
      rw [hown, Option.some.injEq] at hname
      refine Or.inr ⟨hcode, order, hlisted, horderId, ?_⟩
      rw [← hname]
      exact localOrders_sound ledger _ (mem_of_lookup hlookup)

/-- The issue of a missing result names an intent. -/
theorem missing_names (h : issue ∈ foundIssues ledger officialOrders t stale)
    (hcode : issue.code = .intentWithoutExternalResult) :
    issue.intentId = some (orEmpty issue.intentId) := by
  unfold foundIssues at h
  simp only [List.mem_append, List.mem_flatMap, List.mem_map] at h
  rcases h with ((⟨intent, -, hissue⟩ | ⟨id, -, rfl⟩) | ⟨id, -, rfl⟩) | ⟨order, -, hissue⟩
  · rcases List.mem_append.mp hissue with hmissing | hblocked
    · rw [(mem_missingResultIssue hmissing).2.1]
      rfl
    · rw [(mem_blockedRiskIssue hblocked).1] at hcode
      cases hcode
  · cases hcode
  · cases hcode
  · unfold orderIssues at hissue
    split at hissue
    · rw [List.mem_singleton.mp hissue] at hcode
      cases hcode
    · exact absurd hcode (mem_matchedIssues hissue).1

end Issues

theorem issueText_injective : Function.Injective IssueCode.text := by
  intro a b h
  cases a <;> cases b <;> first | rfl | (revert h; decide)

/-! ## Agreement -/

section Agreement

variable {ledger : Ledger} {intentId : String}

theorem wasRejected_of_terminal (h : terminalEvent ledger intentId = some .rejected) :
    wasRejected ledger intentId = true := by
  unfold terminalEvent at h
  obtain ⟨event, hfind, htype⟩ := Option.map_eq_some_iff.mp h
  have hmatch := List.find?_some hfind
  simp only [Bool.and_eq_true, beq_iff_eq] at hmatch
  have hmem := List.mem_reverse.mp (List.mem_of_find?_eq_some hfind)
  refine List.any_eq_true.mpr ⟨event, ?_, by rw [htype]; rfl⟩
  exact List.mem_filter.mpr ⟨hmem, by rw [hmatch.1]; exact beq_self_eq_true _⟩

theorem externalIds_ne_nil {event : EventRow} (hmem : event ∈ ledger.events)
    (hid : event.intentId = intentId) (horder : orEmpty event.externalOrderId ≠ "") :
    externalIds ledger intentId ≠ [] := by
  have hin : orEmpty event.externalOrderId ∈ externalIds ledger intentId := by
    unfold externalIds
    rw [List.mem_dedup, List.mem_filter]
    refine ⟨List.mem_map.mpr ⟨event, List.mem_filter.mpr ⟨hmem, ?_⟩, rfl⟩, by simpa using horder⟩
    rw [hid]
    exact beq_self_eq_true _
  exact List.ne_nil_of_mem hin

/-- An intent that an official row reports without a fill has an order. -/
theorem Backed.externalIds_of_zeroFill {t : Timestamp} (h : Backed ledger)
    (hzero : intentId ∈ zeroFillIntents (rowsUpTo ledger t)) : externalIds ledger intentId ≠ [] := by
  obtain ⟨row, hrow, hid⟩ := List.mem_map.mp hzero
  obtain ⟨hmem, hreports⟩ := List.mem_filter.mp hrow
  have hrow' : row ∈ ledger.reconciliations := by
    unfold rowsUpTo at hmem
    exact List.mem_of_mem_filter ((mem_latestFirst _).mp hmem)
  have hkind : IsZeroFill row := by
    simp only [reportsZeroFill, Bool.and_eq_true, beq_iff_eq] at hreports
    exact hreports.1.1.1.1.1.1.1.1.2
  obtain ⟨event, hevent, howner, horder⟩ := h.rows row hrow' hkind
  exact externalIds_ne_nil hevent (howner.trans hid) horder

/-- **What is resolved is not reported**: an intent that was rejected or reconciled without a fill
is named only for an order of it that the venue lists. -/
theorem reported_order {officialOrders : List OfficialOrderSnapshot} {t t' : Timestamp}
    {stale : Decimal} (h : Backed ledger)
    (hresolved : intentId ∈ zeroFillIntents (rowsUpTo ledger t) ∨
      terminalEvent ledger intentId = some .rejected)
    {issue : ReconciliationIssue}
    (hissue : issue ∈ reconciliationIssues ledger officialOrders t' stale)
    (hname : issue.intentId = some intentId) :
    ∃ order ∈ officialOrders, issue.externalOrderId = some order.externalOrderId ∧
      order.externalOrderId ∈ externalIds ledger intentId := by
  rcases names_cases (mem_reconciliationIssues hissue) hname with
    ⟨intent, hintent, rfl, hown⟩ | ⟨-, hlisted⟩
  · exfalso
    rcases List.mem_append.mp hown with hmissing | hblocked
    · obtain ⟨-, -, hnot, hnone⟩ := mem_missingResultIssue hmissing
      rcases hresolved with hzero | hrejected
      · exact h.externalIds_of_zeroFill hzero hnone
      · rw [wasRejected_of_terminal hrejected] at hnot
        cases hnot
    · exact (mem_blockedRiskIssue hblocked).2 (h.intents intent hintent)
  · exact hlisted

/-- An intent without a rejection and without an order is reported. -/
theorem reported_of_missing {officialOrders : List OfficialOrderSnapshot} {t : Timestamp}
    {stale : Decimal} {intent : IntentRow} (hintent : intent ∈ ledger.intents)
    (hnot : wasRejected ledger intent.intentId = false)
    (hnone : externalIds ledger intent.intentId = []) :
    Reported ledger officialOrders t stale intent.intentId := by
  have hfound : ({ code := .intentWithoutExternalResult
                   critical := true
                   intentId := some intent.intentId
                   evidence := [("prediction_id", .text intent.payload.predictionId)] } :
      ReconciliationIssue) ∈ foundIssues ledger officialOrders t stale := by
    unfold foundIssues
    simp only [List.mem_append, List.mem_flatMap]
    refine Or.inl (Or.inl (Or.inl ⟨intent, hintent, List.mem_append_left _ ?_⟩))
    unfold missingResultIssue
    rw [if_pos ⟨hnot, hnone⟩]
    exact List.mem_singleton_self _
  obtain ⟨kept, hkept, hkey⟩ := deduplicate_key _ _ hfound
  simp only [issueKey, Prod.mk.injEq] at hkey
  have hcode : kept.code = .intentWithoutExternalResult := issueText_injective hkey.1
  refine ⟨kept, ?_, ?_⟩
  · unfold reconciliationIssues
    exact (List.mem_insertionSort issueLe).mpr hkept
  -- only the issue of a missing result has this code, and it names its intent
  · have hname : kept.intentId = some (orEmpty kept.intentId) :=
      missing_names (deduplicate_subset _ kept hkept) hcode
    rw [hname, hkey.2.2]
    rfl

end Agreement

/-- **The two views**, on every reachable ledger and for every snapshot of the venue: an intent that
was rejected or reconciled without a fill is named only for an order of it that the snapshot lists;
and an intent that is not named is resolved, unless one of its events has an external order or
another event than its latest terminal one rejected it. -/
theorem views_agree (D : Digests) (hclean : CleanRiskIds D) (ops : List LiveOp)
    (officialOrders : List OfficialOrderSnapshot) (t t' : Timestamp) (stale : Decimal)
    (intent : IntentRow) (hintent : intent ∈ (liveLedgerAfter D ops).intents) :
    ((intent.intentId ∈ zeroFillIntents (rowsUpTo (liveLedgerAfter D ops) t) ∨
        terminalEvent (liveLedgerAfter D ops) intent.intentId = some .rejected) →
      ∀ issue ∈ reconciliationIssues (liveLedgerAfter D ops) officialOrders t' stale,
        issue.intentId = some intent.intentId →
        ∃ order ∈ officialOrders, issue.externalOrderId = some order.externalOrderId ∧
          order.externalOrderId ∈ externalIds (liveLedgerAfter D ops) intent.intentId) ∧
    (¬ Reported (liveLedgerAfter D ops) officialOrders t' stale intent.intentId →
      Resolved (liveLedgerAfter D ops) t intent.intentId ∨
        externalIds (liveLedgerAfter D ops) intent.intentId ≠ [] ∨
        (wasRejected (liveLedgerAfter D ops) intent.intentId = true ∧
          terminalEvent (liveLedgerAfter D ops) intent.intentId ≠ some .rejected)) := by
  refine ⟨fun hresolved issue hissue hname => ?_, fun hquiet => ?_⟩
  · exact reported_order (backed_liveLedgerAfter hclean ops) hresolved hissue hname
  · by_cases hnone : externalIds (liveLedgerAfter D ops) intent.intentId = []
    · by_cases hlatest : terminalEvent (liveLedgerAfter D ops) intent.intentId = some .rejected
      · exact Or.inl (Or.inr (by rw [hlatest]; rfl))
      · refine Or.inr (Or.inr ⟨?_, hlatest⟩)
        by_contra hnot
        exact hquiet (reported_of_missing hintent (Bool.not_eq_true _ ▸ hnot) hnone)
    · exact Or.inr (Or.inl hnone)

/-- The sample digests with identifiers of risk decisions that have no blanks. -/
def cleanDigests : Digests :=
  { sampleDigests with
    riskDecisionId := fun payload =>
      if payload.predictionId = "a" then "live-risk-a" else "live-risk-b" }

theorem cleanDigests_riskIds : CleanRiskIds cleanDigests := by
  intro payload
  unfold cleanDigests
  dsimp only
  split_ifs <;> decide

/-- The accepted order of prediction `a`. -/
def sampleAccepted : List LiveOp :=
  [.canary (.fastLive (samplePrepare "a" 1)),
    .canary (.fastLive (.result (sampleResult "a" .accepted) 2))]

/-- The rejected order of prediction `a`. -/
def sampleRejected : List LiveOp :=
  [.canary (.fastLive (samplePrepare "a" 1)),
    .canary (.fastLive (.result (sampleResult "a" .rejected) 2))]

/-- After the rejection the intent is there, and the reconciliation without official orders does not
name it. -/
theorem views_agree_sample :
    (∃ intent ∈ (liveLedgerAfter cleanDigests sampleRejected).intents,
      intent.intentId = "live-intent-a") ∧
    ∀ issue ∈ reconciliationIssues (liveLedgerAfter cleanDigests sampleRejected) [] 3 0,
      issue.intentId ≠ some "live-intent-a" := by
  obtain ⟨intent, hintent, hid⟩ :
      ∃ intent ∈ (liveLedgerAfter cleanDigests sampleRejected).intents,
        intent.intentId = "live-intent-a" := by decide +kernel
  refine ⟨⟨intent, hintent, hid⟩, fun issue hissue hname => ?_⟩
  rw [← hid] at hname
  have hrejected : terminalEvent (liveLedgerAfter cleanDigests sampleRejected) intent.intentId =
      some .rejected := by
    rw [hid]
    decide +kernel
  obtain ⟨order, horder, -⟩ := (views_agree cleanDigests cleanDigests_riskIds sampleRejected [] 3 3 0
    intent hintent).1 (Or.inr hrejected) issue hissue hname
  exact absurd horder List.not_mem_nil

/-- **The views disagree on an accepted order** that the venue does not list: the account snapshot
counts it, and the reconciliation does not name it. -/
theorem not_views_agree :
    ¬ ∀ (D : Digests) (ops : List LiveOp) (officialOrders : List OfficialOrderSnapshot)
      (t : Timestamp) (stale : Decimal), ∀ intent ∈ (liveLedgerAfter D ops).intents,
      CleanRiskIds D → ShowsNothing (liveLedgerAfter D ops) officialOrders intent.intentId →
      (Resolved (liveLedgerAfter D ops) t intent.intentId ↔
        ¬ Reported (liveLedgerAfter D ops) officialOrders t stale intent.intentId) := by
  intro hall
  obtain ⟨intent, hintent, hid⟩ :
      ∃ intent ∈ (liveLedgerAfter cleanDigests sampleAccepted).intents,
        intent.intentId = "live-intent-a" := by decide +kernel
  have hiff := hall cleanDigests sampleAccepted [] 3 0 intent hintent cleanDigests_riskIds
    fun _ horder => absurd horder List.not_mem_nil
  rw [hid] at hiff
  have hopen : ¬ Resolved (liveLedgerAfter cleanDigests sampleAccepted) 3 "live-intent-a" := by
    decide +kernel
  have hquiet : ¬ Reported (liveLedgerAfter cleanDigests sampleAccepted) [] 3 0
      "live-intent-a" := by decide +kernel
  exact hopen (hiff.mpr hquiet)

end BpEngine.LiveReadiness
