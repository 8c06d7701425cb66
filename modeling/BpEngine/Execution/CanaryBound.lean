import BpEngine.Execution.Exclusive

/-!
# The bound on the canaries

How many canary intents get a submission event, and how many are open at a time, in runs of the
three operations of the canary under one authorization.

* `Canaries` is the invariant: all canary intents but the latest have a terminal event.
* `engaged` says that an intent is open or was submitted; only a preparation makes another intent
  engaged, and it does so below the limit (`CanaryPrepared`).
* `canaryBound_run` is the bound for runs that record no submission of a closed intent;
  `openCanaries_le_one` needs no condition.
* A late submission of a closed intent takes the place of no other one (`not_canaryBound`).
-/

namespace BpEngine.Canary

open BpEngine.Execution BpEngine.FastLive BpEngine.LiveReadiness

/-! ## The bound -/

/-- The intents of the canary, in the order they were created. -/
def canaryIntents (ledger : Ledger) : List IntentRow :=
  ledger.intents.filter (·.payload.policyVersion == canaryPolicyVersion)

/-- The intent has a submission event. -/
def submitted (ledger : Ledger) (intent : IntentRow) : Bool :=
  hasEvent ledger intent.intentId EventType.isSubmissionAttempt

/-- The intent has no terminal event. -/
def isOpen (ledger : Ledger) (intent : IntentRow) : Bool :=
  !hasEvent ledger intent.intentId EventType.isTerminal

/-- At most `limit` canary intents were submitted, and at most one is open. -/
structure CanaryBound (limit : ℤ) (ledger : Ledger) : Prop where
  attempts : ((canaryIntents ledger).countP (submitted ledger) : ℤ) ≤ limit
  openIntents : (canaryIntents ledger).countP (isOpen ledger) ≤ 1

/-- An operation of the canary under the authorization of `limit` submissions. -/
def UnderAuthorization (limit : ℤ) : CanaryOp → Prop
  | .prepare input => input.authorizedSubmissionAttemptLimit = limit
  | .submission _ _ _ => True
  | .reconcile _ _ _ _ => True
  | _ => False

instance (limit : ℤ) (op : CanaryOp) : Decidable (UnderAuthorization limit op) := by
  cases op <;> unfold UnderAuthorization <;> infer_instance

/-! ## Open intents -/

/-- All canary intents but the latest have a terminal event. -/
def Canaries (ledger : Ledger) : Prop :=
  ∀ intent ∈ (canaryIntents ledger).dropLast, isOpen ledger intent = false

/-- An intent is open or was submitted. -/
def engaged (ledger : Ledger) (intent : IntentRow) : Bool :=
  isOpen ledger intent || submitted ledger intent

theorem isOpen_eq_false {ledger : Ledger} {intent : IntentRow} :
    isOpen ledger intent = false ↔ terminalEvent ledger intent.intentId ≠ none := by
  unfold isOpen terminalEvent
  rw [Bool.not_eq_false', hasEvent_iff, ne_eq, Option.map_eq_none_iff, List.find?_eq_none]
  simp

/-- The pending intent is the last canary intent, while it has no terminal event. -/
theorem pendingIntentId_of_getLast {ledger : Ledger} {pending : IntentRow}
    (hlast : (canaryIntents ledger).getLast? = some pending) :
    pendingIntentId ledger =
      if terminalEvent ledger pending.intentId = none then some pending.intentId else none := by
  unfold canaryIntents at hlast
  unfold pendingIntentId
  rw [hlast]

/-- Without a pending intent no canary intent is open. -/
theorem Canaries.closed {ledger : Ledger} (h : Canaries ledger)
    (hpending : pendingIntentId ledger = none) :
    ∀ intent ∈ canaryIntents ledger, isOpen ledger intent = false := by
  intro intent hmem
  have hne : canaryIntents ledger ≠ [] := List.ne_nil_of_mem hmem
  rw [← List.dropLast_append_getLast hne, List.mem_append, List.mem_singleton] at hmem
  rcases hmem with hmem | rfl
  · exact h intent hmem
  · have hlast : (canaryIntents ledger).getLast? = some ((canaryIntents ledger).getLast hne) :=
      List.getLast?_eq_some_getLast hne
    rw [isOpen_eq_false]
    intro hnone
    have hfound := pendingIntentId_of_getLast hlast
    rw [hpending, if_pos hnone] at hfound
    cases hfound

theorem Canaries.countP_le_one {ledger : Ledger} (h : Canaries ledger) :
    (canaryIntents ledger).countP (isOpen ledger) ≤ 1 := by
  by_cases hne : canaryIntents ledger = []
  · rw [hne]
    exact Nat.zero_le 1
  · rw [← List.dropLast_append_getLast hne, List.countP_append, List.countP_eq_zero.mpr]
    · have := List.countP_le_length (p := isOpen ledger)
        (l := [(canaryIntents ledger).getLast hne])
      rw [List.length_singleton] at this
      omega
    · intro intent hmem
      rw [h intent hmem]
      exact Bool.false_ne_true

/-! ## Counting -/

/-- What has at least one each is at most the total. -/
theorem countP_le_sum {α : Type} {p : α → Bool} {f : α → ℕ} (l : List α)
    (h : ∀ a ∈ l, p a = true → 1 ≤ f a) : l.countP p ≤ (l.map f).sum := by
  induction l with
  | nil => exact Nat.zero_le _
  | cons a l ih =>
    have hrest := ih fun b hb => h b (List.mem_cons_of_mem a hb)
    rw [List.map_cons, List.sum_cons]
    by_cases hp : p a = true
    · have hone := h a List.mem_cons_self hp
      rw [List.countP_cons_of_pos hp]
      omega
    · rw [List.countP_cons_of_neg hp]
      omega

/-- Every submitted intent is counted by `_submission_attempt_count`. -/
theorem submitted_le_count (ledger : Ledger) :
    (canaryIntents ledger).countP (submitted ledger) ≤ submissionAttemptCount ledger := by
  refine countP_le_sum _ fun intent _ hs => ?_
  obtain ⟨event, hevent, hid, htype⟩ := hasEvent_iff.mp hs
  refine List.length_pos_of_mem (a := event) (List.mem_filter.mpr ⟨hevent, ?_⟩)
  simp [hid, htype]

theorem submitted_le_engaged (ledger : Ledger) :
    (canaryIntents ledger).countP (submitted ledger) ≤
      (canaryIntents ledger).countP (engaged ledger) := by
  refine List.countP_mono_left fun intent _ hs => ?_
  rw [engaged, hs, Bool.or_true]

/-! ## One operation -/

section Step

variable {D : Digests} {ledger after : Ledger} {limit : ℤ}

/-- A terminal event stays. -/
theorem hasEvent_grow {before after : Ledger} {intentId subject : String}
    {types written : EventType → Bool} (hg : Growth before after subject written)
    (h : hasEvent before intentId types = true) : hasEvent after intentId types = true := by
  obtain ⟨event, hmem, hevent⟩ := hasEvent_iff.mp h
  have happended : ∃ extra, after.events = before.events ++ extra := by
    rcases hg.events with ⟨-, extra, heq, -⟩ | ⟨type, -, -, -, write⟩
    · exact ⟨extra, heq⟩
    · obtain ⟨extra, heq, -⟩ := write.appended
      exact ⟨extra, heq⟩
  obtain ⟨extra, heq⟩ := happended
  exact hasEvent_iff.mpr ⟨event, by rw [heq]; exact List.mem_append_left _ hmem, hevent⟩

theorem isOpen_grow {intent : IntentRow} {subject : String} {types : EventType → Bool}
    (hg : Growth ledger after subject types) (h : isOpen ledger intent = false) :
    isOpen after intent = false := by
  unfold isOpen at h ⊢
  rw [Bool.not_eq_false'] at h ⊢
  exact hasEvent_grow hg h

theorem isOpen_congr (h : after.events = ledger.events) : isOpen after = isOpen ledger := by
  funext intent
  unfold isOpen hasEvent
  rw [h]

theorem submitted_congr (h : after.events = ledger.events) :
    submitted after = submitted ledger := by
  funext intent
  unfold submitted hasEvent
  rw [h]

/-- A new intent of the canary is the latest of them. -/
theorem canaryIntents_append {new : IntentRow} (h : after.intents = ledger.intents ++ [new])
    (hversion : new.payload.policyVersion = canaryPolicyVersion) :
    canaryIntents after = canaryIntents ledger ++ [new] := by
  unfold canaryIntents
  rw [h, List.filter_append]
  simp [hversion]

theorem canaryIntents_same (h : after.intents = ledger.intents) :
    canaryIntents after = canaryIntents ledger := by
  unfold canaryIntents
  rw [h]

/-- A preparation keeps all canary intents but the latest closed. -/
theorem CanaryPrepared.canaries (hs : CanaryPrepared ledger after limit) (h : Canaries ledger) :
    Canaries after := by
  unfold Canaries
  rw [isOpen_congr hs.events]
  rcases hs.intents with heq | ⟨new, heq, -, -, hversion, -, hpending⟩
  · rw [canaryIntents_same heq]
    exact h
  · rw [canaryIntents_append heq hversion, List.dropLast_concat]
    exact h.closed hpending

/-- A preparation makes another intent engaged only below the limit. -/
theorem CanaryPrepared.engaged_le (hs : CanaryPrepared ledger after limit) (h : Canaries ledger)
    (hle : ((canaryIntents ledger).countP (engaged ledger) : ℤ) ≤ limit) :
    ((canaryIntents after).countP (engaged after) : ℤ) ≤ limit := by
  have hengaged : engaged after = engaged ledger := by
    funext intent
    rw [engaged, isOpen_congr hs.events, submitted_congr hs.events, engaged]
  rw [hengaged]
  rcases hs.intents with heq | ⟨new, heq, -, -, hversion, hcount, hpending⟩
  · rw [canaryIntents_same heq]
    exact hle
  · have hclosed := h.closed hpending
    have hold : (canaryIntents ledger).countP (engaged ledger) =
        (canaryIntents ledger).countP (submitted ledger) := by
      refine List.countP_congr fun intent hmem => ?_
      rw [engaged, hclosed intent hmem, Bool.false_or]
    have hsubmitted := submitted_le_count ledger
    have hnew := List.countP_le_length (p := engaged ledger) (l := [new])
    rw [List.length_singleton] at hnew
    rw [canaryIntents_append heq hversion, List.countP_append]
    omega

/-- A submission of an intent that was not closed makes no other intent engaged. -/
theorem engaged_submission {intentId : String} {type : EventType}
    (hw : EventWrite ledger.events after.events intentId type)
    (htype : type.isSubmissionAttempt = true)
    (hclosed : hasEvent ledger intentId (· == .closedBeforeSubmission) = false) :
    engaged after = engaged ledger := by
  funext intent
  by_cases hid : intent.intentId = intentId
  · have hafter : submitted after intent = true := by
      unfold submitted
      rw [hid]
      exact hasEvent_write_self hw htype
    have hbefore : engaged ledger intent = true := by
      unfold engaged isOpen submitted
      rw [hid]
      by_contra hnot
      simp only [Bool.not_eq_true, Bool.or_eq_false_iff, Bool.not_eq_false'] at hnot
      obtain ⟨event, hmem, hevent, hterminal⟩ := hasEvent_iff.mp hnot.1
      have hneither : event.eventType ≠ .closedBeforeSubmission ∧
          event.eventType.isSubmissionAttempt = false := by
        constructor
        · intro heq
          have hsome : hasEvent ledger intentId (· == .closedBeforeSubmission) = true :=
            hasEvent_iff.mpr ⟨event, hmem, hevent, by rw [heq]; rfl⟩
          rw [hclosed] at hsome
          cases hsome
        · by_contra hattempt
          rw [Bool.not_eq_false] at hattempt
          have hsome := hasEvent_iff.mpr ⟨event, hmem, hevent, hattempt⟩
          rw [hnot.2] at hsome
          cases hsome
      simp [EventType.isTerminal, hneither] at hterminal
    rw [hbefore, engaged, hafter, Bool.or_true]
  · unfold engaged isOpen submitted
    rw [hasEvent_write_ne hw hid, hasEvent_write_ne hw hid]

/-- A close of an intent that was not submitted makes no intent engaged. -/
theorem engaged_close {intentId : String}
    (hw : EventWrite ledger.events after.events intentId .closedBeforeSubmission)
    (hnone : hasEvent ledger intentId EventType.isSubmissionAttempt = false)
    (intent : IntentRow) (h : engaged after intent = true) : engaged ledger intent = true := by
  have hsubmitted := hasEvent_write_other hw attempt_terminal rfl intent.intentId
  by_cases hid : intent.intentId = intentId
  · unfold engaged isOpen submitted at h
    rw [hid] at h hsubmitted
    rw [hsubmitted, hnone, hasEvent_write_self hw rfl] at h
    cases h
  · unfold engaged isOpen submitted at h ⊢
    rwa [hasEvent_write_ne hw hid, hsubmitted] at h

/-- An operation of the canary keeps all canary intents but the latest closed. -/
theorem canaries_exec {op : CanaryOp} (hO : Owned ledger) (hauth : UnderAuthorization limit op)
    (h : Canaries ledger) : Canaries (execCanary D ledger op) := by
  have hgrown : ∀ {after : Ledger} {subject : String} {types : EventType → Bool},
      Growth ledger after subject types → after.intents = ledger.intents → Canaries after := by
    intro after subject types hg hsame intent hmem
    rw [canaryIntents_same hsame] at hmem
    exact isOpen_grow hg (h intent hmem)
  rcases execCanary_cases D ledger op with hsame | hok
  · rwa [hsame]
  cases op with
  | fastLive op => exact hauth.elim
  | executorResult result t => exact hauth.elim
  | prepare input =>
    obtain ⟨response, hr⟩ := map_fst_eq_ok.mp hok
    exact (prepare_spec hr).canaries h
  | submission intentId t result =>
    obtain ⟨response, hr⟩ := map_fst_eq_ok.mp hok
    exact hgrown (submission_growth hO hr).1 (submission_growth hO hr).2
  | reconcile intentId t reason health =>
    obtain ⟨response, hr⟩ := map_fst_eq_ok.mp hok
    exact hgrown (reconcile_growth hO hr).1 (reconcile_growth hO hr).2.1

/-- **An operation that records no submission of a closed intent keeps the engaged intents within
the limit.** -/
theorem engaged_exec {op : CanaryOp} (hO : Owned ledger) (hauth : UnderAuthorization limit op)
    (halone : WritesAlone D ledger op) (h : Canaries ledger)
    (hle : ((canaryIntents ledger).countP (engaged ledger) : ℤ) ≤ limit) :
    ((canaryIntents (execCanary D ledger op)).countP (engaged (execCanary D ledger op)) : ℤ)
      ≤ limit := by
  by_cases hsame : execCanary D ledger op = ledger
  · rwa [hsame]
  have hok := (execCanary_cases D ledger op).resolve_left hsame
  cases op with
  | fastLive op => exact hauth.elim
  | executorResult result t => exact hauth.elim
  | prepare input =>
    obtain ⟨response, hr⟩ := map_fst_eq_ok.mp hok
    have hs := prepare_spec hr
    rw [hauth] at hs
    exact hs.engaged_le h hle
  | submission intentId t result =>
    obtain ⟨response, hr⟩ := map_fst_eq_ok.mp hok
    have hclosed := ((writesAlone_iff hO).mp halone).resolve_left hsame
    obtain ⟨hg, hintents⟩ := submission_growth hO hr
    rw [canaryIntents_same hintents]
    rcases hg.events with ⟨idle, -⟩ | ⟨type, hasType, -, -, write⟩
    · have haccepted := idle.resolve_left hsame .accepted
      cases haccepted
    · rw [engaged_submission write hasType hclosed]
      exact hle
  | reconcile intentId t reason health =>
    obtain ⟨response, hr⟩ := map_fst_eq_ok.mp hok
    obtain ⟨hg, hintents, hnone⟩ := reconcile_growth hO hr
    rw [canaryIntents_same hintents]
    rcases hg.events with ⟨idle, -⟩ | ⟨type, hasType, -, -, write⟩
    · have hclose := idle.resolve_left hsame .closedBeforeSubmission
      cases hclose
    · rw [beq_iff_eq] at hasType
      rw [hasType] at write
      have hmono := List.countP_mono_left (l := canaryIntents ledger)
        fun intent _ => engaged_close write hnone intent
      omega

end Step

/-! ## The run -/

theorem canaries_empty : Canaries {} := by
  rintro intent ⟨⟩

/-- At most one canary intent is open, in every run of the operations of the canary. -/
theorem openCanaries_le_one (D : Digests) (limit : ℤ) (ops : List CanaryOp)
    (hauth : ∀ op ∈ ops, UnderAuthorization limit op) :
    (canaryIntents (canaryLedgerAfter D ops)).countP (isOpen (canaryLedgerAfter D ops)) ≤ 1 := by
  have hkept : Owned (canaryLedgerAfter D ops) ∧ Canaries (canaryLedgerAfter D ops) := by
    refine Machine.run_invariant (execCanary D) (J := fun ledger => Owned ledger ∧ Canaries ledger)
      ?_ ⟨.empty, canaries_empty⟩ (Machine.along_of_forall (execCanary D) hauth {})
    rintro ledger op ⟨hO, h⟩ hop
    exact ⟨owned_exec op hO, canaries_exec hO hop h⟩
  exact hkept.2.countP_le_one

/-- **The bound on the canaries**: in a run under an authorization of one or two submissions that
records no submission of a closed intent, at most that many canary intents are submitted and at
most one is open. -/
theorem canaryBound_run (D : Digests) (limit : ℤ) (ops : List CanaryOp)
    (hlimit : limit = canaryMaxSubmissionAttempts ∨ limit = 2)
    (hauth : ∀ op ∈ ops, UnderAuthorization limit op)
    (halone : Machine.Along (execCanary D) (WritesAlone D) {} ops) :
    CanaryBound limit (canaryLedgerAfter D ops) := by
  have hkept : Owned (canaryLedgerAfter D ops) ∧ Canaries (canaryLedgerAfter D ops) ∧
      ((canaryIntents (canaryLedgerAfter D ops)).countP (engaged (canaryLedgerAfter D ops)) : ℤ)
        ≤ limit := by
    refine Machine.run_invariant (execCanary D)
      (J := fun ledger => Owned ledger ∧ Canaries ledger ∧
        ((canaryIntents ledger).countP (engaged ledger) : ℤ) ≤ limit)
      ?_ ⟨.empty, canaries_empty, ?_⟩
      ((Machine.along_of_forall (execCanary D) hauth {}).and halone)
    · rintro ledger op ⟨hO, h, hle⟩ ⟨hop, hwrites⟩
      exact ⟨owned_exec op hO, canaries_exec hO hop h, engaged_exec hO hop hwrites h hle⟩
    · show (0 : ℤ) ≤ limit
      rcases hlimit with rfl | rfl <;> decide
  refine ⟨?_, hkept.2.1.countP_le_one⟩
  have hle := submitted_le_engaged (canaryLedgerAfter D ops)
  have hbound := hkept.2.2
  omega

/-- A canary that is prepared and submitted is the one submission of the authorization. -/
theorem canaryBound_sample :
    CanaryBound 1 (canaryLedgerAfter sampleDigests
      [.prepare (sampleCanaryInput "a" 1), .submission "live-intent-a" 2 sampleRejection]) :=
  canaryBound_run sampleDigests 1 _ (Or.inl rfl) (by decide) (by decide +kernel)

/-- Canary `a` is prepared and closed, canary `b` prepared, and then both submissions are
recorded. -/
def sampleLateSubmissions : List CanaryOp :=
  [.prepare (sampleCanaryInput "a" 1),
    .reconcile "live-intent-a" 2 "operator closed the canary" sampleHealth,
    .prepare (sampleCanaryInput "b" 3),
    .submission "live-intent-a" 4 sampleRejection,
    .submission "live-intent-b" 5 sampleRejection]

/-- **Two canary intents are submitted under an authorization of one**: the late submission of the
closed intent does not count against the one prepared after it. -/
theorem not_canaryBound :
    ¬ ∀ (D : Digests) (limit : ℤ) (ops : List CanaryOp),
      limit = canaryMaxSubmissionAttempts ∨ limit = 2 →
      (∀ op ∈ ops, UnderAuthorization limit op) →
      CanaryBound limit (canaryLedgerAfter D ops) := by
  intro hall
  have hbound := (hall sampleDigests 1 sampleLateSubmissions (Or.inl rfl) (by decide)).attempts
  have htwo : (canaryIntents (canaryLedgerAfter sampleDigests sampleLateSubmissions)).countP
      (submitted (canaryLedgerAfter sampleDigests sampleLateSubmissions)) = 2 := by decide +kernel
  rw [htwo] at hbound
  norm_num at hbound

end BpEngine.Canary
