import BpEngine.Execution.Gateway
import BpEngine.FastLive.Redelivery

/-!
# At most one submission for a prediction and a policy

How often the client is given an order for a prediction under a policy version, in any interleaving
of calls of the gateway, with exceptions, crashes and rows of other operations.

* The intent is stored under the stripped policy version and looked up under the version as it is;
  `FindsIntent` says that the lookup of a call misses no intent of its instant.
* `gatewayProtocol` is what a call does: it persists, and it submits once at most, for the intent it
  persisted.
* `gateway_submittedOnce` is the theorem for runs in which every lookup finds the intent;
  `not_submittedOnce` is a run in which one misses it.
-/

namespace BpEngine.Gateway

open BpEngine.Execution BpEngine.FastLive BpEngine.LiveReadiness BpEngine.Canary BpEngine.Table

/-! ## The claim and its condition -/

/-- The client was given at most one order for every prediction and policy version. -/
def SubmittedOnce (world : GatewayWorld) : Prop :=
  ∀ predictionId policyVersion, world.submissions.countP (fun submission =>
    submission.predictionId == predictionId && submission.policyVersion == policyVersion) ≤ 1

/-- The lookup of a call misses no intent that was stored for the prediction at this instant: the
version the intent was stored under is the one it is looked up under. -/
def FindsIntent (ledger : Ledger) (call : SubmitCall) : Prop :=
  ∀ row ∈ ledger.intents, row.payload.predictionId = call.request.predictionId →
    row.payload.policyVersion = strip call.policy.policyVersion →
    row.payload.preSubmitAt = call.observedAt →
    strip call.policy.policyVersion = call.policy.policyVersion

instance (ledger : Ledger) (call : SubmitCall) : Decidable (FindsIntent ledger call) := by
  unfold FindsIntent; infer_instance

/-! ## The key of an intent -/

/-- The prediction and the policy version an intent is stored under. -/
abbrev IntentKey := String × String

/-- The key the intent of an order is stored under. -/
def Submission.key (submission : Submission) : IntentKey :=
  (submission.predictionId, strip submission.policyVersion)

/-- The table has an intent with the key. -/
def hasIntent (ledger : Ledger) (key : IntentKey) : Bool :=
  ledger.intents.any fun row =>
    row.payload.predictionId == key.1 && row.payload.policyVersion == key.2

theorem hasIntent_iff {ledger : Ledger} {key : IntentKey} :
    hasIntent ledger key = true ↔ ∃ row ∈ ledger.intents,
      row.payload.predictionId = key.1 ∧ row.payload.policyVersion = key.2 := by
  simp [hasIntent, List.any_eq_true]

theorem hasIntent_congr {before after : Ledger} (h : after.intents = before.intents) :
    hasIntent after = hasIntent before := by
  funext key
  unfold hasIntent
  rw [h]

theorem hasIntent_append {before after : Ledger} {extra : List IntentRow}
    (h : after.intents = before.intents ++ extra) {key : IntentKey}
    (hkey : hasIntent before key = true) : hasIntent after key = true := by
  obtain ⟨row, hrow, hmatch⟩ := hasIntent_iff.mp hkey
  exact hasIntent_iff.mpr ⟨row, by rw [h]; exact List.mem_append_left _ hrow, hmatch⟩

theorem text_eq_ok {value name text : String} (h : LiveReadiness.text value name = .ok text) :
    text = strip value := by
  unfold LiveReadiness.text at h
  split_ifs at h
  · exact absurd h raise_ne_ok
  · exact (Except.ok.inj h).symm

/-- **A stored intent**: there was an intent with its key and its instant, or it is the first one
with its key. -/
theorem storeOrderIntent_key {D : Digests} {ledger : Ledger}
    {predictionId policyVersion requestId riskDecisionId tokenId side : String}
    {size limitPrice : Decimal} {t : Timestamp} {evidence : IntentEvidence}
    {stored : StoreResult IntentRow}
    (h : storeOrderIntent D ledger predictionId policyVersion requestId riskDecisionId tokenId side
      size limitPrice t evidence = .ok stored) :
    (stored.ledger.intents = ledger.intents ∧ ∃ row ∈ ledger.intents,
        row.payload.predictionId = strip predictionId ∧
        row.payload.policyVersion = strip policyVersion ∧ row.payload.preSubmitAt = t) ∨
      (hasIntent ledger (strip predictionId, strip policyVersion) = false ∧
        hasIntent stored.ledger (strip predictionId, strip policyVersion) = true ∧
        ∃ new, stored.ledger.intents = ledger.intents ++ [new]) := by
  simp only [storeOrderIntent, bind_eq_ok, require_eq_ok, Except.ok.injEq] at h
  obtain ⟨prediction, hprediction, version, hversion, request, -, riskId, -, token, -, _, -, _, -,
    _, -, _, -, s, hs, _, -, _, -, _, -, rfl⟩ := h
  rw [text_eq_ok hprediction, text_eq_ok hversion] at hs
  rcases existingOrInsert_eq_ok hs with ⟨ht, hmem, hkey, hcontent, -⟩ | ⟨ht, -, hfresh, -⟩
  · simp only [Bool.and_eq_true, beq_iff_eq] at hkey
    exact Or.inl ⟨ht, s.row, hmem, hkey.1, hkey.2, by rw [hcontent]⟩
  · refine Or.inr ⟨?_, ?_, _, ht⟩
    · unfold hasIntent
      rw [List.any_eq_false]
      intro row hrow
      rw [hfresh row hrow]
      exact Bool.false_ne_true
    · unfold hasIntent
      change s.table.any _ = true
      rw [ht, List.any_append]
      simp

/-! ## The first transaction -/

section Persist

variable {D : Digests} {ledger after : Ledger} {call : SubmitCall} {prediction : Prediction}

/-- An eligible decision is one on a prediction without an intent. -/
theorem decideIntent_intent {duplicate : Bool} {intentId : String}
    (h : decideIntent D ledger call prediction duplicate = .ok (after, .intent intentId)) :
    duplicate = false ∧
      ((after.intents = ledger.intents ∧ ∃ row ∈ ledger.intents,
          row.payload.predictionId = strip call.request.predictionId ∧
          row.payload.policyVersion = strip call.policy.policyVersion ∧
          row.payload.preSubmitAt = call.observedAt) ∨
        (hasIntent ledger call.submission.key = false ∧ hasIntent after call.submission.key = true ∧
          ∃ new, after.intents = ledger.intents ++ [new])) := by
  simp only [decideIntent, bind_eq_ok] at h
  obtain ⟨account, -, context, hcontext, decision, hdecision, decided, hdecided, h⟩ := h
  split_ifs at h with heligible
  · obtain ⟨ack, -, hok⟩ := bind_eq_ok.mp h
    cases hok
  · rw [Bool.not_eq_false] at heligible
    have hrule := (eligible_iff hdecision).mp heligible .duplicateIntent
    rw [LiveRiskContext.create_eq_ok hcontext] at hrule
    have hintents : decided.ledger.intents = ledger.intents := by
      rw [storeRiskDecision_spec hdecided]
    obtain ⟨stored, hstored, hok⟩ := bind_eq_ok.mp h
    cases hok
    have hclean := call.predictionId_clean
    have hkey : (strip call.request.predictionId, strip call.policy.policyVersion) =
        call.submission.key := by
      rw [hclean]
      rfl
    have hspec := storeOrderIntent_key hstored
    rw [hkey, hasIntent_congr hintents, hintents] at hspec
    exact ⟨by simpa [RiskRule.passed, gatewayContext] using hrule, hspec⟩

theorem decideIntent_ack {duplicate : Bool} {ack : ExecutionOrderAck}
    (h : decideIntent D ledger call prediction duplicate = .ok (after, .ack ack)) :
    after.intents = ledger.intents := by
  simp only [decideIntent, bind_eq_ok] at h
  obtain ⟨account, -, context, -, decision, -, decided, hdecided, h⟩ := h
  split_ifs at h with heligible
  · obtain ⟨_, -, hok⟩ := bind_eq_ok.mp h
    cases hok
    rw [storeRiskDecision_spec hdecided]
  · obtain ⟨stored, -, hok⟩ := bind_eq_ok.mp h
    cases hok

theorem mismatch_ok {outcome : Outcome ExecutionOrderAck} {persisted : Persisted}
    (h : outcome.map (fun ack => (ledger, Persisted.ack ack)) = .ok (after, persisted)) :
    after = ledger ∧ ∃ ack, persisted = .ack ack := by
  cases outcome with
  | error raised => cases h
  | ok ack =>
    cases h
    exact ⟨rfl, ack, rfl⟩

/-- What ended a first transaction that returned. -/
theorem persistIntent_cases {persisted : Persisted}
    (h : persistIntent D ledger call = .ok (after, persisted)) :
    (after = ledger ∧ ∃ ack, persisted = .ack ack) ∨
      ∃ prediction duplicate,
        decideIntent D ledger call prediction duplicate = .ok (after, persisted) ∧
        (duplicate = false → intentForPrediction ledger call.request.predictionId
          call.policy.policyVersion = none) := by
  unfold persistIntent at h
  split at h
  · exact Or.inl (mismatch_ok h)
  next prediction _ =>
  split_ifs at h with hmatch
  · exact Or.inl (mismatch_ok h)
  split at h
  · next hnone => exact Or.inr ⟨prediction, false, h, fun _ => hnone⟩
  · next existing hsome =>
    obtain ⟨replay, -, h⟩ := bind_eq_ok.mp h
    cases replay with
    | some ack =>
      cases h
      exact Or.inl ⟨rfl, ack, rfl⟩
    | none => exact Or.inr ⟨prediction, true, h, fun hfalse => by cases hfalse⟩

/-- An intent that is looked up under the version it is stored under is found. -/
theorem intentForPrediction_ne_none {row : IntentRow} (hrow : row ∈ ledger.intents)
    (hprediction : row.payload.predictionId = call.request.predictionId)
    (hversion : row.payload.policyVersion = call.policy.policyVersion) :
    intentForPrediction ledger call.request.predictionId call.policy.policyVersion ≠ none := by
  intro hnone
  have hnot := List.find?_eq_none.mp hnone row hrow
  simp [hprediction, hversion] at hnot

/-- **The intent a call goes on with is new**, when its lookup misses none. -/
theorem persistIntent_new {intentId : String} (hfinds : FindsIntent ledger call)
    (h : persistIntent D ledger call = .ok (after, .intent intentId)) :
    hasIntent ledger call.submission.key = false ∧ hasIntent after call.submission.key = true ∧
      ∃ new, after.intents = ledger.intents ++ [new] := by
  rcases persistIntent_cases h with ⟨-, ack, hack⟩ | ⟨prediction, duplicate, hdecide, hnone⟩
  · cases hack
  · obtain ⟨hduplicate, hold | hnew⟩ := decideIntent_intent hdecide
    · obtain ⟨-, row, hrow, hprediction, hversion, hinstant⟩ := hold
      rw [call.predictionId_clean] at hprediction
      have hstrip := hfinds row hrow hprediction hversion hinstant
      rw [hstrip] at hversion
      exact absurd (hnone hduplicate) (intentForPrediction_ne_none hrow hprediction hversion)
    · exact hnew

theorem persistIntent_ack {ack : ExecutionOrderAck}
    (h : persistIntent D ledger call = .ok (after, .ack ack)) : after.intents = ledger.intents := by
  rcases persistIntent_cases h with ⟨rfl, -⟩ | ⟨prediction, duplicate, hdecide, -⟩
  · rfl
  · exact decideIntent_ack hdecide

end Persist

/-! ## The transactions of the world -/

section Serve

variable {world after : GatewayWorld}

/-- A transaction fails and leaves the world, or has the effect that is computed. -/
theorem transact_cases {α : Type} {proposal answer : Outcome α} {computed : Outcome (Ledger × α)}
    (h : world.transact proposal computed = (answer, after)) :
    (after = world ∧ ∃ raised, answer = .error raised) ∨
      ∃ ledger value, computed = .ok (ledger, value) ∧ answer = .ok value ∧
        after = { world with ledger } := by
  unfold GatewayWorld.transact at h
  split at h
  · next raised =>
    cases h
    exact Or.inl ⟨rfl, raised, rfl⟩
  · next raised =>
    cases h
    exact Or.inl ⟨rfl, raised, rfl⟩
  · next ledger value =>
    cases h
    exact Or.inr ⟨ledger, value, rfl, rfl, rfl⟩

theorem storeSubmissionEvent_intents {ledger ledger' : Ledger} {event : SubmissionEvent}
    (h : storeSubmissionEvent ledger event = .ok (ledger', ())) :
    ledger'.intents = ledger.intents := by
  unfold storeSubmissionEvent at h
  cases hstore : storeOrderEvent ledger ⟨event.intentId, event.eventType, none⟩ event.intentId
      event.eventType event.observedAt event.externalOrderId event.evidence with
  | error raised =>
    rw [hstore] at h
    cases h
  | ok stored =>
    rw [hstore] at h
    cases h
    rw [(storeOrderEvent_spec hstore).1]

end Serve

/-! ## The protocol of a call -/

/-- How far a call is: it has not decided yet, it has persisted its intent, or it may not submit. -/
inductive GatewayPhase where
  | fresh (call : SubmitCall)
  | holding (call : SubmitCall)
  | closed

/-- The phase an answer leads to. -/
def gatewayNext : GatewayPhase → (op : GatewayOp) → op.Ans → GatewayPhase
  | .fresh call, .persist _, (.ok (.intent _) : Outcome Persisted) => .holding call
  | _, .persist _, _ => .closed
  | _, .submitLimitBuy _, _ => .closed
  | phase, _, _ => phase

/-- A call persists its own intent, and submits once, its own order, after that. -/
def gatewayProtocol : Protocol GatewayOp GatewayOp.Ans GatewayPhase where
  allowed
    | .fresh call, .persist call' => call' = call
    | _, .persist _ => False
    | .holding call, .submitLimitBuy submission => submission = call.submission
    | _, .submitLimitBuy _ => False
    | _, _ => True
  expects _ _ _ := True
  next := gatewayNext

theorem submitOrder_obeys (call : SubmitCall) :
    gatewayProtocol.Obeys (fun _ _ => True) (submitOrder call) (.fresh call) := by
  refine ⟨rfl, fun answer _ => ?_⟩
  cases answer with
  | error raised => trivial
  | ok persisted =>
    cases persisted with
    | ack ack => trivial
    | intent intentId =>
      refine ⟨trivial, fun created _ => ?_⟩
      cases created with
      | false =>
        refine ⟨trivial, fun recorded _ => ?_⟩
        cases recorded with
        | error raised => trivial
        | ok _ =>
          change gatewayProtocol.Obeys _ (Program.ofExcept (ExecutionOrderAck.create _ _ _ _)) _
          exact Protocol.obeys_ofExcept.mpr trivial
      | true =>
        refine ⟨rfl, fun result _ => ⟨trivial, fun recorded _ => ?_⟩⟩
        cases recorded with
        | error raised => trivial
        | ok _ =>
          change gatewayProtocol.Obeys _ (Program.ofExcept (ExecutionOrderAck.create _ _ _ _)) _
          exact Protocol.obeys_ofExcept.mpr trivial

/-! ## The invariant -/

/-- The phase is that of a call that holds the intent of the key. -/
def GatewayPhase.holds (key : IntentKey) : GatewayPhase → Bool
  | .holding call => call.submission.key == key
  | _ => false

/-- The orders the client was given for the key, and the calls that may still give it one. -/
def claims (world : GatewayWorld) (phases : List (SubmitCall × GatewayPhase)) (key : IntentKey) :
    ℕ :=
  world.submissions.countP (·.key == key) + phases.countP (·.2.holds key)

/-- For every key there is at most one claim, and none without an intent. -/
def GatewayInv (world : GatewayWorld) (phases : List (SubmitCall × GatewayPhase)) : Prop :=
  ∀ key, claims world phases key ≤ if hasIntent world.ledger key then 1 else 0

/-- A lookup that misses an intent is not let pass. -/
def gatewayGuard : Pool.Guard GatewayWorld SubmitCall GatewayOp GatewayOp.Ans GatewayPhase where
  admits _ := True
  permits
    | world, _, _, _, .persist call, _ => FindsIntent world.ledger call
    | _, _, _, _, _, _ => True

/-- More intents leave the invariant. -/
theorem GatewayInv.mono {world : GatewayWorld} {phases : List (SubmitCall × GatewayPhase)}
    (h : GatewayInv world phases) {after : GatewayWorld}
    {phases' : List (SubmitCall × GatewayPhase)}
    (hclaims : ∀ key, claims after phases' key ≤ claims world phases key)
    (hintents : ∀ key, hasIntent world.ledger key = true → hasIntent after.ledger key = true) :
    GatewayInv after phases' := by
  intro key
  refine (hclaims key).trans ((h key).trans ?_)
  by_cases hkey : hasIntent world.ledger key = true
  · rw [if_pos hkey, if_pos (hintents key hkey)]
  · rw [if_neg hkey]
    exact Nat.zero_le _

theorem claims_split (world : GatewayWorld) (before later : List (SubmitCall × GatewayPhase))
    (task : SubmitCall) (phase : GatewayPhase) (key : IntentKey) :
    claims world (before ++ (task, phase) :: later) key =
      claims world (before ++ later) key + if phase.holds key then 1 else 0 := by
  unfold claims
  rw [List.countP_append, List.countP_append, List.countP_cons]
  dsimp only
  omega

/-- A call that no longer holds its intent claims no more than before. -/
theorem GatewayInv.close {world after : GatewayWorld}
    {before later : List (SubmitCall × GatewayPhase)} {task : SubmitCall}
    {phase phase' : GatewayPhase} (h : GatewayInv world (before ++ (task, phase) :: later))
    (hphase : ∀ key, phase'.holds key = true → phase.holds key = true)
    (hsubmissions : after.submissions = world.submissions)
    (hintents : ∀ key, hasIntent world.ledger key = true → hasIntent after.ledger key = true) :
    GatewayInv after (before ++ (task, phase') :: later) := by
  refine h.mono (fun key => ?_) hintents
  have hsame : claims after (before ++ later) key = claims world (before ++ later) key := by
    unfold claims
    rw [hsubmissions]
  rw [claims_split, claims_split, hsame]
  by_cases hholds : phase'.holds key = true
  · rw [if_pos hholds, if_pos (hphase key hholds)]
  · rw [if_neg hholds]
    omega

/-- **The first transaction** gives the call the only claim on its key. -/
theorem GatewayInv.persist {D : Digests} {world : GatewayWorld} {ledger : Ledger}
    {before later : List (SubmitCall × GatewayPhase)} {task call : SubmitCall} {intentId : String}
    (h : GatewayInv world (before ++ (task, .fresh call) :: later))
    (hfinds : FindsIntent world.ledger call)
    (hpersist : persistIntent D world.ledger call = .ok (ledger, .intent intentId)) :
    GatewayInv { world with ledger } (before ++ (task, .holding call) :: later) := by
  obtain ⟨hnone, hsome, new, happended⟩ := persistIntent_new hfinds hpersist
  intro key
  have hbefore := h key
  rw [claims_split] at hbefore ⊢
  change claims world (before ++ later) key + _ ≤ if hasIntent ledger key = true then 1 else 0
  by_cases hkey : call.submission.key = key
  · subst hkey
    rw [hnone, if_neg Bool.false_ne_true] at hbefore
    rw [hsome, if_pos rfl]
    split_ifs <;> omega
  · have hother : (GatewayPhase.holding call).holds key = false := by
      simp [GatewayPhase.holds, hkey]
    rw [hother, if_neg Bool.false_ne_true]
    by_cases hthere : hasIntent world.ledger key = true
    · rw [if_pos hthere] at hbefore
      rw [if_pos (hasIntent_append happended hthere)]
      omega
    · rw [if_neg hthere] at hbefore
      omega

/-- **The submission** turns the claim of the call into an order. -/
theorem GatewayInv.submit {world : GatewayWorld} {before later : List (SubmitCall × GatewayPhase)}
    {task call : SubmitCall} (h : GatewayInv world (before ++ (task, .holding call) :: later)) :
    GatewayInv { world with submissions := world.submissions ++ [call.submission] }
      (before ++ (task, .closed) :: later) := by
  refine h.mono (fun key => ?_) fun _ hkey => hkey
  rw [claims_split, claims_split]
  unfold claims
  rw [List.countP_append, List.countP_singleton]
  have hholds : (GatewayPhase.holding call).holds key = (call.submission.key == key) := rfl
  have hclosed : GatewayPhase.closed.holds key = false := rfl
  rw [hholds, hclosed, if_neg Bool.false_ne_true]
  omega

/-- Every event keeps the invariant. -/
theorem gateway_keeps (D : Digests) :
    Pool.Keeps (gatewayHost D) gatewayGuard gatewayProtocol GatewayPhase.fresh
      (fun _ _ _ => True) GatewayInv where
  obeys call _ := submitOrder_obeys call
  start world phases call _ h := by
    refine h.mono (fun key => ?_) fun _ hkey => hkey
    unfold claims
    rw [List.countP_append]
    exact le_of_eq rfl
  finish world before entry later h := by
    refine h.mono (fun key => ?_) fun _ hkey => hkey
    obtain ⟨task, phase⟩ := entry
    rw [claims_split]
    omega
  stop world phases h := by
    refine h.mono (fun key => ?_) fun _ hkey => hkey
    unfold claims
    rw [List.countP_nil]
    exact Nat.le_add_right _ _
  outside world phases rows h :=
    h.mono (fun _ => le_rfl) fun _ hkey => hasIntent_append rfl hkey
  serve world before task phase later op proposal answer after h hallowed hserve hpermits := by
    refine ⟨trivial, ?_⟩
    have hclosed : ∀ phase : GatewayPhase, ∀ key, GatewayPhase.closed.holds key = true →
        phase.holds key = true := by
      intro phase key hholds
      cases hholds
    cases op with
    | createClient =>
      cases hserve
      have hsame : gatewayNext phase .createClient proposal = phase := by cases phase <;> rfl
      change GatewayInv world (before ++ (task, gatewayNext phase .createClient proposal) :: later)
      rwa [hsame]
    | submitLimitBuy submission =>
      cases phase with
      | fresh call => exact hallowed.elim
      | closed => exact hallowed.elim
      | holding call =>
        obtain rfl : submission = call.submission := hallowed
        cases hserve
        exact h.submit
    | storeEvent event =>
      have hsame : ∀ answer, gatewayNext phase (.storeEvent event) answer = phase := by
        intro answer
        cases phase <;> rfl
      change GatewayInv after
        (before ++ (task, gatewayNext phase (.storeEvent event) answer) :: later)
      rw [hsame]
      rcases transact_cases (Option.some.inj hserve) with ⟨rfl, -⟩ | ⟨ledger, _, hok, -, rfl⟩
      · exact h
      · refine h.close (fun _ hholds => hholds) rfl fun key hkey => ?_
        rwa [hasIntent_congr (storeSubmissionEvent_intents hok)]
    | persist call =>
      cases phase with
      | holding call' => exact hallowed.elim
      | closed => exact hallowed.elim
      | fresh call' =>
        obtain rfl : call = call' := hallowed
        rcases transact_cases (Option.some.inj hserve) with
          ⟨rfl, raised, rfl⟩ | ⟨ledger, persisted, hok, rfl, rfl⟩
        · exact h.close (hclosed _) rfl fun _ hkey => hkey
        · cases persisted with
          | ack ack =>
            refine h.close (hclosed _) rfl fun key hkey => ?_
            rwa [hasIntent_congr (persistIntent_ack hok)]
          | intent intentId => exact h.persist hpermits hok

/-! ## The run -/

/-- A state of the gateway: its world, and the calls that run. -/
abbrev GatewayPool :=
  Pool GatewayWorld SubmitCall GatewayOp GatewayOp.Ans Raised ExecutionOrderAck

/-- An event of the gateway. -/
abbrev GatewayEvent := PoolEvent SubmitCall Ledger GatewayOp GatewayOp.Ans

/-- The gateway before any call. -/
def GatewayPool.initial : GatewayPool := { world := {} }

/-- The call whose first transaction is next. -/
def nextPersist : GatewayM ExecutionOrderAck → Option SubmitCall
  | .perform (.persist call) _ => some call
  | _ => none

/-- A first transaction looks its intent up under the version it was stored under. -/
def LookupFinds (pool : GatewayPool) : GatewayEvent → Prop
  | .step place _ => ∀ running ∈ pool.running[place]?, ∀ call ∈ nextPersist running.program,
      FindsIntent pool.world.ledger call
  | _ => True

instance (pool : GatewayPool) (event : GatewayEvent) : Decidable (LookupFinds pool event) := by
  cases event <;> unfold LookupFinds <;> infer_instance

theorem passes_of_lookupFinds {D : Digests} {pool : GatewayPool} {event : GatewayEvent}
    (h : LookupFinds pool event) :
    gatewayGuard.Passes (gatewayHost D) gatewayProtocol GatewayPhase.fresh pool event := by
  refine ⟨fun _ _ => trivial, fun running op answer hperforms => ?_⟩
  cases op with
  | createClient => trivial
  | submitLimitBuy submission => trivial
  | storeEvent stored => trivial
  | persist call =>
    cases event with
    | start task => cases hperforms
    | stop => cases hperforms
    | outside rows => cases hperforms
    | step place proposal =>
      unfold Pool.performs at hperforms
      cases hrunning : pool.running[place]? with
      | none => simp [hrunning] at hperforms
      | some other =>
        cases hprogram : other.program with
        | ret value => simp [hrunning, hprogram] at hperforms
        | fail raised => simp [hrunning, hprogram] at hperforms
        | perform op next =>
          simp only [hrunning, hprogram, Option.map_eq_some_iff, Prod.mk.injEq,
            Sigma.mk.injEq] at hperforms
          obtain ⟨served, -, -, rfl, -⟩ := hperforms
          exact h other (by rw [hrunning]; rfl) call (by rw [hprogram]; rfl)

/-- The orders of a prediction under a policy version are orders of one key. -/
theorem GatewayInv.submittedOnce {world : GatewayWorld}
    {phases : List (SubmitCall × GatewayPhase)} (h : GatewayInv world phases) :
    SubmittedOnce world := by
  intro predictionId policyVersion
  have hkey := h (predictionId, strip policyVersion)
  unfold claims at hkey
  have hmono : world.submissions.countP (fun submission =>
      submission.predictionId == predictionId && submission.policyVersion == policyVersion) ≤
      world.submissions.countP (·.key == (predictionId, strip policyVersion)) := by
    refine List.countP_mono_left fun submission _ hmatch => ?_
    simp only [Bool.and_eq_true, beq_iff_eq] at hmatch
    simp [Submission.key, hmatch]
  split_ifs at hkey <;> omega

/-- **At most one submission.**  In every interleaving of calls of the gateway, with exceptions,
crashes, restarts and rows of other operations, in which no lookup misses an intent, the client is
given at most one order for every prediction and policy version. -/
theorem gateway_submittedOnce (D : Digests) (events : List GatewayEvent)
    (hfinds : Machine.Along (Pool.exec (gatewayHost D)) LookupFinds GatewayPool.initial events) :
    SubmittedOnce (Machine.run (Pool.exec (gatewayHost D)) GatewayPool.initial events).world := by
  have hstart : GatewayPool.initial.Inv gatewayGuard gatewayProtocol GatewayPhase.fresh
      (fun _ _ _ => True) GatewayInv := by
    refine ⟨fun _ hcall => absurd hcall List.not_mem_nil,
      fun _ hcall => absurd hcall List.not_mem_nil, fun key => ?_⟩
    exact Nat.zero_le _
  have hpasses := hfinds.mono fun _ _ h => passes_of_lookupFinds (D := D) h
  exact (Pool.inv_run (gateway_keeps D) hstart hpasses).world.submittedOnce

/-! ## A lookup that misses -/

/-- The policy of a gateway without a cooldown. -/
def samplePolicy (policyVersion : String) : LiveRiskPolicy :=
  { canaryPolicy with cooldownSeconds := 0, policyVersion }

/-- The request of the sample prediction. -/
def sampleRequest (predictionId : String) : ExecutionOrderRequest where
  predictionId
  predictionSemanticSha256 := (samplePrediction predictionId).semanticSha256
  conditionId := "condition"
  tokenId := "token-up"
  selectedSide := .up
  requestedShares := ⟨10, 0⟩
  targetNotionalUsd := ⟨5, 0⟩
  submittedAt := 0
  arrivalAt := 250000
  expiresAt := 2000000
  limitPrice := ⟨5, -1⟩
  executionVersion := .paperExecutionV3FrozenV1
  executionConfigSha256 := "c0c0c0c0c0c0c0c0c0c0c0c0c0c0c0c0c0c0c0c0c0c0c0c0c0c0c0c0c0c0c0c0"
  requestedShares_pos := by decide
  targetNotional_pos := by decide
  limitPrice_pos := by decide
  limitPrice_le_one := by decide
  submitted_le_arrival := by decide
  arrival_lt_expires := by decide

/-- A call for the sample prediction in healthy conditions. -/
def sampleCall (predictionId policyVersion : String)
    (h : strip predictionId = predictionId := by decide) : SubmitCall where
  policy := samplePolicy policyVersion
  request := sampleRequest predictionId
  observedAt := 1
  prediction := some (samplePrediction predictionId)
  selectedLiquidityUsd := some ⟨100, 0⟩
  interlock := ⟨true, []⟩
  apiHealthy := true
  predictionId_clean := h

/-- A clean reconciliation row with an account without positions. -/
def sampleBaseline : Ledger where
  reconciliations := [⟨"baseline", ⟨0, 0, 0,
    { accountSnapshot := some { totalExposureUsd := 0, realizedDailyPnlUsd := 0,
                                consecutiveLosses := 0 } }⟩⟩]

/-- A client that rejects every order. -/
def rejectingClient : (op : GatewayOp) → op.Ans
  | .persist _ => (.ok (.intent "") : Outcome Persisted)
  | .createClient => true
  | .submitLimitBuy _ => some
    { accepted := false, externalOrderId := none, status := "rejected", code := "", message := "" }
  | .storeEvent _ => (.ok () : Outcome Unit)

/-- A call that runs to its end with that client. -/
def completeCall (call : SubmitCall) : List GatewayEvent :=
  .start call :: List.replicate 5 (.step 0 rejectingClient)

/-- Two calls for one prediction under a version without blanks. -/
theorem gateway_submittedOnce_sample :
    SubmittedOnce (Machine.run (Pool.exec (gatewayHost sampleDigests)) GatewayPool.initial
      (.outside sampleBaseline ::
        (completeCall (sampleCall "a" "v") ++ completeCall (sampleCall "a" "v")))).world :=
  gateway_submittedOnce sampleDigests _ (by decide +kernel)

/-- Calls for the predictions `a` and `b`, and for `b` again, at one instant. -/
def sampleMissed : List GatewayEvent :=
  .outside sampleBaseline ::
    (completeCall (sampleCall "a" " v") ++ completeCall (sampleCall "b" " v") ++
      completeCall (sampleCall "b" " v"))

/-- **An order is given twice** under a policy version with a blank in front: the intent is stored
under the stripped version, and the lookup of the next call misses it. -/
theorem not_submittedOnce :
    ¬ ∀ (D : Digests) (events : List GatewayEvent),
      SubmittedOnce (Machine.run (Pool.exec (gatewayHost D)) GatewayPool.initial events).world := by
  intro hall
  have honce := hall sampleDigests sampleMissed "b" " v"
  have htwice : (Machine.run (Pool.exec (gatewayHost sampleDigests)) GatewayPool.initial
      sampleMissed).world.submissions.countP (fun submission =>
        submission.predictionId == "b" && submission.policyVersion == " v") = 2 := by
    decide +kernel
  rw [htwice] at honce
  norm_num at honce

end BpEngine.Gateway
