import BpEngine.CanaryExecutor.Executor

/-!
# One arming, one order

Executors run side by side while others replace the activation, remove the kill switch and make it.

* `Authorized` is what the checks of `_submit` establish of an order.
* `CanaryPhase` is what an executor has done; `canaryProtocol` is the discipline, and `obeys_main` its
  proof, program by program.
* `CanaryInv` counts: every posted order and every executor that has consumed an arm has a removal of
  the kill switch of its own.
* `canaryExecutor_run` has the facts about every interleaving.
-/

namespace BpEngine.CanaryExecutor

/-! ## What is posted -/

/-- The ids of a payload that must be those of the activation. -/
def idNames : List String := ["authorization_id", "intent_id", "prediction_id", "paper_order_id"]

/-- The order has the token, the price and the size of the request in the payload, whose hash and whose
ids are those of the activation. -/
structure Authorized (C : Crypto) (payload activation : Dict) (order : LimitOrder) : Prop where
  submission : actionOf payload = "submit"
  ids : ∀ name ∈ idNames, (payload.get name).textOrEmpty = (activation.get name).textOrEmpty
  request : ∃ request : Dict, payload.get "request" = .obj request ∧
    C.payloadSha256 request = (activation.get "request_sha256").textOrEmpty ∧
    (request.get "action").textOrEmpty = "BUY" ∧
    order.tokenId = (request.get "token_id").textOrEmpty ∧
    decimalOf (request.get "limit_price") "limit_price" = .ok order.price ∧
    decimalOf (request.get "requested_shares") "requested_shares" = .ok order.size
  side : order.side = "BUY"
  token : order.tokenId ≠ ""
  price : ⟨0, 0⟩ < order.price ∧ order.price ≤ ⟨1, 0⟩
  size : ⟨0, 0⟩ < order.size
  notional : order.price * order.size ≤ maxNotionalUsd

/-- The activations an executor has read, newest first. -/
def activationsRead (trace : List (Σ op, CanaryOp.Ans op)) : List (Outcome Json) :=
  trace.filterMap fun
    | ⟨.readActivation, answer⟩ => some answer
    | _ => none

/-! ## The protocol -/

/-- What an executor has done: `armed` from its consuming of the arm to its order. -/
structure CanaryPhase where
  stdin : Outcome Json
  reads : List (Outcome Json) := []
  armed : Bool := false

/-- An executor that has done nothing yet. -/
def CanaryPhase.fresh (stdin : Outcome Json) : CanaryPhase := { stdin }

/-- The phase is that of a submission. -/
def CanaryPhase.submits (phase : CanaryPhase) : Prop :=
  ∃ payload, phase.stdin = .ok (.obj payload) ∧ actionOf payload = "submit"

/-- The operation changes a file or posts an order. -/
def CanaryOp.mutates : CanaryOp → Bool
  | .openKillSwitch | .writeKillSwitch | .postOrder _ => true
  | _ => false

/-- The operation is none the phase takes note of. -/
def CanaryOp.quiet : CanaryOp → Bool
  | .openKillSwitch | .writeKillSwitch | .postOrder _ | .readActivation => false
  | _ => true

/-- What an executor may do. -/
def canaryAllowed (C : Crypto) (phase : CanaryPhase) : CanaryOp → Prop
  | .openKillSwitch | .writeKillSwitch => phase.submits
  | .postOrder order => phase.armed = true ∧ ∃ payload activation,
      phase.stdin = .ok (.obj payload) ∧ phase.reads = [.ok (.obj activation)] ∧
      Authorized C payload activation order
  | _ => True

/-- What an executor has done after an operation. -/
def canaryNext (phase : CanaryPhase) : (op : CanaryOp) → op.Ans → CanaryPhase
  | .readActivation, answer => { phase with reads := answer :: phase.reads }
  | .openKillSwitch, .created => { phase with armed := true }
  | .postOrder _, _ => { phase with armed := false }
  | _, _ => phase

/-- The discipline of an executor. -/
def canaryProtocol (C : Crypto) : Protocol CanaryOp CanaryOp.Ans CanaryPhase where
  allowed := canaryAllowed C
  expects _ _ _ := True
  next := canaryNext

section Obeys

open Protocol

variable {C : Crypto} {phase : CanaryPhase} {α : Type} {Q : CanaryPhase → α → Prop}

theorem allowed_of_not_mutates {op : CanaryOp} (h : op.mutates = false) :
    canaryAllowed C phase op := by
  cases op <;> trivial

theorem mutates_of_quiet {op : CanaryOp} (h : op.quiet = true) : op.mutates = false := by
  cases op <;> first | rfl | cases h

theorem next_of_quiet {op : CanaryOp} (answer : op.Ans) (h : op.quiet = true) :
    canaryNext phase op answer = phase := by
  cases op <;> first | rfl | cases h

/-- A quiet program and what follows it. -/
theorem obeys_quiet_bind {β : Type} {program : CanaryM β} {f : β → CanaryM α}
    (h : program.Only (·.quiet = true) fun _ => True)
    (hf : ∀ value, (canaryProtocol C).Obeys (Ends Q) (f value) phase) :
    (canaryProtocol C).Obeys (Ends Q) (program >>= f) phase := by
  refine Obeys.ends_bind (R := fun phase' _ => phase' = phase) ?_ fun phase' value hphase => ?_
  · exact .of_only h (fun _ hop => allowed_of_not_mutates (mutates_of_quiet hop))
      (fun _ answer hop => next_of_quiet answer hop) (fun _ => ends_ok.mpr rfl) fun _ _ => ends_error
  · subst hphase
    exact hf value

/-! ### Quiet programs -/

theorem only_lift {S : CanaryOp → Prop} {x : Outcome α} :
    (Program.ofExcept x : CanaryM α).Only S fun _ => True :=
  Program.only_ofExcept fun _ _ => trivial

theorem only_ask {op : CanaryOp} {f : op.Ans → Outcome α} (hop : op.quiet = true) :
    (Program.call op >>= fun answer => Program.ofExcept (f answer) : CanaryM α).Only
      (·.quiet = true) fun _ => True :=
  .bind (Program.only_call.2 hop) fun _ => only_lift

theorem only_executorSha256 : executorSha256.Only (·.quiet = true) fun _ => True := by
  refine .bind (Program.only_call.2 rfl) fun result => ?_
  split
  · trivial
  · split_ifs
    · exact only_lift
    · trivial

theorem only_openGeoblock : openGeoblock.Only (·.quiet = true) fun _ => True :=
  .bind (only_ask rfl) fun _ => .bind only_lift fun _ => trivial

theorem only_client : client.Only (·.quiet = true) fun _ => True :=
  .bind (Program.only_call.2 rfl) fun _ => .bind only_lift fun _ => only_ask rfl

theorem only_accountPreflight : accountPreflight.Only (·.quiet = true) fun _ => True :=
  .bind (Program.only_call.2 rfl) fun _ => .bind only_lift fun _ =>
    .bind (Program.only_call.2 rfl) fun _ => .bind only_lift fun _ => only_lift

theorem only_killSwitchEngaged : killSwitchEngaged.Only (·.quiet = true) fun _ => True := by
  refine .bind (Program.only_call.2 rfl) fun result => ?_
  split
  · trivial
  · split_ifs <;> trivial

theorem only_activationTime (payload : Dict) (name : String) :
    (activationTime payload name).Only (·.quiet = true) fun _ => True := by
  refine .bind only_lift fun value => .bind only_lift fun time => ?_
  unfold astimezone
  split
  · exact only_lift
  · exact only_ask rfl

theorem only_submitMetadata (payload request : Dict) (account : Account) :
    (submitMetadata C payload request account).Only (·.quiet = true) fun _ => True :=
  .bind only_lift fun _ => .bind only_lift fun _ => .bind only_lift fun _ => .bind only_lift fun _ =>
    .bind only_executorSha256 fun _ => trivial

theorem only_cancelAfterTtl (orderId : String) :
    (cancelAfterTtl orderId).Only (·.quiet = true) fun _ => True := by
  refine .bind (Program.only_call.2 rfl) fun _ => .bind (Program.only_call.2 rfl) fun result => ?_
  split
  · split_ifs <;> trivial
  · trivial

/-! ### The activation -/

/-- An activation is an object that was read once. -/
theorem obeys_activation {f : Dict → CanaryM α}
    (hf : ∀ payload, (canaryProtocol C).Obeys (Ends Q) (f payload)
      { phase with reads := .ok (.obj payload) :: phase.reads }) :
    (canaryProtocol C).Obeys (Ends Q) (activation >>= f) phase := by
  refine Obeys.ends_bind (R := fun phase' value =>
    (canaryProtocol C).Obeys (Ends Q) (f value) phase') ?_ fun _ _ h => h
  refine obeys_call_bind.mpr ⟨trivial, fun read _ => ?_⟩
  refine Obeys.ends_ofExcept_bind fun payload hpayload => ?_
  have hread : (read : Outcome Json) = .ok (.obj payload) := by
    unfold activationFile at hpayload
    split at hpayload
    · next hread => rw [Except.ok.inj hpayload]
    · cases hpayload
    · split_ifs at hpayload
      cases hpayload
  subst hread
  refine Obeys.ends_ofExcept_bind fun _ _ => ?_
  refine obeys_quiet_bind only_executorSha256 fun digest => ?_
  refine Obeys.ends_ofExcept_bind fun _ _ => ?_
  refine obeys_quiet_bind (only_activationTime _ _) fun issued => ?_
  refine obeys_quiet_bind (only_activationTime _ _) fun expires => ?_
  refine obeys_quiet_bind (Program.only_call.2 rfl) fun now => ?_
  refine Obeys.ends_ofExcept_bind fun _ _ => ends_ok.mpr (hf payload)

/-! ### Health and quotes -/

/-- Programs that change nothing. -/
theorem only_readOnly {program : CanaryM α} (h : program.Only (·.quiet = true) fun _ => True) :
    program.Only (·.mutates = false) fun _ => True :=
  h.mono (fun _ hop => mutates_of_quiet hop) fun _ => id

theorem only_activation : activation.Only (·.mutates = false) fun _ => True := by
  refine .bind (Program.only_call.2 rfl) fun read => .bind only_lift fun payload => ?_
  refine .bind only_lift fun _ => .bind (only_readOnly only_executorSha256) fun digest => ?_
  refine .bind only_lift fun _ => .bind (only_readOnly (only_activationTime _ _)) fun issued => ?_
  refine .bind (only_readOnly (only_activationTime _ _)) fun expires => ?_
  exact .bind (Program.only_call.2 rfl) fun now => .bind only_lift fun _ => trivial

/-- **A health report changes nothing.** -/
theorem only_health : health.Only (·.mutates = false) fun _ => True := by
  refine .bind (only_readOnly only_openGeoblock) fun geo => ?_
  refine .bind (Program.only_call.2 rfl) fun env => .bind only_lift fun _ => ?_
  refine .bind (only_readOnly only_client) fun _ => ?_
  refine .bind (only_readOnly only_accountPreflight) fun account => .bind only_lift fun _ => ?_
  refine .bind (.bind (only_activation.attempt.mono (fun _ => id) fun _ => False.elim) fun result => ?_) fun valid => ?_
  · split
    · trivial
    · split_ifs <;> trivial
  refine .bind (only_readOnly only_executorSha256) fun digest => ?_
  refine .bind (only_readOnly only_killSwitchEngaged) fun engaged => ?_
  split_ifs
  · exact .bind (only_readOnly only_killSwitchEngaged) fun _ => trivial
  · trivial

/-- **A quote changes nothing.** -/
theorem only_quote (payload : Dict) : (quote payload).Only (·.mutates = false) fun _ => True := by
  refine .bind (only_readOnly only_openGeoblock) fun geo => .bind only_lift fun request => ?_
  refine .bind only_lift fun order => .bind (only_readOnly only_client) fun _ => ?_
  exact .bind (Program.only_call.2 rfl) fun book => .bind only_lift fun levels => only_lift

/-! ### The submission -/

theorem matchActivation_ids {payload activation : Dict} {u : Unit}
    (h : matchActivation payload activation = .ok u) :
    ∀ name ∈ idNames, (payload.get name).textOrEmpty = (activation.get name).textOrEmpty := by
  unfold matchActivation at h
  simp only [bind_eq_ok, require_eq_ok, List.forM_eq_forM, List.forM_cons, List.forM_nil] at h
  obtain ⟨-, hauthorization, -, hintent, -, hprediction, -, hpaper, -⟩ := h
  intro name hname
  simp only [idNames, List.mem_cons, List.not_mem_nil, or_false] at hname
  rcases hname with rfl | rfl | rfl | rfl
  · exact hauthorization
  · exact hintent
  · exact hprediction
  · exact hpaper

/-- What the checks of a request establish. -/
theorem checkedOrder_eq_ok {request : Dict} {order : CanaryOrder}
    (h : checkedOrder request = .ok order) :
    (request.get "action").textOrEmpty = "BUY" ∧
      order.tokenId = (request.get "token_id").textOrEmpty ∧ order.tokenId ≠ "" ∧
      decimalOf (request.get "limit_price") "limit_price" = .ok order.price ∧
      decimalOf (request.get "requested_shares") "requested_shares" = .ok order.size ∧
      (⟨0, 0⟩ < order.price ∧ order.price ≤ ⟨1, 0⟩) ∧ ⟨0, 0⟩ < order.size ∧
      order.price * order.size ≤ maxNotionalUsd := by
  unfold checkedOrder at h
  simp only [bind_eq_ok, require_eq_ok] at h
  obtain ⟨price, hprice, size, hsize, target, -, -, htoken, -, haction, -, hrange, -, hpositive, -, -,
    -, hnotional, horder⟩ := h
  rw [← Except.ok.inj horder]
  rw [not_or] at hpositive hnotional
  refine ⟨haction, rfl, htoken, hprice, hsize, hrange, Decimal.lt_iff_not_le.mpr hpositive.1, ?_⟩
  have hle := hnotional.2
  rw [Decimal.lt_iff_not_le, not_not] at hle
  exact hle

/-- The checks of a submission authorize the order it creates. -/
theorem obeys_checkSubmission {payload activation : Dict} {f : Checked → CanaryM α}
    (haction : actionOf payload = "submit")
    (hf : ∀ checked, Authorized C payload activation checked.order.limitOrder →
      (canaryProtocol C).Obeys (Ends Q) (f checked) phase) :
    (canaryProtocol C).Obeys (Ends Q) (checkSubmission C payload activation >>= f) phase := by
  refine Obeys.ends_bind (R := fun phase' value =>
    (canaryProtocol C).Obeys (Ends Q) (f value) phase') ?_ fun _ _ h => h
  refine Obeys.ends_ofExcept_bind fun _ hids => ?_
  refine Obeys.ends_ofExcept_bind fun request hrequest => ?_
  refine Obeys.ends_ofExcept_bind fun marketEnd _ => ?_
  refine obeys_quiet_bind (Program.only_call.2 rfl) fun now => ?_
  refine Obeys.ends_ofExcept_bind fun _ _ => ?_
  refine Obeys.ends_ofExcept_bind fun order horder => ?_
  refine Obeys.ends_ofExcept_bind fun _ hhash => ends_ok.mpr (hf ⟨request, order⟩ ?_)
  obtain ⟨hbuy, htokenId, htoken, hprice, hsize, hrange, hpositive, hnotional⟩ :=
    checkedOrder_eq_ok horder
  unfold matchRequest at hhash
  exact {
    submission := haction
    ids := matchActivation_ids hids
    request := ⟨request, requireMapping_eq_ok hrequest, require_eq_ok.mp hhash, hbuy, htokenId, hprice,
      hsize⟩
    side := rfl
    token := htoken
    price := hrange
    size := hpositive
    notional := hnotional }

/-- An executor that gets past the arm is armed. -/
theorem obeys_consumeOneShotArm {f : Unit → CanaryM α} (hsubmits : phase.submits)
    (hf : (canaryProtocol C).Obeys (Ends Q) (f ()) { phase with armed := true }) :
    (canaryProtocol C).Obeys (Ends Q) (consumeOneShotArm >>= f) phase := by
  refine Obeys.ends_bind (R := fun phase' value =>
    (canaryProtocol C).Obeys (Ends Q) (f value) phase') ?_ fun _ _ h => h
  refine obeys_quiet_bind only_killSwitchEngaged fun engaged => ?_
  refine Obeys.ends_ofExcept_bind fun _ _ => ?_
  refine obeys_call_bind.mpr ⟨hsubmits, fun opened _ => ?_⟩
  cases opened with
  | «exists» => exact ends_error
  | failed raised => exact ends_error
  | created =>
    refine obeys_call_bind.mpr ⟨hsubmits, fun written _ => ?_⟩
    exact obeys_ofExcept.mpr fun _ _ => hf

/-- An armed executor posts the order once. -/
theorem obeys_createAndPost {order : LimitOrder} (harmed : phase.armed = true)
    {payload activation : Dict} (hstdin : phase.stdin = .ok (.obj payload))
    (hreads : phase.reads = [.ok (.obj activation)]) (h : Authorized C payload activation order) :
    (canaryProtocol C).Obeys (fun _ _ => True) (createAndPost order).attempt phase := by
  refine obeys_attempt.mpr (Obeys.mono (?_ : (canaryProtocol C).Obeys (Ends fun _ _ => True) _ _)
    fun _ _ _ => trivial)
  refine obeys_quiet_bind (Program.only_call.2 rfl) fun created => ?_
  refine Obeys.ends_ofExcept_bind fun _ _ => ?_
  refine obeys_call_bind.mpr ⟨⟨harmed, payload, activation, hstdin, hreads, h⟩, fun response _ => ?_⟩
  exact obeys_ofExcept.mpr fun _ _ => trivial

theorem obeys_postOnce {order : CanaryOrder} {geo : Geoblock} {metadata : SubmitMetadata}
    {payload activation : Dict} (hstdin : phase.stdin = .ok (.obj payload))
    (hreads : phase.reads = [.ok (.obj activation)])
    (h : Authorized C payload activation order.limitOrder) :
    (canaryProtocol C).Obeys (Ends fun _ _ => True) (postOnce order geo metadata) phase := by
  refine obeys_consumeOneShotArm ⟨payload, hstdin, h.submission⟩ ?_
  refine Obeys.bind (obeys_createAndPost rfl hstdin hreads h) (fun phase' result _ => ?_)
    fun _ _ _ => ends_error
  cases result with
  | error raised =>
    simp only
    split_ifs
    · exact ends_ok.mpr trivial
    · exact ends_error
  | ok response =>
    cases response with
    | rejected code message => exact ends_ok.mpr trivial
    | other => exact ends_ok.mpr trivial
    | accepted orderId status =>
      exact obeys_quiet_bind (only_cancelAfterTtl orderId) fun _ => ends_ok.mpr trivial

theorem obeys_submit {payload : Dict} (hstdin : phase.stdin = .ok (.obj payload))
    (hfresh : phase.reads = []) (haction : actionOf payload = "submit") :
    (canaryProtocol C).Obeys (Ends fun _ _ => True) (submit C payload) phase := by
  refine obeys_quiet_bind only_openGeoblock fun geo => ?_
  refine obeys_activation fun activation => ?_
  refine obeys_checkSubmission haction fun checked hauthorized => ?_
  refine obeys_quiet_bind only_client fun _ => ?_
  refine obeys_quiet_bind only_accountPreflight fun account => ?_
  refine Obeys.ends_ofExcept_bind fun _ _ => ?_
  refine obeys_quiet_bind (only_submitMetadata _ _ _) fun metadata => ?_
  exact obeys_postOnce hstdin (by rw [hfresh]) hauthorized

/-- A program that changes nothing keeps to the protocol. -/
theorem obeys_readOnly {program : CanaryM α} (h : program.Only (·.mutates = false) fun _ => True) :
    (canaryProtocol C).Obeys (Ends fun _ _ => True) program phase := by
  refine (Obeys.of_only_keep (J := fun _ => True) h ?_ (fun _ _ _ _ _ => trivial) trivial).mono
    fun _ _ _ _ _ => trivial
  exact fun _ _ _ hop => allowed_of_not_mutates hop

/-- **Every executor keeps to the protocol.** -/
theorem obeys_main (stdin : Outcome Json) :
    (canaryProtocol C).Obeys (Ends fun _ _ => True) (main C stdin) (.fresh stdin) := by
  have hanswer : (canaryProtocol C).Obeys (Ends fun _ _ => True) (answer C stdin) (.fresh stdin) := by
    refine Obeys.ends_ofExcept_bind fun value hvalue => ?_
    refine Obeys.ends_ofExcept_bind fun payload hpayload => ?_
    split_ifs with hhealth hquote hsubmit
    · exact obeys_readOnly (.bind only_health fun _ => trivial)
    · exact obeys_readOnly (.bind (only_quote payload) fun _ => trivial)
    · have hstdin : stdin = .ok (.obj payload) := by
        rw [hvalue, requireMapping_eq_ok hpayload]
      exact Obeys.ends_bind (obeys_submit hstdin rfl hsubmit) fun _ _ _ => ends_ok.mpr trivial
    · exact obeys_ofExcept.mpr ends_error
  have hattempt : (canaryProtocol C).Obeys (Ends fun _ _ => True) (answer C stdin).attempt
      (.fresh stdin) := obeys_attempt.mpr (hanswer.mono fun _ _ _ => ends_ok.mpr trivial)
  refine Obeys.ends_bind hattempt fun phase' result _ => ?_
  cases result with
  | ok output => exact ends_ok.mpr trivial
  | error raised =>
    simp only
    split_ifs
    · exact ends_ok.mpr trivial
    · exact ends_error

end Obeys

/-! ## Counting the arms -/

/-- Each order and each armed executor has a removal of the kill switch of its own, or its absence at
the start. -/
def CanaryInv (absent : ℕ) (world : CanaryWorld) (phases : List (Outcome Json × CanaryPhase)) : Prop :=
  world.posts.length + phases.countP (·.2.armed) + (!world.killSwitch).toNat ≤
    world.removals + absent

section Run

variable {C : Crypto} {absent : ℕ} {world after : CanaryWorld}
  {before later : List (Outcome Json × CanaryPhase)} {stdin : Outcome Json} {phase : CanaryPhase}

theorem countP_replace (before later : List (Outcome Json × CanaryPhase)) (stdin : Outcome Json)
    (phase : CanaryPhase) : (before ++ (stdin, phase) :: later).countP (·.2.armed) =
      (before ++ later).countP (·.2.armed) + phase.armed.toNat := by
  rw [List.perm_middle.countP_eq, List.countP_cons]
  cases phase.armed <;> rfl

/-- **The step**: every operation of an executor keeps the count. -/
theorem CanaryInv.serve {op : CanaryOp} {proposal : op.Ans}
    (h : CanaryInv absent world (before ++ (stdin, phase) :: later))
    (hallowed : canaryAllowed C phase op) :
    CanaryInv absent (world.serve op proposal).2
      (before ++ (stdin, canaryNext phase op (world.serve op proposal).1) :: later) := by
  unfold CanaryInv at h ⊢
  rw [countP_replace] at h ⊢
  cases op with
  | openKillSwitch =>
    cases proposal with
    | failed raised => exact h
    | created | «exists» =>
      cases hkill : world.killSwitch with
      | true =>
        simp only [CanaryWorld.serve, hkill, if_true, canaryNext] at h ⊢
        exact h
      | false =>
        -- The file that was missing is there now, and the executor is armed.
        have harmed := Bool.toNat_le phase.armed
        simp only [CanaryWorld.serve, hkill, canaryNext, Bool.false_eq_true, if_false, Bool.not_false,
          Bool.not_true, Bool.toNat_true, Bool.toNat_false] at h ⊢
        omega
  | postOrder order =>
    have harmed : phase.armed = true := hallowed.1
    simp only [CanaryWorld.serve, canaryNext, harmed, List.length_append, List.length_singleton,
      Bool.toNat_true, Bool.toNat_false] at h ⊢
    omega
  | readActivation | killSwitchExists | fetchGeoblock | executorSha256 | now | localTime | writeKillSwitch
  | environ | createClient | balanceAllowance | openOrders | orderBook | createLimitOrder | sleep
  | cancelOrder => exact h

theorem CanaryInv.change {phases : List (Outcome Json × CanaryPhase)}
    (h : CanaryInv absent world phases) (change : CanaryChange) :
    CanaryInv absent (world.change change) phases := by
  unfold CanaryInv at h ⊢
  cases change with
  | replaceActivation content => exact h
  | removeKillSwitch =>
    cases hkill : world.killSwitch with
    | true =>
      simp only [CanaryWorld.change, hkill, if_true, Bool.not_true, Bool.not_false, Bool.toNat_false,
        Bool.toNat_true] at h ⊢
      omega
    | false =>
      simp only [CanaryWorld.change, hkill, Bool.false_eq_true, if_false] at h ⊢
      exact h
  | makeKillSwitch =>
    simp only [CanaryWorld.change, Bool.not_true, Bool.toNat_false]
    omega

/-- **Every kind of event keeps the count.** -/
theorem keeps_canaryInv (C : Crypto) (absent : ℕ) :
    Pool.Keeps (canaryHost C) Pool.Guard.all (canaryProtocol C) CanaryPhase.fresh
      (fun _ => Protocol.Ends fun _ _ => True) (CanaryInv absent) where
  obeys stdin _ := obeys_main stdin
  start world phases stdin _ h := by
    unfold CanaryInv at h ⊢
    rw [List.countP_append, List.countP_singleton]
    exact h
  serve world before stdin phase later op proposal answer after h hallowed hserve _ := by
    obtain ⟨rfl, rfl⟩ := Prod.mk.inj (Option.some.inj hserve)
    exact ⟨trivial, h.serve hallowed⟩
  finish world before entry later h := by
    unfold CanaryInv at h ⊢
    have hfewer : (before ++ later).countP (·.2.armed) ≤
        (before ++ entry :: later).countP (·.2.armed) :=
      ((List.Sublist.refl before).append (List.sublist_cons_self entry later)).countP_le
    omega
  stop world phases h := by
    unfold CanaryInv at h ⊢
    rw [List.countP_nil]
    change world.posts.length + 0 + (!world.killSwitch).toNat ≤ world.removals + absent
    omega
  outside world phases change h := h.change change

/-- The executors in a run, with the count. -/
theorem canaryInv_after (C : Crypto) (killSwitch : Bool) (activation : Outcome Json)
    (events : List CanaryEvent) :
    (canaryAfter C killSwitch activation events).Inv Pool.Guard.all (canaryProtocol C)
      CanaryPhase.fresh (fun _ => Protocol.Ends fun _ _ => True)
      (CanaryInv (!killSwitch).toNat) := by
  refine Pool.inv_run (keeps_canaryInv C _) ?_
    (Pool.Guard.along_passes _ _ (fun _ _ => trivial) fun _ _ _ _ _ _ => trivial)
  refine ⟨fun call hcall => absurd hcall List.not_mem_nil,
    fun call hcall => absurd hcall List.not_mem_nil, ?_⟩
  change 0 + 0 + (!killSwitch).toNat ≤ 0 + (!killSwitch).toNat
  omega

/-- A phase has the input of its executor and what it has read. -/
theorem phaseOf_reads (call : Call (Outcome Json) CanaryOp CanaryOp.Ans Raised ExecutorOutput) :
    (Pool.phaseOf (canaryProtocol C) CanaryPhase.fresh call).stdin = call.task ∧
      (Pool.phaseOf (canaryProtocol C) CanaryPhase.fresh call).reads =
        activationsRead call.trace := by
  unfold Pool.phaseOf
  induction call.trace with
  | nil => exact ⟨rfl, rfl⟩
  | cons entry trace ih =>
    obtain ⟨hstdin, hreads⟩ := ih
    obtain ⟨op, answer⟩ := entry
    rw [Protocol.after_cons]
    unfold activationsRead at hreads ⊢
    cases op with
    | readActivation => exact ⟨hstdin, congrArg (_ :: ·) hreads⟩
    | openKillSwitch => cases answer <;> exact ⟨hstdin, hreads⟩
    | _ => exact ⟨hstdin, hreads⟩

/-- **One arming, one order**: in every interleaving of executors and of changes of the two files, the
orders are at most as many as the removals of the kill switch, and one more if it was missing at first;
every order is that of a submission whose request and whose ids are those of the activation that its
executor has read, with a product of price and size, rounded to the 28 digits of a decimal operation and
exact where that many suffice, of at most 10; and only a submission changes a file or posts. -/
theorem canaryExecutor_run (C : Crypto) (killSwitch : Bool) (activation : Outcome Json)
    (events : List CanaryEvent) :
    let pool := canaryAfter C killSwitch activation events
    pool.world.posts.length ≤ pool.world.removals + (!killSwitch).toNat ∧
      ∀ event call op answer, pool.performs (canaryHost C) event = some (call, ⟨op, answer⟩) →
        (∀ order, op = .postOrder order → ∃ payload read, call.task = .ok (.obj payload) ∧
          activationsRead call.trace = [.ok (.obj read)] ∧ Authorized C payload read order ∧
          ∀ k, Decimal.Fits k (order.price.toRat * order.size.toRat) →
            order.price.toRat * order.size.toRat ≤ 10) ∧
        (op.mutates = true → ∃ payload, call.task = .ok (.obj payload) ∧
          actionOf payload = "submit") := by
  intro pool
  have hinv := canaryInv_after C killSwitch activation events
  constructor
  · have hcount := hinv.world
    unfold CanaryInv at hcount
    change (canaryAfter C killSwitch activation events).world.posts.length ≤
      (canaryAfter C killSwitch activation events).world.removals + (!killSwitch).toNat
    omega
  intro event call op answer hperforms
  obtain ⟨-, hallowed⟩ := hinv.allowed_of_performs hperforms
  obtain ⟨hstdin, hreads⟩ := phaseOf_reads (C := C) call
  constructor
  · rintro order rfl
    obtain ⟨-, payload, read, htask, hread, hauthorized⟩ := hallowed
    refine ⟨payload, read, hstdin.symm.trans htask, hreads.symm.trans hread, hauthorized,
      fun k hfits => ?_⟩
    have hle := Decimal.le_iff.mp hauthorized.notional
    rw [Decimal.mul_exact hfits] at hle
    refine hle.trans (le_of_eq ?_)
    norm_num [maxNotionalUsd, Decimal.toRat]
  · intro hmutates
    have hsubmits : (Pool.phaseOf (canaryProtocol C) CanaryPhase.fresh call).submits := by
      cases op with
      | openKillSwitch => exact hallowed
      | writeKillSwitch => exact hallowed
      | postOrder order =>
        obtain ⟨-, payload, read, htask, -, hauthorized⟩ := hallowed
        exact ⟨payload, htask, hauthorized.submission⟩
      | _ => cases hmutates
    obtain ⟨payload, htask, haction⟩ := hsubmits
    exact ⟨payload, hstdin.symm.trans htask, haction⟩

end Run

/-! ## A product that is rounded down -/

/-- A request whose price has 31 digits. -/
def longPriceRequest : Dict :=
  [("action", .str "BUY"), ("limit_price", .str "0.5000000000000000000000000000001"),
    ("requested_shares", .str "20"), ("target_notional_usd", .str "5"), ("token_id", .str "token-1")]

/-- Its SHA-256 in the place of all digests; values are their own encoding. -/
def longPriceCrypto : Crypto where
  Encoded := Json
  encode := id
  encode_injective := fun _ _ h => h
  sha256 := fun _ => ⟨"3f32d1481da32c4d6c291a4cf066b4315fbdc7ec2d967bc24ba753aa049cf7e0", by decide +kernel⟩
  hmac := fun _ _ => ⟨"3f32d1481da32c4d6c291a4cf066b4315fbdc7ec2d967bc24ba753aa049cf7e0", by decide +kernel⟩

/-- The ids of the submission and of the activation. -/
def longPriceIds : Dict :=
  [("authorization_id", .str "auth-1"), ("intent_id", .str "intent-1"),
    ("prediction_id", .str "prediction-1"), ("paper_order_id", .str "paper-1")]

def longPricePayload : Dict :=
  longPriceIds ++ [("action", .str "submit"), ("request", .obj longPriceRequest),
    ("market_end_at", .str "2026-01-01T00:05:00+00:00")]

def longPriceActivation : Dict :=
  longPriceIds ++ [("authorized", .bool true), ("executor_sha256", .str "executor-1"),
    ("source_prediction_version", .str "v3-frozen-paper-v1"),
    ("source_execution_version", .str "paper-execution-v3-frozen-v1"),
    ("max_trade_size_usd", .str "10"), ("max_submission_attempts", .int 1),
    ("request_sha256", .str (longPriceCrypto.payloadSha256 longPriceRequest)),
    ("issued_at", .str "2026-01-01T00:00:00+00:00"), ("expires_at", .str "2026-01-01T00:01:00+00:00")]

/-- The environment of the submission. -/
def longPriceAnswer : (op : CanaryOp) → op.Ans
  | .fetchGeoblock => (.ok (some (.obj [("blocked", .bool false), ("country", .str "ZA"),
      ("region", .str "GP")])) : Outcome (Option Json))
  | .readActivation => (.ok .null : Outcome Json)
  | .executorSha256 => (.ok "executor-1" : Outcome String)
  | .now => Timestamp.ofSeconds 1767225610
  | .localTime wall => (.ok wall : Outcome Timestamp)
  | .killSwitchExists => (.ok false : Outcome Bool)
  | .openKillSwitch => ExclusiveOpen.created
  | .writeKillSwitch => (.ok () : Outcome Unit)
  | .environ => ("key", "")
  | .createClient _ _ => (.ok () : Outcome Unit)
  | .balanceAllowance => (.ok (.int 20000000) : Outcome Json)
  | .openOrders => (.ok 0 : Outcome ℕ)
  | .orderBook _ => (.ok [] : Outcome (List (Json × Json)))
  | .createLimitOrder _ => (.ok () : Outcome Unit)
  | .postOrder _ => (.ok .other : Outcome OrderResponse)
  | .sleep _ => ()
  | .cancelOrder _ => (.ok .other : Outcome CancelResponse)

/-- The submission, from a removed kill switch to its order. -/
def longPriceEvents : List CanaryEvent :=
  .start (.ok (.obj longPricePayload)) :: List.replicate 16 (.step 0 longPriceAnswer)

/-- An order of more than 10 USD is posted: its price and size are 0.5000000000000000000000000000001
and 20. -/
theorem canaryExecutor_overLimit :
    ¬ ∀ (C : Crypto) (killSwitch : Bool) (activation : Outcome Json) (events : List CanaryEvent),
      ∀ order ∈ (canaryAfter C killSwitch activation events).world.posts,
        order.price.toRat * order.size.toRat ≤ 10 := by
  intro h
  have hposted : (⟨"token-1", ⟨5000000000000000000000000000001, -31⟩, ⟨20, 0⟩, "BUY"⟩ : LimitOrder) ∈
      (canaryAfter longPriceCrypto false (.ok (.obj longPriceActivation)) longPriceEvents).world.posts
    := by decide +kernel
  have hle := h _ _ _ _ _ hposted
  norm_num [Decimal.toRat] at hle

end BpEngine.CanaryExecutor
