import BpEngine.FastLive.Executor

/-!
# The life of an attempt

The protocol every call of the executor keeps to, and the invariant of the state directory under any
interleaving of such calls, crashes and restarts.

* `Op.quiet` are the operations that leave the state directory alone; `only_` lemmas say which parts
  of the executor perform nothing else.
* `AttemptPhase` is what a call knows of the attempt: nothing yet, that its marker exists, that the
  call created it (`opened`, then `marked` with its content), or what the marker says (`knows`).
* `attemptProtocol` is the discipline: create, write, post once, and only then record results.
* `AttemptInv` is the invariant; `serve_attempt` is its step.
-/

namespace BpEngine.FastLive

/-! ## Quiet operations -/

/-- The operation touches neither the state directory nor the exchange's order entry nor the
messages. -/
def Op.quiet : Op → Bool
  | .killSwitch | .reengageKillSwitch | .safety | .clock | .loopClock | .monotonicNs => true
  | .sleep _ | .spin => true
  | .createLimitOrder _ _ _ | .bookSnapshot _ | .getOrderBook _ => true
  | .cancelOrder _ | .listOpenOrders | .listAccountTrades => true
  | _ => false

/-- The set of quiet operations. -/
abbrev Quiet (op : Op) : Prop := op.quiet = true

/-- The operation is quiet and takes no time of its own. -/
def Op.prompt : Op → Bool
  | .sleep _ | .loopClock => false
  | op => op.quiet

/-- The set of prompt operations. -/
abbrev Prompt (op : Op) : Prop := op.prompt = true

theorem Prompt.quiet {op : Op} (h : Prompt op) : Quiet op := by
  cases op <;> first | rfl | cases h

/-- The operations that change the state directory or enter an order. -/
def Op.touchesAttempts : Op → Bool
  | .createAttempt _ | .writeAttempt _ _ | .replaceResult _ _ | .postOrder _ _ => true
  | _ => false

/-- Every other operation leaves the files and the posts alone. -/
theorem serve_frame {world after : World} {op : Op} {proposal answer : op.Ans}
    (hop : op.touchesAttempts = false) (hserve : world.serve op proposal = some (answer, after)) :
    after.files = world.files ∧ after.posts = world.posts := by
  unfold World.serve at hserve
  split at hserve <;> first
    | (cases hop; done)
    | (cases hserve; done)
    | (cases hserve; exact ⟨rfl, rfl⟩)
    | (split at hserve <;> cases hserve <;> exact ⟨rfl, rfl⟩)

theorem only_requireFreshSafety (config : ExecutorConfig) :
    (requireFreshSafety config).Only Prompt (fun _ => True) := by
  refine Program.Only.bind (Program.only_call.2 rfl) fun snapshot => ?_
  cases snapshot with
  | none => trivial
  | some snapshot =>
    exact Program.Only.bind (Program.only_call.2 rfl) fun _ =>
      Program.only_ofExcept fun _ _ => trivial

theorem only_requireKillSwitchOff (message : String) :
    (requireKillSwitchOff message).Only Prompt (fun _ => True) := by
  refine Program.Only.bind (Program.only_call.2 rfl) fun engaged => ?_
  cases engaged <;> trivial

theorem only_signOrder (terms : OrderTerms) :
    (signOrder terms).Only Prompt (fun _ => True) := by
  refine Program.Only.bind (Program.only_call.2 rfl) fun _ =>
    Program.Only.bind (Program.only_call.2 rfl) fun order => ?_
  cases order with
  | none => trivial
  | some order => exact Program.Only.bind (Program.only_call.2 rfl) fun _ => trivial

theorem only_signedOrderFor (verified : Verified) (terms : OrderTerms)
    (prepared : Option PreparedFastLiveOrder) :
    (signedOrderFor verified terms prepared).Only Prompt (fun _ => True) := by
  cases prepared with
  | none => exact only_signOrder terms
  | some prepared =>
    simp only [signedOrderFor]
    split_ifs <;> trivial

theorem only_quoteLevels (tokenId : String) :
    (quoteLevels tokenId).Only Prompt (fun _ => True) := by
  refine Program.Only.bind (Program.only_call.2 rfl) fun levels => ?_
  cases levels with
  | some levels => trivial
  | none =>
    refine Program.Only.bind (Program.only_call.2 rfl) fun levels => ?_
    cases levels <;> trivial

/-- Everything up to the quote is quiet. -/
theorem only_checkedQuote (config : ExecutorConfig) (verified : Verified)
    (prepared : Option PreparedFastLiveOrder) :
    (checkedQuote config verified prepared).Only Prompt (fun _ => True) := by
  refine Program.Only.bind (only_requireKillSwitchOff _) fun _ =>
    Program.Only.bind (only_requireFreshSafety config) fun _ =>
    Program.Only.bind (Program.only_ofExcept fun _ _ => trivial) fun terms =>
    Program.Only.bind (Program.only_call.2 rfl) fun _ =>
    Program.Only.bind (only_signedOrderFor verified terms prepared) fun _ =>
    Program.Only.bind (only_requireFreshSafety config) fun _ =>
    Program.Only.bind (only_requireKillSwitchOff _) fun _ =>
    Program.Only.bind (Program.only_call.2 rfl) fun _ =>
    Program.Only.bind (only_quoteLevels _) fun _ =>
    Program.Only.bind (Program.only_call.2 rfl) fun _ =>
    Program.Only.bind (Program.only_ofExcept fun _ _ => trivial) fun _ => trivial

theorem only_officialOrderSample (orderId : String) :
    (officialOrderSample orderId).Only Quiet (fun _ => False) := by
  refine Program.Only.bind (Program.only_call.2 rfl) fun ids => ?_
  cases ids with
  | error name => trivial
  | ok ids =>
    refine Program.Only.bind (Program.only_call.2 rfl) fun trades => ?_
    cases trades with
    | error name => trivial
    | ok trades => cases h : matchingTrades orderId trades <;> simp [h]

theorem only_probeOfficialOrderState (config : ExecutorConfig) (orderId : String)
    (requestedShares : Decimal) :
    (probeOfficialOrderState config orderId requestedShares).Only Quiet (fun _ => False) := by
  refine Program.Only.bind (only_officialOrderSample orderId) fun first => ?_
  cases first with
  | error name => trivial
  | ok first =>
    refine Program.Only.bind (Program.only_call.2 rfl) fun _ =>
      Program.Only.bind (only_officialOrderSample orderId) fun second => ?_
    cases second with
    | error name => trivial
    | ok second => cases h : officialState first second requestedShares <;> simp [h]

theorem only_probeLoop (config : ExecutorConfig) (orderId : String) (requestedShares : Decimal)
    (left number : ℕ) (official : OfficialState) :
    (probeLoop config orderId requestedShares left number official).Only Quiet
      (fun _ => False) := by
  induction left generalizing number official with
  | zero => trivial
  | succ left ih =>
    refine Program.Only.bind (only_probeOfficialOrderState config orderId requestedShares)
      fun probed => ?_
    dsimp only
    split_ifs
    · trivial
    · exact ih _ _

theorem only_cancelOrder (orderId : String) :
    (cancelOrder orderId).Only Quiet (fun _ => False) := by
  refine Program.Only.bind (Program.only_call.2 rfl) fun response => ?_
  rcases response with _ | ⟨canceled, notCanceled⟩ | _ <;> trivial

/-- Cancelling and probing is quiet and does not fail. -/
theorem only_cancelAndProbe (config : ExecutorConfig) (orderId : String)
    (requestedShares : Decimal) :
    (cancelAndProbe config orderId requestedShares).Only Quiet (fun _ => False) :=
  Program.Only.bind (only_cancelOrder orderId) fun _ =>
    Program.Only.bind (only_probeLoop config orderId requestedShares _ _ _) fun _ => trivial

/-! ## The protocol -/

/-- The two ids of a mapping that name an attempt. -/
abbrev Identity := Option String × Option String

def FastLiveResult.identity (result : FastLiveResult) : Identity :=
  (result.intentId, result.requestSha256)

def Verified.identity (verified : Verified) : Identity :=
  (some verified.intentId, some verified.requestSha256)

/-- What a call knows of the attempt it is about. -/
inductive AttemptPhase where
  | fresh
  | found
  | opened (root : Root)
  | marked (root : Root) (identity : Identity)
  | knows (root : Root) (identity : Identity)
deriving DecidableEq

/-- The call has claimed the attempt and not posted its order yet. -/
def AttemptPhase.claims (root : Root) : AttemptPhase → Bool
  | .opened other | .marked other _ => other = root
  | _ => false

/-- What a call may do to an attempt: `S` are the payloads it may be about. -/
def attemptAllowed (config : ExecutorConfig) (S : Verified → Prop) (phase : AttemptPhase) :
    Op → Prop
  | .createAttempt _ => phase = .fresh
  | .writeAttempt root attempt => phase = .opened root ∧
      ∃ verified, S verified ∧ intentStateRoot config verified = .ok root ∧
        attempt.identity = verified.identity
  | .replaceResult root result => phase = .knows root result.identity ∧ result.consumed = true
  | .postOrder verified _ => ∃ root, phase = .marked root verified.identity ∧
      intentStateRoot config verified = .ok root
  | _ => True

/-- A stored result is one of a consumed attempt. -/
def attemptExpects : (op : Op) → op.Ans → Prop
  | .readResult _, some result => result.consumed = true
  | _, _ => True

/-- What a call learns from an answer. -/
def attemptNext : AttemptPhase → (op : Op) → op.Ans → AttemptPhase
  | .opened _, .writeAttempt root attempt, true => .marked root attempt.identity
  | .opened root, _, _ => .opened root
  | .marked root identity, .postOrder _ _, _ => .knows root identity
  | .marked root identity, _, _ => .marked root identity
  | _, .createAttempt root, .created => .opened root
  | _, .attemptExists _, true => .found
  | _, .readResult root, some result => .knows root result.identity
  | _, .readAttempt root, some attempt => .knows root attempt.identity
  | phase, _, _ => phase

/-- The discipline of an attempt. -/
def attemptProtocol (config : ExecutorConfig) (S : Verified → Prop) :
    Protocol Op Op.Ans AttemptPhase where
  allowed := attemptAllowed config S
  expects _ := attemptExpects
  next := attemptNext

section Obeys

variable {config : ExecutorConfig} {S : Verified → Prop} {α β : Type} {phase : AttemptPhase}
  {root : Root}

theorem attemptAllowed_of_quiet {op : Op} (hop : Quiet op) : attemptAllowed config S phase op := by
  cases op <;> first | cases hop; done | trivial

theorem attemptNext_of_quiet {op : Op} (hop : Quiet op) (answer : op.Ans) :
    attemptNext phase op answer = phase := by
  cases phase <;> cases op <;> first | rfl | cases hop

/-- Quiet programs leave the phase alone. -/
theorem obeys_quiet {E : Raised → Prop} {program : FastLiveM α}
    {done : AttemptPhase → Except Raised α → Prop} (h : program.Only Quiet E)
    (hok : ∀ value, done phase (.ok value)) (herror : ∀ error, E error → done phase (.error error)) :
    (attemptProtocol config S).Obeys done program phase :=
  Protocol.Obeys.of_only h (fun _ => attemptAllowed_of_quiet)
    (fun _ answer hop => attemptNext_of_quiet hop answer) hok herror

theorem obeys_prompt_bind {E : Raised → Prop} {program : FastLiveM β} {f : β → FastLiveM α}
    {done : AttemptPhase → Except Raised α → Prop} (h : program.Only Prompt E)
    (hok : ∀ value, (attemptProtocol config S).Obeys done (f value) phase)
    (herror : ∀ error, E error → done phase (.error error)) :
    (attemptProtocol config S).Obeys done (program >>= f) phase := by
  rw [Protocol.obeys_bind]
  exact obeys_quiet (h.mono (fun _ => Prompt.quiet) fun _ h => h) hok herror

theorem obeys_quiet_bind {E : Raised → Prop} {program : FastLiveM β} {f : β → FastLiveM α}
    {done : AttemptPhase → Except Raised α → Prop} (h : program.Only Quiet E)
    (hok : ∀ value, (attemptProtocol config S).Obeys done (f value) phase)
    (herror : ∀ error, E error → done phase (.error error)) :
    (attemptProtocol config S).Obeys done (program >>= f) phase := by
  rw [Protocol.obeys_bind]
  exact obeys_quiet h hok herror

theorem obeys_quiet_call_bind {op : Op} {f : op.Ans → FastLiveM α}
    {done : AttemptPhase → Except Raised α → Prop} (hop : Quiet op)
    (hok : ∀ answer, (attemptProtocol config S).Obeys done (f answer) phase) :
    (attemptProtocol config S).Obeys done (call op >>= f) phase := by
  refine Protocol.obeys_call_bind.2 ⟨attemptAllowed_of_quiet hop, fun answer _ => ?_⟩
  change (attemptProtocol config S).Obeys done (f answer) (attemptNext phase op answer)
  rw [attemptNext_of_quiet hop]
  exact hok answer

/-- The end of a call that has consumed its attempt: the result is that of the attempt. -/
def Recorded (root : Root) (phase : AttemptPhase) : Except Raised FastLiveResult → Prop
  | .ok result => phase = .knows root result.identity ∧ result.consumed = true
  | .error error => error.cls ≠ .fastLiveRetryableError

/-- A result of the attempt the call knows is recorded. -/
theorem obeys_writeReplaceResult {result : FastLiveResult}
    {done : AttemptPhase → Except Raised Unit → Prop} (hphase : phase = .knows root result.identity)
    (hconsumed : result.consumed = true) (hok : done phase (.ok ()))
    (herror : done phase (.error osError)) :
    (attemptProtocol config S).Obeys done (writeReplaceResult root result) phase := by
  subst hphase
  unfold writeReplaceResult
  refine Protocol.obeys_call_bind.2 ⟨⟨rfl, hconsumed⟩, fun written _ => ?_⟩
  cases written with
  | true => exact hok
  | false => exact herror

theorem obeys_writeReplaceResult_bind {result : FastLiveResult} {f : Unit → FastLiveM α}
    {done : AttemptPhase → Except Raised α → Prop} (hphase : phase = .knows root result.identity)
    (hconsumed : result.consumed = true)
    (hok : (attemptProtocol config S).Obeys done (f ()) phase)
    (herror : done phase (.error osError)) :
    (attemptProtocol config S).Obeys done (writeReplaceResult root result >>= f) phase := by
  rw [Protocol.obeys_bind]
  exact obeys_writeReplaceResult hphase hconsumed hok herror

/-- A call that has claimed nothing reads a result and knows its attempt. -/
theorem obeys_readResult_bind {f : FastLiveResult → FastLiveM α}
    {done : AttemptPhase → Except Raised α → Prop} (hphase : ∀ other, phase.claims other = false)
    (hok : ∀ result, result.consumed = true →
      (attemptProtocol config S).Obeys done (f result) (.knows root result.identity))
    (herror : done phase (.error ⟨.fastLiveError, "fast live state JSON invalid"⟩)) :
    (attemptProtocol config S).Obeys done (readResult root >>= f) phase := by
  rw [Protocol.obeys_bind]
  unfold readResult
  refine Protocol.obeys_call_bind.2 ⟨trivial, fun stored hstored => ?_⟩
  cases phase with
  | opened other => exact absurd (hphase other) (by simp [AttemptPhase.claims])
  | marked other identity => exact absurd (hphase other) (by simp [AttemptPhase.claims])
  | _ =>
    cases stored with
    | none => exact herror
    | some result => exact hok result hstored

/-- A replayed order is cancelled, probed and recorded. -/
theorem obeys_finishReplayed {replayed : FastLiveResult} (hconsumed : replayed.consumed = true) :
    (attemptProtocol config S).Obeys (Recorded root) (finishReplayed config root replayed)
      (.knows root replayed.identity) := by
  unfold finishReplayed
  cases replayed.marketability with
  | none => exact fun h => by cases h
  | some marketability =>
    refine obeys_quiet_bind (only_cancelAndProbe config _ _) (fun probed => ?_) fun _ h => h.elim
    exact obeys_writeReplaceResult_bind rfl hconsumed ⟨rfl, hconsumed⟩ (fun h => by cases h)

/-- A replay returns the result of the attempt whose marker it found. -/
theorem obeys_replayAttempt :
    (attemptProtocol config S).Obeys (Recorded root) (replayAttempt config root) .found := by
  unfold replayAttempt
  refine Protocol.obeys_call_bind.2 ⟨trivial, fun present _ => ?_⟩
  cases present with
  | true =>
    refine obeys_readResult_bind (fun _ => rfl) (fun replayed hconsumed => ?_) (fun h => by cases h)
    split_ifs
    · exact Protocol.Obeys.bind (obeys_finishReplayed hconsumed) (fun _ _ h => h) (fun _ _ h => h)
    · exact ⟨rfl, hconsumed⟩
  | false =>
    simp only [Bool.false_eq_true, if_false, readAttempt]
    rw [Protocol.obeys_bind]
    refine Protocol.obeys_call_bind.2 ⟨trivial, fun attempt _ => ?_⟩
    cases attempt with
    | none => exact fun h => by cases h
    | some attempt => exact ⟨rfl, rfl⟩

/-- The accepted order is finished and recorded. -/
theorem obeys_finishAccepted {terms : OrderTerms} {preliminary : FastLiveResult}
    {orderId : String} (hphase : phase = .knows root preliminary.identity)
    (hconsumed : preliminary.consumed = true) :
    (attemptProtocol config S).Obeys (Recorded root)
      (finishAccepted config root terms preliminary orderId) phase := by
  unfold finishAccepted
  refine obeys_writeReplaceResult_bind hphase hconsumed ?_ (fun h => by cases h)
  refine obeys_quiet_call_bind rfl fun _ => ?_
  refine obeys_quiet_bind (only_cancelAndProbe config _ _) (fun probed => ?_) fun _ h => h.elim
  exact obeys_writeReplaceResult_bind hphase hconsumed ⟨hphase, hconsumed⟩ (fun h => by cases h)

/-- A post records what it was answered. -/
theorem obeys_postAttempt {verified : Verified} {quoted : Quoted} {attempt : FastLiveResult}
    (hroot : intentStateRoot config verified = .ok root)
    (hattempt : attempt.identity = verified.identity) :
    (attemptProtocol config S).Obeys (Recorded root)
      (postAttempt config root verified quoted attempt) (.marked root attempt.identity) := by
  unfold postAttempt
  refine obeys_quiet_call_bind rfl fun _ => ?_
  refine obeys_quiet_call_bind rfl fun _ => ?_
  refine Protocol.obeys_call_bind.2
    ⟨⟨root, by rw [hattempt], hroot⟩, fun response _ => ?_⟩
  change (attemptProtocol config S).Obeys (Recorded root) _ (.knows root attempt.identity)
  cases response with
  | none => exact obeys_writeReplaceResult_bind rfl rfl ⟨rfl, rfl⟩ (fun h => by cases h)
  | some response =>
    refine obeys_quiet_call_bind rfl fun _ => ?_
    refine obeys_quiet_call_bind rfl fun _ => ?_
    cases response with
    | rejected code message =>
      exact obeys_writeReplaceResult_bind rfl rfl ⟨rfl, rfl⟩ (fun h => by cases h)
    | other => exact obeys_writeReplaceResult_bind rfl rfl ⟨rfl, rfl⟩ (fun h => by cases h)
    | accepted orderId status => exact obeys_finishAccepted rfl rfl

/-- The end of `execute`: either the attempt was not touched and the result says so, or the result
is that of the attempt in the payload's directory. -/
def Executed (config : ExecutorConfig) (verified : Verified) (phase : AttemptPhase) :
    Except Raised FastLiveResult → Prop
  | .ok result =>
    (phase = .fresh ∧ result.identity = verified.identity ∧ result.consumed = false) ∨
      ∃ root, intentStateRoot config verified = .ok root ∧ phase = .knows root result.identity ∧
        result.consumed = true
  | .error _ => True

/-- The same, and a retryable error has not touched the attempt. -/
def ExecutedOnce (config : ExecutorConfig) (verified : Verified) (phase : AttemptPhase)
    (result : Except Raised FastLiveResult) : Prop :=
  Executed config verified phase result ∧
    ∀ error, result = .error error → error.cls = .fastLiveRetryableError → phase = .fresh

theorem Recorded.executedOnce {verified : Verified} {result : Except Raised FastLiveResult}
    (hroot : intentStateRoot config verified = .ok root) (h : Recorded root phase result) :
    ExecutedOnce config verified phase result := by
  cases result with
  | ok result => exact ⟨.inr ⟨root, hroot, h.1, h.2⟩, fun error herror => by cases herror⟩
  | error error =>
    exact ⟨trivial, fun _ herror hcls => absurd hcls (by cases herror; exact h)⟩

theorem executedOnce_fresh {verified : Verified} {error : Raised} :
    ExecutedOnce config verified .fresh (.error error) := ⟨trivial, fun _ _ _ => rfl⟩

/-- A claim: the marker is created and written, and the order is posted. -/
theorem obeys_submit {verified : Verified} {quoted : Quoted} (hverified : S verified)
    (hroot : intentStateRoot config verified = .ok root) :
    (attemptProtocol config S).Obeys (ExecutedOnce config verified)
      (submit config root verified quoted) .fresh := by
  unfold submit
  refine obeys_prompt_bind (only_requireFreshSafety config) (fun _ => ?_)
    fun _ _ => executedOnce_fresh
  refine obeys_prompt_bind (only_requireKillSwitchOff _) (fun _ => ?_) fun _ _ => executedOnce_fresh
  refine obeys_quiet_call_bind rfl fun startedAt => ?_
  rw [Protocol.obeys_bind]
  unfold writeExclusiveAttempt
  refine Protocol.obeys_call_bind.2 ⟨rfl, fun outcome _ => ?_⟩
  cases outcome with
  | «exists» => exact executedOnce_fresh
  | failed => exact executedOnce_fresh
  | created =>
    refine Protocol.obeys_call_bind.2 ⟨⟨rfl, verified, hverified, hroot, rfl⟩, fun written _ => ?_⟩
    cases written with
    | false => exact ⟨trivial, fun _ h hcls => by cases h; cases hcls⟩
    | true =>
      have hpost : (attemptProtocol config S).Obeys (ExecutedOnce config verified)
          (postAttempt config root verified quoted (attemptMarker verified startedAt))
          (.marked root (attemptMarker verified startedAt).identity) :=
        (obeys_postAttempt hroot rfl).mono fun _ _ => Recorded.executedOnce hroot
      simp only [if_true, Protocol.obeys_pure]
      split_ifs
      · exact hpost
      · refine obeys_quiet_call_bind rfl fun written => ?_
        cases written with
        | true => exact hpost
        | false => exact ⟨trivial, fun _ h hcls => by cases h; cases hcls⟩

/-- **One call of `execute`** keeps to the protocol. -/
theorem obeys_execute {verified : Verified} (hverified : S verified)
    (prepared : Option PreparedFastLiveOrder) :
    (attemptProtocol config S).Obeys (ExecutedOnce config verified)
      (execute config verified prepared) .fresh := by
  unfold execute
  rw [Protocol.obeys_bind, Protocol.obeys_ofExcept]
  cases hroot : intentStateRoot config verified with
  | error error => exact executedOnce_fresh
  | ok root =>
    refine Protocol.obeys_call_bind.2 ⟨trivial, fun present _ => ?_⟩
    cases present with
    | true => exact obeys_replayAttempt.mono fun _ _ => Recorded.executedOnce hroot
    | false =>
      refine obeys_prompt_bind (only_checkedQuote config verified prepared) (fun quoted => ?_)
        fun _ _ => executedOnce_fresh
      split_ifs
      · exact obeys_submit hverified hroot
      · exact ⟨.inl ⟨rfl, rfl, rfl⟩, fun _ h => by cases h⟩

/-- **The retry loop** keeps to the protocol: it goes on only as long as nothing was touched. -/
theorem obeys_executeWithRetry {verified : Verified} (hverified : S verified)
    (prepared : Option PreparedFastLiveOrder) (fuel retries : ℕ) :
    (attemptProtocol config S).Obeys (Executed config verified)
      (executeWithRetry config verified prepared fuel retries) .fresh := by
  induction fuel generalizing retries with
  | zero => exact obeys_quiet_call_bind rfl fun _ => trivial
  | succ fuel ih =>
    unfold executeWithRetry
    rw [Protocol.obeys_bind, Protocol.obeys_attempt]
    refine (obeys_execute hverified prepared).mono fun phase result h => ?_
    cases result with
    | ok result => exact h.1
    | error error =>
      dsimp only
      split_ifs with hcls
      · trivial
      · obtain rfl : phase = .fresh := h.2 error rfl (not_not.mp hcls)
        rw [Protocol.obeys_bind, Protocol.obeys_ofExcept]
        cases intentStateRoot config verified with
        | error error => trivial
        | ok root =>
          refine Protocol.obeys_call_bind.2 ⟨trivial, fun present _ => ?_⟩
          cases present with
          | true => trivial
          | false =>
            refine obeys_quiet_call_bind rfl fun now => ?_
            split_ifs
            · exact .inl ⟨rfl, rfl, rfl⟩
            · exact obeys_quiet_call_bind rfl fun _ => ih _

/-! ## The other calls -/

/-- The call has claimed no attempt. -/
def Unclaimed (phase : AttemptPhase) : Prop := ∀ root, phase.claims root = false

theorem Unclaimed.next_attemptExists (hphase : Unclaimed phase) (present : Bool) :
    Unclaimed (attemptNext phase (.attemptExists root) present) := by
  cases phase with
  | opened other => exact absurd (hphase other) (by simp [AttemptPhase.claims])
  | marked other identity => exact absurd (hphase other) (by simp [AttemptPhase.claims])
  | _ => cases present <;> exact fun _ => rfl

theorem Unclaimed.next_resultExists (hphase : Unclaimed phase) (present : Bool) :
    Unclaimed (attemptNext phase (.resultExists root) present) := by
  cases phase <;> exact hphase

/-- Recovering one directory. -/
theorem obeys_recoverRoot (hphase : Unclaimed phase) :
    (attemptProtocol config S).Obeys (fun phase _ => Unclaimed phase) (recoverRoot config root)
      phase := by
  unfold recoverRoot
  refine Protocol.obeys_call_bind.2 ⟨by cases phase <;> trivial, fun present _ => ?_⟩
  have hpresent : Unclaimed (attemptNext phase (.attemptExists root) present) :=
    hphase.next_attemptExists present
  cases present with
  | false => exact hpresent
  | true =>
    refine Protocol.obeys_call_bind.2 ⟨trivial, fun stored _ => ?_⟩
    have hstored : Unclaimed (attemptNext _ (.resultExists root) stored) :=
      hpresent.next_resultExists stored
    cases stored with
    | false => exact hstored
    | true =>
      refine obeys_readResult_bind hstored (fun result hconsumed => ?_) hstored
      split_ifs
      · exact fun _ => rfl
      · exact fun _ => rfl
      · rw [Protocol.obeys_bind]
        unfold recoverPending
        split_ifs
        · exact fun _ => rfl
        · cases result.marketability with
          | none => exact fun _ => rfl
          | some marketability =>
            dsimp only
            split_ifs
            · exact fun _ => rfl
            · refine obeys_quiet_bind (only_cancelAndProbe config _ _) (fun probed => ?_)
                fun _ h => h.elim
              refine obeys_quiet_call_bind rfl fun recoveredAt => ?_
              exact obeys_writeReplaceResult_bind rfl hconsumed (fun _ => rfl) (fun _ => rfl)

theorem obeys_recoverRoots (roots : List Root) (hphase : Unclaimed phase) :
    (attemptProtocol config S).Obeys (fun phase _ => Unclaimed phase)
      (recoverRoots config roots) phase := by
  induction roots generalizing phase with
  | nil => exact hphase
  | cons root roots ih =>
    exact (obeys_recoverRoot hphase).bind
      (fun _ _ hphase => (ih hphase).bind (fun _ _ h => h) fun _ _ h => h) fun _ _ h => h

/-- **The recovery** keeps to the protocol. -/
theorem obeys_recoverPendingCancellations (hphase : Unclaimed phase) :
    (attemptProtocol config S).Obeys (fun phase _ => Unclaimed phase)
      (recoverPendingCancellations config) phase := by
  unfold recoverPendingCancellations
  split_ifs
  · refine Protocol.obeys_call_bind.2 ⟨by cases phase <;> trivial, fun roots _ => ?_⟩
    have hnext : attemptNext phase .listRoots roots = phase := by cases phase <;> rfl
    refine obeys_recoverRoots roots ?_
    change Unclaimed (attemptNext phase .listRoots roots)
    rw [hnext]
    exact hphase
  · exact obeys_recoverRoots [none] hphase

/-- **Marking a recovered result** keeps to the protocol. -/
theorem obeys_markRecoveryResultPublished (result : FastLiveResult) (hphase : Unclaimed phase) :
    (attemptProtocol config S).Obeys (fun phase _ => Unclaimed phase)
      (markRecoveryResultPublished config result) phase := by
  unfold markRecoveryResultPublished
  dsimp only
  split_ifs
  · exact hphase
  · rw [Protocol.obeys_bind, Protocol.obeys_ofExcept]
    cases stateRootOf config (orEmpty result.intentId) (orEmpty result.requestSha256) with
    | error error => exact hphase
    | ok root =>
      refine obeys_readResult_bind hphase (fun persisted hconsumed => ?_) hphase
      split_ifs
      · exact fun _ => rfl
      · refine obeys_quiet_call_bind rfl fun publishedAt => ?_
        exact obeys_writeReplaceResult rfl hconsumed (fun _ => rfl) (fun _ => rfl)

/-- **Signing ahead** keeps to the protocol. -/
theorem obeys_prepareOrder (verified : Verified) (hphase : Unclaimed phase) :
    (attemptProtocol config S).Obeys (fun phase _ => Unclaimed phase)
      (prepareOrder config verified) phase := by
  unfold prepareOrder
  rw [Protocol.obeys_bind, Protocol.obeys_ofExcept]
  cases intentStateRoot config verified with
  | error error => exact hphase
  | ok root =>
    refine Protocol.obeys_call_bind.2 ⟨by cases phase <;> trivial, fun present _ => ?_⟩
    have hpresent : Unclaimed (attemptNext phase (.attemptExists root) present) :=
      hphase.next_attemptExists present
    cases present with
    | true => exact hpresent
    | false =>
      refine obeys_prompt_bind (only_requireFreshSafety config) (fun _ => ?_) fun _ _ => hpresent
      refine obeys_quiet_bind (Program.only_ofExcept fun _ _ => trivial) (fun terms => ?_)
        fun _ (_ : True) => hpresent
      refine obeys_quiet_call_bind rfl fun _ => ?_
      exact obeys_prompt_bind (only_signOrder terms) (fun _ => hpresent) fun _ _ => hpresent

end Obeys

end BpEngine.FastLive
