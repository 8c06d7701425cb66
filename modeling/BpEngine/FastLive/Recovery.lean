import BpEngine.FastLive.AttemptInvariant
import BpEngine.Library.Process

/-!
# The discipline of the recovery

What one call of the executor may do to the result of an attempt, when calls come one after the other
and the process may crash in any of them.

* `FastLiveResult.Owed` are the results a restarted receiver still has to publish: a cancellation is
  pending, or its recovered result is.
* `RecoveryPhase` is what a call holds (`Held`), and what a recovery has visited so far.
* `Follows` is the step from one stored result of an attempt to the next, by the call that takes it.
* `obeys_program`: every call of the executor keeps to `recoveryProtocol`.
-/

namespace BpEngine.FastLive

/-! ## Results that are owed -/

/-- The cancellation of the result is pending, or its publication after a recovery is. -/
def FastLiveResult.Owed (result : FastLiveResult) : Prop :=
  result.cancellationPending = some true ∨ result.recoveryResultPublishPending = some true

instance : DecidablePred FastLiveResult.Owed := fun _ => inferInstanceAs (Decidable (_ ∨ _))

/-- A stored result: a pending cancellation is that of an accepted order, and nothing is pending once
the recovery has recorded its result. -/
structure FastLiveResult.Sound (result : FastLiveResult) : Prop where
  accepted : result.cancellationPending = some true →
    result.status = some .accepted ∧ result.networkSubmissionAttemptConsumed = some true ∧
      result.realOrderSubmitted = some true ∧ result.marketability.isSome = true
  recovered : result.recoveryResultPublishPending.isSome = true →
    result.cancellationPending = some false

/-- The results are of one attempt and name one order. -/
def FastLiveResult.SameOrder (result other : FastLiveResult) : Prop :=
  result.identity = other.identity ∧ result.externalOrderId = other.externalOrderId

/-- What a recovery returns of a stored result. -/
def FastLiveResult.returned (result : FastLiveResult) : Option FastLiveResult :=
  if result.Owed then some result else none

theorem FastLiveResult.returned_eq {result : FastLiveResult}
    (hpending : result.cancellationPending ≠ some true) :
    result.returned =
      if result.recoveryResultPublishPending = some true then some result else none := by
  unfold FastLiveResult.returned FastLiveResult.Owed
  simp only [hpending, false_or]

/-- A step from one stored result of the attempt in `root` to the next, by a call with the task. -/
inductive Follows (config : ExecutorConfig) (task : ExecutorTask) (root : Root)
    (before : FastLiveResult) : FastLiveResult → Prop where
  | finished (verified : Verified) (cancellation : Cancellation) (official : OfficialState) :
    task.payload = some verified → intentStateRoot config verified = .ok root →
    before.cancellationPending = some true → Follows config task root before
      (before.cancelled cancellation official)
  | recovered (cancellation : Cancellation) (official : OfficialState) (recoveredAt : Timestamp) :
    task = .recoverPendingCancellations → before.cancellationPending = some true →
    Follows config task root before ((before.cancelled cancellation official).recovered recoveredAt)
  | published (result : FastLiveResult) (publishedAt : Timestamp) :
    task = .markRecoveryResultPublished result →
    before.recoveryResultPublishPending = some true →
    Follows config task root before (before.recoveryPublished publishedAt)

theorem Follows.sameOrder {config : ExecutorConfig} {task : ExecutorTask} {root : Root}
    {before after : FastLiveResult} (h : Follows config task root before after) :
    after.SameOrder before := by
  cases h <;> exact ⟨rfl, rfl⟩

theorem Follows.sound {config : ExecutorConfig} {task : ExecutorTask} {root : Root}
    {before after : FastLiveResult} (h : Follows config task root before after)
    (hsound : before.Sound) : after.Sound := by
  cases h with
  | finished => exact ⟨fun hpending => (by cases hpending), fun _ => rfl⟩
  | recovered => exact ⟨fun hpending => (by cases hpending), fun _ => rfl⟩
  | published _ _ _ howed =>
    exact ⟨hsound.accepted, fun _ => hsound.recovered (by rw [howed]; rfl)⟩

/-! ## Phases -/

/-- What a call holds of an attempt. -/
inductive Held where
  | nothing
  | opened (root : Root)
  | posted (root : Root) (orderId : Option String)
  | present (root : Root)
  | holds (root : Root) (result : FastLiveResult)

/-- A call, what it holds, and for a recovery the directories it was given and has visited, with what
it returns of each. -/
structure RecoveryPhase where
  task : ExecutorTask
  held : Held := .nothing
  listed : Option (List Root) := none
  visited : List (Root × Option FastLiveResult) := []

/-- The order of an accepting response. -/
def acceptedId : Option PostResponse → Option String
  | some (.accepted orderId _) => some orderId
  | _ => none

/-- The first result of an attempt whose post was answered with the order, or with none. -/
def FirstResult (verified : Verified) (orderId : Option String) (result : FastLiveResult) : Prop :=
  result.identity = verified.identity ∧ result.externalOrderId.join = orderId ∧
    result.recoveryResultPublishPending = none ∧
    (result.cancellationPending = some true →
      result.status = some .accepted ∧ result.networkSubmissionAttemptConsumed = some true ∧
        result.realOrderSubmitted = some true ∧ result.marketability.isSome = true)

theorem FirstResult.sound {verified : Verified} {orderId : Option String} {result : FastLiveResult}
    (h : FirstResult verified orderId result) : result.Sound := by
  obtain ⟨-, -, hflag, hpending⟩ := h
  exact ⟨hpending, fun hsome => by rw [hflag] at hsome; cases hsome⟩

/-- What a call may record in `root`. -/
def RecordAllowed (config : ExecutorConfig) (phase : RecoveryPhase) (root : Root)
    (result : FastLiveResult) : Prop :=
  match phase.held with
  | .posted opened orderId => root = opened ∧
      ∃ verified, phase.task.payload = some verified ∧ FirstResult verified orderId result
  | .holds opened before => root = opened ∧ Follows config phase.task root before result
  | _ => False

/-- What a call may do. -/
def recoveryAllowed (config : ExecutorConfig) (phase : RecoveryPhase) : Op → Prop
  | .createAttempt root => ∃ verified, phase.task.payload = some verified ∧
      intentStateRoot config verified = .ok root
  | .writeAttempt root _ => phase.held = .opened root
  | .postOrder verified _ => phase.task.payload = some verified ∧ ∃ root, phase.held = .opened root
  | .replaceResult root result => RecordAllowed config phase root result
  | _ => True

/-- A result that exists can be read, and stored results are sound. -/
def recoveryExpects (phase : RecoveryPhase) : (op : Op) → op.Ans → Prop
  | .readResult root, answer => (phase.held = .present root → answer.isSome = true) ∧
      ∀ result, answer = some result → result.Sound
  | _, _ => True

/-- What a call holds after a post. -/
def Held.post (orderId : Option String) : Held → Held
  | .opened root => .posted root orderId
  | held => held

/-- What a call holds and has visited after an answer. -/
def recoveryNext (phase : RecoveryPhase) : (op : Op) → op.Ans → RecoveryPhase
  | .createAttempt root, .created => { phase with held := .opened root }
  | .postOrder _ _, response => { phase with held := phase.held.post (acceptedId response) }
  | .attemptExists root, false => { phase with visited := phase.visited ++ [(root, none)] }
  | .resultExists root, false => { phase with visited := phase.visited ++ [(root, none)] }
  | .resultExists root, true => { phase with held := .present root }
  | .readResult root, some result =>
    { phase with
      held := .holds root result
      visited :=
        if result.cancellationPending = some true then phase.visited
        else phase.visited ++ [(root, result.returned)] }
  | .replaceResult root result, true =>
    { phase with
      held := .holds root result
      visited := phase.visited ++ [(root, some result)] }
  | .listRoots, roots => { phase with listed := some roots }
  | _, _ => phase

/-- The discipline of the calls that come one after the other. -/
def recoveryProtocol (config : ExecutorConfig) : Protocol Op Op.Ans RecoveryPhase where
  allowed := recoveryAllowed config
  expects := recoveryExpects
  next := recoveryNext

theorem recoveryNext_task (phase : RecoveryPhase) (op : Op) (answer : op.Ans) :
    (recoveryNext phase op answer).task = phase.task := by
  unfold recoveryNext
  split <;> rfl

theorem after_task (config : ExecutorConfig) (start : RecoveryPhase)
    (trace : List (Σ op, Op.Ans op)) :
    ((recoveryProtocol config).after start trace).task = start.task := by
  induction trace with
  | nil => rfl
  | cons entry trace ih => exact (recoveryNext_task _ _ _).trans ih

section Obeys

variable {config : ExecutorConfig} {α β : Type} {phase : RecoveryPhase} {root : Root}
  {done : RecoveryPhase → Except Raised α → Prop}

theorem recoveryAllowed_of_quiet {op : Op} (hop : Quiet op) : recoveryAllowed config phase op := by
  cases op <;> first | cases hop; done | trivial

theorem recoveryNext_of_quiet {op : Op} (hop : Quiet op) (answer : op.Ans) :
    recoveryNext phase op answer = phase := by
  cases op <;> first | rfl | cases hop

/-- Quiet programs leave the phase alone. -/
theorem recovery_quiet_bind {E : Raised → Prop} {program : FastLiveM β} {f : β → FastLiveM α}
    (h : program.Only Quiet E)
    (hok : ∀ value, (recoveryProtocol config).Obeys done (f value) phase)
    (herror : ∀ error, E error → done phase (.error error)) :
    (recoveryProtocol config).Obeys done (program >>= f) phase := by
  rw [Protocol.obeys_bind]
  exact Protocol.Obeys.of_only h (fun _ => recoveryAllowed_of_quiet)
    (fun _ answer hop => recoveryNext_of_quiet hop answer) hok herror

theorem recovery_quiet_call_bind {op : Op} {f : op.Ans → FastLiveM α} (hop : Quiet op)
    (hok : ∀ answer, (recoveryProtocol config).Obeys done (f answer) phase) :
    (recoveryProtocol config).Obeys done (call op >>= f) phase := by
  refine Protocol.obeys_call_bind.2 ⟨recoveryAllowed_of_quiet hop, fun answer _ => ?_⟩
  change (recoveryProtocol config).Obeys done (f answer) (recoveryNext phase op answer)
  rw [recoveryNext_of_quiet hop]
  exact hok answer

/-- The phase after a result has been recorded. -/
abbrev RecoveryPhase.recorded (phase : RecoveryPhase) (root : Root) (result : FastLiveResult) :
    RecoveryPhase :=
  { phase with
    held := .holds root result
    visited := phase.visited ++ [(root, some result)] }

/-- An allowed result is recorded, or the file system fails. -/
theorem recovery_record_bind {result : FastLiveResult} {f : Unit → FastLiveM α}
    (hallowed : RecordAllowed config phase root result)
    (hok : (recoveryProtocol config).Obeys done (f ()) (phase.recorded root result))
    (herror : done phase (.error osError)) :
    (recoveryProtocol config).Obeys done (writeReplaceResult root result >>= f) phase := by
  rw [Protocol.obeys_bind]
  unfold writeReplaceResult
  refine Protocol.obeys_call_bind.2 ⟨hallowed, fun written _ => ?_⟩
  cases written with
  | true => exact hok
  | false => exact herror

/-- A result is read and held, or the file is missing. -/
theorem recovery_read_bind {f : FastLiveResult → FastLiveM α}
    (hok : ∀ result : FastLiveResult, result.Sound →
      (recoveryProtocol config).Obeys done (f result)
        (recoveryNext phase (.readResult root) (some result)))
    (herror : phase.held ≠ .present root →
      done phase (.error ⟨.fastLiveError, "fast live state JSON invalid"⟩)) :
    (recoveryProtocol config).Obeys done (readResult root >>= f) phase := by
  rw [Protocol.obeys_bind]
  unfold readResult
  refine Protocol.obeys_call_bind.2 ⟨trivial, fun stored hstored => ?_⟩
  obtain ⟨hpresent, hsound⟩ := hstored
  cases stored with
  | none => exact herror fun hheld => by simpa using hpresent hheld
  | some result => exact hok result (hsound result rfl)

/-! ### The calls of `execute` -/

/-- The call submits the payload of the attempt in `root`. -/
structure Submits (config : ExecutorConfig) (phase : RecoveryPhase) (root : Root)
    (verified : Verified) : Prop where
  payload : phase.task.payload = some verified
  root : intentStateRoot config verified = .ok root

/-- A replayed pending result is finished by the call of its payload. -/
theorem recovery_finishReplayed {verified : Verified} {replayed : FastLiveResult}
    (hsubmits : Submits config phase root verified) (hheld : phase.held = .holds root replayed)
    (hpending : replayed.cancellationPending = some true) :
    (recoveryProtocol config).Obeys (fun _ _ => True) (finishReplayed config root replayed)
      phase := by
  unfold finishReplayed
  cases replayed.marketability with
  | none => trivial
  | some marketability =>
    refine recovery_quiet_bind (only_cancelAndProbe config _ _) (fun probed => ?_) fun _ h => h.elim
    refine recovery_record_bind ?_ trivial trivial
    unfold RecordAllowed
    rw [hheld]
    exact ⟨rfl, .finished verified _ _ hsubmits.payload hsubmits.root hpending⟩

/-- A replay finishes what is pending and records nothing else. -/
theorem recovery_replayAttempt {verified : Verified}
    (hsubmits : Submits config phase root verified) :
    (recoveryProtocol config).Obeys (fun _ _ => True) (replayAttempt config root) phase := by
  unfold replayAttempt
  refine Protocol.obeys_call_bind.2 ⟨trivial, fun present _ => ?_⟩
  cases present with
  | true =>
    refine recovery_read_bind (fun replayed _ => ?_) fun _ => trivial
    split_ifs with hreplayed
    · have hnext : Submits config (recoveryNext (recoveryNext phase (.resultExists root) true)
          (.readResult root) (some replayed)) root verified := ⟨hsubmits.payload, hsubmits.root⟩
      exact (recovery_finishReplayed hnext rfl hreplayed.2.1).bind (fun _ _ _ => trivial)
        fun _ _ _ => trivial
    · trivial
  | false =>
    simp only [Bool.false_eq_true, if_false, readAttempt]
    rw [Protocol.obeys_bind]
    refine Protocol.obeys_call_bind.2 ⟨trivial, fun attempt _ => ?_⟩
    cases attempt <;> trivial

/-- The accepted order is recorded as pending and then as finished. -/
theorem recovery_finishAccepted {verified : Verified} {terms : OrderTerms}
    {preliminary : FastLiveResult} {orderId : String}
    (hsubmits : Submits config phase root verified)
    (hheld : phase.held = .posted root (some orderId))
    (hfirst : FirstResult verified (some orderId) preliminary)
    (hpending : preliminary.cancellationPending = some true) :
    (recoveryProtocol config).Obeys (fun _ _ => True)
      (finishAccepted config root terms preliminary orderId) phase := by
  unfold finishAccepted
  refine recovery_record_bind ?_ ?_ trivial
  · unfold RecordAllowed
    rw [hheld]
    exact ⟨rfl, verified, hsubmits.payload, hfirst⟩
  · refine recovery_quiet_call_bind rfl fun _ => ?_
    refine recovery_quiet_bind (only_cancelAndProbe config _ _) (fun probed => ?_) fun _ h => h.elim
    refine recovery_record_bind ?_ trivial trivial
    exact ⟨rfl, .finished verified _ _ hsubmits.payload hsubmits.root hpending⟩

/-- A post records the first result of its attempt. -/
theorem recovery_postAttempt {verified : Verified} {quoted : Quoted} {attempt : FastLiveResult}
    (hsubmits : Submits config phase root verified) (hheld : phase.held = .opened root)
    (hattempt : attempt.identity = verified.identity)
    (hplain : attempt.cancellationPending = none ∧ attempt.recoveryResultPublishPending = none) :
    (recoveryProtocol config).Obeys (fun _ _ => True)
      (postAttempt config root verified quoted attempt) phase := by
  obtain ⟨hpending, hflag⟩ := hplain
  have hunordered : ∀ {phase : RecoveryPhase} {result : FastLiveResult},
      phase.task.payload = some verified → phase.held = .posted root none →
        FirstResult verified none result → RecordAllowed config phase root result := by
    intro phase result hpayload hposted hfirst
    unfold RecordAllowed
    rw [hposted]
    exact ⟨rfl, verified, hpayload, hfirst⟩
  have hnotPending : ¬ attempt.cancellationPending = some true := by rw [hpending]; decide
  unfold postAttempt
  refine recovery_quiet_call_bind rfl fun postStartedAt => ?_
  refine recovery_quiet_call_bind rfl fun postStarted => ?_
  refine Protocol.obeys_call_bind.2 ⟨⟨hsubmits.payload, root, hheld⟩, fun response _ => ?_⟩
  have hposted : (recoveryNext phase (.postOrder verified quoted.signedOrder) response).held =
      .posted root (acceptedId response) := by
    change phase.held.post (acceptedId response) = _
    rw [hheld]
    rfl
  cases response with
  | none =>
    refine recovery_record_bind (hunordered hsubmits.payload hposted ?_) trivial trivial
    exact ⟨hattempt, rfl, hflag, fun h => absurd h hnotPending⟩
  | some response =>
    refine recovery_quiet_call_bind rfl fun postCompleted => ?_
    refine recovery_quiet_call_bind rfl fun postCompletedAt => ?_
    cases response with
    | rejected code message =>
      refine recovery_record_bind (hunordered hsubmits.payload hposted ?_) trivial trivial
      exact ⟨hattempt, rfl, hflag, fun h => absurd h hnotPending⟩
    | other =>
      refine recovery_record_bind (hunordered hsubmits.payload hposted ?_) trivial trivial
      exact ⟨hattempt, rfl, hflag, fun h => absurd h hnotPending⟩
    | accepted orderId status =>
      have hfirst : FirstResult verified (some orderId) (acceptedResult attempt quoted orderId status
          postStartedAt postCompletedAt postStarted postCompleted) := ⟨hattempt, rfl, hflag, fun _ => ⟨rfl, rfl, rfl, rfl⟩⟩
      exact recovery_finishAccepted ⟨hsubmits.payload, hsubmits.root⟩ hposted hfirst rfl

/-- A claim opens the attempt of its payload and posts. -/
theorem recovery_submit {verified : Verified} {quoted : Quoted}
    (hsubmits : Submits config phase root verified) :
    (recoveryProtocol config).Obeys (fun _ _ => True) (submit config root verified quoted)
      phase := by
  unfold submit
  refine recovery_quiet_bind ((only_requireFreshSafety config).mono (fun _ => Prompt.quiet)
    fun _ h => h) (fun _ => ?_) fun _ _ => trivial
  refine recovery_quiet_bind ((only_requireKillSwitchOff _).mono (fun _ => Prompt.quiet)
    fun _ h => h) (fun _ => ?_) fun _ _ => trivial
  refine recovery_quiet_call_bind rfl fun startedAt => ?_
  rw [Protocol.obeys_bind]
  unfold writeExclusiveAttempt
  refine Protocol.obeys_call_bind.2
    ⟨⟨verified, hsubmits.payload, hsubmits.root⟩, fun outcome _ => ?_⟩
  cases outcome with
  | «exists» => trivial
  | failed => trivial
  | created =>
    refine Protocol.obeys_call_bind.2 ⟨rfl, fun written _ => ?_⟩
    cases written with
    | false => trivial
    | true =>
      have hpost : (recoveryProtocol config).Obeys (fun _ _ => True)
          (postAttempt config root verified quoted (attemptMarker verified startedAt))
          { phase with held := .opened root } :=
        recovery_postAttempt ⟨hsubmits.payload, hsubmits.root⟩ rfl rfl ⟨rfl, rfl⟩
      simp only [if_true, Protocol.obeys_pure]
      split_ifs
      · exact hpost
      · refine recovery_quiet_call_bind rfl fun written => ?_
        cases written with
        | true => exact hpost
        | false => trivial

/-- **`execute`** keeps to the discipline. -/
theorem recovery_execute {verified : Verified} (prepared : Option PreparedFastLiveOrder)
    (hpayload : phase.task.payload = some verified) :
    (recoveryProtocol config).Obeys (fun _ _ => True) (execute config verified prepared) phase := by
  unfold execute
  rw [Protocol.obeys_bind, Protocol.obeys_ofExcept]
  cases hroot : intentStateRoot config verified with
  | error error => trivial
  | ok root =>
    refine Protocol.obeys_call_bind.2 ⟨trivial, fun present _ => ?_⟩
    cases present with
    | true =>
      have hsubmits : Submits config phase root verified := ⟨hpayload, hroot⟩
      exact recovery_replayAttempt hsubmits
    | false =>
      refine recovery_quiet_bind ((only_checkedQuote config verified prepared).mono
        (fun _ => Prompt.quiet) fun _ h => h) (fun quoted => ?_) fun _ _ => trivial
      split_ifs
      · have hsubmits : Submits config (recoveryNext phase (.attemptExists root) false) root
            verified := ⟨hpayload, hroot⟩
        exact recovery_submit hsubmits
      · trivial

/-- A call stays the call it is. -/
theorem recovery_task {program : FastLiveM α} (h : (recoveryProtocol config).Obeys done program phase) :
    (recoveryProtocol config).Obeys (fun after result => done after result ∧ after.task = phase.task)
      program phase := by
  induction program generalizing phase with
  | ret value => exact ⟨h, rfl⟩
  | fail error => exact ⟨h, rfl⟩
  | perform op next ih =>
    refine ⟨h.1, fun answer hanswer => (ih answer (h.2 answer hanswer)).mono ?_⟩
    rintro after result ⟨hdone, htask⟩
    exact ⟨hdone, htask.trans (recoveryNext_task _ _ _)⟩

/-- **The retry loop** keeps to the discipline. -/
theorem recovery_executeWithRetry {verified : Verified} (prepared : Option PreparedFastLiveOrder)
    (fuel retries : ℕ) (hpayload : phase.task.payload = some verified) :
    (recoveryProtocol config).Obeys (fun _ _ => True)
      (executeWithRetry config verified prepared fuel retries) phase := by
  induction fuel generalizing phase retries with
  | zero => exact recovery_quiet_call_bind rfl fun _ => trivial
  | succ fuel ih =>
    unfold executeWithRetry
    rw [Protocol.obeys_bind, Protocol.obeys_attempt]
    refine (recovery_task (recovery_execute prepared hpayload)).mono ?_
    rintro after result ⟨-, htask⟩
    cases result with
    | ok result => trivial
    | error error =>
      dsimp only
      split_ifs
      · trivial
      · rw [Protocol.obeys_bind, Protocol.obeys_ofExcept]
        cases intentStateRoot config verified with
        | error error => trivial
        | ok root =>
          refine Protocol.obeys_call_bind.2 ⟨trivial, fun present _ => ?_⟩
          cases present with
          | true => trivial
          | false =>
            refine recovery_quiet_call_bind rfl fun now => ?_
            split_ifs
            · trivial
            · refine recovery_quiet_call_bind rfl fun _ => ih _ ?_
              change after.task.payload = _
              rw [htask, hpayload]

/-! ### The recovery -/

/-- What the recovery of one directory has done when it ends. -/
def RecoveredRoot (root : Root) (before after : RecoveryPhase) :
    Except Raised (Option FastLiveResult) → Prop
  | .ok found => after.task = before.task ∧ after.listed = before.listed ∧
      after.visited = before.visited ++ [(root, found)]
  | .error error => error = osError ∨ ∃ root result, after.held = .holds root result ∧
      result.cancellationPending = some true ∧ orEmpty result.externalOrderId.join = ""

/-- A pending cancellation is carried out and recorded as recovered. -/
theorem recovery_recoverPending {result : FastLiveResult}
    (htask : phase.task = .recoverPendingCancellations) (hheld : phase.held = .holds root result)
    (hsound : result.Sound) (hpending : result.cancellationPending = some true) :
    (recoveryProtocol config).Obeys
      (fun after result => RecoveredRoot root phase after (result.map some))
      (recoverPending config root result) phase := by
  obtain ⟨hstatus, hconsumed, hsubmitted, hmarketability⟩ := hsound.accepted hpending
  obtain ⟨marketability, hmarketability⟩ := Option.isSome_iff_exists.mp hmarketability
  unfold recoverPending
  rw [if_neg (by simp [hstatus, hconsumed, hsubmitted])]
  simp only [hmarketability]
  split_ifs with horder
  · exact .inr ⟨root, result, hheld, hpending, horder⟩
  · refine recovery_quiet_bind (only_cancelAndProbe config _ _) (fun probed => ?_) fun _ h => h.elim
    refine recovery_quiet_call_bind rfl fun recoveredAt => ?_
    refine recovery_record_bind ?_ ⟨rfl, rfl, rfl⟩ (.inl rfl)
    unfold RecordAllowed
    rw [hheld]
    exact ⟨rfl, .recovered _ _ _ htask hpending⟩

/-- **One directory**: the recovery returns what is owed of it. -/
theorem recovery_recoverRoot (htask : phase.task = .recoverPendingCancellations) :
    (recoveryProtocol config).Obeys (RecoveredRoot root phase) (recoverRoot config root) phase := by
  unfold recoverRoot
  refine Protocol.obeys_call_bind.2 ⟨trivial, fun present _ => ?_⟩
  cases present with
  | false => exact ⟨rfl, rfl, rfl⟩
  | true =>
    refine Protocol.obeys_call_bind.2 ⟨trivial, fun stored _ => ?_⟩
    cases stored with
    | false => exact ⟨rfl, rfl, rfl⟩
    | true =>
      change (recoveryProtocol config).Obeys (RecoveredRoot root phase) _
        { phase with held := .present root }
      refine recovery_read_bind (fun result hsound => ?_) fun h => absurd rfl h
      by_cases hpending : result.cancellationPending = some true
      · rw [if_neg (not_not.mpr hpending)]
        refine (recovery_recoverPending ?_ rfl hsound hpending).bind ?_ ?_
        · exact htask
        · intro after recovered hrecovered
          simpa [RecoveredRoot, Except.map, recoveryNext, hpending] using hrecovered
        · intro after error herror
          exact herror
      · have hreturned := FastLiveResult.returned_eq hpending
        rw [if_pos hpending]
        split_ifs with hflag
        · rw [if_pos hflag] at hreturned
          simp [RecoveredRoot, recoveryNext, hpending, hreturned]
        · rw [if_neg hflag] at hreturned
          simp [RecoveredRoot, recoveryNext, hpending, hreturned]

/-- What the recovery of some directories has done when it ends. -/
def RecoveredRoots (roots : List Root) (before after : RecoveryPhase) :
    Except Raised (List FastLiveResult) → Prop
  | .ok results => after.task = before.task ∧ after.listed = before.listed ∧
      ∃ visited, visited.map Prod.fst = roots ∧
        after.visited = before.visited ++ visited ∧ results = visited.filterMap Prod.snd
  | .error error => error = osError ∨ ∃ root result, after.held = .holds root result ∧
      result.cancellationPending = some true ∧ orEmpty result.externalOrderId.join = ""

/-- **The directories one after the other**; the induction is on their list. -/
theorem recovery_recoverRoots (roots : List Root)
    (htask : phase.task = .recoverPendingCancellations) :
    (recoveryProtocol config).Obeys (RecoveredRoots roots phase) (recoverRoots config roots)
      phase := by
  induction roots generalizing phase with
  | nil => exact ⟨rfl, rfl, [], rfl, (List.append_nil _).symm, rfl⟩
  | cons root roots ih =>
    unfold recoverRoots
    refine (recovery_recoverRoot htask).bind ?_ fun _ _ herror => herror
    rintro between found ⟨htask', hlisted, hvisited⟩
    refine (ih (htask'.trans htask)).bind ?_ fun _ _ herror => herror
    rintro after results ⟨htask'', hlisted', visited, hroots, hvisited', hresults⟩
    refine ⟨htask''.trans htask', hlisted'.trans hlisted, (root, found) :: visited, ?_, ?_, ?_⟩
    · rw [List.map_cons, hroots]
    · rw [hvisited', hvisited, List.append_assoc, List.singleton_append]
    · rw [hresults]
      cases found <;> rfl

/-- The recovery has visited the directories it was given. -/
def RecoveryPhase.Covers (config : ExecutorConfig) (phase : RecoveryPhase) : Prop :=
  if config.continuousSession then phase.listed = some (phase.visited.map Prod.fst)
  else phase.visited.map Prod.fst = [none]

/-- How a recovery ends: it returns what it found, or a file was not written, or a pending result
names no order. -/
def Recovered (config : ExecutorConfig) (phase : RecoveryPhase) :
    Except Raised (List FastLiveResult) → Prop
  | .ok results => phase.Covers config ∧ results = phase.visited.filterMap Prod.snd
  | .error error => error = osError ∨ ∃ root result, phase.held = .holds root result ∧
      result.cancellationPending = some true ∧ orEmpty result.externalOrderId.join = ""

/-- **The recovery** keeps to the discipline. -/
theorem recovery_recoverPendingCancellations :
    (recoveryProtocol config).Obeys (Recovered config) (recoverPendingCancellations config)
      { task := .recoverPendingCancellations } := by
  unfold recoverPendingCancellations
  by_cases hcontinuous : config.continuousSession = true
  · rw [if_pos hcontinuous]
    refine Protocol.obeys_call_bind.2 ⟨trivial, fun roots _ => ?_⟩
    refine (recovery_recoverRoots roots rfl).mono ?_
    rintro after (error | results) hdone
    · exact hdone
    · obtain ⟨-, hlisted, visited, hroots, hvisited, hresults⟩ := hdone
      obtain rfl : after.visited = visited := hvisited
      refine ⟨?_, hresults⟩
      rw [RecoveryPhase.Covers, if_pos hcontinuous, hlisted, hroots]
      rfl
  · rw [if_neg hcontinuous]
    refine (recovery_recoverRoots [none] rfl).mono ?_
    rintro after (error | results) hdone
    · exact hdone
    · obtain ⟨-, -, visited, hroots, hvisited, hresults⟩ := hdone
      obtain rfl : after.visited = visited := hvisited
      exact ⟨by rw [RecoveryPhase.Covers, if_neg hcontinuous, hroots], hresults⟩

/-! ### The other calls -/

/-- How a marking ends: the result of the attempt it names is published. -/
def Marked (config : ExecutorConfig) (result : FastLiveResult) (phase : RecoveryPhase) :
    Except Raised Unit → Prop
  | .ok _ => ∃ root published,
      stateRootOf config (orEmpty result.intentId) (orEmpty result.requestSha256) = .ok root ∧
        phase.held = .holds root published ∧
        published.recoveryResultPublishPending = some false ∧
        orEmpty published.intentId = orEmpty result.intentId ∧
        orEmpty published.requestSha256 = orEmpty result.requestSha256
  | .error _ => True

/-- **Marking a recovered result** keeps to the discipline. -/
theorem recovery_markRecoveryResultPublished (result : FastLiveResult)
    (htask : phase.task = .markRecoveryResultPublished result) :
    (recoveryProtocol config).Obeys (Marked config result)
      (markRecoveryResultPublished config result) phase := by
  unfold markRecoveryResultPublished
  dsimp only
  split_ifs
  · trivial
  · rw [Protocol.obeys_bind, Protocol.obeys_ofExcept]
    cases hroot : stateRootOf config (orEmpty result.intentId) (orEmpty result.requestSha256) with
    | error error => trivial
    | ok root =>
      refine recovery_read_bind (fun persisted _ => ?_) fun _ => trivial
      split_ifs with hmismatch
      · trivial
      · push Not at hmismatch
        obtain ⟨hintent, hrequest, howed⟩ := hmismatch
        refine recovery_quiet_call_bind rfl fun publishedAt => ?_
        have hallowed : RecordAllowed config
            (recoveryNext phase (.readResult root) (some persisted)) root
            (persisted.recoveryPublished publishedAt) :=
          ⟨rfl, .published result publishedAt htask howed⟩
        unfold writeReplaceResult
        refine Protocol.obeys_call_bind.2 ⟨hallowed, fun written _ => ?_⟩
        cases written with
        | false => trivial
        | true => exact ⟨root, _, hroot, rfl, rfl, hintent, hrequest⟩

/-- **Signing ahead** keeps to the discipline. -/
theorem recovery_prepareOrder (verified : Verified) :
    (recoveryProtocol config).Obeys (fun _ _ => True) (prepareOrder config verified) phase := by
  unfold prepareOrder
  rw [Protocol.obeys_bind, Protocol.obeys_ofExcept]
  cases intentStateRoot config verified with
  | error error => trivial
  | ok root =>
    refine Protocol.obeys_call_bind.2 ⟨trivial, fun present _ => ?_⟩
    cases present with
    | true => trivial
    | false =>
      refine recovery_quiet_bind ((only_requireFreshSafety config).mono (fun _ => Prompt.quiet)
        fun _ h => h) (fun _ => ?_) fun _ _ => trivial
      refine recovery_quiet_bind (Program.only_ofExcept fun _ _ => trivial) (fun terms => ?_)
        fun _ (_ : True) => trivial
      refine recovery_quiet_call_bind rfl fun _ => ?_
      exact recovery_quiet_bind ((only_signOrder terms).mono (fun _ => Prompt.quiet) fun _ h => h)
        (fun _ => trivial) fun _ _ => trivial

/-- How a call ends. -/
def recoveryDone (config : ExecutorConfig) :
    ExecutorTask → RecoveryPhase → Except Raised ExecutorReturn → Prop
  | .recoverPendingCancellations, phase, result =>
    ∃ ended, Recovered config phase ended ∧ result = ended.map .recovered
  | .markRecoveryResultPublished marked, phase, result =>
    ∃ ended, Marked config marked phase ended ∧ result = ended.map fun _ => .marked
  | _, _, _ => True

/-- The phase a call starts in. -/
def recoveryStart (task : ExecutorTask) : RecoveryPhase := { task }

/-- **Every call** keeps to the discipline. -/
theorem recovery_program (config : ExecutorConfig) (task : ExecutorTask) :
    (recoveryProtocol config).Obeys (recoveryDone config task) (task.program config)
      (recoveryStart task) := by
  cases task with
  | execute verified prepared =>
    exact (recovery_execute prepared rfl).bind (fun _ _ _ => trivial) fun _ _ _ => trivial
  | executeWithRetry verified prepared fuel =>
    exact (recovery_executeWithRetry prepared fuel 0 rfl).bind (fun _ _ _ => trivial)
      fun _ _ _ => trivial
  | recoverPendingCancellations =>
    refine recovery_recoverPendingCancellations.bind (fun after results h => ?_)
      fun after error h => ?_
    · exact ⟨.ok results, h, rfl⟩
    · exact ⟨.error error, h, rfl⟩
  | markRecoveryResultPublished result =>
    refine (recovery_markRecoveryResultPublished result rfl).bind (fun after value h => ?_)
      fun after error h => ?_
    · exact ⟨.ok value, h, rfl⟩
    · exact ⟨.error error, h, rfl⟩
  | prepareOrder verified =>
    exact (recovery_prepareOrder verified).bind (fun _ _ _ => trivial) fun _ _ _ => trivial

end Obeys

end BpEngine.FastLive
