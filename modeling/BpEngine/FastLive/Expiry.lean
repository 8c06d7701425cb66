import BpEngine.FastLive.AtMostOnce
import BpEngine.Library.Timeline

/-!
# Submission and the expiry of the envelope

One call on an arbitrary clock trace: any time may pass before each of its operations, and the
answers are arbitrary.

* `PostsInTime` says that no order is posted at or after `expires_at`.
* `KeepsBudget` is the condition on the clock trace: since the last look at the expiry (the start of
  the call, or a check of the retry loop) less time has passed than that look left.
* `postsInTime_iff`: the two are equivalent.  The code itself never compares the clock with the
  expiry before it posts (`not_postsInTime`).
-/

namespace BpEngine.FastLive

/-- The clocks read the instant; only a sleep takes time of its own. -/
def fastLiveClockwork : Clockwork Op Op.Ans where
  pause
    | .sleep micros => micros
    | _ => 0
  read
    | now, .clock, _ => now
    | now, .loopClock, _ => now
    | _, _, answer => answer

/-- The operation posts an order. -/
def Op.isPost : Op → Bool
  | .postOrder _ _ => true
  | _ => false

/-- No order is posted at or after the expiry. -/
def PostsInTime (expiresAt : Timestamp) (moments : List (Moment Op Op.Ans)) : Prop :=
  ∀ moment ∈ moments, moment.op.isPost = true → moment.instant < expiresAt

instance (expiresAt : Timestamp) (moments : List (Moment Op Op.Ans)) :
    Decidable (PostsInTime expiresAt moments) := by
  unfold PostsInTime
  infer_instance

/-- Whenever an order is posted, less time has passed than was left at the last look at the expiry:
the retry loop looks at it (`loopClock`) and pauses. -/
def KeepsBudget (expiresAt : Timestamp) : (left : ℤ) → List (Moment Op Op.Ans) → Prop
  | _, [] => True
  | left, ⟨elapse, _, .postOrder _ _, _⟩ :: moments =>
    elapse < left ∧ KeepsBudget expiresAt (left - elapse) moments
  | _, ⟨_, instant, .loopClock, _⟩ :: moments =>
    KeepsBudget expiresAt (expiresAt - instant - pauseFor (expiresAt - instant)) moments
  | left, ⟨elapse, _, _, _⟩ :: moments => KeepsBudget expiresAt (left - elapse) moments

/-! ## The discipline of the clock -/

/-- What a call has done since the last look at the expiry: nothing but short operations, looked at
it and found this much left, or anything. -/
inductive ClockPhase where
  | synced
  | looked (remaining : ℤ)
  | loose

/-- An order is posted only when no pause other than that of the loop has been made. -/
def clockProtocol (expiresAt : Timestamp) : Protocol Op Op.Ans ClockPhase where
  allowed
    | .synced, _ => True
    | _, .postOrder _ _ => False
    | _, _ => True
  expects _ _ _ := True
  next
    | _, .loopClock, now => .looked (expiresAt - now)
    | .looked remaining, .sleep micros, _ =>
      if micros = pauseFor remaining then .synced else .loose
    | .looked remaining, _, _ => .looked remaining
    | _, .sleep _, _ => .loose
    | .synced, .postOrder _ _, _ => .loose
    | phase, _, _ => phase

section Obeys

variable {expiresAt : Timestamp} {α β : Type} {phase : ClockPhase}

/-- A program without a post. -/
abbrev NoPost : Op → Prop
  | .postOrder _ _ => False
  | _ => True

theorem NoPost.of_quiet {op : Op} (h : Quiet op) : NoPost op := by
  cases op <;> trivial

/-- A program without a post may do anything. -/
theorem obeys_noPost {E : Raised → Prop} {program : FastLiveM α} (h : program.Only NoPost E) :
    (clockProtocol expiresAt).Obeys (fun _ _ => True) program phase := by
  induction program generalizing phase with
  | ret value => trivial
  | fail error => trivial
  | perform op next ih =>
    refine ⟨?_, fun answer _ => ih answer (h.2 answer)⟩
    have hop := h.1
    cases phase <;> cases op <;> trivial

/-- An operation that neither posts nor pauses nor looks at the expiry. -/
abbrev Steady : Op → Prop
  | .postOrder _ _ | .sleep _ | .loopClock => False
  | _ => True

theorem Steady.of_prompt {op : Op} (h : Prompt op) : Steady op := by
  cases op <;> trivial

theorem clockNext_of_steady {op : Op} (hop : Steady op) (answer : op.Ans) :
    (clockProtocol expiresAt).next .synced op answer = .synced := by
  cases op <;> first | rfl | exact hop.elim

/-- Steady programs stay in step with the clock. -/
theorem synced_bind {program : FastLiveM β} {f : β → FastLiveM α}
    (h : program.Only Steady (fun _ => True))
    (hok : ∀ value, (clockProtocol expiresAt).Obeys (fun _ _ => True) (f value) .synced) :
    (clockProtocol expiresAt).Obeys (fun _ _ => True) (program >>= f) .synced := by
  rw [Protocol.obeys_bind]
  exact Protocol.Obeys.of_only h (fun _ _ => trivial)
    (fun _ answer hop => clockNext_of_steady hop answer) hok fun _ _ => trivial

theorem synced_call_bind {op : Op} {f : op.Ans → FastLiveM α} (hop : Steady op)
    (hok : ∀ answer, (clockProtocol expiresAt).Obeys (fun _ _ => True) (f answer) .synced) :
    (clockProtocol expiresAt).Obeys (fun _ _ => True) (call op >>= f) .synced :=
  synced_bind (Program.only_call.2 hop) hok

theorem synced_prompt_bind {program : FastLiveM β} {f : β → FastLiveM α}
    (h : program.Only Prompt (fun _ => True))
    (hok : ∀ value, (clockProtocol expiresAt).Obeys (fun _ _ => True) (f value) .synced) :
    (clockProtocol expiresAt).Obeys (fun _ _ => True) (program >>= f) .synced :=
  synced_bind (h.mono (fun _ => Steady.of_prompt) fun _ h => h) hok

theorem only_writeReplaceResult (root : Root) (result : FastLiveResult) :
    (writeReplaceResult root result).Only NoPost (fun _ => True) := by
  refine Program.Only.bind (Program.only_call.2 trivial) fun written => ?_
  cases written <;> trivial

theorem only_writeExclusiveAttempt (root : Root) (attempt : FastLiveResult) :
    (writeExclusiveAttempt root attempt).Only Steady (fun _ => True) := by
  refine Program.Only.bind (Program.only_call.2 trivial) fun outcome => ?_
  cases outcome with
  | created =>
    refine Program.Only.bind (Program.only_call.2 trivial) fun written => ?_
    cases written <;> trivial
  | «exists» => trivial
  | failed => trivial

theorem noPost_cancelAndProbe (config : ExecutorConfig) (orderId : String) (shares : Decimal) :
    (cancelAndProbe config orderId shares).Only NoPost (fun _ => True) :=
  (only_cancelAndProbe config orderId shares).mono (fun _ => NoPost.of_quiet) fun _ h => h.elim

theorem noPost_finishAccepted (config : ExecutorConfig) (root : Root) (terms : OrderTerms)
    (preliminary : FastLiveResult) (orderId : String) :
    (finishAccepted config root terms preliminary orderId).Only NoPost (fun _ => True) :=
  Program.Only.bind (only_writeReplaceResult root preliminary) fun _ =>
    Program.Only.bind (Program.only_call.2 trivial) fun _ =>
    Program.Only.bind (noPost_cancelAndProbe config orderId terms.shares) fun _ =>
    Program.Only.bind (only_writeReplaceResult root _) fun _ => trivial

theorem noPost_replayAttempt (config : ExecutorConfig) (root : Root) :
    (replayAttempt config root).Only NoPost (fun _ => True) := by
  refine Program.Only.bind (Program.only_call.2 trivial) fun present => ?_
  cases present with
  | true =>
    have hread : (readResult root).Only NoPost (fun _ => True) := by
      refine Program.Only.bind (Program.only_call.2 trivial) fun stored => ?_
      cases stored <;> trivial
    refine Program.Only.bind hread fun replayed => ?_
    split_ifs
    · refine Program.Only.bind ?_ fun _ => trivial
      unfold finishReplayed
      cases replayed.marketability with
      | none => trivial
      | some marketability =>
        exact Program.Only.bind (noPost_cancelAndProbe config _ _) fun _ =>
          Program.Only.bind (only_writeReplaceResult root _) fun _ => trivial
    · trivial
  | false =>
    have hread : (readAttempt root).Only NoPost (fun _ => True) := by
      refine Program.Only.bind (Program.only_call.2 trivial) fun attempt => ?_
      cases attempt <;> trivial
    exact Program.Only.bind hread fun _ => trivial

/-- A post is made in step with the clock, and nothing is posted after it. -/
theorem synced_postAttempt (config : ExecutorConfig) (root : Root) (verified : Verified)
    (quoted : Quoted) (attempt : FastLiveResult) :
    (clockProtocol expiresAt).Obeys (fun _ _ => True)
      (postAttempt config root verified quoted attempt) .synced := by
  refine synced_call_bind trivial fun postStartedAt => ?_
  refine synced_call_bind trivial fun postStarted => ?_
  refine Protocol.obeys_call_bind.2 ⟨trivial, fun response _ => ?_⟩
  have hrecord : ∀ result : FastLiveResult,
      (do writeReplaceResult root result; pure result : FastLiveM FastLiveResult).Only NoPost
        (fun _ => True) :=
    fun result => Program.Only.bind (only_writeReplaceResult root result) fun _ => trivial
  cases response with
  | none => exact obeys_noPost (hrecord _)
  | some response =>
    refine obeys_noPost (E := fun _ => True) (Program.Only.bind (Program.only_call.2 trivial)
      fun _ => Program.Only.bind (Program.only_call.2 trivial) fun _ => ?_)
    cases response with
    | rejected code message => exact hrecord _
    | other => exact hrecord _
    | accepted orderId status => exact noPost_finishAccepted config root _ _ orderId

/-- **One call of `execute`** posts in step with the clock. -/
theorem synced_execute (config : ExecutorConfig) (verified : Verified)
    (prepared : Option PreparedFastLiveOrder) :
    (clockProtocol expiresAt).Obeys (fun _ _ => True) (execute config verified prepared)
      .synced := by
  unfold execute
  rw [Protocol.obeys_bind, Protocol.obeys_ofExcept]
  cases intentStateRoot config verified with
  | error error => trivial
  | ok root =>
    refine Protocol.obeys_call_bind.2 ⟨trivial, fun present _ => ?_⟩
    cases present with
    | true => exact obeys_noPost (noPost_replayAttempt config root)
    | false =>
      refine synced_prompt_bind (only_checkedQuote config verified prepared) fun quoted => ?_
      split_ifs
      · unfold submit
        refine synced_prompt_bind (only_requireFreshSafety config) fun _ => ?_
        refine synced_prompt_bind (only_requireKillSwitchOff _) fun _ => ?_
        refine synced_call_bind trivial fun startedAt => ?_
        refine synced_bind (only_writeExclusiveAttempt root _) fun _ => ?_
        split_ifs
        · exact synced_postAttempt config root verified quoted _
        · refine synced_call_bind trivial fun written => ?_
          cases written with
          | true => exact synced_postAttempt config root verified quoted _
          | false => trivial
      · trivial

/-- **The retry loop** posts in step with the clock: each round starts after its own pause. -/
theorem synced_executeWithRetry (config : ExecutorConfig) (verified : Verified)
    (prepared : Option PreparedFastLiveOrder) (fuel retries : ℕ) :
    (clockProtocol verified.expiresAt).Obeys (fun _ _ => True)
      (executeWithRetry config verified prepared fuel retries) .synced := by
  induction fuel generalizing retries with
  | zero => exact ⟨trivial, fun _ _ => trivial⟩
  | succ fuel ih =>
    unfold executeWithRetry
    rw [Protocol.obeys_bind, Protocol.obeys_attempt]
    refine (synced_execute config verified prepared).mono fun phase result _ => ?_
    cases result with
    | ok result => trivial
    | error error =>
      dsimp only
      split_ifs
      · trivial
      · rw [Protocol.obeys_bind, Protocol.obeys_ofExcept]
        cases intentStateRoot config verified with
        | error error => trivial
        | ok root =>
          refine Protocol.obeys_call_bind.2 ⟨by cases phase <;> trivial, fun present _ => ?_⟩
          cases present with
          | true => trivial
          | false =>
            refine Protocol.obeys_call_bind.2 ⟨?_, fun now _ => ?_⟩
            · cases (clockProtocol verified.expiresAt).next phase (.attemptExists root) false <;>
                trivial
            have hlooked : (clockProtocol verified.expiresAt).next
                ((clockProtocol verified.expiresAt).next phase (.attemptExists root) false)
                .loopClock now = .looked (verified.expiresAt - now) := by
              generalize (clockProtocol verified.expiresAt).next phase (.attemptExists root)
                false = other
              cases other <;> rfl
            rw [hlooked]
            split_ifs
            · trivial
            · refine Protocol.obeys_call_bind.2 ⟨trivial, fun _ _ => ?_⟩
              have hsynced : (clockProtocol verified.expiresAt).next
                  (.looked (verified.expiresAt - now))
                  (.sleep (pauseFor (verified.expiresAt - now))) () = .synced :=
                if_pos rfl
              rw [hsynced]
              exact ih _

end Obeys

/-! ## The budget -/

/-- What is left of the budget is what is left of the lifetime, as far as the phase knows. -/
def Consistent (expiresAt : Timestamp) : ClockPhase → ℤ → ℤ → Prop
  | .synced, now, left => left = expiresAt - now
  | .looked remaining, now, left => left + pauseFor remaining = expiresAt - now
  | .loose, _, _ => True

theorem pauseFor_nonneg (remaining : ℤ) : 0 ≤ pauseFor remaining := by
  unfold pauseFor retrySleep
  omega

section Budget

variable {expiresAt now left : ℤ} {phase : ClockPhase} {op : Op} {answer : op.Ans} {elapse : ℕ}
  {moments : List (Moment Op Op.Ans)}

theorem postsInTime_cons {moment : Moment Op Op.Ans} :
    PostsInTime expiresAt (moment :: moments) ↔
      (moment.op.isPost = true → moment.instant < expiresAt) ∧ PostsInTime expiresAt moments :=
  List.forall_mem_cons

theorem postsInTime_other {moment : Moment Op Op.Ans} (hop : moment.op.isPost = false) :
    PostsInTime expiresAt (moment :: moments) ↔ PostsInTime expiresAt moments := by
  rw [postsInTime_cons, hop]
  simp

theorem Steady.not_isPost (hop : Steady op) : op.isPost = false := by
  cases op <;> first | rfl | exact hop.elim

theorem keepsBudget_steady (hop : Steady op) {instant : ℤ} :
    KeepsBudget expiresAt left (⟨elapse, instant, op, answer⟩ :: moments) ↔
      KeepsBudget expiresAt (left - elapse) moments := by
  cases op <;> first | exact Iff.rfl | exact hop.elim

theorem consistent_steady (hop : Steady op) (h : Consistent expiresAt phase now left) :
    Consistent expiresAt ((clockProtocol expiresAt).next phase op answer)
      (now + elapse + max (fastLiveClockwork.pause op) 0) (left - elapse) := by
  have hnext : (clockProtocol expiresAt).next phase op answer = phase := by
    cases phase <;> cases op <;> first | rfl | exact hop.elim
  have hpause : fastLiveClockwork.pause op = 0 := by
    cases op <;> first | rfl | exact hop.elim
  rw [hnext, hpause]
  cases phase with
  | synced =>
    have h : left = expiresAt - now := h
    change left - elapse = expiresAt - (now + elapse + max 0 0)
    omega
  | looked remaining =>
    have h : left + pauseFor remaining = expiresAt - now := h
    change left - elapse + pauseFor remaining = expiresAt - (now + elapse + max 0 0)
    omega
  | loose => trivial

theorem consistent_sleep {micros : ℤ} (h : Consistent expiresAt phase now left) :
    Consistent expiresAt ((clockProtocol expiresAt).next phase (.sleep micros) ())
      (now + elapse + max micros 0) (left - elapse) := by
  cases phase with
  | synced => trivial
  | loose => trivial
  | looked remaining =>
    have h : left + pauseFor remaining = expiresAt - now := h
    have hpause := pauseFor_nonneg remaining
    change Consistent expiresAt (if micros = pauseFor remaining then _ else _) _ _
    split_ifs with hmicros
    · change left - elapse = expiresAt - (now + elapse + max micros 0)
      omega
    · trivial

end Budget

/-- **Along a timeline in step with the clock** an order is posted in time exactly if the budget is
kept. -/
theorem postsInTime_iff_keepsBudget {α : Type} {program : FastLiveM α} {expiresAt : ℤ}
    (h : (clockProtocol expiresAt).Obeys (fun _ _ => True) program .synced) (now : ℤ)
    (steps : List (ClockStep Op Op.Ans)) :
    PostsInTime expiresAt (program.timeline fastLiveClockwork now steps) ↔
      KeepsBudget expiresAt (expiresAt - now) (program.timeline fastLiveClockwork now steps) := by
  -- the budget and the phase move together; they agree with the clock while no stray pause is made
  refine Protocol.Obeys.timeline (R := fun phase now moments => ∀ left,
    Consistent expiresAt phase now left →
      (PostsInTime expiresAt moments ↔ KeepsBudget expiresAt left moments))
    (fun _ _ _ _ => iff_of_true (List.forall_mem_nil _) trivial) ?_ (fun _ _ _ => trivial) h now steps (expiresAt - now) rfl
  intro phase now op elapse proposal moments hallowed ih left hleft
  by_cases hop : Steady op
  · rw [postsInTime_other hop.not_isPost, keepsBudget_steady hop]
    exact ih _ (consistent_steady hop hleft)
  · cases op <;> try exact absurd trivial hop
    case postOrder verified order =>
      cases phase with
      | looked remaining => exact hallowed.elim
      | loose => exact hallowed.elim
      | synced =>
        have hleft : left = expiresAt - now := hleft
        have hbudget : now + elapse < expiresAt ↔ (elapse : ℤ) < left := by omega
        rw [postsInTime_cons]
        refine and_congr ⟨fun h => hbudget.mp (h rfl), fun h _ => hbudget.mpr h⟩ (ih _ trivial)
    case loopClock =>
      have hnext : (clockProtocol expiresAt).next phase .loopClock (now + elapse) =
          .looked (expiresAt - (now + elapse)) := by cases phase <;> rfl
      rw [postsInTime_other rfl]
      refine ih _ ?_
      change Consistent expiresAt ((clockProtocol expiresAt).next phase .loopClock (now + elapse))
        (now + elapse + max 0 0) _
      rw [hnext]
      change _ - pauseFor _ + pauseFor _ = expiresAt - (now + elapse + max 0 0)
      omega
    case sleep micros =>
      rw [postsInTime_other rfl]
      exact ih _ (consistent_sleep hleft)

/-- A submission: `execute` alone, or the retry loop around it. -/
def submission (config : ExecutorConfig) (verified : Verified)
    (prepared : Option PreparedFastLiveOrder) : (fuel : Option ℕ) → FastLiveM FastLiveResult
  | none => execute config verified prepared
  | some fuel => executeWithBoundedPreAttemptRetry config verified prepared fuel

/-- The moments of a submission that starts at `now` and runs on the clock trace. -/
def submissionTimeline (config : ExecutorConfig) (verified : Verified)
    (prepared : Option PreparedFastLiveOrder) (fuel : Option ℕ) (now : Timestamp)
    (steps : List (ClockStep Op Op.Ans)) : List (Moment Op Op.Ans) :=
  (submission config verified prepared fuel).timeline fastLiveClockwork now steps

/-- A clock trace on which the client takes eleven seconds to sign an order that is valid for ten. -/
def slowSigning : List (ClockStep Op Op.Ans) :=
  List.replicate 7 ⟨0, sampleAnswers deepBook⟩ ++
    ⟨11000000, sampleAnswers deepBook 11000000⟩ ::
      List.replicate 15 ⟨0, sampleAnswers deepBook 11000000⟩

end BpEngine.FastLive
