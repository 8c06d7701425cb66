import BpEngine.FastLive.AttemptInvariant

/-!
# At most one submission for an attempt

Any number of calls over one state directory, in any interleaving, with crashes and restarts.

* `PostedOnce`: an order is posted at most once for a pair of ids, in one-shot mode at most once.
* `Truthful`: a call that returns a result whose attempt was not consumed ends before any post for
  its payload.  It fails for calls that overlap (`not_submitted_at_most_once`): the marker is looked
  at when a call begins, and not again before it returns such a result.
* `submitted_at_most_once`: the first holds in every run, the second in every run in which a call
  that returns without having found or created a marker finds no marker of its payload at its end.
-/

namespace BpEngine.FastLive

/-- At most one order for a pair of ids; in one-shot mode at most one order. -/
def PostedOnce (config : ExecutorConfig) (world : World) : Prop :=
  if config.continuousSession then (world.posts.map (·.verified.identity)).Nodup
  else world.posts.length ≤ 1

instance (config : ExecutorConfig) (world : World) : Decidable (PostedOnce config world) := by
  unfold PostedOnce
  infer_instance

/-- A result that says its attempt was not consumed comes before any post for its payload. -/
def Truthful (ended : Ended World ExecutorTask Raised ExecutorReturn) : Prop :=
  match ended.task.payload, ended.result with
  | some verified, .ok (.result result) =>
    result.networkSubmissionAttemptConsumed = some false →
      ∀ post ∈ ended.world.posts, post.verified.identity ≠ verified.identity
  | _, _ => True

instance (ended : Ended World ExecutorTask Raised ExecutorReturn) : Decidable (Truthful ended) := by
  unfold Truthful
  split <;> infer_instance

/-- Every call that has ended was truthful. -/
def ReportsTruthfully (pool : ExecutorPool) : Prop := ∀ ended ∈ pool.ended, Truthful ended

instance (pool : ExecutorPool) : Decidable (ReportsTruthfully pool) := by
  unfold ReportsTruthfully
  infer_instance

/-- The call has neither found nor created a marker. -/
def untouched (trace : List (Σ op : Op, op.Ans)) : Bool :=
  trace.all fun
    | ⟨.attemptExists _, present⟩ => !present
    | ⟨.createAttempt _, outcome⟩ => outcome ≠ .created
    | _ => true

/-- A call that returns without having found or created a marker finds no marker of its payload at
its end. -/
def Undisturbed (config : ExecutorConfig) (pool : ExecutorPool) (event : ExecutorEvent) : Prop :=
  match pool.endsAt event with
  | some (call, .ok _) =>
    match call.task.payload with
    | some verified => untouched call.trace = true →
        match intentStateRoot config verified with
        | .ok root => ¬ MarkerOf pool.world root verified.identity
        | .error _ => True
    | none => True
  | _ => True

instance (config : ExecutorConfig) (pool : ExecutorPool) (event : ExecutorEvent) :
    Decidable (Undisturbed config pool event) := by
  unfold Undisturbed
  repeat (split <;> try infer_instance)

section Runs

variable {config : ExecutorConfig} {S : Verified → Prop} {world : World}
  {phases : List AttemptPhase}

/-- Payloads with the same ids have the same directory. -/
theorem intentStateRoot_congr {a b : Verified} (h : a.identity = b.identity) :
    intentStateRoot config a = intentStateRoot config b := by
  simp only [Verified.identity, Prod.mk.injEq, Option.some.injEq] at h
  unfold intentStateRoot
  rw [h.1, h.2]

/-- At most one post in a directory. -/
theorem AttemptInv.countP_posts_le (h : AttemptInv config S world phases) (root : Root) :
    world.posts.countP (Post.of config root) ≤ 1 := by
  have honce := h.once root
  split_ifs at honce <;> omega

theorem AttemptInv.postedOnce (h : AttemptInv config S world phases) :
    PostedOnce config world := by
  unfold PostedOnce
  split_ifs with hmode
  · rw [List.nodup_iff_count_le_one]
    intro identity
    by_cases hmem : identity ∈ world.posts.map (·.verified.identity)
    · obtain ⟨post, hpost, rfl⟩ := List.mem_map.mp hmem
      obtain ⟨root, hroot, -⟩ := h.posted post hpost
      refine le_trans ?_ (h.countP_posts_le root)
      rw [List.count, List.countP_map]
      refine List.countP_mono_left fun other _ heq => ?_
      have hsame : other.verified.identity = post.verified.identity := by simpa using heq
      simp [Post.of, intentStateRoot_congr hsame, hroot]
    · rw [List.count_eq_zero_of_not_mem hmem]
      omega
  · have hall : world.posts.countP (Post.of config none) = world.posts.length := by
      rw [List.countP_eq_length]
      intro post _
      simp [Post.of, intentStateRoot, stateRootOf, hmode]
    exact hall ▸ h.countP_posts_le none

theorem fresh_of_next {phase : AttemptPhase} {op : Op} {answer : op.Ans}
    (h : attemptNext phase op answer = .fresh) :
    phase = .fresh ∧ untouched [⟨op, answer⟩] = true := by
  cases phase <;> cases op <;> first
    | exact ⟨rfl, rfl⟩
    | cases h
    | (cases answer <;> first | exact ⟨rfl, rfl⟩ | cases h)

/-- A call that knows nothing of its attempt has found and created nothing. -/
theorem untouched_of_fresh {trace : List (Σ op : Op, op.Ans)}
    (h : (attemptProtocol config S).after .fresh trace = .fresh) : untouched trace = true := by
  induction trace with
  | nil => rfl
  | cons entry trace ih =>
    obtain ⟨op, answer⟩ := entry
    rw [Protocol.after_cons] at h
    obtain ⟨hbefore, hentry⟩ := fresh_of_next h
    have htail := ih hbefore
    unfold untouched at hentry htail ⊢
    rw [List.all_cons] at hentry ⊢
    simp only [List.all_nil, Bool.and_true] at hentry
    rw [hentry, htail]
    rfl

/-- **The end of an undisturbed call**: if it says that nothing was consumed, nothing was posted. -/
theorem truthful_of_undisturbed {pool : ExecutorPool}
    (h : pool.Inv (submissionGuard S) (attemptProtocol config S) (fun _ => .fresh) (executorDone config)
      (fun world phases => AttemptInv config S world (phases.map Prod.snd)))
    {event : ExecutorEvent} (hquiet : Undisturbed config pool event)
    {call : Call ExecutorTask Op Op.Ans Raised ExecutorReturn}
    {result : Except Raised ExecutorReturn} (hend : pool.endsAt event = some (call, result)) :
    Truthful ⟨call.task, result, pool.world⟩ := by
  unfold Truthful
  split
  case h_2 => trivial
  case h_1 verified result hpayload hresult =>
    intro hconsumed post hpost hsame
    simp only at hpayload hresult hpost
    subst hresult
    have hdone := (h.done_of_endsAt hend).2 verified hpayload
    rcases hdone with ⟨hfresh, -, -⟩ | ⟨-, -, -, htrue⟩
    · simp only [Undisturbed, hend, hpayload] at hquiet
      have hunmarked := hquiet (untouched_of_fresh hfresh)
      obtain ⟨root, hroot, hmarker⟩ := h.world.posted post hpost
      rw [intentStateRoot_congr hsame] at hroot
      rw [hroot, ← hsame] at hunmarked
      exact hunmarked hmarker
    · simp [FastLiveResult.consumed, hconsumed] at htrue

end Runs

/-- **At most one submission.**  In every run over one state directory, with any interleaving of
calls, exceptions, crashes and restarts, an attempt is posted at most once; and in the runs in which
no other call gets in between, a result that denies the consumption comes before any post. -/
theorem submitted_at_most_once (config : ExecutorConfig) (now : Timestamp)
    (events : List ExecutorEvent) :
    PostedOnce config
        (Machine.run (Pool.exec (executorHost config)) (ExecutorPool.initial now) events).world ∧
      (Machine.Along (Pool.exec (executorHost config)) (Undisturbed config)
          (ExecutorPool.initial now) events →
        ReportsTruthfully
          (Machine.run (Pool.exec (executorHost config)) (ExecutorPool.initial now) events)) := by
  refine ⟨(attemptInv_run config now events).world.postedOnce, fun hquiet => ?_⟩
  induction events using List.reverseRecOn with
  | nil => exact fun ended hended => absurd hended List.not_mem_nil
  | append_singleton events event ih =>
    rw [Machine.along_append] at hquiet
    rw [Machine.run_append, Machine.run_cons, Machine.run_nil]
    intro ended hended
    rw [Pool.ended_exec] at hended
    rcases List.mem_append.mp hended with hin | hin
    · exact ih hquiet.1 ended hin
    · obtain ⟨⟨call, result⟩, hend, rfl⟩ := List.mem_map.mp hin
      exact truthful_of_undisturbed (attemptInv_run config now events) hquiet.2.1
        (by simpa using hend)

/-! ## Sample calls -/

/-- A payload for ten shares at half a dollar, valid for ten seconds. -/
def sampleVerified (intentId : String) (h : intentId ≠ "" := by decide) : Verified where
  authorizationId := "authorization"
  intentId
  predictionId := "prediction"
  paperOrderId := "paper"
  requestSha256 := "ab01ab01ab01ab01ab01ab01ab01ab01ab01ab01ab01ab01ab01ab01ab01ab01"
  preparedSha256 := "cd01cd01cd01cd01cd01cd01cd01cd01cd01cd01cd01cd01cd01cd01cd01cd01"
  createdAt := 0
  expiresAt := Timestamp.ofSeconds 10
  request := some
    { tokenId := "token"
      action := "BUY"
      limitPrice := some ⟨5, -1⟩
      requestedShares := some ⟨10, 0⟩
      targetNotionalUsd := some ⟨5, 0⟩ }
  intentId_ne := h
  requestSha256_hex := by decide

/-- An environment without failures, with the given book and age of the safety snapshot. -/
def sampleAnswers (asks : Levels) (observedAt : Timestamp := 0) : (op : Op) → op.Ans
  | .attemptExists _ | .resultExists _ | .killSwitch => false
  | .reengageKillSwitch | .writeAttempt _ _ | .replaceResult _ _ => true
  | .replaceApprovalResult _ _ | .writeClaim _ | .approvalResultExists _ => true
  | .readAttempt _ | .readResult _ | .readApprovalResult _ => none
  | .createAttempt _ | .claimApproval _ => .created
  | .listRoots => []
  | .safety => some ⟨observedAt, false, "ZA", 0, ⟨10, 0⟩⟩
  | .clock | .loopClock | .monotonicNs => 0
  | .sleep _ | .spin | .boot | .subscribe | .deliver _ | .pruneCache _ | .putCached _ _ _ => ()
  | .stopAccepting | .lock | .unlock | .ack _ | .nack _ => ()
  | .createLimitOrder _ _ _ => some ⟨"signature"⟩
  | .bookSnapshot _ => some asks
  | .getOrderBook _ => none
  | .postOrder _ _ => some .other
  | .cancelOrder _ => none
  | .listOpenOrders => .ok []
  | .listAccountTrades => .ok []
  | .runtimeExpired => false
  | .accepting => true
  | .authorize | .verify _ => none
  | .takeCached _ _ => none
  | .publish _ => .confirmed "message"

/-- A book that covers the order. -/
def deepBook : Levels := [(some ⟨5, -1⟩, some ⟨10, 0⟩)]

/-- Continuous mode, with directories named by the identity itself. -/
def sampleConfig : ExecutorConfig where
  continuousSession := true
  sha256 text := text

theorem sampleId_ne_empty : "a" ≠ "" := by decide

/-- A call alone: it posts its order and ends. -/
def aloneRun : List ExecutorEvent :=
  .start (.execute (sampleVerified "a") none) ::
    List.replicate 30 (.step 0 (sampleAnswers deepBook))

/-- A call sees an empty book; a second call of the same payload posts its order before the first
one ends. -/
def overlappingRun : List ExecutorEvent :=
  [.start (.execute (sampleVerified "a") none), .start (.execute (sampleVerified "a") none)] ++
    List.replicate 14 (.step 0 (sampleAnswers [])) ++
    List.replicate 24 (.step 1 (sampleAnswers deepBook)) ++
    [.step 0 (sampleAnswers [])]

/-- The sample call alone posts its order once and reports it. -/
theorem submitted_at_most_once_alone :
    ReportsTruthfully
      (Machine.run (Pool.exec (executorHost sampleConfig)) (ExecutorPool.initial 0) aloneRun) :=
  (submitted_at_most_once sampleConfig 0 aloneRun).2 (by decide +kernel)

/-- **A result can deny a submission that was made**: of two overlapping calls of one payload, the
second posts its order before the first returns that its book was rejected. -/
theorem not_submitted_at_most_once :
    ¬ ∀ (config : ExecutorConfig) (now : Timestamp) (events : List ExecutorEvent),
      PostedOnce config
          (Machine.run (Pool.exec (executorHost config)) (ExecutorPool.initial now) events).world ∧
        ReportsTruthfully
          (Machine.run (Pool.exec (executorHost config)) (ExecutorPool.initial now) events) := by
  intro h
  exact absurd (h sampleConfig 0 overlappingRun).2 (by decide +kernel)

end BpEngine.FastLive
