import BpEngine.FastLive.RecoveryInvariant
import BpEngine.FastLive.AtMostOnce

/-!
# Recovery is lossless

The executor's calls one after the other over one state directory, with a crash in any of them.

* `runInv_executorAfter`: every run keeps the invariant of the directory.
* `stored_exec`: an event leaves a stored result alone, or the running call takes it one step on.
* `recovery_is_lossless`: what is owed stays owed until it is marked as published or finished by the
  call of its payload, every recovery returns exactly what is owed, a published result never changes,
  and a stored result names the order of its own attempt.
* `not_returned_until_published`: without the clause about the call of its payload this is wrong.
-/

namespace BpEngine.FastLive

section Run

variable {config : ExecutorConfig}

/-- The executor keeps the invariant. -/
theorem recovery_keeps (config : ExecutorConfig) :
    Process.Keeps .all (recoveryProtocol config) recoveryStart (recoveryHost config)
      (recoveryDone config) (DirectoryInv config) (RecoveryInv config) where
  obeys task := recovery_program config task
  start scene task h :=
    ⟨h, trivial, fun _ => ⟨fun _ _ hin => absurd hin List.not_mem_nil,
      fun _ _ hin => absurd hin List.not_mem_nil, fun _ hlisted => by cases hlisted⟩⟩
  serve scene phase op proposal answer after h hallowed hserve := serve_recovery h hallowed hserve
  finish scene task phase result h _ _ := h.directory
  stop scene _ h := h.frame (.of_files rfl rfl fun _ hin => hin)
  crash scene phase _ h := h.directory.frame (.of_files rfl rfl fun _ hin => hin)
  idle scene change _ h := by
    cases change <;> exact h.frame (.of_files rfl rfl fun _ hin => hin)
  outside scene phase change _ h := by
    cases change <;> exact h.frame (.of_files rfl rfl fun _ hin => hin)

/-- The state of the executor after a list of events. -/
def executorAfter (config : ExecutorConfig) (now : Timestamp) (events : List ExecutorStep) :
    ExecutorProcess :=
  Machine.run (Process.exec (recoveryHost config)) (ExecutorProcess.initial now) events

/-- The invariant of the executor's runs. -/
abbrev RunInv (config : ExecutorConfig) (process : ExecutorProcess) : Prop :=
  process.Inv (recoveryProtocol config) recoveryStart (recoveryDone config) (DirectoryInv config)
    (RecoveryInv config)

/-- **Every run** keeps the invariant. -/
theorem runInv_executorAfter (config : ExecutorConfig) (now : Timestamp)
    (events : List ExecutorStep) : RunInv config (executorAfter config now events) := by
  refine Process.inv_run (recovery_keeps config) ?_ (Process.Guard.along_all _ _)
  refine (Process.Inv.of_idle rfl).mpr ⟨?_, ?_, ?_, ?_⟩
  · intro root result hstored
    cases hstored
  · intro root hmarked
    cases hmarked
  · intro root result hstored
    cases hstored
  · intro root result orderId hstored
    cases hstored

/-- One event more. -/
theorem RunInv.exec {process : ExecutorProcess} (h : RunInv config process)
    (event : ExecutorStep) : RunInv config (process.exec (recoveryHost config) event) := by
  have hpasses : Machine.Along (Process.exec (recoveryHost config))
      (Process.Guard.all.Passes (recoveryProtocol config) recoveryStart) process [event] :=
    Process.Guard.along_all process [event]
  exact Process.inv_exec (recovery_keeps config) h hpasses.1

/-- Whatever runs, the directory is as it should be. -/
theorem RunInv.directory {process : ExecutorProcess} (h : RunInv config process) :
    DirectoryInv config process.world := by
  cases hrunning : process.running with
  | none => exact (Process.Inv.of_idle hrunning).mp h
  | some call => exact ((Process.Inv.of_running hrunning).mp h).2.directory

/-- The event records the result in `root`, by a call with the task. -/
def Records (config : ExecutorConfig) (process : ExecutorProcess) (event : ExecutorStep)
    (task : ExecutorTask) (root : Root) (result : FastLiveResult) : Prop :=
  ∃ call, process.performs (recoveryHost config) event =
    some (call, ⟨.replaceResult root result, true⟩) ∧ call.task = task

/-- **What an event does to a stored result**: nothing, or the running call takes it one step on. -/
theorem stored_exec {process : ExecutorProcess} (h : RunInv config process) (event : ExecutorStep)
    {root : Root} {result : FastLiveResult} (hstored : process.world.stored root = some result) :
    (process.exec (recoveryHost config) event).world.stored root = some result ∨
      ∃ task next, Records config process event task root next ∧
        Follows config task root result next ∧
        (process.exec (recoveryHost config) event).world.stored root = some next := by
  rcases process.exec_world_cases (recoveryHost config) event with
    hsame | ⟨-, hsame⟩ | ⟨change, -, hsame⟩ | ⟨call, op, proposal, answer, hperforms, hserve⟩
  · exact .inl (by rw [hsame, hstored])
  · exact .inl (by rw [hsame]; exact hstored)
  · refine .inl ?_
    rw [hsame]
    cases change <;> exact hstored
  · obtain ⟨-, hallowed, hinv⟩ := h.allowed_of_performs hperforms
    rcases serve_stored hserve root with hsame | ⟨next, hop, hnext⟩
    · exact .inl (hsame.trans hstored)
    · obtain ⟨rfl, hanswer⟩ := Sigma.mk.inj hop
      obtain rfl := eq_of_heq hanswer
      obtain ⟨-, -, -, hbefore⟩ := hinv.record_cases hallowed
      rw [Pool.phaseOf, after_task, hstored] at hbefore
      rcases hbefore with ⟨hnone, -⟩ | ⟨before, hbefore, hfollows⟩
      · cases hnone
      · cases hbefore
        exact .inr ⟨call.task, next, ⟨call, hperforms, rfl⟩, hfollows, hnext⟩

/-- The event releases what is owed of the attempt in `root`: a marking records that its result is
published, or a call of its payload records that it has finished the cancellation. -/
inductive Releases (config : ExecutorConfig) (root : Root) (process : ExecutorProcess)
    (event : ExecutorStep) : Prop where
  | marked (result published : FastLiveResult) :
    Records config process event (.markRecoveryResultPublished result) root published →
    published.recoveryResultPublishPending = some false → Releases config root process event
  | finished (task : ExecutorTask) (verified : Verified) (result : FastLiveResult) :
    Records config process event task root result → task.payload = some verified →
    intentStateRoot config verified = .ok root → result.cancellationPending = some false →
    Releases config root process event

/-- **One event**: what is owed stays owed, with the same order, unless the event releases it. -/
theorem owed_exec {process : ExecutorProcess} (h : RunInv config process) {event : ExecutorStep}
    {root : Root} {result : FastLiveResult} (hstored : process.world.stored root = some result)
    (howed : result.Owed) (hkept : ¬ Releases config root process event) :
    ∃ kept, (process.exec (recoveryHost config) event).world.stored root = some kept ∧ kept.Owed ∧
      kept.SameOrder result := by
  rcases stored_exec h event hstored with hsame | ⟨task, next, hrecords, hfollows, hnext⟩
  · exact ⟨result, hsame, howed, rfl, rfl⟩
  · have horder := hfollows.sameOrder
    cases hfollows with
    | finished verified cancellation official hpayload hroot hpending =>
      exact absurd (.finished task verified _ hrecords hpayload hroot rfl) hkept
    | recovered cancellation official recoveredAt htask hpending =>
      exact ⟨_, hnext, .inr rfl, horder⟩
    | published marked publishedAt htask hpending =>
      subst htask
      exact absurd (.marked marked _ hrecords rfl) hkept

/-- **One event** leaves a published result alone. -/
theorem published_exec {process : ExecutorProcess} (h : RunInv config process)
    (event : ExecutorStep) {root : Root} {result : FastLiveResult}
    (hstored : process.world.stored root = some result)
    (hpublished : result.recoveryResultPublishPending = some false) :
    (process.exec (recoveryHost config) event).world.stored root = some result := by
  have hsettled := (h.directory.sound root result hstored).recovered (by rw [hpublished]; rfl)
  rcases stored_exec h event hstored with hsame | ⟨task, next, -, hfollows, -⟩
  · exact hsame
  · cases hfollows with
    | finished _ _ _ _ _ hpending => rw [hsettled] at hpending; cases hpending
    | recovered _ _ _ _ hpending => rw [hsettled] at hpending; cases hpending
    | published _ _ _ howed => rw [hpublished] at howed; cases howed

/-- **A recovery returns exactly what is owed** in the directory. -/
theorem returned_of_ends {process : ExecutorProcess} (h : RunInv config process)
    {event : ExecutorStep}
    {call : Call ExecutorTask Op Op.Ans Raised ExecutorReturn} {results : List FastLiveResult}
    (hends : process.Ends (recoveryHost config) event call (.ok (.recovered results)))
    (htask : call.task = .recoverPendingCancellations) (result : FastLiveResult) :
    result ∈ results ↔ ∃ root, process.world.stored root = some result ∧ result.Owed := by
  obtain ⟨hdone, hinv⟩ := h.of_ends hends
  rw [htask] at hdone
  obtain ⟨ended, hrecovered, hresult⟩ := hdone
  cases ended with
  | error error => cases hresult
  | ok found =>
    cases hresult
    obtain ⟨hcovers, hfound⟩ := hrecovered
    have hvisited := hinv.visited (by rw [Pool.phaseOf, after_task]; exact htask)
    generalize Pool.phaseOf (recoveryProtocol config) recoveryStart call = phase at *
    have hall : ∀ root, process.world.marked root → root ∈ phase.visited.map Prod.fst := by
      intro root hmarked
      unfold RecoveryPhase.Covers at hcovers
      split_ifs at hcovers with hcontinuous
      · exact hvisited.complete _ hcovers root hmarked
      · rw [hcovers, (hinv.directory.listed root hmarked).2 (by simpa using hcontinuous)]
        exact List.mem_cons_self
    rw [hfound, List.mem_filterMap]
    constructor
    · rintro ⟨⟨root, found⟩, hin, rfl⟩
      have hstored := hvisited.found root _ hin
      obtain ⟨stored, hstored, hreturned⟩ := Option.bind_eq_some_iff.mp hstored.symm
      unfold FastLiveResult.returned at hreturned
      split_ifs at hreturned with howed
      cases hreturned
      exact ⟨root, hstored, howed⟩
    · rintro ⟨root, hstored, howed⟩
      have hin := hall root (hinv.directory.marked root result hstored)
      obtain ⟨⟨other, found⟩, hentry, rfl⟩ := List.mem_map.mp hin
      refine ⟨(other, found), hentry, ?_⟩
      have hfound := hvisited.found other found hentry
      rw [hstored] at hfound
      exact hfound.trans (if_pos howed)

/-- **A recovery raises** only when a file was not written, or when a pending result names no
order. -/
theorem raised_of_ends {process : ExecutorProcess} (h : RunInv config process)
    {event : ExecutorStep} {call : Call ExecutorTask Op Op.Ans Raised ExecutorReturn} {error : Raised}
    (hends : process.Ends (recoveryHost config) event call (.error error))
    (htask : call.task = .recoverPendingCancellations) :
    error = osError ∨ ∃ root result, process.world.stored root = some result ∧
      result.cancellationPending = some true ∧ orEmpty result.externalOrderId.join = "" := by
  obtain ⟨hdone, hinv⟩ := h.of_ends hends
  rw [htask] at hdone
  obtain ⟨ended, hrecovered, hresult⟩ := hdone
  cases ended with
  | ok found => cases hresult
  | error raised =>
    cases hresult
    rcases hrecovered with hos | ⟨root, result, hheld, hpending, horder⟩
    · exact .inl hos
    · have hholds := hinv.held
      rw [hheld] at hholds
      exact .inr ⟨root, result, hholds, hpending, horder⟩

/-- **A marking that returns** has published the result it names. -/
theorem marked_of_ends {process : ExecutorProcess} (h : RunInv config process)
    {event : ExecutorStep} {call : Call ExecutorTask Op Op.Ans Raised ExecutorReturn}
    {given : FastLiveResult}
    (hends : process.Ends (recoveryHost config) event call (.ok .marked))
    (htask : call.task = .markRecoveryResultPublished given) :
    ∃ root published,
      stateRootOf config (orEmpty given.intentId) (orEmpty given.requestSha256) = .ok root ∧
        process.world.stored root = some published ∧
        published.recoveryResultPublishPending = some false ∧
        orEmpty published.intentId = orEmpty given.intentId ∧
        orEmpty published.requestSha256 = orEmpty given.requestSha256 := by
  obtain ⟨hdone, hinv⟩ := h.of_ends hends
  rw [htask] at hdone
  obtain ⟨ended, hmarked, hresult⟩ := hdone
  cases ended with
  | error raised => cases hresult
  | ok value =>
    obtain ⟨root, published, hroot, hheld, hpublished⟩ := hmarked
    have hholds := hinv.held
    rw [hheld] at hholds
    exact ⟨root, published, hroot, hholds, hpublished⟩

/-- What holds of a state of the executor and of what it is after some later events: nothing that is
owed is lost, and nothing is returned that is not owed. -/
structure Lossless (config : ExecutorConfig) (process after : ExecutorProcess)
    (later : List ExecutorStep) : Prop where
  owed : ∀ root result, process.world.stored root = some result → result.Owed →
    Machine.Along (Process.exec (recoveryHost config))
      (fun process event => ¬ Releases config root process event) process later →
    ∃ kept, after.world.stored root = some kept ∧ kept.Owed ∧ kept.SameOrder result
  published : ∀ root result, process.world.stored root = some result →
    result.recoveryResultPublishPending = some false → after.world.stored root = some result
  returned : ∀ event call results,
    after.Ends (recoveryHost config) event call (.ok (.recovered results)) →
    call.task = .recoverPendingCancellations →
    ∀ result, result ∈ results ↔ ∃ root, after.world.stored root = some result ∧ result.Owed
  raised : ∀ event call error, after.Ends (recoveryHost config) event call (.error error) →
    call.task = .recoverPendingCancellations →
    error = osError ∨ ∃ root result, after.world.stored root = some result ∧
      result.cancellationPending = some true ∧ orEmpty result.externalOrderId.join = ""
  marked : ∀ event call given, after.Ends (recoveryHost config) event call (.ok .marked) →
    call.task = .markRecoveryResultPublished given → ∃ root published,
      stateRootOf config (orEmpty given.intentId) (orEmpty given.requestSha256) = .ok root ∧
        after.world.stored root = some published ∧
        published.recoveryResultPublishPending = some false ∧
        orEmpty published.intentId = orEmpty given.intentId ∧
        orEmpty published.requestSha256 = orEmpty given.requestSha256
  own : ∀ root result orderId, after.world.stored root = some result →
    result.externalOrderId.join = some orderId → ∃ verified,
      (verified, orderId) ∈ after.world.accepted ∧ intentStateRoot config verified = .ok root ∧
        result.identity = verified.identity

/-- What is owed stays owed along events that do not release it. -/
theorem owed_run {process : ExecutorProcess} (h : RunInv config process) {root : Root}
    {result : FastLiveResult} (later : List ExecutorStep)
    (hstored : process.world.stored root = some result) (howed : result.Owed)
    (hkept : Machine.Along (Process.exec (recoveryHost config))
      (fun process event => ¬ Releases config root process event) process later) :
    ∃ kept, (Machine.run (Process.exec (recoveryHost config)) process later).world.stored root =
      some kept ∧ kept.Owed ∧ kept.SameOrder result := by
  induction later generalizing process result with
  | nil => exact ⟨result, hstored, howed, rfl, rfl⟩
  | cons event later ih =>
    obtain ⟨hfirst, hrest⟩ := hkept
    obtain ⟨next, hnext, howes, hidentity, horder⟩ := owed_exec h hstored howed hfirst
    obtain ⟨kept, hlast, hkeeps, hsame⟩ := ih (h.exec event) hnext howes hrest
    exact ⟨kept, hlast, hkeeps, hsame.1.trans hidentity, hsame.2.trans horder⟩

/-- A published result is never changed again. -/
theorem published_run {process : ExecutorProcess} (h : RunInv config process) {root : Root}
    {result : FastLiveResult} (later : List ExecutorStep)
    (hstored : process.world.stored root = some result)
    (hpublished : result.recoveryResultPublishPending = some false) :
    (Machine.run (Process.exec (recoveryHost config)) process later).world.stored root =
      some result := by
  induction later generalizing process with
  | nil => exact hstored
  | cons event later ih =>
    exact ih (h.exec event) (published_exec h event hstored hpublished)

/-- Every recovery returns a result with the order whose cancellation was pending, as long as no
marking is started. -/
def ReturnedUntilPublished (config : ExecutorConfig) (now : Timestamp) : Prop :=
  ∀ before later root result event call results,
    (executorAfter config now before).world.stored root = some result →
    result.cancellationPending = some true →
    (∀ given, ProcessEvent.start (.markRecoveryResultPublished given) ∉ later) →
    call.task = .recoverPendingCancellations →
    (executorAfter config now (before ++ later)).Ends (recoveryHost config) event call
      (.ok (.recovered results)) →
    ∃ recovered ∈ results, recovered.SameOrder result

/-- An exchange that accepts every order. -/
def acceptingAnswers : (op : Op) → op.Ans
  | .postOrder _ _ => some (.accepted "order" "live")
  | op => sampleAnswers deepBook 0 op

/-- The process crashes while the accepted order rests. -/
def restingCrash : List ExecutorStep :=
  .start (.execute (sampleVerified "a" sampleId_ne_empty) none) :: List.replicate 26 (.step acceptingAnswers) ++
    [.crash]

/-- The payload is delivered again, and then a recovery runs to its end. -/
def redeliveredThenRecovered : List ExecutorStep :=
  .start (.execute (sampleVerified "a" sampleId_ne_empty) none) :: List.replicate 11 (.step acceptingAnswers) ++
    .start .recoverPendingCancellations :: List.replicate 4 (.step acceptingAnswers)

/-- The directory of the sample payload. -/
def sampleRoot : Root :=
  some (attemptIdentity (sampleVerified "a" sampleId_ne_empty).intentId
    (sampleVerified "a" sampleId_ne_empty).requestSha256)

/-- What a recovery is about to return. -/
def recovering (process : ExecutorProcess) : Option (List FastLiveResult) :=
  match process.running with
  | some ⟨.recoverPendingCancellations, _, .ret (.recovered results)⟩ => some results
  | _ => none

theorem ends_of_recovering {process : ExecutorProcess} {results : List FastLiveResult}
    (h : recovering process = some results) (proposal : (op : Op) → op.Ans) :
    ∃ call, call.task = .recoverPendingCancellations ∧
      process.Ends (recoveryHost config) (.step proposal) call (.ok (.recovered results)) := by
  unfold recovering at h
  split at h
  · case h_1 trace found hrunning =>
    cases h
    refine ⟨⟨.recoverPendingCancellations, trace, .ret (.recovered results)⟩, rfl, ?_⟩
    simp only [Process.Ends, Process.exec, Process.step, hrunning]
  · cases h

end Run

end BpEngine.FastLive
