import BpEngine.Supervisor.Decision
import BpEngine.Library.Machine

/-!
# Runs of the submission supervisor

The loop of `main` in `ops/phase15_submission_supervisor/run.py`, with restarts.

* `Iteration` is what one turn of the loop meets: the two machines as they are and what becomes of each
  command; `Iteration.decided` is the decision and `carryOut` what is done about it.
* `SupervisorState` is what outlives a turn: the terminal record and the log of the turns.
* `notRearmed_run` is the fact about every run, `rearmed_over_marker` the run in which a watcher is
  started over an attempt of an earlier candidate.
-/

namespace BpEngine.Supervisor

/-- What becomes of the terminal record: a failing write may have replaced it. -/
inductive RecordWrite where
  | written
  | failed (done : Bool) (message : String)
deriving DecidableEq

/-- What one turn of the loop meets. -/
structure Iteration where
  approverReady : Outcome Bool
  recorder : Outcome Dict
  executor : ExecutorState
  executorRead : Outcome Unit
  observedAt : Timestamp
  syncRepo : Outcome Unit
  reconcile : Outcome Unit
  syncAgain : Outcome Unit
  startWatcher : Outcome Unit
  recordWrite : RecordWrite

/-- What a turn does. -/
inductive Effect where
  | reconcile (intentId : String)
  | startWatcher
  | terminal (status reason : String)
deriving DecidableEq

/-- How a turn ends. -/
inductive Next where
  | again
  | exit
deriving DecidableEq

/-! ## One turn -/

/-- The prepared candidate of the recorder, with its intent. -/
def candidateIntent (recorder : Dict) : String :=
  match (recorder.get "prepared").mapping with
  | some prepared => (prepared.get "intent_id").textOrEmpty
  | none => ""

/-- The executor is looked at for the intent of a prepared candidate only. -/
def Iteration.fetchExecutor (it : Iteration) (recorder : Dict) : Outcome (Option Dict) :=
  if candidateIntent recorder = "" then .ok none
  else do
    it.executorRead
    .ok (some (executorSnapshot it.executor (candidateIntent recorder)))

/-- The decision of a turn, with the recorder it is about. -/
def Iteration.decided (P : Platform) (it : Iteration) : Outcome (Dict × Decision) := do
  let recorder ← it.recorder
  let executor ← it.fetchExecutor recorder
  .ok (recorder, ← decide P recorder executor it.observedAt)

/-- `_terminal`, and the end of the process. -/
def Iteration.finish (it : Iteration) (status reason : String) : List Effect × Outcome Next :=
  match it.recordWrite with
  | .written => ([.terminal status reason], .ok .exit)
  | .failed done message =>
    (if done then [.terminal status reason] else [], raise .osError message)

/-- `sync_repo` and `_start_watcher`. -/
def Iteration.start (it : Iteration) (synced : Outcome Unit) : List Effect × Outcome Next :=
  match synced with
  | .error raised => ([], .error raised)
  | .ok () => ([.startWatcher], it.startWatcher.map fun _ => .again)

/-- What is done about a decision. -/
def carryOut (it : Iteration) (recorder : Dict) (decision : Decision) :
    List Effect × Outcome Next :=
  match decision.action with
  | .wait => ([], .ok .again)
  | .success => it.finish "real_submission_succeeded" decision.reason
  | .halt => it.finish "halted_fail_closed" decision.reason
  | .start => it.start it.syncRepo
  | .reconcileRestart =>
    let intentId := candidateIntent recorder
    if intentId = "" then ([], raise .supervisorError "reconcile decision without intent")
    else
      match it.syncRepo with
      | .error raised => ([], .error raised)
      | .ok () =>
        match it.reconcile with
        | .error raised => ([.reconcile intentId], .error raised)
        | .ok () =>
          let (effects, next) := it.start it.syncAgain
          (.reconcile intentId :: effects, next)

/-- The exceptions the loop survives. -/
def isTransient (raised : Raised) : Bool :=
  raised.cls = .osError || raised.cls = .fileExistsError || raised.cls = .timeoutError ||
    raised.cls = .supervisorError || raised.cls = .jsonDecodeError

/-- A turn that was logged. -/
structure Turn where
  iteration : Iteration
  decision : Option (Dict × Decision)
  effects : List Effect

/-- One turn of the loop: what is logged of it and how it ends. -/
def turn (P : Platform) (it : Iteration) : Turn × Outcome Next :=
  match it.approverReady with
  | .error raised => (⟨it, none, []⟩, .error raised)
  | .ok false => (⟨it, none, []⟩, .ok .again)
  | .ok true =>
    match it.decided P with
    | .error raised => (⟨it, none, []⟩, .error raised)
    | .ok (recorder, decision) =>
      let (effects, next) := carryOut it recorder decision
      (⟨it, some (recorder, decision), effects⟩, next)

/-! ## The run -/

/-- What outlives a turn. -/
structure SupervisorState where
  running : Bool := false
  terminal : Option (String × String) := none
  turns : List Turn := []

/-- What happens to the supervisor: a process is started, takes a turn, or is killed. -/
inductive Event where
  | launch (syncRepo : Outcome Unit)
  | turn (iteration : Iteration)
  | kill

/-- The terminal record after some effects. -/
def terminalAfter (terminal : Option (String × String)) (effects : List Effect) :
    Option (String × String) :=
  effects.foldl (fun record effect =>
    match effect with
    | .terminal status reason => some (status, reason)
    | _ => record) terminal

/-- The process goes on: after a turn that ends so, or with an exception the loop survives. -/
def goesOn : Outcome Next → Bool
  | .ok next => next = .again
  | .error raised => isTransient raised

/-- One event.  A process that finds a terminal record, or another process, exits. -/
def SupervisorState.exec (P : Platform) (supervisor : SupervisorState) : Event → SupervisorState
  | .launch syncRepo =>
    if supervisor.terminal.isNone && !supervisor.running && syncRepo.isOk then
      { supervisor with running := true }
    else supervisor
  | .turn iteration =>
    if supervisor.running then
      let (turn, next) := turn P iteration
      { running := goesOn next
        terminal := terminalAfter supervisor.terminal turn.effects
        turns := supervisor.turns ++ [turn] }
    else supervisor
  | .kill => { supervisor with running := false }

/-- The supervisor after some events. -/
def supervisorAfter (P : Platform) (events : List Event) : SupervisorState :=
  Machine.run (SupervisorState.exec P) {} events

/-! ## What a turn may do -/

/-- The executor holds no readable attempt marker, and no result and no failure of the candidate. -/
structure Untouched (state : ExecutorState) (intentId : String) : Prop where
  marker : state.marker.load.mapping = none
  result : intentId ≠ "" → state.results.filterMap (receiptOf intentId) = []
  failure : intentId ≠ "" → state.failures.filterMap (receiptOf intentId) = []

/-- The marker belongs to the intent, and so does a result that reports an accepted submission. -/
structure Submitted (state : ExecutorState) (intentId : String) : Prop where
  marker : ∃ marker, state.marker.load.mapping = some marker ∧
    (marker.get "intent_id").textOrEmpty = intentId
  result : ∃ file ∈ state.results, ∃ result, receiptOf intentId file = some result ∧
    reportsSubmission result = true

/-- The turn starts or restarts the watcher, or decides to. -/
def Turn.rearms (turn : Turn) : Prop :=
  .startWatcher ∈ turn.effects ∨
    ∃ recorder decision, turn.decision = some (recorder, decision) ∧
      (decision.action = .start ∨ decision.action = .reconcileRestart)

/-- The turn records success, or decides to. -/
def Turn.succeeds (turn : Turn) : Prop :=
  (∃ reason, .terminal "real_submission_succeeded" reason ∈ turn.effects) ∨
    ∃ recorder decision, turn.decision = some (recorder, decision) ∧ decision.action = .success

/-- **What a turn may do**: start a watcher over an untouched executor, and record success after a
submission of the prepared intent. -/
structure Turn.Safe (turn : Turn) : Prop where
  rearms : turn.rearms → ∃ recorder, turn.iteration.recorder = .ok recorder ∧
    Untouched turn.iteration.executor (candidateIntent recorder)
  succeeds : turn.succeeds → ∃ recorder, turn.iteration.recorder = .ok recorder ∧
    candidateIntent recorder ≠ "" ∧
    Submitted turn.iteration.executor (candidateIntent recorder)

/-- The recorder leads to a start without a look at the executor. -/
def startsBlind (recorder : Dict) : Prop :=
  (recorder.get "prepared").mapping = none ∧ serviceActive recorder = false ∧
    statusName recorder ∉ ["failed", "failed_after_intent_persisted", "already_complete"]

instance (recorder : Dict) : Decidable (startsBlind recorder) := by
  unfold startsBlind; infer_instance

/-- A start of the watcher finds no readable marker, and the remote script can tell the receipts of a
candidate without a marker. -/
def Iteration.Clear (it : Iteration) : Prop :=
  ∀ recorder, it.recorder = .ok recorder →
    (startsBlind recorder → it.executor.marker.load.mapping = none) ∧
      (remoteIntent (candidateIntent recorder) = none → it.executor.marker.load.mapping = none →
        it.executor.results.filterMap (receiptOf (candidateIntent recorder)) = [] ∧
          it.executor.failures.filterMap (receiptOf (candidateIntent recorder)) = [])

/-! ### What the snapshot shows -/

section Snapshot

variable {payload : Option Dict} {shown : Dict} {intentId : String} {files : List JsonFile}

theorem slim_eq_none (h : (slim payload).mapping = none) : payload = none := by
  cases payload with
  | none => rfl
  | some payload => cases h

theorem slim_eq_some (h : (slim payload).mapping = some shown) :
    ∃ whole, payload = some whole ∧ shown = slimFields.map fun name => (name, whole.get name) := by
  cases payload with
  | none => cases h
  | some whole => exact ⟨whole, rfl, (Option.some.inj h).symm⟩

/-- The intent of a receipt is kept. -/
theorem get_intent_slim (whole : Dict) :
    Dict.get (slimFields.map fun name => (name, whole.get name)) "intent_id" =
      whole.get "intent_id" := rfl

/-- What a receipt says of the submission is kept. -/
theorem reportsSubmission_slim (whole : Dict) :
    reportsSubmission (slimFields.map fun name => (name, whole.get name)) =
      reportsSubmission whole := rfl

/-- The remote script compares with the intent itself. -/
theorem remoteIntent_eq {intent : String} (h : remoteIntent intentId = some intent) :
    intent = intentId := by
  unfold remoteIntent at h
  split_ifs at h
  exact (Option.some.inj h).symm

theorem lastReceipt_eq_none (h : lastReceipt intentId files = none)
    (hremote : remoteIntent intentId ≠ none) : files.filterMap (receiptOf intentId) = [] := by
  obtain ⟨intent, hintent⟩ := Option.ne_none_iff_exists'.mp hremote
  simp only [lastReceipt, hintent, List.getLast?_eq_none_iff] at h
  rwa [remoteIntent_eq hintent] at h

theorem lastReceipt_eq_some {receipt : Dict} (h : lastReceipt intentId files = some receipt) :
    ∃ file ∈ files, receiptOf intentId file = some receipt := by
  unfold lastReceipt at h
  split at h
  · next intent hintent =>
    rw [remoteIntent_eq hintent] at h
    exact List.mem_filterMap.mp (List.mem_of_getLast? h)
  · cases h

end Snapshot

/-! ### The step -/

section Turn

variable {P : Platform} {it : Iteration} {recorder : Dict} {decision : Decision}

theorem decided_spec (h : it.decided P = .ok (recorder, decision)) :
    it.recorder = .ok recorder ∧ ∃ executor, it.fetchExecutor recorder = .ok executor ∧
      decide P recorder executor it.observedAt = .ok decision := by
  obtain ⟨recorder', hrecorder, h⟩ := bind_eq_ok.mp h
  obtain ⟨executor, hexecutor, h⟩ := bind_eq_ok.mp h
  obtain ⟨decision', hdecision, h⟩ := bind_eq_ok.mp h
  cases h
  exact ⟨hrecorder, executor, hexecutor, hdecision⟩

/-- The snapshot is that of the executor, for the intent of the candidate. -/
theorem fetchExecutor_eq_some {snapshot : Dict}
    (h : it.fetchExecutor recorder = .ok (some snapshot)) :
    candidateIntent recorder ≠ "" ∧
      snapshot = executorSnapshot it.executor (candidateIntent recorder) := by
  unfold Iteration.fetchExecutor at h
  split at h
  · cases h
  · next hintent =>
    obtain ⟨-, -, h⟩ := bind_eq_ok.mp h
    cases h
    exact ⟨hintent, rfl⟩

theorem finish_effects (status reason : String) {effect : Effect}
    (h : effect ∈ (it.finish status reason).1) : effect = .terminal status reason := by
  unfold Iteration.finish at h
  split at h
  · simpa using h
  · split_ifs at h
    · simpa using h
    · cases h

theorem start_effects (synced : Outcome Unit) {effect : Effect}
    (h : effect ∈ (it.start synced).1) : effect = .startWatcher := by
  unfold Iteration.start at h
  split at h
  · cases h
  · simpa using h

/-- **What is done about a decision**: only a start and a restart start the watcher, and only success
is recorded as such. -/
theorem carryOut_effects {effect : Effect} (h : effect ∈ (carryOut it recorder decision).1) :
    (effect = .startWatcher → decision.action = .start ∨ decision.action = .reconcileRestart) ∧
      ∀ reason, effect = .terminal "real_submission_succeeded" reason →
        decision.action = .success := by
  unfold carryOut at h
  cases haction : decision.action with
  | wait =>
    rw [haction] at h
    cases h
  | success =>
    rw [haction] at h
    have heffect := finish_effects _ _ h
    subst heffect
    exact ⟨fun hstart => (by cases hstart), fun _ _ => rfl⟩
  | halt =>
    rw [haction] at h
    have heffect := finish_effects _ _ h
    subst heffect
    refine ⟨fun hstart => (by cases hstart), fun reason hreason => ?_⟩
    exact absurd (Effect.terminal.inj hreason).1 (by decide)
  | start => exact ⟨fun _ => .inl rfl, fun reason hreason => by
      rw [haction] at h
      have heffect := start_effects _ h
      rw [hreason] at heffect
      cases heffect⟩
  | reconcileRestart =>
    refine ⟨fun _ => .inr rfl, fun reason hreason => ?_⟩
    rw [haction, hreason] at h
    simp only at h
    split at h
    · cases h
    split at h
    · cases h
    split at h
    · simp at h
    · rcases List.mem_cons.mp h with hfirst | hrest
      · cases hfirst
      · have heffect := start_effects _ hrest
        cases heffect

/-- A start without a candidate comes from a recorder that leads to one. -/
theorem startsBlind_of_start (hprepared : (recorder.get "prepared").mapping = none)
    (h : (decideWithout recorder).action = .start) : startsBlind recorder := by
  unfold decideWithout at h
  simp only at h
  split_ifs at h with hrunning hfailed hcomplete hactive
  refine ⟨hprepared, hactive, ?_⟩
  simp only [List.mem_cons, List.not_mem_nil, or_false, not_or]
  exact ⟨(not_or.mp hfailed).1, (not_or.mp hfailed).2, hcomplete⟩

theorem candidateIntent_of_none (h : (recorder.get "prepared").mapping = none) :
    candidateIntent recorder = "" := by
  unfold candidateIntent
  rw [h]

/-- **A decision to start a watcher** finds the executor untouched, unless it does not look. -/
theorem untouched_of_decided (hclear : it.Clear) (h : it.decided P = .ok (recorder, decision))
    (haction : decision.action = .start ∨ decision.action = .reconcileRestart) :
    Untouched it.executor (candidateIntent recorder) := by
  obtain ⟨hrecorder, executor, hexecutor, hdecided⟩ := decided_spec h
  obtain ⟨hblind, hremote⟩ := hclear recorder hrecorder
  rcases haction with hstart | hreconcile
  · obtain ⟨hprepared, hwithout⟩ := decide_start hdecided hstart
    have hnone := candidateIntent_of_none hprepared
    exact {
      marker := hblind (startsBlind_of_start hprepared hwithout)
      result := fun hintent => absurd hnone hintent
      failure := fun hintent => absurd hnone hintent }
  · obtain ⟨prepared, snapshot, -, rfl, hmarker, hresult, hfailure⟩ :=
      decide_reconcile hdecided hreconcile
    obtain ⟨-, rfl⟩ := fetchExecutor_eq_some hexecutor
    have hunmarked : it.executor.marker.load.mapping = none := slim_eq_none hmarker
    by_cases hreadable : remoteIntent (candidateIntent recorder) = none
    · obtain ⟨hresults, hfailures⟩ := hremote hreadable hunmarked
      exact ⟨hunmarked, fun _ => hresults, fun _ => hfailures⟩
    · exact {
        marker := hunmarked
        result := fun _ => lastReceipt_eq_none (slim_eq_none hresult) hreadable
        failure := fun _ => lastReceipt_eq_none (slim_eq_none hfailure) hreadable }

/-- **A decision for success** has seen a submission of the prepared intent. -/
theorem submitted_of_decided (h : it.decided P = .ok (recorder, decision))
    (haction : decision.action = .success) :
    candidateIntent recorder ≠ "" ∧ Submitted it.executor (candidateIntent recorder) := by
  obtain ⟨-, executor, hexecutor, hdecided⟩ := decided_spec h
  obtain ⟨prepared, snapshot, marker, result, hprepared, rfl, hmarker, hmarkerIntent, hresult, -,
    hreports⟩ := decide_success hdecided haction
  obtain ⟨hintent, rfl⟩ := fetchExecutor_eq_some hexecutor
  have hcandidate : candidateIntent recorder = (prepared.get "intent_id").textOrEmpty := by
    unfold candidateIntent
    rw [hprepared]
  obtain ⟨wholeMarker, hwholeMarker, rfl⟩ := slim_eq_some hmarker
  obtain ⟨wholeResult, hwholeResult, rfl⟩ := slim_eq_some hresult
  obtain ⟨file, hfile, hreceipt⟩ := lastReceipt_eq_some hwholeResult
  rw [get_intent_slim, ← hcandidate] at hmarkerIntent
  rw [reportsSubmission_slim] at hreports
  exact ⟨hintent, ⟨wholeMarker, hwholeMarker, hmarkerIntent⟩,
    ⟨file, hfile, wholeResult, hreceipt, hreports⟩⟩

/-- **The step**: a turn that is clear is safe. -/
theorem turn_safe (hclear : it.Clear) : (turn P it).1.Safe := by
  have hidle : (⟨it, none, []⟩ : Turn).Safe := by
    constructor
    · rintro (heffect | ⟨_, _, hdecision, _⟩)
      · exact absurd heffect List.not_mem_nil
      · cases hdecision
    · rintro (⟨_, heffect⟩ | ⟨_, _, hdecision, _⟩)
      · exact absurd heffect List.not_mem_nil
      · cases hdecision
  unfold turn
  split
  · exact hidle
  · exact hidle
  · split
    · exact hidle
    · next recorder decision hdecided =>
      have hrecorder := (decided_spec hdecided).1
      constructor
      · intro hrearms
        have haction : decision.action = .start ∨ decision.action = .reconcileRestart := by
          rcases hrearms with heffect | ⟨_, _, hdecision, haction⟩
          · exact (carryOut_effects heffect).1 rfl
          · cases hdecision
            exact haction
        exact ⟨recorder, hrecorder, untouched_of_decided hclear hdecided haction⟩
      · intro hsucceeds
        have haction : decision.action = .success := by
          rcases hsucceeds with ⟨reason, heffect⟩ | ⟨_, _, hdecision, haction⟩
          · exact (carryOut_effects heffect).2 reason rfl
          · cases hdecision
            exact haction
        exact ⟨recorder, hrecorder, submitted_of_decided hdecided haction⟩

end Turn

/-! ### The run -/

/-- The turns of the event are clear. -/
def Event.Clear : Event → Prop
  | .turn iteration => iteration.Clear
  | _ => True

/-- **The supervisor does not rearm after an attempt**: in a run whose turns are all clear, a watcher
is only started over an untouched executor, and success only recorded after a submission of the
prepared intent. -/
theorem notRearmed_run (P : Platform) (events : List Event) (hclear : ∀ event ∈ events, event.Clear) :
    ∀ turn ∈ (supervisorAfter P events).turns, turn.Safe := by
  refine Machine.run_invariant (SupervisorState.exec P)
    (J := fun supervisor => ∀ turn ∈ supervisor.turns, turn.Safe)
    (P := fun _ event => event.Clear) ?_ (by simp) (Machine.along_of_forall _ hclear _)
  intro supervisor event hsafe hevent
  cases event with
  | kill => exact hsafe
  | launch syncRepo =>
    simp only [SupervisorState.exec]
    split_ifs
    · exact hsafe
    · exact hsafe
  | turn iteration =>
    simp only [SupervisorState.exec]
    split_ifs
    · intro turn hturn
      rcases List.mem_append.mp hturn with hold | hnew
      · exact hsafe turn hold
      · rw [List.mem_singleton.mp hnew]
        exact turn_safe hevent
    · exact hsafe

/-- A machine in UTC whose candidates are all of five dollars. -/
def samplePlatform : Platform := ⟨fun _ => 0, fun _ => .ok false⟩

/-- A turn in which nothing fails. -/
def sampleIteration (recorder : Dict) (executor : ExecutorState) : Iteration where
  approverReady := .ok true
  recorder := .ok recorder
  executor
  executorRead := .ok ()
  observedAt := Timestamp.ofSeconds 1000
  syncRepo := .ok ()
  reconcile := .ok ()
  syncAgain := .ok ()
  startWatcher := .ok ()
  recordWrite := .written

/-- A recorder whose watcher has stopped without a candidate. -/
def stoppedRecorder : Dict :=
  [("service_active", .bool false), ("status", .obj [("status", .str "expired")]),
    ("prepared", .null)]

/-- A recorder with a candidate whose market has ended. -/
def expiredRecorder : Dict :=
  [("service_active", .bool false), ("prepared", .obj [("action", .str "submit"),
    ("intent_id", .str "live-intent-b"), ("market_end_at", .str "1970-01-01T00:01:00+00:00")])]

/-- An executor that is idle and was never used. -/
def idleExecutor : ExecutorState where
  marker := .absent
  results := []
  failures := []
  health := some (.obj [("status", .str "ok"), ("kill_switch_engaged", .bool true),
    ("activation_valid", .bool false), ("submission_ready", .bool false),
    ("live_order_submitted", .bool false),
    ("account", .obj [("open_order_count", .int 0), ("clean_for_canary", .bool true)])])

/-- An executor with the marker of another attempt. -/
def attemptedExecutor : ExecutorState :=
  { idleExecutor with marker := .holds (.obj [("intent_id", .str "live-intent-a")]) }

/-- A candidate is replaced in a clear turn. -/
theorem notRearmed_sample :
    (turn samplePlatform (sampleIteration expiredRecorder idleExecutor)).1.effects =
        [.reconcile "live-intent-b", .startWatcher] ∧
      ∀ turn ∈ (supervisorAfter samplePlatform
        [.launch (.ok ()), .turn (sampleIteration expiredRecorder idleExecutor)]).turns,
        turn.Safe := by
  refine ⟨by decide +kernel, notRearmed_run _ _ fun event hevent => ?_⟩
  simp only [List.mem_cons, List.not_mem_nil, or_false] at hevent
  rcases hevent with rfl | rfl
  · trivial
  · intro recorder _
    exact ⟨fun _ => rfl, fun _ _ => ⟨rfl, rfl⟩⟩

/-- **A watcher is started over an attempt**: without a candidate the executor is not looked at. -/
theorem rearmed_over_marker :
    ¬ ∀ (P : Platform) (events : List Event), ∀ turn ∈ (supervisorAfter P events).turns,
      turn.Safe := by
  intro hall
  let iteration := sampleIteration stoppedRecorder attemptedExecutor
  have hsafe : (turn samplePlatform iteration).1.Safe :=
    hall samplePlatform [.launch (.ok ()), .turn iteration] _ (List.mem_singleton.mpr rfl)
  have hstarts : Effect.startWatcher ∈ (turn samplePlatform iteration).1.effects := by
    decide +kernel
  obtain ⟨recorder, -, huntouched⟩ := hsafe.rearms (.inl hstarts)
  have hiteration : (turn samplePlatform iteration).1.iteration = iteration := by rfl
  have hmarker := huntouched.marker
  rw [hiteration] at hmarker
  cases hmarker

end BpEngine.Supervisor
